import BuranBrew.Observer.Steps
import BuranBrew.Observer.Tilt

/-! # Samples

What `ad_parse_cb` stores and `observer_get_tilt` returns.
-/

namespace BuranBrew.Observer

open CCode Execution Transitions

/-! ## Storing -/

def btDataManufacturerData : UInt8 := 0xFF

structure BtData where
  type : UInt8
  data : Payload
  deriving DecidableEq, Repr

/-- What `ad_parse_cb` goes on to do with the element. The locals that it passes to the
decoder are not initialized. -/
def adParseCb (element : BtData) : C TiltOutputs (Option Action) := do
  if element.type = btDataManufacturerData then
    if ← tiltBlackDecode (some element.data.bytes) element.data.len then
      let locals ← get
      return some (.advert locals.tempCentiC.toInt locals.gravityX1000.toNat)
  return none

def Payload.advert (mfg : Payload) : Action :=
  .advert mfg.outputs.tempCentiC.toInt mfg.outputs.gravityX1000.toNat

theorem adParseCb_run (element : BtData) (locals : TiltOutputs) :
    valueOf ((adParseCb element).run locals) =
      some (if element.type = btDataManufacturerData ∧ element.data.IsTiltBlack then
        some element.data.advert else none) := by
  have run := element.data.tiltBlackDecode_run locals
  unfold adParseCb
  by_cases type : element.type = btDataManufacturerData
  · rw [if_pos type]
    by_cases frame : element.data.IsTiltBlack
    · rw [if_pos frame] at run
      rw [run_bind_of_ok run, if_pos (And.intro type frame)]
      rfl
    · have neither : ¬(element.type = btDataManufacturerData ∧ element.data.IsTiltBlack) :=
        fun both => frame both.2
      rw [if_neg frame] at run
      rw [run_bind_of_ok run, if_neg neither]
      rfl
  · have neither : ¬(element.type = btDataManufacturerData ∧ element.data.IsTiltBlack) :=
      fun both => type both.1
    rw [if_neg type, if_neg neither]
    rfl

def Parsed (_ : State) : Action → Prop
  | .advert tempCentiC gravityX1000 => ∃ element locals,
      valueOf ((adParseCb element).run locals) = some (some (.advert tempCentiC gravityX1000))
  | _ => True

variable {state later : State} {action : Action}

theorem Parsed.frame {tempCentiC : Int} {gravityX1000 : Nat}
    (parsed : Parsed state (.advert tempCentiC gravityX1000)) :
    ∃ mfg : Payload, mfg.IsTiltBlack ∧ tempCentiC = mfg.outputs.tempCentiC.toInt ∧
      gravityX1000 = mfg.outputs.gravityX1000.toNat := by
  rcases parsed with ⟨element, locals, parsed⟩
  rw [adParseCb_run] at parsed
  split at parsed
  · rename_i frame
    cases parsed
    exact ⟨element.data, frame.2, rfl, rfl⟩
  · cases parsed

/-! ## Reading -/

def sampleMaxAgeMs : Nat := 10 * 60 * 1000

/-- The objects that the arguments point to, or none where they are NULL. -/
structure Reading where
  tempCentiC : Option Int
  gravityX1000 : Option Nat
  deriving DecidableEq, Repr

/-- The local `fresh` of `observer_get_tilt`. -/
def State.fresh (state : State) : Bool :=
  state.tilt.valid && decide ((state.uptime : Int) - state.tilt.timestampMs ≤ sampleMaxAgeMs)

def observerGetTilt (state : State) (reading : Reading) : Bool × Reading :=
  if state.fresh then
    (true, {
      tempCentiC := reading.tempCentiC.map fun _ => state.tilt.tempCentiC
      gravityX1000 := reading.gravityX1000.map fun _ => state.tilt.gravityX1000 })
  else (false, reading)

theorem State.fresh_eq_true_iff :
    state.fresh = true ↔
      state.tilt.valid = true ∧ state.uptime ≤ state.tilt.timestampMs + sampleMaxAgeMs := by
  rw [State.fresh, Bool.and_eq_true, decide_eq_true_iff]
  apply and_congr_right
  intro valid
  omega

/-! ## Along a run -/

/-- The sample is of a frame, the last one that has been decoded. -/
structure State.Stored (state : State) : Prop where
  frame : state.tilt.valid = true → ∃ mfg : Payload, mfg.IsTiltBlack ∧
    state.tilt.tempCentiC = mfg.outputs.tempCentiC.toInt ∧
    state.tilt.gravityX1000 = mfg.outputs.gravityX1000.toNat
  clock : state.tilt.timestampMs ≤ state.uptime
  decoded : state.tilt.valid = true → .decoded state.tilt.timestampMs ∈ state.log
  last : ∀ decodedAt, .decoded decodedAt ∈ state.log →
    state.tilt.valid = true ∧ decodedAt ≤ state.tilt.timestampMs

structure SameSample (state later : State) : Prop where
  tilt : later.tilt = state.tilt
  uptime : state.uptime ≤ later.uptime
  decoded : ∀ decodedAt, .decoded decodedAt ∈ later.log ↔ .decoded decodedAt ∈ state.log

theorem sameSample_startStatement (code : Code) (state : State) (point : StartPoint) :
    SameSample state (startStatement code state point) := by
  constructor
  · cases point <;> simp only [startStatement] <;> (try split) <;> rfl
  · cases point <;> simp only [startStatement] <;> (try split) <;> exact le_rfl
  · intro decodedAt
    rw [startStatement_log]
    cases point <;> simp

theorem sameSample_stopStatement (code : Code) (origin : Origin) (state : State)
    (point : StopPoint) : SameSample state (stopStatement code origin state point) := by
  constructor
  · cases point <;> simp only [stopStatement] <;> (try split) <;> rfl
  · cases point <;> simp only [stopStatement] <;> (try split) <;> exact le_rfl
  · intro decodedAt
    rw [stopStatement_log]
    cases point with
    | callback captured =>
        simp only [List.mem_cons, reduceCtorEq, false_or]
        split <;> simp
    | _ => simp

theorem Step.sameSample (taken : Step state action later)
    (other : ∀ tempCentiC gravityX1000, action ≠ .advert tempCentiC gravityX1000) :
    SameSample state later := by
  cases taken with
  | take idle queued => exact ⟨rfl, le_rfl, fun _ => Iff.rfl⟩
  | start code running => exact sameSample_startStatement code state _
  | burstStop code running => exact sameSample_stopStatement code _ state _
  | observerEnable enable free => exact ⟨rfl, le_rfl, fun _ => by simp⟩
  | observerTrigger free => exact ⟨rfl, le_rfl, fun _ => Iff.rfl⟩
  | @matter point calling =>
      cases point <;> exact ⟨rfl, le_rfl, fun _ => Iff.rfl⟩
  | advert tempCentiC gravityX1000 free => exact absurd rfl (other tempCentiC gravityX1000)
  | rx pending => exact ⟨rfl, le_rfl, fun _ => Iff.rfl⟩
  | expire scheduled due => exact ⟨rfl, le_rfl, fun _ => Iff.rfl⟩
  | elapse ms => exact ⟨rfl, Nat.le_add_right _ _, fun _ => Iff.rfl⟩

theorem stored_step (stored : state.Stored) (parsed : Parsed state action)
    (taken : Step state action later) : later.Stored := by
  by_cases advert : ∃ tempCentiC gravityX1000, action = .advert tempCentiC gravityX1000
  · rcases advert with ⟨tempCentiC, gravityX1000, rfl⟩
    cases taken with
    | advert _ _ free =>
        constructor
        · exact fun _ => parsed.frame
        · exact le_rfl
        · exact fun _ => List.mem_cons_self
        · intro decodedAt decoded
          rcases List.mem_cons.mp decoded with now | earlier
          · cases now
            exact ⟨rfl, le_rfl⟩
          · exact ⟨rfl, (stored.last decodedAt earlier).2.trans stored.clock⟩
  · have same := taken.sameSample fun tempCentiC gravityX1000 equal =>
      advert ⟨tempCentiC, gravityX1000, equal⟩
    constructor
    · rw [same.tilt]
      exact stored.frame
    · rw [same.tilt]
      exact stored.clock.trans same.uptime
    · rw [same.tilt, same.decoded]
      exact stored.decoded
    · intro decodedAt decoded
      rw [same.tilt]
      exact stored.last decodedAt ((same.decoded decodedAt).mp decoded)

theorem reached_stored {sampleCb : Bool} (reached : Reaches step Parsed (initial sampleCb) state) :
    state.Stored := by
  apply reached.invariant
  · exact ⟨nofun, le_rfl, nofun, nofun⟩
  · intro state action later stored parsed taken
    exact stored_step stored parsed (Step.of_step taken)

/-- A sample is returned if and only if a frame has been decoded in the last ten minutes. -/
theorem observerGetTilt_eq_true_iff {sampleCb : Bool} (reading : Reading)
    (reached : Reaches step Parsed (initial sampleCb) state) :
    (observerGetTilt state reading).1 = true ↔
      ∃ decodedAt, .decoded decodedAt ∈ state.log ∧
        state.uptime ≤ decodedAt + sampleMaxAgeMs := by
  have stored := reached_stored reached
  have returned : (observerGetTilt state reading).1 = state.fresh := by
    unfold observerGetTilt
    cases state.fresh with
    | true => rfl
    | false => rfl
  rw [returned, State.fresh_eq_true_iff]
  constructor
  · intro fresh
    exact ⟨state.tilt.timestampMs, stored.decoded fresh.1, fresh.2⟩
  · intro heard
    rcases heard with ⟨decodedAt, decoded, recent⟩
    rcases stored.last decodedAt decoded with ⟨valid, later⟩
    exact ⟨valid, by omega⟩

theorem observerGetTilt_frame {sampleCb : Bool} {reading : Reading}
    (reached : Reaches step Parsed (initial sampleCb) state)
    (returned : (observerGetTilt state reading).1 = true) :
    ∃ mfg : Payload, mfg.IsTiltBlack ∧
      (observerGetTilt state reading).2 =
        ⟨reading.tempCentiC.map fun _ => mfg.outputs.tempCentiC.toInt,
          reading.gravityX1000.map fun _ => mfg.outputs.gravityX1000.toNat⟩ := by
  unfold observerGetTilt at returned ⊢
  split at returned
  · rename_i fresh
    have valid := (State.fresh_eq_true_iff.mp fresh).1
    rcases (reached_stored reached).frame valid with ⟨mfg, frame, temp, gravity⟩
    exact ⟨mfg, frame, by rw [if_pos fresh, temp, gravity]⟩
  · cases returned

end BuranBrew.Observer
