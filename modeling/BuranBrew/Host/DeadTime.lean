import BuranBrew.Host.Runs
import Mathlib.Tactic.Linarith

/-! # Reverse dead time

The bookkeeping behind the lockout of `plan` stamps what a tick does with the
clock reading that the tick was given. By these stamps, two opposite plugs are
kept apart as long as no decision meets a plug that it does not know to be ON.
-/

namespace BuranBrew.Host

open Execution TimeProportionalActuator

def TurnsOn (initial : Int → Bool) (node : Int) (event : Event) (earlier : List Event) :
    Prop :=
  plugsAfter initial earlier node = false ∧
    plugsAfter initial (event :: earlier) node = true

def TurnsOff (initial : Int → Bool) (node : Int) (event : Event)
    (earlier : List Event) : Prop :=
  plugsAfter initial earlier node = true ∧
    plugsAfter initial (event :: earlier) node = false

instance (initial : Int → Bool) (node : Int) (event : Event) (earlier : List Event) :
    Decidable (TurnsOn initial node event earlier) :=
  inferInstanceAs (Decidable (_ ∧ _))

instance (initial : Int → Bool) (node : Int) (event : Event) (earlier : List Event) :
    Decidable (TurnsOff initial node event earlier) :=
  inferInstanceAs (Decidable (_ ∧ _))

/-- The last event at which a plug went OFF, with the log before it. -/
def lastOff (initial : Int → Bool) (node : Int) :
    List Event → Option (Event × List Event)
  | [] => none
  | event :: earlier =>
      if TurnsOff initial node event earlier then some (event, earlier)
      else lastOff initial node earlier

def plugsAt (initial : Int → Bool) (log : List Event) (instant : ℚ) : Int → Bool :=
  plugsAfter initial (log.dropWhile fun event => decide (instant < event.time))

theorem plugsAt_of_lastOff {initial : Int → Bool} {node : Int} {log : List Event}
    {instant : ℚ} (off : plugsAfter initial log node = false)
    (wentOff : ∀ event earlier,
      lastOff initial node log = some (event, earlier) → event.time ≤ instant) :
    plugsAt initial log instant node = false := by
  induction log with
  | nil => exact off
  | cons event earlier induction =>
      unfold plugsAt
      rw [List.dropWhile_cons]
      split_ifs with later
      · simp only [lastOff] at wentOff
        have notOff : ¬TurnsOff initial node event earlier := by
          intro turnsOff
          rw [if_pos turnsOff] at wentOff
          exact absurd (wentOff event earlier rfl) (by simpa using later)
        rw [if_neg notOff] at wentOff
        refine induction ?_ wentOff
        rw [← Bool.not_eq_true]
        exact fun on => notOff ⟨on, off⟩
      · exact off

section Lockout

variable [Rounding]

/-- `reverse_idle_s` lie between the two times, as `plan` computes it. -/
def Config.Apart (config : Config) (since now : ℚ) : Prop :=
  config.control.reverseIdleS ≤ fl (now - since)

theorem Config.Apart.widen {config : Config} {since now earlier later : ℚ}
    (apart : config.Apart since now) (before : earlier ≤ since) (after : now ≤ later) :
    config.Apart earlier later :=
  le_trans apart (fl_mono (by linarith))

/-- Whenever a plug goes ON, the opposite one is OFF and has been OFF for
`reverse_idle_s`, by the stamps of the events. -/
def GapKept (config : Config) (stamp : Event → List Event → ℚ) (initial : Int → Bool)
    (log : List Event) : Prop :=
  ∀ event earlier (direction : Direction), event :: earlier <:+ log →
    TurnsOn initial (config.node direction) event earlier →
    plugsAfter initial earlier (config.node direction.opposite) = false ∧
      ∀ off before,
        lastOff initial (config.node direction.opposite) earlier = some (off, before) →
        config.Apart (stamp off before) (stamp event earlier)

theorem GapKept.cons {config : Config} {stamp : Event → List Event → ℚ}
    {initial : Int → Bool} {log : List Event} {event : Event}
    (kept : GapKept config stamp initial log)
    (new : ∀ direction, TurnsOn initial (config.node direction) event log →
      plugsAfter initial log (config.node direction.opposite) = false ∧
        ∀ off before,
          lastOff initial (config.node direction.opposite) log = some (off, before) →
          config.Apart (stamp off before) (stamp event log)) :
    GapKept config stamp initial (event :: log) := by
  intro other earlier direction among turnsOn
  rw [List.suffix_cons_iff] at among
  rcases among with same | among
  · cases same
    exact new direction turnsOn
  · exact kept other earlier direction among turnsOn

end Lockout

/-! ## Histories -/

namespace World

/-- The plugs of the later world are those of the earlier one after the events
in between. -/
structure Follows (base world : World) : Prop where
  log : base.log <:+ world.log
  initialPlugs : world.initialPlugs = base.initialPlugs

theorem Follows.refl (world : World) : world.Follows world :=
  ⟨List.suffix_refl _, rfl⟩

theorem Follows.eventsSince_cons {base world next : World} {event : Event}
    (follows : base.Follows world) (log : next.log = event :: world.log) :
    base.eventsSince next = event :: base.eventsSince world := by
  rcases follows.log with ⟨added, same⟩
  rw [eventsSince_eq same.symm]
  exact eventsSince_eq (by rw [log, ← same]; rfl)

theorem Follows.cons {base world next : World} {event : Event}
    (follows : base.Follows world) (log : next.log = event :: world.log)
    (initialPlugs : next.initialPlugs = world.initialPlugs) : base.Follows next :=
  ⟨log ▸ follows.log.trans (List.suffix_cons _ _),
    initialPlugs.trans follows.initialPlugs⟩

theorem Follows.commanded {environment : Environment} {base world next : World}
    (follows : base.Follows world) (commanded : world.Commanded environment next) :
    base.Follows next :=
  ⟨follows.log.trans commanded.log_suffix,
    commanded.initialPlugs.trans follows.initialPlugs⟩

theorem Follows.plugs {base world : World} (follows : base.Follows world) :
    plugsAfter base.plugs (base.eventsSince world) = world.plugs := by
  rcases follows with ⟨⟨added, same⟩, initialPlugs⟩
  rw [eventsSince_eq same.symm, World.plugs, World.plugs, ← same, initialPlugs]
  clear same
  induction added with
  | nil => rfl
  | cons event added induction => simp only [List.cons_append, plugsAfter, induction]

end World

section Stamps

variable {config : Config} {environment : Environment}
  (stamp : Event → List Event → ℚ)

/-- If the plug went OFF since the base, it last did so at such a time. -/
def OffWhen (base world : World) (node : Int) (fits : ℚ → Prop) : Prop :=
  ∀ off before, lastOff base.plugs node (base.eventsSince world) = some (off, before) →
    fits (stamp off before)

variable {stamp}

theorem OffWhen.imp {base world : World} {node : Int} {fits suits : ℚ → Prop}
    (off : OffWhen stamp base world node fits) (implies : ∀ instant, fits instant → suits instant) :
    OffWhen stamp base world node suits :=
  fun event before went => implies _ (off event before went)

theorem OffWhen.past {base world : World} {node : Int} {bound later : ℚ}
    (off : OffWhen stamp base world node (· ≤ bound)) (le : bound ≤ later) :
    OffWhen stamp base world node (· ≤ later) :=
  off.imp fun _ earlier => earlier.trans le

theorem OffWhen.cons {base world next : World} {node : Int} {fits : ℚ → Prop} {event : Event}
    (off : OffWhen stamp base world node fits) (follows : base.Follows world)
    (log : next.log = event :: world.log)
    (new : TurnsOff base.plugs node event (base.eventsSince world) →
      fits (stamp event (base.eventsSince world))) :
    OffWhen stamp base next node fits := by
  intro last before went
  rw [follows.eventsSince_cons log, lastOff] at went
  split_ifs at went with turnsOff
  · cases went
    exact new turnsOff
  · exact off last before went

namespace Rested

variable {base world next : World}

structure SameLockout (world next : World) : Prop where
  action : next.actuator.action = world.actuator.action
  lastActiveDirection :
    next.actuator.lastActiveDirection = world.actuator.lastActiveDirection
  idleSince : next.actuator.idleSince = world.actuator.idleSince

theorem unchanged {event : Event} (follows : base.Follows world)
    (log : next.log = event :: world.log)
    (initialPlugs : next.initialPlugs = world.initialPlugs)
    (plugs : next.plugs = world.plugs) (node : Int) :
    ¬TurnsOn base.plugs node event (base.eventsSince world) ∧
      ¬TurnsOff base.plugs node event (base.eventsSince world) := by
  rw [TurnsOn, TurnsOff, ← follows.eventsSince_cons log,
    (follows.cons log initialPlugs).plugs, follows.plugs, plugs]
  cases world.plugs node <;> simp

theorem offWhen_of_unchanged {event : Event} {node : Int} {fits : ℚ → Prop}
    (follows : base.Follows world) (off : OffWhen stamp base world node fits)
    (log : next.log = event :: world.log)
    (initialPlugs : next.initialPlugs = world.initialPlugs)
    (plugs : next.plugs = world.plugs) : OffWhen stamp base next node fits :=
  off.cons follows log fun turnsOff =>
    absurd turnsOff (unchanged follows log initialPlugs plugs node).2

theorem plugs_sent (follows : base.Follows world) (environment : Environment)
    (target : Int) (on : Bool) :
    plugsAfter base.plugs (world.commandEvent environment target on ::
      base.eventsSince world) = (world.sent environment target on).plugs := by
  have log := World.sent_log environment world target on
  rw [← follows.eventsSince_cons log]
  exact (follows.cons log rfl).plugs

theorem target_of_changed (environment : Environment) {node target : Int} {on : Bool}
    (changed : (world.sent environment target on).plugs node ≠ world.plugs node) :
    target = node ∧ (world.sent environment target on).plugs node = on := by
  by_cases same : node = target
  · subst same
    rw [World.sent_plugs] at changed ⊢
    split at changed
    · exact ⟨rfl, by simp_all⟩
    · exact absurd rfl changed
  · exact absurd (World.sent_plugs_other environment same) changed

theorem turnsOff_sent (follows : base.Follows world) {node target : Int} {on : Bool}
    (turnsOff : TurnsOff base.plugs node (world.commandEvent environment target on)
      (base.eventsSince world)) : target = node ∧ on = false := by
  rw [TurnsOff, plugs_sent follows, follows.plugs] at turnsOff
  rcases target_of_changed environment (by rw [turnsOff.1, turnsOff.2]; decide) with ⟨same, off⟩
  exact ⟨same, off.symm.trans turnsOff.2⟩

theorem turnsOn_sent (follows : base.Follows world) {node target : Int} {on : Bool}
    (turnsOn : TurnsOn base.plugs node (world.commandEvent environment target on)
      (base.eventsSince world)) : target = node ∧ on = true := by
  rw [TurnsOn, plugs_sent follows, follows.plugs] at turnsOn
  rcases target_of_changed environment (by rw [turnsOn.1, turnsOn.2]; decide) with ⟨same, on⟩
  exact ⟨same, on.symm.trans turnsOn.2⟩

theorem sent_now_le (world : World) (environment : Environment) (node : Int) (on : Bool) :
    world.now ≤ (world.sent environment node on).now := by
  have := (world.reply environment node on).duration_nonneg
  rw [World.sent_now]
  linarith

theorem sent_plugs_of_off {node : Int} (off : world.plugs node = false) :
    (world.sent environment node false).plugs = world.plugs := by
  rw [World.sent_plugs]
  split
  · exact Function.update_eq_self_iff.mpr off.symm
  · rfl

end Rested

def lastClock : List Event → Option ℚ
  | [] => none
  | ⟨_, .clock reading⟩ :: _ => some reading
  | _ :: earlier => lastClock earlier

/-- Everything that happened between two worlds has the stamp `reading`. -/
def PromptSince (stamp : Event → List Event → ℚ) (reading : ℚ)
    (base world next : World) : Prop :=
  ∀ event earlier, event :: earlier <:+ base.eventsSince next →
    base.eventsSince world <:+ earlier →
    lastClock earlier = lastClock (base.eventsSince world) →
    stamp event earlier = reading

theorem PromptSince.restrict {reading : ℚ} {base world start after next : World}
    (prompt : PromptSince stamp reading base world next)
    (first : base.eventsSince world <:+ base.eventsSince start)
    (clock : lastClock (base.eventsSince start) = lastClock (base.eventsSince world))
    (last : base.eventsSince after <:+ base.eventsSince next) :
    PromptSince stamp reading base start after :=
  fun event earlier among since same =>
    prompt event earlier (among.trans last) (first.trans since) (same.trans clock)

variable [Rounding]

theorem OffWhen.apart {base world : World} {node : Int} {now later : ℚ}
    (off : OffWhen stamp base world node (config.Apart · now)) (le : now ≤ later) :
    OffWhen stamp base world node (config.Apart · later) :=
  off.imp fun _ apart => apart.widen le_rfl le

/-- The attributes agree with the stamps at which the plugs went OFF. -/
structure Rested (config : Config) (stamp : Event → List Event → ℚ)
    (base world : World) : Prop where
  follows : base.Follows world
  gap : GapKept config stamp base.plugs (base.eventsSince world)
  past : ∀ direction, OffWhen stamp base world (config.node direction) (· ≤ world.now)
  idle : world.actuator.action = .idle → ∀ direction : Direction,
    world.plugs (config.node direction) = false →
      if world.actuator.lastActiveDirection = some direction.action then
        ∃ since, world.actuator.idleSince = some since ∧
          OffWhen stamp base world (config.node direction) (· ≤ since)
      else
        OffWhen stamp base world (config.node direction) (config.Apart · world.now)
  active : ∀ direction : Direction, world.actuator.action = direction.action →
    world.plugs (config.node direction.opposite) = false ∧
      OffWhen stamp base world (config.node direction.opposite) (config.Apart · world.now)

namespace Rested

variable {base world next : World}

theorem beginning (idle : world.actuator.action = .idle)
    (never : world.actuator.lastActiveDirection = none) :
    Rested config stamp world world := by
  have nothing : world.eventsSince world = [] := by simp [World.eventsSince]
  have offWhen (node : Int) (fits : ℚ → Prop) : OffWhen stamp world world node fits := by
    intro last before went
    rw [nothing] at went
    cases went
  refine ⟨.refl _, ?_, fun _ => offWhen _ _, fun _ direction _ => ?_,
    fun direction active => absurd (active.symm.trans idle) direction.action_ne_idle⟩
  · intro event earlier direction among
    rw [nothing] at among
    simp at among
  · rw [if_neg (by simp [never])]
    exact offWhen _ _

theorem carry (rested : Rested config stamp base world) (follows : base.Follows next)
    (gap : GapKept config stamp base.plugs (base.eventsSince next))
    (plugs : next.plugs = world.plugs)
    (offWhen : ∀ node fits, OffWhen stamp base world node fits →
      OffWhen stamp base next node fits)
    (lockout : SameLockout world next) (now : world.now ≤ next.now) :
    Rested config stamp base next := by
  refine ⟨follows, gap,
    fun direction => (offWhen _ _ (rested.past direction)).past now, ?_, ?_⟩
  · intro idle direction off
    have before := rested.idle (lockout.action ▸ idle) direction (plugs ▸ off)
    rw [lockout.lastActiveDirection, lockout.idleSince]
    split_ifs at before ⊢
    · rcases before with ⟨since, known, bounded⟩
      exact ⟨since, known, offWhen _ _ bounded⟩
    · exact (offWhen _ _ before).apart now
  · intro direction active
    rcases rested.active direction (lockout.action ▸ active) with ⟨off, bounded⟩
    exact ⟨plugs ▸ off, (offWhen _ _ bounded).apart now⟩

theorem later (rested : Rested config stamp base world) (log : next.log = world.log)
    (initialPlugs : next.initialPlugs = world.initialPlugs)
    (lockout : SameLockout world next) (now : world.now ≤ next.now) :
    Rested config stamp base next := by
  have since : base.eventsSince next = base.eventsSince world := by
    rw [World.eventsSince, World.eventsSince, log]
  refine rested.carry ⟨log ▸ rested.follows.log,
    initialPlugs.trans rested.follows.initialPlugs⟩ (since ▸ rested.gap)
    (by rw [World.plugs, World.plugs, log, initialPlugs]) ?_ lockout now
  intro node fits off
  rw [OffWhen, since]
  exact off

theorem gap_of_unchanged {event : Event} (rested : Rested config stamp base world)
    (log : next.log = event :: world.log)
    (initialPlugs : next.initialPlugs = world.initialPlugs)
    (plugs : next.plugs = world.plugs) :
    GapKept config stamp base.plugs (base.eventsSince next) := by
  rw [rested.follows.eventsSince_cons log]
  exact rested.gap.cons fun direction turnsOn =>
    absurd turnsOn (unchanged rested.follows log initialPlugs plugs _).1

theorem unaffected {event : Event} (rested : Rested config stamp base world)
    (log : next.log = event :: world.log)
    (initialPlugs : next.initialPlugs = world.initialPlugs)
    (plugs : next.plugs = world.plugs) (lockout : SameLockout world next)
    (now : world.now ≤ next.now) : Rested config stamp base next :=
  rested.carry (rested.follows.cons log initialPlugs)
    (rested.gap_of_unchanged log initialPlugs plugs) plugs
    (fun _ _ off => offWhen_of_unchanged rested.follows off log initialPlugs plugs)
    lockout now

/-! ## Commands -/

theorem sentOff_of_off (rested : Rested config stamp base world) {node : Int}
    (off : world.plugs node = false) :
    Rested config stamp base (world.sent environment node false) :=
  rested.unaffected (World.sent_log environment world node false) rfl
    (sent_plugs_of_off off) ⟨rfl, rfl, rfl⟩ (sent_now_le _ _ _ _)

theorem sentOff_active (rested : Rested config stamp base world)
    (distinct : config.nodePlugHeat ≠ config.nodePlugCool) {direction : Direction}
    (active : world.actuator.action = direction.action)
    (stamped : stamp (world.commandEvent environment (config.node direction) false)
      (base.eventsSince world) ≤ world.now) :
    Rested config stamp base (world.sent environment (config.node direction) false) := by
  have log := World.sent_log environment world (config.node direction) false
  have nowLe := sent_now_le world environment (config.node direction) false
  have different := Config.node_ne_opposite distinct direction
  refine ⟨rested.follows.cons log rfl, ?_, ?_, ?_, ?_⟩
  · rw [rested.follows.eventsSince_cons log]
    refine rested.gap.cons fun other turnsOn => ?_
    cases (turnsOn_sent rested.follows turnsOn).2
  · intro other
    exact ((rested.past other).past nowLe).cons rested.follows log
      fun _ => stamped.trans nowLe
  · exact fun idle => absurd (active.symm.trans idle) direction.action_ne_idle
  · intro other otherActive
    cases Direction.action_injective (active.symm.trans otherActive)
    rcases rested.active direction active with ⟨off, bounded⟩
    refine ⟨?_, (bounded.apart nowLe).cons rested.follows log fun turnsOff => ?_⟩
    · rw [World.sent_plugs_other environment different.symm]
      exact off
    · exact absurd (turnsOff_sent rested.follows turnsOff).1 different

/-- ON while the action is IDLE and the opposite plug has been OFF for long
enough. -/
theorem sentOn (rested : Rested config stamp base world)
    (distinct : config.nodePlugHeat ≠ config.nodePlugCool) {direction : Direction}
    (idle : world.actuator.action = .idle)
    (opposite : world.plugs (config.node direction.opposite) = false) {reading : ℚ}
    (bounded : OffWhen stamp base world (config.node direction.opposite)
      (config.Apart · reading))
    (stamped : stamp (world.commandEvent environment (config.node direction) true)
      (base.eventsSince world) = reading) :
    Rested config stamp base (world.sent environment (config.node direction) true) := by
  have log := World.sent_log environment world (config.node direction) true
  have nowLe := sent_now_le world environment (config.node direction) true
  have offWhen {node : Int} {fits : ℚ → Prop} (off : OffWhen stamp base world node fits) :
      OffWhen stamp base (world.sent environment (config.node direction) true) node fits := by
    refine off.cons rested.follows log fun turnsOff => ?_
    cases (turnsOff_sent rested.follows turnsOff).2
  refine ⟨rested.follows.cons log rfl, ?_,
    fun other => offWhen ((rested.past other).past nowLe), ?_, ?_⟩
  · rw [rested.follows.eventsSince_cons log]
    refine rested.gap.cons fun other turnsOn => ?_
    have same : other = direction := by
      by_contra differs
      have opposed : other = direction.opposite := by
        cases other <;> cases direction <;> simp_all [Direction.opposite]
      rw [opposed] at turnsOn
      exact Config.node_ne_opposite distinct direction
        (turnsOn_sent rested.follows turnsOn).1
    subst same
    rw [rested.follows.plugs]
    refine ⟨opposite, fun off before went => ?_⟩
    rw [stamped]
    exact bounded off before went
  · intro _ other off
    have wasOff : world.plugs (config.node other) = false := by
      by_contra on
      rw [Bool.not_eq_false] at on
      rcases target_of_changed environment (by rw [off, on]; decide) with ⟨_, asked⟩
      rw [off] at asked
      cases asked
    have before := rested.idle idle other wasOff
    rw [World.sent_actuator]
    split_ifs at before ⊢
    · rcases before with ⟨since, known, bounded⟩
      exact ⟨since, known, offWhen bounded⟩
    · exact (offWhen before).apart nowLe
  · exact fun other active => absurd (active.symm.trans idle) other.action_ne_idle

/-! ## Changes of the action -/

theorem settled_idle (rested : Rested config stamp base world) {direction : Direction}
    (active : world.actuator.action = direction.action) {reading : ℚ}
    (bounded : OffWhen stamp base world (config.node direction) (· ≤ reading)) (points : Nat) :
    Rested config stamp base (world.settled .idle reading points) := by
  have lockout : (world.actuator.settled .idle reading).lastActiveDirection =
      some direction.action ∧
      (world.actuator.settled .idle reading).idleSince = some reading := by
    simp [Actuator.settled, active, direction.action_ne_idle.symm]
  have offWhen {node : Int} {fits : ℚ → Prop} (off : OffWhen stamp base world node fits) :
      OffWhen stamp base (world.settled .idle reading points) node fits :=
    offWhen_of_unchanged rested.follows off rfl rfl rfl
  refine ⟨rested.follows.cons rfl rfl, rested.gap_of_unchanged rfl rfl rfl,
    fun other => offWhen (rested.past other), ?_,
    fun other otherActive => absurd otherActive.symm other.action_ne_idle⟩
  intro _ other _
  rw [World.settled, lockout.1, lockout.2]
  by_cases same : other = direction
  · subst same
    rw [if_pos rfl]
    exact ⟨reading, rfl, offWhen bounded⟩
  · have opposed : other = direction.opposite := by
      cases other <;> cases direction <;> simp_all [Direction.opposite]
    rw [if_neg fun equal => same (Direction.action_injective (Option.some.inj equal)).symm,
      opposed]
    exact offWhen (rested.active direction active).2

theorem settled_direction (rested : Rested config stamp base world) {direction : Direction}
    (opposite : world.plugs (config.node direction.opposite) = false)
    (bounded : OffWhen stamp base world (config.node direction.opposite)
      (config.Apart · world.now)) (reading : ℚ) (points : Nat) :
    Rested config stamp base (world.settled direction.action reading points) := by
  have offWhen {node : Int} {fits : ℚ → Prop} (off : OffWhen stamp base world node fits) :
      OffWhen stamp base (world.settled direction.action reading points) node fits :=
    offWhen_of_unchanged rested.follows off rfl rfl rfl
  refine ⟨rested.follows.cons rfl rfl, rested.gap_of_unchanged rfl rfl rfl,
    fun other => offWhen (rested.past other),
    fun idle => absurd idle direction.action_ne_idle, ?_⟩
  intro other active
  cases Direction.action_injective active
  exact ⟨opposite, offWhen bounded⟩

/-! ## Switches -/

theorem switch_idle (rested : Rested config stamp base world) (tame : environment.Tame)
    (distinct : config.nodePlugHeat ≠ config.nodePlugCool)
    {direction : Direction} (active : world.actuator.action = direction.action)
    {success : Bool}
    (switching : (switch config environment .idle).run world = .ok success next)
    (prompt : PromptSince stamp world.now base world next) :
    Rested config stamp base next ∧
      OffWhen stamp base next (config.node direction) (· ≤ world.now) := by
  rw [switch_idle_run tame, EStateM.Result.ok.injEq] at switching
  rcases switching with ⟨-, rfl⟩
  set heatOff := world.sent environment config.nodePlugHeat false
  have firstLog := World.sent_log environment world config.nodePlugHeat false
  have secondLog := World.sent_log environment heatOff config.nodePlugCool false
  have follows : base.Follows heatOff := rested.follows.cons firstLog rfl
  have firstSince := rested.follows.eventsSince_cons firstLog
  have secondSince := follows.eventsSince_cons secondLog
  have first := prompt _ _ (by rw [secondSince, firstSince]; exact List.suffix_cons _ _)
    (List.suffix_refl _) rfl
  have second := prompt _ _ (by rw [secondSince])
    (by rw [firstSince]; exact List.suffix_cons _ _) (by rw [firstSince]; rfl)
  constructor
  · cases direction with
    | heat =>
        have sent : Rested config stamp base heatOff :=
          rested.sentOff_active distinct active first.le
        apply sent.sentOff_of_off
        rw [World.sent_plugs_other environment distinct.symm]
        exact (rested.active .heat active).1
    | cool =>
        have sent : Rested config stamp base heatOff :=
          rested.sentOff_of_off (rested.active .cool active).1
        have stamped : stamp (heatOff.commandEvent environment (config.node .cool) false)
            (base.eventsSince heatOff) ≤ heatOff.now :=
          second.le.trans (sent_now_le _ _ _ _)
        exact sent.sentOff_active distinct active stamped
  · exact ((rested.past direction).cons rested.follows firstLog fun _ => first.le).cons
      follows secondLog fun _ => second.le

/-- What the lockout test of `plan` guarantees about the opposite plug. -/
theorem unlocked (rested : Rested config stamp base world) {direction : Direction}
    (idle : world.actuator.action = .idle)
    (opposite : world.plugs (config.node direction.opposite) = false)
    (requests : world.actuator.Requests config.control world.now direction) :
    OffWhen stamp base world (config.node direction.opposite)
      (config.Apart · world.now) := by
  have before := rested.idle idle direction.opposite opposite
  split_ifs at before with last
  · rcases before with ⟨since, known, bounded⟩
    have different : direction.action ≠ direction.opposite.action := by
      cases direction <;> decide
    have waited := requests.unlocked _ since last known different
    exact bounded.imp fun _ earlier => Config.Apart.widen waited earlier le_rfl
  · exact before

theorem switch_direction (rested : Rested config stamp base world) (tame : environment.Tame)
    (distinct : config.nodePlugHeat ≠ config.nodePlugCool) {direction : Direction}
    (idle : world.actuator.action = .idle)
    (opposite : world.plugs (config.node direction.opposite) = false)
    (bounded : OffWhen stamp base world (config.node direction.opposite)
      (config.Apart · world.now))
    {success : Bool}
    (switching : (switch config environment direction.action).run world =
      .ok success next)
    (prompt : PromptSince stamp world.now base world next) :
    Rested config stamp base next ∧
      next.plugs (config.node direction.opposite) = false ∧
      OffWhen stamp base next (config.node direction.opposite)
        (config.Apart · next.now) := by
  rw [switch_action_run tame distinct] at switching
  have different := Config.node_ne_opposite distinct direction
  set opposed := world.sent environment (config.node direction.opposite) false
  have firstLog := World.sent_log environment world (config.node direction.opposite) false
  have follows : base.Follows opposed := rested.follows.cons firstLog rfl
  have firstSince := rested.follows.eventsSince_cons firstLog
  have nowLe : world.now ≤ opposed.now := sent_now_le _ _ _ _
  have plugs : opposed.plugs = world.plugs := sent_plugs_of_off opposite
  have sent : Rested config stamp base opposed := rested.sentOff_of_off opposite
  have boundedOpposed := offWhen_of_unchanged rested.follows bounded firstLog rfl plugs
  split at switching
  · rw [EStateM.Result.ok.injEq] at switching
    rcases switching with ⟨-, same⟩
    have secondLog := World.sent_log environment opposed (config.node direction) true
    have secondSince := follows.eventsSince_cons secondLog
    have last := prompt _ _ (by rw [← same, secondSince])
      (by rw [firstSince]; exact List.suffix_cons _ _) (by rw [firstSince]; rfl)
    have stillOff : opposed.plugs (config.node direction.opposite) = false := by
      rw [plugs]
      exact opposite
    have nowLe' := sent_now_le opposed environment (config.node direction) true
    rw [← same]
    refine ⟨sent.sentOn distinct idle stillOff boundedOpposed last, ?_, ?_⟩
    · rw [World.sent_plugs_other environment different.symm]
      exact stillOff
    · refine (boundedOpposed.apart (nowLe.trans nowLe')).cons follows secondLog fun turnsOff => ?_
      cases (turnsOff_sent follows turnsOff).2
  · rw [EStateM.Result.ok.injEq] at switching
    rcases switching with ⟨-, same⟩
    rw [← same]
    exact ⟨sent, by rw [plugs]; exact opposite, boundedOpposed.apart nowLe⟩

theorem decided (rested : Rested config stamp base world) (decided : ActuatorPlan) :
    Rested config stamp base
      ((world.logged .ticked).planned config world.now decided) := by
  have ticked : Rested config stamp base (world.logged .ticked) :=
    rested.unaffected rfl rfl rfl ⟨rfl, rfl, rfl⟩ le_rfl
  exact ticked.unaffected rfl rfl rfl ⟨by simp, by simp [World.planned],
    by simp [World.planned]⟩ le_rfl

theorem switched (rested : Rested config stamp base world) (tame : environment.Tame)
    (distinct : config.nodePlugHeat ≠ config.nodePlugCool) {decided : ActuatorPlan}
    (plans : config.Plans world.now world.actuator decided)
    (different : decided.requestedAction ≠ world.actuator.action)
    (free : world.actuator.action = .idle → ∀ direction : Direction,
      decided.requestedAction = direction.action →
      world.plugs (config.node direction.opposite) = false)
    {success : Bool} {after : World}
    (switching : (switch config environment decided.requestedAction).run
      ((world.logged .ticked).planned config world.now decided) = .ok success after)
    (prompt : PromptSince stamp world.now base
      ((world.logged .ticked).planned config world.now decided) after) :
    Rested config stamp base after ∧ ∀ points, Rested config stamp base
      (after.settled decided.requestedAction world.now points) := by
  have started := rested.decided decided
  have kept : after.actuator.action = world.actuator.action := by
    rw [(switch_commanded tame switching).actuator, World.planned_action,
      World.logged_actuator]
  rcases decided.requestedAction.idle_or_direction with idle | ⟨direction, known⟩
  · rw [idle] at switching different
    rcases world.actuator.action.idle_or_direction with wasIdle | ⟨direction, active⟩
    · exact absurd wasIdle.symm different
    · have switched := started.switch_idle tame distinct (by simpa using active) switching
        prompt
      rw [idle]
      exact ⟨switched.1, switched.1.settled_idle (kept.trans active) switched.2⟩
  · rw [known] at switching
    have wasIdle := plans.wasIdle known different
    have opposite := free wasIdle direction known
    have bounded := started.unlocked (by simpa using wasIdle) opposite (plans.requests known)
    have switched := started.switch_direction tame distinct (by simpa using wasIdle)
      opposite bounded switching prompt
    rw [known]
    exact ⟨switched.1, switched.1.settled_direction switched.2.1 switched.2.2 _⟩

/-- Decisions keep the lockout, whatever becomes of their commands. -/
theorem tick (rested : Rested config stamp base world) (tame : environment.Tame)
    (distinct : config.nodePlugHeat ≠ config.nodePlugCool)
    (free : world.actuator.action = .idle → ∀ decided (direction : Direction),
      config.Plans world.now world.actuator decided →
      decided.requestedAction = direction.action →
      world.plugs (config.node direction.opposite) = false)
    (prompt : PromptSince stamp world.now base world
      (finalState ((tick config environment world.now).run world))) :
    Rested config stamp base (finalState ((tick config environment world.now).run world)) := by
  have result := tick_result config tame world.now world
  generalize (TimeProportionalActuator.tick config environment world.now).run world =
    outcome at result prompt ⊢
  have since (decided : ActuatorPlan) : base.eventsSince
      ((world.logged .ticked).planned config world.now decided) =
        ⟨world.now, .planned decided⟩ :: ⟨world.now, .ticked⟩ :: base.eventsSince world := by
    have follows : base.Follows (world.logged .ticked) := rested.follows.cons rfl rfl
    rw [follows.eventsSince_cons rfl, rested.follows.eventsSince_cons rfl]
    rfl
  have promptFrom (decided : ActuatorPlan) {after next : World}
      (last : base.eventsSince after <:+ base.eventsSince next)
      (prompt : PromptSince stamp world.now base world next) :
      PromptSince stamp world.now base
        ((world.logged .ticked).planned config world.now decided) after := by
    refine prompt.restrict ?_ ?_ last
    · rw [since]
      exact (List.suffix_cons _ _).trans (List.suffix_cons _ _)
    · rw [since]
      rfl
  cases result with
  | unchanged decided => exact rested.decided decided
  | refused decided after plans different switching =>
      have prompted := promptFrom decided (List.suffix_refl _) prompt
      have unopposed := fun idle direction => free idle decided direction plans
      exact (rested.switched tame distinct plans different unopposed switching prompted).1
  | switched decided after points plans different switching =>
      have follows := (rested.decided decided).follows.commanded
        (switch_commanded tame switching)
      have last : base.eventsSince (after.settled decided.requestedAction world.now points)
          = _ :: base.eventsSince after := follows.eventsSince_cons rfl
      have prompted := promptFrom decided (last ▸ List.suffix_cons _ _) prompt
      have unopposed := fun idle direction => free idle decided direction plans
      exact (rested.switched tame distinct plans different unopposed switching prompted).2
        points

theorem forceIdle (rested : Rested config stamp base world) (tame : environment.Tame)
    (distinct : config.nodePlugHeat ≠ config.nodePlugCool)
    (reason : Reason)
    (prompt : PromptSince stamp world.now base world
      (finalState ((forceIdle config environment world.now reason).run world))) :
    Rested config stamp base
      (finalState ((forceIdle config environment world.now reason).run world)) := by
  have result := forceIdle_result config tame world.now reason world
  generalize (TimeProportionalActuator.forceIdle config environment world.now reason).run
    world = outcome at result prompt ⊢
  cases result with
  | unchanged => exact rested
  | refused after idle switching =>
      rcases world.actuator.action.idle_or_direction with wasIdle | ⟨direction, active⟩
      · exact absurd wasIdle idle
      · exact (rested.switch_idle tame distinct active switching prompt).1
  | switched after points _ idle switching =>
      have commanded := switch_commanded tame switching
      have last : base.eventsSince (after.settled .idle world.now points)
          = _ :: base.eventsSince after :=
        (rested.follows.commanded commanded).eventsSince_cons rfl
      have prompted : PromptSince stamp world.now base world after :=
        prompt.restrict (List.suffix_refl _) rfl (last ▸ List.suffix_cons _ _)
      rcases world.actuator.action.idle_or_direction with wasIdle | ⟨direction, active⟩
      · exact absurd wasIdle idle
      · have switched := rested.switch_idle tame distinct active switching prompted
        have kept : after.actuator.action = direction.action := by
          rw [commanded.actuator, active]
        exact switched.1.settled_idle kept switched.2 points

theorem setEffort (rested : Rested config stamp base world) (quiet : environment.Quiet)
    (effort now : ℚ) :
    Rested config stamp base
      (finalState ((setEffort config environment effort now).run world)) := by
  rcases setEffort_run config quiet effort now world with ⟨points, ran⟩
  rw [ran]
  exact rested.unaffected rfl rfl rfl ⟨rfl, rfl, rfl⟩ le_rfl

theorem plan (rested : Rested config stamp base world) (quiet : environment.Quiet)
    (now : ℚ) :
    Rested config stamp base (finalState ((plan config environment now).run world)) := by
  rcases world.actuator.plan_advanceWindow config.control now with ⟨decided, plans⟩
  rw [plan_run quiet world plans]
  exact rested.unaffected rfl rfl rfl
    ⟨by simp, by simp [World.planned], by simp [World.planned]⟩ le_rfl

end Rested

end Stamps

end BuranBrew.Host
