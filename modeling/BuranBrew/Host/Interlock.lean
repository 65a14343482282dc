import BuranBrew.Host.Runs

/-! # Heater and cooler are never ON together

The attributes of the actuator can disagree with the plugs after a failed
switch, so the invariant speaks about the plugs alone: `_switch` issues an ON
command only after the OFF command to the other plug has succeeded.
-/

namespace BuranBrew.Host

open Execution TimeProportionalActuator

/-- The plugs are not both ON now and were not after any event of the past. -/
def Exclusive (config : Config) (world : World) : Prop :=
  ¬BothOn config world.plugs ∧
    ∀ event earlier, event :: earlier <:+ world.log →
      ¬BothOn config (plugsAfter world.initialPlugs (event :: earlier))

theorem Exclusive.extend {config : Config} {world next : World} {event : Event}
    (exclusive : Exclusive config world)
    (plugs : next.initialPlugs = world.initialPlugs)
    (log : next.log = event :: world.log) (separate : ¬BothOn config next.plugs) :
    Exclusive config next := by
  refine ⟨separate, fun other earlier among => ?_⟩
  rw [log, List.suffix_cons_iff] at among
  rw [plugs]
  rcases among with same | among
  · rw [same, ← log, ← plugs]
    exact separate
  · exact exclusive.2 other earlier among

theorem Exclusive.logged {config : Config} {world : World}
    (exclusive : Exclusive config world) (time : ℚ) (kind : EventKind)
    (unrelated : ∀ node on outcome, kind ≠ .setPlug node on outcome) :
    Exclusive config { world with log := ⟨time, kind⟩ :: world.log } := by
  refine exclusive.extend rfl rfl ?_
  have same : plugsAfter world.initialPlugs (⟨time, kind⟩ :: world.log) =
      world.plugs := by
    cases kind <;> first | rfl | exact absurd rfl (unrelated _ _ _)
  rw [World.plugs, same]
  exact exclusive.1

theorem exclusive_rules {config : Config} (environment : Environment)
    (distinct : config.nodePlugHeat ≠ config.nodePlugCool) :
    ActuatorInvariant config environment (Exclusive config) where
  pointFree _ exclusive := exclusive
  moved _ _ exclusive := exclusive
  assigned _ _ _ exclusive := exclusive
  remembered _ _ _ exclusive := exclusive
  logged world time kind neutral exclusive :=
    exclusive.logged time kind (by rintro _ _ _ rfl; simp [EventKind.isNeutral] at neutral)
  idled world exclusive _ := exclusive.logged _ _ (by simp)
  activated world direction exclusive _ _ := exclusive.logged _ _ (by simp)
  sendsOff world node exclusive := by
    refine exclusive.extend rfl rfl fun both => exclusive.1 ?_
    exact ⟨World.plugs_of_sent_off environment both.1,
      World.plugs_of_sent_off environment both.2⟩
  sendsOn world direction exclusive _ otherOff := by
    refine exclusive.extend rfl rfl fun both => ?_
    have different := Config.node_ne_opposite distinct direction
    have off : world.plugs (config.node direction.opposite) = false :=
      otherOff _ (by cases direction <;> simp [Config.node, Direction.opposite])
        different.symm
    have on : (world.sent environment (config.node direction) true).plugs
        (config.node direction.opposite) = true := by
      cases direction
      · exact both.2
      · exact both.1
    rw [World.sent_plugs_other environment different.symm, off] at on
    exact Bool.noConfusion on

/-- A successful `initialize` has turned both plugs OFF, one after the other. -/
theorem exclusive_of_initialized {config : Config} {environment : Environment}
    (tame : environment.Tame) {start : ℚ} {initialPlugs : Int → Bool} {ready : World}
    (initialized : InitializedAt config environment start initialPlugs ready) :
    Exclusive config ready := by
  rcases initialized with ⟨transition, run⟩
  rw [initializeActuator_run tame] at run
  split at run
  · rename_i success
    cases run
    set world := World.fresh start initialPlugs
    set heatOff := world.sent environment config.nodePlugHeat false
    have first : ¬BothOn config heatOff.plugs := by
      rw [World.sent_plugs_of_succeeds environment success.1]
      simp [BothOn]
    have second : ¬BothOn config
        (heatOff.sent environment config.nodePlugCool false).plugs := by
      rw [World.sent_plugs_of_succeeds environment success.2]
      simp [BothOn]
    refine ⟨second, fun event earlier among => ?_⟩
    change event :: earlier <:+ [_, _] at among
    rw [List.suffix_cons_iff, List.suffix_cons_iff] at among
    rcases among with same | same | none
    · rw [same]
      exact second
    · rw [same]
      exact first
    · simp at none
  · cases run

theorem heat_and_cool_never_both_on [Rounding] {config : Config} {environment : Environment}
    (tame : environment.Tame) (distinct : config.nodePlugHeat ≠ config.nodePlugCool)
    {start : ℚ} {initialPlugs : Int → Bool} {ready : World}
    (initialized : InitializedAt config environment start initialPlugs ready)
    (calls : List ActuatorCall) :
    Exclusive config (runCalls config environment ready calls) :=
  runCalls_invariant (exclusive_rules environment distinct).performed
    (exclusive_of_initialized tame initialized) calls

section

open Binary64

/-- Heating is requested, then cooling, starting with both plugs ON. -/
theorem heat_and_cool_never_both_on_reversal :
    Exclusive Config.shipped (runCalls Config.shipped .obedient
      (readyAt Config.shipped .obedient 0 fun _ => true)
      [.setEffort 1 0, .tick 0, .setEffort (-1) 60, .tick 60, .tick 70]) := by
  have initialized : InitializedAt Config.shipped .obedient 0 (fun _ => true)
      (readyAt Config.shipped .obedient 0 fun _ => true) := ⟨_, rfl⟩
  exact heat_and_cool_never_both_on Environment.obedient_tame (by decide) initialized _

end

end BuranBrew.Host
