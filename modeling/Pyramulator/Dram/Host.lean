import Pyramulator.Sim.Barrier
import Pyramulator.Dram.Lockstep

namespace Pyramulator

/-! A program on the components that does not count the events. -/

/-- What the program does when it has control. It schedules, sends requests, lets the
simulator run up to a horizon or until it is idle, and waits for a component. -/
inductive HostAct (ℓ γ η : Type) where
  | call (op : DramOp ℓ γ η)
  | run (until_ : Option Int)
  | flush (target : ℓ) (maxEvents : Int)
  | return_
  | raise (error : PyError)

/-- What the program is shown of a run: not the ticks, and neither the numbers nor the
counts of the events. -/
inductive Sight (ℓ γ η : Type) where
  | fired (time priority : Int) (callback : DramCode ℓ γ η) (now : Int)
  | returned (time priority : Int) (callback : DramCode ℓ γ η)
  | called (op : DramOp ℓ γ η) (result : Except PyError DramValue)
  | stepped (result : Bool)
  | ran
  | waited
  | overran
  | raised (error : PyError)

abbrev Host (ℓ γ η : Type) := List (Sight ℓ γ η) → HostAct ℓ γ η

variable {ℓ γ η : Type} [DecidableEq ℓ] [DecidableEq γ] {setups : ℓ → DramSetup γ}
  {policy policy' : TickPolicy}

def HostAct.decision (policy : TickPolicy) :
    HostAct ℓ γ η → Decision (dramSystem η setups policy)
  | .call op => .call op
  | .run until_ => .run until_ none
  | .flush target maxEvents => .wait target maxEvents
  | .return_ => .answer ()
  | .raise error => .raise error

def DramCode.isTick : DramCode ℓ γ η → Bool
  | .dram _ .tick => true
  | _ => false

def Entry.sight : Entry (dramSystem η setups policy) → Option (Sight ℓ γ η)
  | .fired event now =>
      if event.callback.isTick then none
      else some (.fired event.time event.priority event.callback now)
  | .returned event =>
      if event.callback.isTick then none
      else some (.returned event.time event.priority event.callback)
  | .called op result => some (.called op result)
  | .stepped result => some (.stepped result)
  | .ran _ => some .ran
  | .waited _ => some .waited
  | .overran => some .overran
  | .raised error => some (.raised error)

def Config.sights (config : Config (dramSystem η setups policy)) : List (Sight ℓ γ η) :=
  config.log.filterMap Entry.sight

namespace Host

def step (host : Host ℓ γ η) (config : Config (dramSystem η setups policy)) :
    Config (dramSystem η setups policy) :=
  config.advance ((host config.sights).decision policy)

def play (host : Host ℓ γ η) (setups : ℓ → DramSetup γ) (policy : TickPolicy)
    (steps : Nat) :
    Config (dramSystem η setups policy) :=
  host.step^[steps] (Config.init (DramWorld.create setups))

theorem play_reach (host : Host ℓ γ η) (steps : Nat) :
    Transition.Reach Config.advance (fun _ _ => True)
      (Config.init (DramWorld.create setups)) (host.play setups policy steps) := by
  induction steps with
  | zero => exact .refl
  | succ steps induction =>
      rw [play, Function.iterate_succ_apply']
      exact .next _ induction trivial

def scripted (acts : List (HostAct ℓ γ η)) : Host ℓ γ η := fun sights =>
  match sights.getLast? with
  | some (.fired _ _ _ _) => .return_
  | _ =>
      let done := sights.countP fun
        | .called _ _ | .ran => true
        | _ => false
      acts.getD done .return_

def ended (host : Host ℓ γ η) (config : Config (dramSystem η setups policy)) : Bool :=
  config.stack.isEmpty && match host config.sights with
    | .return_ => true
    | _ => false

theorem step_ended {host : Host ℓ γ η}
    {config : Config (dramSystem η setups policy)} (ended : host.ended config = true) :
    host.step config = config := by
  obtain ⟨top, returns⟩ := (Bool.and_eq_true _ _).mp ended
  rw [List.isEmpty_iff] at top
  unfold step
  generalize host config.sights = act at returns ⊢
  cases act with
  | return_ => simp only [HostAct.decision, Config.advance, top, Config.act]
  | _ => cases returns

theorem play_ended {host : Host ℓ γ η} {last : Nat}
    (ended : host.ended (host.play setups policy last) = true) {steps : Nat}
    (after : last ≤ steps) :
    host.play setups policy steps = host.play setups policy last := by
  obtain ⟨more, rfl⟩ := Nat.exists_eq_add_of_le' after
  induction more with
  | zero => rw [Nat.zero_add]
  | succ more induction =>
      have next : host.play setups policy (more + 1 + last) =
          host.step (host.play setups policy (more + last)) := by
        rw [play, Nat.add_right_comm, Function.iterate_succ_apply']
        rfl
      rw [next, induction (Nat.le_add_left last more), step_ended ended]

end Host

theorem Entry.Alike.sight {counts : Prop} {entry : Entry (dramSystem η setups policy)}
    {other : Entry (dramSystem η setups policy')}
    (alike : Entry.Alike counts entry other) :
    entry.sight = other.sight := by
  cases alike with
  | fired same now => simp only [Entry.sight, same.time, same.priority, same.callback]
  | returned same => simp only [Entry.sight, same.time, same.priority, same.callback]
  | called op result => rfl
  | stepped result => rfl
  | ran counted => rfl
  | waited counted => rfl
  | overran => rfl
  | raised error => rfl

theorem HostAct.under_decision (act : HostAct ℓ γ η) (policy policy' : TickPolicy) :
    (act.decision policy : Decision (dramSystem η setups policy)).under policy' =
      act.decision policy' := by
  cases act <;> rfl

theorem HostAct.unsliced (act : HostAct ℓ γ η) :
    (act.decision policy : Decision (dramSystem η setups policy)).Unsliced := by
  cases act <;> trivial

theorem HostAct.unstepped (act : HostAct ℓ γ η) :
    (act.decision policy : Decision (dramSystem η setups policy)) ≠ .step := by
  cases act <;> exact fun same => nomatch same

namespace Config

/-- Runs that have shown the same so far and go on from states that are alike. -/
def Matched (first : Config (dramSystem η setups policy))
    (second : Config (dramSystem η setups policy')) : Prop :=
  first.sights = second.sights ∧ ∃ ids, Alike False ids first second

theorem InStep.matched {ids : Nat → Nat → Prop}
    {first after : Config (dramSystem η setups policy)}
    {second other : Config (dramSystem η setups policy')}
    (inStep : InStep False ids first second after other)
    (same : first.sights = second.sights) : after.Matched other := by
  obtain ⟨later, news, others, -, log, otherLog, told, alike⟩ := inStep
  refine ⟨?_, later, alike⟩
  have shown : news.filterMap Entry.sight = others.filterMap Entry.sight := by
    clear log otherLog
    induction told with
    | nil => rfl
    | cons entry rest induction =>
        rw [List.filterMap_cons, List.filterMap_cons, entry.sight, induction]
  rw [sights, sights, log, otherLog, List.filterMap_append, List.filterMap_append, shown]
  exact congrArg (· ++ _) same

theorem overran_sights (config : Config (dramSystem η setups policy)) :
    .overran ∈ config.sights ↔ .overran ∈ config.log := by
  have only (entry : Entry (dramSystem η setups policy)) :
      entry.sight = some .overran ↔ entry = .overran := by
    cases entry with
    | fired event now =>
        simp only [Entry.sight]
        split <;> simp
    | returned event =>
        simp only [Entry.sight]
        split <;> simp
    | _ => simp [Entry.sight]
  simp only [sights, List.mem_filterMap, only, exists_eq_right]

theorem settle_tick (config : Config (dramSystem η setups policy))
    {event other : Event (DramCode ℓ γ η)} (tick : event.callback.isTick = true)
    (tickOther : other.callback.isTick = true)
    (stack : List (Frame (dramSystem η setups policy)))
    (result : Except PyError (Option Unit) × Simulator (DramCode ℓ γ η) ×
      DramWorld setups) :
    let after := config.settle event stack (DramWorld.settled result)
    let match_ := config.settle other stack (DramWorld.settled result)
    after.sights = match_.sights ∧ after.sim = match_.sim ∧ after.world = match_.world ∧
      after.stack = match_.stack := by
  rcases result with ⟨error | value, sim, world⟩
  · exact ⟨rfl, rfl, rfl, rfl⟩
  · simp only [DramWorld.settled, settle]
    rcases stack with _ | ⟨_ | _ | _ | _, rest⟩
    · simp [returnTo, record, sights, List.filterMap_append, Entry.sight, tick, tickOther]
    · simp [returnTo, record, sights, List.filterMap_append, Entry.sight, tick, tickOther]
    · simp [returnTo, record, sights, List.filterMap_append, Entry.sight, tick, tickOther]
    · simp [returnTo, record, sights, List.filterMap_append, Entry.sight, tick, tickOther]
    · simp only [returnTo, record]
      split
      · simp [propagate, sights, List.filterMap_append, Entry.sight, tick, tickOther]
      · simp [sights, List.filterMap_append, Entry.sight, tick, tickOther]

theorem Matched.congr {first other : Config (dramSystem η setups policy)}
    {second : Config (dramSystem η setups policy')} (matched : other.Matched second)
    (same : first.sights = other.sights ∧ first.sim = other.sim ∧
      first.world = other.world ∧
      first.stack = other.stack) : first.Matched second := by
  obtain ⟨shown, ids, alike⟩ := matched
  obtain ⟨sights, sim, world, stack⟩ := same
  refine ⟨sights.trans shown, ids, ?_, ?_, ?_, fun counting => counting.elim⟩
  · rw [sim]
    exact alike.sim
  · rw [world]
    exact alike.world
  · rw [stack]
    exact alike.stack

theorem Matched.init :
    (init (DramWorld.create setups) : Config (dramSystem η setups policy)).Matched
      (init (DramWorld.create setups) : Config (dramSystem η setups policy')) := by
  refine ⟨rfl, _, Simulator.Alike.refl Simulator.init_wellFormed,
    ⟨fun label => .none, .nil⟩, .nil, fun _ => rfl⟩

end Config

end Pyramulator
