import Pyramulator.Sim.Rounds
import Pyramulator.Dram.Renumber

namespace Pyramulator

/-! Two runs of user code on components that are alike. They go on alike, and user
code is told the same; only the counts of the fired events may come to differ. -/

variable {ℓ γ η : Type} [DecidableEq ℓ] [DecidableEq γ] {setups : ℓ → DramSetup γ}
  {policy policy' : TickPolicy} {ids more : Nat → Nat → Prop} {counts : Prop}

def Decision.under (policy' : TickPolicy) :
    Decision (dramSystem η setups policy) → Decision (dramSystem η setups policy')
  | .call op => .call op
  | .step => .step
  | .run until_ maxEvents => .run until_ maxEvents
  | .wait target maxEvents => .wait target maxEvents
  | .answer value => .answer value
  | .raise error => .raise error

@[simp] theorem Decision.under_self (decision : Decision (dramSystem η setups policy)) :
    decision.under policy = decision := by
  cases decision <;> rfl

def Decision.Unsliced : Decision (dramSystem η setups policy) → Prop
  | .run _ maxEvents => maxEvents = none
  | _ => True

/-- Frames that differ in the numbers of the events, and in the counts if these are
not the same. -/
inductive Frame.Alike (counts : Prop) :
    Frame (dramSystem η setups policy) → Frame (dramSystem η setups policy') → Prop
  | callback {event other : Event (DramCode ℓ γ η)} (same : event.Same other)
      (code : DramCode ℓ γ η) : Alike counts (.callback event code) (.callback other code)
  | step : Alike counts .step .step
  | run (until_ maxEvents prevUntil : Option Int) {start begun : Nat}
      (counted : counts → start = begun) (unsliced : counts ∨ maxEvents = none) :
      Alike counts (.run until_ maxEvents start prevUntil)
        (.run until_ maxEvents begun prevUntil)
  | wait (target : ℓ) (maxEvents : Int) {processed fired : Int}
      (counted : counts → processed = fired) :
      Alike counts (.wait target processed maxEvents) (.wait target fired maxEvents)

inductive Entry.Alike (counts : Prop) :
    Entry (dramSystem η setups policy) → Entry (dramSystem η setups policy') → Prop
  | fired {event other : Event (DramCode ℓ γ η)} (same : event.Same other) (now : Int) :
      Alike counts (.fired event now) (.fired other now)
  | returned {event other : Event (DramCode ℓ γ η)} (same : event.Same other) :
      Alike counts (.returned event) (.returned other)
  | called (op : DramOp ℓ γ η) (result : Except PyError DramValue) :
      Alike counts (.called op result) (.called op result)
  | stepped (result : Bool) : Alike counts (.stepped result) (.stepped result)
  | ran {count number : Nat} (counted : counts → count = number) :
      Alike counts (.ran count) (.ran number)
  | waited {count number : Int} (counted : counts → count = number) :
      Alike counts (.waited count) (.waited number)
  | overran : Alike counts .overran .overran
  | raised (error : PyError) : Alike counts (.raised error) (.raised error)

theorem Frame.Alike.refl (counts : Prop) {frame : Frame (dramSystem η setups policy)}
    (unsliced : counts ∨ ∀ until_ maxEvents start prevUntil,
      frame = .run until_ maxEvents start prevUntil → maxEvents = none) :
    Frame.Alike counts frame frame := by
  cases frame with
  | callback event code => exact .callback (.refl event) code
  | step => exact .step
  | run until_ maxEvents start prevUntil =>
      exact .run _ _ _ (fun _ => rfl) (unsliced.imp_right fun each => each _ _ _ _ rfl)
  | wait target processed maxEvents => exact .wait _ _ fun _ => rfl

namespace Config

structure Alike (counts : Prop) (ids : Nat → Nat → Prop)
    (first : Config (dramSystem η setups policy))
    (second : Config (dramSystem η setups policy')) : Prop where
  sim : Simulator.Alike ids first.sim second.sim
  world : DramWorld.Alike ids first.world second.world
  stack : List.Forall₂ (Frame.Alike counts) first.stack second.stack
  processed : counts → first.sim.processed = second.sim.processed

def InStep (counts : Prop) (ids : Nat → Nat → Prop)
    (first : Config (dramSystem η setups policy))
    (second : Config (dramSystem η setups policy'))
    (after : Config (dramSystem η setups policy))
    (other : Config (dramSystem η setups policy')) : Prop :=
  ∃ later news others, ids ≤ later ∧ after.log = first.log ++ news ∧
    other.log = second.log ++ others ∧ List.Forall₂ (Entry.Alike counts) news others ∧
      Alike counts later after other

variable {first after last : Config (dramSystem η setups policy)}
  {second other final : Config (dramSystem η setups policy')}

namespace InStep

theorem refl (alike : Alike counts ids first second) :
    InStep counts ids first second first second :=
  ⟨ids, [], [], le_refl _, (List.append_nil _).symm,
    (List.append_nil _).symm, .nil, alike⟩

theorem trans (inStep : InStep counts ids first second after other)
    (next : ∀ later, ids ≤ later → Alike counts later after other →
      InStep counts later after other last final) :
    InStep counts ids first second last final := by
  obtain ⟨later, news, others, grows, log, otherLog, same, alike⟩ := inStep
  obtain ⟨latest, newer, newest, moreGrows, logged, otherLogged, told, ended⟩ :=
    next later grows alike
  refine ⟨latest, news ++ newer, others ++ newest, grows.trans moreGrows, ?_,
    ?_, ?_, ended⟩
  · rw [logged, log, List.append_assoc]
  · rw [otherLogged, otherLog, List.append_assoc]
  · exact List.rel_append same told

theorem changed (grows : ids ≤ more) (alike : Alike counts more after other)
    (log : after.log = first.log) (otherLog : other.log = second.log) :
    InStep counts ids first second after other :=
  ⟨more, [], [],
    grows, by rw [log, List.append_nil], by rw [otherLog, List.append_nil], .nil, alike⟩

theorem record (alike : Alike counts ids first second)
    {entry : Entry (dramSystem η setups policy)}
    {match_ : Entry (dramSystem η setups policy')}
    (same : Entry.Alike counts entry match_) :
    InStep counts ids first second (first.record entry) (second.record match_) :=
  ⟨ids, [entry], [match_], le_refl _, rfl, rfl, .cons same .nil,
    ⟨alike.sim, alike.world, alike.stack, alike.processed⟩⟩

end InStep

theorem unwind_alike {stack : List (Frame (dramSystem η setups policy))}
    {frames : List (Frame (dramSystem η setups policy'))}
    (alike : List.Forall₂ (Frame.Alike counts) stack frames) (runUntil : Option Int) :
    List.Forall₂ (Frame.Alike counts)
      (unwind stack runUntil).1 (unwind frames runUntil).1 ∧
      (unwind stack runUntil).2 = (unwind frames runUntil).2 := by
  induction alike generalizing runUntil with
  | nil => exact ⟨.nil, rfl⟩
  | cons same rest induction =>
      cases same with
      | callback same code => exact ⟨.cons (.callback same code) rest, rfl⟩
      | step => exact induction runUntil
      | run until_ maxEvents prevUntil counted unsliced => exact induction prevUntil
      | wait target maxEvents counted => exact induction runUntil

section

variable {stack : List (Frame (dramSystem η setups policy))}
  {frames : List (Frame (dramSystem η setups policy'))}

theorem propagate_inStep (alike : Alike counts ids first second)
    (rest : List.Forall₂ (Frame.Alike counts) stack frames) (error : PyError) :
    InStep counts ids first second (first.propagate stack error)
      (second.propagate frames error) := by
  obtain ⟨unwound, horizon⟩ := unwind_alike rest first.sim.runUntil
  refine ⟨ids, [.raised error], [.raised error], le_refl _, rfl, rfl,
    .cons (.raised error) .nil, ?_⟩
  simp only [propagate, ← alike.sim.runUntil, ← horizon]
  exact ⟨alike.sim.setRunUntil _, alike.world, unwound, alike.processed⟩

/-- If the components tick in other ways, then no tick is fired on the way to this
state. -/
def SameTicks (policy' : TickPolicy) (first after : Config (dramSystem η setups policy)) :
    Prop :=
  policy = policy' ∨ ∀ event rest, after = first.fire event rest →
    ∀ label, event.callback ≠ .dram label .tick

def Ample (counts : Prop) (after : Config (dramSystem η setups policy))
    (other : Config (dramSystem η setups policy')) : Prop :=
  counts ∨ Entry.overran ∉ after.log ∧ Entry.overran ∉ other.log

theorem returnTo_inStep (alike : Alike counts ids first second)
    {event match_ : Event (DramCode ℓ γ η)} (same : event.Same match_)
    (rest : List.Forall₂ (Frame.Alike counts) stack frames)
    (ample : Ample counts (first.returnTo event stack) (second.returnTo match_ frames)) :
    InStep counts ids first second (first.returnTo event stack)
      (second.returnTo match_ frames) := by
  have ended : Alike counts ids { first with sim := first.sim.endFire, stack := stack }
      { second with sim := second.sim.endFire, stack := frames } :=
    ⟨alike.sim.endFire, alike.world, rest, fun counting => congrArg (· + 1)
      (alike.processed counting)⟩
  have returned := InStep.record ended (.returned same)
  have begun : InStep counts ids first second
      ({ first with sim := first.sim.endFire, stack := stack }.record (.returned event))
      ({ second with sim := second.sim.endFire, stack := frames }.record
        (.returned match_)) :=
    returned
  unfold returnTo at ample ⊢
  cases rest with
  | nil => exact begun
  | @cons frame frame' stack frames like rest =>
      refine begun.trans fun later grows alike => ?_
      cases like with
      | callback same code => exact .refl alike
      | run until_ maxEvents prevUntil counted unsliced => exact .refl alike
      | step =>
          have popped : Alike counts later
              { first with sim := first.sim.endFire, stack, log := first.log ++
                [.returned event] }
              { second with
                sim := second.sim.endFire
                stack := frames
                log := second.log ++ [.returned match_] } :=
            ⟨alike.sim, alike.world, rest, alike.processed⟩
          exact InStep.record popped (.stepped true)
      | @wait target maxEvents processed fired counted =>
          simp only at ample ⊢
          have agree : maxEvents ≤ processed + 1 ↔ maxEvents ≤ fired + 1 := by
            obtain counting | ⟨calm, calmOther⟩ := ample
            · rw [counted counting]
            · constructor
              · intro late
                rw [if_pos late] at calm
                exact absurd (by simp [propagate, Config.record]) calm
              · intro late
                rw [if_pos late] at calmOther
                exact absurd (by simp [propagate, Config.record]) calmOther
          by_cases late : maxEvents ≤ processed + 1
          · rw [if_pos late, if_pos (agree.mp late)]
            exact (InStep.record alike .overran).trans fun last grown alike =>
              propagate_inStep alike rest _
          · rw [if_neg late, if_neg (mt agree.mpr late)]
            refine .changed (le_refl _)
              ⟨alike.sim, alike.world, .cons ?_ rest, alike.processed⟩
              rfl rfl
            exact .wait target maxEvents fun counting =>
              congrArg (· + 1) (counted counting)

theorem settle_inStep (alike : Alike counts ids first second)
    {event match_ : Event (DramCode ℓ γ η)} (same : event.Same match_)
    (rest : List.Forall₂ (Frame.Alike counts) stack frames)
    {outcome answer : Outcome (DramCode ℓ γ η) (DramWorld setups)} (grows : ids ≤ more)
    (leaves : DramWorld.Leaves more outcome answer)
    (counted : counts → outcome.sim.processed = answer.sim.processed)
    (ample : Ample counts (first.settle event stack outcome)
      (second.settle match_ frames answer)) :
    InStep counts ids first second (first.settle event stack outcome)
      (second.settle match_ frames answer) := by
  cases leaves with
  | @done sim target world other sims worlds =>
      have between : InStep counts ids first second { first with sim, world }
          { second with sim := target, world := other } :=
        .changed grows ⟨sims, worlds, alike.stack, counted⟩ rfl rfl
      refine between.trans fun later grown alike => ?_
      exact returnTo_inStep alike same rest ample
  | user code sims worlds =>
      exact .changed grows ⟨sims, worlds, .cons (.callback same code) rest, counted⟩
        rfl rfl
  | @raised error sim target world other sims worlds =>
      have between : InStep counts ids first second { first with sim, world }
          { second with sim := target, world := other } :=
        .changed grows ⟨sims, worlds, alike.stack, counted⟩ rfl rfl
      refine between.trans fun later grown alike => ?_
      exact propagate_inStep alike rest error

theorem fire_inStep (alike : Alike counts ids first second)
    {event match_ : Event (DramCode ℓ γ η)} (next : first.sim.peek.1 = some event)
    (nextOther : second.sim.peek.1 = some match_)
    (ticks : SameTicks policy' first (first.fire event stack))
    (rest : List.Forall₂ (Frame.Alike counts) stack frames)
    (ample : Ample counts (first.fire event stack) (second.fire match_ frames)) :
    InStep counts ids first second (first.fire event stack)
      (second.fire match_ frames) := by
  obtain ⟨same, sims⟩ := alike.sim.fireNext next nextOther
  have begun : InStep counts ids first second
      ({ first with sim := first.sim.fireNext event }.record
        (.fired event (first.sim.fireNext event).now))
      ({ second with sim := second.sim.fireNext match_ }.record
        (.fired match_ (second.sim.fireNext match_).now)) := by
    have alike : Alike counts ids { first with sim := first.sim.fireNext event }
        { second with sim := second.sim.fireNext match_ } :=
      ⟨sims, alike.world, alike.stack, alike.processed⟩
    rw [sims.now]
    exact InStep.record alike (.fired same.toSame _)
  refine begun.trans fun later grown alike => ?_
  obtain ⟨more, grows, leaves⟩ :=
    DramWorld.enter_inStep policy policy' event.callback
      (ticks.imp_right fun other => other event stack rfl) alike.sim alike.world
  have lawful : (dramSystem η setups policy).Lawful := DramWorld.lawful policy
  have lawfulOther : (dramSystem η setups policy').Lawful := DramWorld.lawful policy'
  have entered := lawful.enter event.callback (first.sim.fireNext event) first.world
  have enteredOther := lawfulOther.enter match_.callback (second.sim.fireNext match_)
    second.world
  refine settle_inStep alike same.toSame rest grows ?_ (fun counting => ?_) ample
  · rw [← same.callback]
    exact leaves
  · exact entered.processed_eq.trans ((alike.processed counting).trans
      enteredOther.processed_eq.symm)

theorem ran_inStep (alike : Alike counts ids first second)
    {sim target : Simulator (DramCode ℓ γ η)} (sims : Simulator.Alike ids sim target)
    (processed : sim.processed = first.sim.processed)
    (otherProcessed : target.processed = second.sim.processed) (prevUntil : Option Int)
    {start begun : Nat} (counted : counts → start = begun)
    (rest : List.Forall₂ (Frame.Alike counts) stack frames) :
    InStep counts ids first second (first.ran stack sim start prevUntil)
      (second.ran frames target begun prevUntil) := by
  have same (counting : counts) : sim.processed = target.processed := by
    rw [processed, otherProcessed, alike.processed counting]
  have stopped : InStep counts ids first second
      { first with sim := { sim with runUntil := prevUntil }, stack := stack }
      { second with sim := { target with runUntil := prevUntil }, stack := frames } :=
    .changed (le_refl _) ⟨sims.setRunUntil _, alike.world, rest, same⟩ rfl rfl
  exact stopped.trans fun later grows alike =>
    InStep.record alike (.ran fun counting => by rw [same counting, counted counting])

section Rounds

variable (alike : Alike counts ids first second)
  (rest : List.Forall₂ (Frame.Alike counts) stack frames)
include alike rest

theorem runLoop_inStep (until_ maxEvents prevUntil : Option Int)
    {start begun : Nat} (counted : counts → start = begun)
    (unsliced : counts ∨ maxEvents = none)
    (ticks : SameTicks policy' first
      (first.runLoop until_ maxEvents start prevUntil stack))
    (ample : Ample counts (first.runLoop until_ maxEvents start prevUntil stack)
      (second.runLoop until_ maxEvents begun prevUntil frames)) :
    InStep counts ids first second (first.runLoop until_ maxEvents start prevUntil stack)
      (second.runLoop until_ maxEvents begun prevUntil frames) := by
  have sliced : (maxEvents.any fun bound => bound ≤ (first.sim.processed - start : Int)) =
      maxEvents.any fun bound => bound ≤ (second.sim.processed - begun : Int) := by
    obtain counting | rfl := unsliced
    · rw [alike.processed counting, counted counting]
    · rfl
  have peeked := alike.sim.peek
  have processed := first.sim.peek_processed
  have otherProcessed := second.sim.peek_processed
  cases stop :
    (maxEvents.any fun bound => bound ≤ (first.sim.processed - start : Int)) with
  | true =>
      rw [runLoop_sliced stop, runLoop_sliced (sliced ▸ stop)]
      exact ran_inStep alike alike.sim rfl rfl prevUntil counted rest
  | false =>
      have goes := sliced ▸ stop
      have both := alike.sim.peek_fst
      rcases next : first.sim.peek.1 with _ | event <;>
        rcases nextOther : second.sim.peek.1 with _ |
          match_ <;> rw [next, nextOther] at both
      · rw [runLoop_drained stop next, runLoop_drained goes nextOther]
        exact ran_inStep alike peeked processed otherProcessed prevUntil counted rest
      · cases both
      · cases both
      · cases both with
        | some same =>
            cases late : (until_.any fun bound => decide (bound < event.time)) with
            | true =>
                rw [runLoop_late stop next late,
                  runLoop_late goes nextOther (same.time ▸ late)]
                exact ran_inStep alike peeked processed otherProcessed
                  prevUntil counted rest
            | false =>
                have soon := same.time ▸ late
                rw [runLoop_fires stop next late] at ticks
                rw [runLoop_fires stop next late,
                  runLoop_fires goes nextOther soon] at ample ⊢
                exact fire_inStep alike next nextOther ticks
                  (.cons (.run until_ maxEvents prevUntil counted unsliced) rest) ample

theorem waitLoop_inStep (target : ℓ) (maxEvents : Int) {processed fired : Int}
    (counted : counts → processed = fired)
    (ticks : SameTicks policy' first (first.waitLoop target processed maxEvents stack))
    (ample : Ample counts (first.waitLoop target processed maxEvents stack)
      (second.waitLoop target fired maxEvents frames)) :
    InStep counts ids first second (first.waitLoop target processed maxEvents stack)
      (second.waitLoop target fired maxEvents frames) := by
  have waiting := alike.world.waiting target
  cases waits : DramWorld.waiting target first.world with
  | false =>
      rw [waitLoop_ends waits, waitLoop_ends (waiting.trans waits)]
      have popped : InStep counts ids first second { first with stack := stack }
          { second with stack := frames } :=
        .changed (le_refl _) ⟨alike.sim, alike.world, rest, alike.processed⟩ rfl rfl
      exact popped.trans fun later grows alike => InStep.record alike (.waited counted)
  | true =>
      have waitsOther := waiting.trans waits
      have both := alike.sim.peek_fst
      rcases next : first.sim.peek.1 with _ | event <;>
        rcases nextOther : second.sim.peek.1 with _ |
          match_ <;> rw [next, nextOther] at both
      · rw [waitLoop_stalls waits next, waitLoop_stalls waitsOther nextOther]
        have peeked :
            InStep counts ids first second { first with sim := first.sim.peek.2 }
            { second with sim := second.sim.peek.2 } :=
          .changed (le_refl _) ⟨alike.sim.peek, alike.world, alike.stack, alike.processed⟩
            rfl rfl
        exact peeked.trans fun later grows alike =>
          propagate_inStep alike rest _
      · cases both
      · cases both
      · rw [waitLoop_fires waits next] at ticks
        rw [waitLoop_fires waits next, waitLoop_fires waitsOther nextOther] at ample ⊢
        exact fire_inStep alike next nextOther ticks
          (.cons (.wait target maxEvents counted) rest) ample

end Rounds

end

theorem act_inStep (alike : Alike counts ids first second)
    (decision : Decision (dramSystem η setups policy))
    (unsliced : counts ∨ decision.Unsliced)
    (ticks : SameTicks policy' first (first.act decision))
    (ample : Ample counts (first.act decision) (second.act (decision.under policy'))) :
    InStep counts ids first second (first.act decision)
      (second.act (decision.under policy')) := by
  cases decision with
  | call op =>
      obtain ⟨later, grows, result, sims, worlds⟩ :=
        DramWorld.exec_inStep op alike.sim alike.world
      have lawful : (dramSystem η setups policy).Lawful := DramWorld.lawful policy
      have lawfulOther : (dramSystem η setups policy').Lawful := DramWorld.lawful policy'
      have calls := lawful.exec op first.sim first.world
      have called : InStep counts ids first second
          { first with
            sim := (DramWorld.exec op first.sim first.world).2.1
            world := (DramWorld.exec op first.sim first.world).2.2 }
          { second with
            sim := (DramWorld.exec op second.sim second.world).2.1
            world := (DramWorld.exec op second.sim second.world).2.2 } :=
        .changed grows ⟨sims, worlds,
          alike.stack, fun counting => by
            have callsOther := lawfulOther.exec op second.sim second.world
            exact calls.processed_eq.trans ((alike.processed counting).trans
              callsOther.processed_eq.symm)⟩ rfl rfl
      refine called.trans fun last grown alike => ?_
      have told :=
        InStep.record alike (.called op (DramWorld.exec op first.sim first.world).1)
      simp only [Decision.under, act]
      rw [← result]
      exact told
  | step =>
      have both := alike.sim.peek_fst
      rcases next : first.sim.peek with ⟨_ | event, sim⟩ <;>
        rcases nextOther : second.sim.peek with ⟨_ | match_, target⟩ <;>
          rw [next, nextOther] at both
      · have peeked :
            InStep counts ids first second { first with sim := first.sim.peek.2 }
            { second with sim := second.sim.peek.2 } :=
          .changed (le_refl _) ⟨alike.sim.peek, alike.world, alike.stack, alike.processed⟩
            rfl rfl
        simp only [Decision.under, act, next, nextOther] at peeked ⊢
        exact peeked.trans fun later grows alike => InStep.record alike (.stepped false)
      · cases both
      · cases both
      · simp only [Decision.under, act, next, nextOther] at ample ticks ⊢
        exact fire_inStep alike (congrArg Prod.fst next)
          (congrArg Prod.fst nextOther) ticks
          (.cons .step alike.stack) ample
  | run until_ maxEvents =>
      refine .changed (le_refl _)
        ⟨alike.sim.setRunUntil _, alike.world, .cons ?_ alike.stack, alike.processed⟩ rfl
          rfl
      rw [← alike.sim.runUntil]
      exact .run until_ maxEvents _ alike.processed unsliced
  | wait target maxEvents =>
      exact .changed (le_refl _) ⟨alike.sim, alike.world,
        .cons (.wait target maxEvents fun _ => rfl) alike.stack, alike.processed⟩ rfl rfl
  | answer value =>
      have frames := alike.stack
      simp only [Decision.under, act] at ample ⊢
      rcases shape : first.stack with _ | ⟨frame, rest⟩ <;>
        rcases shapeOther : second.stack with _ | ⟨match_, others⟩ <;>
          rw [shape, shapeOther] at frames
      · exact .refl alike
      · cases frames
      · cases frames
      · obtain ⟨same, below⟩ := List.forall₂_cons.mp frames
        cases same with
        | callback same code =>
            simp only [shape, shapeOther] at ample
            exact settle_inStep alike same below (le_refl _) (.done alike.sim alike.world)
              alike.processed ample
        | step => exact .refl alike
        | run until_ maxEvents prevUntil counted unsliced => exact .refl alike
        | wait target maxEvents counted => exact .refl alike
  | raise error =>
      have frames := alike.stack
      simp only [Decision.under, act] at ample ⊢
      rcases shape : first.stack with _ | ⟨frame, rest⟩ <;>
        rcases shapeOther : second.stack with _ | ⟨match_, others⟩ <;>
          rw [shape, shapeOther] at frames
      · exact .refl alike
      · cases frames
      · cases frames
      · obtain ⟨same, below⟩ := List.forall₂_cons.mp frames
        cases same with
        | callback same code => exact propagate_inStep alike below error
        | step => exact .refl alike
        | run until_ maxEvents prevUntil counted unsliced => exact .refl alike
        | wait target maxEvents counted => exact .refl alike

theorem advance_inStep (alike : Alike counts ids first second)
    (decision : Decision (dramSystem η setups policy))
    (unsliced : counts ∨ decision.Unsliced)
    (ticks : SameTicks policy' first (first.advance decision))
    (ample : Ample counts (first.advance decision)
      (second.advance (decision.under policy'))) :
    InStep counts ids first second (first.advance decision)
      (second.advance (decision.under policy')) := by
  have frames := alike.stack
  have user (control : first.advance decision = first.act decision)
      (controlOther : second.advance (decision.under policy') =
        second.act (decision.under policy')) :
      InStep counts ids first second (first.advance decision)
        (second.advance (decision.under policy')) := by
    rw [control] at ticks
    rw [control, controlOther] at ample ⊢
    exact act_inStep alike decision unsliced ticks ample
  rcases shape : first.stack with _ | ⟨frame, rest⟩ <;>
    rcases shapeOther : second.stack with _ |
      ⟨match_, others⟩ <;> rw [shape, shapeOther] at frames
  · exact user (by rw [advance, shape]) (by rw [advance, shapeOther])
  · cases frames
  · cases frames
  · obtain ⟨same, below⟩ := List.forall₂_cons.mp frames
    cases same with
    | callback same code =>
        exact user (by rw [advance, shape]) (by rw [advance, shapeOther])
    | step => exact user (by rw [advance, shape]) (by rw [advance, shapeOther])
    | run until_ maxEvents prevUntil counted slices =>
        simp only [advance, shape, shapeOther] at ticks ample ⊢
        exact runLoop_inStep alike below until_ maxEvents prevUntil counted
          slices ticks ample
    | wait target maxEvents counted =>
        simp only [advance, shape, shapeOther] at ticks ample ⊢
        exact waitLoop_inStep alike below target maxEvents counted ticks ample

theorem run_inStep {first second : Config (dramSystem η setups policy)}
    (alike : Alike True ids first second)
    (decisions : List (Decision (dramSystem η setups policy))) :
    InStep True ids first second (Transition.run advance first decisions)
      (Transition.run advance second decisions) := by
  induction decisions generalizing first second ids with
  | nil => exact .refl alike
  | cons decision rest induction =>
      have step := advance_inStep alike decision (.inl trivial) (.inl rfl) (.inl trivial)
      rw [Decision.under_self] at step
      exact step.trans fun later grows alike => induction alike

end Config

end Pyramulator
