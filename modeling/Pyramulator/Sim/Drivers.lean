import Pyramulator.Data.Until
import Pyramulator.Sim.Scripted
import Pyramulator.Sim.Rule

namespace Pyramulator

/-! The drivers of the kernel, `step` and `run` with its bounds, let the same events
happen one after the other. -/

namespace Simulator

variable {κ : Type}

/-- The horizon is set, as `run` does it. -/
def within (sim : Simulator κ) (until_ : Option Int) : Simulator κ :=
  { sim with runUntil := until_ }

/-- The simulator between two calls: no horizon is set, and no cancelled event is at the
root of the heap. -/
def settled (sim : Simulator κ) : Simulator κ := sim.peek.2.within none

variable (sim : Simulator κ) (until_ : Option Int)

theorem dropCancelled_twice (heap : List (Event κ)) (byId : List Nat) :
    dropCancelled (dropCancelled heap byId).1 (dropCancelled heap byId).2 =
      dropCancelled heap byId := by
  induction heap generalizing byId with
  | nil => rfl
  | cons event rest induction =>
      by_cases flag : event.cancelled = true
      · simp only [dropCancelled, flag, if_true]
        exact induction _
      · simp only [dropCancelled, flag, Bool.false_eq_true, if_false]

theorem peek_within : (sim.within until_).peek = (sim.peek.1, sim.peek.2.within until_) :=
  rfl

theorem peek_twice : sim.peek.2.peek = sim.peek := by
  have twice := dropCancelled_twice sim.heap sim.byId
  have first : sim.peek.2.peek = ((dropCancelled (dropCancelled sim.heap sim.byId).1
      (dropCancelled sim.heap sim.byId).2).1.head?,
        { sim with
          heap := (dropCancelled (dropCancelled sim.heap sim.byId).1
            (dropCancelled sim.heap sim.byId).2).1
          byId := (dropCancelled (dropCancelled sim.heap sim.byId).1
            (dropCancelled sim.heap sim.byId).2).2 }) := rfl
  rw [first, twice]
  rfl

@[simp] theorem settled_peek_fst : sim.settled.peek.1 = sim.peek.1 := by
  rw [settled, peek_within, peek_twice]

@[simp] theorem settled_peek : sim.peek.2.settled = sim.settled := by
  rw [settled, peek_twice, settled]

@[simp] theorem settled_within : (sim.within until_).settled = sim.settled := rfl

@[simp] theorem settled_processed : sim.settled.processed = sim.processed := rfl

theorem settled_fireNext (event : Event κ) :
    sim.settled.fireNext event = (sim.fireNext event).within none := by
  rw [fireNext, settled, peek_within, peek_twice]
  rfl

end Simulator

open Simulator in
theorem Script.run_within {κ σ : Type} (script : Script κ σ) (sim : Simulator κ)
    (until_ : Option Int) :
    script.run (sim.within until_) =
      ((script.run sim).1.within until_, (script.run sim).2) := by
  induction script generalizing sim with
  | done state => rfl
  | schedule delay callback priority source next induction =>
      have same : (sim.within until_).schedule delay callback priority source =
          ((sim.schedule delay callback priority source).1,
            (sim.schedule delay callback priority source).2.within until_) := by
        unfold Simulator.schedule
        by_cases negative : delay < 0
        · rw [if_pos negative, if_pos negative]
        · rw [if_neg negative, if_neg negative]
          rfl
      simp only [run, same]
      exact induction _ _
  | at_ time callback priority source next induction =>
      have same : (sim.within until_).at_ time callback priority source =
          ((sim.at_ time callback priority source).1,
            (sim.at_ time callback priority source).2.within until_) := by
        have now : (sim.within until_).now = sim.now := rfl
        unfold Simulator.at_
        by_cases past : time < sim.now
        · rw [now, if_pos past, if_pos past]
        · rw [now, if_neg past, if_neg past]
          rfl
      simp only [run, same]
      exact induction _ _
  | cancel eventId next induction =>
      have same : (sim.within until_).cancel eventId =
          ((sim.cancel eventId).1, (sim.cancel eventId).2.within until_) := by
        unfold Simulator.cancel
        by_cases known : eventId ∈ sim.byId ∧
            ¬ sim.heap.any (fun event => event.seq = eventId && event.cancelled)
        · rw [if_pos known]
          exact if_pos known
        · rw [if_neg known]
          exact if_neg known
      simp only [run, same]
      exact induction _ _
  | now next induction => exact induction _ sim
  | nextTime next induction =>
      have same : (sim.within until_).nextTime =
          (sim.nextTime.1, sim.nextTime.2.within until_) := rfl
      simp only [run, same]
      exact induction _ _
  | pending next induction => exact induction _ sim
  | processed next induction => exact induction _ sim
  | eventCounts next induction => exact induction _ sim

theorem Script.run_calls {κ σ : Type} (script : Script κ σ) (sim : Simulator κ) :
    Simulator.Calls sim (script.run sim).1 := by
  induction script generalizing sim with
  | done state => exact .refl
  | schedule delay callback priority source next induction =>
      exact (sim.schedule_calls delay callback priority source).trans (induction _ _)
  | at_ time callback priority source next induction =>
      exact (sim.at_calls time callback priority source).trans (induction _ _)
  | cancel eventId next induction =>
      exact (Relation.ReflTransGen.single (.cancel eventId)).trans (induction _ _)
  | nextTime next induction =>
      exact (Relation.ReflTransGen.single .peek).trans (induction _ _)
  | now next induction => exact induction _ sim
  | pending next induction => exact induction _ sim
  | processed next induction => exact induction _ sim
  | eventCounts next induction => exact induction _ sim

namespace Scripted

open Config (firedEvents firedEvents_append)

variable {κ σ : Type} {body : κ → σ → Script κ σ}

abbrev State (κ σ : Type) := Simulator κ × σ

def fire (body : κ → σ → Script κ σ) (state : State κ σ) : State κ σ :=
  match state.1.peek.1 with
  | none => state
  | some event =>
      let (sim, after) := (body event.callback state.2).run (state.1.fireNext event)
      (sim.endFire.settled, after)

def state (config : Config (scripted body)) : State κ σ :=
  (config.sim.settled, config.world)

inductive Fired (body : κ → σ → Script κ σ) (origin : State κ σ) :
    List (Event κ) → State κ σ → Prop
  | none_ : Fired body origin [] origin
  | next {events : List (Event κ)} {state : State κ σ} {event : Event κ}
      (fired : Fired body origin events state) (next : state.1.peek.1 = some event) :
      Fired body origin (events ++ [event]) (fire body state)

theorem fire_some {body : κ → σ → Script κ σ} {state : State κ σ} {event : Event κ}
    (next : state.1.peek.1 = some event) :
    fire body state =
      (((body event.callback state.2).run (state.1.fireNext event)).1.endFire.settled,
        ((body event.callback state.2).run (state.1.fireNext event)).2) := by
  simp only [fire, next]

section

variable (config : Config (scripted body)) (event : Event κ)

def ran : Simulator κ × σ :=
  (body event.callback config.world).run (config.sim.fireNext event)

theorem fire_run (until_ maxEvents : Option Int) (start : Nat) :
    config.fire event [.run until_ maxEvents start none] =
      { sim := (ran config event).1.endFire
        world := (ran config event).2
        stack := [.run until_ maxEvents start none]
        log := config.log ++ [.fired event event.time] ++ [.returned event] } := rfl

theorem ran_processed : (ran config event).1.processed = config.sim.processed :=
  (Script.run_calls _ _).processed_eq

theorem ran_runUntil : (ran config event).1.runUntil = config.sim.runUntil :=
  (Script.run_calls _ _).runUntil_eq

variable {config event}

theorem fire_state (next : config.sim.peek.1 = some event) :
    fire body (state config) =
      ((ran config event).1.endFire.settled, (ran config event).2) := by
  have found : (state config).1.peek.1 = some event :=
    (Simulator.settled_peek_fst config.sim).trans next
  rw [fire_some found, state, Simulator.settled_fireNext, Script.run_within]
  rfl

theorem state_fire_run (next : config.sim.peek.1 = some event)
    (until_ maxEvents : Option Int) (start : Nat) :
    state (config.fire event [.run until_ maxEvents start none]) =
      fire body (state config) :=
  (fire_state next).symm

theorem state_fire_step (next : config.sim.peek.1 = some event) :
    state (config.fire event [.step]) = fire body (state config) :=
  (fire_state next).symm

end

/-! ## Any mix of driver calls -/

structure Mixed (body : κ → σ → Script κ σ) (origin : State κ σ)
    (config : Config (scripted body)) : Prop where
  stack : config.stack = [] ∧ config.sim.runUntil = none ∨ ∃ until_ maxEvents start,
    config.stack = [.run until_ maxEvents start none]
  fired : Fired body origin (firedEvents config.log) (state config)

namespace Mixed

variable {origin : State κ σ} {config : Config (scripted body)}

theorem silent (mixed : Mixed body origin config) {after : Config (scripted body)}
    (stack : after.stack = [] ∧ after.sim.runUntil = none ∨ ∃ until_ maxEvents start,
      after.stack = [.run until_ maxEvents start none])
    (settled : after.sim.settled = config.sim.settled)
    (world : after.world = config.world)
    (log : firedEvents after.log = firedEvents config.log) : Mixed body origin after where
  stack := stack
  fired := by
    rw [log, state, settled, world]
    exact mixed.fired

theorem runLoop (mixed : Mixed body origin config) (until_ maxEvents : Option Int)
    (start : Nat) :
    Mixed body origin (config.runLoop until_ maxEvents start none []) := by
  simp only [Config.runLoop]
  split
  · exact mixed.silent (.inl ⟨rfl, rfl⟩) rfl rfl (by simp [Config.record, firedEvents])
  · split
    · rename_i sim peeked
      obtain rfl : sim = config.sim.peek.2 := by rw [peeked]
      exact mixed.silent (.inl ⟨rfl, rfl⟩) (config.sim.settled_peek) rfl
        (by simp [Config.record, firedEvents])
    · rename_i event sim peeked
      have next : config.sim.peek.1 = some event := by rw [peeked]
      obtain rfl : sim = config.sim.peek.2 := by rw [peeked]
      split
      · exact mixed.silent (.inl ⟨rfl, rfl⟩) (config.sim.settled_peek) rfl
          (by simp [Config.record, firedEvents])
      · refine ⟨.inr ⟨until_, maxEvents, start, rfl⟩, ?_⟩
        rw [Config.fire_fired, state_fire_run next]
        exact mixed.fired.next ((Simulator.settled_peek_fst config.sim).trans next)

theorem advance (mixed : Mixed body origin config) (decision : Decision (scripted body)) :
    Mixed body origin (config.advance decision) := by
  rcases mixed.stack with ⟨stack, runUntil⟩ | ⟨until_, maxEvents, start, stack⟩
  · have acts : config.advance decision = config.act decision := by
      rw [Config.advance, stack]
    rw [acts]
    cases decision with
    | call op => exact op.elim
    | wait target => exact target.elim
    | answer value =>
        have same :
            config.act (.answer value) = config := by simp only [Config.act, stack]
        rw [same]
        exact mixed
    | raise error =>
        have same : config.act (.raise error) = config := by simp only [Config.act, stack]
        rw [same]
        exact mixed
    | run until_ maxEvents =>
        refine mixed.silent (.inr ⟨until_, maxEvents, config.sim.processed, ?_⟩) rfl rfl
          rfl
        simp only [Config.act, stack, runUntil]
    | step =>
        simp only [Config.act]
        split
        · rename_i sim peeked
          obtain rfl : sim = config.sim.peek.2 := by rw [peeked]
          exact mixed.silent (.inl ⟨stack, runUntil⟩) (config.sim.settled_peek) rfl
            (by simp [Config.record, firedEvents])
        · rename_i event sim peeked
          have next : config.sim.peek.1 = some event := by rw [peeked]
          rw [stack]
          refine ⟨.inl ⟨rfl, (ran_runUntil config event).trans runUntil⟩, ?_⟩
          rw [Config.fire_fired, state_fire_step next]
          exact mixed.fired.next ((Simulator.settled_peek_fst config.sim).trans next)
  · have round :
        config.advance decision = config.runLoop until_ maxEvents start none [] := by
      rw [Config.advance, stack]
    rw [round]
    exact mixed.runLoop until_ maxEvents start

theorem run (sim : Simulator κ) (world : σ)
    (decisions : List (Decision (scripted body))) :
    Mixed body (state (Scripted.start body sim world))
      (Transition.run Config.advance (Scripted.start body sim world) decisions) :=
  Transition.run_invariant (Mixed body (state (Scripted.start body sim world)))
    (fun _ decision mixed => mixed.advance decision) ⟨.inl ⟨rfl, rfl⟩, .none_⟩ decisions

end Mixed

theorem Fired.idle {sim : Simulator κ} {world : σ} {events : List (Event κ)}
    {after : State κ σ}
    (fired : Fired body (state (Scripted.start body sim world)) events after) :
    ∃ rounds, ∃ config,
      config = Transition.run Config.advance (Scripted.start body sim world)
        (Decision.runUntilIdle none :: List.replicate rounds Decision.step) ∧
      (∃ start, config.stack = [.run none none start none]) ∧
        firedEvents config.log = events ∧ state config = after := by
  induction fired with
  | none_ => exact ⟨0, _, rfl, ⟨sim.processed, rfl⟩, rfl, rfl⟩
  | @next events before event fired next induction =>
      obtain ⟨rounds, config, reached, ⟨start, stack⟩, log, rfl⟩ := induction
      have found : config.sim.peek.1 = some event :=
        (Simulator.settled_peek_fst config.sim).symm.trans next
      have fires :
          config.advance .step = config.fire event [.run none none start none] := by
        rcases peeked : config.sim.peek with ⟨_, sim⟩
        rw [peeked] at found
        obtain rfl := found
        simp [Config.advance, stack, Config.runLoop, peeked]
      refine ⟨rounds + 1, config.advance .step, ?_, ⟨start, ?_⟩, ?_, ?_⟩
      · rw [reached, List.replicate_succ', ← List.cons_append, Transition.run_append]
        rfl
      · rw [fires, fire_run]
      · rw [fires, Config.fire_fired, log]
      · rw [fires, state_fire_run found]

/-! ## One call of `run` -/

section

variable {config now after : Config (scripted body)} {until_ maxEvents : Option Int}

/-- A `run` that fired these events may end. -/
def MayEnd (until_ maxEvents : Option Int) (sim : Simulator κ) (fired : List (Event κ)) :
    Prop :=
  (∃ bound ∈ maxEvents, bound ≤ (fired.length : Int)) ∨ sim.liveEvents = [] ∨
    ∃ horizon ∈ until_, ∃ event, sim.liveEvents.head? = some event ∧ horizon < event.time

/-- A `run` that was called in one state and fired these events. -/
structure Counted (config : Config (scripted body)) (maxEvents : Option Int)
    (now : Config (scripted body)) (fired : List (Event κ)) : Prop where
  log : firedEvents now.log = firedEvents config.log ++ fired
  processed : now.sim.processed = config.sim.processed + fired.length
  bound : ∀ bound ∈ maxEvents, (fired.length : Int) ≤ max bound 0

inductive Calls (config : Config (scripted body)) (until_ maxEvents : Option Int)
    (now : Config (scripted body)) : Prop
  | loop (fired : List (Event κ)) (counted : Counted config maxEvents now fired)
      (stack : now.stack = [.run until_ maxEvents config.sim.processed none])
  | returned (fired : List (Event κ)) (counted : Counted config maxEvents now fired)
      (stack : now.stack = []) (last : now.log.getLast? = some (.ran fired.length))
      (settled : now.sim.settled = now.sim ∨ maxEvents ≠ none)
      (reason : MayEnd until_ maxEvents now.sim fired)

theorem Calls.advance (calls : Calls config until_ maxEvents now)
    (running : now.stack ≠ []) (decision : Decision (scripted body)) :
    Calls config until_ maxEvents (now.advance decision) := by
  cases calls with
  | returned fired counted stack => exact absurd stack running
  | loop fired counted stack =>
      have finishes (sim : Simulator κ) (processed : sim.processed = now.sim.processed)
          (settled : (sim.within none).settled = sim.within none ∨ maxEvents ≠ none)
          (reason : MayEnd until_ maxEvents sim fired) :
          Calls config until_ maxEvents
            ({ now with sim := { sim with runUntil := none }, stack := [] }.record
              (.ran (sim.processed - config.sim.processed))) := by
        have count : sim.processed - config.sim.processed = fired.length := by
          rw [processed, counted.processed, Nat.add_sub_cancel_left]
        refine .returned fired ⟨?_, processed.trans counted.processed, counted.bound⟩ rfl
          ?_
          settled reason
        · simpa [Config.record, firedEvents] using counted.log
        · simp [Config.record, count]
      have round : now.advance decision =
          now.runLoop until_ maxEvents config.sim.processed none [] := by
        rw [Config.advance, stack]
      rw [round]
      simp only [Config.runLoop]
      split
      · rename_i enough
        obtain ⟨bound, known, reached⟩ := (Option.any_eq_true _ _).mp enough
        have reached : bound ≤ (now.sim.processed : Int) - config.sim.processed := by
          simpa using reached
        have processed := counted.processed
        refine finishes now.sim rfl (.inr ?_) (.inl ⟨bound, known, by omega⟩)
        rw [known]
        exact Option.some_ne_none bound
      · rename_i room
        split
        · rename_i sim peeked
          have noEvent : now.sim.peek.1 = none := by rw [peeked]
          obtain rfl : sim = now.sim.peek.2 := by rw [peeked]
          rw [Simulator.peek_fst, List.head?_eq_none_iff] at noEvent
          refine finishes now.sim.peek.2 rfl (.inl ?_) (.inr (.inl ?_))
          · exact now.sim.settled_peek
          · rw [Simulator.peek_liveEvents, noEvent]
        · rename_i event sim peeked
          have next : now.sim.peek.1 = some event := by rw [peeked]
          obtain rfl : sim = now.sim.peek.2 := by rw [peeked]
          split
          · rename_i late
            obtain ⟨horizon, known, late⟩ := (Option.any_eq_true _ _).mp late
            refine finishes now.sim.peek.2 rfl (.inl now.sim.settled_peek)
              (.inr (.inr ⟨horizon, known, event, ?_, by simpa using late⟩))
            rw [Simulator.peek_liveEvents, ← Simulator.peek_fst, next]
          · refine .loop (fired ++ [event]) ⟨?_, ?_, fun bound known => ?_⟩ rfl
            · rw [Config.fire_fired, counted.log, List.append_assoc]
            · rw [fire_run, Simulator.endFire_processed, ran_processed, counted.processed,
                List.length_append, List.length_singleton, Nat.add_assoc]
            · have short : (now.sim.processed : Int) - config.sim.processed < bound := by
                simpa [Option.mem_def.mp known] using room
              have processed := counted.processed
              rw [List.length_append, List.length_singleton]
              omega

theorem Runs.calls (runs : Runs config until_ maxEvents after) (top : config.stack = [])
    (outside : config.sim.runUntil = none) : Calls config until_ maxEvents after := by
  refine runs.1.invariant (Calls config until_ maxEvents) ?_
    fun _ decision calls running => calls.advance running decision
  have opened : config.advance (.run until_ maxEvents) = { config with
      sim := { config.sim with runUntil := until_ }
      stack := [.run until_ maxEvents config.sim.processed none] } := by
    simp only [Config.advance, top, Config.act, outside]
  rw [opened]
  exact .loop [] ⟨(List.append_nil _).symm, rfl, fun bound _ => le_max_right bound 0⟩ rfl

end

/-! ## Runs up to a horizon -/

def Stops (horizon : Int) (state : State κ σ) : Prop :=
  ∀ event ∈ state.1.peek.1, horizon < event.time

section

variable {config now after : Config (scripted body)} {horizon : Int}

theorem round_until {start : Nat}
    (stack : now.stack = [.run (some horizon) none start none])
    (decision : Decision (scripted body)) :
    (Stops horizon (state now) ∧ (now.advance decision).stack = [] ∧
      ((now.advance decision).sim, (now.advance decision).world) = state now) ∨
    ¬ Stops horizon (state now) ∧
      (now.advance decision).stack = [.run (some horizon) none start none] ∧
        state (now.advance decision) = fire body (state now) := by
  have round : now.advance decision = now.runLoop (some horizon) none start none [] := by
    rw [Config.advance, stack]
  have first : (state now).1.peek.1 = now.sim.peek.1 := Simulator.settled_peek_fst now.sim
  rw [round, Stops, first]
  simp only [Config.runLoop, Option.any_none, Bool.false_eq_true, if_false]
  split
  · rename_i sim peeked
    obtain rfl : sim = now.sim.peek.2 := by rw [peeked]
    refine .inl ⟨fun event known => ?_, rfl, rfl⟩
    rw [peeked] at known
    cases known
  · rename_i event sim peeked
    have next : now.sim.peek.1 = some event := by rw [peeked]
    obtain rfl : sim = now.sim.peek.2 := by rw [peeked]
    rw [next]
    split
    · rename_i late
      refine .inl ⟨fun other known => ?_, rfl, rfl⟩
      obtain rfl := Option.mem_some_iff.mp known
      simpa using late
    · rename_i soon
      refine .inr ⟨fun late => soon ?_, rfl, state_fire_run next _ _ _⟩
      simpa using late event rfl

theorem opened (top : config.stack = []) (outside : config.sim.runUntil = none)
    (until_ maxEvents : Option Int) :
    config.advance (.run until_ maxEvents) = { config with
      sim := config.sim.within until_
      stack := [.run until_ maxEvents config.sim.processed none] } := by
  simp only [Config.advance, top, Config.act, outside]
  rfl

theorem Runs.until_ (runs : Runs config (some horizon) none after)
    (top : config.stack = []) (outside : config.sim.runUntil = none) :
    Until (fire body) (Stops horizon) (state config) (after.sim, after.world) := by
  have kept := runs.1.invariant
    (fun now => (∃ start, now.stack = [.run (some horizon) none start none] ∧
        ∀ final, Until (fire body) (Stops horizon) (state now) final →
          Until (fire body) (Stops horizon) (state config) final) ∨
      now.stack = [] ∧
        Until (fire body) (Stops horizon) (state config) (now.sim, now.world))
    (by
      rw [opened top outside]
      exact .inl ⟨_, rfl, fun final rest => rest⟩)
    (fun now decision either running => by
      rcases either with ⟨start, stack, back⟩ | ⟨stack, -⟩
      · rcases round_until stack decision with ⟨stops, ended, same⟩ |
          ⟨goes_on, stack, fired⟩
        · exact .inr ⟨ended, same ▸ back _ (.stop stops)⟩
        · exact .inl
            ⟨start, stack, fun final rest => back final (.next goes_on (fired ▸ rest))⟩
      · exact absurd stack running)
  rcases kept with ⟨start, stack, -⟩ | ⟨-, until_⟩
  · rw [runs.2] at stack
    cases stack
  · exact until_

theorem reach_of_until {origin final : State κ σ}
    (until_ : Until (fire body) (Stops horizon) origin final) (same : state now = origin)
    {start : Nat} (stack : now.stack = [.run (some horizon) none start none]) :
    ∃ after, Transition.Reach Config.advance (fun config _ => config.stack ≠ []) now
      after ∧
      after.stack = [] ∧ (after.sim, after.world) = final := by
  have running (now : Config (scripted body))
      (stack : now.stack = [.run (some horizon) none start none]) :
      Transition.Reach Config.advance (fun config _ => config.stack ≠ []) now
        (now.advance .step) :=
    .next Decision.step .refl (stack ▸ List.cons_ne_nil _ _)
  induction until_ generalizing now with
  | stop stops =>
      subst same
      rcases round_until stack .step with ⟨-, ended, equal⟩ | ⟨goes_on, -⟩
      · exact ⟨_, running now stack, ended, equal⟩
      · exact absurd stops goes_on
  | next goes_on rest induction =>
      subst same
      rcases round_until stack .step with ⟨stops, -⟩ | ⟨-, standing, fired⟩
      · exact absurd stops goes_on
      · obtain ⟨after, reached, ended, equal⟩ := induction fired standing
        exact ⟨after, (running now stack).trans reached, ended, equal⟩

theorem runs_of_until {final : State κ σ}
    (until_ : Until (fire body) (Stops horizon) (state config) final)
    (top : config.stack = []) (outside : config.sim.runUntil = none) :
    ∃ after, Runs config (some horizon) none after ∧
      (after.sim, after.world) = final := by
  have begun := opened top outside (some horizon) none
  have same : state (config.advance (.run (some horizon) none)) = state config := by
    rw [begun]
    rfl
  obtain ⟨after, reached, ended, equal⟩ := reach_of_until until_ same (by rw [begun])
  exact ⟨after, ⟨reached, ended⟩, equal⟩

end

/-! ## Runs with a bound on their events -/

section

variable {config now : Config (scripted body)} {until_ : Option Int} {bound : Int}

theorem round_bounded {start : Nat}
    (stack : now.stack = [.run until_ (some bound) start none])
    (decision : Decision (scripted body)) :
    (now.advance decision).stack = [] ∨
      (now.sim.processed : Int) - start < bound ∧
        (now.advance decision).stack = [.run until_ (some bound) start none] ∧
          (now.advance decision).sim.processed = now.sim.processed + 1 := by
  have round : now.advance decision = now.runLoop until_ (some bound) start none [] := by
    rw [Config.advance, stack]
  rw [round]
  simp only [Config.runLoop]
  split
  · exact .inl rfl
  · rename_i room
    have room : (now.sim.processed : Int) - start < bound := by simpa using room
    split
    · exact .inl rfl
    · rename_i event sim peeked
      split
      · exact .inl rfl
      · refine .inr ⟨room, rfl, ?_⟩
        rw [fire_run, Simulator.endFire_processed, ran_processed]

theorem bounded_ends (left : Nat) {start : Nat}
    (stack : now.stack = [.run until_ (some bound) start none])
    (enough : bound - ((now.sim.processed : Int) - start) ≤ left) :
    ∃ after, Transition.Reach Config.advance (fun config _ => config.stack ≠ []) now
      after ∧
      after.stack = [] := by
  have running : Transition.Reach Config.advance (fun config _ => config.stack ≠ []) now
      (now.advance .step) :=
    .next Decision.step .refl (stack ▸ List.cons_ne_nil _ _)
  induction left generalizing now with
  | zero =>
      rcases round_bounded stack .step with ended | ⟨room, -⟩
      · exact ⟨_, running, ended⟩
      · omega
  | succ left induction =>
      rcases round_bounded stack .step with ended | ⟨room, standing, processed⟩
      · exact ⟨_, running, ended⟩
      · obtain ⟨after, reached, ended⟩ := induction standing (by omega)
          (.next Decision.step .refl (standing ▸ List.cons_ne_nil _ _))
        exact ⟨after, running.trans reached, ended⟩

theorem runs_bounded (top : config.stack = []) (outside : config.sim.runUntil = none)
    (until_ : Option Int) (bound : Int) :
    ∃ after, Runs config until_ (some bound) after := by
  have begun := opened top outside until_ (some bound)
  have last := congrArg Config.stack begun
  have room : bound - (((config.advance (.run until_ (some bound))).sim.processed : Int) -
      config.sim.processed) ≤ bound.toNat := by
    rw [begun]
    simp only [Simulator.within]
    omega
  obtain ⟨after, reached, ended⟩ := bounded_ends bound.toNat last room
  exact ⟨after, reached, ended⟩

end

theorem runs_twice {config : Config (scripted body)} (top : config.stack = [])
    (outside : config.sim.runUntil = none) (first second : Int)
    (sim : Simulator κ) (world : σ) :
    (∃ middle after, Runs config (some first) none middle ∧
        Runs middle (some second) none after ∧ after.sim = sim ∧ after.world = world) ↔
      ∃ after, Runs config (some (max first second)) none after ∧
        after.sim = sim ∧ after.world = world := by
  have later (early late : Int) (order : early ≤ late) (state : State κ σ)
      (stops : Stops late state) : Stops early state :=
    fun event known => order.trans_lt (stops event known)
  have both : (∃ middle, Until (fire body) (Stops first) (state config) middle ∧
      Until (fire body) (Stops second) middle (sim, world)) ↔
        Until (fire body) (Stops (max first second)) (state config) (sim, world) := by
    rcases Int.le_total first second with order | order
    · rw [max_eq_right order]
      exact (Until.through (later first second order)).symm
    · rw [max_eq_left order]
      exact (Until.stays (later second first order)).symm
  have returned {middle : Config (scripted body)}
      (runs : Runs config (some first) none middle) :
      middle.sim.runUntil = none ∧ state middle = (middle.sim, middle.world) := by
    rcases runs.calls top outside with ⟨fired, -, stack⟩ |
      ⟨fired, -, -, -, settled | bounded, -⟩
    · rw [runs.2] at stack
      cases stack
    · rw [state, settled]
      exact ⟨by rw [← settled]; rfl, rfl⟩
    · exact absurd rfl bounded
  constructor
  · rintro ⟨middle, after, one, other, rfl, rfl⟩
    obtain ⟨outside_, same⟩ := returned one
    have until_ := both.mp ⟨_, one.until_ top outside, same ▸ other.until_ one.2 outside_⟩
    obtain ⟨reached, runs, equal⟩ := runs_of_until until_ top outside
    exact ⟨reached, runs, congrArg Prod.fst equal, congrArg Prod.snd equal⟩
  · rintro ⟨after, runs, rfl, rfl⟩
    obtain ⟨⟨between, beside⟩, one, other⟩ := both.mpr (runs.until_ top outside)
    obtain ⟨middle, first_, equal⟩ := runs_of_until one top outside
    obtain ⟨outside_, same⟩ := returned first_
    rw [← equal, ← same] at other
    obtain ⟨reached, second_, equal⟩ := runs_of_until other first_.2 outside_
    exact ⟨middle, reached, first_, second_, congrArg Prod.fst equal,
      congrArg Prod.snd equal⟩

/-- All drivers of the kernel give the same simulation: a mix of them fires a prefix of
the events of one `run_until_idle`; a call of `run` that may fire so many events returns;
and what it returns is how many events it fired, at most as many as it may and as long as
there was one within its horizon. -/
theorem drivers_agree (body : κ → σ → Script κ σ) (sim : Simulator κ) (world : σ)
    (decisions : List (Decision (scripted body))) :
    let config := Transition.run Config.advance (start body sim world) decisions
    (∃ rounds, firedEvents config.log <+:
      firedEvents (Transition.run Config.advance (start body sim world)
        (.runUntilIdle none :: List.replicate rounds .step)).log) ∧
    (config.stack = [] →
      (∀ until_ bound, ∃ after, Runs config until_ (some bound) after) ∧
      (∀ until_ maxEvents after, Runs config until_ maxEvents after →
        ∃ fired, firedEvents after.log = firedEvents config.log ++ fired ∧
          after.log.getLast? = some (.ran fired.length) ∧
          (∀ bound ∈ maxEvents, (fired.length : Int) ≤ max bound 0) ∧
          MayEnd until_ maxEvents after.sim fired) ∧
      ∀ first second sim world,
        (∃ middle after, Runs config (some first) none middle ∧
            Runs middle (some second) none after ∧ after.sim = sim ∧
              after.world = world) ↔
          ∃ after, Runs config (some (max first second)) none after ∧
            after.sim = sim ∧ after.world = world) := by
  intro config
  have mixed : Mixed body (state (start body sim world)) config :=
    .run sim world decisions
  refine ⟨?_, fun top => ?_⟩
  · obtain ⟨rounds, idle, rfl, -, log, -⟩ := mixed.fired.idle
    exact ⟨rounds, log ▸ List.prefix_refl _⟩
  · have outside : config.sim.runUntil = none := by
      rcases mixed.stack with ⟨-, outside⟩ | ⟨_, _, _, stack⟩
      · exact outside
      · rw [top] at stack
        cases stack
    refine ⟨runs_bounded top outside, fun until_ maxEvents after runs => ?_,
      runs_twice top outside⟩
    rcases runs.calls top outside with ⟨_, -, stack⟩ |
      ⟨fired, counted, -, last, -, reason⟩
    · rw [runs.2] at stack
      cases stack
    · exact ⟨fired, counted.log, last, counted.bound, reason⟩

/-- Two events, of which one has fired when `run` is called. -/
theorem drivers_agree_twoEvents :
    let body : Unit → Nat → Script Unit Nat := fun _ fired => .done (fired + 1)
    let sim := ((Simulator.init.schedule 0 ()).2.schedule 5 ()).2
    let config := Transition.run Config.advance (start body sim 0) [.step]
    ∃ after fired, Runs config (some 9) (some 4) after ∧
      firedEvents after.log = firedEvents config.log ++ fired ∧
        after.log.getLast? = some (.ran fired.length) ∧ (fired.length : Int) ≤ 4 ∧
          MayEnd (some 9) (some 4) after.sim fired := by
  intro body sim config
  obtain ⟨-, called⟩ := drivers_agree body sim 0 [.step]
  obtain ⟨returns, tells, -⟩ := called rfl
  obtain ⟨after, runs⟩ := returns (some 9) 4
  obtain ⟨fired, log, last, bound, reason⟩ := tells _ _ _ runs
  exact ⟨after, fired, runs, log, last, bound 4 rfl, reason⟩

/-- A `run` that may fire minus one event returns that it fired none. -/
theorem run_minusOne :
    let body : Unit → Unit → Script Unit Unit := fun _ => .done
    ∃ after, Runs (start body Simulator.init ()) none (some (-1)) after ∧
      after.log.getLast? = some (.ran 0) ∧ ¬ (0 : Int) ≤ -1 := by
  intro body
  refine ⟨((start body Simulator.init ()).advance (.run none (some (-1)))).advance .step,
    ⟨.next Decision.step .refl (List.cons_ne_nil _ _), rfl⟩, rfl, by decide⟩

end Scripted

end Pyramulator
