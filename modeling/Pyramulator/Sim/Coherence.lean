import Pyramulator.Sim.Machine

namespace Pyramulator

/-! What holds on every run, whatever the components and user code do, as long
as they touch the kernel through its calls. -/

namespace Simulator

variable {κ : Type}

inductive Call : Simulator κ → Simulator κ → Prop
  | push {sim : Simulator κ} (time : Int) (future : sim.now ≤ time)
      (callback : κ) (priority : Int) (source : Option String) :
      Call sim (sim.push time callback priority source).2
  | cancel {sim : Simulator κ} (eventId : Nat) : Call sim (sim.cancel eventId).2
  | peek {sim : Simulator κ} : Call sim sim.peek.2
  | advance {sim : Simulator κ} (time : Int)
      (accepted : (sim.advanceTo time).1 = .ok ()) :
      Call sim (sim.advanceTo time).2

abbrev Calls : Simulator κ → Simulator κ → Prop := Relation.ReflTransGen Call

theorem schedule_calls (sim : Simulator κ) (delay : Int) (callback : κ)
    (priority : Int) (source : Option String) :
    Calls sim (sim.schedule delay callback priority source).2 := by
  unfold schedule
  split
  · exact .refl
  · exact .single (.push _ (by omega) callback priority source)

theorem at_calls (sim : Simulator κ) (time : Int) (callback : κ)
    (priority : Int) (source : Option String) :
    Calls sim (sim.at_ time callback priority source).2 := by
  unfold at_
  split
  · exact .refl
  · exact .single (.push _ (by omega) callback priority source)

theorem advanceTo_calls (sim : Simulator κ) (time : Int) :
    Calls sim (sim.advanceTo time).2 := by
  cases answer : (sim.advanceTo time).1 with
  | ok _ => exact .single (.advance time answer)
  | error error =>
      unfold advanceTo at answer ⊢
      split at answer
      · rename_i past
        rw [if_pos past]
      · rename_i notPast
        rw [if_neg notPast]
        simp only at answer ⊢
        split at answer
        · exact .single .peek
        · split at answer
          · exact .single .peek
          · cases answer

namespace Call

variable {sim after : Simulator κ}

theorem wellFormed (call : Call sim after) (before : sim.WellFormed) :
    after.WellFormed := by
  cases call with
  | push time future => exact before.push future _ _ _
  | cancel eventId => exact before.cancel eventId
  | peek => exact before.peek
  | advance time accepted =>
      obtain ⟨result, _, next, _⟩ := advanceTo_ok accepted
      rw [result]
      exact before.advance next

theorem now_le (call : Call sim after) : sim.now ≤ after.now := by
  cases call with
  | push => simp
  | cancel => simp
  | peek => simp
  | advance time accepted =>
      obtain ⟨result, forward, _⟩ := advanceTo_ok accepted
      rw [result]
      exact forward

theorem runUntil_eq (call : Call sim after) : after.runUntil = sim.runUntil := by
  cases call with
  | push => rfl
  | cancel => simp
  | peek => rfl
  | advance time accepted => rw [(advanceTo_ok accepted).1]; rfl

theorem processed_eq (call : Call sim after) :
    after.processed = sim.processed := by
  cases call with
  | push => rfl
  | cancel => simp
  | peek => rfl
  | advance time accepted => rw [(advanceTo_ok accepted).1]; rfl

theorem seq_le (call : Call sim after) : sim.seq ≤ after.seq := by
  cases call with
  | push => simp
  | cancel => simp
  | peek => simp
  | advance time accepted => rw [(advanceTo_ok accepted).1]; simp

theorem live_cases (call : Call sim after) (before : sim.WellFormed)
    {event : Event κ} (member : event ∈ after.liveEvents) :
    event ∈ sim.liveEvents ∨ sim.seq ≤ event.seq ∧ sim.now ≤ event.time := by
  cases call with
  | push time future =>
      rw [push_liveEvents before] at member
      rcases Queue.mem_insert.mp member with rfl | older
      · exact .inr ⟨le_refl _, future⟩
      · exact .inl older
  | cancel eventId =>
      rw [cancel_liveEvents before] at member
      exact .inl (List.mem_filter.mp member).1
  | peek => exact .inl (by simpa using member)
  | advance time accepted =>
      rw [(advanceTo_ok accepted).1] at member
      rw [← peek_liveEvents]
      exact .inl member

end Call

namespace Calls

variable {sim after : Simulator κ}

theorem wellFormed (calls : Calls sim after) (before : sim.WellFormed) :
    after.WellFormed := by
  induction calls with
  | refl => exact before
  | tail _ call induction => exact call.wellFormed induction

theorem now_le (calls : Calls sim after) : sim.now ≤ after.now := by
  induction calls with
  | refl => exact le_refl _
  | tail _ call induction => exact induction.trans call.now_le

theorem seq_le (calls : Calls sim after) : sim.seq ≤ after.seq := by
  induction calls with
  | refl => exact le_refl _
  | tail _ call induction => exact induction.trans call.seq_le

theorem live_cases (calls : Calls sim after) (before : sim.WellFormed)
    {event : Event κ} (member : event ∈ after.liveEvents) :
    event ∈ sim.liveEvents ∨ sim.seq ≤ event.seq ∧ sim.now ≤ event.time := by
  induction calls with
  | refl => exact .inl member
  | tail calls call induction =>
      rcases call.live_cases (Calls.wellFormed calls before) member with
        older | ⟨newer, later⟩
      · exact induction older
      · exact .inr ⟨(seq_le calls).trans newer, (now_le calls).trans later⟩

theorem runUntil_eq (calls : Calls sim after) :
    after.runUntil = sim.runUntil := by
  induction calls with
  | refl => rfl
  | tail _ call induction => exact call.runUntil_eq.trans induction

theorem processed_eq (calls : Calls sim after) :
    after.processed = sim.processed := by
  induction calls with
  | refl => rfl
  | tail _ call induction => exact call.processed_eq.trans induction

end Calls

end Simulator

structure System.Lawful (S : System) : Prop where
  exec : ∀ op sim world, Simulator.Calls sim (S.exec op sim world).2.1
  enter : ∀ code sim world, Simulator.Calls sim (S.enter code sim world).sim
  resume : ∀ code answer sim world,
    Simulator.Calls sim (S.resume code answer sim world).sim

namespace Config

variable {S : System}

/-- The horizon of the innermost `run` on the stack. -/
def innermostUntil : List (Frame S) → Option Int
  | [] => none
  | .run until_ _ _ _ :: _ => until_
  | _ :: rest => innermostUntil rest

/-- Each `run` keeps the horizon of the `run` around it. -/
def Chained : List (Frame S) → Prop
  | [] => True
  | .run _ _ _ prevUntil :: rest => prevUntil = innermostUntil rest ∧ Chained rest
  | _ :: rest => Chained rest

structure Coherent (config : Config S) : Prop where
  wellFormed : config.sim.WellFormed
  chained : Chained config.stack
  horizon : config.sim.runUntil = innermostUntil config.stack

theorem init_coherent (world : S.World) : (init world : Config S).Coherent where
  wellFormed := Simulator.init_wellFormed
  chained := trivial
  horizon := rfl

theorem unwind_spec {rest : List (Frame S)} {runUntil : Option Int}
    (chained : Chained rest) (horizon : runUntil = innermostUntil rest) :
    Chained (unwind rest runUntil).1 ∧
      (unwind rest runUntil).2 = innermostUntil (unwind rest runUntil).1 := by
  induction rest generalizing runUntil with
  | nil => exact ⟨trivial, horizon⟩
  | cons frame rest induction =>
      cases frame with
      | callback event code => exact ⟨chained, horizon⟩
      | step => exact induction chained horizon
      | run until_ maxEvents start prevUntil => exact induction chained.2 chained.1
      | wait target processed maxEvents => exact induction chained horizon

section Preservation

variable {config : Config S} {rest : List (Frame S)}

theorem Coherent.propagate (error : PyError)
    (wellFormed : config.sim.WellFormed) (chained : Chained rest)
    (horizon : config.sim.runUntil = innermostUntil rest) :
    (config.propagate rest error).Coherent where
  wellFormed := wellFormed.setRunUntil _
  chained := (unwind_spec chained horizon).1
  horizon := (unwind_spec chained horizon).2

theorem Coherent.returnTo (event : Event S.Callback)
    (wellFormed : config.sim.WellFormed) (chained : Chained rest)
    (horizon : config.sim.runUntil = innermostUntil rest) :
    (config.returnTo event rest).Coherent := by
  cases rest with
  | nil => exact ⟨wellFormed.endFire, trivial, horizon⟩
  | cons frame rest =>
      cases frame with
      | callback event code => exact ⟨wellFormed.endFire, chained, horizon⟩
      | step => exact ⟨wellFormed.endFire, chained, horizon⟩
      | run until_ maxEvents start prevUntil =>
          exact ⟨wellFormed.endFire, chained, horizon⟩
      | wait target processed maxEvents =>
          simp only [Config.returnTo, record]
          split
          · exact Coherent.propagate _ wellFormed.endFire chained horizon
          · exact ⟨wellFormed.endFire, chained, horizon⟩

theorem Coherent.settle (event : Event S.Callback)
    {outcome : Outcome S.Callback S.World}
    (calls : Simulator.Calls config.sim outcome.sim)
    (wellFormed : config.sim.WellFormed) (chained : Chained rest)
    (horizon : config.sim.runUntil = innermostUntil rest) :
    (config.settle event rest outcome).Coherent := by
  have wellFormedAfter := calls.wellFormed wellFormed
  have horizonAfter := calls.runUntil_eq.trans horizon
  cases outcome with
  | done sim world =>
      exact Coherent.returnTo event wellFormedAfter chained horizonAfter
  | user code sim world => exact ⟨wellFormedAfter, chained, horizonAfter⟩
  | raised error sim world =>
      exact Coherent.propagate error wellFormedAfter chained horizonAfter

theorem Coherent.fire (lawful : S.Lawful) {event : Event S.Callback}
    (next : config.sim.peek.1 = some event)
    (wellFormed : config.sim.WellFormed) (chained : Chained rest)
    (horizon : config.sim.runUntil = innermostUntil rest) :
    (config.fire event rest).Coherent :=
  Coherent.settle event (lawful.enter _ _ _) (wellFormed.fireNext next)
    chained horizon

theorem Coherent.runLoop (lawful : S.Lawful) {until_ maxEvents : Option Int}
    {start : Nat} {prevUntil : Option Int} (wellFormed : config.sim.WellFormed)
    (chained : Chained (.run until_ maxEvents start prevUntil :: rest))
    (horizon : config.sim.runUntil = until_) :
    (config.runLoop until_ maxEvents start prevUntil rest).Coherent := by
  simp only [Config.runLoop]
  split
  · exact ⟨wellFormed.setRunUntil _, chained.2, chained.1⟩
  · split
    · rename_i sim peeked
      have same : sim = config.sim.peek.2 := by rw [peeked]
      rw [same]
      exact ⟨wellFormed.peek.setRunUntil _, chained.2, chained.1⟩
    · rename_i event sim peeked
      split
      · have same : sim = config.sim.peek.2 := by rw [peeked]
        rw [same]
        exact ⟨wellFormed.peek.setRunUntil _, chained.2, chained.1⟩
      · exact Coherent.fire lawful (by rw [peeked]) wellFormed chained horizon

theorem Coherent.waitLoop (lawful : S.Lawful) (target : S.Wait)
    (processed maxEvents : Int) (wellFormed : config.sim.WellFormed)
    (chained : Chained rest)
    (horizon : config.sim.runUntil = innermostUntil rest) :
    (config.waitLoop target processed maxEvents rest).Coherent := by
  simp only [Config.waitLoop]
  split
  · split
    · rename_i sim peeked
      have same : sim = config.sim.peek.2 := by rw [peeked]
      rw [same]
      exact Coherent.propagate _ wellFormed.peek chained horizon
    · rename_i event sim peeked
      exact Coherent.fire lawful (by rw [peeked]) wellFormed chained horizon
  · exact ⟨wellFormed, chained, horizon⟩

theorem Coherent.act (lawful : S.Lawful) (coherent : config.Coherent)
    (decision : Decision S) : (config.act decision).Coherent := by
  cases decision with
  | call op =>
      have calls := lawful.exec op config.sim config.world
      exact ⟨calls.wellFormed coherent.wellFormed, coherent.chained,
        calls.runUntil_eq.trans coherent.horizon⟩
  | step =>
      simp only [Config.act]
      split
      · rename_i sim peeked
        have same : sim = config.sim.peek.2 := by rw [peeked]
        rw [same]
        exact ⟨coherent.wellFormed.peek, coherent.chained, coherent.horizon⟩
      · rename_i event sim peeked
        exact Coherent.fire lawful (by rw [peeked]) coherent.wellFormed
          coherent.chained coherent.horizon
  | run until_ maxEvents =>
      exact ⟨coherent.wellFormed.setRunUntil _,
        ⟨coherent.horizon, coherent.chained⟩, rfl⟩
  | wait target maxEvents =>
      exact ⟨coherent.wellFormed, coherent.chained, coherent.horizon⟩
  | answer value =>
      simp only [Config.act]
      split
      · rename_i event code rest shape
        have chained := coherent.chained
        have horizon := coherent.horizon
        rw [shape] at chained horizon
        exact Coherent.settle event (lawful.resume _ _ _ _)
          coherent.wellFormed chained horizon
      · exact coherent
  | raise error =>
      simp only [Config.act]
      split
      · rename_i event code rest shape
        have chained := coherent.chained
        have horizon := coherent.horizon
        rw [shape] at chained horizon
        exact Coherent.propagate error coherent.wellFormed chained horizon
      · exact coherent

end Preservation

theorem Coherent.advance (lawful : S.Lawful) {config : Config S}
    (coherent : config.Coherent) (decision : Decision S) :
    (config.advance decision).Coherent := by
  have chained := coherent.chained
  have horizon := coherent.horizon
  unfold Config.advance
  split
  · rename_i until_ maxEvents start prevUntil rest shape
    rw [shape] at chained horizon
    exact Coherent.runLoop lawful coherent.wellFormed chained horizon
  · rename_i target processed maxEvents rest shape
    rw [shape] at chained horizon
    exact Coherent.waitLoop lawful target processed maxEvents
      coherent.wellFormed chained horizon
  · exact Coherent.act lawful coherent decision

theorem run_coherent (lawful : S.Lawful) (world : S.World)
    (decisions : List (Decision S)) :
    (Transition.run advance (init world) decisions).Coherent :=
   Transition.run_invariant Coherent
    (fun _ decision coherent => coherent.advance lawful decision)
    (init_coherent world) decisions

end Config

end Pyramulator
