import Mathlib.Data.List.Forall2
import Pyramulator.Data.Method
import Pyramulator.Sim.Coherence

namespace Pyramulator

/-! Simulators that differ in the numbers of their events. Nothing but the order of
the events that were scheduled and the calls of `cancel` depends on the numbers. -/

variable {κ : Type}

structure Event.Same (first second : Event κ) : Prop where
  time : first.time = second.time
  priority : first.priority = second.priority
  callback : first.callback = second.callback

theorem Event.Same.refl (event : Event κ) : Event.Same event event := ⟨rfl, rfl, rfl⟩

structure Event.Alike (ids : Nat → Nat → Prop) (first second : Event κ) : Prop
    extends Event.Same first second where
  seq : ids first.seq second.seq

theorem Event.Alike.mono {ids more : Nat → Nat → Prop} {one other : Event κ}
    (alike : Event.Alike ids one other) (grows : ids ≤ more) :
    Event.Alike more one other :=
  ⟨alike.toSame, grows _ _ alike.seq⟩

namespace Simulator

def paired (ids : Nat → Nat → Prop) (left right : Nat) : Nat → Nat → Prop :=
  fun first second => ids first second ∨ first = left ∧ second = right

structure Alike (ids : Nat → Nat → Prop) (first second : Simulator κ) : Prop where
  first_wellFormed : first.WellFormed
  second_wellFormed : second.WellFormed
  unique : Relator.BiUnique ids
  known : ∀ left right, ids left right → left < first.seq ∧ right < second.seq
  now : first.now = second.now
  runUntil : first.runUntil = second.runUntil
  events : List.Forall₂ (Event.Alike ids) first.liveEvents second.liveEvents

variable {ids : Nat → Nat → Prop} {first second : Simulator κ}

theorem forall₂_insert_of {one other : Event κ} (alike : Event.Alike ids one other)
    {events others : List (Event κ)}
    (each : List.Forall₂ (Event.Alike ids) events others)
    (place : ∀ event ∈ events, ∀ match_ ∈ others, Event.Alike ids event match_ →
      (one.key ≤ event.key ↔ other.key ≤ match_.key)) :
    List.Forall₂ (Event.Alike ids) (Queue.insert Event.key one events)
      (Queue.insert Event.key other others) := by
  induction each with
  | nil => exact .cons alike .nil
  | @cons event match_ events others same rest induction =>
      have before :=
        place event (List.mem_cons_self ..) match_ (List.mem_cons_self ..) same
      rw [Queue.insert_cons, Queue.insert_cons]
      by_cases here : one.key ≤ event.key
      · rw [if_pos here, if_pos (before.mp here)]
        exact .cons alike (.cons same rest)
      · rw [if_neg here, if_neg (mt before.mpr here)]
        refine .cons same (induction fun event member match_ known => ?_)
        exact place event (List.mem_cons_of_mem _ member) match_
          (List.mem_cons_of_mem _ known)

theorem forall₂_insert {one other : Event κ} (alike : Event.Alike ids one other)
    {events others : List (Event κ)}
    (each : List.Forall₂ (Event.Alike ids) events others)
    (last : ∀ event ∈ events, event.seq < one.seq)
    (lastOther : ∀ event ∈ others, event.seq < other.seq) :
    List.Forall₂ (Event.Alike ids) (Queue.insert Event.key one events)
      (Queue.insert Event.key other others) := by
  apply forall₂_insert_of alike each
  intro event member match_ known same
  have newer := last event member
  have newerOther := lastOther match_ known
  rw [Event.key_le_iff, Event.key_le_iff, alike.time, alike.priority, same.time,
    same.priority]
  omega

theorem unique_paired {left right : Nat} (unique : Relator.BiUnique ids)
    (fresh : ∀ other, ¬ ids left other) (freshOther : ∀ other, ¬ ids other right) :
    Relator.BiUnique (paired ids left right) := by
  constructor
  · rintro one two other (known | ⟨rfl, rfl⟩) (same | ⟨named, new⟩)
    · exact unique.1 known same
    · exact absurd (new ▸ known) (freshOther _)
    · exact absurd same (freshOther _)
    · exact named.symm
  · rintro one two other (known | ⟨rfl, rfl⟩) (same | ⟨named, new⟩)
    · exact unique.2 known same
    · exact absurd (named ▸ known) (fresh _)
    · exact absurd same (fresh _)
    · exact new.symm

namespace Alike

theorem refl {sim : Simulator κ} (wellFormed : sim.WellFormed) :
    Alike (fun left right => left = right ∧ left < sim.seq) sim sim where
  first_wellFormed := wellFormed
  second_wellFormed := wellFormed
  unique := ⟨fun _ _ _ one other => one.1.trans other.1.symm,
    fun _ _ _ one other => one.1.symm.trans other.1⟩
  known _ _ match_ := ⟨match_.2, match_.1 ▸ match_.2⟩
  now := rfl
  runUntil := rfl
  events := List.forall₂_same.mpr fun event member =>
    ⟨.refl event, rfl, wellFormed.live_fresh event member⟩

theorem fresh (alike : Alike ids first second) :
    (∀ other, ¬ ids first.seq other) ∧ ∀ other, ¬ ids other second.seq :=
  ⟨fun other known => absurd (alike.known _ other known).1 (lt_irrefl _),
    fun other known => absurd (alike.known other _ known).2 (lt_irrefl _)⟩

theorem push (alike : Alike ids first second) {time : Int} (future : first.now ≤ time)
    (callback : κ) (priority : Int) (source : Option String) :
    Alike (paired ids first.seq second.seq) (first.push time callback priority source).2
      (second.push time callback priority source).2 where
  first_wellFormed := alike.first_wellFormed.push future _ _ _
  second_wellFormed := alike.second_wellFormed.push (alike.now ▸ future) _ _ _
  unique := unique_paired alike.unique alike.fresh.1 alike.fresh.2
  known := by
    rintro left right (known | ⟨rfl, rfl⟩)
    · have older := alike.known left right known
      exact ⟨Nat.lt_succ_of_lt older.1, Nat.lt_succ_of_lt older.2⟩
    · exact ⟨Nat.lt_succ_self _, Nat.lt_succ_self _⟩
  now := alike.now
  runUntil := alike.runUntil
  events := by
    rw [push_liveEvents alike.first_wellFormed, push_liveEvents alike.second_wellFormed]
    have new : Event.Alike (paired ids first.seq second.seq)
        (first.pushed time callback priority) (second.pushed time callback priority) :=
      ⟨⟨rfl, rfl, rfl⟩, Or.inr ⟨rfl, rfl⟩⟩
    apply forall₂_insert new
    · exact alike.events.imp fun one other same => same.mono fun _ _ => Or.inl
    · exact alike.first_wellFormed.live_fresh
    · exact alike.second_wellFormed.live_fresh

theorem named_iff (alike : Alike ids first second) {left right : Nat}
    (match_ : ids left right) {event other : Event κ}
    (same : Event.Alike ids event other) :
    event.seq = left ↔ other.seq = right := by
  constructor
  · rintro rfl
    exact alike.unique.2 same.seq match_
  · rintro rfl
    exact alike.unique.1 same.seq match_

theorem live_iff (alike : Alike ids first second) {left right : Nat}
    (match_ : ids left right) :
    (∃ event ∈ first.liveEvents, event.seq = left) ↔
      ∃ event ∈ second.liveEvents, event.seq = right := by
  have each := alike.events
  generalize first.liveEvents = events at each
  generalize second.liveEvents = others at each
  induction each with
  | nil => simp
  | @cons event other events others same rest induction =>
      simp only [List.mem_cons, exists_eq_or_imp, alike.named_iff match_ same, induction]

theorem cancel (alike : Alike ids first second) {left right : Nat}
    (match_ : ids left right) :
    (first.cancel left).1 = (second.cancel right).1 ∧
      Alike ids (first.cancel left).2 (second.cancel right).2 := by
  constructor
  · rw [Bool.eq_iff_iff, cancel_fst alike.first_wellFormed,
      cancel_fst alike.second_wellFormed]
    exact alike.live_iff match_
  · refine
      { first_wellFormed := alike.first_wellFormed.cancel left
        second_wellFormed := alike.second_wellFormed.cancel right
        unique := alike.unique
        known := by simpa using alike.known
        now := by simpa using alike.now
        runUntil := by simpa using alike.runUntil
        events := ?_ }
    rw [cancel_liveEvents alike.first_wellFormed,
      cancel_liveEvents alike.second_wellFormed]
    refine List.rel_filter (fun event other same => ?_) alike.events
    simpa using not_congr (alike.named_iff match_ same)

theorem congr (alike : Alike ids first second) {after other : Simulator κ}
    (wellFormed : after.WellFormed) (otherWellFormed : other.WellFormed)
    (live : after.liveEvents = first.liveEvents)
    (otherLive : other.liveEvents = second.liveEvents)
    (seq : first.seq ≤ after.seq) (otherSeq : second.seq ≤ other.seq)
    (now : after.now = other.now) (runUntil : after.runUntil = other.runUntil) :
    Alike ids after other where
  first_wellFormed := wellFormed
  second_wellFormed := otherWellFormed
  unique := alike.unique
  known left right match_ :=
    let known := alike.known left right match_
    ⟨known.1.trans_le seq, known.2.trans_le otherSeq⟩
  now := now
  runUntil := runUntil
  events := by
    rw [live, otherLive]
    exact alike.events

theorem peek (alike : Alike ids first second) : Alike ids first.peek.2 second.peek.2 :=
  alike.congr alike.first_wellFormed.peek alike.second_wellFormed.peek
    (peek_liveEvents first)
    (peek_liveEvents second) (le_refl _) (le_refl _) alike.now alike.runUntil

theorem setRunUntil (alike : Alike ids first second) (runUntil : Option Int) :
    Alike ids { first with runUntil } { second with runUntil } :=
  alike.congr (alike.first_wellFormed.setRunUntil _)
    (alike.second_wellFormed.setRunUntil _)
    rfl rfl (le_refl _) (le_refl _) alike.now rfl

theorem endFire (alike : Alike ids first second) :
    Alike ids first.endFire second.endFire :=
  alike.congr alike.first_wellFormed.endFire alike.second_wellFormed.endFire rfl
    rfl (le_refl _)
    (le_refl _) alike.now alike.runUntil

theorem peek_fst (alike : Alike ids first second) :
    Option.Rel (Event.Alike ids) first.peek.1 second.peek.1 := by
  rw [Simulator.peek_fst, Simulator.peek_fst]
  have each := alike.events
  generalize first.liveEvents = events at each
  generalize second.liveEvents = others at each
  cases each with
  | nil => exact .none
  | cons same rest => exact .some same

theorem nextTime (alike : Alike ids first second) :
    first.liveEvents.head?.map Event.time = second.liveEvents.head?.map Event.time := by
  have next := alike.peek_fst
  rw [Simulator.peek_fst, Simulator.peek_fst] at next
  generalize first.liveEvents.head? = event at next
  generalize second.liveEvents.head? = other at next
  cases next with
  | none => rfl
  | some same => exact congrArg some same.time

theorem fireNext (alike : Alike ids first second) {event other : Event κ}
    (next : first.peek.1 = some event) (nextOther : second.peek.1 = some other) :
    Event.Alike ids event other ∧
      Alike ids (first.fireNext event) (second.fireNext other) := by
  have each := alike.events
  rw [fireNext_liveEvents next, fireNext_liveEvents nextOther] at each
  obtain ⟨same, rest⟩ := List.forall₂_cons.mp each
  exact ⟨same,
    { first_wellFormed := alike.first_wellFormed.fireNext next
      second_wellFormed := alike.second_wellFormed.fireNext nextOther
      unique := alike.unique
      known := alike.known
      now := same.time
      runUntil := alike.runUntil
      events := rest }⟩

theorem before (alike : Alike ids first second) {time : Int}
    (before : ∀ event ∈ first.liveEvents, time < event.time) :
    ∀ event ∈ second.liveEvents, time < event.time := by
  have each := alike.events
  generalize first.liveEvents = events at before each
  generalize second.liveEvents = others at each
  induction each with
  | nil => simp
  | cons same rest induction =>
      obtain ⟨head, tail⟩ := List.forall_mem_cons.mp before
      exact List.forall_mem_cons.mpr ⟨same.time ▸ head, induction tail⟩

/-- The second simulator schedules an event before all others and fires it, while the
first one jumps. -/
theorem passing (alike : Alike ids first second) {time : Int} (later : first.now ≤ time)
    (before : ∀ event ∈ first.liveEvents, time < event.time) (callback : κ)
    (priority : Int) (source : Option String) :
    let after := (second.push time callback priority source).2.endFire
    let event := second.pushed time callback priority
    after.peek.1 = some event ∧
      Alike ids { first with now := time } (after.fireNext event) := by
  intro after event
  have wellFormed : after.WellFormed :=
    (alike.second_wellFormed.push (alike.now ▸ later) callback priority source).endFire
  have live : after.liveEvents = event :: second.liveEvents := by
    have pushed : after.liveEvents = Queue.insert Event.key event second.liveEvents :=
      push_liveEvents alike.second_wellFormed time callback priority source
    rw [pushed]
    apply Queue.insert_first
    intro other member
    have soon := alike.before before other member
    exact (Event.key_lt_iff.mpr (.inl soon)).le
  have next : after.peek.1 = some event := by
    rw [Simulator.peek_fst, live]
    rfl
  have fired := fireNext_liveEvents next
  refine ⟨next,
    { first_wellFormed := { alike.first_wellFormed with
        future := fun other member => (before other member).le }
      second_wellFormed := wellFormed.fireNext next
      unique := alike.unique
      known := fun left right match_ =>
        let known := alike.known left right match_
        ⟨known.1, Nat.lt_succ_of_lt known.2⟩
      now := rfl
      runUntil := alike.runUntil
      events := ?_ }⟩
  rw [live] at fired
  rw [← (List.cons.inj fired).2]
  exact alike.events

theorem live (alike : Alike ids first second) : first.live = second.live := by
  rw [alike.first_wellFormed.counted, alike.second_wellFormed.counted,
    alike.events.length_eq]

end Alike

/-! ## An event that one of the simulators is yet to schedule -/

/-- The second simulator is yet to schedule an event, which comes later than what both
schedule before. -/
structure Owes (ids : Nat → Nat → Prop) (event : Event κ) (first second : Simulator κ) :
    Prop where
  first_wellFormed : first.WellFormed
  second_wellFormed : second.WellFormed
  unique : Relator.BiUnique ids
  known : ∀ left right, ids left right → left < first.seq ∧ right < second.seq
  own : ∀ right, ¬ ids event.seq right
  old : event.seq < first.seq
  now : first.now = second.now
  runUntil : first.runUntil = second.runUntil
  later : first.now < event.time
  events : ∃ rest, first.liveEvents = Queue.insert Event.key event rest ∧
    List.Forall₂ (Event.Alike ids) rest second.liveEvents ∧
      ∀ other ∈ rest, other.seq < event.seq ∨ other.time < event.time

namespace Owes

theorem start (alike : Alike ids first second) {time : Int} (later : first.now < time)
    (callback : κ) (priority : Int) (source : Option String) :
    Owes ids (first.pushed time callback priority)
      (first.push time callback priority source).2 second where
  first_wellFormed := alike.first_wellFormed.push later.le _ _ _
  second_wellFormed := alike.second_wellFormed
  unique := alike.unique
  known left right match_ :=
    let known := alike.known left right match_
    ⟨Nat.lt_succ_of_lt known.1, known.2⟩
  own := alike.fresh.1
  old := Nat.lt_succ_self _
  now := alike.now
  runUntil := alike.runUntil
  later := later
  events :=
    ⟨first.liveEvents, push_liveEvents alike.first_wellFormed _ _ _ _, alike.events,
      fun other member => .inl (alike.first_wellFormed.live_fresh other member)⟩

theorem push {event : Event κ} (owes : Owes ids event first second) {time : Int}
    (future : first.now ≤ time) (before : time < event.time) (callback : κ)
    (priority : Int) (source : Option String) :
    Owes (paired ids first.seq second.seq) event
      (first.push time callback priority source).2
      (second.push time callback priority source).2 where
  first_wellFormed := owes.first_wellFormed.push future _ _ _
  second_wellFormed := owes.second_wellFormed.push (owes.now ▸ future) _ _ _
  unique := unique_paired owes.unique
    (fun other known => absurd (owes.known _ other known).1 (lt_irrefl _))
    fun other known => absurd (owes.known other _ known).2 (lt_irrefl _)
  known := by
    rintro left right (known | ⟨rfl, rfl⟩)
    · have older := owes.known left right known
      exact ⟨Nat.lt_succ_of_lt older.1, Nat.lt_succ_of_lt older.2⟩
    · exact ⟨Nat.lt_succ_self _, Nat.lt_succ_self _⟩
  own := by
    rintro right (known | ⟨same, -⟩)
    · exact owes.own right known
    · exact absurd same owes.old.ne
  old := Nat.lt_succ_of_lt owes.old
  now := owes.now
  runUntil := owes.runUntil
  later := owes.later
  events := by
    obtain ⟨rest, live, each, apart⟩ := owes.events
    have distinct : (first.pushed time callback priority).key ≠ event.key :=
      Event.key_ne owes.old.ne'
    refine ⟨Queue.insert Event.key (first.pushed time callback priority) rest, ?_, ?_, ?_⟩
    · rw [push_liveEvents owes.first_wellFormed, live]
      exact Queue.insert_comm distinct rest
    · rw [push_liveEvents owes.second_wellFormed]
      have new : Event.Alike (paired ids first.seq second.seq)
          (first.pushed time callback priority) (second.pushed time callback priority) :=
        ⟨⟨rfl, rfl, rfl⟩, Or.inr ⟨rfl, rfl⟩⟩
      apply forall₂_insert new
      · exact each.imp fun one other same => same.mono fun _ _ => Or.inl
      · intro other member
        apply owes.first_wellFormed.live_fresh
        rw [live]
        exact Queue.mem_insert.mpr (.inr member)
      · exact owes.second_wellFormed.live_fresh
    · intro other member
      rcases Queue.mem_insert.mp member with rfl | member
      · exact .inr before
      · exact apart other member

theorem settle {event : Event κ} (owes : Owes ids event first second)
    (source : Option String) :
    Alike (paired ids event.seq second.seq) first
      (second.push event.time event.callback event.priority source).2 where
  first_wellFormed := owes.first_wellFormed
  second_wellFormed := owes.second_wellFormed.push (owes.now ▸ owes.later.le) _ _ _
  unique := unique_paired owes.unique owes.own
    fun other known => absurd (owes.known other _ known).2 (lt_irrefl _)
  known := by
    rintro left right (known | ⟨rfl, rfl⟩)
    · have older := owes.known left right known
      exact ⟨older.1, Nat.lt_succ_of_lt older.2⟩
    · exact ⟨owes.old, Nat.lt_succ_self _⟩
  now := owes.now
  runUntil := owes.runUntil
  events := by
    obtain ⟨rest, live, each, apart⟩ := owes.events
    rw [live, push_liveEvents owes.second_wellFormed]
    have settled : Event.Alike (paired ids event.seq second.seq) event
        (second.pushed event.time event.callback event.priority) :=
      ⟨⟨rfl, rfl, rfl⟩, Or.inr ⟨rfl, rfl⟩⟩
    apply forall₂_insert_of settled
    · exact each.imp fun one other same => same.mono fun _ _ => Or.inl
    · intro other member match_ known same
      have newer : match_.seq < second.seq :=
        owes.second_wellFormed.live_fresh match_ known
      have before := apart other member
      rw [Event.key_le_iff, Event.key_le_iff, same.time, same.priority]
      rw [same.time] at before
      simp only [pushed]
      omega

end Owes

/-! ## The calls of the kernel -/

section Calls

variable (ids)

theorem paired_grows (left right : Nat) : ids ≤ paired ids left right :=
  fun _ _ known => Or.inl known

abbrev InStep {α : Type} (V : (Nat → Nat → Prop) → α → α → Prop)
    (call other : Simulator κ → Except PyError α × Simulator κ) : Prop :=
  Method.Simulates Alike ids V call other

theorem schedule_inStep (delay : Int) (callback : κ) (priority : Int)
    (source : Option String) :
    InStep ids (fun ids => ids) (fun sim => sim.schedule delay callback priority source)
      fun sim => sim.schedule delay callback priority source := by
  intro world _ first second alike
  by_cases negative : delay < 0
  · simp only [schedule, if_pos negative]
    exact ⟨world, le_refl _, alike, rfl⟩
  · have pushed :=
      alike.push (show first.now ≤ first.now + delay by omega) callback priority
      source
    simp only [schedule, if_neg negative, ← alike.now]
    exact ⟨_, paired_grows world _ _, pushed, Or.inr ⟨rfl, rfl⟩⟩

theorem at_inStep (time : Int) (callback : κ) (priority : Int) (source : Option String) :
    InStep ids (fun ids => ids) (fun sim => sim.at_ time callback priority source)
      fun sim => sim.at_ time callback priority source := by
  intro world _ first second alike
  simp only [at_, alike.now]
  by_cases past : time < second.now
  · simp only [if_pos past]
    exact ⟨world, le_refl _, alike, rfl⟩
  · have pushed :=
      alike.push (show first.now ≤ time by rw [alike.now]; omega) callback priority
      source
    simp only [if_neg past]
    exact ⟨_, paired_grows world _ _, pushed, Or.inr ⟨rfl, rfl⟩⟩

theorem cancel_inStep {left right : Nat} (match_ : ids left right) :
    InStep ids (fun _ => Eq) (fun sim : Simulator κ => (sim.cancel left).map .ok id)
      fun sim => (sim.cancel right).map .ok id := by
  intro world known first second alike
  obtain ⟨answer, after⟩ := alike.cancel (known _ _ match_)
  exact ⟨world, le_refl _, after, answer⟩

theorem nextTime_inStep :
    InStep ids (fun _ => Eq) (fun sim : Simulator κ => (sim.nextTime).map .ok id)
      fun sim => (sim.nextTime).map .ok id := by
  intro world _ first second alike
  refine ⟨world, le_refl _, alike.peek, ?_⟩
  have same := alike.nextTime
  rw [← Simulator.peek_fst, ← Simulator.peek_fst] at same
  exact same

theorem advanceTo_inStep (time : Int) :
    InStep ids (fun _ => Eq) (fun sim : Simulator κ => sim.advanceTo time)
      fun sim => sim.advanceTo time := by
  intro world _ first second alike
  have firstCalls := first.advanceTo_calls time
  have secondCalls := second.advanceTo_calls time
  have result : (first.advanceTo time).1 = (second.advanceTo time).1 ∧
      (first.advanceTo time).2.now = (second.advanceTo time).2.now := by
    have next := alike.peek_fst
    unfold advanceTo
    rw [alike.now]
    split
    · exact ⟨rfl, alike.now⟩
    · rcases before : first.peek with ⟨event, sim⟩
      rcases after : second.peek with ⟨other, target⟩
      have now : sim.now = target.now := by
        have same := alike.peek.now
        rwa [before, after] at same
      have until_ : sim.runUntil = target.runUntil := by
        have same := alike.peek.runUntil
        rwa [before, after] at same
      rw [before, after] at next
      simp only [until_]
      cases next with
      | none =>
          simp only [Option.filter_none]
          split
          · exact ⟨rfl, now⟩
          · exact ⟨rfl, rfl⟩
      | @some event other same =>
          simp only [Option.filter_some, same.time]
          by_cases early : other.time < time
          · simp only [early, decide_true, if_true, same.time]
            exact ⟨trivial, now⟩
          · simp only [early, decide_false, Bool.false_eq_true, if_false]
            split
            · exact ⟨rfl, now⟩
            · exact ⟨rfl, rfl⟩
  refine ⟨world, le_refl _, ?_, ?_⟩
  · exact alike.congr (firstCalls.wellFormed alike.first_wellFormed)
      (secondCalls.wellFormed alike.second_wellFormed) (advanceTo_liveEvents _ _)
      (advanceTo_liveEvents _ _) firstCalls.seq_le secondCalls.seq_le result.2
      (firstCalls.runUntil_eq.trans (alike.runUntil.trans secondCalls.runUntil_eq.symm))
  · rw [result.1]
    cases (second.advanceTo time).1 <;> rfl

end Calls

end Simulator

end Pyramulator
