import Mathlib.Algebra.Order.Group.Multiset
import Mathlib.Data.Multiset.Filter
import Mathlib.Data.Nat.Find
import Mathlib.Logic.Function.Iterate
import Pyramulator.Data.Transition

namespace Pyramulator

/-! A clocked machine with bounded room, and a driver that offers it one request after
the other: it lets one event happen after each rejection, and drains the machine in the
end. Cycles in which nothing happens may be run in one go. -/

/-- A machine that takes requests and is ticked. A cycle tells whether it made progress;
one that did not has no answers and leaves the machine busy. -/
structure Clockwork (R A : Type*) where
  State : Type*
  start : State
  valid : R → Bool
  offer : State → R → Bool × State
  progresses : State → Bool
  answers : State → List A
  tick : State → State
  busy : State → Bool
  quiet_answers : ∀ state, progresses state = false → answers state = []
  quiet_busy : ∀ state, progresses state = false → busy (tick state) = true

namespace Clockwork

variable {R A : Type*} (machine : Clockwork R A)

/-- Cycles up to the first that makes progress, and at most so many: their answers, and
the machine after them. -/
def burst : Nat → machine.State → List A × machine.State
  | 0, state => ([], state)
  | cap + 1, state =>
      if machine.progresses state then (machine.answers state, machine.tick state)
      else burst cap (machine.tick state)

theorem burst_progress (cap : Nat) (state : machine.State)
    (progress : machine.progresses state = true) :
    machine.burst (cap + 1) state = (machine.answers state, machine.tick state) := by
  simp [burst, progress]

theorem burst_quiet (cap : Nat) (state : machine.State)
    (quiet : machine.progresses state = false) :
    machine.burst (cap + 1) state = machine.burst cap (machine.tick state) := by
  simp [burst, quiet]

/-- The driver: the requests that are still to be offered, the answers that are on their
way to it, and those that it got. -/
structure Driver where
  state : machine.State
  ticking : Bool
  queue : List A
  left : List R
  answered : List A

namespace Driver

variable {machine}

def init (requests : List R) : machine.Driver where
  state := machine.start
  ticking := false
  queue := []
  left := requests
  answered := []

def event (cap : Nat) (driver : machine.Driver) : machine.Driver :=
  match driver.queue with
  | answer :: rest =>
      { driver with queue := rest, answered := driver.answered ++ [answer] }
  | [] =>
      if driver.ticking then
        let burst := machine.burst cap driver.state
        { driver with
          state := burst.2
          ticking := machine.busy burst.2
          queue := burst.1 }
      else driver

/-- One round: an offer, and an event if it was rejected. A request that cannot be
offered stops the driver. -/
def step (cap : Nat) (driver : machine.Driver) : machine.Driver :=
  match driver.left with
  | request :: rest =>
      if machine.valid request then
        match machine.offer driver.state request with
        | (true, state) => { driver with state, ticking := true, left := rest }
        | (false, state) => { driver with state }.event cap
      else driver
  | [] => driver.event cap

def Finished (driver : machine.Driver) : Prop :=
  driver.left = [] ∧ driver.queue = [] ∧ driver.ticking = false

def Returns (machine : Clockwork R A) (cap : Nat) (requests : List R) (answers : List A) :
    Prop :=
  ∃ rounds, ((step cap)^[rounds] (init requests : machine.Driver)).Finished ∧
    ((step cap)^[rounds] (init requests : machine.Driver)).answered = answers

def Rejected (machine : Clockwork R A) (state : machine.State) (request : R) : Prop :=
  machine.offer state request = (false, state)

/-- In a burst of at most so many cycles, a request would be rejected after each cycle
but the last. -/
def Rejects (machine : Clockwork R A) (request : R) : Nat → machine.State → Prop
  | 0, _ => True
  | cap + 1, state =>
      machine.progresses state = false → cap ≠ 0 →
        Rejected machine (machine.tick state) request ∧
          Rejects machine request cap (machine.tick state)

/-- The request that the driver waits with would be rejected within the next burst. -/
def Blocked (cap : Nat) (driver : machine.Driver) : Prop :=
  ∀ request rest state, driver.left = request :: rest → machine.valid request = true →
    machine.offer driver.state request = (false, state) → driver.queue = [] →
      driver.ticking = true → Rejects machine request cap state

@[simp] theorem event_left (cap : Nat) (driver : machine.Driver) :
    (driver.event cap).left = driver.left := by
  unfold event
  split
  · rfl
  · split <;> rfl

theorem event_idle (cap : Nat) {driver : machine.Driver} (queue : driver.queue = [])
    (stopped : driver.ticking = false) : driver.event cap = driver := by
  simp [event, queue, stopped]

theorem step_drain (cap : Nat) {driver : machine.Driver} (left : driver.left = []) :
    driver.step cap = driver.event cap := by
  simp [step, left]

theorem Finished.step {driver : machine.Driver} (finished : driver.Finished) (cap : Nat) :
    driver.step cap = driver := by
  rw [step_drain cap finished.1, event_idle cap finished.2.1 finished.2.2]

theorem Finished.iterate {driver : machine.Driver} (finished : driver.Finished)
    (cap rounds : Nat) : (Driver.step cap)^[rounds] driver = driver :=
  Function.iterate_fixed (finished.step cap) rounds

theorem Finished.later {driver : machine.Driver} {cap rounds : Nat}
    (finished : ((Driver.step cap)^[rounds] driver).Finished) (more : Nat) :
    (Driver.step cap)^[rounds] ((Driver.step cap)^[more] driver) =
      (Driver.step cap)^[rounds] driver := by
  rw [← Function.iterate_add_apply, Nat.add_comm rounds more, Function.iterate_add_apply,
    finished.iterate]

theorem Returns.unique {cap : Nat} {requests : List R} {answers others : List A}
    (first : Returns machine cap requests answers)
    (second : Returns machine cap requests others) :
    answers = others := by
  obtain ⟨rounds, finished, rfl⟩ := first
  obtain ⟨more, ended, rfl⟩ := second
  have same : (step cap)^[rounds] (init requests : machine.Driver) =
      (step cap)^[more] (init requests) := by
    calc (step cap)^[rounds] (init requests : machine.Driver)
      _ = (step cap)^[more] ((step cap)^[rounds] (init requests)) :=
          (finished.iterate cap more).symm
      _ = (step cap)^[more] (init requests) := ended.later rounds
  rw [same]

/-! ## One burst for several cycles -/

theorem event_covers {driver : machine.Driver} (cap : Nat) (queue : driver.queue = [])
    (ticking : driver.ticking = true)
    (waits : ∀ request rest, driver.left = request :: rest →
      machine.valid request = true ∧ Rejects machine request (cap + 1) driver.state) :
    ∃ rounds, (step 1)^[rounds] (driver.event 1) = driver.event (cap + 1) := by
  induction cap generalizing driver with
  | zero => exact ⟨0, rfl⟩
  | succ cap induction =>
      by_cases progress : machine.progresses driver.state = true
      · exact ⟨0, by simp [event, queue, ticking, burst, progress]⟩
      · have quiet : machine.progresses driver.state = false := by simpa using progress
        let next : machine.Driver := { driver with state := machine.tick driver.state }
        have one : driver.event 1 = next := by
          simp [event, queue, ticking, burst, quiet, machine.quiet_busy _ quiet, next]
        have more : driver.event (cap + 2) = next.event (cap + 1) := by
          simp [event, queue, ticking, burst, quiet, next]
        have again : next.step 1 = next.event 1 := by
          rcases left : driver.left with _ | ⟨request, rest⟩
          · simp [step, next, left]
          · obtain ⟨valid, rejects⟩ := waits request rest left
            have rejected : machine.offer next.state request = (false, next.state) :=
              (rejects quiet (by omega)).1
            have here : next.left = request :: rest := left
            simp only [step, here, valid, if_true, rejected]
            rw [← here]
        obtain ⟨rounds, reached⟩ := @induction next queue ticking fun request rest left =>
          ⟨(waits request rest left).1, ((waits request rest left).2 quiet (by omega)).2⟩
        refine ⟨rounds + 1, ?_⟩
        rw [one, more, Function.iterate_succ_apply, again, reached]

theorem step_covers {driver : machine.Driver} (cap : Nat)
    (blocked : driver.Blocked (cap + 1)) :
    ∃ rounds, 0 < rounds ∧ (step 1)^[rounds] driver = driver.step (cap + 1) := by
  have same (round : driver.step (cap + 1) = driver.step 1) :
      ∃ rounds, 0 < rounds ∧ (step 1)^[rounds] driver = driver.step (cap + 1) :=
    ⟨1, by decide, round.symm⟩
  have happens (waiting : machine.Driver) (one : driver.step 1 = waiting.event 1)
      (more : driver.step (cap + 1) = waiting.event (cap + 1))
      (waits : waiting.queue = [] → waiting.ticking = true → ∀ request rest,
        waiting.left = request :: rest →
          machine.valid request = true ∧
            Rejects machine request (cap + 1) waiting.state) :
      ∃ rounds, 0 < rounds ∧ (step 1)^[rounds] driver = driver.step (cap + 1) := by
    by_cases runs : waiting.queue = [] ∧ waiting.ticking = true
    · obtain ⟨rounds, reached⟩ := event_covers cap runs.1 runs.2 (waits runs.1 runs.2)
      refine ⟨rounds + 1, by omega, ?_⟩
      rw [Function.iterate_succ_apply, one, reached, more]
    · refine same ?_
      rw [one, more]
      rcases queue : waiting.queue with _ | ⟨answer, rest⟩
      · have stopped : waiting.ticking = false := by simpa [queue] using runs
        simp [event, queue, stopped]
      · simp [event, queue]
  rcases left : driver.left with _ | ⟨request, rest⟩
  · refine happens driver (by simp [step, left]) (by simp [step, left]) ?_
    intro _ _ request rest waiting
    rw [left] at waiting
    cases waiting
  · by_cases valid : machine.valid request = true
    · rcases offered : machine.offer driver.state request with ⟨_ | _, state⟩
      · refine happens { driver with state } (by simp [step, left, valid, offered])
          (by simp [step, left, valid, offered]) ?_
        intro queue ticking other others waiting
        obtain ⟨rfl, rfl⟩ := List.cons.inj (left.symm.trans waiting)
        exact ⟨valid, blocked request rest state left valid offered queue ticking⟩
      · exact same (by simp [step, left, valid, offered])
    · exact same (by simp [step, left, valid])

/-- In a run with bursts the request that the driver waits with is always rejected
within a burst. -/
def Backpressured (machine : Clockwork R A) (cap : Nat) (requests : List R) : Prop :=
  ∀ rounds, ((step cap)^[rounds] (init requests : machine.Driver)).Blocked cap

theorem run_covers {cap : Nat} {requests : List R} (rounds : Nat)
    (blocked : ∀ earlier < rounds,
      ((step (cap + 1))^[earlier] (init requests : machine.Driver)).Blocked (cap + 1)) :
    ∃ cycles, rounds ≤ cycles ∧ (step 1)^[cycles] (init requests : machine.Driver) =
      (step (cap + 1))^[rounds] (init requests) := by
  induction rounds with
  | zero => exact ⟨0, Nat.le_refl 0, rfl⟩
  | succ rounds induction =>
      obtain ⟨cycles, bound, same⟩ := induction fun earlier before =>
        blocked earlier (Nat.lt_succ_of_lt before)
      obtain ⟨more, positive, reached⟩ :=
        step_covers cap (blocked rounds (Nat.lt_succ_self _))
      refine ⟨more + cycles, by omega, ?_⟩
      rw [Function.iterate_add_apply, same, reached, Function.iterate_succ_apply']

/-- With such backpressure, bursts change neither the answers nor whether the driver
ends. -/
theorem Backpressured.returns_iff {cap : Nat} {requests : List R}
    (backpressured : Backpressured machine (cap + 1) requests) (answers : List A) :
    Returns machine (cap + 1) requests answers ↔ Returns machine 1 requests answers := by
  constructor
  · rintro ⟨rounds, finished, same⟩
    obtain ⟨cycles, -, reached⟩ := run_covers rounds fun earlier _ =>
      backpressured earlier
    exact ⟨cycles, reached ▸ finished, reached ▸ same⟩
  · rintro ⟨cycles, finished, same⟩
    obtain ⟨later, bound, reached⟩ := run_covers cycles fun earlier _ =>
      backpressured earlier
    have settled : (step 1)^[later] (init requests : machine.Driver) =
        (step 1)^[cycles] (init requests) := by
      obtain ⟨extra, rfl⟩ := Nat.exists_eq_add_of_le' bound
      rw [Function.iterate_add_apply, finished.iterate]
    rw [settled] at reached
    exact ⟨cycles, reached ▸ finished, reached ▸ same⟩

/-! ## Machines that note when they accepted a request -/

/-- The cycle of a state, and the cycles in which the requests were accepted that are not
answered yet. An answer tells when its request was accepted, and a machine that is not
busy has answered all of them. -/
structure Punctual (machine : Clockwork R A) (arrive : A → Int) where
  now : machine.State → Int
  held : machine.State → Multiset Int
  held_start : held machine.start = 0
  rejected : ∀ state request, (machine.offer state request).1 = false →
    (machine.offer state request).2 = state
  accepted : ∀ state request, machine.valid request = true →
    (machine.offer state request).1 = true →
      now (machine.offer state request).2 = now state ∧
        held (machine.offer state request).2 = now state ::ₘ held state
  tick_now : ∀ state, now (machine.tick state) = now state + 1
  tick_held : ∀ state, held state =
    ((machine.answers state).map arrive : Multiset Int) + held (machine.tick state)
  idle : ∀ state, machine.busy state = false → held state = 0

namespace Punctual

variable {arrive : A → Int} (law : Punctual machine arrive)

def arrivals (driver : machine.Driver) : Multiset Int :=
  ((driver.answered ++ driver.queue).map arrive : Multiset Int) + law.held driver.state

theorem burst_spec (cap : Nat) (state : machine.State) :
    law.held state = ((machine.burst cap state).1.map arrive : Multiset Int) +
        law.held (machine.burst cap state).2 ∧
      law.now state ≤ law.now (machine.burst cap state).2 ∧
        (cap ≠ 0 → law.now state < law.now (machine.burst cap state).2) := by
  induction cap generalizing state with
  | zero => exact ⟨(zero_add _).symm, le_refl _, fun nonzero => absurd rfl nonzero⟩
  | succ cap induction =>
      have held := law.tick_held state
      have now := law.tick_now state
      unfold burst
      by_cases progress : machine.progresses state = true
      · simp only [progress, if_true]
        exact ⟨held, by omega, fun _ => by omega⟩
      · obtain ⟨kept, later, -⟩ := induction (machine.tick state)
        rw [machine.quiet_answers state (by simpa using progress)] at held
        simp only [progress, Bool.false_eq_true, if_false]
        refine ⟨?_, by omega, fun _ => by omega⟩
        rw [held]
        exact (zero_add _).trans kept

theorem event_spec (cap : Nat) (driver : machine.Driver) :
    law.arrivals (driver.event cap) = law.arrivals driver ∧
      law.now driver.state ≤ law.now (driver.event cap).state := by
  unfold event
  split
  · rename_i answer rest queue
    refine ⟨?_, le_refl _⟩
    rw [arrivals, arrivals, queue, List.append_assoc, List.singleton_append]
  · rename_i queue
    split
    · obtain ⟨held, later, -⟩ := law.burst_spec cap driver.state
      refine ⟨?_, later⟩
      rw [arrivals, arrivals, queue, held, List.append_nil, List.map_append,
        ← Multiset.coe_add, add_assoc]
    · exact ⟨rfl, le_refl _⟩

theorem step_spec (cap : Nat) (driver : machine.Driver) :
    (law.arrivals (driver.step cap) = law.arrivals driver ∨
        law.arrivals (driver.step cap) = law.now driver.state ::ₘ law.arrivals driver) ∧
      law.now driver.state ≤ law.now (driver.step cap).state := by
  unfold step
  split
  · rename_i request rest left
    split
    · rename_i valid
      split
      · rename_i state offered
        obtain ⟨now, held⟩ := law.accepted driver.state request valid (by rw [offered])
        rw [offered] at now held
        refine ⟨.inr ?_, now.ge⟩
        simp only [arrivals, held, Multiset.add_cons]
      · rename_i state offered
        have same : state = driver.state := by
          have kept := law.rejected driver.state request (by rw [offered])
          rwa [offered] at kept
        subst same
        obtain ⟨arrivals, now⟩ := law.event_spec cap driver
        exact ⟨.inl arrivals, now⟩
    · exact ⟨.inl rfl, le_refl _⟩
  · obtain ⟨arrivals, now⟩ := law.event_spec cap driver
    exact ⟨.inl arrivals, now⟩

abbrev countBy (cycle : Int) (driver : machine.Driver) : Nat :=
  (law.arrivals driver).countP (· ≤ cycle)

theorem countBy_mono (cycle : Int) (cap rounds : Nat) (driver : machine.Driver) :
    law.countBy cycle driver ≤ law.countBy cycle ((step cap)^[rounds] driver) := by
  induction rounds with
  | zero => exact le_refl _
  | succ rounds induction =>
      rw [Function.iterate_succ_apply']
      refine induction.trans ?_
      rcases (law.step_spec cap ((step cap)^[rounds] driver)).1 with same | more
      · rw [countBy, countBy, same]
      · rw [countBy, countBy, more]
        exact Multiset.countP_le_of_le _ (Multiset.le_cons_self _ _)

theorem countBy_past {cycle : Int} (cap rounds : Nat) {driver : machine.Driver}
    (past : cycle < law.now driver.state) :
    law.countBy cycle ((step cap)^[rounds] driver) = law.countBy cycle driver := by
  have both : cycle < law.now ((step cap)^[rounds] driver).state ∧
      law.countBy cycle ((step cap)^[rounds] driver) = law.countBy cycle driver := by
    induction rounds with
    | zero => exact ⟨past, rfl⟩
    | succ rounds induction =>
        obtain ⟨before, same⟩ := induction
        obtain ⟨arrivals, now⟩ := law.step_spec cap ((step cap)^[rounds] driver)
        rw [Function.iterate_succ_apply']
        refine ⟨lt_of_lt_of_le before now, ?_⟩
        rw [← same]
        rcases arrivals with kept | more
        · rw [countBy, countBy, kept]
        · rw [countBy, countBy, more, Multiset.countP_cons_of_neg]
          exact not_le.mpr before
  exact both.2

theorem finished_arrivals (cap rounds : Nat) (requests : List R)
    (finished : ((step cap)^[rounds] (init requests : machine.Driver)).Finished) :
    law.arrivals ((step cap)^[rounds] (init requests : machine.Driver)) =
      (((step cap)^[rounds] (init requests : machine.Driver)).answered.map arrive :
        Multiset Int) := by
  have settled (driver : machine.Driver)
      (idle : driver.ticking = false → law.held driver.state = 0) :
      (driver.event cap).ticking = false → law.held (driver.event cap).state = 0 := by
    unfold event
    split
    · exact idle
    · split
      · exact law.idle _
      · exact idle
  have drained :
      ∀ rounds, ((step cap)^[rounds] (init requests : machine.Driver)).ticking =
      false → law.held ((step cap)^[rounds] (init requests : machine.Driver)).state =
        0 := by
    intro rounds
    induction rounds with
    | zero => exact fun _ => law.held_start
    | succ rounds induction =>
        rw [Function.iterate_succ_apply']
        generalize (step cap)^[rounds] (init requests : machine.Driver) =
          driver at induction
        unfold step
        split
        · rename_i request rest left
          split
          · split
            · exact fun stopped => by cases stopped
            · rename_i state offered
              have same : state = driver.state := by
                have kept := law.rejected driver.state request (by rw [offered])
                rwa [offered] at kept
              subst same
              exact settled driver induction
          · exact induction
        · exact settled driver induction
  obtain ⟨-, queue, stopped⟩ := finished
  rw [arrivals, queue, drained rounds stopped]
  simp

/-- A request that would be accepted within a burst is accepted earlier without it. -/
theorem overtakes {request : R} {rest : List R} (valid : machine.valid request = true)
    (cap : Nat) {driver : machine.Driver} (left : driver.left = request :: rest)
    (queue : driver.queue = []) (ticking : driver.ticking = true)
    (rejected : Rejected machine driver.state request)
    (accepts : ¬ Rejects machine request cap driver.state) :
    ∃ rounds cycle, cycle < law.now (driver.event cap).state ∧
      law.arrivals ((step 1)^[rounds] driver) = cycle ::ₘ law.arrivals driver := by
  induction cap generalizing driver with
  | zero => exact absurd trivial accepts
  | succ cap induction =>
      rw [Rejects] at accepts
      push Not at accepts
      obtain ⟨quiet, more, accepts⟩ := accepts
      let next : machine.Driver := { driver with state := machine.tick driver.state }
      have one : driver.step 1 = next := by
        have rejected : machine.offer driver.state request = (false, driver.state) :=
          rejected
        simp [step, left, valid, rejected, event, queue, ticking, burst, quiet,
          machine.quiet_busy _ quiet, next]
      have goes_on : driver.event (cap + 1) = next.event cap := by
        simp [event, queue, ticking, burst, quiet, next]
      have held : law.held next.state = law.held driver.state := by
        have held := law.tick_held driver.state
        rw [machine.quiet_answers _ quiet] at held
        exact (held.trans (zero_add _)).symm
      have arrivals : law.arrivals next = law.arrivals driver := by
        rw [Punctual.arrivals, Punctual.arrivals, held]
      by_cases again : Rejected machine next.state request
      · obtain ⟨rounds, cycle, before, reached⟩ :=
          @induction next left queue ticking again (accepts again)
        refine ⟨rounds + 1, cycle, goes_on ▸ before, ?_⟩
        rw [Function.iterate_succ_apply, one, reached, arrivals]
      · have accepted : (machine.offer next.state request).1 = true := by
          by_contra refused
          have refused :
              (machine.offer next.state request).1 = false := by simpa using refused
          exact again (Prod.ext refused (law.rejected _ _ refused))
        refine ⟨2, law.now next.state, ?_, ?_⟩
        · rw [goes_on]
          have later := (law.burst_spec cap next.state).2.2 more
          have same : next.event cap = { next with
              state := (machine.burst cap next.state).2
              ticking := machine.busy (machine.burst cap next.state).2
              queue := (machine.burst cap next.state).1 } := by
            simp [event, show next.queue = [] from queue,
              show next.ticking = true from ticking]
          rw [same]
          exact later
        · obtain ⟨-, taken⟩ := law.accepted next.state request valid accepted
          have two : (step 1)^[2] driver =
              { next with
                state := (machine.offer next.state request).2
                ticking := true
                left := rest } := by
            have here : next.left = request :: rest := left
            rcases offered : machine.offer next.state request with ⟨_, state⟩
            obtain rfl : _ = true := by rw [← accepted, offered]
            change (driver.step 1).step 1 = _
            rw [one]
            simp only [step, here, valid, if_true, offered]
          rw [two, ← arrivals]
          simp only [Punctual.arrivals, taken, Multiset.add_cons]

include law in
theorem backpressured_of_returns {cap : Nat} {requests : List R} {answers : List A}
    (coarse : Returns machine (cap + 1) requests answers)
    (fine : Returns machine 1 requests answers) :
    Backpressured machine (cap + 1) requests := by
  classical
  by_contra unblocked
  rw [Backpressured] at unblocked
  push Not at unblocked
  let rounds := Nat.find unblocked
  have first :
      ¬ ((step (cap + 1))^[rounds] (init requests : machine.Driver)).Blocked (cap + 1) :=
    Nat.find_spec unblocked
  obtain ⟨cycles, -, together⟩ := run_covers rounds fun earlier before =>
    not_not.mp (Nat.find_min unblocked before)
  generalize point : (step (cap + 1))^[rounds] (init requests : machine.Driver) = driver
    at first together
  rw [Blocked] at first
  push Not at first
  obtain ⟨request, rest, state, left, valid, offered, queue, ticking, accepts⟩ := first
  obtain rfl : state = driver.state := by
    have kept := law.rejected driver.state request (by rw [offered])
    rwa [offered] at kept
  have coarseStep : driver.step (cap + 1) = driver.event (cap + 1) := by
    simp only [step, left, valid, if_true, offered]
    rw [← left]
  obtain ⟨more, cycle, before, early⟩ :=
    law.overtakes valid (cap + 1) left queue ticking offered accepts
  -- After the round with the burst, nothing is accepted by that cycle any more.
  obtain ⟨coarseRounds, coarseDone, coarseAnswers⟩ := coarse
  obtain ⟨fineRounds, fineDone, fineAnswers⟩ := fine
  have late :
      law.countBy cycle ((step (cap + 1))^[coarseRounds] (driver.step (cap + 1))) =
      law.countBy cycle driver := by
    rw [coarseStep, law.countBy_past _ _ before, countBy, (law.event_spec _ _).1]
  have soon : law.countBy cycle driver <
      law.countBy cycle ((step 1)^[fineRounds] ((step 1)^[more] driver)) := by
    refine lt_of_lt_of_le ?_ (law.countBy_mono cycle 1 fineRounds _)
    rw [countBy, countBy, early,
      Multiset.countP_cons_of_pos (p := (· ≤ cycle)) _ (le_refl cycle)]
    exact Nat.lt_succ_self _
  have coarseEnd : (step (cap + 1))^[coarseRounds] (driver.step (cap + 1)) =
      (step (cap + 1))^[coarseRounds] (init requests : machine.Driver) := by
    rw [← point, ← Function.iterate_succ_apply' (step (cap + 1)), coarseDone.later]
  have fineEnd : (step 1)^[fineRounds] ((step 1)^[more] driver) =
      (step 1)^[fineRounds] (init requests : machine.Driver) := by
    rw [← together, ← Function.iterate_add_apply (step 1) more cycles, fineDone.later]
  rw [coarseEnd, countBy, law.finished_arrivals _ _ _ coarseDone, coarseAnswers] at late
  rw [fineEnd, countBy, countBy, law.finished_arrivals _ _ _ fineDone,
    fineAnswers] at soon
  exact absurd late soon.ne'

end Punctual

end Driver

end Clockwork

end Pyramulator
