import Pyramulator.Benchmark.Scheduled

namespace Pyramulator.BenchmarkBandwidth

/-! When the loop of the bandwidth benchmark ends. -/

variable {engine : Engine (DramCallback Unit)} {periodPs cacheline : Int}
  {policy : TickPolicy} {numRequests queueDepth maxEvents : Int}
  {benchmark : BenchmarkBandwidth engine periodPs cacheline policy}
  {driver : engine.latencyMachine.Driver}

def Accepts (law : engine.Tally) : Prop :=
  ∀ state request, engine.Reaches (fun request => request.type = .read) state →
    law.reads state = 0 → request.type = .read → (engine.send state request).1 = true

/-- The rounds that are left, at most: two for each event, and one for each read. -/
def remaining (numRequests maxEvents : Int)
    (benchmark : BenchmarkBandwidth engine periodPs cacheline policy) : Nat :=
  2 * (maxEvents - benchmark.config.sim.processed).toNat +
    (numRequests - benchmark.issued).toNat + if benchmark.phase = .checking then 1 else 0

theorem simStep_remaining (phase : benchmark.phase = .issuing)
    (more : benchmark.config.sim.processed < maxEvents)
    {called : BenchmarkBandwidth engine periodPs cacheline policy}
    (counts : Counts numRequests queueDepth called driver) (stands : Stands called driver)
    (issued : called.issued = benchmark.issued)
    (processed : called.config.sim.processed = benchmark.config.sim.processed)
    (happens : driver.happens = true) :
    remaining numRequests maxEvents called.simStep <
      remaining numRequests maxEvents benchmark := by
  have stepped := simStep_stepped counts stands
  rw [remaining, remaining, stepped.phase, stepped.issued, stepped.processed,
    happens, issued, processed, phase]
  simp only [if_true, reduceCtorEq, if_false]
  omega

theorem round_remaining (law : engine.Tally) (accepts : Accepts law)
    (deep : 1 ≤ queueDepth)
    (scheduled : Scheduled numRequests queueDepth maxEvents benchmark)
    (goes_on : ¬ (benchmark.round numRequests queueDepth maxEvents).Ended) :
    remaining numRequests maxEvents (benchmark.round numRequests queueDepth maxEvents) <
      remaining numRequests maxEvents benchmark := by
  cases scheduled with
  | checking turns phase running matched stands =>
      rcases round_checks phase with ⟨more, same⟩ | ⟨done, same⟩
      · rw [same, remaining, remaining, phase]
        simp
      · exact absurd (.inl (by rw [same])) goes_on
  | issuing turns window phase more running matched stands filling =>
      have owed := matched.counts.owed law
      by_cases room : Room numRequests queueDepth benchmark
      · rcases round_reads matched.counts stands phase room with
          ⟨after, state, -, -, same, issuing, issued, completed, processed, -⟩ |
          ⟨called, state, -, rejected, same, issued, processed, counts, stands⟩ |
          ⟨-, raised, -⟩
        · have bound := room.2
          rw [same, remaining, remaining, issuing, issued, processed, phase]
          simp only [reduceCtorEq, if_false]
          omega
        · rw [same]
          refine simStep_remaining phase more.2 counts stands issued processed
            (Clockwork.Driver.happens_iff.mpr ?_)
          by_contra rests
          have stopped : window.driver.ticking = false := by
            simpa using (not_or.mp rests).2
          have accepted := accepts window.driver.state (latencyRead benchmark.addr)
            owed.reaches (owed.idle stopped) rfl
          rw [rejected] at accepted
          cases accepted
        · exact absurd (.inr raised) goes_on
      · rw [round_steps phase room]
        refine simStep_remaining phase more.2 matched.counts stands rfl rfl
          (Clockwork.Driver.happens_iff.mpr (owed.happens ?_))
        have completed := matched.counts.completed
        have left := more.1
        unfold Room at room
        omega
  | returned turns phase =>
      exact absurd (by rw [round_ended (.inl phase)]; exact .inl phase) goes_on
  | raised turns window phase =>
      exact absurd (by rw [round_ended (.inr phase)]; exact .inr phase) goes_on

theorem ends (law : engine.Tally) (accepts : Accepts law) (deep : 1 ≤ queueDepth)
    (scheduled : Scheduled numRequests queueDepth maxEvents benchmark) :
    ∃ rounds, ((round numRequests queueDepth maxEvents)^[rounds] benchmark).Ended := by
  induction left : remaining numRequests maxEvents benchmark using Nat.strong_induction_on
    generalizing benchmark with
  | _ left induction =>
      by_cases ended : (benchmark.round numRequests queueDepth maxEvents).Ended
      · exact ⟨1, ended⟩
      · obtain ⟨rounds, ended⟩ := induction _
          (left ▸ round_remaining law accepts deep scheduled ended) scheduled.round rfl
        exact ⟨rounds + 1, ended⟩

theorem ends_at_once (phase : benchmark.phase = .checking)
    (done : ¬ More numRequests maxEvents benchmark) :
    ∃ rounds, ((round numRequests queueDepth maxEvents)^[rounds] benchmark).Ended := by
  rcases round_checks phase with ⟨more, -⟩ | ⟨-, same⟩
  · exact absurd more done
  · exact ⟨1, .inl (by rw [Function.iterate_one, same])⟩

structure Stuck (numRequests queueDepth : Int)
    (benchmark : BenchmarkBandwidth engine periodPs cacheline policy) : Prop where
  counts : Counts numRequests queueDepth benchmark (Clockwork.Driver.init [])
  stands : Stands benchmark (Clockwork.Driver.init [])
  phase : benchmark.phase = .checking ∨ benchmark.phase = .issuing
  processed : benchmark.config.sim.processed = 0

theorem Stuck.round (stuck : Stuck numRequests queueDepth benchmark)
    (shallow : queueDepth ≤ 0) (requests : 0 < numRequests) (events : 0 < maxEvents) :
    Stuck numRequests queueDepth (benchmark.round numRequests queueDepth maxEvents) := by
  obtain ⟨counts, stands, phase, processed⟩ := stuck
  have completed : benchmark.completed = 0 := counts.completed
  rcases phase with phase | phase
  · have more : More numRequests maxEvents benchmark := by
      rw [More, completed, processed]
      exact ⟨requests, events⟩
    rcases round_checks phase with ⟨-, same⟩ | ⟨done, -⟩
    · rw [same]
      exact ⟨{ counts with }, ⟨stands.stack, stands.follows⟩, .inr rfl, processed⟩
    · exact absurd more done
  · have full : ¬ Room numRequests queueDepth benchmark := by
      have positive := counts.issued.1
      unfold Room
      omega
    rw [round_steps phase full]
    have stepped := simStep_stepped counts stands
    have idle := (Clockwork.Driver.init [] : engine.latencyMachine.Driver).event_idle
      policy.cap rfl rfl
    exact ⟨idle ▸ stepped.counts, idle ▸ stepped.stands, .inl stepped.phase,
      stepped.processed.trans processed⟩

theorem never_ends (positive : 0 < periodPs) (shallow : queueDepth ≤ 0)
    (requests : 0 < numRequests) (events : 0 < maxEvents) (rounds : Nat) :
    ¬ ((round numRequests queueDepth maxEvents)^[rounds]
      (start engine periodPs cacheline policy)).Ended := by
  have stuck :
      Stuck numRequests queueDepth ((round numRequests queueDepth maxEvents)^[rounds]
      (start engine periodPs cacheline policy)) := by
    induction rounds with
    | zero =>
        obtain ⟨phase, stands⟩ := start_stands positive
        exact ⟨start_counts, stands, .inl phase, start_processed⟩
    | succ rounds induction =>
        rw [Function.iterate_succ_apply']
        exact induction.round shallow requests events
  rintro (ended | ended) <;> rcases stuck.phase with phase |
    phase <;> rw [ended] at phase <;>
    cases phase

theorem counts_bounds (law : engine.Tally)
    (scheduled : Scheduled numRequests queueDepth maxEvents benchmark) :
    (0 ≤ benchmark.issued - benchmark.completed ∧
      benchmark.issued - benchmark.completed ≤ max queueDepth 0) ∧
      benchmark.issued ≤ max numRequests 0 := by
  obtain ⟨driver, counts⟩ := scheduled.counts
  have owed := (counts.owed law).count
  have completed := counts.completed
  exact ⟨⟨by omega, counts.window⟩, counts.issued.2⟩

def Addressed (engine : Engine (DramCallback Unit))
    (cacheline numRequests queueDepth maxEvents : Int) (policy : TickPolicy) : Prop :=
  ∀ turns, Running engine cacheline numRequests queueDepth maxEvents policy turns →
    (engine.readWindow cacheline numRequests queueDepth policy turns).stuck = false

theorem addressed_of_fits (fits : ∀ index : Int, 0 ≤ index → index < numRequests →
    FitsLong (index * cacheline)) :
    Addressed engine cacheline numRequests queueDepth maxEvents policy :=
  fun turns _ => Clockwork.Window.schedule_free
    (fun index least below => decide_eq_true (fits index least below)) policy.cap turns

theorem addressed_of_returned
    (scheduled : Scheduled numRequests queueDepth maxEvents benchmark)
    (returned : benchmark.phase = .returned) :
    Addressed engine cacheline numRequests queueDepth maxEvents policy := by
  cases scheduled with
  | checking turns phase => rw [returned] at phase; cases phase
  | issuing turns window phase => rw [returned] at phase; cases phase
  | raised turns window phase => rw [returned] at phase; cases phase
  | returned last phase ends matched =>
      intro turns running
      have within : turns ≤ last := by
        by_contra later
        exact running last (by omega) ends.done
      obtain ⟨more, rfl⟩ := Nat.exists_eq_add_of_le within
      by_contra stuck
      have still := Clockwork.Window.schedule_stuck more (Bool.of_not_eq_false stuck)
      have free := matched.free
      rw [Engine.readWindow, still] at free
      cases free

theorem not_addressed_of_raised
    (scheduled : Scheduled numRequests queueDepth maxEvents benchmark)
    (raised : benchmark.phase = .raised) :
    More numRequests maxEvents benchmark ∧
      ¬ Addressed engine cacheline numRequests queueDepth maxEvents policy := by
  cases scheduled with
  | checking turns phase => rw [raised] at phase; cases phase
  | issuing turns window phase => rw [raised] at phase; cases phase
  | returned turns phase => rw [raised] at phase; cases phase
  | raised turns window phase more running matched stuck =>
      refine ⟨more, fun addressed => ?_⟩
      have free := addressed _ running
      rw [stuck] at free
      cases free

theorem returned_done (scheduled : Scheduled numRequests queueDepth maxEvents benchmark)
    (returned : benchmark.phase = .returned) :
    numRequests ≤ benchmark.completed ∨ maxEvents ≤ benchmark.config.sim.processed := by
  cases scheduled with
  | checking turns phase => rw [returned] at phase; cases phase
  | issuing turns window phase => rw [returned] at phase; cases phase
  | raised turns window phase => rw [returned] at phase; cases phase
  | returned turns phase ends matched =>
      have done := mt matched.more_iff.mp (not_not.mpr ends.done)
      unfold More at done
      omega

/-- What the benchmark promises: it ends, its window is never exceeded, and when it ends
the reads are completed or the events are processed. -/
structure Complete (engine : Engine (DramCallback Unit))
    (periodPs cacheline numRequests queueDepth maxEvents : Int) (policy : TickPolicy) :
    Prop where
  ends : ∃ rounds, ((round numRequests queueDepth maxEvents)^[rounds]
    (start engine periodPs cacheline policy)).Ended
  window : ∀ rounds,
    let benchmark := (round numRequests queueDepth maxEvents)^[rounds]
      (start engine periodPs cacheline policy)
    0 ≤ benchmark.issued - benchmark.completed ∧
      benchmark.issued - benchmark.completed ≤ max queueDepth 0 ∧
        benchmark.issued ≤ max numRequests 0
  exit : ∀ rounds,
    let benchmark := (round numRequests queueDepth maxEvents)^[rounds]
      (start engine periodPs cacheline policy)
    benchmark.Ended → numRequests ≤ benchmark.completed ∨
      maxEvents ≤ benchmark.config.sim.processed

/-- For an engine that accepts a read when none is in flight, the benchmark keeps its
promises if and only if the window is open and only addresses are asked for, or there is
nothing to read or no event to wait for. -/
theorem ends_iff (law : engine.Tally) (accepts : Accepts law) (positive : 0 < periodPs) :
    (Complete engine periodPs cacheline numRequests queueDepth maxEvents policy ↔
      1 ≤ queueDepth ∧
        Addressed engine cacheline numRequests queueDepth maxEvents policy ∨
        numRequests ≤ 0 ∨ maxEvents ≤ 0) ∧
    ((∀ index : Int, 0 ≤ index → index < numRequests → FitsLong (index * cacheline)) →
      Addressed engine cacheline numRequests queueDepth maxEvents policy) := by
  have scheduled (rounds : Nat) : Scheduled numRequests queueDepth maxEvents
      ((round numRequests queueDepth maxEvents)^[rounds]
        (start engine periodPs cacheline policy)) := run_scheduled positive rounds
  refine ⟨⟨fun complete => ?_, fun condition => ?_⟩, addressed_of_fits⟩
  · by_contra open_
    push Not at open_
    obtain ⟨shallow, requests, events⟩ := open_
    obtain ⟨rounds, ended⟩ := complete.ends
    have deep : 1 ≤ queueDepth := by
      by_contra shallow
      exact never_ends positive (by omega) requests events rounds ended
    rcases ended with returned | raised
    · exact shallow deep (addressed_of_returned (scheduled rounds) returned)
    · have more := (not_addressed_of_raised (scheduled rounds) raised).1
      have left := complete.exit rounds (.inr raised)
      unfold More at more
      omega
  · have nothing (nothingAsked : numRequests ≤ 0 ∨ maxEvents ≤ 0) :
        ¬ More numRequests maxEvents (start engine periodPs cacheline policy) := by
      intro more
      have completed : (start engine periodPs cacheline policy).completed = 0 := rfl
      rw [More, completed, start_processed] at more
      omega
    refine ⟨?_, fun rounds => ?_, fun rounds ended => ?_⟩
    · rcases condition with ⟨deep, -⟩ | nothingAsked
      · exact ends law accepts deep (start_scheduled positive)
      · exact ends_at_once (start_stands positive).1 (nothing nothingAsked)
    · obtain ⟨⟨least, window⟩, issued⟩ := counts_bounds law (scheduled rounds)
      exact ⟨least, window, issued⟩
    · rcases ended with returned | raised
      · exact returned_done (scheduled rounds) returned
      · obtain ⟨more, large⟩ := not_addressed_of_raised (scheduled rounds) raised
        rcases condition with ⟨-, addressed⟩ | nothingAsked
        · exact absurd addressed large
        · obtain ⟨driver, counts⟩ := (scheduled rounds).counts
          have completed := counts.completed
          unfold More at more
          omega

/-- Five reads through a window of two, on a memory of four slots. -/
theorem ends_fixedLatency :
    let engine := Engine.fixedLatency (DramCallback Unit) 2 4
    (Complete engine 833 64 5 2 1000 .coalesced ↔
      (1 : Int) ≤ 2 ∧ Addressed engine 64 5 2 1000 .coalesced ∨ (5 : Int) ≤ 0 ∨
        (1000 : Int) ≤ 0) ∧
    ((∀ index : Int, 0 ≤ index → index < 5 → FitsLong (index * 64)) →
      Addressed engine 64 5 2 1000 .coalesced) := by
  have accepts : Accepts (Engine.fixedLatencyTally (DramCallback Unit) 2 4) :=
    fun state request reaches unread _ =>
      Engine.fixedLatency_accepts (by decide) request reaches unread
  exact ends_iff _ accepts (by decide)

/-- With a queue depth of zero the benchmark does not end. -/
theorem never_ends_depthZero :
    ¬ ∃ rounds, ((round 1 0 1)^[rounds]
      (start (Engine.fixedLatency (DramCallback Unit) 2 4) 833 64 .coalesced)).Ended := by
  rintro ⟨rounds, ended⟩
  exact never_ends (by decide) (le_refl 0) Int.one_pos Int.one_pos rounds ended

end Pyramulator.BenchmarkBandwidth
