import Pyramulator.Benchmark.BandwidthRuns

namespace Pyramulator

/-! The bandwidth benchmark follows a window of reads that is kept open on the engine
alone, without a simulator. -/

open Clockwork (Window)

def Engine.readWindow (engine : Engine (DramCallback Unit))
    (cacheline numRequests queueDepth : Int)
    (policy : TickPolicy) (turns : Nat) : engine.latencyMachine.Window :=
  Window.schedule (fun index => index * cacheline) numRequests queueDepth
    engine.latencyMachine policy.cap turns

def Engine.ReadWindowEnds (engine : Engine (DramCallback Unit))
    (cacheline numRequests queueDepth maxEvents : Int) (policy : TickPolicy)
    (turns : Nat) :
    Prop :=
  Window.Ends (fun index => index * cacheline) numRequests queueDepth
    engine.latencyMachine policy.cap maxEvents turns

def Engine.departures (engine : Engine (DramCallback Unit))
    (cacheline numRequests queueDepth : Int) (policy : TickPolicy) (turns : Nat) :
    List Int :=
  (engine.readWindow cacheline numRequests queueDepth policy turns).driver.answered.map
    RequestInfo.departCycle

namespace BenchmarkBandwidth

variable {engine : Engine (DramCallback Unit)} {periodPs cacheline : Int}
  {policy : TickPolicy} {numRequests queueDepth maxEvents : Int}

structure Matches (numRequests queueDepth : Int)
    (benchmark : BenchmarkBandwidth engine periodPs cacheline policy)
    (window : engine.latencyMachine.Window) : Prop where
  issued : benchmark.issued = window.issued
  events : benchmark.config.sim.processed = window.events
  free : window.stuck = false
  counts : Counts numRequests queueDepth benchmark window.driver

def Running (engine : Engine (DramCallback Unit))
    (cacheline numRequests queueDepth maxEvents : Int) (policy : TickPolicy)
    (turns : Nat) :
    Prop :=
  ∀ earlier < turns,
    ¬ (engine.readWindow cacheline numRequests queueDepth policy earlier).Done
      numRequests maxEvents

inductive Scheduled (numRequests queueDepth maxEvents : Int)
    (benchmark : BenchmarkBandwidth engine periodPs cacheline policy) : Prop
  | checking (turns : Nat) (phase : benchmark.phase = .checking)
      (running : Running engine cacheline numRequests queueDepth maxEvents policy turns)
      (matched : Matches numRequests queueDepth benchmark
        (engine.readWindow cacheline numRequests queueDepth policy turns))
      (stands : Stands benchmark
        (engine.readWindow cacheline numRequests queueDepth policy turns).driver)
  | issuing (turns : Nat) (window : engine.latencyMachine.Window)
      (phase : benchmark.phase = .issuing) (more : More numRequests maxEvents benchmark)
      (running : Running engine cacheline numRequests queueDepth maxEvents
        policy (turns + 1))
      (matched : Matches numRequests queueDepth benchmark window)
      (stands : Stands benchmark window.driver)
      (filling : (engine.readWindow cacheline numRequests queueDepth policy turns).fill
          (fun index => index * cacheline) numRequests queueDepth =
        window.fill (fun index => index * cacheline) numRequests queueDepth)
  | returned (turns : Nat) (phase : benchmark.phase = .returned)
      (ends : engine.ReadWindowEnds cacheline numRequests queueDepth
        maxEvents policy turns)
      (matched : Matches numRequests queueDepth benchmark
        (engine.readWindow cacheline numRequests queueDepth policy turns))
  | raised (turns : Nat) (window : engine.latencyMachine.Window)
      (phase : benchmark.phase = .raised) (more : More numRequests maxEvents benchmark)
      (running : Running engine cacheline numRequests queueDepth maxEvents
        policy (turns + 1))
      (matched : Matches numRequests queueDepth benchmark window)
      (stuck :
        (engine.readWindow cacheline numRequests queueDepth policy (turns + 1)).stuck =
          true)

variable {benchmark : BenchmarkBandwidth engine periodPs cacheline policy}

theorem Scheduled.counts
    (scheduled : Scheduled numRequests queueDepth maxEvents benchmark) :
    ∃ driver, Counts numRequests queueDepth benchmark driver := by
  cases scheduled with
  | checking turns phase running matched => exact ⟨_, matched.counts⟩
  | issuing turns window phase more running matched => exact ⟨_, matched.counts⟩
  | returned turns phase ends matched => exact ⟨_, matched.counts⟩
  | raised turns window phase more running matched => exact ⟨_, matched.counts⟩

theorem Matches.more_iff {window : engine.latencyMachine.Window}
    (matched : Matches numRequests queueDepth benchmark window) :
    More numRequests maxEvents benchmark ↔ ¬ window.Done numRequests maxEvents := by
  have completed := matched.counts.completed
  have events := matched.events
  unfold More Window.Done
  omega

theorem Running.next {turns : Nat}
    (running : Running engine cacheline numRequests queueDepth maxEvents policy turns)
    (more : ¬ (engine.readWindow cacheline numRequests queueDepth policy turns).Done
      numRequests maxEvents) :
    Running engine cacheline numRequests queueDepth maxEvents policy (turns + 1) := by
  intro earlier below
  rcases Nat.lt_succ_iff_lt_or_eq.mp below with before | rfl
  · exact running earlier before
  · exact more

theorem Scheduled.stepped {turns : Nat} {filled : engine.latencyMachine.Window}
    {called : BenchmarkBandwidth engine periodPs cacheline policy}
    (running : Running engine cacheline numRequests queueDepth maxEvents
      policy (turns + 1))
    (filling : (engine.readWindow cacheline numRequests queueDepth policy turns).fill
      (fun index => index * cacheline) numRequests queueDepth = filled)
    (matched : Matches numRequests queueDepth called filled)
    (stands : Stands called filled.driver) :
    Scheduled numRequests queueDepth maxEvents called.simStep := by
  have stepped := simStep_stepped matched.counts stands
  have next : engine.readWindow cacheline numRequests queueDepth policy (turns + 1) =
      { filled with
        driver := filled.driver.event policy.cap
        events := filled.events + if filled.driver.happens then 1 else 0 } :=
    (Window.schedule_succ _ _).trans (Window.turn_free _ filling matched.free)
  refine .checking (turns + 1) stepped.phase running ?_ ?_
  · rw [next]
    refine ⟨stepped.issued.trans matched.issued, ?_, matched.free, stepped.counts⟩
    rw [stepped.processed, matched.events]
  · rw [next]
    exact stepped.stands

theorem Scheduled.round
    (scheduled : Scheduled numRequests queueDepth maxEvents benchmark) :
    Scheduled numRequests queueDepth maxEvents
      (benchmark.round numRequests queueDepth maxEvents) := by
  cases scheduled with
  | checking turns phase running matched stands =>
      rcases round_checks phase with ⟨more, same⟩ | ⟨done, same⟩
      · rw [same]
        exact .issuing turns _ rfl more (running.next (matched.more_iff.mp more))
          ⟨matched.issued, matched.events, matched.free, { matched.counts with }⟩
          ⟨stands.stack, stands.follows⟩ rfl
      · rw [same]
        exact .returned turns rfl ⟨not_not.mp (mt matched.more_iff.mpr done), running⟩
          ⟨matched.issued, matched.events, matched.free, { matched.counts with }⟩
  | issuing turns window phase more running matched stands filling =>
      have addr : benchmark.addr = window.issued * cacheline := by
        rw [matched.counts.addr, matched.issued]
      by_cases room : Room numRequests queueDepth benchmark
      · have open_ : window.Room numRequests queueDepth := by
          have completed := matched.counts.completed
          have issued := matched.issued
          unfold Room at room
          unfold Window.Room
          omega
        rcases round_reads matched.counts stands phase room with
          ⟨after, state, fits, offered, same, issuing, issued, completed,
            processed, counts, stands⟩ |
          ⟨called, state, fits, offered, same, issued, processed, counts, stands⟩ |
          ⟨large, raised, issued, processed, counts⟩
        · rw [addr] at fits offered
          rw [same]
          refine .issuing turns { window with
            driver := { window.driver with state, ticking := true }
            issued := window.issued + 1 } issuing ?_ running
            ⟨issued.trans (congrArg (· + 1) matched.issued),
              processed.trans matched.events, matched.free, counts⟩ stands ?_
          · rw [More, completed, processed]
            exact more
          · exact filling.trans (Window.fill_accepted open_ (decide_eq_true fits) offered)
        · rw [addr] at fits offered
          rw [same]
          exact .stepped running
            (filling.trans (Window.fill_rejected open_ (decide_eq_true fits) offered))
            ⟨issued.trans matched.issued, processed.trans matched.events, matched.free,
              counts⟩ stands
        · rw [addr] at large
          have stuck : (window.fill (fun index => index * cacheline) numRequests
              queueDepth).stuck = true := by
            rw [Window.fill_stuck open_ (decide_eq_false large)]
          refine .raised turns window raised ?_ running
            ⟨issued.trans matched.issued, processed.trans matched.events, matched.free,
              counts⟩ ?_
          · have kept : (benchmark.round numRequests queueDepth maxEvents).completed =
                benchmark.completed :=
                  counts.completed.trans matched.counts.completed.symm
            rw [More, kept, processed]
            exact more
          · rw [Engine.readWindow, Window.schedule_succ]
            refine Window.turn_stuck _ ?_
            rw [← Engine.readWindow, filling, stuck]
      · have full : ¬ window.Room numRequests queueDepth := by
          have completed := matched.counts.completed
          have issued := matched.issued
          unfold Room at room
          unfold Window.Room
          omega
        rw [round_steps phase room]
        exact .stepped running (filling.trans (Window.fill_full full)) matched stands
  | returned turns phase ends matched =>
      rw [round_ended (.inl phase)]
      exact .returned turns phase ends matched
  | raised turns window phase more running matched stuck =>
      rw [round_ended (.inr phase)]
      exact .raised turns window phase more running matched stuck

theorem start_scheduled (positive : 0 < periodPs) :
    Scheduled numRequests queueDepth maxEvents
      (start engine periodPs cacheline policy) := by
  have begun : (start engine periodPs cacheline policy).phase = .checking ∧
      Stands (start engine periodPs cacheline policy) (Clockwork.Driver.init []) :=
    start_stands positive
  obtain ⟨phase, stands⟩ := begun
  exact .checking 0 phase (fun earlier below => absurd below (Nat.not_lt_zero _))
    ⟨rfl, start_processed, rfl, start_counts⟩ stands

theorem run_scheduled (positive : 0 < periodPs) (rounds : Nat) :
    Scheduled numRequests queueDepth maxEvents
      ((BenchmarkBandwidth.round numRequests queueDepth maxEvents)^[rounds]
        (start engine periodPs cacheline policy)) := by
  induction rounds with
  | zero => exact start_scheduled positive
  | succ rounds induction =>
      rw [Function.iterate_succ_apply']
      exact induction.round

end BenchmarkBandwidth

end Pyramulator
