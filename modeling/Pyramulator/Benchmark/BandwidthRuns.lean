import Pyramulator.Benchmark.Bandwidth
import Pyramulator.Benchmark.LatencyRuns
import Pyramulator.Data.Windowed

namespace Pyramulator

/-! The bandwidth benchmark follows a driver of the machine of reads, which may offer more
than one read at a time. -/

namespace Engine

variable {engine : Engine (DramCallback Unit)}

theorem latencyMachine_answers (law : engine.Ledger) {state : engine.State}
    (made : ∀ request ∈ law.reads state, ∃ addr, request = latencyRead addr) :
    (law.reads state).card = (engine.latencyMachine.answers state).length +
      (law.reads (engine.tick state).2).card := by
  have split := law.tick state
  have told :
      (engine.latencyMachine.answers state).length = (engine.tick state).1.length := by
    change (((engine.tick state).1.filterMap Served.recorded).filterMap
      latencyAnswer).length = _
    rw [List.filterMap_filterMap, List.length_filterMap_eq_countP, List.countP_eq_length]
    intro served member
    have held : served.request ∈ law.reads state := by
      rw [split]
      exact Multiset.mem_add.mpr
        (.inl (Multiset.mem_coe.mpr (List.mem_map_of_mem member)))
    obtain ⟨addr, read⟩ := made served.request held
    simp [Served.recorded, read, latencyRead, latencyAnswer]
  rw [split, Multiset.card_add, Multiset.coe_card, List.length_map, told]

end Engine

/-- The reads of a driver are counted: they are answered, on their way or in the engine,
which ticks as long as it has one. -/
structure Owed {engine : Engine (DramCallback Unit)} (law : engine.Tally)
    (driver : engine.latencyMachine.Driver) (issued : Int) : Prop where
  reaches : engine.Reaches (fun request => request.type = .read) driver.state
  made : ∀ request ∈ law.reads driver.state, ∃ addr, request = latencyRead addr
  count : issued = driver.answered.length + driver.queue.length +
    (law.reads driver.state).card
  idle : driver.ticking = false → law.reads driver.state = 0

namespace Owed

variable {engine : Engine (DramCallback Unit)} {law : engine.Tally}
  {driver : engine.latencyMachine.Driver} {issued : Int}

theorem init : Owed law (Clockwork.Driver.init [] : engine.latencyMachine.Driver) 0 where
  reaches := .fresh
  made request member := by
    have noReads : law.reads engine.fresh = 0 := law.fresh
    change request ∈ law.reads engine.fresh at member
    rw [noReads] at member
    exact absurd member (Multiset.notMem_zero request)
  count := by
    change (0 : Int) = (0 : Nat) + (0 : Nat) + (law.reads engine.fresh).card
    rw [law.fresh]
    rfl
  idle _ := law.fresh

theorem accepts (owed : Owed law driver issued) (addr : Int)
    (accepted : (engine.send driver.state (latencyRead addr)).1 = true)
    (left : List Int) :
    Owed law { driver with
      state := (engine.send driver.state (latencyRead addr)).2
      ticking := true
      left } (issued + 1) := by
  have held := law.accepted driver.state (latencyRead addr) rfl accepted
  refine
    { reaches := owed.reaches.send rfl
      made := fun request member => ?_
      count := ?_
      idle := fun stopped => by cases stopped }
  · change request ∈ law.reads (engine.send driver.state (latencyRead addr)).2 at member
    rw [held] at member
    rcases Multiset.mem_cons.mp member with rfl | older
    · exact ⟨addr, rfl⟩
    · exact owed.made request older
  · change issued + 1 = driver.answered.length + driver.queue.length +
      (law.reads (engine.send driver.state (latencyRead addr)).2).card
    rw [held, Multiset.card_cons, owed.count]
    omega

theorem rejects (owed : Owed law driver issued) (addr : Int)
    (rejected : (engine.send driver.state (latencyRead addr)).1 = false)
    (left : List Int) :
    Owed law { driver with
      state := (engine.send driver.state (latencyRead addr)).2
      left } issued := by
  have held := law.other driver.state (latencyRead addr) (.inr rejected)
  refine
    { reaches := owed.reaches.send rfl
      made := fun request member => owed.made request (held ▸ member)
      count := ?_
      idle := fun stopped => held.trans (owed.idle stopped) }
  rw [owed.count, held]

theorem burst (law : engine.Tally) (cap : Nat) {state : engine.State}
    (reaches : engine.Reaches (fun request => request.type = .read) state)
    (made : ∀ request ∈ law.reads state, ∃ addr, request = latencyRead addr) :
    let after := engine.latencyMachine.burst cap state
    engine.Reaches (fun request => request.type = .read) after.2 ∧
      (∀ request ∈ law.reads after.2, ∃ addr, request = latencyRead addr) ∧
        (law.reads state).card = after.1.length + (law.reads after.2).card := by
  induction cap generalizing state with
  | zero => exact ⟨reaches, made, (Nat.zero_add _).symm⟩
  | succ cap induction =>
      have answered := Engine.latencyMachine_answers law.toLedger made
      have left : ∀ request ∈ law.reads (engine.tick state).2, ∃ addr,
          request = latencyRead addr :=
        fun request member => made request (by
          rw [law.tick state]
          exact Multiset.mem_add.mpr (.inr member))
      by_cases progress : engine.latencyMachine.progresses state = true
      · rw [engine.latencyMachine.burst_progress cap state progress]
        exact ⟨reaches.tick, left, answered⟩
      · have quiet :
            engine.latencyMachine.progresses state = false := by simpa using progress
        rw [engine.latencyMachine.burst_quiet cap state quiet]
        obtain ⟨reached, kept, count⟩ := induction reaches.tick left
        refine ⟨reached, kept, ?_⟩
        rw [answered, engine.latencyMachine.quiet_answers state quiet, List.length_nil,
          Nat.zero_add]
        exact count

theorem event (owed : Owed law driver issued) (cap : Nat) :
    Owed law (driver.event cap) issued := by
  unfold Clockwork.Driver.event
  split
  · rename_i info others queue
    refine { owed with count := ?_ }
    rw [owed.count, queue, List.length_append, List.length_cons]
    simp
    omega
  · rename_i queue
    split
    · obtain ⟨reached, kept, count⟩ := burst law cap owed.reaches owed.made
      refine ⟨reached, kept, ?_, fun stopped => law.idle _ ?_⟩
      · have whole := owed.count
        rw [count, queue, List.length_nil] at whole
        rw [whole]
        push_cast
        omega
      · simpa [Engine.latencyMachine] using stopped
    · exact owed

theorem happens (owed : Owed law driver issued) (more : driver.answered.length < issued) :
    driver.queue ≠ [] ∨ driver.ticking = true := by
  by_contra otherwise
  push Not at otherwise
  obtain ⟨queue, stopped⟩ := otherwise
  have count := owed.count
  rw [queue, owed.idle (by simpa using stopped)] at count
  simp at count
  omega

end Owed

namespace BenchmarkBandwidth

open BenchmarkLatency (Loops Handled)

variable {engine : Engine (DramCallback Unit)} {periodPs cacheline : Int}
  {policy : TickPolicy} {numRequests queueDepth maxEvents : Int}

/-- The variables of the benchmark, for a driver that stands for its simulator. -/
structure Counts (numRequests queueDepth : Int)
    (benchmark : BenchmarkBandwidth engine periodPs cacheline policy)
    (driver : engine.latencyMachine.Driver) : Prop where
  completed : benchmark.completed = driver.answered.length
  departures : benchmark.departures = driver.answered.map RequestInfo.departCycle
  firstClk : benchmark.firstClk = benchmark.departures.head?
  lastClk : benchmark.lastClk = benchmark.departures.getLast?.getD 0
  addr : benchmark.addr = benchmark.issued * cacheline
  issued : 0 ≤ benchmark.issued ∧ benchmark.issued ≤ max numRequests 0
  window : benchmark.issued - benchmark.completed ≤ max queueDepth 0
  owed : ∀ law : engine.Tally, Owed law driver benchmark.issued

structure Stands (benchmark : BenchmarkBandwidth engine periodPs cacheline policy)
    (driver : engine.latencyMachine.Driver) : Prop where
  stack : benchmark.config.stack = []
  follows : ∃ dram : Dram engine, benchmark.config.world.drams () = some dram ∧
    Follows cacheline benchmark.config.sim dram driver

def More (numRequests maxEvents : Int)
    (benchmark : BenchmarkBandwidth engine periodPs cacheline policy) : Prop :=
  benchmark.completed < numRequests ∧ benchmark.config.sim.processed < maxEvents

/-- `sim.step()` processes an event, if there is one. -/
structure Stepped (numRequests queueDepth : Int)
    (benchmark : BenchmarkBandwidth engine periodPs cacheline policy)
    (driver : engine.latencyMachine.Driver) : Prop where
  phase : benchmark.simStep.phase = .checking
  counts : Counts numRequests queueDepth benchmark.simStep (driver.event policy.cap)
  stands : Stands benchmark.simStep (driver.event policy.cap)
  issued : benchmark.simStep.issued = benchmark.issued
  processed : benchmark.simStep.config.sim.processed =
    benchmark.config.sim.processed + if driver.happens then 1 else 0

section

variable {benchmark : BenchmarkBandwidth engine periodPs cacheline policy}
  {driver : engine.latencyMachine.Driver}

theorem settle_handled {after : BenchmarkBandwidth engine periodPs cacheline policy}
    (handled : Handled benchmark.config after.config [] driver) :
    after.settle = after := by
  rcases handled.last with ⟨event, last⟩ | last <;> simp [settle, last]

theorem simStep_ticks (counts : Counts numRequests queueDepth benchmark driver)
    (stands : Stands benchmark driver) (queue : driver.queue = [])
    (ticking : driver.ticking = true) :
    Stepped numRequests queueDepth benchmark driver := by
  obtain ⟨stack, dram, built, follows⟩ := stands
  have handled := Loops.step.ticks stack built follows queue ticking
  let called := { benchmark with
    config := benchmark.config.advance .step
    phase := .checking }
  have standing : called.config.stack = [] := handled.standing
  have same : benchmark.simStep = called := by
    change called.onDone.settle = called
    have silent : called.onDone = called := by simp [onDone, standing]
    rw [silent]
    exact settle_handled handled
  have kept : (driver.event policy.cap).answered = driver.answered := by
    rw [Clockwork.Driver.event, queue, ticking]
    rfl
  refine ⟨?_, ?_, ?_, ?_, ?_⟩ <;> rw [same]
  · refine { counts with completed := ?_, departures := ?_, owed := fun law => ?_ }
    · rw [kept]
      exact counts.completed
    · rw [kept]
      exact counts.departures
    · exact (counts.owed law).event policy.cap
  · exact ⟨standing, handled.follows⟩
  · rw [Clockwork.Driver.happens_iff.mpr (.inr ticking)]
    exact handled.processed

theorem simStep_rests (counts : Counts numRequests queueDepth benchmark driver)
    (stands : Stands benchmark driver) (queue : driver.queue = [])
    (stopped : driver.ticking = false) :
    Stepped numRequests queueDepth benchmark driver := by
  obtain ⟨stack, dram, built, follows⟩ := stands
  have agenda := follows.agenda
  rw [queue, stopped] at agenda
  have exhausted : benchmark.config.sim.peek.1 = none := by
    rw [Simulator.peek_fst, agenda.empty]
    rfl
  have stepped : benchmark.config.advance .step =
      ({ benchmark.config with sim := benchmark.config.sim.peek.2 }.record
        (.stepped false)) := by
    rcases peeked : benchmark.config.sim.peek with ⟨found, sim⟩
    rw [peeked] at exhausted
    obtain rfl : found = none := exhausted
    simp [Config.advance, stack, Config.act, peeked]
  have same : benchmark.simStep = { benchmark with
      config := { benchmark.config with sim := benchmark.config.sim.peek.2 }.record
        (.stepped false)
      phase := .checking } := by
    simp [simStep, stepped, onDone, settle, Config.record, stack]
  have idle := driver.event_idle policy.cap queue stopped
  refine ⟨?_, ?_, ?_, ?_, ?_⟩ <;> rw [same]
  · rw [idle]
    exact { counts with }
  · rw [idle]
    refine ⟨stack, dram, built, { follows with agenda := ?_ }⟩
    rw [queue, stopped]
    exact agenda.jumped agenda.wellFormed.peek_jumped
  · simp [Clockwork.Driver.happens, queue, stopped, Config.record]

theorem simStep_answers (counts : Counts numRequests queueDepth benchmark driver)
    (stands : Stands benchmark driver) {info : RequestInfo} {others : List RequestInfo}
    (queue : driver.queue = info :: others) :
    Stepped numRequests queueDepth benchmark driver := by
  obtain ⟨stack, dram, built, follows⟩ := stands
  obtain ⟨event, standing, handled⟩ := Loops.step.answers stack built follows queue
  let called := { benchmark with
    config := benchmark.config.advance .step
    phase := .checking }
  let answered : BenchmarkBandwidth engine periodPs cacheline policy :=
    { benchmark with
      config := (benchmark.config.advance .step).advance (.answer ())
      phase := .checking
      completed := benchmark.completed + 1
      firstClk := some (benchmark.firstClk.getD info.departCycle)
      lastClk := info.departCycle
      departures := benchmark.departures ++ [info.departCycle] }
  have same : benchmark.simStep = answered := by
    have done : called.onDone = answered := by
      simp only [called, onDone, standing]
      rfl
    change called.onDone.settle = answered
    rw [done]
    exact settle_handled handled
  have taken : (driver.event policy.cap).answered = driver.answered ++ [info] := by
    rw [Clockwork.Driver.event, queue]
  refine ⟨?_, ?_, ?_, ?_, ?_⟩ <;> rw [same]
  · refine
      { completed := ?_
        departures := ?_
        firstClk := ?_
        lastClk := by simp [answered]
        addr := counts.addr
        issued := counts.issued
        window := ?_
        owed := fun law => (counts.owed law).event policy.cap }
    · rw [taken, List.length_append, Nat.cast_add, ← counts.completed]
      rfl
    · rw [taken, List.map_append, ← counts.departures]
      rfl
    · change some (benchmark.firstClk.getD info.departCycle) =
        (benchmark.departures ++ [info.departCycle]).head?
      rw [counts.firstClk]
      cases benchmark.departures <;> rfl
    · have bound := counts.window
      change benchmark.issued - (benchmark.completed + 1) ≤ max queueDepth 0
      omega
  · exact ⟨handled.standing, handled.follows⟩
  · rw [Clockwork.Driver.happens_iff.mpr (.inl (queue ▸ List.cons_ne_nil _ _))]
    exact handled.processed

theorem simStep_stepped (counts : Counts numRequests queueDepth benchmark driver)
    (stands : Stands benchmark driver) :
    Stepped numRequests queueDepth benchmark driver := by
  rcases queue : driver.queue with _ | ⟨info, others⟩
  · cases ticking : driver.ticking with
    | true => exact simStep_ticks counts stands queue ticking
    | false => exact simStep_rests counts stands queue ticking
  · exact simStep_answers counts stands queue

end

def Room (numRequests queueDepth : Int)
    (benchmark : BenchmarkBandwidth engine periodPs cacheline policy) : Prop :=
  benchmark.issued - benchmark.completed < queueDepth ∧ benchmark.issued < numRequests

section

variable {benchmark : BenchmarkBandwidth engine periodPs cacheline policy}
  {driver : engine.latencyMachine.Driver}

theorem read_called (stack : benchmark.config.stack = []) {dram : Dram engine}
    (built : benchmark.config.world.drams () = some dram)
    {result : Except PyError MemoryValue}
    {after : Device (DramCode Unit Unit Empty) engine}
    (submitted : Dram.submit (.dram ()) (.read benchmark.addr (some ()) 0)
      (⟨benchmark.config.sim, dram⟩ : Device (DramCode Unit Unit Empty) engine) =
        (result, after)) :
    DramWorld.exec (.request () (.read benchmark.addr (some ()) 0)) benchmark.config.sim
        benchmark.config.world = (result.map .memory, after.sim,
          benchmark.config.world.put () after.dram) ∧
      benchmark.config.advance (.call (.request () (.read benchmark.addr (some ()) 0))) =
        { benchmark.config with
          sim := after.sim
          world := benchmark.config.world.put () after.dram }.record
            (.called (.request () (.read benchmark.addr (some ()) 0))
              (result.map .memory)) := by
  have called : DramWorld.exec (.request () (.read benchmark.addr (some ()) 0))
      benchmark.config.sim benchmark.config.world = _ :=
        DramWorld.exec_request built submitted
  exact ⟨called, by simp only [Config.advance, stack, Config.act, called]⟩

theorem round_reads (counts : Counts numRequests queueDepth benchmark driver)
    (stands : Stands benchmark driver) (phase : benchmark.phase = .issuing)
    (room : Room numRequests queueDepth benchmark) :
    (∃ after : BenchmarkBandwidth engine periodPs cacheline policy, ∃ state,
      FitsLong benchmark.addr ∧
      engine.send driver.state (latencyRead benchmark.addr) = (true, state) ∧
      benchmark.round numRequests queueDepth maxEvents = after ∧
      after.phase = .issuing ∧ after.issued = benchmark.issued + 1 ∧
      after.completed = benchmark.completed ∧
      after.config.sim.processed = benchmark.config.sim.processed ∧
      Counts numRequests queueDepth after { driver with state, ticking := true } ∧
      Stands after { driver with state, ticking := true }) ∨
    (∃ called : BenchmarkBandwidth engine periodPs cacheline policy, ∃ state,
      FitsLong benchmark.addr ∧
      engine.send driver.state (latencyRead benchmark.addr) = (false, state) ∧
      benchmark.round numRequests queueDepth maxEvents = called.simStep ∧
      called.issued = benchmark.issued ∧
      called.config.sim.processed = benchmark.config.sim.processed ∧
      Counts numRequests queueDepth called { driver with state } ∧
      Stands called { driver with state }) ∨
    ¬ FitsLong benchmark.addr ∧
      (benchmark.round numRequests queueDepth maxEvents).phase = .raised ∧
      (benchmark.round numRequests queueDepth maxEvents).issued = benchmark.issued ∧
      (benchmark.round numRequests queueDepth maxEvents).config.sim.processed =
        benchmark.config.sim.processed ∧
      Counts numRequests queueDepth (benchmark.round numRequests queueDepth maxEvents)
        driver := by
  obtain ⟨stack, dram, built, follows⟩ := stands
  have processed : ((DramWorld.exec (.request () (.read benchmark.addr (some ()) 0) :
      DramOp Unit Unit Empty) benchmark.config.sim
        benchmark.config.world).2.1).processed =
        benchmark.config.sim.processed :=
    ((DramWorld.lawful policy).exec (.request () (.read benchmark.addr (some ()) 0))
      benchmark.config.sim benchmark.config.world).processed_eq
  unfold Room at room
  by_cases fits : FitsLong benchmark.addr
  · obtain ⟨after, submitted, kept⟩ := follows.reads fits driver.left
    rcases offered :
      engine.send driver.state (latencyRead benchmark.addr) with ⟨_ | _, state⟩
    · rw [offered] at submitted kept
      rw [Bool.or_false] at kept
      obtain ⟨called, advanced⟩ := read_called stack built submitted
      rw [called] at processed
      refine .inr (.inl ⟨{ benchmark with
        config := benchmark.config.advance
          (.call (.request () (.read benchmark.addr (some ()) 0))) }, state,
            fits, rfl, ?_⟩)
      have rejects : benchmark.round numRequests queueDepth maxEvents =
          { benchmark with
            config := benchmark.config.advance
              (.call (.request () (.read benchmark.addr (some ()) 0)))
            : BenchmarkBandwidth engine periodPs cacheline policy }.simStep := by
        simp only [round, phase, room, and_self, if_true, called]
        rfl
      rw [rejects, advanced]
      refine ⟨rfl, rfl, processed, ?_, stack, after.dram, DramWorld.put_self _ _ _, kept⟩
      refine { counts with owed := fun law => ?_ }
      have owed := (counts.owed law).rejects benchmark.addr (by rw [offered]) driver.left
      rwa [offered] at owed
    · rw [offered] at submitted kept
      rw [Bool.or_true] at kept
      obtain ⟨called, advanced⟩ := read_called stack built submitted
      rw [called] at processed
      refine .inl ⟨_, state, fits, rfl, rfl, ?_⟩
      have accepts : benchmark.round numRequests queueDepth maxEvents =
          { benchmark with
            config := benchmark.config.advance
              (.call (.request () (.read benchmark.addr (some ()) 0)))
            issued := benchmark.issued + 1
            addr := benchmark.addr + cacheline } := by
        simp only [round, phase, room, and_self, if_true, called]
        rfl
      rw [accepts, advanced]
      refine ⟨phase, rfl, rfl, processed, ?_, stack, after.dram,
        DramWorld.put_self _ _ _, kept⟩
      refine
        { counts with
          addr := ?_
          issued := ?_
          window := ?_
          owed := fun law => ?_ }
      · change benchmark.addr + cacheline = (benchmark.issued + 1) * cacheline
        rw [counts.addr, Int.add_mul, Int.one_mul]
      · have bound := counts.issued
        change 0 ≤ benchmark.issued + 1 ∧ benchmark.issued + 1 ≤ max numRequests 0
        omega
      · change benchmark.issued + 1 - benchmark.completed ≤ max queueDepth 0
        omega
      · have owed :=
          (counts.owed law).accepts benchmark.addr (by rw [offered]) driver.left
        rwa [offered] at owed
  · obtain ⟨error, after, submitted⟩ := follows.raises fits
    obtain ⟨called, advanced⟩ := read_called stack built submitted
    rw [called] at processed
    have raises : benchmark.round numRequests queueDepth maxEvents =
        { benchmark with
          config := benchmark.config.advance
            (.call (.request () (.read benchmark.addr (some ()) 0)))
          phase := .raised } := by
      simp only [round, phase, room, and_self, if_true, called]
      rfl
    rw [raises, advanced]
    exact .inr (.inr ⟨fits, rfl, rfl, processed, { counts with }⟩)

theorem round_checks (phase : benchmark.phase = .checking) :
    (More numRequests maxEvents benchmark ∧
      benchmark.round numRequests queueDepth maxEvents =
        { benchmark with phase := .issuing }) ∨
    ¬ More numRequests maxEvents benchmark ∧
      benchmark.round numRequests queueDepth maxEvents =
        { benchmark with phase := .returned } := by
  by_cases more : More numRequests maxEvents benchmark
  · refine .inl ⟨more, ?_⟩
    rw [round, phase]
    exact if_pos more
  · refine .inr ⟨more, ?_⟩
    rw [round, phase]
    exact if_neg more

theorem round_steps (phase : benchmark.phase = .issuing)
    (full : ¬ Room numRequests queueDepth benchmark) :
    benchmark.round numRequests queueDepth maxEvents = benchmark.simStep := by
  rw [round, phase]
  exact if_neg full

theorem round_ended (ended : benchmark.Ended) :
    benchmark.round numRequests queueDepth maxEvents = benchmark := by
  rcases ended with phase | phase <;> rw [round, phase]

theorem start_processed :
    (start engine periodPs cacheline policy).config.sim.processed = 0 :=
  (DramWorld.exec_calls (.build () : DramOp Unit Unit Empty) Simulator.init
    (DramWorld.create (benchmarkSetup engine periodPs cacheline))).processed_eq

theorem start_counts :
    Counts numRequests queueDepth (start engine periodPs cacheline policy)
    (Clockwork.Driver.init []) where
  completed := rfl
  departures := rfl
  firstClk := rfl
  lastClk := rfl
  addr := (Int.zero_mul _).symm
  issued := ⟨le_refl 0, le_max_right _ _⟩
  window := le_max_right _ _
  owed _ := .init

theorem start_stands (positive : 0 < periodPs) :
    (start engine periodPs cacheline policy).phase = .checking ∧
      Stands (start engine periodPs cacheline policy) (Clockwork.Driver.init []) := by
  obtain ⟨made, stack, dram, built, follows⟩ := BenchmarkLatency.builds positive []
  exact ⟨if_pos made, stack, dram, built, follows⟩

end

end BenchmarkBandwidth

end Pyramulator
