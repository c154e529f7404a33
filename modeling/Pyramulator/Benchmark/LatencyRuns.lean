import Pyramulator.Benchmark.Latency

namespace Pyramulator

/-! The latency benchmark follows the driver of a clocked machine: the engine with the
reads that the benchmark makes. -/

def latencyRead (addr : Int) : Request (DramCallback Unit) :=
  ⟨addr, .read, 0, .record ⟨⟨0, some ()⟩⟩ 0⟩

/-- What `on_complete` is told of a completion. -/
def latencyAnswer (event : CompletionEvent (ReadWrap (Collector Unit))) :
    Option RequestInfo :=
  event.callback.userCb.callback.map fun _ => event.info

namespace Engine

variable (engine : Engine (DramCallback Unit))

def recorded (state : engine.State) :
    List (CompletionEvent (ReadWrap (Collector Unit))) :=
  (engine.tick state).1.filterMap Served.recorded

def progresses (state : engine.State) : Bool :=
  !(engine.recorded state).isEmpty || engine.pendingRequests (engine.tick state).2 == 0

def latencyMachine : Clockwork Int RequestInfo where
  State := engine.State
  start := engine.fresh
  valid addr := FitsLong addr
  offer state addr := engine.send state (latencyRead addr)
  progresses := engine.progresses
  answers state := (engine.recorded state).filterMap latencyAnswer
  tick state := (engine.tick state).2
  busy state := engine.pendingRequests state != 0
  quiet_answers state quiet := by
    simp only [progresses, Bool.or_eq_false_iff, Bool.not_eq_false',
      List.isEmpty_iff] at quiet
    rw [quiet.1, List.filterMap_nil]
  quiet_busy state quiet := by
    simp only [progresses, Bool.or_eq_false_iff] at quiet
    simpa using quiet.2

end Engine

namespace PyMemorySystem

variable {engine : Engine (DramCallback Unit)} {sys : PyMemorySystem engine}

theorem tick_recorded (drained : sys.completed = []) :
    sys.tick.mem = (engine.tick sys.mem).2 ∧
      sys.tick.completed = engine.recorded sys.mem ∧
        sys.tick.progressed = engine.progresses sys.mem := by
  have completed : sys.tick.completed = engine.recorded sys.mem := by
    rw [tick_eq, drained, List.nil_append, Engine.recorded]
  have mem : sys.tick.mem = (engine.tick sys.mem).2 := by rw [tick_eq]
  refine ⟨mem, completed, ?_⟩
  have pending : (sys.tick.pending == 0) =
      (engine.pendingRequests (engine.tick sys.mem).2 == 0) := by
    rw [pending, mem]
    simp
  rw [progressed, completed, pending, Engine.progresses]

theorem progressLoop_burst (drained : sys.completed = []) (cap : Nat) :
    (tick^[(sys.progressLoop cap).1] sys).completed.filterMap latencyAnswer =
        (engine.latencyMachine.burst cap sys.mem).1 ∧
      (tick^[(sys.progressLoop cap).1] sys).mem =
        (engine.latencyMachine.burst cap sys.mem).2 := by
  induction cap generalizing sys with
  | zero =>
      refine ⟨?_, rfl⟩
      change sys.completed.filterMap latencyAnswer = []
      rw [drained, List.filterMap_nil]
  | succ cap induction =>
      obtain ⟨mem, completed, progressed⟩ := tick_recorded drained
      by_cases progress : sys.tick.progressed = true
      · have runs := engine.latencyMachine.burst_progress cap sys.mem
          (progressed.symm.trans progress)
        rw [runs, progressLoop]
        simp only [progress, if_true, Function.iterate_one, completed, mem]
        exact ⟨rfl, rfl⟩
      · have runs := engine.latencyMachine.burst_quiet cap sys.mem
          (progressed.symm.trans (by simpa using progress))
        have quiet : sys.tick.completed = [] := by
          simp only [PyMemorySystem.progressed, Bool.or_eq_true, not_or] at progress
          simpa using progress.1
        have later := induction quiet
        rw [mem] at later
        rw [runs, progressLoop]
        simp only [progress, Bool.false_eq_true, if_false, Function.iterate_succ_apply]
        exact later

end PyMemorySystem

def TickPolicy.cap : TickPolicy → Nat
  | .coalesced => 1000000
  | .plain => 1

/-! ## The agenda -/

/-- The agenda of the benchmark: the answers that are on their way, at once, and the tick
behind them. -/
structure LatencyAgenda (sim : Simulator (DramCode Unit Unit Empty))
    (queue : List RequestInfo) (ticking : Bool) : Prop where
  wellFormed : sim.WellFormed
  runUntil : sim.runUntil = none
  events : ∃ completions ticks, sim.liveEvents = completions ++ ticks ∧
    completions.map Event.callback =
      queue.map (fun info => .dram () (.completion () info)) ∧
      (∀ event ∈ completions, event.time = sim.now ∧ event.priority = 0) ∧
        ticks.map Event.callback = (if ticking then [.dram () .tick] else []) ∧
          ∀ event ∈ ticks, sim.now < event.time

namespace LatencyAgenda

variable {sim after : Simulator (DramCode Unit Unit Empty)} {queue : List RequestInfo}
  {ticking : Bool}

theorem jumped (agenda : LatencyAgenda sim [] false) {time : Int}
    (jumped : sim.Jumped after time) : LatencyAgenda after [] false where
  wellFormed := jumped.wellFormed
  runUntil := jumped.runUntil.trans agenda.runUntil
  events := by
    obtain ⟨completions, ticks, live, callbacks, -, clocks, -⟩ := agenda.events
    obtain rfl := List.map_eq_nil_iff.mp callbacks
    obtain rfl := List.map_eq_nil_iff.mp clocks
    exact ⟨[], [], jumped.liveEvents.trans live, rfl, by simp, rfl, by simp⟩

theorem complete (agenda : LatencyAgenda sim queue false) (info : RequestInfo) :
    LatencyAgenda (sim.push (sim.now + 0) (.dram () (.completion () info)) 0 none).2
      (queue ++ [info]) false where
  wellFormed := agenda.wellFormed.push (by omega) _ _ _
  runUntil := agenda.runUntil
  events := by
    obtain ⟨completions, ticks, live, callbacks, present, clocks, -⟩ := agenda.events
    obtain rfl := List.map_eq_nil_iff.mp clocks
    rw [List.append_nil] at live
    let event := sim.pushed (sim.now + 0) (.dram () (.completion () info)) 0
    refine ⟨completions ++ [event], [], ?_, ?_, ?_, rfl, by simp⟩
    · rw [Simulator.push_liveEvents agenda.wellFormed, List.append_nil, live]
      refine Queue.insert_last fun other member => Event.key_lt_iff.mpr ?_
      have fresh := agenda.wellFormed.live_fresh other (live ▸ member)
      have same := present other member
      simp only [Simulator.pushed]
      omega
    · rw [List.map_append, callbacks, List.map_append]
      rfl
    · intro other member
      rcases List.mem_append.mp member with old | new
      · exact present other old
      · obtain rfl := List.mem_singleton.mp new
        exact ⟨Int.add_zero _, rfl⟩

theorem schedule (agenda : LatencyAgenda sim queue false) (component : Component) :
    LatencyAgenda (component.pushCycles sim 1 (.dram () .tick) 0) queue true where
  wellFormed := agenda.wellFormed.push (by
    have := component.clk.positive
    omega) _ _ _
  runUntil := agenda.runUntil
  events := by
    obtain ⟨completions, ticks, live, callbacks, present, clocks, -⟩ := agenda.events
    obtain rfl := List.map_eq_nil_iff.mp clocks
    rw [List.append_nil] at live
    have positive := component.clk.positive
    refine ⟨completions, [sim.pushed (sim.now + 1 * component.clk.periodPs)
      (.dram () .tick) 0], ?_, callbacks, present, rfl, ?_⟩
    · rw [component.pushCycles_liveEvents agenda.wellFormed, live]
      refine Queue.insert_last fun other member => Event.key_lt_iff.mpr (.inl ?_)
      have now := (present other member).1
      simp only [Simulator.pushed]
      omega
    · intro event member
      obtain rfl := List.mem_singleton.mp member
      simp only [Simulator.pushed, Component.pushCycles_now]
      omega

theorem empty (agenda : LatencyAgenda sim [] false) : sim.liveEvents = [] := by
  obtain ⟨completions, ticks, live, callbacks, -, clocks, -⟩ := agenda.events
  rw [live, List.map_eq_nil_iff.mp callbacks, List.map_eq_nil_iff.mp clocks,
    List.append_nil]

theorem answer {info : RequestInfo} {rest : List RequestInfo}
    (agenda : LatencyAgenda sim (info :: rest) ticking) :
    ∃ event, sim.peek.1 = some event ∧ event.callback = .dram () (.completion () info) ∧
      LatencyAgenda (sim.fireNext event) rest ticking := by
  obtain ⟨completions, ticks, live, callbacks, present, clocks, later⟩ := agenda.events
  obtain ⟨event, others, rfl, first, remaining⟩ := List.map_eq_cons_iff.mp callbacks
  have next : sim.peek.1 = some event := by rw [Simulator.peek_fst, live]; rfl
  have fired := Simulator.fireNext_liveEvents next
  rw [live, List.cons_append] at fired
  have now : event.time = sim.now := (present event (by simp)).1
  refine ⟨event, next, first,
    { wellFormed := agenda.wellFormed.fireNext next
      runUntil := agenda.runUntil
      events :=
        ⟨others, ticks, (List.cons.inj fired).2.symm, remaining, ?_, clocks, ?_⟩ }⟩
  · intro other member
    rw [Simulator.fireNext_now, now]
    exact present other (by simp [member])
  · intro other member
    rw [Simulator.fireNext_now, now]
    exact later other member

theorem tick (agenda : LatencyAgenda sim [] true) :
    ∃ event, sim.peek.1 = some event ∧ event.callback = .dram () .tick ∧
      LatencyAgenda (sim.fireNext event) [] false := by
  obtain ⟨completions, ticks, live, callbacks, -, clocks, -⟩ := agenda.events
  obtain rfl := List.map_eq_nil_iff.mp callbacks
  obtain ⟨event, others, rfl, first, remaining⟩ := List.map_eq_cons_iff.mp clocks
  obtain rfl := List.map_eq_nil_iff.mp remaining
  have next : sim.peek.1 = some event := by rw [Simulator.peek_fst, live]; rfl
  have fired := Simulator.fireNext_liveEvents next
  rw [live] at fired
  exact ⟨event, next, first,
    { wellFormed := agenda.wellFormed.fireNext next
      runUntil := agenda.runUntil
      events := ⟨[], [], (List.cons.inj fired).2.symm, rfl, by simp, rfl, by simp⟩ }⟩

theorem endFire (agenda : LatencyAgenda sim queue ticking) :
    LatencyAgenda sim.endFire queue ticking :=
  { agenda with wellFormed := agenda.wellFormed.endFire }

theorem handOver (agenda : LatencyAgenda sim queue false)
    (events : List (CompletionEvent (ReadWrap (Collector Unit)))) :
    LatencyAgenda (Dram.handOver (.dram ()) 0 sim (events.map Dram.collected))
      (queue ++ events.filterMap latencyAnswer) false := by
  induction events generalizing sim queue with
  | nil => simpa [Dram.handOver] using agenda
  | cons event rest induction =>
      rcases callback : event.callback.userCb.callback with _ | ⟨⟩
      · have silent : latencyAnswer event = none := by rw [latencyAnswer, callback]; rfl
        rw [List.map_cons, List.filterMap_cons_none silent, Dram.collected, callback]
        exact induction agenda
      · have told : latencyAnswer event = some event.info := by
          rw [latencyAnswer, callback]
          rfl
        rw [List.map_cons, List.filterMap_cons_some told, Dram.collected, callback,
          List.append_cons]
        exact induction (agenda.complete event.info)

end LatencyAgenda

/-! ## The component -/

structure Follows {engine : Engine (DramCallback Unit)} (cacheline : Int)
    (sim : Simulator (DramCode Unit Unit Empty)) (dram : Dram engine)
    (driver : engine.latencyMachine.Driver) : Prop where
  agenda : LatencyAgenda sim driver.queue driver.ticking
  mem : dram.mem.impl.mem = driver.state
  drained : dram.mem.impl.completed = []
  stable : dram.mem.Stable cacheline
  numCores : dram.mem.numCores = 1
  handed : dram.completed = []
  collector : dram.collectorWrap = none ∧ dram.collectors = 0 ∨
    dram.collectorWrap = some ⟨0, some ()⟩ ∧ dram.collectorSrc = some ()
  priority : dram.completionPriority = 0
  ticking : dram.ticking = driver.ticking
  idleTicking : dram.idleTicking = false
  idleRefresh : dram.idleRefresh = false

namespace Follows

variable {engine : Engine (DramCallback Unit)} {cacheline : Int}
  {sim : Simulator (DramCode Unit Unit Empty)} {dram : Dram engine}
  {driver : engine.latencyMachine.Driver}

theorem tick_runs (policy : TickPolicy) (wellFormed : sim.WellFormed)
    (empty : sim.liveEvents = []) (runUntil : sim.runUntil = none) (dram : Dram engine) :
    ∃ after time, sim.Jumped after time ∧
      policy.tick (.dram ()) ⟨sim, dram⟩ =
        Dram.afterTick (.dram ())
          ⟨after, dram.ran (dram.mem.impl.progressLoop policy.cap).1⟩ := by
  cases policy with
  | coalesced =>
      obtain ⟨after, jumped, ticked⟩ := Dram.tick_eq
        (.dram () : DramEvent Unit → DramCode Unit Unit Empty) sim dram wellFormed
      have free : dram.burst sim =
          (dram.mem.impl.progressLoop TickPolicy.coalesced.cap).1 := by
        rw [Dram.burst, empty, runUntil]
        rfl
      rw [free] at ticked
      exact ⟨after, _, jumped, ticked⟩
  | plain =>
      have single : (dram.mem.impl.progressLoop TickPolicy.plain.cap).1 = 1 := by
        simp only [TickPolicy.cap, PyMemorySystem.progressLoop]
        split <;> rfl
      rw [single]
      exact ⟨sim, _, ⟨wellFormed, rfl, rfl, rfl, rfl, rfl⟩, Dram.tickOnce_eq _ sim dram⟩

theorem ticked (follows : Follows cacheline sim dram driver) (policy : TickPolicy)
    (queue : driver.queue = []) (ticking : driver.ticking = true) :
    ∃ event after, sim.peek.1 = some event ∧ event.callback = .dram () .tick ∧
      policy.tick (.dram ()) ⟨sim.fireNext event, dram⟩ = (.ok (), after) ∧
        Follows cacheline after.sim after.dram (driver.event policy.cap) := by
  obtain ⟨agenda, mem, drained, stable, numCores, handed, collector, priority, busy,
    idleTicking, idleRefresh⟩ := follows
  rw [queue, ticking] at agenda
  obtain ⟨event, next, named, fired⟩ := agenda.tick
  obtain ⟨after, time, jumped, runs⟩ := tick_runs policy fired.wellFormed fired.empty
    fired.runUntil dram
  obtain ⟨answers, state⟩ := PyMemorySystem.progressLoop_burst drained policy.cap
  generalize (dram.mem.impl.progressLoop policy.cap).1 = count at runs answers state
  rw [mem] at answers state
  let completed := (PyMemorySystem.tick^[count] dram.mem.impl).completed
  have pushed := (fired.jumped jumped).handOver completed
  rw [List.nil_append] at pushed
  have collected : (dram.ran count).completed = completed.map Dram.collected := by
    rw [Dram.ran, handed, List.nil_append]
  have pending : (dram.ran count).pending =
      engine.pendingRequests (engine.latencyMachine.burst policy.cap driver.state).2 := by
    rw [Dram.ran_pending, PyMemorySystem.pending, state]
  have happened : driver.event policy.cap = { driver with
      state := (engine.latencyMachine.burst policy.cap driver.state).2
      ticking := engine.latencyMachine.busy
        (engine.latencyMachine.burst policy.cap driver.state).2
      queue := (engine.latencyMachine.burst policy.cap driver.state).1 } := by
    simp [Clockwork.Driver.event, queue, ticking]
  refine ⟨event, ?_⟩
  by_cases serviced : (dram.ran count).pending = 0
  · have stops : engine.latencyMachine.busy
        (engine.latencyMachine.burst policy.cap driver.state).2 = false := by
      rw [pending] at serviced
      simpa [Engine.latencyMachine] using serviced
    refine ⟨_, next, named,
      runs.trans (Dram.afterTick_stopped _ _ _ serviced idleRefresh), ?_⟩
    rw [happened, stops]
    refine
      { agenda := ?_
        mem := state
        drained := rfl
        stable := ⟨stable.cacheline, stable.wrap⟩
        numCores, handed := rfl, collector, priority, ticking :=
          rfl, idleTicking, idleRefresh }
    rw [collected, Dram.ran, priority, ← answers]
    exact pushed
  · have goes_on : engine.latencyMachine.busy
        (engine.latencyMachine.burst policy.cap driver.state).2 = true := by
      rw [pending] at serviced
      simpa [Engine.latencyMachine] using serviced
    refine ⟨_, next, named, runs.trans (Dram.afterTick_pending _ _ _ serviced), ?_⟩
    rw [happened, goes_on]
    refine
      { agenda := ?_
        mem := state
        drained := rfl
        stable := ⟨stable.cacheline, stable.wrap⟩
        numCores, handed := rfl, collector, priority
        ticking := busy.trans ticking
        idleTicking, idleRefresh }
    rw [collected, Dram.ran, priority, ← answers]
    exact pushed.schedule _

theorem sends (follows : Follows cacheline sim dram driver) {addr : Int}
    (fits : FitsLong addr) :
    ∃ mem, (dram.mem.send addr .read 0 (some ⟨0, some ()⟩)) =
        (.returned (.flag (engine.send driver.state (latencyRead addr)).1), mem) ∧
      mem.impl.mem = (engine.send driver.state (latencyRead addr)).2 ∧
        mem.impl.completed = [] ∧ mem.Stable cacheline ∧ mem.numCores = 1 := by
  obtain ⟨wrap, stable, impl⟩ := MemorySystem.readCb_stable follows.stable
    (some (⟨0, some ()⟩ : Collector Unit))
  have numCores :
      (dram.mem.readCb (some (⟨0, some ()⟩ : Collector Unit))).2.numCores = 1 :=
    (MemorySystem.readCb_numCores _ _).trans follows.numCores
  have checked : dram.mem.checkCoreId 0 = .ok () := by
    rw [MemorySystem.checkCoreId, follows.numCores]
    rfl
  have core : FitsInt 0 := ⟨by decide, by decide⟩
  simp only [MemorySystem.send, checked, reduceCtorEq, if_false]
  rcases cached :
    dram.mem.readCb (some (⟨0, some ()⟩ : Collector Unit)) with ⟨callback, mem⟩
  rw [cached] at wrap stable impl numCores
  simp only at wrap stable impl numCores
  rw [wrap]
  simp only [PyMemorySystem.send, fits, core, and_self, if_true,
    PyMemorySystem.sendRequest, impl, follows.mem]
  exact ⟨_, rfl, rfl, follows.drained, ⟨stable.cacheline, stable.wrap⟩, numCores⟩

theorem refuses (follows : Follows cacheline sim dram driver) {addr : Int}
    (large : ¬ FitsLong addr) (wrap : Collector Unit) :
    ∃ error mem, dram.mem.send addr .read 0 (some wrap) = (.raised error, mem) := by
  have checked : dram.mem.checkCoreId 0 = .ok () := by
    rw [MemorySystem.checkCoreId, follows.numCores]
    rfl
  simp only [MemorySystem.send, checked, reduceCtorEq, if_false,
    PyMemorySystem.send, large, false_and]
  exact ⟨_, _, rfl⟩

theorem collected (follows : Follows cacheline sim dram driver) :
    (dram.collector (some ())).1 = ⟨0, some ()⟩ ∧
      Follows cacheline sim (dram.collector (some ())).2 driver := by
  rcases follows.collector with ⟨uncached, first⟩ | ⟨cached, source⟩
  · simp only [Dram.collector, uncached, first, true_and]
    exact { follows with collector := .inr ⟨rfl, rfl⟩ }
  · simp only [Dram.collector, cached, source, if_true, true_and]
    exact follows

theorem reads (follows : Follows cacheline sim dram driver) {addr : Int}
    (fits : FitsLong addr) (left : List Int) :
    ∃ after, Dram.submit (.dram ()) (.read addr (some ()) 0)
          (⟨sim, dram⟩ : Device (DramCode Unit Unit Empty) engine) =
        (.ok (.flag (engine.send driver.state (latencyRead addr)).1), after) ∧
      Follows cacheline after.sim after.dram
        { driver with
          state := (engine.send driver.state (latencyRead addr)).2
          ticking := driver.ticking || (engine.send driver.state (latencyRead addr)).1
          left } := by
  obtain ⟨wrap, cached⟩ := follows.collected
  obtain ⟨mem, returned, state, drained, stable, numCores⟩ := cached.sends fits
  generalize engine.send driver.state (latencyRead addr) = answer at returned state ⊢
  obtain ⟨accepted, next⟩ := answer
  have sent :
      Device.onMem ((DramRequest.read addr (some ()) 0).op (dram.collector (some ())).1)
      (⟨sim, (dram.collector (some ())).2⟩ : Device (DramCode Unit Unit Empty) engine) =
        _ :=
    Dram.onMem_returned _ (by rw [wrap]; exact returned)
  cases accepted with
  | false =>
      have rejected :=
        Dram.method_rejected (.dram ()) sim (.read addr (some ()) 0) dram sent rfl
      rw [Dram.submit_eq, rejected]
      refine ⟨_, rfl, ?_⟩
      rw [Bool.or_false]
      exact
        { cached with
          mem := state
          drained, stable, numCores }
  | true =>
      have read := Dram.method_read (.dram ()) sim (.read addr (some ()) 0) dram sent rfl
        (by simp [DramRequest.type])
      rw [Bool.or_true]
      by_cases busy : driver.ticking = true
      · have starts := Dram.startTicking_busy
          (.dram () : DramEvent Unit → DramCode Unit Unit Empty) sim
          { (dram.collector (some ())).2 with mem } (cached.ticking.trans busy)
        rw [starts] at read
        rw [Dram.submit_eq, read]
        have agenda := cached.agenda
        rw [busy] at agenda
        exact ⟨_, rfl,
          { cached with
            agenda
            mem := state
            drained, stable, numCores
            ticking := cached.ticking.trans busy }⟩
      · have stopped : driver.ticking = false := by simpa using busy
        have starts := Dram.startTicking_stopped
          (.dram () : DramEvent Unit → DramCode Unit Unit Empty) sim
          { (dram.collector (some ())).2 with mem } (cached.ticking.trans stopped)
          cached.idleTicking
        rw [starts] at read
        rw [Dram.submit_eq, read]
        have agenda := cached.agenda
        rw [stopped] at agenda
        exact ⟨_, rfl,
          { cached with
            agenda := agenda.schedule _
            mem := state
            drained, stable, numCores
            ticking := rfl
            idleTicking := rfl }⟩

theorem raises (follows : Follows cacheline sim dram driver) {addr : Int}
    (large : ¬ FitsLong addr) :
    ∃ error after, Dram.submit (.dram ()) (.read addr (some ()) 0)
      (⟨sim, dram⟩ : Device (DramCode Unit Unit Empty) engine) =
        (.error error, after) := by
  obtain ⟨-, cached⟩ := follows.collected
  obtain ⟨error, mem, refused⟩ := cached.refuses large (dram.collector (some ())).1
  have sent :
      Device.onMem ((DramRequest.read addr (some ()) 0).op (dram.collector (some ())).1)
      (⟨sim, (dram.collector (some ())).2⟩ : Device (DramCode Unit Unit Empty) engine) =
        _ :=
    Dram.onMem_refused _ refused
  rw [Dram.submit_eq,
    Dram.method_raised (.dram ()) sim (.read addr (some ()) 0) dram sent]
  exact ⟨error, _, rfl⟩

theorem opened (follows : Follows cacheline sim dram driver) :
    Follows cacheline { sim with runUntil := none } dram driver :=
  { follows with
    agenda :=
      { wellFormed := follows.agenda.wellFormed.setRunUntil none
        runUntil := rfl
        events := follows.agenda.events } }

end Follows

/-! ## The benchmark -/

namespace BenchmarkLatency

variable {engine : Engine (DramCallback Unit)} {periodPs cacheline : Int}
  {policy : TickPolicy}

/-- The frames that the benchmark lets call an event, and those that are left when the
event returns: `step`, or the loop of `run_until_idle`. -/
inductive Loops {S : System} : List (Frame S) → List (Frame S) → Prop
  | step : Loops [.step] []
  | run (start : Nat) : Loops [.run none none start none] [.run none none start none]

namespace Loops

variable {S : System} {rest stack : List (Frame S)} {config : Config S}
  {event : Event S.Callback}

theorem fires (loops : Loops rest stack) (here : config.stack = stack)
    (next : config.sim.peek.1 = some event) :
    config.advance .step = config.fire event rest := by
  rcases peeked : config.sim.peek with ⟨found, sim⟩
  rw [peeked] at next
  obtain rfl : found = some event := next
  cases loops with
  | step => simp only [Config.advance, here, Config.act, peeked]
  | run start => simp [Config.advance, here, Config.runLoop, peeked]

structure Back (after : Config S) (sim : Simulator S.Callback) (world : S.World)
    (stack : List (Frame S)) : Prop where
  sim : after.sim = sim.endFire
  world : after.world = world
  stack : after.stack = stack
  last : (∃ event, after.log.getLast? = some (.returned event)) ∨
    after.log.getLast? = some (.stepped true)

theorem back (loops : Loops rest stack) (config : Config S) (event : Event S.Callback) :
    Back (config.returnTo event rest) config.sim config.world stack := by
  cases loops with
  | step =>
      exact ⟨rfl, rfl, rfl, .inr (by simp [Config.returnTo, Config.record])⟩
  | run start =>
      exact ⟨rfl, rfl, rfl, .inl ⟨event, by simp [Config.returnTo, Config.record]⟩⟩

variable {sim : Simulator S.Callback} {world : S.World}

theorem done (loops : Loops rest stack) (here : config.stack = stack)
    (next : config.sim.peek.1 = some event)
    (entered : S.enter event.callback (config.sim.fireNext event) config.world =
      .done sim world) : Back (config.advance .step) sim world stack := by
  rw [loops.fires here next]
  simp only [Config.fire, entered, Config.settle]
  exact loops.back _ event

theorem answered (loops : Loops rest stack) (here : config.stack = stack)
    (next : config.sim.peek.1 = some event) {code : S.Callback}
    (entered : S.enter event.callback (config.sim.fireNext event) config.world =
      .user code sim world) (answer : S.Answer)
    (resumed : S.resume code answer sim world = .done sim world) :
    (config.advance .step).stack = .callback event code :: rest ∧
      Back ((config.advance .step).advance (.answer answer)) sim world stack := by
  rw [loops.fires here next]
  simp only [Config.fire, entered, Config.settle, Config.advance, Config.act, resumed,
    true_and]
  exact loops.back _ event

end Loops

structure Handled
    (config after : Config (benchmarkSystem engine periodPs cacheline policy))
    (stack : List (Frame (benchmarkSystem engine periodPs cacheline policy)))
    (driver : engine.latencyMachine.Driver) : Prop where
  back : ∃ sim world, Loops.Back after sim world stack
  processed : after.sim.processed = config.sim.processed + 1
  follows : ∃ dram : Dram engine, after.world.drams () = some dram ∧
    Follows cacheline after.sim dram driver

section

variable {config after : Config (benchmarkSystem engine periodPs cacheline policy)}
  {rest stack : List (Frame (benchmarkSystem engine periodPs cacheline policy))}
  {driver : engine.latencyMachine.Driver}

theorem Handled.standing (handled : Handled config after stack driver) :
    after.stack = stack :=
  handled.back.elim fun _ ⟨_, back⟩ => back.stack

theorem Handled.last (handled : Handled config after stack driver) :
    (∃ event, after.log.getLast? = some (.returned event)) ∨
      after.log.getLast? = some (.stepped true) :=
  handled.back.elim fun _ ⟨_, back⟩ => back.last

theorem Loops.ticks (loops : Loops rest stack) (here : config.stack = stack)
    {dram : Dram engine} (built : config.world.drams () = some dram)
    (follows : Follows cacheline config.sim dram driver)
    (queue : driver.queue = []) (ticking : driver.ticking = true) :
    Handled config (config.advance .step) stack (driver.event policy.cap) := by
  obtain ⟨event, after, next, named, ticked, follows⟩ :=
    follows.ticked policy queue ticking
  have entered : DramWorld.enter policy (.dram () .tick : DramCode Unit Unit Empty)
      (config.sim.fireNext event) config.world = _ :=
    DramWorld.enter_ticked built ticked
  rw [← named] at entered
  have back := loops.done here next entered
  have calls := (DramWorld.lawful policy).enter event.callback (config.sim.fireNext event)
    config.world
  change Simulator.Calls _
    (DramWorld.enter policy event.callback _ config.world).sim at calls
  rw [entered] at calls
  refine ⟨⟨_, _, back⟩, ?_, after.dram, ?_, ?_⟩
  · rw [back.sim, Simulator.endFire_processed]
    exact congrArg (· + 1) (calls.processed_eq.trans (Simulator.fireNext_processed _ _))
  · rw [back.world]
    exact DramWorld.put_self _ _ _
  · rw [back.sim]
    exact { follows with agenda := follows.agenda.endFire }

theorem Loops.answers (loops : Loops rest stack) (here : config.stack = stack)
    {dram : Dram engine} (built : config.world.drams () = some dram)
    (follows : Follows cacheline config.sim dram driver)
    {info : RequestInfo} {others : List RequestInfo}
    (queue : driver.queue = info :: others) :
    ∃ event, (config.advance .step).stack =
        .callback event (.dram () (.completion () info)) :: rest ∧
      Handled config ((config.advance .step).advance (.answer ())) stack
        (driver.event policy.cap) := by
  have agenda := follows.agenda
  rw [queue] at agenda
  obtain ⟨event, next, named, fired⟩ := agenda.answer
  have entered : (benchmarkSystem engine periodPs cacheline policy).enter event.callback
      (config.sim.fireNext event) config.world =
        .user (.dram () (.completion () info))
          (config.sim.fireNext event) config.world := by
    rw [named]
    rfl
  obtain ⟨standing, back⟩ := loops.answered here next entered () rfl
  have taken : driver.event policy.cap =
      { driver with queue := others, answered := driver.answered ++ [info] } := by
    rw [Clockwork.Driver.event, queue]
  refine ⟨event, standing, ⟨_, _, back⟩, ?_, dram, ?_, ?_⟩
  · rw [back.sim, Simulator.endFire_processed, Simulator.fireNext_processed]
  · rw [back.world]
    exact built
  · rw [back.sim, taken]
    exact { follows with agenda := fired.endFire }

end

inductive Stage (benchmark : BenchmarkLatency engine periodPs cacheline policy)
    (driver : engine.latencyMachine.Driver) : Prop
  | issuing (phase : benchmark.phase = .issuing) (stack : benchmark.config.stack = [])
      (left : benchmark.left = driver.left) (dram : Dram engine)
      (built : benchmark.config.world.drams () = some dram)
      (follows : Follows cacheline benchmark.config.sim dram driver)
  | draining (phase : benchmark.phase = .draining) (start : Nat)
      (stack : benchmark.config.stack = [.run none none start none])
      (left : driver.left = []) (dram : Dram engine)
      (built : benchmark.config.world.drams () = some dram)
      (follows : Follows cacheline benchmark.config.sim dram driver)
  | returned (phase : benchmark.phase = .returned) (finished : driver.Finished)
  | raised (phase : benchmark.phase = .raised) (addr : Int) (rest : List Int)
      (left : driver.left = addr :: rest) (large : ¬ FitsLong addr)

theorem event_follows {benchmark : BenchmarkLatency engine periodPs cacheline policy}
    {driver : engine.latencyMachine.Driver} {rest stack : List (Frame _)}
    (loops : Loops rest stack) (here : benchmark.config.stack = stack)
    {dram : Dram engine} (built : benchmark.config.world.drams () = some dram)
    (follows : Follows cacheline benchmark.config.sim dram driver)
    (completed : benchmark.completed = driver.answered)
    (happens : driver.queue ≠ [] ∨ driver.ticking = true) :
    benchmark.event.phase = benchmark.phase ∧ benchmark.event.left = benchmark.left ∧
      benchmark.event.config.stack = stack ∧
        benchmark.event.completed = (driver.event policy.cap).answered ∧
          ∃ after, benchmark.event.config.world.drams () = some after ∧
            Follows cacheline benchmark.event.config.sim after
              (driver.event policy.cap) := by
  have settled {after : BenchmarkLatency engine periodPs cacheline policy}
      (handled : Handled benchmark.config after.config stack (driver.event policy.cap)) :
      after.settle = after := by
    rcases handled.last with ⟨event, last⟩ | last <;> simp [settle, last]
  rcases queue : driver.queue with _ | ⟨info, others⟩
  · have ticking : driver.ticking = true := by simpa [queue] using happens
    have handled := loops.ticks here built follows queue ticking
    let called := { benchmark with config := benchmark.config.advance .step }
    have silent : called.onComplete = called := by
      have standing : called.config.stack = stack := handled.standing
      cases loops <;> simp [onComplete, standing]
    have same : benchmark.event = called := by
      change called.onComplete.settle = called
      rw [silent]
      exact settled handled
    rw [same]
    refine ⟨rfl, rfl, handled.standing, ?_, handled.follows⟩
    rw [Clockwork.Driver.event, queue, ticking]
    exact completed
  · obtain ⟨event, standing, handled⟩ := loops.answers here built follows queue
    let answered : BenchmarkLatency engine periodPs cacheline policy :=
      { benchmark with
        config := (benchmark.config.advance .step).advance (.answer ())
        completed := benchmark.completed ++ [info] }
    have same : benchmark.event = answered := by
      have called : ({ benchmark with config := benchmark.config.advance .step } :
          BenchmarkLatency engine periodPs cacheline policy).onComplete = answered := by
        simp only [onComplete, standing]
        rfl
      rw [BenchmarkLatency.event, called]
      exact settled handled
    rw [same]
    refine ⟨rfl, rfl, handled.standing, ?_, handled.follows⟩
    rw [Clockwork.Driver.event, queue]
    exact congrArg (· ++ [info]) completed

structure Tracks (benchmark : BenchmarkLatency engine periodPs cacheline policy)
    (driver : engine.latencyMachine.Driver) : Prop where
  completed : benchmark.completed = driver.answered
  stage : Stage benchmark driver

theorem event_issuing {benchmark : BenchmarkLatency engine periodPs cacheline policy}
    {driver : engine.latencyMachine.Driver} (phase : benchmark.phase = .issuing)
    (stack : benchmark.config.stack = []) (left : benchmark.left = driver.left)
    {dram : Dram engine} (built : benchmark.config.world.drams () = some dram)
    (follows : Follows cacheline benchmark.config.sim dram driver)
    (completed : benchmark.completed = driver.answered) :
    Tracks benchmark.event (driver.event policy.cap) := by
  by_cases happens : driver.queue ≠ [] ∨ driver.ticking = true
  · obtain ⟨same, rest, standing, completed, after, built, follows⟩ :=
      event_follows .step stack built follows completed happens
    exact ⟨completed, .issuing (same.trans phase) standing
      (rest.trans (left.trans (driver.event_left policy.cap).symm)) after built follows⟩
  · obtain ⟨queue, stopped⟩ : driver.queue = [] ∧ driver.ticking = false := by
      simpa using happens
    rw [driver.event_idle policy.cap queue stopped]
    have agenda := follows.agenda
    rw [queue, stopped] at agenda
    have noEvent : benchmark.config.sim.peek.1 = none := by
      rw [Simulator.peek_fst, agenda.empty]
      rfl
    have stepped : benchmark.config.advance .step =
        { benchmark.config with sim := benchmark.config.sim.peek.2 }.record
          (.stepped false) := by
      rcases peeked : benchmark.config.sim.peek with ⟨found, sim⟩
      rw [peeked] at noEvent
      obtain rfl : found = none := noEvent
      simp only [Config.advance, stack, Config.act, peeked]
    have same : benchmark.event = { benchmark with
        config := { benchmark.config with sim := benchmark.config.sim.peek.2 }.record
          (.stepped false) } := by
      simp [event, stepped, onComplete, settle, Config.record, stack]
    rw [same]
    refine ⟨completed, .issuing phase stack left dram built { follows with agenda := ?_ }⟩
    rw [queue, stopped]
    exact agenda.jumped agenda.wellFormed.peek_jumped

theorem event_ends {benchmark : BenchmarkLatency engine periodPs cacheline policy}
    {driver : engine.latencyMachine.Driver} {start : Nat}
    (stack : benchmark.config.stack = [.run none none start none]) {dram : Dram engine}
    (follows : Follows cacheline benchmark.config.sim dram driver)
    (completed : benchmark.completed = driver.answered) (finished : driver.Finished) :
    benchmark.event.phase = .returned ∧ benchmark.event.completed = driver.answered := by
  have agenda := follows.agenda
  rw [finished.2.1, finished.2.2] at agenda
  have noEvent : benchmark.config.sim.peek.1 = none := by
    rw [Simulator.peek_fst, agenda.empty]
    rfl
  rcases peeked : benchmark.config.sim.peek with ⟨found, sim⟩
  rw [peeked] at noEvent
  obtain rfl : found = none := noEvent
  simp [event, Config.advance, stack, Config.runLoop, peeked, onComplete, settle,
    Config.record, completed]

theorem event_draining {benchmark : BenchmarkLatency engine periodPs cacheline policy}
    {driver : engine.latencyMachine.Driver} (phase : benchmark.phase = .draining)
    {start : Nat} (stack : benchmark.config.stack = [.run none none start none])
    (left : driver.left = []) {dram : Dram engine}
    (built : benchmark.config.world.drams () = some dram)
    (follows : Follows cacheline benchmark.config.sim dram driver)
    (completed : benchmark.completed = driver.answered) :
    Tracks benchmark.event (driver.event policy.cap) := by
  by_cases happens : driver.queue ≠ [] ∨ driver.ticking = true
  · obtain ⟨same, -, standing, completed, after, built, follows⟩ :=
      event_follows (.run start) stack built follows completed happens
    exact ⟨completed, .draining (same.trans phase) start standing
      ((driver.event_left policy.cap).trans left) after built follows⟩
  · obtain ⟨queue, stopped⟩ : driver.queue = [] ∧ driver.ticking = false := by
      simpa using happens
    rw [driver.event_idle policy.cap queue stopped]
    have finished : driver.Finished := ⟨left, queue, stopped⟩
    obtain ⟨returned, same⟩ := event_ends stack follows completed finished
    exact ⟨same, .returned returned finished⟩

theorem round_opens {benchmark : BenchmarkLatency engine periodPs cacheline policy}
    (phase : benchmark.phase = .issuing) (stack : benchmark.config.stack = [])
    (left : benchmark.left = []) (runUntil : benchmark.config.sim.runUntil = none) :
    benchmark.round = { benchmark with
      config := { benchmark.config with
        sim := { benchmark.config.sim with runUntil := none }
        stack := [.run none none benchmark.config.sim.processed none] }
      phase := .draining } := by
  simp only [round, phase, left, Config.advance, stack, Decision.runUntilIdle, Config.act,
    runUntil]

theorem round_reads {benchmark : BenchmarkLatency engine periodPs cacheline policy}
    {driver : engine.latencyMachine.Driver} (phase : benchmark.phase = .issuing)
    (stack : benchmark.config.stack = []) (left : benchmark.left = driver.left)
    {addr : Int} {rest : List Int} (waiting : driver.left = addr :: rest)
    {dram : Dram engine} (built : benchmark.config.world.drams () = some dram)
    (follows : Follows cacheline benchmark.config.sim dram driver)
    (completed : benchmark.completed = driver.answered) :
    Tracks benchmark.round (driver.step policy.cap) := by
  rw [waiting] at left
  have advanced {result : Except PyError DramValue}
      {sim : Simulator (DramCode Unit Unit Empty)}
      {world : DramWorld (benchmarkSetup engine periodPs cacheline)}
      (called : DramWorld.exec (.request () (.read addr (some ()) 0)) benchmark.config.sim
        benchmark.config.world = (result, sim, world)) :
      benchmark.config.advance (.call (.request () (.read addr (some ()) 0))) =
        { benchmark.config with sim, world }.record
          (.called (.request () (.read addr (some ()) 0)) result) := by
    simp only [Config.advance, stack, Config.act, called]
  by_cases fits : FitsLong addr
  · have valid : engine.latencyMachine.valid addr = true := by
      simpa [Engine.latencyMachine] using fits
    rcases offered : engine.send driver.state (latencyRead addr) with ⟨_ | _, state⟩
    · obtain ⟨after, submitted, kept⟩ := follows.reads fits driver.left
      rw [offered] at submitted kept
      rw [Bool.or_false] at kept
      have called :
          DramWorld.exec (.request () (.read addr (some ()) 0)) benchmark.config.sim
          benchmark.config.world = _ := DramWorld.exec_request built submitted
      have rejects : driver.step policy.cap =
          ({ driver with state } : engine.latencyMachine.Driver).event policy.cap := by
        have offered : engine.latencyMachine.offer driver.state addr = (false, state) :=
          offered
        simp [Clockwork.Driver.step, waiting, valid, offered]
      rw [rejects]
      simp only [round, phase, left, called, advanced called]
      exact event_issuing rfl stack waiting.symm (DramWorld.put_self _ _ _) kept completed
    · obtain ⟨after, submitted, kept⟩ := follows.reads fits rest
      rw [offered] at submitted kept
      rw [Bool.or_true] at kept
      have called :
          DramWorld.exec (.request () (.read addr (some ()) 0)) benchmark.config.sim
          benchmark.config.world = _ := DramWorld.exec_request built submitted
      have accepts : driver.step policy.cap =
          { driver with state, ticking := true, left := rest } := by
        have offered : engine.latencyMachine.offer driver.state addr = (true, state) :=
          offered
        simp [Clockwork.Driver.step, waiting, valid, offered]
      rw [accepts]
      simp only [round, phase, left, called, advanced called]
      exact ⟨completed, .issuing rfl stack rfl _ (DramWorld.put_self _ _ _) kept⟩
  · obtain ⟨error, after, submitted⟩ := follows.raises fits
    have called :
        DramWorld.exec (.request () (.read addr (some ()) 0)) benchmark.config.sim
        benchmark.config.world = _ := DramWorld.exec_request built submitted
    have stays : driver.step policy.cap = driver := by
      have invalid : engine.latencyMachine.valid addr = false := by
        simpa [Engine.latencyMachine] using fits
      simp [Clockwork.Driver.step, waiting, invalid]
    rw [stays]
    simp only [round, phase, left, called, Except.map]
    exact ⟨completed, .raised rfl addr rest waiting fits⟩

theorem round_covers {benchmark : BenchmarkLatency engine periodPs cacheline policy}
    {driver : engine.latencyMachine.Driver} (tracks : Tracks benchmark driver) :
    ∃ rounds, 0 < rounds ∧
      Tracks (round^[rounds] benchmark) (driver.step policy.cap) := by
  obtain ⟨completed, stage⟩ := tracks
  cases stage with
  | returned phase finished =>
      refine ⟨1, Nat.one_pos, ?_⟩
      rw [finished.step, Function.iterate_one, round, phase]
      exact ⟨completed, .returned phase finished⟩
  | raised phase addr rest left large =>
      have stays : driver.step policy.cap = driver := by
        have invalid : engine.latencyMachine.valid addr = false := by
          simpa [Engine.latencyMachine] using large
        simp [Clockwork.Driver.step, left, invalid]
      refine ⟨1, Nat.one_pos, ?_⟩
      rw [stays, Function.iterate_one, round, phase]
      exact ⟨completed, .raised phase addr rest left large⟩
  | draining phase start stack left dram built follows =>
      refine ⟨1, Nat.one_pos, ?_⟩
      rw [driver.step_drain _ left, Function.iterate_one, round, phase]
      exact event_draining phase stack left built follows completed
  | issuing phase stack left dram built follows =>
      rcases waiting : driver.left with _ | ⟨addr, rest⟩
      · refine ⟨2, Nat.two_pos, ?_⟩
        rw [driver.step_drain _ waiting]
        change Tracks benchmark.round.round _
        rw [round_opens phase stack (left.trans waiting) follows.agenda.runUntil]
        exact event_draining rfl rfl waiting built follows.opened completed
      · exact ⟨1, Nat.one_pos,
          round_reads phase stack left waiting built follows completed⟩

theorem Tracks.finishes {benchmark : BenchmarkLatency engine periodPs cacheline policy}
    {driver : engine.latencyMachine.Driver} (tracks : Tracks benchmark driver)
    (finished : driver.Finished) :
    ∃ rounds, (round^[rounds] benchmark).phase = .returned ∧
      (round^[rounds] benchmark).completed = driver.answered := by
  obtain ⟨completed, stage⟩ := tracks
  cases stage with
  | returned phase => exact ⟨0, phase, completed⟩
  | raised phase addr rest left =>
      rw [finished.1] at left
      cases left
  | draining phase start stack left dram built follows =>
      refine ⟨1, ?_⟩
      rw [Function.iterate_one, round, phase]
      exact event_ends stack follows completed finished
  | issuing phase stack left dram built follows =>
      refine ⟨2, ?_⟩
      change benchmark.round.round.phase = _ ∧ benchmark.round.round.completed = _
      rw [round_opens phase stack (left.trans finished.1) follows.agenda.runUntil]
      exact event_ends rfl follows.opened completed finished

theorem run_covers {benchmark : BenchmarkLatency engine periodPs cacheline policy}
    {driver : engine.latencyMachine.Driver} (tracks : Tracks benchmark driver)
    (count : Nat) :
    ∃ rounds, count ≤ rounds ∧
      Tracks (round^[rounds] benchmark)
        ((Clockwork.Driver.step policy.cap)^[count] driver) := by
  induction count with
  | zero => exact ⟨0, Nat.le_refl 0, tracks⟩
  | succ count induction =>
      obtain ⟨rounds, bound, reached⟩ := induction
      obtain ⟨more, positive, next⟩ := round_covers reached
      refine ⟨more + rounds, by omega, ?_⟩
      rw [Function.iterate_add_apply, Function.iterate_succ_apply']
      exact next

theorem round_ended {benchmark : BenchmarkLatency engine periodPs cacheline policy}
    (ended : benchmark.phase = .returned ∨ benchmark.phase = .raised) :
    benchmark.round = benchmark := by
  rcases ended with phase | phase <;> rw [round, phase]

theorem builds (positive : 0 < periodPs) (left : List Int) :
    let config : Config (benchmarkSystem engine periodPs cacheline policy) :=
      Config.init (DramWorld.create _)
    (DramWorld.exec (.build ()) config.sim config.world).1.isOk = true ∧
      (config.advance (.call (.build ()))).stack = [] ∧
        ∃ dram : Dram engine,
        (config.advance (.call (.build ()))).world.drams () = some dram ∧
          Follows cacheline (config.advance (.call (.build ()))).sim dram
            (Clockwork.Driver.init left : engine.latencyMachine.Driver) := by
  intro config
  have made : Clock.create periodPs = .ok ⟨periodPs, positive⟩ := by
    rw [Clock.create, dif_pos positive]
  have based : (1 : Int) ≤ 1024 := by decide
  let world : DramWorld (benchmarkSetup engine periodPs cacheline) :=
    (DramWorld.create _).put ()
    (Dram.fresh (benchmarkSetup engine periodPs cacheline ())
      ⟨periodPs, positive⟩ based 0)
  have built : DramWorld.exec (.build () : DramOp Unit Unit Empty) Simulator.init
      (DramWorld.create (benchmarkSetup engine periodPs cacheline)) =
        (.ok .none_, Simulator.init, world) := by
    have created : Dram.create (.dram () : DramEvent Unit → DramCode Unit Unit Empty)
        (benchmarkSetup engine periodPs cacheline ()) Simulator.init =
          (.ok (Dram.fresh _ ⟨periodPs, positive⟩ based 0), Simulator.init) := by
      simp only [Dram.create, benchmarkSetup, made]
      rfl
    simp only [DramWorld.exec, DramWorld.create, created]
    rfl
  have begun : config.advance (.call (.build ())) =
      { sim := Simulator.init, world, stack := [],
        log := [.called (.build ()) (.ok .none_)] } := by
    simp only [config, Config.init, Config.advance, Config.act, built]
    rfl
  rw [begun]
  refine ⟨by simp only [config, Config.init, built]; rfl, rfl, _,
    DramWorld.put_self _ _ _, ?_⟩
  exact
    { agenda := ⟨Simulator.init_wellFormed, rfl, [], [], rfl, rfl, by simp, rfl, by simp⟩
      mem := rfl
      drained := rfl
      stable := ⟨rfl, rfl⟩
      numCores := rfl
      handed := rfl
      collector := .inl ⟨rfl, rfl⟩
      priority := rfl
      ticking := rfl
      idleTicking := rfl
      idleRefresh := rfl }

theorem refuses (negative : ¬ 0 < periodPs) :
    (DramWorld.exec (.build () : DramOp Unit Unit Empty) Simulator.init
      (DramWorld.create (benchmarkSetup engine periodPs cacheline))).1.isOk = false := by
  obtain ⟨error, refused⟩ : ∃ error, Clock.create periodPs = .error error := by
    rw [Clock.create, dif_neg negative]
    exact ⟨_, rfl⟩
  simp only [DramWorld.exec, DramWorld.create, Dram.create, benchmarkSetup, refused]
  rfl

theorem start_tracks (positive : 0 < periodPs) (addrs : List Int) :
    Tracks (start engine periodPs cacheline policy addrs)
      (Clockwork.Driver.init addrs : engine.latencyMachine.Driver) := by
  obtain ⟨made, stack, dram, built, follows⟩ := builds positive addrs
  exact ⟨rfl, .issuing (if_pos made) stack rfl dram built follows⟩

theorem start_raised (negative : ¬ 0 < periodPs) (addrs : List Int) :
    (start engine periodPs cacheline policy addrs).phase = .raised := by
  have built : (DramWorld.exec (.build () : DramOp Unit Unit Empty) Simulator.init
      (DramWorld.create (benchmarkSetup engine periodPs cacheline))).1.isOk = false :=
    refuses negative
  simp only [start, Config.init, built]
  rfl

theorem returns_iff {addrs : List Int} {infos : List RequestInfo} :
    Returns engine periodPs cacheline policy addrs infos ↔
      0 < periodPs ∧
        Clockwork.Driver.Returns engine.latencyMachine policy.cap addrs infos := by
  by_cases positive : 0 < periodPs
  · have tracks : Tracks (start engine periodPs cacheline policy addrs) _ :=
      start_tracks positive addrs
    constructor
    · rintro ⟨rounds, returned, completed⟩
      refine ⟨positive, rounds, ?_⟩
      obtain ⟨later, bound, reached⟩ := run_covers tracks rounds
      obtain ⟨more, rfl⟩ := Nat.exists_eq_add_of_le' bound
      rw [Function.iterate_add_apply,
        Function.iterate_fixed (round_ended (.inl returned))]
        at reached
      refine ⟨?_, reached.completed.symm.trans completed⟩
      cases reached.stage with
      | returned phase finished => exact finished
      | issuing phase => rw [phase] at returned; cases returned
      | draining phase => rw [phase] at returned; cases returned
      | raised phase => rw [phase] at returned; cases returned
    · rintro ⟨-, rounds, finished, answered⟩
      obtain ⟨later, -, reached⟩ := run_covers tracks rounds
      obtain ⟨more, returned, completed⟩ := reached.finishes finished
      refine ⟨more + later, ?_⟩
      rw [Function.iterate_add_apply]
      exact ⟨returned, completed.trans answered⟩
  · refine iff_of_false ?_ fun both => positive both.1
    rintro ⟨rounds, returned, -⟩
    have raised : (start engine periodPs cacheline policy addrs).phase = .raised :=
      start_raised positive addrs
    rw [Function.iterate_fixed (round_ended (.inr raised)), raised] at returned
    cases returned

theorem Returns.unique {addrs : List Int} {infos others : List RequestInfo}
    (first : Returns engine periodPs cacheline policy addrs infos)
    (second : Returns engine periodPs cacheline policy addrs others) : infos = others :=
  (returns_iff.mp first).2.unique (returns_iff.mp second).2

end BenchmarkLatency

end Pyramulator
