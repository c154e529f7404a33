import Mathlib.Algebra.Field.Rat
import Pyramulator.Benchmark.Latency

namespace Pyramulator

/-! `benchmark_bandwidth` of `benchmark.py`: a window of reads is kept open until all of
them are completed, or until the simulator has processed so many events. -/

inductive BandwidthPhase where
  | checking
  | issuing
  | returned
  | raised
  deriving DecidableEq

/-- `benchmark_bandwidth` as it runs, and the cycles in which the reads departed whose
completions `on_done` got. -/
structure BenchmarkBandwidth (engine : Engine (DramCallback Unit))
    (periodPs cacheline : Int) (policy : TickPolicy) where
  config : Config (benchmarkSystem engine periodPs cacheline policy)
  phase : BandwidthPhase
  issued : Int
  addr : Int
  completed : Int
  firstClk : Option Int
  lastClk : Int
  departures : List Int

/-- The dict that `benchmark_bandwidth` returns. -/
structure Bandwidth where
  bandwidthGbs : ℚ
  completed : Int
  cycles : Int
  tck : ℚ
  deriving DecidableEq

namespace BenchmarkBandwidth

variable {engine : Engine (DramCallback Unit)} {periodPs cacheline : Int}
  {policy : TickPolicy}

def start (engine : Engine (DramCallback Unit)) (periodPs cacheline : Int)
    (policy : TickPolicy) : BenchmarkBandwidth engine periodPs cacheline policy :=
  let config : Config (benchmarkSystem engine periodPs cacheline policy) :=
    Config.init (DramWorld.create _)
  { config := config.advance (.call (.build ()))
    phase := if (DramWorld.exec (.build ()) config.sim config.world).1.isOk then .checking
      else .raised
    issued := 0
    addr := 0
    completed := 0
    firstClk := none
    lastClk := 0
    departures := [] }

/-- `on_done`, if the component calls it. -/
def onDone (benchmark : BenchmarkBandwidth engine periodPs cacheline policy) :
    BenchmarkBandwidth engine periodPs cacheline policy :=
  match benchmark.config.stack with
  | .callback _ (.dram _ (.completion _ info)) :: _ =>
      { benchmark with
        config := benchmark.config.advance (.answer ())
        completed := benchmark.completed + 1
        firstClk := some (benchmark.firstClk.getD info.departCycle)
        lastClk := info.departCycle
        departures := benchmark.departures ++ [info.departCycle] }
  | _ => benchmark

def settle (benchmark : BenchmarkBandwidth engine periodPs cacheline policy) :
    BenchmarkBandwidth engine periodPs cacheline policy :=
  match benchmark.config.log.getLast? with
  | some (.raised _) => { benchmark with phase := .raised }
  | _ => benchmark

/-- `sim.step()`, and back to the condition of the outer loop. -/
def simStep (benchmark : BenchmarkBandwidth engine periodPs cacheline policy) :
    BenchmarkBandwidth engine periodPs cacheline policy :=
  ({ benchmark with
    config := benchmark.config.advance .step
    phase := .checking }).onDone.settle

def round (numRequests queueDepth maxEvents : Int)
    (benchmark : BenchmarkBandwidth engine periodPs cacheline policy) :
    BenchmarkBandwidth engine periodPs cacheline policy :=
  match benchmark.phase with
  | .checking =>
      if benchmark.completed < numRequests ∧
        benchmark.config.sim.processed < maxEvents then
        { benchmark with phase := .issuing }
      else { benchmark with phase := .returned }
  | .issuing =>
      if benchmark.issued - benchmark.completed < queueDepth ∧
          benchmark.issued < numRequests then
        let read : DramOp Unit Unit Empty :=
          .request () (.read benchmark.addr (some ()) 0)
        let called := { benchmark with config := benchmark.config.advance (.call read) }
        match (DramWorld.exec read benchmark.config.sim benchmark.config.world).1 with
        | .ok (.memory (.flag true)) =>
            { called with
              issued := benchmark.issued + 1
              addr := benchmark.addr + cacheline }
        | .ok _ => called.simStep
        | .error _ => { called with phase := .raised }
      else benchmark.simStep
  | .returned | .raised => benchmark

def result (benchmark : BenchmarkBandwidth engine periodPs cacheline policy) (tckNs : ℚ) :
    Bandwidth :=
  let unmeasured : Bandwidth := ⟨0, benchmark.completed, 0, tckNs⟩
  match benchmark.firstClk with
  | none => unmeasured
  | some first =>
      if benchmark.completed < 2 then unmeasured
      else
        let activeCycles := benchmark.lastClk - first
        if activeCycles = 0 then unmeasured
        else
          let seconds := activeCycles * tckNs / 10 ^ 9
          ⟨benchmark.completed * cacheline / seconds / 10 ^ 9, benchmark.completed,
            activeCycles, tckNs⟩

def Ended (benchmark : BenchmarkBandwidth engine periodPs cacheline policy) : Prop :=
  benchmark.phase = .returned ∨ benchmark.phase = .raised

end BenchmarkBandwidth

end Pyramulator
