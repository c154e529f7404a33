import Pyramulator.Data.Backpressure
import Pyramulator.Dram.Standing

namespace Pyramulator

/-! `benchmark_latency` of `benchmark.py`: reads are issued one at a time, the simulator
is stepped until each of them is accepted, and the DRAM is drained in the end. -/

/-- `_dram`; the engine and the period come from the configuration. -/
def benchmarkSetup (engine : Engine (DramCallback Unit)) (periodPs cacheline : Int)
    (_ : Unit) : DramSetup Unit where
  engine := engine
  periodPs := periodPs
  cacheline := cacheline
  numCores := 1
  completionPriority := 0
  idleRefresh := false
  idleBatchCycles := 1024
  name := "dram"

@[reducible] def benchmarkSystem (engine : Engine (DramCallback Unit))
    (periodPs cacheline : Int) (policy : TickPolicy) : System :=
  dramSystem Empty (benchmarkSetup engine periodPs cacheline) policy

inductive BenchmarkPhase where
  | issuing
  | draining
  | returned
  | raised
  deriving DecidableEq

/-- `benchmark_latency` as it runs: the addresses that are not accepted yet, and the
completions that `on_complete` got. -/
structure BenchmarkLatency (engine : Engine (DramCallback Unit))
    (periodPs cacheline : Int) (policy : TickPolicy) where
  config : Config (benchmarkSystem engine periodPs cacheline policy)
  phase : BenchmarkPhase
  left : List Int
  completed : List RequestInfo

namespace BenchmarkLatency

variable {engine : Engine (DramCallback Unit)} {periodPs cacheline : Int}
  {policy : TickPolicy}

def start (engine : Engine (DramCallback Unit)) (periodPs cacheline : Int)
    (policy : TickPolicy) (addrs : List Int) :
    BenchmarkLatency engine periodPs cacheline policy :=
  let config : Config (benchmarkSystem engine periodPs cacheline policy) :=
    Config.init (DramWorld.create _)
  { config := config.advance (.call (.build ()))
    phase := if (DramWorld.exec (.build ()) config.sim config.world).1.isOk then .issuing
      else .raised
    left := addrs
    completed := [] }

/-- `on_complete`, if the component calls it. -/
def onComplete (benchmark : BenchmarkLatency engine periodPs cacheline policy) :
    BenchmarkLatency engine periodPs cacheline policy :=
  match benchmark.config.stack with
  | .callback _ (.dram _ (.completion _ info)) :: _ =>
      { benchmark with
        config := benchmark.config.advance (.answer ())
        completed := benchmark.completed ++ [info] }
  | _ => benchmark

/-- What came out of the simulator last: an exception ends the benchmark, and so does
the end of `run_until_idle`. -/
def settle (benchmark : BenchmarkLatency engine periodPs cacheline policy) :
    BenchmarkLatency engine periodPs cacheline policy :=
  match benchmark.config.log.getLast? with
  | some (.raised _) => { benchmark with phase := .raised }
  | some (.ran _) => { benchmark with phase := .returned }
  | _ => benchmark

def event (benchmark : BenchmarkLatency engine periodPs cacheline policy) :
    BenchmarkLatency engine periodPs cacheline policy :=
  ({ benchmark with config := benchmark.config.advance .step }).onComplete.settle

/-- One round of the loop that issues the reads, or of the loop of `run_until_idle`. -/
def round (benchmark : BenchmarkLatency engine periodPs cacheline policy) :
    BenchmarkLatency engine periodPs cacheline policy :=
  match benchmark.phase with
  | .issuing =>
      match benchmark.left with
      | [] =>
          { benchmark with
            config := benchmark.config.advance (.runUntilIdle none)
            phase := .draining }
      | addr :: rest =>
          let read : DramOp Unit Unit Empty := .request () (.read addr (some ()) 0)
          let called := { benchmark with config := benchmark.config.advance (.call read) }
          match (DramWorld.exec read benchmark.config.sim benchmark.config.world).1 with
          | .ok (.memory (.flag true)) => { called with left := rest }
          | .ok _ => called.event
          | .error _ => { called with phase := .raised }
  | .draining => benchmark.event
  | .returned | .raised => benchmark

def Returns (engine : Engine (DramCallback Unit)) (periodPs cacheline : Int)
    (policy : TickPolicy) (addrs : List Int) (infos : List RequestInfo) : Prop :=
  ∃ rounds, (round^[rounds] (start engine periodPs cacheline policy addrs)).phase =
    .returned ∧
    (round^[rounds] (start engine periodPs cacheline policy addrs)).completed = infos

end BenchmarkLatency

end Pyramulator
