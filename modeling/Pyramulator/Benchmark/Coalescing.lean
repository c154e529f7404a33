import Pyramulator.Benchmark.LatencyRuns

namespace Pyramulator

/-! When the latency benchmark gets the same completions with coalesced ticks as with one
cycle for each tick. -/

namespace Engine

variable {c : Type}

/-- The engine counts its cycles, and an answer tells the cycle in which its read was
accepted. A rejected request changes nothing, and with nothing pending every read is
answered. -/
structure Arrivals (engine : Engine c) where
  now : engine.State → Int
  held : engine.State → Multiset (Request c × Int)
  fresh : held engine.fresh = 0
  rejected : ∀ state request, (engine.send state request).1 = false →
    (engine.send state request).2 = state
  accepted : ∀ state request, request.type = .read →
    (engine.send state request).1 = true →
    now (engine.send state request).2 = now state ∧
      held (engine.send state request).2 = (request, now state) ::ₘ held state
  cycle : ∀ state, now (engine.tick state).2 = now state + 1
  tick : ∀ state, held state =
    ((engine.tick state).1.map fun served => (served.request, served.arrive) :
      Multiset (Request c × Int)) + held (engine.tick state).2
  idle : ∀ state, engine.pendingRequests state = 0 → held state = 0

/-- The arrival that `on_complete` is told when a read is answered. -/
def toldArrival (read : Request (DramCallback Unit) × Int) : Option Int :=
  ((Served.mk read.1 read.2 0).recorded.bind latencyAnswer).map RequestInfo.arriveCycle

theorem toldArrival_served (served : Served (DramCallback Unit)) :
    (served.recorded.bind latencyAnswer).map RequestInfo.arriveCycle =
      toldArrival (served.request, served.arrive) := by
  unfold toldArrival Served.recorded
  rcases served.request.callback with _ | ⟨⟨serial, _ | callback⟩⟩ |
    ⟨_, _ | ⟨⟨serial, _ | callback⟩⟩⟩
  all_goals rfl

def Arrivals.punctual {engine : Engine (DramCallback Unit)} (law : engine.Arrivals) :
    Clockwork.Driver.Punctual engine.latencyMachine RequestInfo.arriveCycle where
  now := law.now
  held state := (law.held state).filterMap toldArrival
  held_start := by
    have fresh : law.held engine.latencyMachine.start = 0 := law.fresh
    rw [fresh, Multiset.filterMap_zero]
  rejected state addr refused := law.rejected state (latencyRead addr) refused
  accepted state addr _ sent := by
    obtain ⟨now, held⟩ := law.accepted state (latencyRead addr) rfl sent
    refine ⟨now, ?_⟩
    have told : toldArrival (latencyRead addr, law.now state) = some (law.now state) :=
      rfl
    rw [← Multiset.filterMap_cons_some _ _ _ told, ← held]
    rfl
  tick_now := law.cycle
  tick_held state := by
    have answers : (engine.latencyMachine.answers state).map RequestInfo.arriveCycle =
        ((engine.tick state).1.map fun served =>
          (served.request, served.arrive)).filterMap
          toldArrival := by
      have each : (fun served : Served (DramCallback Unit) =>
          (served.recorded.bind latencyAnswer).map RequestInfo.arriveCycle) =
            toldArrival ∘ fun served => (served.request, served.arrive) :=
        funext toldArrival_served
      change (((engine.tick state).1.filterMap Served.recorded).filterMap
        latencyAnswer).map
        RequestInfo.arriveCycle = _
      rw [List.filterMap_filterMap, List.map_filterMap, List.filterMap_map, ← each]
    rw [law.tick state, Multiset.filterMap_add, answers, Multiset.filterMap_coe]
    rfl
  idle state rests := by
    have nothingHeld : law.held state = 0 := law.idle state (by
      simpa [latencyMachine] using rests)
    rw [nothingHeld, Multiset.filterMap_zero]

def fixedLatencyArrivals (c : Type) (latency : Int) (slots : Nat) :
    (fixedLatency c latency slots).Arrivals where
  now state := state.clk
  held state := ((state.queue.filter fun entry => entry.2.type = .read).map Prod.swap :
    Multiset (Request c × Int))
  fresh := rfl
  rejected state request refused := by
    simp only [fixedLatency] at refused ⊢
    split at refused
    · cases refused
    · rename_i full
      rw [if_neg full]
  accepted state request read sent := by
    have free : state.queue.length < slots := by
      by_contra full
      simp [fixedLatency, full] at sent
    simp only [fixedLatency, free, if_true, true_and]
    refine Multiset.coe_eq_coe.mpr ?_
    simp [List.filter_append, read]
  cycle state := rfl
  tick state := by
    simp only [fixedLatency, List.map_map, Multiset.coe_add]
    refine Multiset.coe_eq_coe.mpr ?_
    have split := (List.filter_append_perm
      (fun entry => FixedLatency.due latency (state.clk + 1) entry) state.queue)
    have reads := (split.filter fun entry => entry.2.type = .read).map Prod.swap
    rw [List.filter_append, List.map_append] at reads
    exact reads.symm
  idle state noPending := by
    have empty : state.queue = [] := List.length_eq_zero_iff.mp noPending
    simp [empty]

/-- A memory of fixed latency that takes one read a cycle, so that a rejected read is
accepted in the next cycle. -/
def onePerCycle (c : Type) (latency : Int) : Engine c where
  State := FixedLatency c
  fresh := ⟨0, []⟩
  send state request :=
    if state.queue.any fun entry => entry.1 = state.clk then (false, state)
    else (true, { state with queue := state.queue ++ [(state.clk, request)] })
  tick := (fixedLatency c latency 0).tick
  pendingRequests state := state.queue.length

end Engine

namespace BenchmarkLatency

open Clockwork.Driver (Backpressured)

variable {engine : Engine (DramCallback Unit)} {periodPs cacheline : Int}
  {addrs : List Int}

/-- If the read that the benchmark waits with is rejected throughout every burst, then
coalesced ticks change nothing: the benchmark returns under both policies or under none,
and it returns the same. Otherwise it returns something else, if it returns. -/
theorem returns_coalesced (engine : Engine (DramCallback Unit)) (periodPs cacheline : Int)
    (addrs : List Int) :
    (Backpressured engine.latencyMachine 1000000 addrs →
      ∀ infos, Returns engine periodPs cacheline .coalesced addrs infos ↔
        Returns engine periodPs cacheline .plain addrs infos) ∧
    ∀ (_ : engine.Arrivals) (policy : TickPolicy) (told : List RequestInfo),
      Returns engine periodPs cacheline policy addrs told →
        ((∀ infos, Returns engine periodPs cacheline .coalesced addrs infos ↔
            Returns engine periodPs cacheline .plain addrs infos) ↔
          Backpressured engine.latencyMachine 1000000 addrs) := by
  have enough (backpressured : Backpressured engine.latencyMachine 1000000 addrs)
      (infos : List RequestInfo) :
        Returns engine periodPs cacheline .coalesced addrs infos ↔
        Returns engine periodPs cacheline .plain addrs infos := by
    rw [returns_iff, returns_iff]
    exact and_congr_right fun _ => backpressured.returns_iff infos
  refine ⟨enough, fun law policy infos returns => ⟨fun same => ?_, enough⟩⟩
  have both : Returns engine periodPs cacheline .coalesced addrs infos ∧
      Returns engine periodPs cacheline .plain addrs infos := by
    cases policy with
    | coalesced => exact ⟨returns, (same infos).mp returns⟩
    | plain => exact ⟨(same infos).mpr returns, returns⟩
  exact law.punctual.backpressured_of_returns (returns_iff.mp both.1).2
    (returns_iff.mp both.2).2

/-- A memory of one slot keeps it until the completion. -/
theorem returns_coalesced_oneSlot :
    let engine := Engine.fixedLatency (DramCallback Unit) 2 1
    Backpressured engine.latencyMachine 1000000 [0, 64] ∧
      (∀ infos, Returns engine 833 64 .coalesced [0, 64] infos ↔
        Returns engine 833 64 .plain [0, 64] infos) ∧
      Returns engine 833 64 .plain [0, 64]
        [⟨0, .read, 0, 2, 0⟩, ⟨64, .read, 2, 4, 0⟩] := by
  intro engine
  have plain : Returns engine 833 64 .plain [0, 64]
      [⟨0, .read, 0, 2, 0⟩, ⟨64, .read, 2, 4, 0⟩] := by
    refine returns_iff.mpr ⟨by decide, 9, ⟨?_, ?_, ?_⟩, ?_⟩ <;> decide +kernel
  have coalesced : Returns engine 833 64 .coalesced [0, 64]
      [⟨0, .read, 0, 2, 0⟩, ⟨64, .read, 2, 4, 0⟩] := by
    refine returns_iff.mpr ⟨by decide, 6, ⟨?_, ?_, ?_⟩, ?_⟩ <;> decide +kernel
  obtain ⟨enough, exactly⟩ := returns_coalesced engine 833 64 [0, 64]
  have same (infos : List RequestInfo) : Returns engine 833 64 .coalesced [0, 64] infos ↔
      Returns engine 833 64 .plain [0, 64] infos := by
    constructor
    · intro other
      exact coalesced.unique other ▸ plain
    · intro other
      exact plain.unique other ▸ coalesced
  have backpressured :=
    (exactly (Engine.fixedLatencyArrivals _ 2 1) .plain _ plain).mp same
  exact ⟨backpressured, enough backpressured, plain⟩

/-- With a slot that is free again in the next cycle, the second read is accepted in the
cycle of the first completion with coalesced ticks, and in the next cycle without. -/
theorem returns_onePerCycle :
    let engine := Engine.onePerCycle (DramCallback Unit) 2
    Returns engine 833 64 .coalesced [0, 64] [⟨0, .read, 0, 2, 0⟩, ⟨64, .read, 2, 4, 0⟩] ∧
      Returns engine 833 64 .plain [0, 64] [⟨0, .read, 0, 2, 0⟩, ⟨64, .read, 1, 3, 0⟩] ∧
      ¬ ∀ infos, Returns engine 833 64 .coalesced [0, 64] infos ↔
        Returns engine 833 64 .plain [0, 64] infos := by
  intro engine
  have plain : Returns engine 833 64 .plain [0, 64]
      [⟨0, .read, 0, 2, 0⟩, ⟨64, .read, 1, 3, 0⟩] := by
    refine returns_iff.mpr ⟨by decide, 9, ⟨?_, ?_, ?_⟩, ?_⟩ <;> decide +kernel
  have coalesced : Returns engine 833 64 .coalesced [0, 64]
      [⟨0, .read, 0, 2, 0⟩, ⟨64, .read, 2, 4, 0⟩] := by
    refine returns_iff.mpr ⟨by decide, 6, ⟨?_, ?_, ?_⟩, ?_⟩ <;> decide +kernel
  refine ⟨coalesced, plain, fun same => ?_⟩
  have impossible := plain.unique ((same _).mp coalesced)
  revert impossible
  decide

end BenchmarkLatency

end Pyramulator
