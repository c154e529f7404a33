import Mathlib.Algebra.Order.BigOperators.Group.List
import Mathlib.Algebra.Order.Field.Rat
import Mathlib.Data.List.MinMax
import Pyramulator.Benchmark.LatencyRuns
import Pyramulator.Benchmark.Window
import Pyramulator.Data.Draining

namespace Pyramulator

/-! The latency benchmark ends, and it tells the latencies of all its reads. -/

/-- `random.Random.randrange` from 0 on. A range of `n + 1` numbers has one of them
drawn. -/
def randrange (stop step : Int) (draw : (n : Nat) → Fin (n + 1)) : Except PyError Int :=
  if step = 0 then .error (.valueError "zero step for randrange()")
  else
    match ((stop + step - step.sign).fdiv step).toNat with
    | 0 => .error (.valueError (
        if step = 1 then s!"empty range for randrange() (0, {stop}, {stop})"
        else "empty range for randrange()"))
    | n + 1 => .ok (step * (draw n).val)

/-- `address_stream`. What is drawn in the random mode follows from the seed. -/
def addressStream (mode : String) (count cacheline start stride maxAddr : Int)
    (draws : Nat → (n : Nat) → Fin (n + 1)) : Except PyError (List Int) :=
  match mode with
  | "sequential" =>
      .ok ((List.range count.toNat).map fun i : Nat => start + i * cacheline)
  | "strided" => .ok ((List.range count.toNat).map fun i : Nat => start + i * stride)
  | "random" => (List.range count.toNat).mapM fun i =>
      randrange maxAddr cacheline (draws i)
  | _ => .error (.valueErrorOf "unknown address mode: " mode
      " (choose from sequential, strided, random)")

theorem length_of_mapM {ε α β : Type} {f : α → Except ε β} {items : List α}
    {results : List β}
    (each : items.mapM f = .ok results) : results.length = items.length := by
  induction items generalizing results with
  | nil =>
      cases each
      rfl
  | cons first rest induction =>
      rw [List.mapM_cons] at each
      cases here : f first with
      | error => simp [here, bind, Except.bind] at each
      | ok result =>
          cases later : rest.mapM f with
          | error => simp [here, later, bind, Except.bind] at each
          | ok others =>
              rw [here, later] at each
              cases each
              rw [List.length_cons, List.length_cons, induction later]

theorem addressStream_length {mode : String} {count cacheline start stride maxAddr : Int}
    {draws : Nat → (n : Nat) → Fin (n + 1)} {addrs : List Int}
    (stream : addressStream mode count cacheline start stride maxAddr draws = .ok addrs) :
    addrs.length = count.toNat := by
  unfold addressStream at stream
  split at stream
  · cases stream
    rw [List.length_map, List.length_range]
  · cases stream
    rw [List.length_map, List.length_range]
  · rw [length_of_mapM stream, List.length_range]
  · cases stream

/-- `RequestInfo.latency`. -/
def RequestInfo.latency (info : RequestInfo) : Int := info.departCycle - info.arriveCycle

/-- What `benchmark_latency` returns, in exact numbers. -/
structure LatencyReport where
  avg : ℚ
  min : Int
  max : Int
  tck : ℚ
  completed : Nat

/-- The return statements of `benchmark_latency`. -/
def latencyReport (tck : ℚ) : List Int → LatencyReport
  | [] => ⟨0, 0, 0, tck, 0⟩
  | first :: rest =>
      { avg := ((first :: rest).sum : ℚ) / (first :: rest).length
        min := rest.foldl min first
        max := rest.foldl max first
        tck
        completed := (first :: rest).length }

/-- The engine comes to rest: a cycle after which something is still pending brings it
closer, and a rejected request does not take it back. -/
structure Engine.Drains {c : Type} (engine : Engine c) where
  cycles : engine.State → Nat
  rejected : ∀ state request, (engine.send state request).1 = false →
    cycles (engine.send state request).2 ≤ cycles state
  tick : ∀ state, engine.pendingRequests (engine.tick state).2 ≠ 0 →
    cycles (engine.tick state).2 < cycles state

theorem foldl_le {α : Type} [Preorder α] {meet : α → α → α} (left : ∀ a b, meet a b ≤ a)
    (right : ∀ a b, meet a b ≤ b) (first : α) (rest : List α) :
    ∀ value ∈ first :: rest, rest.foldl meet first ≤ value := by
  induction rest generalizing first with
  | nil =>
      intro value member
      rw [List.mem_singleton.mp member]
      exact le_refl _
  | cons second rest induction =>
      intro value member
      have least := induction (meet first second)
      rw [List.foldl_cons]
      rcases List.mem_cons.mp member with rfl | later
      · exact (least _ List.mem_cons_self).trans (left _ _)
      · rcases List.mem_cons.mp later with rfl | later
        · exact (least _ List.mem_cons_self).trans (right _ _)
        · exact least value (List.mem_cons_of_mem _ later)

theorem latencyReport_spec (tck : ℚ) (latencies : List Int) :
    let report := latencyReport tck latencies
    report.completed = latencies.length ∧
      report.avg * report.completed = (latencies.sum : Int) ∧
      (report.min : ℚ) ≤ report.avg ∧ report.avg ≤ report.max := by
  cases latencies with
  | nil => simp [latencyReport]
  | cons first rest =>
      have many : (0 : ℚ) < (first :: rest).length := by
        rw [List.length_cons]
        exact_mod_cast Nat.succ_pos _
      refine ⟨rfl, div_mul_cancel₀ _ many.ne', ?_, ?_⟩
      · have least := List.card_nsmul_le_sum (first :: rest) (rest.foldl min first)
          (foldl_le min_le_left min_le_right first rest)
        rw [nsmul_eq_mul] at least
        refine (le_div_iff₀ many).mpr ?_
        rw [mul_comm]
        exact_mod_cast least
      · have most := List.sum_le_card_nsmul (first :: rest) (rest.foldl max first)
          (foldl_le (α := Intᵒᵈ) (@le_max_left Int _) (@le_max_right Int _) first rest)
        rw [nsmul_eq_mul] at most
        refine (div_le_iff₀ many).mpr ?_
        rw [mul_comm]
        exact_mod_cast most

theorem TickPolicy.cap_ne (policy : TickPolicy) : policy.cap ≠ 0 := by
  cases policy <;> decide

namespace BenchmarkLatency

variable {engine : Engine (DramCallback Unit)} {periodPs cacheline : Int}
  {policy : TickPolicy}

/-- The address that `on_complete` is told when a read is answered. -/
def toldAddr (read : Request (DramCallback Unit)) : Option Int :=
  ((Served.mk read 0 0).recorded.bind latencyAnswer).map RequestInfo.addr

theorem toldAddr_served (served : Served (DramCallback Unit)) :
    (served.recorded.bind latencyAnswer).map RequestInfo.addr =
      toldAddr served.request := by
  unfold toldAddr Served.recorded
  rcases served.request.callback with
    _ | ⟨⟨serial, _ | callback⟩⟩ | ⟨_, _ | ⟨⟨serial, _ | callback⟩⟩⟩
  all_goals rfl

def service (law : engine.Tally) (accepts : BenchmarkBandwidth.Accepts law)
    (drains : engine.Drains) :
    Clockwork.Service engine.latencyMachine RequestInfo.addr where
  Inv := engine.Reaches fun request => request.type = .read
  cycles := drains.cycles
  held state := (law.reads state).filterMap toldAddr
  inv_start := .fresh
  inv_offer reached _ := .send reached rfl
  inv_tick reached := .tick reached
  start_idle := by
    have noRequests : engine.pendingRequests engine.fresh = 0 := law.freshPending
    change (engine.pendingRequests engine.fresh != 0) = false
    rw [noRequests]
    rfl
  held_start := by
    have fresh : law.reads engine.latencyMachine.start = 0 := law.fresh
    rw [fresh, Multiset.filterMap_zero]
  accepts {state addr} reached rests _ :=
    accepts state (latencyRead addr) reached (law.idle state (by
      simpa [Engine.latencyMachine] using rests)) rfl
  accepted {state addr} _ _ sent := by
    have held := law.accepted state (latencyRead addr) rfl sent
    have told : toldAddr (latencyRead addr) = some addr := rfl
    rw [← Multiset.filterMap_cons_some _ _ _ told, ← held]
    rfl
  rejected {state addr} _ _ refused := by
    refine ⟨?_, drains.rejected state (latencyRead addr) refused⟩
    have held := law.other state (latencyRead addr) (.inr refused)
    exact congrArg (Multiset.filterMap toldAddr) held
  tick_cycles {state} _ busy := drains.tick state (by
    simpa [Engine.latencyMachine] using busy)
  tick_held {state} _ := by
    have each : (fun served : Served (DramCallback Unit) =>
        (served.recorded.bind latencyAnswer).map RequestInfo.addr) =
          toldAddr ∘ Served.request := funext toldAddr_served
    have answers : (engine.latencyMachine.answers state).map RequestInfo.addr =
        ((engine.tick state).1.map Served.request).filterMap toldAddr := by
      change (((engine.tick state).1.filterMap Served.recorded).filterMap
        latencyAnswer).map
        RequestInfo.addr = _
      rw [List.filterMap_filterMap, List.map_filterMap, List.filterMap_map, ← each]
    rw [law.tick state, Multiset.filterMap_add, answers, Multiset.filterMap_coe]
    rfl
  idle {state} _ rests := by
    have noRequests : law.reads state = 0 := law.idle state (by
      simpa [Engine.latencyMachine] using rests)
    rw [noRequests, Multiset.filterMap_zero]

/-- For an engine that comes to rest and accepts a read when none is in flight, the
benchmark returns, with or without coalescing: each address of the stream was read once,
and the report is about all of them. -/
theorem completes (law : engine.Tally) (accepts : BenchmarkBandwidth.Accepts law)
    (drains : engine.Drains) (positive : 0 < periodPs) (policy : TickPolicy) (tck : ℚ)
    {mode : String} {numRequests maxAddr : Int} {draws : Nat → (n : Nat) → Fin (n + 1)}
    {addrs : List Int}
    (stream : addressStream mode numRequests cacheline 0 64 maxAddr draws = .ok addrs)
    (fits : ∀ addr ∈ addrs, FitsLong addr) :
    ∃ infos, Returns engine periodPs cacheline policy addrs infos ∧
      (infos.map RequestInfo.addr).Perm addrs ∧
      let report := latencyReport tck (infos.map RequestInfo.latency)
      report.completed = numRequests.toNat ∧
        report.avg * report.completed = ((infos.map RequestInfo.latency).sum : Int) ∧
        (report.min : ℚ) ≤ report.avg ∧ report.avg ≤ report.max := by
  have counted := addressStream_length stream
  obtain ⟨infos, returned, each⟩ := (service law accepts drains).returns policy.cap_ne
    fun addr member => decide_eq_true (fits addr member)
  obtain ⟨completed, rest⟩ := latencyReport_spec tck (infos.map RequestInfo.latency)
  refine ⟨infos, returns_iff.mpr ⟨positive, returned⟩, each, ?_, rest⟩
  rw [completed, List.length_map, ← counted, ← each.length_eq, List.length_map]

def wait {c : Type} (latency clk : Int) (entry : Int × Request c) : Nat :=
  (entry.1 + latency - clk).toNat

theorem wait_tick {c : Type} {latency clk : Int} {entry : Int × Request c}
    (early : Engine.FixedLatency.due latency (clk + 1) entry = false) :
    wait latency (clk + 1) entry < wait latency clk entry := by
  simp only [Engine.FixedLatency.due, decide_eq_false_iff_not] at early
  unfold wait
  omega

def fixedLatencyDrains (c : Type) (latency : Int) (slots : Nat) :
    (Engine.fixedLatency c latency slots).Drains where
  cycles state := ((Engine.FixedLatency.queue state).map
    (wait latency (Engine.FixedLatency.clk state))).foldr max 0
  rejected state request refused := by
    simp only [Engine.fixedLatency] at refused ⊢
    split at refused
    · cases refused
    · rename_i full
      rw [if_neg full]
  tick state busy := by
    have most (entries : List (Int × Request c)) (clk : Int) :
        ∀ entry ∈ entries,
        wait latency clk entry ≤ (entries.map (wait latency clk)).foldr max 0 :=
      fun entry member => List.le_max_of_le' 0 (List.mem_map_of_mem member) (le_refl _)
    have below (entries : List (Int × Request c)) (clk : Int) (bound : Nat)
        (nonempty : entries ≠ [])
        (each : ∀ entry ∈ entries, wait latency clk entry < bound) :
        (entries.map (wait latency clk)).foldr max 0 < bound := by
      induction entries with
      | nil => exact absurd rfl nonempty
      | cons entry rest induction =>
          have first := each entry List.mem_cons_self
          rw [List.map_cons, List.foldr_cons, max_lt_iff]
          refine ⟨first, ?_⟩
          by_cases empty : rest = []
          · subst empty
            exact Nat.zero_lt_of_lt first
          · exact induction empty fun other later =>
              each other (List.mem_cons_of_mem _ later)
    refine below _ _ _ (fun empty => busy (by
      change List.length _ = 0
      exact List.length_eq_zero_iff.mpr empty)) fun entry member => ?_
    obtain ⟨waits, early⟩ := List.mem_filter.mp member
    exact lt_of_lt_of_le (wait_tick (by simpa using early)) (most _ _ entry waits)

/-- Five reads, on a memory of two slots. -/
theorem completes_fixedLatency :
    ∃ infos, Returns (Engine.fixedLatency (DramCallback Unit) 2 2) 833 64 .coalesced
        [0, 64, 128, 192, 256] infos ∧
      (infos.map RequestInfo.addr).Perm [0, 64, 128, 192, 256] ∧
      let report := latencyReport (5 / 6) (infos.map RequestInfo.latency)
      report.completed = (5 : Int).toNat ∧
        report.avg * report.completed = ((infos.map RequestInfo.latency).sum : Int) ∧
        (report.min : ℚ) ≤ report.avg ∧ report.avg ≤ report.max := by
  have accepts :
      BenchmarkBandwidth.Accepts (Engine.fixedLatencyTally (DramCallback Unit) 2 2) :=
    fun state request reaches unread _ =>
      Engine.fixedLatency_accepts (by decide) request reaches unread
  have stream : addressStream "sequential" 5 64 0 64 (2 ^ 26) (fun _ _ => 0) =
      .ok [0, 64, 128, 192, 256] := rfl
  exact completes _ accepts (fixedLatencyDrains _ 2 2)
    (by decide) .coalesced (5 / 6) stream
    (by decide)

end BenchmarkLatency

end Pyramulator
