import Mathlib.Algebra.Order.Field.Basic
import Mathlib.Tactic.FieldSimp
import Mathlib.Tactic.Positivity
import Pyramulator.Benchmark.Coalescing
import Pyramulator.Benchmark.Scheduled

namespace Pyramulator.BenchmarkBandwidth

/-! The bandwidth that is reported, against a read for each of the shortest gaps between
two departures. -/

variable {engine : Engine (DramCallback Unit)} {periodPs cacheline : Int}
  {policy : TickPolicy} {numRequests queueDepth maxEvents : Int}

def Spaced (gap : Int) (departures : List Int) : Prop :=
  departures.IsChain fun first next => first + gap ≤ next

instance (gap : Int) (departures : List Int) : Decidable (Spaced gap departures) :=
  inferInstanceAs (Decidable (List.IsChain _ _))

theorem Spaced.spread {gap first : Int} {rest : List Int}
    (spaced : Spaced gap (first :: rest)) :
    first + rest.length *
      gap ≤ (first :: rest).getLast (List.cons_ne_nil first rest) := by
  induction rest generalizing first with
  | nil => simp
  | cons next rest induction =>
      obtain ⟨step, chain⟩ := List.isChain_cons_cons.mp spaced
      have later := induction chain
      rw [List.getLast_cons (List.cons_ne_nil next rest), List.length_cons, Nat.cast_add,
        Nat.cast_one, Int.add_mul, Int.one_mul]
      omega

def slack (gap : Int) : List Int → Int
  | first :: next :: rest => (next - first - gap) + slack gap (next :: rest)
  | _ => 0

theorem slack_eq (gap first : Int) (rest : List Int) :
    slack gap (first :: rest) =
      (first :: rest).getLast (List.cons_ne_nil first rest) - first -
        rest.length * gap := by
  induction rest generalizing first with
  | nil => simp [slack]
  | cons next rest induction =>
      rw [slack, induction, List.getLast_cons (List.cons_ne_nil next rest),
        List.length_cons, Nat.cast_add, Nat.cast_one, Int.add_mul, Int.one_mul]
      omega

theorem departures_eq {benchmark : BenchmarkBandwidth engine periodPs cacheline policy}
    (scheduled : Scheduled numRequests queueDepth maxEvents benchmark)
    (returned : benchmark.phase = .returned) : ∃ turns driver,
      engine.ReadWindowEnds cacheline numRequests queueDepth maxEvents policy turns ∧
        Counts numRequests queueDepth benchmark driver ∧
          benchmark.departures =
            engine.departures cacheline numRequests queueDepth policy turns := by
  cases scheduled with
  | checking turns phase => rw [returned] at phase; cases phase
  | issuing turns window phase => rw [returned] at phase; cases phase
  | raised turns window phase => rw [returned] at phase; cases phase
  | returned turns phase ends matched =>
      exact ⟨turns, _, ends, matched.counts, matched.counts.departures⟩

theorem result_several {benchmark : BenchmarkBandwidth engine periodPs cacheline policy}
    {driver : engine.latencyMachine.Driver}
    (counts : Counts numRequests queueDepth benchmark driver)
    (several : 2 ≤ benchmark.departures.length) {first last : Int}
    (begins : benchmark.departures.head? = some first)
    (ends : benchmark.departures.getLast? = some last) (later : first < last) {tckNs : ℚ}
    (ticks : 0 < tckNs) :
    (benchmark.result tckNs).bandwidthGbs =
      benchmark.departures.length * cacheline / ((last - first : Int) * tckNs) := by
  have firstClk : benchmark.firstClk = some first := counts.firstClk.trans begins
  have lastClk : benchmark.lastClk = last := by
    rw [counts.lastClk, ends]
    rfl
  have completed : benchmark.completed = benchmark.departures.length := by
    rw [counts.completed, counts.departures, List.length_map]
  have enough : ¬ benchmark.completed < 2 := by omega
  have active : last - first ≠ 0 := by omega
  have cycles : ((last - first : Int) : ℚ) ≠ 0 := Int.cast_ne_zero.mpr active
  simp only [result, firstClk, enough, if_false, lastClk, active]
  rw [completed, Int.cast_natCast]
  field_simp

theorem result_few {benchmark : BenchmarkBandwidth engine periodPs cacheline policy}
    {driver : engine.latencyMachine.Driver}
    (counts : Counts numRequests queueDepth benchmark driver)
    (few : benchmark.departures.length < 2) (tckNs : ℚ) :
    (benchmark.result tckNs).bandwidthGbs = 0 := by
  have completed : benchmark.completed < 2 := by
    rw [counts.completed]
    rw [counts.departures, List.length_map] at few
    omega
  unfold result
  split
  · rfl
  · rw [if_pos completed]

theorem result_le_peak_iff
    {benchmark : BenchmarkBandwidth engine periodPs cacheline policy}
    {driver : engine.latencyMachine.Driver}
    (counts : Counts numRequests queueDepth benchmark driver) {gap : Int} {tckNs : ℚ}
    (apart : 1 ≤ gap) (line : 0 < cacheline) (ticks : 0 < tckNs)
    (spaced : Spaced gap benchmark.departures) :
    (benchmark.result tckNs).bandwidthGbs ≤ cacheline / (gap * tckNs) ↔
      benchmark.departures.length < 2 ∨ gap ≤ slack gap benchmark.departures := by
  have gaps : (0 : ℚ) < gap := Int.cast_pos.mpr (by omega)
  have lines : (0 : ℚ) < cacheline := Int.cast_pos.mpr line
  rcases departures : benchmark.departures with _ | ⟨first, _ | ⟨next, rest⟩⟩
  · rw [result_few counts (by simp [departures])]
    exact iff_of_true (by positivity) (.inl (by simp))
  · rw [result_few counts (by simp [departures])]
    exact iff_of_true (by positivity) (.inl (by simp))
  · have spread : first + (rest.length + 1) * gap ≤
        (first :: next :: rest).getLast (List.cons_ne_nil _ _) := by
      rw [departures] at spaced
      simpa using spaced.spread
    have begins : benchmark.departures.head? = some first := by rw [departures]; rfl
    have ends : benchmark.departures.getLast? = some _ :=
      (congrArg List.getLast? departures).trans
        (List.getLast?_eq_some_getLast (List.cons_ne_nil first (next :: rest)))
    have sum := slack_eq gap first (next :: rest)
    generalize (first :: next :: rest).getLast (List.cons_ne_nil _ _) =
      last at spread ends sum
    have length : benchmark.departures.length = rest.length + 2 := by
      rw [departures, List.length_cons, List.length_cons]
    have later : first < last := by
      have wide : 0 < ((rest.length : Int) + 1) * gap := Int.mul_pos (by omega) (by omega)
      omega
    have cycles : (0 : ℚ) < (last - first : Int) := Int.cast_pos.mpr (by omega)
    rw [result_several counts (by omega) begins ends later ticks, ← departures]
    have few : ¬ benchmark.departures.length < 2 := by omega
    rw [or_iff_right few, departures, sum, ← departures, length]
    calc ((rest.length + 2 : Nat) * cacheline / ((last - first : Int) * tckNs) : ℚ) ≤
          cacheline / (gap * tckNs)
      _ ↔ ((rest.length + 2 : Nat) * cacheline : ℚ) * (gap * tckNs) ≤
            cacheline * ((last - first : Int) * tckNs) :=
          div_le_div_iff₀ (by positivity) (by positivity)
      _ ↔ (((rest.length + 2 : Nat) : ℚ) * gap) * (cacheline * tckNs) ≤
            (last - first : Int) * (cacheline * tckNs) := by
          rw [show ((rest.length + 2 : Nat) * cacheline : ℚ) * (gap * tckNs) =
            (rest.length + 2 : Nat) * gap * (cacheline * tckNs) by ring,
            show (cacheline : ℚ) * ((last - first : Int) * tckNs) =
              (last - first : Int) * (cacheline * tckNs) by ring]
      _ ↔ ((rest.length + 2 : Nat) : ℚ) * gap ≤ (last - first : Int) :=
          mul_le_mul_iff_of_pos_right (by positivity)
      _ ↔ ((rest.length + 2 : Nat) : Int) * gap ≤ last - first := by
          exact_mod_cast Iff.rfl
      _ ↔ gap ≤ last - first - (next :: rest).length * gap := by
          have expand : ((rest.length + 2 : Nat) : Int) * gap =
              (next :: rest).length * gap + gap := by
            rw [List.length_cons]
            push_cast
            ring
          rw [expand]
          omega

/-- What is reported is at most a read for each gap if and only if the gaps between the
departures of the engine exceed the shortest by one more of it, all in all, or there are
fewer than two departures. -/
theorem bandwidth_le_peak_iff {gap : Int} {tckNs : ℚ} (apart : 1 ≤ gap)
    (line : 0 < cacheline) (ticks : 0 < tckNs) (positive : 0 < periodPs) {rounds : Nat}
    (returned : ((round numRequests queueDepth maxEvents)^[rounds]
      (start engine periodPs cacheline policy)).phase = .returned) :
    ∃ turns, engine.ReadWindowEnds cacheline numRequests queueDepth maxEvents
      policy turns ∧
      let departed := engine.departures cacheline numRequests queueDepth policy turns
      (Spaced gap departed →
        ((((round numRequests queueDepth maxEvents)^[rounds]
          (start engine periodPs cacheline policy)).result tckNs).bandwidthGbs ≤
            cacheline / (gap * tckNs) ↔
          departed.length < 2 ∨ gap ≤ slack gap departed)) := by
  obtain ⟨turns, driver, ends, counts, same⟩ :=
    departures_eq (run_scheduled positive rounds) returned
  refine ⟨turns, ends, ?_⟩
  rw [← same]
  exact result_le_peak_iff counts apart line ticks

/-- Three reads, each as soon as the one before is completed. -/
theorem bandwidth_le_peak_onePerCycle :
    let engine := Engine.onePerCycle (DramCallback Unit) 2
    let departed := engine.departures 64 3 1 .coalesced 6
    departed = [2, 4, 6] ∧
      ((((round 3 1 1000)^[24] (start engine 833 64 .coalesced)).result
        (5 / 6)).bandwidthGbs ≤
          ((64 : Int) : ℚ) / (((1 : Int) : ℚ) * (5 / 6)) ↔
        departed.length < 2 ∨ 1 ≤ slack 1 departed) := by
  intro engine departed
  have returned : ((round 3 1 1000)^[24] (start engine 833 64 .coalesced)).phase =
      .returned := by
    decide +kernel
  have known : departed = [2, 4, 6] := by decide +kernel
  have ended : engine.ReadWindowEnds 64 3 1 1000 .coalesced 6 :=
    ⟨by decide +kernel, by decide +kernel⟩
  have spaced : Spaced 1 departed := by
    rw [known]
    decide
  have ticks : (0 : ℚ) < 5 / 6 := by norm_num
  obtain ⟨turns, ends, exactly⟩ :=
    bandwidth_le_peak_iff (le_refl 1) (by decide) ticks (by decide) returned
  obtain rfl := ends.unique ended
  exact ⟨known, exactly spaced⟩

/-- With a gap of two cycles, three reads of 64 bytes are reported to take four cycles. -/
theorem bandwidth_exceeds_peak :
    let benchmark := (round 3 1 1000)^[24]
      (start (Engine.onePerCycle (DramCallback Unit) 2) 833 64 .coalesced)
    benchmark.phase = .returned ∧ Spaced 2 benchmark.departures ∧
      ¬ (benchmark.result (5 / 6)).bandwidthGbs ≤ 64 / (2 * (5 / 6)) := by
  decide +kernel

end Pyramulator.BenchmarkBandwidth
