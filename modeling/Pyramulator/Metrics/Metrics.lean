import Pyramulator.Metrics.StatsSlice
import Mathlib.Algebra.Field.Rat
import Mathlib.Algebra.Order.Ring.Unbundled.Rat
import Mathlib.Tactic.Ring

namespace Pyramulator

/-! The metrics that are computed from the statistics. -/

/-- A regular expression `before(\d+)after$`. -/
structure Pattern where
  before : String
  after : String
  deriving DecidableEq

namespace Pattern

/-- What `(\d+)after$` matches. No number is followed by a digit. -/
def matchesRest (after rest : List Char) : Bool :=
  rest.takeWhile Char.isDigit ≠ [] ∧
    (rest.dropWhile Char.isDigit = after ∨ rest.dropWhile Char.isDigit = after ++ ['\n'])

/-- `pattern.match(name)`. -/
def matches_ (pattern : Pattern) (name : String) : Bool :=
  (name.toList.dropPrefix? pattern.before.toList).any (matchesRest pattern.after.toList)

def name (pattern : Pattern) (number : Nat) : String :=
  pattern.before ++ (number.repr ++ pattern.after)

def Apart (first second : String) : Prop :=
  ¬ first.toList <+: second.toList ∧ ¬ second.toList <+: first.toList

instance (first second : String) : Decidable (Apart first second) :=
  inferInstanceAs (Decidable (_ ∧ _))

theorem matches_name {pattern : Pattern}
    (closed : pattern.after.toList.takeWhile Char.isDigit = []) (number : Nat) :
    pattern.matches_ (pattern.name number) = true := by
  have digits : ∀ char ∈ Nat.toDigits 10 number, char.isDigit = true :=
    fun char member => Nat.isDigit_of_mem_toDigits (by decide) (by decide) member
  have taken : (Nat.toDigits 10 number ++ pattern.after.toList).takeWhile Char.isDigit =
      Nat.toDigits 10 number := by
    rw [List.takeWhile_append_of_pos digits, closed, List.append_nil]
  have left : (Nat.toDigits 10 number ++ pattern.after.toList).dropWhile Char.isDigit =
      pattern.after.toList := by
    have whole := List.takeWhile_append_dropWhile (p := Char.isDigit)
      (l := Nat.toDigits 10 number ++ pattern.after.toList)
    rw [taken] at whole
    exact List.append_cancel_left whole
  rw [matches_, name, String.toList_append,
    List.dropPrefix?_append_of_beq _ (beq_self_eq_true _), String.toList_append,
      Nat.toList_repr, Option.any_some, matchesRest, taken, left]
  simp [Nat.toDigits_ne_nil]

theorem matches_apart {pattern : Pattern} {start : String}
    (apart : Apart pattern.before start)
    (rest : String) : pattern.matches_ (start ++ rest) = false := by
  have dropped : (start ++ rest).toList.dropPrefix? pattern.before.toList = none := by
    rw [String.toList_append]
    refine Option.eq_none_iff_forall_ne_some.mpr fun tail found => ?_
    obtain ⟨same, whole, equal⟩ := List.dropPrefix?_eq_some_iff.mp found
    obtain rfl := eq_of_beq equal
    rcases List.prefix_or_prefix_of_prefix ⟨tail, whole.symm⟩
      (List.prefix_append start.toList rest.toList) with shorter | longer
    · exact apart.1 shorter
    · exact apart.2 longer
  rw [matches_, dropped, Option.any_none]

end Pattern

/-- `_LAT_SUM_RE`. -/
def latSumRe : Pattern := ⟨"read_latency_sum_", ""⟩

/-- `_ROW_HITS_RE`. -/
def rowHitsRe : Pattern := ⟨"read_row_hits_channel_", "_core"⟩

/-- `_ROW_MISSES_RE`. -/
def rowMissesRe : Pattern := ⟨"read_row_misses_channel_", "_core"⟩

/-- `_ROW_CONFLICTS_RE`. -/
def rowConflictsRe : Pattern := ⟨"read_row_conflicts_channel_", "_core"⟩

def patterns : List Pattern := [latSumRe, rowHitsRe, rowMissesRe, rowConflictsRe]

/-- `isinstance(value, (int, float))`. -/
def StatValue.number? : StatValue → Option ℚ
  | .number value => some value
  | .list _ => none

/-- `_sum_matching`. -/
def sumMatching (stats : StatsDict) (pattern : Pattern) : ℚ :=
  (stats.filterMap fun entry =>
    if pattern.matches_ entry.1 then entry.2.number? else none).sum

/-- `_num`. -/
def num (stats : StatsDict) (key : String) : ℚ :=
  ((stats.lookup key).bind StatValue.number?).getD 0

def avgReadLatency (stats : StatsDict) : ℚ :=
  let total := sumMatching stats latSumRe
  let requests := num stats "read_requests"
  if requests ≠ 0 then total / requests else 0

def rowHitRate (stats : StatsDict) : ℚ :=
  let hits := sumMatching stats rowHitsRe
  let misses := sumMatching stats rowMissesRe
  let conflicts := sumMatching stats rowConflictsRe
  let total := hits + misses + conflicts
  if total ≠ 0 then hits / total else 0

def measuredBandwidth (stats : StatsDict) (cacheline : Int) (tckNs : ℚ) : ℚ :=
  let requests := num stats "read_requests" + num stats "write_requests"
  let cycles := num stats "dram_cycles"
  let seconds := cycles * tckNs / 10 ^ 9
  if seconds ≤ 0 then 0 else requests * cacheline / seconds / 10 ^ 9

/-- The dict of `summarize_metrics`. -/
structure Summary where
  readRequests : ℚ
  writeRequests : ℚ
  dramCycles : ℚ
  avgReadLatencyCycles : ℚ
  avgReadLatencyNs : ℚ
  rowHitRate : ℚ
  bandwidthGbs : ℚ
  deriving DecidableEq

def summarizeMetrics (stats : StatsDict) (cacheline : Int) (tckNs : ℚ) : Summary :=
  let latency := avgReadLatency stats
  { readRequests := num stats "read_requests"
    writeRequests := num stats "write_requests"
    dramCycles := num stats "dram_cycles"
    avgReadLatencyCycles := latency
    avgReadLatencyNs := latency * tckNs
    rowHitRate := rowHitRate stats
    bandwidthGbs := measuredBandwidth stats cacheline tckNs }

end Pyramulator
