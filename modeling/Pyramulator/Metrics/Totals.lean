import Pyramulator.Metrics.Metrics
import Mathlib.Algebra.BigOperators.Fin

namespace Pyramulator

/-! The statistics that Ramulator registers, and the metrics of their totals. -/

open Pattern (Apart)

structure Channel (numCores : Nat) where
  id : Nat
  rowHits : Fin numCores → ℚ
  rowMisses : Fin numCores → ℚ
  rowConflicts : Fin numCores → ℚ
  readLatencySum : ℚ

structure Counters (numCores : Nat) where
  readRequests : Fin numCores → ℚ
  writeRequests : Fin numCores → ℚ
  dramCycles : ℚ
  channels : List (Channel numCores)

structure Totals where
  readRequests : ℚ
  writeRequests : ℚ
  dramCycles : ℚ
  readLatency : ℚ
  rowHits : ℚ
  rowMisses : ℚ
  rowConflicts : ℚ

def Totals.summary (totals : Totals) (cacheline : Int) (tckNs : ℚ) : Summary :=
  let latency := totals.readLatency / totals.readRequests
  let seconds := totals.dramCycles * tckNs / 10 ^ 9
  { readRequests := totals.readRequests
    writeRequests := totals.writeRequests
    dramCycles := totals.dramCycles
    avgReadLatencyCycles := latency
    avgReadLatencyNs := latency * tckNs
    rowHitRate :=
      totals.rowHits / (totals.rowHits + totals.rowMisses + totals.rowConflicts)
    bandwidthGbs :=
      if seconds ≤ 0 then 0
      else (totals.readRequests + totals.writeRequests) * cacheline / seconds / 10 ^ 9 }

variable {numCores : Nat}

def Stat.prefixed (name : String) (result : StatResult) : Stat :=
  ⟨"ramulator." ++ name, result⟩

def Channel.register (channel : Channel numCores) : List Stat :=
  [Stat.prefixed (rowHitsRe.name channel.id) (.vector (List.ofFn channel.rowHits)),
    Stat.prefixed (rowMissesRe.name channel.id) (.vector (List.ofFn channel.rowMisses)),
    Stat.prefixed (rowConflictsRe.name channel.id)
      (.vector (List.ofFn channel.rowConflicts)),
    Stat.prefixed (latSumRe.name channel.id) (.scalar channel.readLatencySum)]

namespace Counters

def register (counters : Counters numCores) : List Stat :=
  [Stat.prefixed "read_requests" (.vector (List.ofFn counters.readRequests)),
    Stat.prefixed "write_requests" (.vector (List.ofFn counters.writeRequests)),
    Stat.prefixed "dram_cycles" (.scalar counters.dramCycles)] ++
      counters.channels.flatMap Channel.register

/-- The totals, when a vector counts as `total` says. -/
def summed (counters : Counters numCores) (total : (Fin numCores → ℚ) → ℚ) : Totals where
  readRequests := total counters.readRequests
  writeRequests := total counters.writeRequests
  dramCycles := counters.dramCycles
  readLatency := (counters.channels.map Channel.readLatencySum).sum
  rowHits := (counters.channels.map fun channel => total channel.rowHits).sum
  rowMisses := (counters.channels.map fun channel => total channel.rowMisses).sum
  rowConflicts := (counters.channels.map fun channel => total channel.rowConflicts).sum

def totals (counters : Counters numCores) : Totals :=
  counters.summed fun vector => ∑ core, vector core

end Counters

def fixedNames : List String := ["read_requests", "write_requests", "dram_cycles"]

def Read (name : String) : Prop :=
  name ∈ fixedNames ∨
    ∃ pattern ∈ patterns, pattern.matches_ name = true

instance : DecidablePred Read := fun name =>
  inferInstanceAs (Decidable (name ∈ fixedNames ∨
    ∃ pattern ∈ patterns, pattern.matches_ name = true))

/-- The statistics of a memory: those of its counters and others, in any order, each
under a name of its own. -/
structure Registered (counters : Counters numCores) (others stats : List Stat) :
    Prop where
  all : stats.Perm (counters.register ++ others)
  distinct : ((stats.filterMap Stat.entry).map Prod.fst).Nodup
  unread : ∀ stat ∈ others, ¬ Read stat.displayName

def seen (vector : Fin numCores → ℚ) : ℚ :=
  ((Stat.shape (List.ofFn vector)).number?).getD 0

theorem seen_one (vector : Fin 1 → ℚ) : seen vector = ∑ core, vector core := by
  rw [Fin.sum_univ_one]
  rfl

theorem seen_many (several : 2 ≤ numCores) (vector : Fin numCores → ℚ) :
    seen vector = 0 := by
  obtain ⟨more, rfl⟩ := Nat.exists_eq_add_of_le' several
  simp only [seen, List.ofFn_succ, Stat.shape, StatValue.number?, Option.getD_none]

def Stat.counted (pattern : Pattern) (stat : Stat) : ℚ :=
  (stat.entry.bind fun entry =>
    if pattern.matches_ entry.1 then entry.2.number? else none).getD 0

theorem sumMatching_entries (pattern : Pattern) (stats : List Stat) :
    sumMatching (stats.filterMap Stat.entry) pattern =
      (stats.map (Stat.counted pattern)).sum := by
  rw [sumMatching, List.filterMap_filterMap]
  induction stats with
  | nil => rfl
  | cons stat rest induction =>
      rw [List.filterMap_cons, List.map_cons, List.sum_cons, ← induction, Stat.counted]
      cases stat.entry.bind fun entry =>
        if pattern.matches_ entry.1 then entry.2.number? else none with
      | none => exact (zero_add _).symm
      | some value => exact List.sum_cons

theorem counted_unmatched {pattern : Pattern} {stat : Stat}
    (unmatched : pattern.matches_ stat.displayName = false) :
    stat.counted pattern = 0 := by
  unfold Stat.counted Stat.entry
  split
  · rfl
  · cases stat.values with
    | none => rfl
    | some values => simp [unmatched]

theorem counted_apart {pattern : Pattern} {start : String}
    (apart : Apart pattern.before start) (rest : String) (result : StatResult) :
    (Stat.prefixed (start ++ rest) result).counted pattern = 0 := by
  apply counted_unmatched
  rw [Stat.prefixed, Stat.displayName_prefixed]
  exact Pattern.matches_apart apart rest

theorem counted_name {pattern : Pattern}
    (closed : pattern.after.toList.takeWhile Char.isDigit = []) (number : Nat)
    {result : StatResult} {values : List ℚ}
    (read : Stat.values ⟨pattern.name number, result⟩ = some values) :
    (Stat.prefixed (pattern.name number) result).counted pattern =
      ((Stat.shape values).number?).getD 0 := by
  have named : pattern.name number ≠ "" := by
    intro empty
    have nothing := congrArg String.toList empty
    rw [Pattern.name, String.toList_append, String.toList_append,
      Nat.toList_repr] at nothing
    exact Nat.toDigits_ne_nil
      (List.append_eq_nil_iff.mp (List.append_eq_nil_iff.mp nothing).2).1
  have values_ : (Stat.prefixed (pattern.name number) result).values = some values := read
  rw [Stat.counted, Stat.entry, values_, Stat.prefixed,
    Stat.displayName_prefixed, if_neg named, Option.map_some, Option.bind_some,
      Pattern.matches_name closed, if_pos rfl]

theorem counted_other {pattern other : Pattern}
    (apart : Apart pattern.before other.before) (number : Nat) (result : StatResult) :
    (Stat.prefixed (other.name number) result).counted pattern = 0 :=
  counted_apart apart (number.repr ++ other.after) result

namespace Channel

variable (channel : Channel numCores)

theorem counted_latency :
    (channel.register.map (Stat.counted latSumRe)).sum = channel.readLatencySum := by
  simp only [register, List.map_cons, List.map_nil, List.sum_cons, List.sum_nil]
  rw [counted_other (by decide), counted_other (by decide), counted_other (by decide),
    counted_name rfl _ rfl, zero_add, zero_add, zero_add, add_zero]
  rfl

theorem counted_hits :
    (channel.register.map (Stat.counted rowHitsRe)).sum = seen channel.rowHits := by
  simp only [register, List.map_cons, List.map_nil, List.sum_cons, List.sum_nil]
  rw [counted_name rfl _ rfl, counted_other (by decide), counted_other (by decide),
    counted_other (by decide), add_zero, add_zero, add_zero, add_zero]
  rfl

theorem counted_misses :
    (channel.register.map (Stat.counted rowMissesRe)).sum = seen channel.rowMisses := by
  simp only [register, List.map_cons, List.map_nil, List.sum_cons, List.sum_nil]
  rw [counted_other (by decide), counted_name rfl _ rfl, counted_other (by decide),
    counted_other (by decide), zero_add, add_zero, add_zero, add_zero]
  rfl

theorem counted_conflicts :
    (channel.register.map (Stat.counted rowConflictsRe)).sum =
      seen channel.rowConflicts := by
  simp only [register, List.map_cons, List.map_nil, List.sum_cons, List.sum_nil]
  rw [counted_other (by decide), counted_other (by decide), counted_name rfl _ rfl,
    counted_other (by decide), zero_add, zero_add, add_zero, add_zero]
  rfl

end Channel

theorem fixed_unmatched :
    ∀ pattern ∈ patterns, ∀ name ∈ fixedNames, pattern.matches_ name = false := by
  decide +kernel

namespace Registered

variable {counters : Counters numCores} {others stats : List Stat}

theorem sumMatching_eq (registered : Registered counters others stats) {pattern : Pattern}
    (regular : pattern ∈ patterns)
    {of : Channel numCores → ℚ}
    (channel : ∀ channel : Channel numCores,
      (channel.register.map (Stat.counted pattern)).sum = of channel) :
    sumMatching (stats.filterMap Stat.entry) pattern =
      (counters.channels.map of).sum := by
  have unread : (others.map (Stat.counted pattern)).sum = 0 := by
    apply List.sum_eq_zero
    intro value member
    obtain ⟨stat, other, rfl⟩ := List.mem_map.mp member
    apply counted_unmatched
    rw [Bool.eq_false_iff]
    exact fun matched => registered.unread stat other (.inr ⟨pattern, regular, matched⟩)
  have fixed (name : String) (result : StatResult)
      (unmatched : pattern.matches_ name = false) :
      (Stat.prefixed name result).counted pattern = 0 := by
    apply counted_unmatched
    rw [Stat.prefixed, Stat.displayName_prefixed]
    exact unmatched
  have channels (several : List (Channel numCores)) :
      ((several.flatMap Channel.register).map (Stat.counted pattern)).sum =
        (several.map of).sum := by
    induction several with
    | nil => rfl
    | cons first rest induction =>
        rw [List.flatMap_cons, List.map_append, List.sum_append, channel, induction,
          List.map_cons, List.sum_cons]
  have names := fixed_unmatched pattern regular
  rw [sumMatching_entries, (registered.all.map _).sum_eq, List.map_append,
    List.sum_append, unread, add_zero, Counters.register, List.map_append,
      List.sum_append, channels]
  simp only [List.map_cons, List.map_nil, List.sum_cons, List.sum_nil, zero_add,
    fixed _ _ (names "read_requests" (by decide)),
    fixed _ _ (names "write_requests" (by decide)),
      fixed _ _ (names "dram_cycles" (by decide))]

theorem num_eq (registered : Registered counters others stats) {name : String}
    {values : List ℚ} {result : StatResult} (named : name ≠ "")
    (member : Stat.prefixed name result ∈ counters.register)
    (read : Stat.values ⟨name, result⟩ = some values) :
    num (stats.filterMap Stat.entry) name = ((Stat.shape values).number?).getD 0 := by
  have stored : (name, Stat.shape values) ∈ stats.filterMap Stat.entry := by
    refine List.mem_filterMap.mpr ⟨_, registered.all.mem_iff.mpr
      (List.mem_append_left _ member), ?_⟩
    have values_ : (Stat.prefixed name result).values = some values := read
    rw [Stat.entry, values_, Stat.prefixed, Stat.displayName_prefixed, if_neg named,
      Option.map_some]
  rw [num, StatsDict.lookup_of_mem registered.distinct stored, Option.bind_some]

theorem quotient (dividend divisor : ℚ) :
    (if divisor ≠ 0 then dividend / divisor else 0) = dividend / divisor := by
  split
  · rfl
  · rename_i zero
    rw [not_not.mp zero, div_zero]

theorem summarizeMetrics_eq (registered : Registered counters others stats)
    (cacheline : Int) (tckNs : ℚ) :
    summarizeMetrics (stats.filterMap Stat.entry) cacheline tckNs =
      (counters.summed seen).summary cacheline tckNs := by
  have latency : sumMatching (stats.filterMap Stat.entry) latSumRe =
      (counters.channels.map Channel.readLatencySum).sum :=
    registered.sumMatching_eq (by decide) Channel.counted_latency
  have hits : sumMatching (stats.filterMap Stat.entry) rowHitsRe =
      (counters.channels.map fun channel => seen channel.rowHits).sum :=
    registered.sumMatching_eq (by decide) Channel.counted_hits
  have misses : sumMatching (stats.filterMap Stat.entry) rowMissesRe =
      (counters.channels.map fun channel => seen channel.rowMisses).sum :=
    registered.sumMatching_eq (by decide) Channel.counted_misses
  have conflicts : sumMatching (stats.filterMap Stat.entry) rowConflictsRe =
      (counters.channels.map fun channel => seen channel.rowConflicts).sum :=
    registered.sumMatching_eq (by decide) Channel.counted_conflicts
  have reads :
      num (stats.filterMap Stat.entry) "read_requests" = seen counters.readRequests :=
    registered.num_eq (by decide) List.mem_cons_self rfl
  have writes : num (stats.filterMap Stat.entry) "write_requests" =
      seen counters.writeRequests :=
    registered.num_eq (by decide) (List.mem_cons_of_mem _ List.mem_cons_self) rfl
  have cycles : num (stats.filterMap Stat.entry) "dram_cycles" = counters.dramCycles :=
    registered.num_eq (by decide)
      (List.mem_cons_of_mem _ (List.mem_cons_of_mem _ List.mem_cons_self)) rfl
  simp only [summarizeMetrics, avgReadLatency, rowHitRate, measuredBandwidth,
    latency, hits, misses, conflicts, reads, writes, cycles, quotient]
  rfl

end Registered

def Totals.Idle (totals : Totals) : Prop :=
  totals.readRequests = 0 ∧ totals.writeRequests = 0 ∧
    (totals.rowHits = 0 ∨ totals.rowHits + totals.rowMisses + totals.rowConflicts = 0)

theorem Counters.unseen_summary (counters : Counters numCores) (several : 2 ≤ numCores)
    (cacheline : Int) (tckNs : ℚ) :
    (counters.summed seen).summary cacheline tckNs =
      counters.totals.summary cacheline tckNs ↔
      counters.totals.Idle := by
  have nothing (vectors : Channel numCores → Fin numCores → ℚ) :
      (counters.channels.map fun channel => seen (vectors channel)).sum = 0 := by
    simp only [seen_many several, List.map_const', List.sum_replicate, nsmul_zero]
  have unseen : counters.summed seen =
      ⟨0, 0, counters.dramCycles, counters.totals.readLatency, 0, 0, 0⟩ := by
    rw [summed, seen_many several, seen_many several, nothing, nothing, nothing]
    rfl
  have cycles : counters.totals.dramCycles = counters.dramCycles := rfl
  rw [unseen]
  constructor
  · intro same
    have reads := congrArg Summary.readRequests same
    have writes := congrArg Summary.writeRequests same
    have rate := congrArg Summary.rowHitRate same
    simp only [Totals.summary, div_zero, add_zero] at reads writes rate
    exact ⟨reads.symm, writes.symm, div_eq_zero_iff.mp rate.symm⟩
  · rintro ⟨reads, writes, rate⟩
    have rate :
        counters.totals.rowHits / (counters.totals.rowHits + counters.totals.rowMisses +
        counters.totals.rowConflicts) = 0 := div_eq_zero_iff.mpr rate
    simp only [Totals.summary, reads, writes, rate, cycles, add_zero, div_zero]

/-- The metrics that are computed from the exported statistics are those of the totals
over all cores and channels if and only if there is one core, or there were neither
requests nor row hits. -/
theorem summarizeMetrics_totals (positive : 1 ≤ numCores) {counters : Counters numCores}
    {others : List Stat} {all : List (Option Stat)} {first last : Nat}
    (registered : Registered counters others
      ((all.drop first).take (last - first)).reduceOption) (cacheline : Int) (tckNs : ℚ) :
    summarizeMetrics (statsSlice all first last) cacheline tckNs =
        counters.totals.summary cacheline tckNs ↔
      numCores = 1 ∨ counters.totals.Idle := by
  rw [statsSlice_eq rfl registered.distinct, registered.summarizeMetrics_eq]
  rcases positive.eq_or_lt with rfl | several
  · refine iff_of_true ?_ (.inl rfl)
    rw [Counters.totals, funext seen_one]
  · rw [or_iff_right several.ne']
    exact counters.unseen_summary several cacheline tckNs

def twoReads (numCores : Nat) : Counters numCores where
  readRequests _ := 1
  writeRequests _ := 0
  dramCycles := 50
  channels := [⟨0, fun core => if core.val = 0 then 1 else 0,
    fun core => if core.val = 0 then 0 else 1, fun _ => 0, 60⟩]

def exported (numCores : Nat) : List (Option Stat) :=
  some (Stat.prefixed "dram_cycles" (.scalar 7)) ::
    ((twoReads numCores).register ++
      [Stat.prefixed "maximum_bandwidth" (.scalar 19200)]).map some

theorem summarizeMetrics_oneCore :
    summarizeMetrics (statsSlice (exported 1) 1 9) 64 1 =
      (twoReads 1).totals.summary 64 1 := by
  have registered :
      Registered (twoReads 1) [Stat.prefixed "maximum_bandwidth" (.scalar 19200)]
      (((exported 1).drop 1).take (9 - 1)).reduceOption :=
    { all := .refl _
      distinct := by decide +kernel
      unread := by decide +kernel }
  exact (summarizeMetrics_totals (by decide) registered 64 1).mpr (.inl rfl)

/-- With two cores the requests and the row hits are not seen. -/
theorem summarizeMetrics_twoCores :
    Registered (twoReads 2) [Stat.prefixed "maximum_bandwidth" (.scalar 19200)]
        (((exported 2).drop 1).take (9 - 1)).reduceOption ∧
      summarizeMetrics (statsSlice (exported 2) 1 9) 64 1 = ⟨0, 0, 50, 0, 0, 0, 0⟩ ∧
        (twoReads 2).totals.summary 64 1 = ⟨2, 0, 50, 30, 30, 1 / 2, 64 / 25⟩ :=
  ⟨{ all := .refl _
     distinct := by decide +kernel
     unread := by decide +kernel }, by decide +kernel, by decide +kernel⟩

end Pyramulator
