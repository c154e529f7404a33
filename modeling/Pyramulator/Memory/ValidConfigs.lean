import Mathlib.Algebra.Order.Ring.Cast
import Mathlib.Algebra.Order.Ring.Rat
import Pyramulator.Memory.Validation

namespace Pyramulator.Configuration

/-! A valid configuration can be used. -/

theorem count_bits_eq_zero {n : Nat} (unset : n.bits.count true = 0) : n = 0 := by
  induction n using Nat.strongRecOn with
  | ind n induction =>
      rcases Nat.even_or_odd' n with ⟨half, rfl | rfl⟩
      · by_cases zero : half = 0
        · rw [zero, Nat.mul_zero]
        · rw [Nat.bit0_bits half zero, List.count_cons_of_ne (by decide)] at unset
          exact absurd (induction half (by omega) unset) zero
      · rw [Nat.bit1_bits, List.count_cons_self] at unset
        cases unset

theorem count_bits_eq_one {n : Nat} : n.bits.count true = 1 ↔ ∃ k, n = 2 ^ k := by
  constructor
  · intro one
    induction n using Nat.strongRecOn with
    | ind n induction =>
        rcases Nat.even_or_odd' n with ⟨half, rfl | rfl⟩
        · by_cases zero : half = 0
          · rw [zero, Nat.mul_zero, Nat.zero_bits] at one
            cases one
          · rw [Nat.bit0_bits half zero, List.count_cons_of_ne (by decide)] at one
            obtain ⟨k, power⟩ := induction half (by omega) one
            exact ⟨k + 1, by rw [power, Nat.pow_succ, Nat.mul_comm]⟩
        · rw [Nat.bit1_bits, List.count_cons_self] at one
          exact ⟨0, by rw [count_bits_eq_zero (Nat.succ.inj one)]; rfl⟩
  · rintro ⟨k, rfl⟩
    induction k with
    | zero => rw [Nat.pow_zero, Nat.one_bits, List.count_cons_self, List.count_nil]
    | succ k induction =>
        rw [Nat.pow_succ, Nat.mul_comm, Nat.bit0_bits _ (Nat.two_pow_pos k).ne',
          List.count_cons_of_ne (by decide), induction]

theorem power_iff (value : Int) :
    ¬ (value < 1 ∨ bitCount value ≠ 1) ↔ ∃ k : Nat, value = 2 ^ k := by
  rw [not_or, not_not, bitCount, count_bits_eq_one]
  constructor
  · rintro ⟨positive, k, power⟩
    refine ⟨k, ?_⟩
    have exact_ := Int.natAbs_of_nonneg (show 0 ≤ value by omega)
    rw [power] at exact_
    exact exact_.symm.trans (by push_cast; rfl)
  · rintro ⟨k, rfl⟩
    refine ⟨?_, k, ?_⟩
    · have := Int.pow_pos (show (0 : Int) < 2 by decide) (m := k)
      omega
    · rw [Int.natAbs_pow]
      rfl

theorem toFloat_ok {value : Int} {float : ℚ} (converted : toFloat value = .ok float) :
    float = value := by
  unfold toFloat at converted
  split at converted <;> cases converted
  rfl

theorem toFloat_power {k : Nat} : (∃ float, toFloat (2 ^ k) = .ok float) ↔ k < 1024 := by
  have size : ((2 : Int) ^ k).natAbs = 2 ^ k := Int.natAbs_pow 2 k
  unfold toFloat
  rw [size]
  constructor
  · rintro ⟨float, converted⟩
    by_contra large
    have least : 2 ^ 1024 ≤ 2 ^ k := pow_le_pow_right₀ one_le_two (not_lt.mp large)
    have limit : floatLimit ≤ 2 ^ 1024 := by decide +kernel
    rw [if_neg (not_lt.mpr (limit.trans least))] at converted
    cases converted
  · intro small
    have most : 2 ^ k ≤ 2 ^ 1023 := pow_le_pow_right₀ one_le_two (Nat.le_of_lt_succ small)
    have limit : 2 ^ 1023 < floatLimit := by decide +kernel
    exact ⟨_, if_pos (lt_of_le_of_lt most limit)⟩

theorem notPowerOfTwo_power (k : Nat) : notPowerOfTwo (2 ^ k) = false := by
  have power : (2 : Int) ^ k = ((2 ^ k : Nat) : Int) := by push_cast; rfl
  have masked :=
    (Nat.ne_zero_and_sub_one_eq_zero_iff_isPowerOfTwo (n := 2 ^ k)).mpr ⟨k, rfl⟩
  have below : ((2 : Int) ^ k - 1).toNat = 2 ^ k - 1 := by
    rw [power]
    omega
  have positive := Nat.two_pow_pos k
  unfold notPowerOfTwo
  rw [below, power, Int.toNat_natCast, masked.2]
  simp

structure Valid (ram : Ramulator) (config : ram.Config) : Prop where
  standard : ram.getItem config "standard" ∈ Tables.supportedStandards
  speed : ram.getItem config "speed" = "" ∨ ram.getItem config "speed" ∈
    choices Tables.speedGrades (standardKey (ram.getItem config "standard"))
  org : ram.getItem config "org" = "" ∨ ram.getItem config "org" ∈
    choices Tables.organizations (standardKey (ram.getItem config "standard"))
  mapping : ram.getItem config "mapping" = "" ∨
    ram.getItem config "mapping" ∈ Tables.supportedMappings
  channels : ∃ k : Nat, int (ram.getItem config "channels") = .ok (2 ^ k)
  ranks : ∃ k : Nat, int (ram.getItem config "ranks") = .ok (2 ^ k)

variable {ram : Ramulator} {config : ram.Config}

theorem bind_ok {α β : Type} {first : Except PyError α} {next : α → Except PyError β}
    {result : β} : (first >>= next) = .ok result ↔
      ∃ value, first = .ok value ∧ next value = .ok result := by
  cases first with
  | error error =>
      constructor
      · intro impossible
        cases impossible
      · rintro ⟨_, impossible, _⟩
        cases impossible
  | ok value =>
      constructor
      · exact fun done => ⟨value, rfl, done⟩
      · rintro ⟨_, same, done⟩
        cases same
        exact done

theorem raiseIf_ok {failed : Prop} [Decidable failed] {message : String} {done : Unit} :
    raiseIf failed message = .ok done ↔ ¬ failed := by
  unfold raiseIf
  split <;> simp_all

theorem optional_iff {field : String} {known : List String} :
    ¬ (field ≠ "" ∧ field ∉ known) ↔ field = "" ∨ field ∈ known := by
  rw [not_and_or, not_not, not_not]

theorem validate_ok_iff : validate ram config = .ok () ↔ Valid ram config := by
  simp only [validate, bind_ok, raiseIf_ok, optional_iff]
  constructor
  · rintro ⟨-, named, -, standard, -, speed, -, org, -, mapping, channels, parsed,
      ranks, parsed', -, power, power'⟩
    obtain ⟨k, rfl⟩ := (power_iff channels).mp power
    obtain ⟨k', rfl⟩ := (power_iff ranks).mp power'
    exact
      { standard := not_not.mp standard
        speed, org, mapping
        channels := ⟨k, parsed⟩
        ranks := ⟨k', parsed'⟩ }
  · intro valid
    obtain ⟨k, parsed⟩ := valid.channels
    obtain ⟨k', parsed'⟩ := valid.ranks
    refine ⟨(), ?_, (), not_not.mpr valid.standard, (), valid.speed, (), valid.org,
      (), valid.mapping, _, parsed, _, parsed',
      (), (power_iff _).mpr ⟨k, rfl⟩, (power_iff _).mpr ⟨k', rfl⟩⟩
    intro empty
    have listed := valid.standard
    rw [empty] at listed
    revert listed
    decide

theorem minCacheline_power : ∀ standard ∈ Tables.supportedStandards,
    ∃ i < 8, (minCacheline.lookup (standardKey standard)).getD 8 = 2 ^ i := by
  decide +kernel

def transferBytes (standard : String) : Int :=
  ((Tables.channelWidths.lookup (standardKey standard)).getD 64).fdiv 8

theorem transferBytes_pos : ∀ standard ∈ Tables.supportedStandards,
    0 < transferBytes standard := by
  decide +kernel

def dataRate (speed : String) : Except PyError Int :=
  (ratePrefix speed).map fun rate => (Tables.dataRates.lookup rate).getD 0

theorem ratePrefix_of_dataRate {speed : String} {rate : Int}
    (found : dataRate speed = .ok rate) :
    ∃ named, ratePrefix speed = .ok named ∧
      (Tables.dataRates.lookup named).getD 0 = rate := by
  unfold dataRate at found
  cases prefixed : ratePrefix speed with
  | error error =>
      rw [prefixed] at found
      cases found
  | ok named =>
      rw [prefixed] at found
      exact ⟨named, rfl, Except.ok.inj found⟩

theorem dataRate_pos : ∀ standard ∈ Tables.supportedStandards,
    ∀ speed ∈ choices Tables.speedGrades (standardKey standard),
      (dataRate speed).toOption.any (0 < ·) = true := by
  decide +kernel

def rankBytes (standard org : String) : Except PyError Int :=
  estimateCapacity standard org 1 1

theorem rankBytes_pos : ∀ standard ∈ Tables.supportedStandards,
    ∀ org ∈ choices Tables.organizations (standardKey standard),
      (rankBytes standard org).toOption.any (0 < ·) = true := by
  decide +kernel

theorem exists_of_any {result : Except PyError Int}
    (positive : result.toOption.any (0 < ·) = true) : ∃ value, result = .ok value ∧
    0 < value := by
  cases result with
  | error => cases positive
  | ok value => exact ⟨value, rfl, of_decide_eq_true positive⟩

theorem estimateCapacity_eq (standard org : String) (channels ranks : Int) :
    estimateCapacity standard org channels ranks =
      (rankBytes standard org).map fun bytes => bytes * ranks * channels := by
  unfold rankBytes estimateCapacity
  cases parseOrg org with
  | error => rfl
  | ok parsed =>
      change Except.ok _ = Except.ok _
      simp only [mul_one]

section

variable (valid : Valid ram config)
include valid

theorem Valid.init {γ : Type}
    (kept : ∀ config num name,
      ram.getItem (ram.setCoreNum config num) name = ram.getItem config name)
    {k : Nat} {numCores : Int} (fits : FitsInt (2 ^ k)) (fits' : FitsInt numCores)
    (large : (minCacheline.lookup (standardKey (ram.getItem config "standard"))).getD 8 ≤
      2 ^ k) :
    MemorySystem.init (γ := γ) ram (.made config) (2 ^ k) numCores =
      .ok (.create _ (2 ^ k) numCores) := by
  obtain ⟨i, -, power⟩ := minCacheline_power _ valid.standard
  have created : ram.getItem (ram.withCores config numCores) "standard" =
      ram.getItem config "standard" := by
    unfold Ramulator.withCores
    split
    · exact kept _ _ _
    · rfl
  have divides : (2 : Int) ^ k % 2 ^ i = 0 := by
    rw [power] at large
    have le : i ≤ k := (pow_le_pow_iff_right₀ (by decide)).mp large
    exact Int.emod_eq_zero_of_dvd (pow_dvd_pow 2 le)
  have known : ram.getItem config "standard" ∈ Pyramulator.supportedStandards :=
    valid.standard
  simp only [MemorySystem.init, toConfig, notPowerOfTwo_power, created]
  rw [if_neg Bool.false_ne_true, if_neg, if_neg (not_not.mpr ⟨fits, fits'⟩),
    if_neg (not_not.mpr known)]
  rw [not_or, not_lt, not_not]
  refine ⟨large, ?_⟩
  rw [power]
  exact divides

theorem Valid.bandwidth : (∃ gbs > 0, theoreticalBandwidth ram (.made config) = .ok gbs) ↔
    ram.getItem config "speed" ≠ "" ∧ ∃ k < 1024, int (ram.getItem config "channels") =
      .ok (2 ^ k) := by
  constructor
  · rintro ⟨gbs, -, done⟩
    simp only [theoreticalBandwidth, bind_ok, toConfig] at done
    obtain ⟨many, parsed, rate, prefixed, -, -, factor, converted, -⟩ := done
    refine ⟨fun missing => ?_, ?_⟩
    · rw [missing] at prefixed
      cases prefixed
    · obtain ⟨k, channels⟩ := valid.channels
      cases channels.symm.trans parsed
      exact ⟨k, toFloat_power.mp ⟨factor, converted⟩, channels⟩
  · rintro ⟨given, k, small, channels⟩
    obtain ⟨factor, converted⟩ := toFloat_power.mpr small
    have listed := valid.speed.resolve_left given
    obtain ⟨rate, found, positive⟩ :=
      exists_of_any (dataRate_pos _ valid.standard _ listed)
    obtain ⟨named, prefixed, rfl⟩ := ratePrefix_of_dataRate found
    have bytes := transferBytes_pos _ valid.standard
    refine ⟨_, ?_, bind_ok.mpr ⟨_, channels, bind_ok.mpr ⟨named, prefixed, bind_ok.mpr
      ⟨(), raiseIf_ok.mpr positive.ne', bind_ok.mpr ⟨factor, converted, rfl⟩⟩⟩⟩⟩
    have rate : (0 : ℚ) < ((Tables.dataRates.lookup named).getD 0 : Int) :=
      Int.cast_pos.mpr positive
    have width : (0 : ℚ) < (transferBytes (ram.getItem config "standard") : Int) :=
      Int.cast_pos.mpr bytes
    have many : 0 < factor := by
      rw [toFloat_ok converted]
      exact Int.cast_pos.mpr (Int.pow_pos (by decide))
    exact div_pos (mul_pos (mul_pos (mul_pos rate (by decide)) width) many) (by decide)

theorem Valid.capacity : (∃ bytes > 0, capacity ram config = .ok bytes) ↔
    ram.getItem config "org" ≠ "" := by
  obtain ⟨k, channels⟩ := valid.channels
  obtain ⟨k', ranks⟩ := valid.ranks
  have eq : Configuration.capacity ram config =
      (rankBytes (ram.getItem config "standard") (ram.getItem config "org")).map
        fun bytes => bytes * 2 ^ k' * 2 ^ k := by
    rw [← estimateCapacity_eq, Configuration.capacity, channels, ranks]
    rfl
  rw [eq]
  constructor
  · rintro ⟨bytes, -, done⟩ missing
    rw [missing] at done
    cases done
  · intro given
    have listed := valid.org.resolve_left given
    obtain ⟨bytes, found, positive⟩ :=
      exists_of_any (rankBytes_pos _ valid.standard _ listed)
    have many : (0 : Int) < 2 ^ k := Int.pow_pos (by decide)
    have more : (0 : Int) < 2 ^ k' := Int.pow_pos (by decide)
    rw [found]
    exact ⟨_, mul_pos (mul_pos positive more) many, rfl⟩

end

/-- What passes `validate` can be built with every line size that is a power of two and
not below the minimum. Its bandwidth is estimated exactly if it names a speed grade and
its channels fit a float, and its capacity exactly if it names an organization. -/
theorem validate_usable {γ : Type}
    (kept : ∀ config num name,
      ram.getItem (ram.setCoreNum config num) name = ram.getItem config name)
    (passed : validate ram config = .ok ()) :
    (∀ (k : Nat) (numCores : Int), FitsInt (2 ^ k) → FitsInt numCores →
      (minCacheline.lookup (standardKey (ram.getItem config "standard"))).getD 8 ≤ 2 ^ k →
        MemorySystem.init (γ := γ) ram (.made config) (2 ^ k) numCores =
          .ok (.create _ (2 ^ k) numCores)) ∧
      ((∃ gbs > 0, theoreticalBandwidth ram (.made config) = .ok gbs) ↔
        ram.getItem config "speed" ≠ "" ∧
          ∃ k < 1024, int (ram.getItem config "channels") = .ok (2 ^ k)) ∧
      ((∃ bytes > 0, capacity ram config = .ok bytes) ↔
        ram.getItem config "org" ≠ "") := by
  have valid := validate_ok_iff.mp passed
  exact ⟨fun k numCores fits fits' large => valid.init kept fits fits' large,
    valid.bandwidth, valid.capacity⟩

def ddr4 : listRamulator.Config :=
  ([("standard", "DDR4"), ("speed", "DDR4_2400R"), ("org", "DDR4_4Gb_x8"),
    ("channels", "2"), ("ranks", "1")], 0)

theorem validate_usable_ddr4 :
    (∀ (k : Nat) (numCores : Int), FitsInt (2 ^ k) → FitsInt numCores →
      (minCacheline.lookup (standardKey (listRamulator.getItem ddr4 "standard"))).getD 8 ≤
        2 ^ k →
        MemorySystem.init (γ := Nat) listRamulator (.made ddr4) (2 ^ k) numCores =
          .ok (.create _ (2 ^ k) numCores)) ∧
      ((∃ gbs > 0, theoreticalBandwidth listRamulator (.made ddr4) = .ok gbs) ↔
        listRamulator.getItem ddr4 "speed" ≠ "" ∧
          ∃ k < 1024, int (listRamulator.getItem ddr4 "channels") = .ok (2 ^ k)) ∧
      ((∃ bytes > 0, capacity listRamulator ddr4 = .ok bytes) ↔
        listRamulator.getItem ddr4 "org" ≠ "") :=
  validate_usable (fun _ _ _ => rfl) (by decide +kernel)

example : capacity listRamulator ddr4 = .ok (8 * 2 ^ 30) := by decide +kernel

end Pyramulator.Configuration
