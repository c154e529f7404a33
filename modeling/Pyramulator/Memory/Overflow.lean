import Mathlib.Algebra.Ring.Int.Defs
import Pyramulator.Memory.DriveLoop

namespace Pyramulator

/-! The addresses of `send_range` and `drive_range` in the signed arithmetic of C++, where
a value that does not fit is undefined. -/

/-- A `long` that C++ computes. -/
def checkedLong (value : Int) : Option Int := if FitsLong value then some value else none

theorem checkedLong_eq_some {value result : Int} :
    checkedLong value = some result ↔ FitsLong value ∧ value = result := by
  unfold checkedLong
  split
  · rename_i fits
    simp [fits]
  · rename_i large
    simp [large]

theorem FitsLong.between {low middle high : Int} (first : FitsLong low)
    (last : FitsLong high)
    (above : low ≤ middle) (below : middle ≤ high) : FitsLong middle :=
  ⟨first.1.trans above, lt_of_le_of_lt below last.2⟩

theorem FitsLong.multiple {stride : Int} {last : Nat} (fits : FitsLong (last * stride))
    {index : Nat} (before : index ≤ last) : FitsLong (index * stride) := by
  have order : (index : Int) ≤ last := Int.ofNat_le.mpr before
  have zero : FitsLong 0 := by decide
  rcases Int.le_total 0 stride with positive | negative
  · exact zero.between fits (Int.mul_nonneg (Int.natCast_nonneg _) positive)
      (Int.mul_le_mul_of_nonneg_right order positive)
  · exact fits.between zero (Int.mul_le_mul_of_nonpos_right order negative)
      (Int.mul_nonpos_of_nonneg_of_nonpos (Int.natCast_nonneg _) negative)

namespace PyMemorySystem

variable {π : Type} {engine : Engine (CppCallback π)}

/-- The loop of `send_range`, where `addr += stride` may be undefined. -/
def sendStridedChecked (sys : PyMemorySystem engine) (type : RequestType) (coreid : Int)
    (callback : CppCallback π) (stride : Int) :
    Nat → Int → Option (List Bool × PyMemorySystem engine)
  | 0, _ => some ([], sys)
  | left + 1, addr => do
      let (accepted, sys) := sys.sendRequest ⟨addr, type, coreid, callback⟩
      let next ← checkedLong (addr + stride)
      let (flags, sys) ← sys.sendStridedChecked type coreid callback stride left next
      return (accepted :: flags, sys)

/-- `start + i * stride` in `drive_range`. -/
def driveAddr (start stride : Int) (i : Nat) : Option Int := do
  let offset ← checkedLong (i * stride)
  checkedLong (start + offset)

section

variable (type : RequestType) (coreid : Int) (callback : CppCallback π) (stride : Int)

theorem sendStridedChecked_fits (sys : PyMemorySystem engine) (left : Nat) (addr : Int)
    (fits : ∀ index : Nat, 1 ≤ index → index ≤ left → FitsLong (addr + index * stride)) :
    sys.sendStridedChecked type coreid callback stride left addr =
      some (sys.sendStrided type coreid callback stride left addr) := by
  induction left generalizing sys addr with
  | zero => rfl
  | succ left induction =>
      have next : FitsLong (addr + stride) := by
        have first := fits 1 (le_refl 1) (by omega)
        rwa [Nat.cast_one, Int.one_mul] at first
      have later (index : Nat) (positive : 1 ≤ index) (bound : index ≤ left) :
          FitsLong (addr + stride + index * stride) := by
        have moved := fits (index + 1) (by omega) (by omega)
        rwa [Nat.cast_add, Nat.cast_one, Int.add_mul, Int.one_mul, Int.add_comm (_ * _),
          ← Int.add_assoc] at moved
      rw [sendStridedChecked, sendStrided, checkedLong, if_pos next]
      simp only [Option.bind_eq_bind, Option.bind_some, induction _ _ later]
      rfl

theorem sendStridedChecked_overflow (sys : PyMemorySystem engine)
    {left index : Nat} (addr : Int)
    (positive : 1 ≤ index) (bound : index ≤ left)
    (large : ¬ FitsLong (addr + index * stride)) :
    sys.sendStridedChecked type coreid callback stride left addr = none := by
  induction left generalizing sys addr index with
  | zero => omega
  | succ left induction =>
      rw [sendStridedChecked, checkedLong]
      by_cases next : FitsLong (addr + stride)
      · rw [if_pos next]
        obtain ⟨index, rfl⟩ : ∃ before, index = before + 1 := ⟨index - 1, by omega⟩
        rw [Nat.cast_add, Nat.cast_one, Int.add_mul, Int.one_mul, Int.add_comm (_ * _),
          ← Int.add_assoc] at large
        have more : 1 ≤ index := by
          by_contra otherwise
          obtain rfl : index = 0 := by omega
          exact large (by simpa using next)
        simp only [Option.bind_eq_bind, Option.bind_some,
          induction _ (addr + stride) more (by omega) large, Option.bind_none]
      · rw [if_neg next]
        rfl

theorem sendStridedChecked_iff (sys : PyMemorySystem engine) (left : Nat) (addr : Int) :
    sys.sendStridedChecked type coreid callback stride left addr =
        some (sys.sendStrided type coreid callback stride left addr) ↔
      ∀ index : Nat, 1 ≤ index → index ≤ left → FitsLong (addr + index * stride) := by
  constructor
  · intro defined index positive bound
    by_contra large
    rw [sendStridedChecked_overflow type coreid callback stride sys addr
      positive bound large]
      at defined
    cases defined
  · exact sendStridedChecked_fits type coreid callback stride sys left addr

end

theorem driveAddr_iff (start stride : Int) (index : Nat) :
    driveAddr start stride index = some (start + index * stride) ↔
      FitsLong (index * stride) ∧ FitsLong (start + index * stride) := by
  simp only [driveAddr, Option.bind_eq_bind, Option.bind_eq_some_iff, checkedLong_eq_some]
  constructor
  · rintro ⟨_, ⟨offset, rfl⟩, sum, -⟩
    exact ⟨offset, sum⟩
  · rintro ⟨offset, sum⟩
    exact ⟨_, ⟨offset, rfl⟩, sum, rfl⟩

/-- Where all addresses of a range are representable, `send_range` does not overflow if
and only if the address behind the last one is representable as well, and `drive_range`
does not if and only if the distance from the first to the last one is. -/
theorem range_defined_iff (sys : PyMemorySystem engine) (type : RequestType)
    (coreid : Int) (callback : CppCallback π) {start stride count : Int}
    (representable : ∀ index : Nat, index < count → FitsLong (start + index * stride)) :
    (sys.sendStridedChecked type coreid callback stride count.toNat start =
        some (sys.sendStrided type coreid callback stride count.toNat start) ↔
      count ≤ 0 ∨ FitsLong (start + count * stride)) ∧
    ((∀ index : Nat, index < count →
        driveAddr start stride index = some (start + index * stride)) ↔
      count ≤ 0 ∨ FitsLong ((count - 1) * stride)) := by
  rcases Int.lt_or_le 0 count with positive | nonpositive
  · obtain ⟨last, rfl⟩ : ∃ last : Nat, count = last + 1 := ⟨(count - 1).toNat, by omega⟩
    have size : ((last : Int) + 1).toNat = last + 1 := by omega
    constructor
    · rw [sendStridedChecked_iff, size]
      constructor
      · intro all
        exact .inr (by simpa using all (last + 1) (by omega) (le_refl _))
      · rintro (impossible | behind) index - bound
        · omega
        · rcases Nat.lt_or_eq_of_le bound with within | rfl
          · exact representable index (by omega)
          · simpa using behind
    · constructor
      · intro all
        have defined := (driveAddr_iff start stride last).mp (all last (by omega))
        exact .inr (by simpa using defined.1)
      · rintro (impossible | distance) index bound
        · omega
        · have last_ : FitsLong ((last : Int) * stride) := by simpa using distance
          exact (driveAddr_iff start stride index).mpr
            ⟨last_.multiple (by omega), representable index bound⟩
  · have size : count.toNat = 0 := by omega
    rw [size]
    exact ⟨iff_of_true rfl (.inl nonpositive),
      iff_of_true (fun index bound => absurd bound (by omega)) (.inl nonpositive)⟩

/-- Three lines from address zero on. -/
theorem range_defined_lines :
    let sys : PyMemorySystem (Engine.fixedLatency (CppCallback Unit) 2 4) := create
    (sys.sendStridedChecked .read 0 .ignore 64 (3 : Int).toNat 0 =
        some (sys.sendStrided .read 0 .ignore 64 (3 : Int).toNat 0) ↔
      (3 : Int) ≤ 0 ∨ FitsLong (0 + 3 * 64)) ∧
    ((∀ index : Nat, (index : Int) < 3 → driveAddr 0 64 index = some (0 + index * 64)) ↔
      (3 : Int) ≤ 0 ∨ FitsLong ((3 - 1) * 64)) := by
  have representable (index : Nat) (bound : (index : Int) < 3) :
      FitsLong (0 + index * 64) := by
    obtain rfl | rfl | rfl : index = 0 ∨ index = 1 ∨ index = 2 := by omega
    all_goals decide
  exact range_defined_iff _ .read 0 .ignore representable

/-- The last line below the limit overflows `send_range`, and three lines across all
addresses overflow `drive_range`. -/
theorem range_overflows :
    let sys : PyMemorySystem (Engine.fixedLatency (CppCallback Unit) 2 4) := create
    ((∀ index : Nat, (index : Int) < 1 → FitsLong (2 ^ 63 - 64 + index * 64)) ∧
      sys.sendStridedChecked .read 0 .ignore 64 1 (2 ^ 63 - 64) = none) ∧
    (∀ index : Nat, (index : Int) < 3 → FitsLong (-2 ^ 63 + index * 2 ^ 62)) ∧
      driveAddr (-2 ^ 63) (2 ^ 62) 2 = none := by
  refine ⟨⟨fun index bound => ?_, ?_⟩, fun index bound => ?_, by decide⟩
  · obtain rfl : index = 0 := by omega
    decide
  · have behind : ¬ FitsLong (2 ^ 63 - 64 + (1 : Nat) * 64) := by decide
    exact sendStridedChecked_overflow .read 0 .ignore 64 _ _ (le_refl 1)
      (le_refl 1) behind
  · obtain rfl | rfl | rfl : index = 0 ∨ index = 1 ∨ index = 2 := by omega
    all_goals decide

end PyMemorySystem

end Pyramulator
