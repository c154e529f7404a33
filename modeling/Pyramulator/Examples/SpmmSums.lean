import Mathlib.Algebra.BigOperators.Group.List.Basic
import Mathlib.LinearAlgebra.Matrix.Defs
import Mathlib.Data.Matrix.Mul
import Pyramulator.Examples.Spmm

namespace Pyramulator

/-! What the blocks of an SpMM task add up to. -/

variable {R : Type}

namespace SpmmTask

variable (task : SpmmTask R)

structure Valid (item : SpmmItem R) : Prop where
  row : item.j < task.inner
  column : item.t < task.k

theorem mem_blocks {k t : Nat} (member : t ∈ Spmm.blocks k) : t < k := by
  obtain ⟨block, inside, rfl⟩ := List.mem_map.mp member
  have bound := List.mem_range.mp inside
  simp only [Spmm.floatsPerCacheline] at bound ⊢
  omega

theorem valid_of_mem {item : SpmmItem R} (member : item ∈ Spmm.items task) :
    task.Valid item := by
  obtain ⟨i, -, listed⟩ := List.mem_flatMap.mp member
  obtain ⟨⟨j, v⟩, -, met⟩ := List.mem_flatMap.mp listed
  obtain ⟨t, inside, rfl⟩ := List.mem_map.mp met
  exact ⟨j.isLt, mem_blocks inside⟩

/-- The block is added to the accumulator of row `i` and column `c`. -/
def Covers (i c : Nat) (item : SpmmItem R) : Prop :=
  i = item.i ∧ item.t ≤ c ∧ c < item.t + Spmm.width task.k item.t

instance (i c : Nat) (item : SpmmItem R) : Decidable (task.Covers i c item) :=
  inferInstanceAs (Decidable (_ ∧ _ ∧ _))

section

variable [Zero R]

def entry (j c : Nat) : R :=
  if inside : j < task.inner ∧
    c < task.k then task.dense ⟨j, inside.1⟩ ⟨c, inside.2⟩ else 0

omit [Zero R] in
theorem flatten_getElem? {inner k : Nat} (dense : Fin inner → Fin k → R) {index : Nat}
    (inside : index < inner * k) :
    (Spmm.flatten dense)[index]? =
      some (dense (⟨index, inside⟩ : Fin (inner * k)).divNat
        (⟨index, inside⟩ : Fin (inner * k)).modNat) := by
  rw [Spmm.flatten, List.getElem?_ofFn, dif_pos inside]

theorem flatten_entry {j c : Nat} (row : j < task.inner) (column : c < task.k) :
    (Spmm.flatten task.dense)[j * task.k + c]? = some (task.entry j c) := by
  have inside : j * task.k + c < task.inner * task.k := by
    calc j * task.k + c < j * task.k + task.k := by omega
      _ = (j + 1) * task.k := by ring
      _ ≤ task.inner * task.k := Nat.mul_le_mul_right _ row
  have div : (j * task.k + c) / task.k = j := by
    rw [Nat.mul_comm, Nat.mul_add_div (by omega), Nat.div_eq_of_lt column, add_zero]
  have mod : (j * task.k + c) % task.k = c := by
    rw [Nat.mul_comm, Nat.mul_add_mod, Nat.mod_eq_of_lt column]
  rw [flatten_getElem? _ inside, entry, dif_pos ⟨row, column⟩]
  refine congrArg some (congrArg₂ task.dense (Fin.ext ?_) (Fin.ext ?_))
  · exact div
  · exact mod

section Taken

variable {task} {item : SpmmItem R} (valid : task.Valid item) {spmm : Spmm R}
  (image : spmm.image = Spmm.flatten task.dense) {info : RequestInfo}
  (addr : info.addr = Spmm.addrOf task.k item.j item.t)
include valid image addr

theorem block_getElem? {offset : Nat} (inside : offset < Spmm.width task.k item.t) :
    (SpmmBoard.block info spmm)[offset]? =
      some (task.entry item.j (item.t + offset)) := by
  have few : offset < Spmm.floatsPerCacheline ∧ item.t + offset < task.k := by
    simp only [Spmm.width] at inside
    omega
  have start : ((info.addr - Spmm.bBase) / 4).toNat = item.j * task.k + item.t := by
    rw [addr, Spmm.addrOf]
    omega
  rw [SpmmBoard.block, start, image, List.getElem?_take_of_lt few.1, List.getElem?_drop,
    add_assoc, task.flatten_entry valid.row few.2]

theorem block_broadcast {blk : List R}
    (taken : Spmm.broadcast (SpmmBoard.block info spmm)
      (Spmm.width task.k item.t) = .ok blk) :
    blk.length = Spmm.width task.k item.t ∧
      ∀ offset < Spmm.width task.k item.t,
        blk.getD offset 0 = task.entry item.j (item.t + offset) := by
  have positive : 0 < Spmm.width task.k item.t := by
    have column := valid.column
    simp only [Spmm.width, Spmm.floatsPerCacheline]
    omega
  have long : Spmm.width task.k item.t ≤ (SpmmBoard.block info spmm).length := by
    have last := block_getElem? valid image addr (Nat.sub_lt positive Nat.one_pos)
    have inside := (List.getElem?_eq_some_iff.mp last).1
    omega
  simp only [Spmm.broadcast] at taken
  split at taken
  · rename_i wide
    obtain rfl := Except.ok.inj taken
    refine ⟨wide, fun offset inside => ?_⟩
    rw [List.getD_eq_getElem?_getD, block_getElem? valid image addr inside,
      Option.getD_some]
  · rename_i narrow
    split at taken
    · omega
    · split at taken <;> cases taken

variable [Add R] [Mul R]

theorem accumulate_acc {blk : List R}
    (taken : Spmm.broadcast (SpmmBoard.block info spmm)
      (Spmm.width task.k item.t) = .ok blk)
    (i c : Nat) :
    (Spmm.accumulate item blk spmm).acc i c =
      if task.Covers i c item then spmm.acc i c + item.v * task.entry item.j c
      else spmm.acc i c := by
  obtain ⟨wide, entries⟩ := block_broadcast valid image addr taken
  simp only [Spmm.accumulate, wide]
  by_cases covers : task.Covers i c item
  · obtain ⟨-, first, last⟩ := id covers
    have same : item.t + (c - item.t) = c := by omega
    rw [if_pos covers, entries (c - item.t) (by omega), same]
    exact if_pos covers
  · rw [if_neg covers]
    exact if_neg covers

end Taken

variable [Add R] [Mul R]

/-- What an accumulator comes to when the blocks are added to it one after the other. -/
def accumulated (done : List (SpmmItem R)) (i c : Nat) : R :=
  (done.filter fun item => task.Covers i c item).foldl
    (fun sum item => sum + item.v * task.entry item.j c) 0

theorem accumulated_snoc (done : List (SpmmItem R)) (item : SpmmItem R) (i c : Nat) :
    task.accumulated (done ++ [item]) i c =
      if task.Covers i c item then task.accumulated done i c + item.v *
        task.entry item.j c
      else task.accumulated done i c := by
  unfold accumulated
  rw [List.filter_append, List.foldl_append]
  by_cases covers : task.Covers i c item
  · have kept : [item].filter (fun item => task.Covers i c item) = [item] :=
      List.filter_cons_of_pos (decide_eq_true covers)
    rw [if_pos covers, kept, List.foldl_cons, List.foldl_nil]
  · have dropped : [item].filter (fun item => task.Covers i c item) = [] :=
      List.filter_cons_of_neg (ne_true_of_eq_false (decide_eq_false covers))
    rw [if_neg covers, dropped, List.foldl_nil]

theorem accumulated_perm (swap : ∀ a b c : R, a + b + c = a + c + b)
    {done order : List (SpmmItem R)} (perm : done.Perm order) (i c : Nat) :
    task.accumulated done i c = task.accumulated order i c :=
  (perm.filter _).foldl_eq' (fun _ _ _ _ sum => swap sum _ _) 0

end

end SpmmTask

variable [CommSemiring R]

theorem sum_map_of_single {numbers : List Nat} (nodup : numbers.Nodup) {only : Nat}
    (member : only ∈ numbers) {f : Nat → R} (others : ∀ other, other ≠ only →
      other ∈ numbers → f other = 0) : (numbers.map f).sum = f only := by
  rw [List.sum_map_eq_nsmul_single only f others, List.count_eq_one_of_mem nodup member,
    one_nsmul]

theorem sum_map_flatMap {α β : Type} (items : List α) (parts : α → List β) (f : β → R) :
    ((items.flatMap parts).map f).sum =
      (items.map fun item => ((parts item).map f).sum).sum := by
  induction items with
  | nil => rfl
  | cons first rest induction =>
      rw [List.flatMap_cons, List.map_append, List.sum_append, induction, List.map_cons,
        List.sum_cons]

namespace Csr

variable {inner : Nat}

def toMatrix (matrix : Csr R inner) : Matrix (Fin matrix.rows) (Fin inner) R :=
  Matrix.of fun i j =>
    ((matrix.row i).map fun (column, v) => if column = j then v else 0).sum

theorem sum_entries {k : Nat} (entries : List (Fin inner × R))
    (dense : Fin inner → Fin k → R) (c : Fin k) :
    (entries.map fun (j, v) => v * dense j c).sum =
      ∑ j, (entries.map fun (column, v) => if column = j then v else 0).sum *
        dense j c := by
  induction entries with
  | nil => simp
  | cons entry rest induction =>
      obtain ⟨column, v⟩ := entry
      simp only [List.map_cons, List.sum_cons, induction, add_mul, Finset.sum_add_distrib,
        ite_mul, zero_mul, Finset.sum_ite_eq, Finset.mem_univ, if_true]

end Csr

namespace SpmmTask

variable (task : SpmmTask R)

def product (i : Fin task.sparse.rows) (c : Fin task.k) : R :=
  ((task.sparse.row i).map fun (j, v) => v * task.dense j c).sum

theorem product_eq :
    Matrix.of task.product = task.sparse.toMatrix * Matrix.of task.dense := by
  ext i c
  exact Csr.sum_entries (task.sparse.row i) task.dense c

def contribution (i c : Nat) (item : SpmmItem R) : R :=
  if task.Covers i c item then item.v * task.entry item.j c else 0

theorem accumulated_eq_sum (done : List (SpmmItem R)) (i c : Nat) :
    task.accumulated done i c = (done.map (task.contribution i c)).sum := by
  induction done using List.reverseRecOn with
  | nil => rfl
  | append_singleton done item induction =>
      rw [accumulated_snoc, List.map_append, List.sum_append, ← induction,
        List.map_singleton, List.sum_singleton, contribution]
      split
      · rfl
      · exact (add_zero _).symm

theorem sum_blocks (i : Nat) {c : Nat} (inside : c < task.k) (j : Nat) (v : R) :
    ((Spmm.entryItems task.k i j v).map (task.contribution i c)).sum = v *
      task.entry j c := by
  have nodup : (Spmm.blocks task.k).Nodup := by
    refine List.nodup_range.map fun first second same => ?_
    simp only [Spmm.floatsPerCacheline] at same
    omega
  have member : 16 * (c / 16) ∈ Spmm.blocks task.k := by
    refine List.mem_map.mpr ⟨c / 16, List.mem_range.mpr ?_, rfl⟩
    simp only [Spmm.floatsPerCacheline]
    omega
  rw [Spmm.entryItems, List.map_map]
  rw [sum_map_of_single nodup member]
  · have holds : 16 * (c / 16) ≤ c ∧
        c < 16 * (c / 16) + Spmm.width task.k (16 * (c / 16)) := by
      simp only [Spmm.width, Spmm.floatsPerCacheline]
      omega
    exact if_pos ⟨rfl, holds⟩
  · intro t other listed
    obtain ⟨block, -, rfl⟩ := List.mem_map.mp listed
    refine if_neg fun ⟨_, least, most⟩ => other ?_
    simp only [Spmm.width, Spmm.floatsPerCacheline] at least most ⊢
    omega

theorem sum_items (i : Fin task.sparse.rows) (c : Fin task.k) :
    ((Spmm.items task).map (task.contribution i c)).sum = task.product i c := by
  have row (other : Nat) :
      (((task.sparse.row other).flatMap fun (j, v) =>
          Spmm.entryItems task.k other j v).map (task.contribution i c)).sum =
        if other = i then task.product i c else 0 := by
    rw [sum_map_flatMap]
    by_cases same : other = i
    · subst same
      rw [if_pos rfl, product]
      refine congrArg List.sum (List.map_congr_left fun (j, v) _ => ?_)
      rw [task.sum_blocks i c.isLt, entry, dif_pos ⟨j.isLt, c.isLt⟩]
    · rw [if_neg same]
      refine List.sum_eq_zero fun value listed => ?_
      obtain ⟨⟨j, v⟩, -, rfl⟩ := List.mem_map.mp listed
      refine List.sum_eq_zero fun value listed => ?_
      obtain ⟨item, met, rfl⟩ := List.mem_map.mp listed
      obtain ⟨t, -, rfl⟩ := List.mem_map.mp met
      exact if_neg fun both => same both.1.symm
  rw [Spmm.items, sum_map_flatMap, sum_map_of_single List.nodup_range
    (List.mem_range.mpr i.isLt), row, if_pos rfl]
  intro other different _
  rw [row, if_neg different]

end SpmmTask

end Pyramulator
