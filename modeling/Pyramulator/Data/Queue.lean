import Mathlib.Data.List.Sort

namespace Pyramulator.Queue

/-! A priority queue as the list of its entries in the order of their keys. The
keys of the entries are distinct, so the order is the only one. -/

variable {Entry Key : Type*} [LinearOrder Key] (key : Entry → Key)

def Sorted (entries : List Entry) : Prop :=
  entries.Pairwise fun first second => key first < key second

def insert (entry : Entry) (entries : List Entry) : List Entry :=
  entries.orderedInsert (fun first second => key first ≤ key second) entry

variable {key}

@[simp] theorem insert_nil (entry : Entry) : insert key entry [] = [entry] := rfl

theorem insert_cons (entry head : Entry) (tail : List Entry) :
    insert key entry (head :: tail) =
      if key entry ≤ key head then entry :: head :: tail
      else head :: insert key entry tail := rfl

@[simp] theorem mem_insert {entry other : Entry} {entries : List Entry} :
    other ∈ insert key entry entries ↔ other = entry ∨ other ∈ entries :=
  List.mem_orderedInsert _

theorem insert_first {entry : Entry} {entries : List Entry}
    (least : ∀ other ∈ entries, key entry ≤ key other) :
    insert key entry entries = entry :: entries := by
  cases entries with
  | nil => rfl
  | cons head tail => rw [insert_cons, if_pos (least head (List.mem_cons_self ..))]

theorem insert_perm (entry : Entry) (entries : List Entry) :
    (insert key entry entries).Perm (entry :: entries) :=
  List.perm_orderedInsert _ entry entries

@[simp] theorem length_insert (entry : Entry) (entries : List Entry) :
    (insert key entry entries).length = entries.length + 1 :=
  List.orderedInsert_length _ entries entry

theorem Sorted.tail {head : Entry} {tail : List Entry}
    (sorted : Sorted key (head :: tail)) : Sorted key tail :=
  (List.pairwise_cons.mp sorted).2

theorem Sorted.head_least {head other : Entry} {tail : List Entry}
    (sorted : Sorted key (head :: tail)) (member : other ∈ tail) :
    key head < key other :=
  (List.pairwise_cons.mp sorted).1 other member

theorem Sorted.filter (keep : Entry → Bool) {entries : List Entry}
    (sorted : Sorted key entries) : Sorted key (entries.filter keep) :=
  List.Pairwise.filter keep sorted

theorem Sorted.insert {entry : Entry} {entries : List Entry}
    (sorted : Sorted key entries)
    (fresh : ∀ other ∈ entries, key other ≠ key entry) :
    Sorted key (Queue.insert key entry entries) := by
  induction entries with
  | nil => exact List.pairwise_singleton _ _
  | cons head tail induction =>
      rw [insert_cons]
      split
      · rename_i before
        refine List.pairwise_cons.mpr ⟨?_, sorted⟩
        have first : key entry < key head :=
          lt_of_le_of_ne before fun same => fresh head (by simp) same.symm
        intro other member
        rcases List.mem_cons.mp member with rfl | later
        · exact first
        · exact first.trans (sorted.head_least later)
      · rename_i after
        refine List.pairwise_cons.mpr ⟨?_, induction sorted.tail ?_⟩
        · intro other member
          rcases mem_insert.mp member with rfl | later
          · exact not_le.mp after
          · exact sorted.head_least later
        · exact fun other member => fresh other (by simp [member])

theorem insert_comm {entry other : Entry} (distinct : key entry ≠ key other)
    (entries : List Entry) :
    insert key entry (insert key other entries) =
      insert key other (insert key entry entries) := by
  have apart {first second : Entry} (before : key first < key second)
      (rest : List Entry) :
      insert key first (insert key second rest) =
        insert key second (insert key first rest) := by
    induction rest with
    | nil =>
        simp only [insert_nil, insert_cons, if_pos before.le, if_neg (not_le.mpr before)]
    | cons head tail induction =>
        by_cases one : key first ≤ key head <;> by_cases two : key second ≤ key head
        · simp only [insert_cons, if_pos one, if_pos two, if_pos before.le,
            if_neg (not_le.mpr before)]
        · simp only [insert_cons, if_pos one, if_neg two, if_neg (not_le.mpr before)]
        · exact absurd (before.le.trans two) one
        · simp only [insert_cons, if_neg one, if_neg two, induction]
  rcases lt_or_gt_of_ne distinct with before | after
  · exact apart before entries
  · exact (apart after entries).symm

theorem filter_insert (keep : Entry → Bool) {entry : Entry} {entries : List Entry}
    (sorted : Sorted key entries) :
    (insert key entry entries).filter keep =
      if keep entry then insert key entry (entries.filter keep)
      else entries.filter keep := by
  induction entries with
  | nil => by_cases kept : keep entry <;> simp [kept]
  | cons head tail induction =>
      rw [insert_cons]
      by_cases before : key entry ≤ key head
      · by_cases kept : keep entry
        · have first : ∀ rest : List Entry, (∀ other ∈ rest, other ∈ head :: tail) →
              insert key entry rest = entry :: rest := by
            intro rest among
            cases rest with
            | nil => rfl
            | cons other rest =>
                rw [insert_cons, if_pos]
                rcases List.mem_cons.mp (among other (by simp)) with rfl | later
                · exact before
                · exact before.trans (sorted.head_least later).le
          rw [if_pos before, if_pos kept,
            first _ fun other member => (List.mem_filter.mp member).1]
          simp [kept]
        · simp [before, kept]
      · rw [if_neg before]
        by_cases keptHead : keep head
        · by_cases kept : keep entry
          · simp [keptHead, kept, induction sorted.tail, insert_cons, before]
          · simp [keptHead, kept, induction sorted.tail]
        · by_cases kept : keep entry
          · simp [keptHead, kept, induction sorted.tail]
          · simp [keptHead, kept, induction sorted.tail]

theorem insert_last {entry : Entry} {entries : List Entry}
    (last : ∀ other ∈ entries, key other < key entry) :
    insert key entry entries = entries ++ [entry] := by
  induction entries with
  | nil => rfl
  | cons head tail induction =>
      rw [insert_cons, if_neg (not_le.mpr (last head (by simp))),
        induction fun other member => last other (by simp [member])]
      rfl

section Select

variable {Part : Type*} {select : Entry → Option Part}

theorem filterMap_insert_none {entry : Entry} {entries : List Entry}
    (ignored : select entry = none) :
    (insert key entry entries).filterMap select = entries.filterMap select := by
  induction entries with
  | nil => simp [ignored]
  | cons head tail induction =>
      rw [insert_cons]
      split
      · simp [ignored]
      · simp [List.filterMap_cons, induction]

theorem filterMap_insert_last {entry : Entry} {entries : List Entry} {part : Part}
    (sorted : Sorted key entries) (selected : select entry = some part)
    (last : ∀ other ∈ entries, select other ≠ none → key other < key entry) :
    (insert key entry entries).filterMap select =
      entries.filterMap select ++ [part] := by
  induction entries with
  | nil => simp [selected]
  | cons head tail induction =>
      rw [insert_cons]
      split
      · rename_i before
        have unselected : (head :: tail).filterMap select = [] := by
          refine List.filterMap_eq_nil_iff.mpr fun other member => ?_
          have after : key entry ≤ key other := by
            rcases List.mem_cons.mp member with rfl | later
            · exact before
            · exact before.trans (sorted.head_least later).le
          by_contra seen
          exact absurd (last other member seen) (not_lt.mpr after)
        rw [List.filterMap_cons_some selected, unselected]
        rfl
      · have tailLast := induction sorted.tail
          fun other member => last other (by simp [member])
        cases seen : select head with
        | none =>
            rw [List.filterMap_cons_none seen, List.filterMap_cons_none seen,
              tailLast]
        | some other =>
            rw [List.filterMap_cons_some seen, List.filterMap_cons_some seen,
              tailLast]
            rfl

theorem filterMap_filter_of_kept {keep : Entry → Bool} {entries : List Entry}
    (kept : ∀ entry ∈ entries, select entry ≠ none → keep entry = true) :
    (entries.filter keep).filterMap select = entries.filterMap select := by
  rw [List.filterMap_filter]
  refine List.filterMap_congr fun entry member => ?_
  by_cases seen : select entry = none
  · simp [seen]
  · simp [kept entry member seen]

end Select

end Pyramulator.Queue
