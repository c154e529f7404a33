import Mathlib.Data.List.Basic
import Mathlib.Data.List.Nodup

namespace Pyramulator

/-! Dictionaries that keep their keys in the order in which they came first. -/

abbrev Dict (κ ν : Type) := List (κ × ν)

namespace Dict

variable {κ ν : Type} [DecidableEq κ] {dict entries : Dict κ ν} {key : κ} {value : ν}

/-- `dict[key] = value`. -/
def set (dict : Dict κ ν) (key : κ) (value : ν) : Dict κ ν :=
  if key ∈ dict.map Prod.fst then
    dict.map fun entry => if entry.1 = key then (key, value) else entry
  else dict ++ [(key, value)]

/-- `dict.setdefault(key, value)`. -/
def setDefault (dict : Dict κ ν) (key : κ) (value : ν) : Dict κ ν :=
  if key ∈ dict.map Prod.fst then dict else dict ++ [(key, value)]

/-- `dict.update(entries)`. -/
def update (dict entries : Dict κ ν) : Dict κ ν :=
  entries.foldl (fun dict entry => dict.set entry.1 entry.2) dict

theorem keys_set (dict : Dict κ ν) (key : κ) (value : ν) :
    (dict.set key value).map Prod.fst =
      if key ∈ dict.map Prod.fst then dict.map Prod.fst else dict.map Prod.fst ++
        [key] := by
  unfold set
  split
  · rw [List.map_map]
    refine List.map_congr_left fun entry _ => ?_
    rw [Function.comp_apply]
    split
    · rename_i same
      exact same.symm
    · rfl
  · rw [List.map_append]
    rfl

theorem nodup_set (distinct : (dict.map Prod.fst).Nodup) (key : κ) (value : ν) :
    ((dict.set key value).map Prod.fst).Nodup := by
  rw [keys_set]
  split
  · exact distinct
  · rename_i fresh
    exact List.nodup_append.mpr
      ⟨distinct, List.nodup_singleton key, fun other member _ same => by
      obtain rfl := List.mem_singleton.mp same
      rintro rfl
      exact fresh member⟩

theorem mem_of_mem_set {entry : κ × ν} (member : entry ∈ dict.set key value) :
    entry = (key, value) ∨ entry ∈ dict := by
  unfold set at member
  split at member
  · obtain ⟨old, listed, rfl⟩ := List.mem_map.mp member
    split
    · exact .inl rfl
    · exact .inr listed
  · rcases List.mem_append.mp member with old | new
    · exact .inr old
    · exact .inl (List.mem_singleton.mp new)

omit [DecidableEq κ] in
theorem lookup_isNone_iff [BEq κ] [LawfulBEq κ] :
    dict.lookup key = none ↔ key ∉ dict.map Prod.fst := by
  rw [List.lookup_eq_none_iff, List.mem_map]
  constructor
  · rintro different ⟨entry, member, rfl⟩
    exact absurd rfl (bne_iff_ne.mp (different entry member))
  · exact fun absent entry member => bne_iff_ne.mpr fun same =>
      absent ⟨entry, member, same.symm⟩

theorem lookup_cons (entry : κ × ν) (rest : Dict κ ν) (other : κ) :
    List.lookup other (entry :: rest) =
      if other = entry.1 then some entry.2 else rest.lookup other := by
  rw [List.lookup_cons]
  split
  · rename_i same
    rw [if_pos (beq_iff_eq.mp same)]
  · rename_i differs
    rw [if_neg (beq_eq_false_iff_ne.mp differs)]

theorem lookup_replace (dict : Dict κ ν) (key other : κ) (value : ν) :
    (dict.map fun entry => if entry.1 = key then (key, value) else entry).lookup other =
      if other = key then (dict.lookup key).map fun _ => value
        else dict.lookup other := by
  induction dict with
  | nil => split <;> rfl
  | cons entry rest induction =>
      rw [List.map_cons, lookup_cons, induction, lookup_cons, lookup_cons]
      by_cases here : entry.1 = key
      · subst here
        by_cases same : other = entry.1
        · simp [same]
        · simp [same]
      · by_cases same : other = key
        · subst same
          simp [here, Ne.symm here]
        · simp [here, same]

theorem lookup_set (dict : Dict κ ν) (key other : κ) (value : ν) :
    (dict.set key value).lookup other = if other = key then some value
      else dict.lookup other := by
  unfold set
  split
  · rename_i member
    obtain ⟨old, found⟩ :=
      Option.ne_none_iff_exists'.mp (mt lookup_isNone_iff.mp (not_not.mpr member))
    rw [lookup_replace, found]
    rfl
  · rename_i fresh
    rw [List.lookup_append, lookup_cons, List.lookup_nil]
    by_cases same : other = key
    · subst same
      simp [lookup_isNone_iff.mpr fresh]
    · simp [same]

theorem lookup_setDefault (dict : Dict κ ν) (key other : κ) (value : ν) :
    (dict.setDefault key value).lookup other =
      if other = key then some ((dict.lookup key).getD value) else dict.lookup other := by
  unfold setDefault
  split
  · rename_i member
    obtain ⟨old, found⟩ := Option.ne_none_iff_exists'.mp
      (mt lookup_isNone_iff.mp (not_not.mpr member))
    by_cases same : other = key
    · subst same
      simp [found]
    · simp [same]
  · rename_i fresh
    rw [List.lookup_append, lookup_cons, List.lookup_nil]
    by_cases same : other = key
    · subst same
      simp [lookup_isNone_iff.mpr fresh]
    · simp [same]

theorem lookup_update (dict entries : Dict κ ν) (key : κ) :
    (dict.update entries).lookup key =
      (entries.reverse.lookup key).or (dict.lookup key) := by
  induction entries generalizing dict with
  | nil => rfl
  | cons entry rest induction =>
      rw [update, List.foldl_cons]
      refine (induction _).trans ?_
      rw [lookup_set, List.reverse_cons, List.lookup_append, Option.or_assoc, lookup_cons,
        List.lookup_nil]
      by_cases same : key = entry.1
      · simp [same]
      · simp [same]

theorem update_of_nodup (distinct : ((dict ++ entries).map Prod.fst).Nodup) :
    dict.update entries = dict ++ entries := by
  induction entries generalizing dict with
  | nil => exact (List.append_nil dict).symm
  | cons entry rest induction =>
      have regrouped : dict ++ entry :: rest = (dict ++ [entry]) ++ rest := by
        rw [List.append_assoc, List.singleton_append]
      have fresh : entry.1 ∉ dict.map Prod.fst := by
        rw [List.map_append, List.nodup_append] at distinct
        intro member
        exact distinct.2.2 _ member _ (List.mem_map_of_mem List.mem_cons_self) rfl
      rw [regrouped] at distinct ⊢
      rw [update, List.foldl_cons, set, if_neg fresh]
      exact induction distinct

omit [DecidableEq κ] in
theorem lookup_of_mem [BEq κ] [LawfulBEq κ] (distinct : (dict.map Prod.fst).Nodup)
    (member : (key, value) ∈ dict) : dict.lookup key = some value := by
  obtain ⟨before, after, rfl⟩ := List.append_of_mem member
  refine List.lookup_eq_some_iff.mpr ⟨before, after, rfl, fun entry earlier => ?_⟩
  rw [List.map_append, List.nodup_append] at distinct
  refine bne_iff_ne.mpr fun same => ?_
  exact distinct.2.2 _ (List.mem_map_of_mem earlier) _
    (List.mem_map_of_mem List.mem_cons_self)
    same.symm

end Dict

end Pyramulator
