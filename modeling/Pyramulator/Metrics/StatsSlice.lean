import Mathlib.Algebra.BigOperators.Group.List.Basic
import Mathlib.Data.List.ReduceOption
import Mathlib.Data.Rat.Defs

namespace Pyramulator

/-! The export of the statistics of a memory. Numbers are exact. -/

/-- The concrete types of a `StatBase`, each with what `result()` gives once it is
prepared. The other types have no `result()`. -/
inductive StatResult where
  | scalar (result : ℚ)
  | average (result : ℚ)
  | constValue (result : ℚ)
  | vector (result : List ℚ)
  | averageVector (result : List ℚ)
  | other

structure Stat where
  name : String
  result : StatResult

inductive StatValue where
  | number (value : ℚ)
  | list (items : List ℚ)
  deriving DecidableEq

abbrev StatsDict := List (String × StatValue)

namespace StatsDict

variable {dict entries : StatsDict}

/-- `result[name] = value`. -/
def set (dict : StatsDict) (name : String) (value : StatValue) : StatsDict :=
  if name ∈ dict.map Prod.fst then
    dict.map fun entry => if entry.1 = name then (name, value) else entry
  else dict ++ [(name, value)]

theorem set_fresh {name : String} (fresh : name ∉ dict.map Prod.fst) (value : StatValue) :
    dict.set name value = dict ++ [(name, value)] :=
  if_neg fresh

theorem foldl_set (distinct : ((dict ++ entries).map Prod.fst).Nodup) :
    entries.foldl (fun dict entry => dict.set entry.1 entry.2) dict =
      dict ++ entries := by
  induction entries generalizing dict with
  | nil => exact (List.append_nil dict).symm
  | cons entry rest induction =>
      have regrouped : dict ++ entry :: rest = (dict ++ [entry]) ++ rest := by
        rw [List.append_assoc, List.singleton_append]
      have fresh : entry.1 ∉ dict.map Prod.fst := by
        rw [List.map_append, List.nodup_append] at distinct
        intro member
        exact distinct.2.2 _ member _ (List.mem_map_of_mem List.mem_cons_self) rfl
      rw [regrouped] at distinct ⊢
      rw [List.foldl_cons, set_fresh fresh]
      exact induction distinct

theorem lookup_of_mem {name : String} {value : StatValue}
    (distinct : (dict.map Prod.fst).Nodup) (member : (name, value) ∈ dict) :
    dict.lookup name = some value := by
  induction dict with
  | nil => cases member
  | cons entry rest induction =>
      obtain ⟨key, first⟩ := entry
      obtain ⟨fresh, distinct⟩ := List.nodup_cons.mp distinct
      rcases List.mem_cons.mp member with same | later
      · cases same
        rw [List.lookup_cons_self]
      · have other : (name == key) = false := by
          rw [beq_eq_false_iff_ne]
          rintro rfl
          exact fresh (List.mem_map.mpr ⟨_, later, rfl⟩)
        rw [List.lookup_cons, other]
        exact induction distinct later

end StatsDict

namespace Stat

/-- What `stat_name` makes of the name. -/
def displayName (stat : Stat) : String :=
  match stat.name.toList.dropPrefix? "ramulator.".toList with
  | some rest => String.ofList rest
  | none => stat.name

def values (stat : Stat) : Option (List ℚ) :=
  match stat.result with
  | .scalar result | .average result | .constValue result => some [result]
  | .vector result | .averageVector result => some result
  | .other => none

def shape : List ℚ → StatValue
  | [value] => .number value
  | items => .list items

def entry (stat : Stat) : Option (String × StatValue) :=
  if stat.displayName = "" then none
  else stat.values.map fun values => (stat.displayName, shape values)

theorem displayName_prefixed (name : String) (result : StatResult) :
    displayName ⟨"ramulator." ++ name, result⟩ = name := by
  unfold displayName
  rw [String.toList_append, List.dropPrefix?_append_of_beq _ (beq_self_eq_true _)]
  exact String.ofList_toList

end Stat

/-- `stats_slice`. -/
def statsSlice (all : List (Option Stat)) (first last : Nat) : StatsDict :=
  ((all.drop first).take (last - first)).foldl
    (fun result stat =>
      match stat.bind Stat.entry with
      | some (name, value) => result.set name value
      | none => result) []

theorem statsSlice_eq {all : List (Option Stat)} {first last : Nat} {stats : List Stat}
    (slice : ((all.drop first).take (last - first)).reduceOption = stats)
    (distinct : ((stats.filterMap Stat.entry).map Prod.fst).Nodup) :
    statsSlice all first last = stats.filterMap Stat.entry := by
  have folded (others : List (Option Stat)) (result : StatsDict) :
      others.foldl (fun result stat =>
        match stat.bind Stat.entry with
        | some (name, value) => result.set name value
        | none => result) result =
      (others.reduceOption.filterMap Stat.entry).foldl
        (fun result entry => result.set entry.1 entry.2) result := by
    induction others generalizing result with
    | nil => rfl
    | cons stat rest induction =>
        cases stat with
        | none => exact induction result
        | some stat =>
            rw [List.foldl_cons, List.reduceOption_cons_of_some,
              List.filterMap_cons, induction]
            cases entry : stat.entry <;> simp [entry]
  rw [statsSlice, folded, slice, StatsDict.foldl_set, List.nil_append]
  exact distinct

end Pyramulator
