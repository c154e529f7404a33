import Pyramulator.Memory.Traffic

namespace Pyramulator

/-! When the engine called its callbacks: the number of cycles that were done. -/

namespace Wire

variable {c : Type}

def reports : Nat → List (Wire c) → List (Served c × Nat)
  | _, [] => []
  | cycles, .sent _ _ :: rest => reports cycles rest
  | cycles, .ticked called :: rest =>
      called.map (fun served => (served, cycles + 1)) ++ reports (cycles + 1) rest

theorem reports_append (cycles : Nat) (first second : List (Wire c)) :
    reports cycles (first ++ second) =
      reports cycles first ++ reports (cycles + ticks first) second := by
  induction first generalizing cycles with
  | nil => rfl
  | cons entry rest induction =>
      cases entry with
      | sent request accepted =>
          have same : ticks (.sent request accepted :: rest) = ticks rest := by
            simp [ticks]
          simp only [List.cons_append, reports, induction, same]
      | ticked called =>
          have more : ticks (.ticked called :: rest) = ticks rest + 1 := by simp [ticks]
          simp only [List.cons_append, reports, induction, more, List.append_assoc]
          rw [Nat.add_right_comm, Nat.add_assoc]

theorem reports_fst (cycles : Nat) (wire : List (Wire c)) :
    (reports cycles wire).map Prod.fst = served wire := by
  induction wire generalizing cycles with
  | nil => rfl
  | cons entry rest induction =>
      cases entry with
      | sent request accepted => exact induction cycles
      | ticked called =>
          simp only [reports, List.map_append, induction, List.map_map]
          rw [show Prod.fst ∘
            (fun served : Served c => (served, cycles + 1)) = id from rfl, List.map_id]
          simp [served]

/-- Cycles are numbered from the one after those that were done, and none is
numbered higher than the last. -/
theorem reports_cycle {cycles : Nat} {wire : List (Wire c)} {report : Served c × Nat}
    (member : report ∈ reports cycles wire) :
    cycles < report.2 ∧ report.2 ≤ cycles + ticks wire := by
  induction wire generalizing cycles with
  | nil => cases member
  | cons entry rest induction =>
      cases entry with
      | sent request accepted =>
          have same : ticks (.sent request accepted :: rest) = ticks rest := by
            simp [ticks]
          rw [same]
          exact induction member
      | ticked called =>
          have more : ticks (.ticked called :: rest) = ticks rest + 1 := by simp [ticks]
          rcases List.mem_append.mp member with now | later
          · obtain ⟨served, -, rfl⟩ := List.mem_map.mp now
            exact ⟨Nat.lt_succ_self _, by simp only [more]; omega⟩
          · have bounds := induction later
            omega

theorem reports_sends (cycles : Nat) (proto : Int → Request c)
    (sends : List (Int × Bool)) :
    reports cycles (sends.map fun send => .sent (proto send.1) send.2) = [] := by
  induction sends with
  | nil => rfl
  | cons send rest induction => exact induction

end Wire

namespace PyMemorySystem

variable {π β : Type} {engine : Engine (CppCallback π)}

theorem iterate_wire (sys : PyMemorySystem engine) (count : Nat) :
    ∃ segment, (tick^[count] sys).wire = sys.wire ++ segment ∧
      Wire.ticks segment = count ∧ Wire.accepted segment = [] := by
  induction count with
  | zero => exact ⟨[], by simp⟩
  | succ count induction =>
      obtain ⟨segment, wire, ticks, accepted⟩ := induction
      rw [Function.iterate_succ_apply', tick_eq]
      refine ⟨_, by simp only [wire, List.append_assoc]; rfl, ?_, ?_⟩
      · rw [Wire.ticks_append, ticks, Wire.ticks_ticked]
      · rw [Wire.accepted_append, accepted, Wire.accepted_ticked]
        rfl

theorem iterate_effect (ledger : engine.Ledger) (sys : PyMemorySystem engine)
    (count : Nat) {segment : List (Wire (CppCallback π))}
    (wire : (tick^[count] sys).wire = sys.wire ++ segment) :
    Effect ledger sys (tick^[count] sys) segment := by
  have covered : ∃ segment, Effect ledger sys (tick^[count] sys) segment := by
    clear wire
    induction count with
    | zero => exact ⟨[], .refl sys⟩
    | succ count induction =>
        obtain ⟨segment, effect⟩ := induction
        rw [Function.iterate_succ_apply']
        exact ⟨_, effect.trans (tick_effect ledger _)⟩
  obtain ⟨other, effect⟩ := covered
  rwa [List.append_cancel_left (effect.wire.symm.trans wire)] at effect

/-- When nothing is recorded before the last of some cycles, all that is recorded
is reported in the last one. -/
theorem iterate_reports {sys : PyMemorySystem engine} {count : Nat}
    (quiet : ∀ earlier < count, (tick^[earlier] sys).completed = [])
    {segment : List (Wire (CppCallback π))}
    (wire : (tick^[count] sys).wire = sys.wire ++ segment) (cycles : Nat)
    (tell : Nat → CompletionEvent π → β) :
    (Wire.reports cycles segment).filterMap
        (fun report => report.1.recorded.map (tell report.2)) =
      if count = 0 then []
      else (tick^[count] sys).completed.map (tell (cycles + count)) := by
  induction count generalizing segment with
  | zero =>
      have empty : segment = [] := by simpa using wire
      rw [empty]
      rfl
  | succ count induction =>
      have before := quiet count (Nat.lt_succ_self _)
      rw [Function.iterate_succ_apply', tick_eq] at wire ⊢
      obtain ⟨earlier, shape, done, -⟩ := iterate_wire sys count
      have split :
          segment = earlier ++ [.ticked (engine.tick (tick^[count] sys).mem).1] := by
        simp only [shape, List.append_assoc] at wire
        exact (List.append_cancel_left wire).symm
      have first := induction (fun other less => quiet other (by omega)) shape
      rw [split, Wire.reports_append, List.filterMap_append, first, done]
      simp only [Wire.reports, List.append_nil, before, List.map_nil, List.nil_append,
        ite_self, if_neg (Nat.succ_ne_zero count), List.filterMap_map]
      rw [List.map_filterMap]
      rfl

end PyMemorySystem

end Pyramulator
