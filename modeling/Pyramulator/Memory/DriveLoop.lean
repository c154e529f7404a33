import Pyramulator.Memory.PyMemorySystem

namespace Pyramulator

/-! `drive_loop` of `bindings.cpp`. -/

/-- The variables of `drive_loop` that change. -/
structure Drive {π : Type} (engine : Engine (CppCallback π)) where
  sys : PyMemorySystem engine
  issued : Nat
  cycles : Nat

namespace Drive

variable {π : Type} {engine : Engine (CppCallback π)}

/-- `mem_->tick(); ++cycles`. -/
def tick (drive : Drive engine) : Drive engine :=
  { drive with sys := drive.sys.tick, cycles := drive.cycles + 1 }

/-- `issued - completed_count_`. -/
def inFlight (drive : Drive engine) : Int :=
  drive.issued - drive.sys.completedCount

section Loops

/-! A drive has its requests, by their number, and its bounds. -/

variable (request : Nat → Request (CppCallback π))
  (total queueDepth batch maxCycles : Int)

def fill (drive : Drive engine) : Nat → Drive engine
  | 0 => drive
  | left + 1 =>
      if drive.inFlight < queueDepth then
        let (accepted, sys) := drive.sys.sendRequest (request drive.issued)
        if accepted then
          fill { drive with sys, issued := drive.issued + 1 } left
        else { drive with sys }
      else drive

def tickBatch (drive : Drive engine) : Nat → Drive engine
  | 0 => drive
  | left + 1 =>
      if drive.issued < total ∧ drive.cycles < maxCycles then
        drive.tick.tickBatch left
      else drive

def round (drive : Drive engine) : Drive engine :=
  (drive.fill request queueDepth (total - drive.issued).toNat).tickBatch total
    maxCycles batch.toNat

def measure (drive : Drive engine) : Nat :=
  (maxCycles - drive.cycles).toNat + if drive.issued < total then 1 else 0

theorem fill_cycles (drive : Drive engine) (left : Nat) :
    (drive.fill request queueDepth left).cycles = drive.cycles := by
  induction left generalizing drive with
  | zero => rfl
  | succ left induction =>
      unfold fill
      split
      · simp only
        split
        · exact induction _
        · rfl
      · rfl

theorem tickBatch_issued (drive : Drive engine) (left : Nat) :
    (drive.tickBatch total maxCycles left).issued = drive.issued := by
  induction left generalizing drive with
  | zero => rfl
  | succ left induction =>
      unfold tickBatch
      split
      · exact induction drive.tick
      · rfl

theorem tickBatch_cycles_le (drive : Drive engine) (left : Nat) :
    drive.cycles ≤ (drive.tickBatch total maxCycles left).cycles := by
  induction left generalizing drive with
  | zero => exact Nat.le_refl _
  | succ left induction =>
      unfold tickBatch
      split
      · have := induction drive.tick
        simp only [tick] at this ⊢
        omega
      · exact Nat.le_refl _

theorem round_measure (drive : Drive engine) (positive : 1 ≤ batch)
    (guard : drive.issued < total ∧ drive.cycles < maxCycles) :
    (drive.round request total queueDepth batch maxCycles).measure total maxCycles
      < drive.measure total maxCycles := by
  obtain ⟨left, size⟩ : ∃ left, batch.toNat = left + 1 :=
    ⟨batch.toNat - 1, by omega⟩
  unfold round
  generalize filled : drive.fill request queueDepth (total - drive.issued).toNat =
    after
  have cycles : after.cycles = drive.cycles := by
    rw [← filled]; exact fill_cycles ..
  rw [size]
  unfold tickBatch
  split
  · rename_i more
    have issued := tickBatch_issued total maxCycles after.tick left
    have later := tickBatch_cycles_le total maxCycles after.tick left
    simp only [tick] at issued later ⊢
    simp only [measure, issued, more.1, guard.1, if_true]
    omega
  · rename_i done
    simp only [measure, guard.1, if_true, cycles]
    rw [if_neg (by omega)]
    omega

/-- The outer loop. It ends because `batch` is positive. -/
def rounds (positive : 1 ≤ batch) (drive : Drive engine) : Drive engine :=
  if _guard : drive.issued < total ∧ drive.cycles < maxCycles then
    rounds positive (drive.round request total queueDepth batch maxCycles)
  else drive
termination_by drive.measure total maxCycles
decreasing_by
  exact round_measure request total queueDepth batch maxCycles drive positive
    _guard

def drain (drive : Drive engine) : Nat → Drive engine
  | 0 => drive
  | left + 1 => if 0 < drive.inFlight then drive.tick.drain left else drive

end Loops

end Drive

namespace PyMemorySystem

variable {π : Type} {engine : Engine (CppCallback π)}

/-- What a drive returns: the cycles it ran, the requests it issued and the
completions. -/
abbrev Driven (engine : Engine (CppCallback π)) :=
  Except PyError (Nat × Nat × List (CompletionEvent π)) × PyMemorySystem engine

def driveRequest (sys : PyMemorySystem engine) (addr : Nat → Int)
    (callback : Option π) (index : Nat) : Request (CppCallback π) :=
  ⟨addr index, .read, 0, .driven sys.drives callback⟩

/-- The state in which the loops of `drive_loop` begin. -/
def driveStart (sys : PyMemorySystem engine) : Drive engine where
  sys := { sys with completedCount := 0, drives := sys.drives + 1 }
  issued := 0
  cycles := 0

/-- The loops of `drive_loop`. -/
def driveLoops (sys : PyMemorySystem engine) (addr : Nat → Int)
    (total queueDepth batch maxCycles : Int) (positive : 1 ≤ batch)
    (callback : Option π) : Drive engine :=
  let drive := sys.driveStart.rounds (sys.driveRequest addr callback) total
    queueDepth batch maxCycles positive
  drive.drain (maxCycles - drive.cycles).toNat

theorem one_le_of_not_small {batch : Int} (large : ¬ batch < 1) : 1 ≤ batch := by omega

/-- `drive_loop`. -/
def driveLoop (sys : PyMemorySystem engine) (addr : Nat → Int)
    (total queueDepth batch maxCycles : Int) (callback : Option π) :
    Driven engine :=
  if queueDepth < 1 then
    (.error (.valueError "queue_depth must be positive"), sys)
  else if small : batch < 1 then
    (.error (.valueError "batch must be positive"), sys)
  else
    let drive := sys.driveLoops addr total queueDepth batch maxCycles
      (one_le_of_not_small small) callback
    let (events, sys) := drive.sys.drainCompleted
    (.ok (drive.cycles, drive.issued, events), sys)

theorem driveLoop_cases (sys : PyMemorySystem engine) (addr : Nat → Int)
    (total queueDepth batch maxCycles : Int) (callback : Option π) :
    (∃ error, sys.driveLoop addr total queueDepth batch maxCycles callback =
      (.error error, sys)) ∨
    1 ≤ queueDepth ∧ ∃ positive : 1 ≤ batch,
      let drive := sys.driveLoops addr total queueDepth batch maxCycles positive
        callback
      sys.driveLoop addr total queueDepth batch maxCycles callback =
        (.ok (drive.cycles, drive.issued, drive.sys.completed),
          { drive.sys with completed := [] }) := by
  unfold driveLoop
  by_cases shallow : queueDepth < 1
  · exact .inl ⟨_, if_pos shallow⟩
  · by_cases small : batch < 1
    · exact .inl ⟨_, by rw [if_neg shallow, dif_pos small]⟩
    · refine .inr ⟨by omega, by omega, ?_⟩
      rw [if_neg shallow, dif_neg small]
      rfl

/-- `drive`. -/
def drive (sys : PyMemorySystem engine) (addrs : List Int)
    (queueDepth batch maxCycles : Int) (callback : Option π) : Driven engine :=
  if FitsInt queueDepth ∧ FitsLong batch ∧ FitsLong maxCycles then
    if ∀ addr ∈ addrs, FitsLong addr then
      sys.driveLoop (fun index => addrs.getD index 0) addrs.length queueDepth
        batch maxCycles callback
    else (.error .castError, sys)
  else (.error .typeError, sys)

/-- `drive_range`. -/
def driveRange (sys : PyMemorySystem engine) (start count stride : Int)
    (queueDepth batch maxCycles : Int) (callback : Option π) : Driven engine :=
  if FitsLong start ∧ FitsLong count ∧ FitsLong stride ∧ FitsInt queueDepth ∧
      FitsLong batch ∧ FitsLong maxCycles then
    sys.driveLoop (fun index => start + index * stride) count queueDepth batch
      maxCycles callback
  else (.error .typeError, sys)

end PyMemorySystem

end Pyramulator
