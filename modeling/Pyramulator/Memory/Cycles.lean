import Pyramulator.Memory.Session

namespace Pyramulator

/-! The Python cycle counter and the ticks of the engine. -/

namespace PyMemorySystem

variable {π : Type} {engine : Engine (CppCallback π)}

/-! ## Ticks of the loops -/

@[simp] theorem ticks_create : (create : PyMemorySystem engine).ticks = 0 := rfl

@[simp] theorem ticks_tick (sys : PyMemorySystem engine) :
    sys.tick.ticks = sys.ticks + 1 := by
  rw [tick_eq]
  simp [ticks]

@[simp] theorem ticks_sendRequest (sys : PyMemorySystem engine)
    (request : Request (CppCallback π)) :
    (sys.sendRequest request).2.ticks = sys.ticks := by
  simp [sendRequest, ticks]

theorem ticks_iterate (sys : PyMemorySystem engine) (count : Nat) :
    (tick^[count] sys).ticks = sys.ticks + count := by
  induction count with
  | zero => rfl
  | succ count induction =>
      rw [Function.iterate_succ_apply', ticks_tick, induction]
      omega

theorem ticks_send (sys : PyMemorySystem engine) (addr : Int) (type : RequestType)
    (coreid : Int) (callback : Option π) :
    (sys.send addr type coreid callback).2.ticks = sys.ticks := by
  unfold send
  split
  · exact ticks_sendRequest ..
  · rfl

theorem ticks_sendEach (sys : PyMemorySystem engine) (type : RequestType)
    (coreid : Int) (callback : CppCallback π) (addrs : List Int) :
    (sys.sendEach type coreid callback addrs).2.ticks = sys.ticks := by
  induction addrs generalizing sys with
  | nil => rfl
  | cons addr rest induction =>
      unfold sendEach
      split
      · simp only [induction, ticks_sendRequest]
      · rfl

theorem ticks_sendBatch (sys : PyMemorySystem engine) (addrs : List Int)
    (type : RequestType) (coreid : Int) (callback : Option π) :
    (sys.sendBatch addrs type coreid callback).2.ticks = sys.ticks := by
  unfold sendBatch
  split
  · exact ticks_sendEach ..
  · rfl

theorem ticks_sendStrided (sys : PyMemorySystem engine) (type : RequestType)
    (coreid : Int) (callback : CppCallback π) (stride : Int) (left : Nat)
    (addr : Int) :
    (sys.sendStrided type coreid callback stride left addr).2.ticks =
      sys.ticks := by
  induction left generalizing sys addr with
  | zero => rfl
  | succ left induction =>
      simp only [sendStrided, induction, ticks_sendRequest]

theorem ticks_sendRange (sys : PyMemorySystem engine) (start count stride : Int)
    (type : RequestType) (coreid : Int) (callback : Option π) :
    (sys.sendRange start count stride type coreid callback).2.ticks =
      sys.ticks := by
  unfold sendRange
  split
  · exact ticks_sendStrided ..
  · rfl

theorem ticks_idleLoop (sys : PyMemorySystem engine) (left : Nat) :
    (sys.idleLoop left).2.ticks = sys.ticks + (sys.idleLoop left).1 := by
  induction left generalizing sys with
  | zero => rfl
  | succ left induction =>
      unfold idleLoop
      split
      · simp only [induction, ticks_tick]
        omega
      · rfl

theorem ticks_progressLoop (sys : PyMemorySystem engine) (left : Nat) :
    (sys.progressLoop left).2.ticks = sys.ticks + (sys.progressLoop left).1 := by
  induction left generalizing sys with
  | zero => rfl
  | succ left induction =>
      unfold progressLoop
      simp only
      split
      · exact ticks_tick sys
      · simp only [induction, ticks_tick]
        omega

end PyMemorySystem

namespace Drive

variable {π : Type} {engine : Engine (CppCallback π)} (drive : Drive engine)

theorem ticks_fill (request : Nat → Request (CppCallback π)) (queueDepth : Int)
    (left : Nat) :
    (drive.fill request queueDepth left).sys.ticks = drive.sys.ticks := by
  induction left generalizing drive with
  | zero => rfl
  | succ left induction =>
      unfold fill
      split
      · simp only
        split
        · rw [induction]
          exact PyMemorySystem.ticks_sendRequest ..
        · exact PyMemorySystem.ticks_sendRequest ..
      · rfl

theorem ticks_tickBatch (total maxCycles : Int) (left : Nat) :
    (drive.tickBatch total maxCycles left).sys.ticks + drive.cycles =
      drive.sys.ticks + (drive.tickBatch total maxCycles left).cycles := by
  induction left generalizing drive with
  | zero => rfl
  | succ left induction =>
      unfold tickBatch
      split
      · have := induction drive.tick
        simp only [tick, PyMemorySystem.ticks_tick] at this ⊢
        omega
      · rfl

theorem ticks_rounds (request : Nat → Request (CppCallback π))
    (total queueDepth batch maxCycles : Int) (positive : 1 ≤ batch) :
    (drive.rounds request total queueDepth batch maxCycles positive).sys.ticks +
        drive.cycles =
      drive.sys.ticks +
        (drive.rounds request total queueDepth batch maxCycles positive).cycles := by
  fun_induction Drive.rounds with
  | case1 drive guard induction =>
      have batched : (drive.round request total queueDepth batch maxCycles).sys.ticks
          + drive.cycles = drive.sys.ticks +
            (drive.round request total queueDepth batch maxCycles).cycles := by
        have filled := ticks_tickBatch
          (drive.fill request queueDepth (total - drive.issued).toNat) total
          maxCycles batch.toNat
        rwa [fill_cycles, ticks_fill] at filled
      omega
  | case2 drive guard => rfl

theorem ticks_drain (left : Nat) :
    (drive.drain left).sys.ticks + drive.cycles =
      drive.sys.ticks + (drive.drain left).cycles := by
  induction left generalizing drive with
  | zero => rfl
  | succ left induction =>
      unfold drain
      split
      · have := induction drive.tick
        simp only [tick, PyMemorySystem.ticks_tick] at this ⊢
        omega
      · rfl

end Drive

namespace PyMemorySystem

variable {π : Type} {engine : Engine (CppCallback π)}

theorem ticks_driveLoops (sys : PyMemorySystem engine) (addr : Nat → Int)
    (total queueDepth batch maxCycles : Int) (positive : 1 ≤ batch)
    (callback : Option π) :
    (sys.driveLoops addr total queueDepth batch maxCycles positive
        callback).sys.ticks =
      sys.ticks + (sys.driveLoops addr total queueDepth batch maxCycles positive
        callback).cycles := by
  have issuing := sys.driveStart.ticks_rounds (sys.driveRequest addr callback) total
    queueDepth batch maxCycles positive
  have draining := (sys.driveStart.rounds (sys.driveRequest addr callback) total
    queueDepth batch maxCycles positive).ticks_drain
      (maxCycles - (sys.driveStart.rounds (sys.driveRequest addr callback) total
        queueDepth batch maxCycles positive).cycles).toNat
  have start : sys.driveStart.sys.ticks = sys.ticks := rfl
  have zero : sys.driveStart.cycles = 0 := rfl
  simp only [driveLoops]
  omega

/-- A drive that is refused does not tick, and another one ticks as often as it
says. -/
def Driven.Timed (sys : PyMemorySystem engine) : Driven engine → Prop
  | (.ok (cycles, _, _), after) => after.ticks = sys.ticks + cycles
  | (.error _, after) => after.ticks = sys.ticks

theorem driveLoop_timed (sys : PyMemorySystem engine) (addr : Nat → Int)
    (total queueDepth batch maxCycles : Int) (callback : Option π) :
    Driven.Timed sys
      (sys.driveLoop addr total queueDepth batch maxCycles callback) := by
  rcases sys.driveLoop_cases addr total queueDepth batch maxCycles callback with
    ⟨error, refused⟩ | ⟨-, positive, ran⟩
  · rw [refused]
    rfl
  · rw [ran]
    exact ticks_driveLoops ..

theorem drive_timed (sys : PyMemorySystem engine) (addrs : List Int)
    (queueDepth batch maxCycles : Int) (callback : Option π) :
    Driven.Timed sys (sys.drive addrs queueDepth batch maxCycles callback) := by
  unfold drive
  split
  · split
    · exact driveLoop_timed ..
    · rfl
  · rfl

theorem driveRange_timed (sys : PyMemorySystem engine) (start count stride : Int)
    (queueDepth batch maxCycles : Int) (callback : Option π) :
    Driven.Timed sys
      (sys.driveRange start count stride queueDepth batch maxCycles callback) := by
  unfold driveRange
  split
  · exact driveLoop_timed ..
  · rfl

def Progress.Timed (sys : PyMemorySystem engine) (backward : Int) :
    Progress engine → Prop
  | (.ok (cycles, _), after) => (after.ticks : Int) = sys.ticks + cycles + backward
  | (.error _, after) => backward = 0 ∧ after.ticks = sys.ticks

theorem run_timed (sys : PyMemorySystem engine) (cycles : Int) :
    Progress.Timed sys (if FitsInt cycles ∧ cycles < 0 then -cycles else 0)
      (sys.run cycles) := by
  unfold run
  by_cases fits : FitsInt cycles
  · have ticks := sys.ticks_iterate cycles.toNat
    rw [if_pos fits]
    change ((tick^[cycles.toNat] sys).ticks : Int) = _
    by_cases back : cycles < 0
    · rw [if_pos ⟨fits, back⟩]
      omega
    · rw [if_neg fun both => back both.2]
      omega
  · rw [if_neg fits]
    exact ⟨if_neg fun both => fits both.1, rfl⟩

theorem runUntilIdle_timed (sys : PyMemorySystem engine) (maxCycles : Int) :
    Progress.Timed sys 0 (sys.runUntilIdle maxCycles) := by
  unfold runUntilIdle
  split
  · have ticks := sys.ticks_idleLoop maxCycles.toNat
    change ((sys.idleLoop maxCycles.toNat).2.ticks : Int) = _
    omega
  · exact ⟨rfl, rfl⟩

theorem runUntilProgress_timed (sys : PyMemorySystem engine) (maxCycles : Int) :
    Progress.Timed sys 0 (sys.runUntilProgress maxCycles) := by
  unfold runUntilProgress
  split
  · have ticks := sys.ticks_progressLoop maxCycles.toNat
    change ((sys.progressLoop maxCycles.toNat).2.ticks : Int) = _
    omega
  · exact ⟨rfl, rfl⟩

end PyMemorySystem

/-- The cycle that `tick` counts when its dispatch is over. -/
def Ending.owes : Ending → Int
  | .tick => 1
  | .value _ => 0

def Begun.owes {γ : Type} : Begun γ → Int
  | .dispatch _ ending => ending.owes
  | _ => 0

theorem MemorySystem.readCb_impl {γ : Type} [DecidableEq γ]
    {engine : Engine (CppCallback (ReadWrap γ))} (mem : MemorySystem engine)
    (callback : Option γ) :
    (mem.readCb callback).2.impl = mem.impl ∧
      (mem.readCb callback).2.clk = mem.clk := by
  unfold readCb
  split
  · exact ⟨rfl, rfl⟩
  · split <;> exact ⟨rfl, rfl⟩

namespace MemoryOp

variable {γ : Type}

def advances : MemoryOp γ → Bool
  | .tick | .run _ | .tickUntilProgress _ | .runUntilIdle _ | .flush _ => true
  | _ => false

/-- The cycles that `run` takes back: it adds a negative count as it is. -/
def backward : MemoryOp γ → Int
  | .run cycles => if FitsInt cycles ∧ cycles < 0 then -cycles else 0
  | _ => 0

theorem backward_nonneg (op : MemoryOp γ) : 0 ≤ op.backward := by
  unfold backward
  split
  · split <;> omega
  · exact le_refl _

variable {engine : Engine (CppCallback (ReadWrap γ))}

/-- What the first part of a method does to the counter and to the engine. -/
structure Counts (op : MemoryOp γ) (mem : MemorySystem engine)
    (result : Begun γ × MemorySystem engine) : Prop where
  drift : (result.2.impl.ticks : Int) - result.2.clk =
    mem.impl.ticks - mem.clk + op.backward + result.1.owes
  reports : op.advances = true → op.backward = 0 →
    match result.1 with
    | .raised _ => True
    | .dispatch _ ending =>
        ending.result = .count (result.2.impl.ticks - mem.impl.ticks)
    | _ => False

namespace Counts

variable {mem : MemorySystem engine}

theorem still {op : MemoryOp γ} {result : Begun γ × MemorySystem engine}
    (sends : op.advances = false) (forward : op.backward = 0)
    (ticks : result.2.impl.ticks = mem.impl.ticks) (clk : result.2.clk = mem.clk)
    (owes : result.1.owes = 0) : Counts op mem result where
  drift := by rw [ticks, clk, forward, owes]; omega
  reports advances := by rw [sends] at advances; cases advances

theorem fireWrites_owes (addrs : List Int) (coreId : Int) (callback : Option γ)
    (value : MemoryValue) :
    (MemorySystem.fireWrites addrs coreId callback value).owes = 0 := by
  cases callback <;> rfl

section Sends

variable [DecidableEq γ]

theorem send (addr : Int) (type : RequestType) (coreId : Int)
    (callback : Option γ) :
    Counts (.send addr type coreId callback) mem
      (mem.send addr type coreId callback) := by
  unfold MemorySystem.send
  split
  · exact still rfl rfl rfl rfl rfl
  · split
    · have ticks := mem.impl.ticks_send addr type coreId none
      split <;> rename_i sent <;> rw [sent] at ticks
      · exact still rfl rfl ticks rfl rfl
      · exact still rfl rfl ticks rfl (fireWrites_owes ..)
    · obtain ⟨impl, clk⟩ := mem.readCb_impl callback
      generalize mem.readCb callback = cached at impl clk
      rcases cached with ⟨wrap, cached⟩
      have ticks := cached.impl.ticks_send addr type coreId wrap
      rw [impl] at ticks
      simp only
      split <;> rename_i sent <;> rw [← impl, sent, impl] at ticks
      · exact still rfl rfl ticks clk rfl
      · exact still rfl rfl ticks clk rfl

theorem sendBatch (addrs : List Int) (type : RequestType) (coreId : Int)
    (callback : Option γ) :
    Counts (.sendBatch addrs type coreId callback) mem
      (mem.sendBatch addrs type coreId callback) := by
  unfold MemorySystem.sendBatch
  split
  · exact still rfl rfl rfl rfl rfl
  · split
    · have ticks := mem.impl.ticks_sendBatch addrs .write coreId none
      split <;> rename_i sent <;> rw [sent] at ticks
      · exact still rfl rfl ticks rfl rfl
      · exact still rfl rfl ticks rfl (fireWrites_owes ..)
    · obtain ⟨impl, clk⟩ := mem.readCb_impl callback
      generalize mem.readCb callback = cached at impl clk
      rcases cached with ⟨wrap, cached⟩
      have ticks := cached.impl.ticks_sendBatch addrs .read coreId wrap
      rw [impl] at ticks
      simp only
      split <;> rename_i sent <;> rw [← impl, sent, impl] at ticks
      · exact still rfl rfl ticks clk rfl
      · exact still rfl rfl ticks clk rfl

theorem sendRange (start count : Int) (stride : Option Int) (type : RequestType)
    (coreId : Int) (callback : Option γ) :
    Counts (.sendRange start count stride type coreId callback) mem
      (mem.sendRange start count stride type coreId callback) := by
  unfold MemorySystem.sendRange
  simp only
  split
  · exact still rfl rfl rfl rfl rfl
  · split
    · have ticks := mem.impl.ticks_sendRange start count (stride.getD mem.cacheline)
        .write coreId none
      split <;> rename_i sent <;> rw [sent] at ticks
      · exact still rfl rfl ticks rfl rfl
      · exact still rfl rfl ticks rfl (fireWrites_owes ..)
    · obtain ⟨impl, clk⟩ := mem.readCb_impl callback
      generalize mem.readCb callback = cached at impl clk
      rcases cached with ⟨wrap, cached⟩
      have ticks := cached.impl.ticks_sendRange start count
        (stride.getD mem.cacheline) .read coreId wrap
      rw [impl] at ticks
      simp only
      split <;> rename_i sent <;> rw [← impl, sent, impl] at ticks
      · exact still rfl rfl ticks clk rfl
      · exact still rfl rfl ticks clk rfl

end Sends

theorem driven {op : MemoryOp γ} (drives : op.advances = false)
    (forward : op.backward = 0) {cached : MemorySystem engine}
    (clk : cached.clk = mem.clk) {result : PyMemorySystem.Driven engine}
    (timed : result.Timed mem.impl) : Counts op mem (cached.driven result) where
  drift := by
    rcases result with ⟨_ | ⟨cycles, issued, events⟩, after⟩
    · simp only [PyMemorySystem.Driven.Timed] at timed
      simp only [MemorySystem.driven, forward, Begun.owes, clk]
      omega
    · simp only [PyMemorySystem.Driven.Timed] at timed
      simp only [MemorySystem.driven, forward, Begun.owes, Ending.owes, clk]
      omega
  reports advances := by rw [drives] at advances; cases advances

theorem drive [DecidableEq γ] (addrs : List Int) (queueDepth batch maxCycles : Int)
    (callback : Option γ) :
    Counts (.drive addrs queueDepth batch maxCycles callback) mem
      (mem.drive addrs queueDepth batch maxCycles callback) := by
  obtain ⟨impl, clk⟩ := mem.readCb_impl callback
  unfold MemorySystem.drive
  generalize mem.readCb callback = cached at impl clk
  rcases cached with ⟨wrap, cached⟩
  exact driven rfl rfl clk (impl ▸ PyMemorySystem.drive_timed ..)

theorem driveRange [DecidableEq γ] (start count : Int) (stride : Option Int)
    (queueDepth batch maxCycles : Int) (callback : Option γ) :
    Counts (.driveRange start count stride queueDepth batch maxCycles callback) mem
      (mem.driveRange start count stride queueDepth batch maxCycles callback) := by
  obtain ⟨impl, clk⟩ := mem.readCb_impl callback
  unfold MemorySystem.driveRange
  generalize mem.readCb callback = cached at impl clk
  rcases cached with ⟨wrap, cached⟩
  exact driven rfl rfl clk (impl ▸ PyMemorySystem.driveRange_timed ..)

theorem progress {op : MemoryOp γ} {result : PyMemorySystem.Progress engine}
    (timed : result.Timed mem.impl op.backward) :
    Counts op mem (mem.progress result) where
  drift := by
    rcases result with ⟨_ | ⟨cycles, events⟩, after⟩
    · simp only [PyMemorySystem.Progress.Timed] at timed
      simp only [MemorySystem.progress, Begun.owes]
      omega
    · simp only [PyMemorySystem.Progress.Timed] at timed
      simp only [MemorySystem.progress, Begun.owes, Ending.owes]
      omega
  reports _ forward := by
    rcases result with ⟨_ | ⟨cycles, events⟩, after⟩
    · trivial
    · simp only [PyMemorySystem.Progress.Timed] at timed
      simp only [MemorySystem.progress, Ending.result]
      congr 1
      omega

theorem tick : Counts (.tick : MemoryOp γ) mem mem.tick where
  drift := by
    have := mem.impl.ticks_tick
    change (mem.impl.tick.ticks : Int) - mem.clk = _ - _ + 0 + 1
    omega
  reports _ _ := by
    have := mem.impl.ticks_tick
    change MemoryValue.count 1 = .count (mem.impl.tick.ticks - mem.impl.ticks)
    congr 1
    omega

end Counts

theorem counts [DecidableEq γ] (op : MemoryOp γ) (mem : MemorySystem engine) :
    Counts op mem (op.begin mem) := by
  cases op with
  | send addr type coreId callback => exact Counts.send addr type coreId callback
  | sendBatch addrs type coreId callback =>
      exact Counts.sendBatch addrs type coreId callback
  | sendRange start count stride type coreId callback =>
      exact Counts.sendRange start count stride type coreId callback
  | tick => exact Counts.tick
  | run cycles => exact Counts.progress (mem.impl.run_timed cycles)
  | tickUntilProgress maxCycles =>
      simp only [begin, MemorySystem.tickUntilProgress]
      split
      · exact { drift := by simp [backward, Begun.owes], reports := fun _ _ => trivial }
      · exact Counts.progress (mem.impl.runUntilProgress_timed maxCycles)
  | runUntilIdle maxCycles =>
      exact Counts.progress (mem.impl.runUntilIdle_timed maxCycles)
  | flush maxCycles =>
      exact Counts.progress (mem.impl.runUntilIdle_timed maxCycles)
  | drive addrs queueDepth batch maxCycles callback =>
      exact Counts.drive addrs queueDepth batch maxCycles callback
  | driveRange start count stride queueDepth batch maxCycles callback =>
      exact Counts.driveRange start count stride queueDepth batch maxCycles callback

end MemoryOp

end Pyramulator
