import Pyramulator.Memory.Balance

namespace Pyramulator

/-! Batches that leave the engine as it was. -/

variable {γ : Type} {engine : Engine (CppCallback (ReadWrap γ))}

namespace PyMemorySystem

/-- The requests that reach the engine, of those to the addresses `reach`: none when
the core id is out of range. -/
def requestsTo (numCores : Int) (reach : List Int) (type : RequestType) (coreId : Int)
    (callback : Option γ) : List (Request (CppCallback (ReadWrap γ))) :=
  (if (0 ≤ coreId ∧ coreId < numCores) ∧ FitsInt coreId then reach else []).map
    fun addr => ⟨addr, type, coreId, makeCallback type (callback.map ReadWrap.mk) coreId⟩

def Untouched (before after : PyMemorySystem engine) : Prop :=
  Wire.accepted (passed before after) = [] ∧ after.mem = before.mem

end PyMemorySystem

namespace MemorySystem.Issues

open PyMemorySystem (requestsTo Untouched)

variable {cacheline : Int} {mem : MemorySystem engine} {addrs reach : List Int}
  {type : RequestType} {coreId : Int} {callback : Option γ}
  {value : List Bool → MemoryValue} {result : Begun γ × MemorySystem engine}
  {sends : List (Int × Bool)}

theorem refuses_iff
    (issues : Issues cacheline mem addrs reach type coreId callback value result sends)
    (last : engine.State) :
    engine.Refuses mem.impl.mem (requestsTo mem.numCores reach type coreId callback)
      last ↔
      Wire.accepted (PyMemorySystem.passed mem.impl result.2.impl) = [] ∧
        last = result.2.impl.mem := by
  have same : requestsTo mem.numCores reach type coreId callback =
      sends.map fun send => ⟨send.1, type, coreId,
        PyMemorySystem.makeCallback type (callback.map ReadWrap.mk) coreId⟩ := by
    rw [requestsTo, ← issues.reached, List.map_map]
    rfl
  have passed : Wire.accepted (PyMemorySystem.passed mem.impl result.2.impl) = [] ↔
      ∀ send ∈ sends, send.2 = false := by
    rw [issues.accepted, List.map_eq_nil_iff, acceptedOf, List.map_eq_nil_iff,
      List.filter_eq_nil_iff]
    simp
  rw [same, passed]
  exact issues.sending.refuses_iff

/-- A batch leaves the engine as it was if and only if the engine rejects all that
reaches it, and is as it was then. -/
theorem untouched_iff
    (issues : Issues cacheline mem addrs reach type coreId callback value result sends) :
    Untouched mem.impl result.2.impl ↔ engine.Refuses mem.impl.mem
      (requestsTo mem.numCores reach type coreId callback) mem.impl.mem := by
  rw [issues.refuses_iff, Untouched]
  exact and_congr_right fun _ => eq_comm

end MemorySystem.Issues

namespace Session

open PyMemorySystem (requestsTo reaching Untouched)

def BatchExact (numCores : Int) (call : MemoryCall engine) : Prop :=
  ∀ addrs type coreId callback, call.op = .sendBatch addrs type coreId callback →
    (Untouched call.before call.after ↔ engine.Refuses call.before.mem
      (requestsTo numCores (reaching addrs) (MemorySystem.batchType type) coreId callback)
        call.before.mem)

variable [DecidableEq γ]

theorem newCall_batchExact {cacheline : Int} {session : Session engine}
    (stable : session.mem.Stable cacheline) (op : MemoryOp γ) :
    BatchExact session.mem.numCores (session.newCall op) := by
  rintro addrs type coreId callback rfl
  obtain ⟨sends, issues⟩ :=
    MemorySystem.sendBatch_issues stable addrs type coreId callback
  exact issues.untouched_iff

structure Steady (cacheline numCores : Int) (session : Session engine) : Prop where
  stable : session.mem.Stable cacheline
  numCores : session.mem.numCores = numCores

theorem advance_steady {cacheline numCores : Int} {session : Session engine}
    (steady : session.Steady cacheline numCores) (decision : MemoryDecision γ) :
    (session.advance decision).Steady cacheline numCores := by
  refine ⟨session.advance_stable decision steady.stable, ?_⟩
  rcases session.advance_mem decision with ⟨clk, same⟩ | ⟨op, -, same⟩
  · rw [same]
    exact steady.numCores
  · rw [same]
    exact (session.mem.begin_numCores op).trans steady.numCores

theorem run_steady (cacheline numCores : Int) (decisions : List (MemoryDecision γ)) :
    (Transition.run advance (create (MemorySystem.create engine cacheline numCores))
      decisions).Steady cacheline numCores :=
  Transition.run_invariant (Steady cacheline numCores)
    (fun _ decision steady => advance_steady steady decision) ⟨⟨rfl, rfl⟩, rfl⟩ decisions

theorem follows_steady (cacheline numCores : Int) (decisions : List (MemoryDecision γ)) :
    Transition.Follows advance (fun session _ => session.Steady cacheline numCores)
      (create (MemorySystem.create engine cacheline numCores)) decisions :=
  Transition.follows_iff.mpr fun first _ _ _ => run_steady cacheline numCores first

theorem ended_batchExact (cacheline numCores : Int)
    (decisions : List (MemoryDecision γ)) :
    ∀ entry ∈ (Transition.run advance
      (create (MemorySystem.create engine cacheline numCores)) decisions).ended,
        BatchExact numCores entry.1 := by
  have rule : Rule (DispatchFrame (BatchExact numCores))
      (DispatchEntry (BatchExact numCores))
      fun (session : Session engine) _ => session.Steady cacheline numCores :=
    dispatch_rule _ fun session op _ steady =>
      steady.numCores ▸ newCall_batchExact steady.stable op
  intro entry member
  exact ((rule.run _ (follows_steady cacheline numCores decisions)).entries
    entry member).1

end Session

end Pyramulator
