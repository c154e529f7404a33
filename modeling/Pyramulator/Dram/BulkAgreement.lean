import Pyramulator.Memory.Agreement
import Pyramulator.Memory.Overflow
import Pyramulator.Dram.BulkCalls

namespace Pyramulator

/-! One call for many requests, on a memory system and on a component. -/

open PyMemorySystem (strided)

namespace Session

variable {γ : Type} [DecidableEq γ] {engine : Engine (CppCallback (ReadWrap γ))}

/-- The batch and the range form of a request agree with single sends of it. A range
with an argument that is no `long` raises, and no request reaches the engine. -/
structure BulkSends (cacheline : Int) (type : RequestType) (coreId : Int)
    (callback : Option γ) (session : Session engine) : Prop where
  batch : ∀ addrs, (∀ addr ∈ addrs, FitsLong addr) →
    Agrees session (session.perform (.sendBatch addrs type coreId callback))
      (session.performAll (addrs.map fun addr => .send addr type coreId callback))
        type coreId callback addrs
  range : ∀ start count stride, FitsLong start → FitsLong count →
    FitsLong (stride.getD cacheline) →
    (∀ index : Nat, index < count → FitsLong (start + index * stride.getD cacheline)) →
    -- `addr += stride` behind the last request is defined.
    count ≤ 0 ∨ FitsLong (start + count * stride.getD cacheline) →
    let addrs := strided start (stride.getD cacheline) count.toNat
    session.mem.impl.sendStridedChecked type coreId
        (PyMemorySystem.makeCallback type (callback.map ReadWrap.mk) coreId)
          (stride.getD cacheline) count.toNat start =
        some (session.mem.impl.sendAll (MemorySystem.requestOf type coreId callback)
          addrs) ∧
      Agrees session
        (session.perform (.sendRange start count stride type coreId callback))
        (session.performAll (addrs.map fun addr => .send addr type coreId callback))
          type coreId callback addrs
  refused : ∀ start count stride,
    ¬ (FitsLong start ∧ FitsLong count ∧ FitsLong (stride.getD cacheline)) →
    let after := session.perform (.sendRange start count stride type coreId callback)
    after.mem.impl = session.mem.impl ∧ after.stack = session.stack ∧
      after.results = session.results ++ [.error .typeError]

variable {session : Session engine} {cacheline numCores : Int} {type : RequestType}
  {coreId : Int}

theorem bulkSends (steady : session.Steady cacheline numCores)
    (control : InUserCode session.stack)
    (valid : 0 ≤ coreId ∧ coreId < numCores) (int : FitsInt numCores)
    (known : type = .read ∨ type = .write) (callback : Option γ) :
    BulkSends cacheline type coreId callback session := by
  have small : FitsInt coreId := by
    obtain ⟨low, high⟩ := int
    exact ⟨by omega, by omega⟩
  refine ⟨fun addrs fits => ?_, fun start count stride first many step fits defined =>
    ⟨?_, ?_⟩, fun start count stride large => ?_⟩
  · exact sendBatch_agrees steady control valid small known callback fits
  · rw [((PyMemorySystem.range_defined_iff session.mem.impl type coreId _ fits).1).mpr
      defined, PyMemorySystem.sendStrided_eq]
    rfl
  · exact sendRange_agrees steady control valid small known callback fits
      ⟨first, many, step⟩
  · exact sendRange_refused steady control valid callback type large

end Session

namespace DramWorld

open Session (InUserCode BulkSends)

variable {ℓ γ η : Type} [DecidableEq ℓ] [DecidableEq γ] {setups : ℓ → DramSetup γ}
  {policy : TickPolicy} {type : RequestType} {coreId : Int}

/-- One call for many reads or writes agrees with a call for each of them: on a memory
system in any state, and on a component at any point of a run. -/
theorem bulk_sends_agree (engine : Engine (CppCallback (ReadWrap γ)))
    (cacheline numCores : Int)
    (int : FitsInt numCores) (known : type = .read ∨ type = .write)
    (callback : Option γ) :
    (∀ session : Session engine,
      Transition.Reach Session.advance (fun _ _ => True)
        (Session.create (MemorySystem.create engine cacheline numCores)) session →
      InUserCode session.stack → 0 ≤ coreId → coreId < numCores →
        BulkSends cacheline type coreId callback session) ∧
    ∀ config : Config (dramSystem η setups policy),
      Transition.Reach Config.advance (fun _ _ => True)
        (Config.init (create setups)) config →
      config.InUserCode → ∀ label, (config.world.drams label).isSome →
        FitsInt (setups label).numCores → 0 ≤ coreId → coreId < (setups label).numCores →
        ∀ addrs, (∀ addr ∈ addrs, FitsLong addr) →
          Config.BulkAgrees label type callback coreId addrs config
            (config.advance (.call (.request label (.all type callback coreId addrs))))
            (Transition.run Config.advance config (addrs.map fun addr =>
              .call (.request label (.one type callback coreId addr)))) := by
  constructor
  · intro session reached control least below
    have steady : session.Steady cacheline numCores := by
      obtain ⟨decisions, rfl⟩ := reached.exists_run
      exact Session.run_steady cacheline numCores decisions
    exact Session.bulkSends steady control ⟨least, below⟩ int known callback
  · intro config reached control label built fits least below addrs long
    obtain ⟨dram, built⟩ := Option.isSome_iff_exists.mp built
    exact Config.bulk_agrees reached control built ⟨least, below⟩ fits known callback long

/-- Three reads, on a memory system and on a component. -/
theorem bulk_sends_agree_lines :
    let engine : Engine (CppCallback (ReadWrap Nat)) := .fixedLatency _ 2 4
    let config : Config (dramSystem Unit (idleSetup 4) .coalesced) :=
      (Config.init (create (idleSetup 4))).advance (.call (.build ()))
    BulkSends 64 .read 0 (some 7) (Session.create (MemorySystem.create engine 64 1)) ∧
      Config.BulkAgrees () .read (some 7) 0 [0, 64, 128] config
        (config.advance (.call (.request () (.all .read (some 7) 0 [0, 64, 128]))))
        (Transition.run Config.advance config ([0, 64, 128].map fun addr =>
          .call (.request () (.one .read (some 7) 0 addr)))) := by
  intro engine config
  have int : FitsInt 1 := by decide
  have fits : ∀ addr ∈ [0, 64, 128], FitsLong addr := by decide
  have reached : Transition.Reach Config.advance (fun _ _ => True)
      (Config.init (create (idleSetup 4))) config := .next _ .refl trivial
  have built : (config.world.drams ()).isSome := by decide +kernel
  obtain ⟨memory, component⟩ :=
    @bulk_sends_agree Unit Nat Unit _ _ (idleSetup 4) .coalesced
    .read 0 engine 64 1 int (.inl rfl) (some 7)
  exact ⟨memory _ .refl trivial (by decide) (by decide),
    component config reached trivial () built int (by decide) (by decide) _ fits⟩

/-- A stride that no address needs makes a range raise. -/
theorem range_refuses_stride :
    let engine : Engine (CppCallback (ReadWrap Nat)) := .fixedLatency _ 2 4
    let session := Session.create (MemorySystem.create engine 64 1)
    let many := session.perform (.sendRange 0 1 (some (2 ^ 63)) .read 0 none)
    let one := session.performAll [.send 0 .read 0 none]
    (∀ index : Nat, (index : Int) < 1 → FitsLong (0 + index * 2 ^ 63)) ∧
      many.mem.pending = 0 ∧ one.mem.pending = 1 ∧
        ¬ Session.Agrees session many one .read 0 none [0] := by
  intro engine session many one
  have pending : many.mem.pending = 0 ∧ one.mem.pending = 1 := by decide +kernel
  refine ⟨fun index below => ?_, pending.1, pending.2, fun agrees => ?_⟩
  · obtain rfl : index = 0 := by omega
    decide
  · have same : many.mem.pending = one.mem.pending :=
      congrArg PyMemorySystem.pending agrees.impl
    omega

end DramWorld

end Pyramulator
