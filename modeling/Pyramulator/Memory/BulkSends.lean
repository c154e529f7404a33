import Pyramulator.Memory.BatchFailure

namespace Pyramulator

/-! Requests that are sent by one call, and the same requests sent one by one. -/

namespace PyMemorySystem

variable {π : Type} {engine : Engine (CppCallback π)}

def sendAll (request : Int → Request (CppCallback π)) (sys : PyMemorySystem engine) :
    List Int → List Bool × PyMemorySystem engine
  | [] => ([], sys)
  | addr :: rest =>
      let (accepted, sys) := sys.sendRequest (request addr)
      let (flags, sys) := sys.sendAll request rest
      (accepted :: flags, sys)

section

variable (sys : PyMemorySystem engine)

theorem length_sendAll (request : Int → Request (CppCallback π)) (addrs : List Int) :
    (sys.sendAll request addrs).1.length = addrs.length := by
  induction addrs generalizing sys with
  | nil => rfl
  | cons addr rest induction =>
      apply congrArg (· + 1)
      exact induction _

theorem sendAll_wire (request : Int → Request (CppCallback π)) (addrs : List Int) :
    (sys.sendAll request addrs).2.wire = sys.wire ++
      (addrs.zip (sys.sendAll request addrs).1).map fun send =>
        .sent (request send.1) send.2 := by
  induction addrs generalizing sys with
  | nil => exact (List.append_nil _).symm
  | cons addr rest induction =>
      simp only [sendAll, induction, List.zip_cons_cons, List.map_cons]
      simp [sendRequest]

variable (type : RequestType) (coreid : Int)

theorem sendEach_eq (callback : CppCallback π) {addrs : List Int}
    (fits : ∀ addr ∈ addrs, FitsLong addr) :
    let sent := sys.sendAll (fun addr => ⟨addr, type, coreid, callback⟩) addrs
    sys.sendEach type coreid callback addrs = (.ok sent.1, sent.2) := by
  induction addrs generalizing sys with
  | nil => rfl
  | cons addr rest induction =>
      obtain ⟨first, later⟩ := List.forall_mem_cons.mp fits
      simp only [sendEach, sendAll, if_pos first, induction _ later]
      rfl

theorem sendStrided_eq (callback : CppCallback π) (stride : Int) (count : Nat)
    (start : Int) :
    sys.sendStrided type coreid callback stride count start =
      sys.sendAll (fun addr => ⟨addr, type, coreid, callback⟩)
        (strided start stride count) := by
  induction count generalizing sys start with
  | zero => rfl
  | succ count induction =>
      rw [strided_succ]
      simp only [sendStrided, sendAll, induction]

end

end PyMemorySystem

namespace MemorySystem

open PyMemorySystem (makeCallback strided)

variable {γ : Type} {engine : Engine (CppCallback (ReadWrap γ))}

def requestOf (type : RequestType) (coreId : Int) (callback : Option γ) (addr : Int) :
    Request (CppCallback (ReadWrap γ)) :=
  ⟨addr, type, coreId, makeCallback type (callback.map ReadWrap.mk) coreId⟩

/-- The accept flags of a call that sends these requests, and the wrapper after it. -/
def sendAll (mem : MemorySystem engine) (type : RequestType) (coreId : Int)
    (callback : Option γ) (addrs : List Int) : List Bool × PyMemorySystem engine :=
  mem.impl.sendAll (requestOf type coreId callback) addrs

/-- The memory without the cache of `_read_cb`. -/
def uncached (mem : MemorySystem engine) : MemorySystem engine :=
  { mem with
    readCbSrc := none
    readCbWrap := none }

@[simp] theorem uncached_impl (mem : MemorySystem engine) :
    mem.uncached.impl = mem.impl := rfl

@[simp] theorem uncached_cacheline (mem : MemorySystem engine) :
    mem.uncached.cacheline = mem.cacheline := rfl

@[simp] theorem uncached_checkCoreId (mem : MemorySystem engine) (coreId : Int) :
    mem.uncached.checkCoreId coreId = mem.checkCoreId coreId := rfl

def answering (type : RequestType) (coreId : Int) (callback : Option γ)
    (value : List Bool → MemoryValue) (addrs : List Int) (flags : List Bool) : Begun γ :=
  if type = .write then fireWrites (acceptedAddrs addrs flags) coreId
    callback (value flags)
  else .returned (value flags)

structure Issued (mem : MemorySystem engine) (type : RequestType) (coreId : Int)
    (callback : Option γ) (value : List Bool → MemoryValue) (addrs : List Int)
    (result : Begun γ × MemorySystem engine) : Prop where
  begun : result.1 = answering type coreId callback value addrs
    (mem.sendAll type coreId callback addrs).1
  mem : result.2.uncached =
    { mem.uncached with impl := (mem.sendAll type coreId callback addrs).2 }

theorem acceptedAddrs_one (addr : Int) (accepted : Bool) :
    acceptedAddrs [addr] [accepted] = if accepted then [addr] else [] := by
  cases accepted <;> rfl

theorem acceptedAddrs_cons (addr : Int) (rest : List Int) (flag : Bool)
    (flags : List Bool) :
    acceptedAddrs (addr :: rest) (flag :: flags) =
      acceptedAddrs [addr] [flag] ++ acceptedAddrs rest flags := by
  cases flag <;> rfl

theorem checkCoreId_valid {mem : MemorySystem engine} {coreId : Int}
    (valid : 0 ≤ coreId ∧ coreId < mem.numCores) : mem.checkCoreId coreId = .ok () :=
  if_pos valid

variable [DecidableEq γ]

theorem readCb_uncached (mem : MemorySystem engine) (callback : Option γ) :
    (mem.readCb callback).2.uncached = mem.uncached := by
  unfold readCb
  split
  · rfl
  · split <;> rfl

theorem readCb_readCb (mem : MemorySystem engine) (callback : Option γ) :
    (mem.readCb callback).2.readCb callback = mem.readCb callback := by
  cases callback with
  | none => rfl
  | some userCb =>
      unfold readCb
      by_cases hit : mem.readCbSrc = some userCb
      · simp only [if_pos hit]
      · simp only [if_neg hit, if_true]

theorem reads_readCb {mem : MemorySystem engine} {coreId : Int} (callback : Option γ)
    (valid : mem.checkCoreId coreId = .ok ()) :
    (∀ addr, (mem.readCb callback).2.send addr .read coreId callback =
      mem.send addr .read coreId callback) ∧
    ∀ addrs, (mem.readCb callback).2.sendBatch addrs .read coreId callback =
      mem.sendBatch addrs .read coreId callback := by
  have checked : (mem.readCb callback).2.checkCoreId coreId = .ok () := by
    unfold readCb
    split
    · exact valid
    · split <;> exact valid
  constructor
  · intro addr
    simp only [send, valid, checked, readCb_readCb, reduceCtorEq, if_false]
  · intro addrs
    simp only [sendBatch, valid, checked, readCb_readCb, reduceCtorEq, if_false]

section

variable {cacheline : Int} {mem : MemorySystem engine} (stable : mem.Stable cacheline)
  {type : RequestType} {coreId : Int} (callback : Option γ)
include stable

theorem readCb_cases : ∃ src cache,
    mem.readCb callback = (callback.map ReadWrap.mk, { mem with
      readCbSrc := src
      readCbWrap := cache }) := by
  obtain ⟨wrap, -, -⟩ := readCb_stable stable callback
  unfold readCb at wrap ⊢
  split
  · exact ⟨_, _, rfl⟩
  · split
    · rename_i cached
      simp only [if_pos cached] at wrap
      exact ⟨_, _, by rw [wrap]⟩
    · exact ⟨_, _, rfl⟩

variable (valid : mem.checkCoreId coreId = .ok ()) (int : FitsInt coreId)
  (known : type = .read ∨ type = .write)
include valid int known

theorem send_issued {addr : Int} (fits : FitsLong addr) :
    Issued mem type coreId callback (fun flags => .flag (flags.headD false)) [addr]
      (mem.send addr type coreId callback) := by
  unfold MemorySystem.send
  rw [valid]
  rcases known with rfl | rfl
  · obtain ⟨src, cache, read⟩ := readCb_cases stable callback
    simp only [read, PyMemorySystem.send, if_pos (And.intro fits int)]
    exact ⟨rfl, rfl⟩
  · simp only [PyMemorySystem.send, if_pos (And.intro fits int), ← acceptedAddrs_one]
    exact ⟨rfl, rfl⟩

theorem sendBatch_issued {addrs : List Int} (fits : ∀ addr ∈ addrs, FitsLong addr) :
    Issued mem type coreId callback .flags addrs
      (mem.sendBatch addrs type coreId callback) := by
  unfold MemorySystem.sendBatch
  rw [valid]
  rcases known with rfl | rfl
  · obtain ⟨src, cache, read⟩ := readCb_cases stable callback
    simp only [read, PyMemorySystem.sendBatch, if_pos int,
      PyMemorySystem.sendEach_eq _ _ _ _ fits]
    exact ⟨rfl, rfl⟩
  · simp only [PyMemorySystem.sendBatch, if_pos int,
      PyMemorySystem.sendEach_eq _ _ _ _ fits]
    exact ⟨rfl, rfl⟩

theorem send_ready {addr : Int} (fits : FitsLong addr)
    (ready : type = .read → (mem.readCb callback).2 = mem) :
    (mem.send addr type coreId callback).2 =
      { mem with impl := (mem.sendAll type coreId callback [addr]).2 } := by
  unfold MemorySystem.send
  rw [valid]
  rcases known with rfl | rfl
  · obtain ⟨src, cache, read⟩ := readCb_cases stable callback
    have same := ready rfl
    rw [read] at same
    simp only [read, same, PyMemorySystem.send, if_pos (And.intro fits int)]
    rfl
  · simp only [PyMemorySystem.send, if_pos (And.intro fits int)]
    rfl

theorem sendBatch_ready {addrs : List Int} (fits : ∀ addr ∈ addrs, FitsLong addr)
    (ready : type = .read → (mem.readCb callback).2 = mem) :
    (mem.sendBatch addrs type coreId callback).2 =
      { mem with impl := (mem.sendAll type coreId callback addrs).2 } := by
  unfold MemorySystem.sendBatch
  rw [valid]
  rcases known with rfl | rfl
  · obtain ⟨src, cache, read⟩ := readCb_cases stable callback
    have same := ready rfl
    rw [read] at same
    simp only [read, same, PyMemorySystem.sendBatch, if_pos int,
      PyMemorySystem.sendEach_eq _ _ _ _ fits]
    rfl
  · simp only [PyMemorySystem.sendBatch, if_pos int,
      PyMemorySystem.sendEach_eq _ _ _ _ fits]
    rfl

theorem sendRange_issued {start count : Int} {stride : Option Int}
    (fits : FitsLong start ∧ FitsLong count ∧ FitsLong (stride.getD mem.cacheline)) :
    Issued mem type coreId callback .flags
      (strided start (stride.getD mem.cacheline) count.toNat)
      (mem.sendRange start count stride type coreId callback) := by
  unfold MemorySystem.sendRange
  rw [valid]
  have all : FitsLong start ∧ FitsLong count ∧ FitsLong (stride.getD mem.cacheline) ∧
      FitsInt coreId := ⟨fits.1, fits.2.1, fits.2.2, int⟩
  rcases known with rfl | rfl
  · obtain ⟨src, cache, read⟩ := readCb_cases stable callback
    simp only [read, PyMemorySystem.sendRange, if_pos all, PyMemorySystem.sendStrided_eq]
    exact ⟨rfl, rfl⟩
  · simp only [PyMemorySystem.sendRange, if_pos all, PyMemorySystem.sendStrided_eq,
      PyMemorySystem.length_sendAll]
    refine ⟨?_, rfl⟩
    have length : (strided start (stride.getD mem.cacheline) count.toNat).length =
        count.toNat := by simp [strided]
    simp only [length, range_addrs]
    rfl

omit int known in
theorem sendRange_refused (type : RequestType) {start count : Int} {stride : Option Int}
    (args : ¬ (FitsLong start ∧ FitsLong count ∧ FitsLong (stride.getD mem.cacheline))) :
    (mem.sendRange start count stride type coreId callback).1 = .raised .typeError ∧
      (mem.sendRange start count stride type coreId callback).2.impl = mem.impl := by
  have refused :
      ¬ (FitsLong start ∧ FitsLong count ∧ FitsLong (stride.getD mem.cacheline) ∧
      FitsInt coreId) := fun all => args ⟨all.1, all.2.1, all.2.2.1⟩
  obtain ⟨src, cache, read⟩ := readCb_cases stable callback
  unfold MemorySystem.sendRange
  rw [valid]
  simp only [read, PyMemorySystem.sendRange, if_neg refused]
  split <;> exact ⟨rfl, rfl⟩

end

end MemorySystem

end Pyramulator
