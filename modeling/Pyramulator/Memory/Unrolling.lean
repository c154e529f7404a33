import Mathlib.Data.List.TakeWhile
import Pyramulator.Memory.Agreement
import Pyramulator.Memory.Tracing

namespace Pyramulator

/-! Every method unrolls into requests that are sent one by one and cycles that are run
one by one. -/

variable {γ : Type}

def CppCallback.user : CppCallback (ReadWrap γ) → Option γ
  | .ignore => none
  | .record wrap _ => some wrap.userCb
  | .driven _ wrap => wrap.map ReadWrap.userCb

def Wire.value {c : Type} : Wire c → MemoryValue
  | .sent _ accepted => .flag accepted
  | .ticked _ => .count 1

def Wire.single (written : Option γ) : Wire (CppCallback (ReadWrap γ)) → MemoryOp γ
  | .sent request _ => .send request.addr request.type request.coreid
      (if request.type = .write then written else request.callback.user)
  | .ticked _ => .tick

def Wire.tells (written : Option γ) :
    Int → List (Wire (CppCallback (ReadWrap γ))) → List (γ × RequestInfo)
  | _, [] => []
  | clk, .sent request accepted :: rest =>
      (if request.type = .write ∧ accepted = true then
        written.toList.map fun callback =>
          (callback, ⟨request.addr, .write, clk, clk, request.coreid⟩)
      else []) ++ tells written clk rest
  | clk, .ticked served :: rest =>
      (served.filterMap Served.recorded).map Session.invocation ++
        tells written (clk + 1) rest

/-- A request that `send` sends. -/
structure Request.Single (numCores : Int) (request : Request (CppCallback (ReadWrap γ))) :
    Prop where
  addr : FitsLong request.addr
  core : 0 ≤ request.coreid ∧ request.coreid < numCores
  int : FitsInt request.coreid
  callback : request.undriven = PyMemorySystem.makeCallback request.type
    (request.callback.user.map ReadWrap.mk) request.coreid

theorem CppCallback.user_undriven (callback : CppCallback (ReadWrap γ)) (coreid : Int) :
    (callback.undriven coreid).user = callback.user := by
  rcases callback with _ | _ | ⟨_, _ | _⟩ <;> rfl

theorem CppCallback.undriven_undriven (callback : CppCallback (ReadWrap γ))
    (coreid : Int) :
    (callback.undriven coreid).undriven coreid = callback.undriven coreid := by
  rcases callback with _ | _ | ⟨_, _ | _⟩ <;> rfl

theorem Request.Single.changed {numCores : Int}
    {request : Request (CppCallback (ReadWrap γ))} (single : request.Single numCores) :
    (request.changed Request.undriven).Single numCores where
  addr := single.addr
  core := single.core
  int := single.int
  callback := by
    have same := single.callback
    simp only [Request.undriven, Request.changed, CppCallback.undriven_undriven,
      CppCallback.user_undriven] at same ⊢
    exact same

namespace Wire

theorem single_changed (written : Option γ) (passed : Wire (CppCallback (ReadWrap γ))) :
    (passed.changed Request.undriven).single written = passed.single written := by
  cases passed with
  | sent request accepted =>
      simp only [Wire.changed, Wire.single, Request.changed, Request.undriven,
        CppCallback.user_undriven]
  | ticked served => rfl

theorem value_changed (passed : Wire (CppCallback (ReadWrap γ))) :
    (passed.changed Request.undriven).value = passed.value := by
  cases passed <;> rfl

theorem recorded_changed (served : List (Served (CppCallback (ReadWrap γ)))) :
    (served.map (Served.changed Request.undriven)).filterMap Served.recorded =
      served.filterMap Served.recorded := by
  rw [List.filterMap_map]
  exact List.filterMap_congr fun served _ => served.recorded_undriven

theorem tells_changed (written : Option γ) (clk : Int)
    (segment : List (Wire (CppCallback (ReadWrap γ)))) :
    tells written clk (segment.map (Wire.changed Request.undriven)) =
      tells written clk segment := by
  induction segment generalizing clk with
  | nil => rfl
  | cons passed rest induction =>
      cases passed with
      | sent request accepted =>
          apply congrArg₂ (· ++ ·)
          · rfl
          · exact induction clk
      | ticked served =>
          simp only [List.map_cons, Wire.changed, tells, recorded_changed, induction]

theorem ticks_changed (segment : List (Wire (CppCallback (ReadWrap γ)))) :
    ticks (segment.map (Wire.changed Request.undriven)) = ticks segment := by
  rw [ticks, List.countP_map, ticks]
  congr 1
  funext passed
  cases passed <;> rfl

theorem tells_none (clk : Int) (segment : List (Wire (CppCallback (ReadWrap γ)))) :
    tells none clk segment =
      ((served segment).filterMap Served.recorded).map Session.invocation := by
  induction segment generalizing clk with
  | nil => rfl
  | cons passed rest induction =>
      rw [← List.singleton_append, served_append, List.filterMap_append, List.map_append]
      cases passed with
      | sent request accepted =>
          rw [List.singleton_append, tells, induction]
          split <;> rfl
      | ticked served => rw [List.singleton_append, tells, induction, served_ticked]

theorem tells_append (written : Option γ) (clk : Int)
    (first second : List (Wire (CppCallback (ReadWrap γ)))) :
    tells written clk (first ++ second) =
      tells written clk first ++ tells written (clk + ticks first) second := by
  induction first generalizing clk with
  | nil => simp [tells]
  | cons passed rest induction =>
      cases passed with
      | sent request accepted =>
          have same : ticks (.sent request accepted :: rest) = ticks rest := rfl
          rw [List.cons_append, tells, tells, induction, same, List.append_assoc]
      | ticked served =>
          have one : ticks (.ticked served :: rest) = ticks rest + 1 := by
            rw [← List.singleton_append, ticks_append, ticks_ticked, Nat.add_comm]
          have later : clk + 1 + (ticks rest : Int) = clk + (ticks rest + 1 : Nat) := by
            omega
          rw [List.cons_append, tells, tells, induction, one, later, List.append_assoc]

theorem served_sends {c : Type} (asked : Int × Bool → Request c)
    (sends : List (Int × Bool)) :
    served (sends.map fun send => .sent (asked send) send.2) = [] := by
  rw [served, List.flatMap_map, List.flatMap_eq_nil_iff]
  exact fun _ _ => rfl

theorem value_sends {c : Type} (asked : Int × Bool → Request c)
    (sends : List (Int × Bool)) :
    (sends.map fun send => Wire.sent (asked send) send.2).map value =
      sends.map fun send => .flag send.2 := by
  rw [List.map_map]
  rfl

theorem tells_writes (callback : γ) (coreId clk : Int)
    (sends : List (Int × Bool)) :
    tells (some callback) clk (sends.map fun send =>
        .sent ⟨send.1, .write, coreId, .ignore⟩ send.2) =
      (acceptedOf sends).map fun addr =>
        (callback, ⟨addr, .write, clk, clk, coreId⟩) := by
  induction sends with
  | nil => rfl
  | cons send rest induction =>
      obtain ⟨addr, accepted⟩ := send
      rw [List.map_cons, tells, induction]
      cases accepted <;> simp [acceptedOf]

end Wire

/-! ## What a method comes to -/

namespace Begun

def written : Begun γ → Option γ
  | .writes _ _ callback _ => some callback
  | _ => none

def tells {engine : Engine (CppCallback (ReadWrap γ))} (mem : MemorySystem engine) :
    Begun γ → List (γ × RequestInfo)
  | .dispatch events _ => events.map Session.invocation
  | .writes addrs coreId callback _ =>
      addrs.map fun addr => (callback, mem.writeInfo addr coreId)
  | _ => []

def result : Begun γ → Except PyError MemoryValue
  | .raised error => .error error
  | .returned value | .writes _ _ _ value => .ok value
  | .dispatch _ ending => .ok ending.result

end Begun

namespace MemoryValue

def accepted : MemoryValue → Bool
  | .flag accepted => accepted
  | _ => false

end MemoryValue

theorem Wire.accepted_length {c : Type} (segment : List (Wire c)) :
    (accepted segment).length = (segment.map value).countP MemoryValue.accepted := by
  induction segment with
  | nil => rfl
  | cons passed rest induction =>
      rw [← List.singleton_append, accepted_append, List.length_append, induction,
        List.map_append, List.countP_append]
      rcases passed with ⟨request, _ | _⟩ | served <;> rfl

def MemoryOp.summary : MemoryOp γ → List MemoryValue → MemoryValue
  | .send .., values => .flag ((values.map MemoryValue.accepted).headD false)
  | .sendBatch .., values | .sendRange .., values =>
      .flags (values.map MemoryValue.accepted)
  | .drive .., values | .driveRange .., values =>
      .count (values.countP MemoryValue.accepted)
  | _, values => .count values.length

/-- The addresses of a range can be computed, and `run` is not asked to go back. -/
def MemoryOp.Sensible (cacheline : Int) : MemoryOp γ → Prop
  | .sendRange start count stride _ _ _ | .driveRange start count stride _ _ _ _ =>
      ∀ index : Nat, index < count → FitsLong (start + index * stride.getD cacheline)
  | .run cycles => 0 ≤ cycles
  | _ => True

variable {engine : Engine (CppCallback (ReadWrap γ))}

/-- While a method did its first part, `segment` passed, and that is all it did. -/
structure MemoryOp.Unrolls (op : MemoryOp γ) (mem : MemorySystem engine)
    (result : Begun γ × MemorySystem engine)
    (segment : List (Wire (CppCallback (ReadWrap γ)))) : Prop where
  trace : engine.Traced mem.impl.mem segment result.2.impl.mem
  wire : result.2.impl.wire = mem.impl.wire ++ segment
  silent : result.2.impl.completed = []
  single : ∀ request accepted, .sent request accepted ∈ segment →
    request.Single mem.numCores
  tells : result.1.tells result.2 = Wire.tells result.1.written mem.clk segment
  result : ∀ value, result.1.result = .ok value →
    value = op.summary (segment.map Wire.value)

namespace MemoryOp

open PyMemorySystem (Covers)

section

variable {mem : MemorySystem engine} {op : MemoryOp γ}

theorem Unrolls.raised (silent : mem.impl.completed = []) (error : PyError)
    {cached : MemorySystem engine} (impl : cached.impl = mem.impl) :
    Unrolls op mem (.raised error, cached) [] where
  trace := by rw [impl]; exact .nil _
  wire := by rw [impl, List.append_nil]
  silent := by rw [impl, silent]
  single := by simp
  tells := rfl
  result value impossible := by cases impossible

theorem Unrolls.dispatched (silent : mem.impl.completed = [])
    {before done : PyMemorySystem engine}
    {segment : List (Wire (CppCallback (ReadWrap γ)))}
    (covers : Covers before done segment)
    (same : before.mem = mem.impl.mem ∧ before.wire = mem.impl.wire ∧
      before.completed = mem.impl.completed)
    {ending : Ending} {cached : MemorySystem engine}
    (impl : cached.impl = { done with completed := [] })
    (single : ∀ request accepted, .sent request accepted ∈ segment →
      request.Single mem.numCores)
    (result : ending.result = op.summary (segment.map Wire.value)) :
    Unrolls op mem (.dispatch done.completed ending, cached) segment where
  trace := by
    rw [impl, ← same.1]
    exact covers.trace
  wire := by rw [impl, ← same.2.1, ← covers.wire]
  silent := by rw [impl]
  single := single
  tells := by
    have recorded := covers.completed
    rw [same.2.2, silent, List.nil_append] at recorded
    simp only [Begun.tells, Begun.written, Wire.tells_none, recorded]
  result value returned := by rw [← Except.ok.inj returned, result]

theorem Unrolls.issues {cacheline : Int} {addrs reach : List Int} {type : RequestType}
    {coreId : Int} {callback : Option γ} {value : List Bool → MemoryValue}
    {sends : List (Int × Bool)} {result : Begun γ × MemorySystem engine}
    (silent : mem.impl.completed = [])
    (issues : MemorySystem.Issues cacheline mem addrs reach type coreId
      callback value result
      sends)
    (fits : ∀ addr ∈ reach, FitsLong addr)
    (summary : value (sends.map Prod.snd) =
      op.summary (sends.map fun send => .flag send.2)) :
    Unrolls op mem result (sends.map fun send =>
      .sent ⟨send.1, type, coreId,
        PyMemorySystem.makeCallback type (callback.map ReadWrap.mk) coreId⟩ send.2) where
  trace := by
    have passes : PyMemorySystem.Passes (fun _ => True) mem.impl result.2.impl :=
      issues.sending.passes fun _ _ => trivial
    obtain ⟨segment, covers, -⟩ := passes.covers
    obtain rfl := List.append_cancel_left (covers.wire.symm.trans issues.sending.wire)
    exact covers.trace
  wire := issues.sending.wire
  silent := issues.sending.completed.trans silent
  single request accepted member := by
    obtain ⟨send, sent, same⟩ := List.mem_map.mp member
    obtain ⟨rfl, -⟩ := Wire.sent.inj same
    have reached := issues.reached
    have nonempty : sends.map Prod.fst ≠ [] := by
      rw [ne_eq, List.map_eq_nil_iff]
      exact List.ne_nil_of_mem sent
    split at reached
    · rename_i checked
      refine ⟨fits _ (reached ▸ List.mem_map_of_mem sent), checked.1, checked.2, ?_⟩
      cases type <;> cases callback <;> rfl
    · exact absurd reached nonempty
  tells := by
    rcases issues.result with ⟨error, raised⟩ | ⟨-, ended⟩
    · simp only [raised, Begun.written, Wire.tells_none, Wire.served_sends]
      rfl
    · rw [ended]
      split
      · rename_i write
        subst write
        cases callback with
        | none =>
            simp only [MemorySystem.fireWrites, Begun.written, Wire.tells_none,
              Wire.served_sends]
            rfl
        | some userCb =>
            have told := Wire.tells_writes userCb coreId mem.clk sends
            simp only [MemorySystem.fireWrites, Begun.written, Begun.tells,
              MemorySystem.writeInfo, issues.clk]
            exact told.symm
      · simp only [Begun.written, Wire.tells_none, Wire.served_sends]
        rfl
  result told returned := by
    rw [Wire.value_sends, ← summary]
    rcases issues.result with ⟨error, raised⟩ | ⟨-, ended⟩
    · rw [raised] at returned
      cases returned
    · rw [ended] at returned
      split at returned
      · cases callback <;> exact (Except.ok.inj returned).symm
      · exact (Except.ok.inj returned).symm

variable [DecidableEq γ]

/-- Nothing was done, or cycles were run and what was recorded is dispatched. -/
def Ran (op : MemoryOp γ) (mem : MemorySystem engine) : Prop :=
  (∃ error, op.begin mem = (.raised error, mem)) ∨ ∃ done ending cached,
    PyMemorySystem.Passes (fun _ => False) mem.impl done ∧
      op.begin mem = (.dispatch done.completed ending, cached) ∧
        cached.impl = { done with completed := [] }

theorem Unrolls.advanced (silent : mem.impl.completed = [])
    (advances : op.advances = true) (forward : op.backward = 0)
    (summary : ∀ values, op.summary values = .count (values.length : Nat))
    (ran : op.Ran mem) : ∃ segment, Unrolls op mem (op.begin mem) segment := by
  have reports := (op.counts mem).reports advances forward
  rcases ran with ⟨error, begun⟩ | ⟨done, ending, cached, passes, begun, impl⟩
  · exact ⟨[], begun ▸ .raised silent error rfl⟩
  · obtain ⟨segment, covers, noneAccepted⟩ := passes.covers
    rw [begun] at reports ⊢
    refine ⟨segment, .dispatched silent covers ⟨rfl, rfl, rfl⟩ impl ?_ ?_⟩
    · exact fun request accepted member => (noneAccepted request accepted member).elim
    · have all : Wire.ticks segment = segment.length := by
        rw [Wire.ticks, List.countP_eq_length]
        rintro (⟨request, accepted⟩ | served) member
        · exact (noneAccepted request accepted member).elim
        · rfl
      have ticks : cached.impl.ticks = mem.impl.ticks + segment.length := by
        have wire : cached.impl.wire = mem.impl.wire ++
            segment := by rw [impl, covers.wire]
        rw [PyMemorySystem.ticks_eq, PyMemorySystem.ticks_eq, wire,
          Wire.ticks_append, all]
      rw [summary, List.length_map]
      refine Eq.trans reports ?_
      apply congrArg
      change (cached.impl.ticks : Int) - _ = _
      omega

theorem Ran.progress {result : PyMemorySystem.Progress engine}
    (begun : op.begin mem = mem.progress result)
    (ran : (∃ error, result = (.error error, mem.impl)) ∨ ∃ cycles done,
      PyMemorySystem.Passes (fun _ => False) mem.impl done ∧
        result = PyMemorySystem.finish cycles done) : op.Ran mem := by
  rcases ran with ⟨error, rfl⟩ | ⟨cycles, done, passes, rfl⟩
  · exact .inl ⟨error, begun⟩
  · exact .inr ⟨done, _, _, passes, begun, rfl⟩

theorem Ran.runUntilIdle (begun : op.begin mem = mem.runUntilIdle maxCycles) :
    op.Ran mem := by
  apply Ran.progress begun
  unfold PyMemorySystem.runUntilIdle
  split
  · exact .inr ⟨_, _, PyMemorySystem.idleLoop_passes _ mem.impl maxCycles.toNat, rfl⟩
  · exact .inl ⟨_, rfl⟩

omit [DecidableEq γ] in
theorem Unrolls.driven (silent : mem.impl.completed = []) (cores : 1 ≤ mem.numCores)
    {cached : MemorySystem engine} {addr : Nat → Int}
    {total queueDepth batch maxCycles : Int} {callback : Option γ}
    (fits : ∀ index : Nat, index < total → FitsLong (addr index))
    (summary : ∀ values,
      op.summary values = .count (values.countP MemoryValue.accepted : Nat)) :
    ∃ segment,
      Unrolls op mem (cached.driven (mem.impl.driveLoop addr total queueDepth batch
      maxCycles (callback.map ReadWrap.mk))) segment := by
  rcases mem.impl.driveLoop_cases addr total queueDepth batch maxCycles
    (callback.map ReadWrap.mk) with ⟨error, refused⟩ | ⟨-, positive, ran⟩
  · rw [refused]
    exact ⟨[], .raised silent error rfl⟩
  · obtain ⟨segment, drove⟩ := mem.impl.driveLoops_issues addr total queueDepth batch
      maxCycles positive (callback.map ReadWrap.mk)
    rw [ran]
    refine ⟨segment, .dispatched silent drove.covers ⟨rfl, rfl, rfl⟩ rfl ?_ ?_⟩
    · intro request accepted member
      obtain ⟨index, below, rfl⟩ := drove.own request accepted member
      have zero : FitsInt 0 := by decide
      refine ⟨fits index below, ⟨le_refl _, Int.lt_of_lt_of_le Int.zero_lt_one cores⟩,
        zero, ?_⟩
      cases callback <;> rfl
    · have issued := drove.issued
      rw [summary]
      refine congrArg (fun count : Nat => MemoryValue.count count) ?_
      rw [← issued, Wire.accepted_length]
      exact Nat.zero_add _

theorem addr_fits {addrs : List Int} (all : ∀ addr ∈ addrs, FitsLong addr) (index : Nat) :
    FitsLong (addrs.getD index 0) := by
  rw [List.getD_eq_getElem?_getD]
  cases found : addrs[index]? with
  | none =>
      have zero : FitsLong 0 := by decide
      exact zero
  | some addr => exact all addr (List.mem_of_getElem? found)

end

theorem unrolls [DecidableEq γ] {cacheline : Int} {mem : MemorySystem engine}
    (stable : mem.Stable cacheline) (silent : mem.impl.completed = [])
    (cores : 1 ≤ mem.numCores) (op : MemoryOp γ) (sensible : op.Sensible cacheline) :
    ∃ segment, op.Unrolls mem (op.begin mem) segment := by
  have reaching (addrs : List Int) (addr : Int)
      (member : addr ∈ PyMemorySystem.reaching addrs) :
      FitsLong addr := by
    have fits := List.mem_takeWhile_imp member
    simpa using fits
  have flags (sends : List (Int × Bool)) :
      (sends.map fun send => MemoryValue.flag send.2).map MemoryValue.accepted =
        sends.map Prod.snd := by
    rw [List.map_map]
    rfl
  cases op with
  | send addr type coreId callback =>
      obtain ⟨sends, issues⟩ := MemorySystem.send_issues stable addr type coreId callback
      refine ⟨_, .issues silent issues (reaching [addr]) ?_⟩
      rw [summary, flags]
  | sendBatch addrs type coreId callback =>
      obtain ⟨sends, issues⟩ :=
        MemorySystem.sendBatch_issues stable addrs type coreId callback
      refine ⟨_, .issues silent issues (reaching addrs) ?_⟩
      rw [summary, flags]
  | sendRange start count stride type coreId callback =>
      obtain ⟨sends, issues⟩ :=
        MemorySystem.sendRange_issues stable start count stride type coreId callback
      refine ⟨_, .issues silent issues (fun addr member => ?_) ?_⟩
      · split at member
        · obtain ⟨index, below, rfl⟩ := List.mem_map.mp member
          have bound := List.mem_range.mp below
          exact sensible index (by omega)
        · cases member
      · rw [summary, flags]
  | tick =>
      refine Unrolls.advanced silent rfl rfl (fun _ => rfl)
        (.inr ⟨mem.impl.tick, .tick, _, ?_, rfl, rfl⟩)
      exact .ticked mem.impl
  | run cycles =>
      have forward : (run cycles : MemoryOp γ).backward = 0 :=
        if_neg fun both => absurd sensible (not_le.mpr both.2)
      refine Unrolls.advanced silent rfl forward (fun _ => rfl) (.progress rfl ?_)
      unfold PyMemorySystem.run
      split
      · exact .inr ⟨_, _, PyMemorySystem.iterate_passes _ mem.impl cycles.toNat, rfl⟩
      · exact .inl ⟨_, rfl⟩
  | tickUntilProgress maxCycles =>
      refine Unrolls.advanced silent rfl rfl (fun _ => rfl) ?_
      by_cases small : maxCycles < 1
      · exact .inl ⟨_, if_pos small⟩
      · refine .progress (if_neg small) ?_
        unfold PyMemorySystem.runUntilProgress
        split
        · exact .inr
            ⟨_, _, PyMemorySystem.progressLoop_passes _ mem.impl maxCycles.toNat, rfl⟩
        · exact .inl ⟨_, rfl⟩
  | runUntilIdle maxCycles =>
      exact Unrolls.advanced silent rfl rfl (fun _ => rfl) (.runUntilIdle rfl)
  | flush maxCycles =>
      exact Unrolls.advanced silent rfl rfl (fun _ => rfl) (.runUntilIdle rfl)
  | drive addrs queueDepth batch maxCycles callback =>
      obtain ⟨wrap, -, impl⟩ := MemorySystem.readCb_stable stable callback
      simp only [begin, MemorySystem.drive, PyMemorySystem.drive, impl, wrap]
      split
      · split
        · rename_i all
          exact Unrolls.driven silent cores (fun index _ => addr_fits all index) fun _ =>
            rfl
        · exact ⟨[], .raised silent _ rfl⟩
      · exact ⟨[], .raised silent _ rfl⟩
  | driveRange start count stride queueDepth batch maxCycles callback =>
      obtain ⟨wrap, -, impl⟩ := MemorySystem.readCb_stable stable callback
      simp only [begin, MemorySystem.driveRange, PyMemorySystem.driveRange, impl, wrap,
        stable.cacheline]
      split
      · exact Unrolls.driven silent cores sensible fun _ => rfl
      · exact ⟨[], .raised silent _ rfl⟩

end MemoryOp

end Pyramulator
