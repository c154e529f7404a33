import Pyramulator.Memory.Cycles
import Pyramulator.Memory.DriveRuns
import Pyramulator.Memory.Sending

namespace Pyramulator

/-! Every method sends requests of its own and ticks, and does nothing else to the
engine. -/

namespace PyMemorySystem

variable {π : Type} {engine : Engine (CppCallback π)}

/-- Ticks, and requests that are asked for, lead from one state to another. -/
inductive Passes (asks : Request (CppCallback π) → Prop) :
    PyMemorySystem engine → PyMemorySystem engine → Prop
  | refl (sys : PyMemorySystem engine) : Passes asks sys sys
  | sent (sys : PyMemorySystem engine) (request : Request (CppCallback π))
      (asked : asks request) : Passes asks sys (sys.sendRequest request).2
  | ticked (sys : PyMemorySystem engine) : Passes asks sys sys.tick
  | trans {before middle after : PyMemorySystem engine}
      (first : Passes asks before middle) (second : Passes asks middle after) :
      Passes asks before after

namespace Passes

variable {asks : Request (CppCallback π) → Prop}
  {before after : PyMemorySystem engine}

theorem wire (passes : Passes asks before after) :
    ∃ segment, after.wire = before.wire ++ segment ∧
      ∀ request accepted, .sent request accepted ∈ segment → asks request := by
  induction passes with
  | refl sys => exact ⟨[], by simp⟩
  | sent sys request asked =>
      refine ⟨_, rfl, fun other accepted member => ?_⟩
      obtain ⟨rfl, -⟩ := Wire.sent.inj (List.mem_singleton.mp member)
      exact asked
  | ticked sys => exact ⟨[.ticked (engine.tick sys.mem).1], by simp [tick_eq]⟩
  | trans _ _ one other =>
      obtain ⟨first, begun, mine⟩ := one
      obtain ⟨second, ended, yours⟩ := other
      refine ⟨first ++ second, by rw [ended, begun, List.append_assoc], ?_⟩
      intro request accepted member
      exact (List.mem_append.mp member).elim (mine request accepted)
        (yours request accepted)

theorem effect (passes : Passes asks before after) (ledger : engine.Ledger) :
    ∃ segment, Effect ledger before after segment := by
  induction passes with
  | refl sys => exact ⟨[], .refl sys⟩
  | sent sys request asked => exact ⟨_, sendRequest_effect ledger sys request⟩
  | ticked sys => exact ⟨_, tick_effect ledger sys⟩
  | trans _ _ one other =>
      obtain ⟨first, begun⟩ := one
      obtain ⟨second, ended⟩ := other
      exact ⟨_, begun.trans ended⟩

end Passes

theorem Sending.passes {proto : Int → Request (CppCallback π)}
    {before after : PyMemorySystem engine} {addrs : List Int} {sends : List (Int × Bool)}
    (sending : Sending proto before after addrs sends)
    {asks : Request (CppCallback π) → Prop}
    (asked : sends ≠ [] → ∀ addr, asks (proto addr)) :
    Passes asks before after := by
  induction sending with
  | none_ sys addrs => exact .refl sys
  | @cons sys _ addr _ _ _ induction =>
      have mine := asked (List.cons_ne_nil _ _)
      exact .trans (.sent sys (proto addr) (mine addr)) (induction fun _ => mine)

section

variable (asks : Request (CppCallback π) → Prop) (sys : PyMemorySystem engine)

theorem iterate_passes (count : Nat) : Passes asks sys (tick^[count] sys) := by
  induction count with
  | zero => exact .refl sys
  | succ count induction =>
      rw [Function.iterate_succ_apply']
      exact induction.trans (.ticked _)

theorem idleLoop_passes (left : Nat) : Passes asks sys (sys.idleLoop left).2 := by
  induction left generalizing sys with
  | zero => exact .refl sys
  | succ left induction =>
      unfold idleLoop
      split
      · exact .trans (.ticked sys) (induction sys.tick)
      · exact .refl sys

theorem progressLoop_passes (left : Nat) : Passes asks sys (sys.progressLoop left).2 := by
  induction left generalizing sys with
  | zero => exact .refl sys
  | succ left induction =>
      unfold progressLoop
      simp only
      split
      · exact .ticked sys
      · exact .trans (.ticked sys) (induction sys.tick)

end

end PyMemorySystem

namespace Drive

open PyMemorySystem (Passes)

variable {π : Type} {engine : Engine (CppCallback π)}
  {asks : Request (CppCallback π) → Prop} (drive : Drive engine)

section

variable {request : Nat → Request (CppCallback π)} (asked : ∀ index, asks (request index))

include asked

theorem fill_passes (queueDepth : Int) (left : Nat) :
    Passes asks drive.sys (drive.fill request queueDepth left).sys := by
  induction left generalizing drive with
  | zero => exact .refl _
  | succ left induction =>
      unfold fill
      split
      · have sent := Passes.sent drive.sys (request drive.issued) (asked drive.issued)
        simp only
        split
        · have more := induction { drive with
            sys := (drive.sys.sendRequest (request drive.issued)).2
            issued := drive.issued + 1 }
          exact sent.trans more
        · exact sent
      · exact .refl _

omit asked in
theorem tickBatch_passes (total maxCycles : Int) (left : Nat) :
    Passes asks drive.sys (drive.tickBatch total maxCycles left).sys := by
  induction left generalizing drive with
  | zero => exact .refl _
  | succ left induction =>
      unfold tickBatch
      split
      · exact .trans (.ticked drive.sys) (induction drive.tick)
      · exact .refl _

theorem rounds_passes (total queueDepth batch maxCycles : Int) (positive : 1 ≤ batch) :
    Passes asks drive.sys
      (drive.rounds request total queueDepth batch maxCycles positive).sys := by
  fun_induction Drive.rounds with
  | case1 drive guard induction =>
      have filled := drive.fill_passes asked queueDepth (total - drive.issued).toNat
      exact (filled.trans (tickBatch_passes _ total maxCycles batch.toNat)).trans
        induction
  | case2 drive guard => exact .refl _

omit asked in
theorem drain_passes (left : Nat) : Passes asks drive.sys (drive.drain left).sys := by
  induction left generalizing drive with
  | zero => exact .refl _
  | succ left induction =>
      unfold drain
      split
      · exact .trans (.ticked drive.sys) (induction drive.tick)
      · exact .refl _

end

end Drive

theorem PyMemorySystem.driveLoops_passes {π : Type} {engine : Engine (CppCallback π)}
    (sys : PyMemorySystem engine) (addr : Nat → Int)
    (total queueDepth batch maxCycles : Int) (positive : 1 ≤ batch) (callback : Option π)
    {asks : Request (CppCallback π) → Prop}
    (asked : ∀ index, asks (sys.driveRequest addr callback index)) :
    Passes asks sys.driveStart.sys
      (sys.driveLoops addr total queueDepth batch maxCycles positive callback).sys :=
  (Drive.rounds_passes _ asked total queueDepth batch maxCycles positive).trans
    (Drive.drain_passes _ _)

def PyMemorySystem.passed {π : Type} {engine : Engine (CppCallback π)}
    (before after : PyMemorySystem engine) : List (Wire (CppCallback π)) :=
  after.wire.drop before.wire.length

def Begun.events {γ : Type} : Begun γ → List (CompletionEvent (ReadWrap γ))
  | .dispatch events _ => events
  | _ => []

def acceptedOf (sends : List (Int × Bool)) : List Int :=
  (sends.filter Prod.snd).map Prod.fst

theorem Wire.accepted_sends {c : Type} (proto : Int → Request c)
    (sends : List (Int × Bool)) :
    accepted (sends.map fun send => .sent (proto send.1) send.2) =
      (acceptedOf sends).map proto := by
  induction sends with
  | nil => rfl
  | cons send rest induction =>
      obtain ⟨addr, ok⟩ := send
      rw [List.map_cons, ← List.singleton_append, accepted_append, induction,
        accepted_sent]
      cases ok <;> simp [acceptedOf]

namespace MemorySystem

open PyMemorySystem (Sending makeCallback)

variable {γ : Type} {engine : Engine (CppCallback (ReadWrap γ))}

/-- How far a method comes that sends requests: it raises, or it has the accept
flags, and the accepted writes are still to be answered. -/
structure Issues (cacheline : Int) (mem : MemorySystem engine) (addrs reach : List Int)
    (type : RequestType) (coreId : Int) (callback : Option γ)
    (value : List Bool → MemoryValue) (result : Begun γ × MemorySystem engine)
    (sends : List (Int × Bool)) : Prop where
  clk : result.2.clk = mem.clk
  stable : result.2.Stable cacheline
  sending : Sending (fun addr => ⟨addr, type, coreId,
    makeCallback type (callback.map ReadWrap.mk) coreId⟩) mem.impl
      result.2.impl addrs sends
  reached : sends.map Prod.fst =
    if (0 ≤ coreId ∧ coreId < mem.numCores) ∧ FitsInt coreId then reach else []
  /-- What raises after it sent requests has not sent them all. -/
  cut : ∀ error, result.1 = .raised error → sends ≠ [] → sends.map Prod.fst ≠ addrs
  result : (∃ error, result.1 = .raised error) ∨ sends.map Prod.fst = addrs ∧
    result.1 = if type = .write then
        fireWrites (acceptedOf sends) coreId callback (value (sends.map Prod.snd))
      else .returned (value (sends.map Prod.snd))

section

variable {cacheline : Int} {mem : MemorySystem engine} {addrs : List Int}
  {reach : List Int} {type : RequestType} {coreId : Int} {callback : Option γ}
  {value : List Bool → MemoryValue} {sends : List (Int × Bool)}

theorem checkCoreId_ok (ok : mem.checkCoreId coreId = .ok ()) :
    0 ≤ coreId ∧ coreId < mem.numCores := by
  unfold checkCoreId at ok
  split at ok
  · assumption
  · cases ok

theorem checkCoreId_error {error : PyError}
    (raised : mem.checkCoreId coreId = .error error) :
    ¬ (0 ≤ coreId ∧ coreId < mem.numCores) := by
  unfold checkCoreId at raised
  split at raised
  · cases raised
  · assumption

theorem acceptedOf_zip {flags : List Bool} (length : flags.length = addrs.length) :
    acceptedOf (addrs.zip flags) = acceptedAddrs addrs flags ∧
      (addrs.zip flags).map Prod.fst = addrs ∧
        (addrs.zip flags).map Prod.snd = flags := by
  refine ⟨?_, List.map_fst_zip length.ge, List.map_snd_zip length.le⟩
  rw [acceptedOf, acceptedAddrs, ← List.filterMap_eq_map, List.filterMap_filter]
  refine List.filterMap_congr fun send _ => ?_
  obtain ⟨addr, accepted⟩ := send
  cases accepted <;> rfl

namespace Issues

theorem checked {result : Begun γ × MemorySystem engine}
    (issues : Issues cacheline mem addrs reach type coreId callback value result sends)
    (nonempty : sends ≠ []) : 0 ≤ coreId ∧ coreId < mem.numCores := by
  have reached := issues.reached
  split at reached
  · rename_i checked
    exact checked.1
  · exact absurd (List.map_eq_nil_iff.mp reached) nonempty

theorem accepted {result : Begun γ × MemorySystem engine}
    (issues : Issues cacheline mem addrs reach type coreId callback value result sends) :
    Wire.accepted (PyMemorySystem.passed mem.impl result.2.impl) =
      (acceptedOf sends).map fun addr => ⟨addr, type, coreId,
        makeCallback type (callback.map ReadWrap.mk) coreId⟩ := by
  rw [PyMemorySystem.passed, issues.sending.wire, List.drop_left]
  exact Wire.accepted_sends (fun addr => ⟨addr, type, coreId,
    makeCallback type (callback.map ReadWrap.mk) coreId⟩) sends

theorem refused (stable : mem.Stable cacheline) {error : PyError}
    (raised : mem.checkCoreId coreId = .error error) :
    Issues cacheline mem addrs reach type coreId callback value (.raised error, mem)
      [] where
  clk := rfl
  stable := stable
  sending := .none_ _ _
  reached := by rw [if_neg fun both => checkCoreId_error raised both.1]; rfl
  result := .inl ⟨error, rfl⟩
  cut _ _ nonempty := absurd rfl nonempty

theorem raised {cached : MemorySystem engine} (clk : cached.clk = mem.clk)
    (stable : cached.Stable cacheline) {impl : PyMemorySystem engine}
    (sending : Sending (fun addr => ⟨addr, type, coreId,
      makeCallback type (callback.map ReadWrap.mk) coreId⟩) mem.impl impl addrs sends)
    (checked : 0 ≤ coreId ∧ coreId < mem.numCores)
    (reached : sends.map Prod.fst = if FitsInt coreId then reach else [])
    (error : PyError) (cut : sends ≠ [] → sends.map Prod.fst ≠ addrs) :
    Issues cacheline mem addrs reach type coreId callback value
      (.raised error, { cached with impl }) sends where
  clk := clk
  stable := stable.moved _ _
  sending := sending
  reached := by rw [reached]; exact if_congr (by simp [checked]) rfl rfl
  result := .inl ⟨error, rfl⟩
  cut _ _ := cut

theorem written (callback : Option γ) (value : List Bool → MemoryValue)
    (stable : mem.Stable cacheline) {impl : PyMemorySystem engine}
    (sending : Sending (fun addr => ⟨addr, .write, coreId,
      makeCallback .write none coreId⟩) mem.impl impl addrs sends)
    (checked : 0 ≤ coreId ∧ coreId < mem.numCores)
    (reached : sends.map Prod.fst = if FitsInt coreId then reach else [])
    (all : sends.map Prod.fst = addrs) :
    Issues cacheline mem addrs reach .write coreId callback value
      (fireWrites (acceptedOf sends) coreId callback (value (sends.map Prod.snd)),
        { mem with impl }) sends where
  clk := rfl
  stable := stable.moved _ _
  sending := sending
  reached := by rw [reached]; exact if_congr (by simp [checked]) rfl rfl
  result := .inr ⟨all, by rw [if_pos rfl]⟩
  cut error impossible := by
    unfold fireWrites at impossible
    split at impossible <;> cases impossible

theorem returned (value : List Bool → MemoryValue) {cached : MemorySystem engine}
    (clk : cached.clk = mem.clk)
    (stable : cached.Stable cacheline) {impl : PyMemorySystem engine}
    (sending : Sending (fun addr => ⟨addr, type, coreId,
      makeCallback type (callback.map ReadWrap.mk) coreId⟩) mem.impl impl addrs sends)
    (checked : 0 ≤ coreId ∧ coreId < mem.numCores)
    (reached : sends.map Prod.fst = if FitsInt coreId then reach else [])
    (all : sends.map Prod.fst = addrs) (notWrite : type ≠ .write) :
    Issues cacheline mem addrs reach type coreId callback value
      (.returned (value (sends.map Prod.snd)), { cached with impl }) sends where
  clk := clk
  stable := stable.moved _ _
  sending := sending
  reached := by rw [reached]; exact if_congr (by simp [checked]) rfl rfl
  result := .inr ⟨all, by rw [if_neg notWrite]⟩
  cut error impossible := by cases impossible

end Issues

variable [DecidableEq γ]

def batchType : RequestType → RequestType
  | .write => .write
  | _ => .read

theorem send_issues (stable : mem.Stable cacheline) (addr : Int) (type : RequestType)
    (coreId : Int) (callback : Option γ) :
    ∃ sends, Issues cacheline mem [addr]
      (PyMemorySystem.reaching [addr]) type coreId callback
      (fun flags => .flag (flags.headD false))
        (mem.send addr type coreId callback) sends := by
  obtain ⟨wrap, cached, impl⟩ := readCb_stable stable callback
  have clk := (mem.readCb_impl callback).2
  unfold MemorySystem.send
  split
  · rename_i raised
    exact ⟨[], .refused stable raised⟩
  · rename_i checked
    have checked := checkCoreId_ok checked
    split
    · rename_i write
      subst write
      obtain ⟨sends, sending, reached, answered, cut⟩ :=
        mem.impl.send_sending addr .write coreId none
      generalize mem.impl.send addr .write coreId none = answer at sending answered cut
      rcases answer with ⟨error | accepted, after⟩
      · exact ⟨sends, .raised rfl stable sending checked reached error
          fun nonempty => absurd (cut error rfl) nonempty⟩
      · obtain rfl := answered accepted rfl
        have written := Issues.written callback
          (fun flags => .flag (flags.headD false)) stable sending checked reached rfl
        refine ⟨[(addr, accepted)], ?_⟩
        cases accepted <;> exact written
    · rename_i notWrite
      simp only
      rw [wrap]
      generalize mem.readCb callback = cache at cached impl clk
      rcases cache with ⟨_, cache⟩
      obtain ⟨sends, sending, reached, answered, cut⟩ :=
        mem.impl.send_sending addr type coreId (callback.map ReadWrap.mk)
      simp only at impl
      simp only [impl]
      generalize mem.impl.send addr type coreId (callback.map ReadWrap.mk) = answer
        at sending answered cut
      rcases answer with ⟨error | accepted, after⟩
      · exact ⟨sends, .raised clk cached sending checked reached error
          fun nonempty => absurd (cut error rfl) nonempty⟩
      · obtain rfl := answered accepted rfl
        exact ⟨_, .returned _ clk cached sending checked reached rfl notWrite⟩

theorem sendBatch_issues (stable : mem.Stable cacheline) (addrs : List Int)
    (type : RequestType) (coreId : Int) (callback : Option γ) :
    ∃ sends, Issues cacheline mem addrs (PyMemorySystem.reaching addrs) (batchType type)
      coreId callback .flags
      (mem.sendBatch addrs type coreId callback) sends := by
  obtain ⟨wrap, cached, impl⟩ := readCb_stable stable callback
  have clk := (mem.readCb_impl callback).2
  unfold MemorySystem.sendBatch
  split
  · rename_i raised
    exact ⟨[], .refused stable raised⟩
  · rename_i checked
    have checked := checkCoreId_ok checked
    split
    · rename_i write
      subst write
      obtain ⟨sends, sending, reached, answered, cut⟩ :=
        mem.impl.sendBatch_sending addrs .write coreId none
      generalize mem.impl.sendBatch addrs .write coreId none =
        answer at sending answered cut
      rcases answer with ⟨error | flags, after⟩
      · exact ⟨sends, .raised rfl stable sending checked reached error (cut error rfl)⟩
      · obtain ⟨rfl, length⟩ := answered flags rfl
        obtain ⟨same, fst, snd⟩ := acceptedOf_zip length
        have written := Issues.written callback .flags
          stable sending checked reached fst
        rw [same, snd] at written
        exact ⟨_, written⟩
    · rename_i notWrite
      have read : batchType type = .read := by cases type <;> first | rfl | contradiction
      rw [read]
      simp only
      rw [wrap]
      generalize mem.readCb callback = cache at cached impl clk
      rcases cache with ⟨_, cache⟩
      obtain ⟨sends, sending, reached, answered, cut⟩ :=
        mem.impl.sendBatch_sending addrs .read coreId (callback.map ReadWrap.mk)
      simp only at impl
      simp only [impl]
      generalize mem.impl.sendBatch addrs .read coreId (callback.map ReadWrap.mk) = answer
        at sending answered cut
      rcases answer with ⟨error | flags, after⟩
      · exact ⟨sends, .raised clk cached sending checked reached error (cut error rfl)⟩
      · obtain ⟨rfl, length⟩ := answered flags rfl
        obtain ⟨-, fst, snd⟩ := acceptedOf_zip length
        have returned := Issues.returned .flags clk cached sending checked reached fst
          (by decide)
        rw [snd] at returned
        exact ⟨_, returned⟩

theorem range_addrs (start stride : Int) (count : Nat) :
    (((do let index ← List.range count; pure (index : Int)) : List Int).map
      fun index => start + index * stride) =
        PyMemorySystem.strided start stride count := by
  have cast : ((do let index ← List.range count; pure (index : Int)) : List Int) =
      (List.range count).map Nat.cast := List.map_eq_flatMap.symm
  rw [cast, List.map_map]
  rfl

theorem sendRange_issues (stable : mem.Stable cacheline) (start count : Int)
    (stride : Option Int) (type : RequestType) (coreId : Int) (callback : Option γ) :
    ∃ sends, Issues cacheline mem
      (PyMemorySystem.strided start (stride.getD cacheline) count.toNat)
      (if FitsLong start ∧ FitsLong count ∧ FitsLong (stride.getD cacheline) then
        PyMemorySystem.strided start (stride.getD cacheline) count.toNat else [])
      (batchType type) coreId callback .flags
          (mem.sendRange start count stride type coreId callback) sends := by
  obtain ⟨wrap, cached, impl⟩ := readCb_stable stable callback
  have clk := (mem.readCb_impl callback).2
  obtain rfl : mem.cacheline = cacheline := stable.cacheline
  generalize reaches : (if FitsLong start ∧ FitsLong count ∧
      FitsLong (stride.getD mem.cacheline) then PyMemorySystem.strided start
        (stride.getD mem.cacheline) count.toNat else []) = reach
  unfold MemorySystem.sendRange
  simp only
  split
  · rename_i raised
    exact ⟨[], .refused stable raised⟩
  · rename_i checked
    have checked := checkCoreId_ok checked
    split
    · rename_i write
      subst write
      obtain ⟨sends, sending, reached, answered, cut⟩ :=
        mem.impl.sendRange_sending start count
        (stride.getD mem.cacheline) .write coreId none
      rw [reaches] at reached
      generalize mem.impl.sendRange start count (stride.getD mem.cacheline)
        .write coreId none =
        answer at sending answered cut
      rcases answer with ⟨error | flags, after⟩
      · exact ⟨sends, .raised rfl stable sending checked reached error
          fun nonempty => absurd (cut error rfl) nonempty⟩
      · obtain ⟨rfl, length⟩ := answered flags rfl
        obtain ⟨same, fst, snd⟩ := acceptedOf_zip (PyMemorySystem.length_strided length)
        have written := Issues.written callback .flags
          stable sending checked reached fst
        rw [same, snd] at written
        simp only [length, range_addrs]
        exact ⟨_, written⟩
    · rename_i notWrite
      have read : batchType type = .read := by cases type <;> first | rfl | contradiction
      rw [read]
      generalize mem.readCb callback = cache at cached impl clk wrap
      rcases cache with ⟨_, cache⟩
      obtain ⟨sends, sending, reached, answered, cut⟩ :=
        mem.impl.sendRange_sending start count
        (stride.getD mem.cacheline) .read coreId (callback.map ReadWrap.mk)
      rw [reaches] at reached
      simp only at impl wrap
      simp only [impl, wrap]
      generalize mem.impl.sendRange start count (stride.getD mem.cacheline) .read coreId
        (callback.map ReadWrap.mk) = answer at sending answered cut
      rcases answer with ⟨error | flags, after⟩
      · exact ⟨sends, .raised clk cached sending checked reached error
          fun nonempty => absurd (cut error rfl) nonempty⟩
      · obtain ⟨rfl, length⟩ := answered flags rfl
        obtain ⟨-, fst, snd⟩ := acceptedOf_zip (PyMemorySystem.length_strided length)
        have returned := Issues.returned .flags clk cached sending checked reached fst
          (by decide)
        rw [snd] at returned
        exact ⟨_, returned⟩

end

def Handles (asks : Request (CppCallback (ReadWrap γ)) → Prop) (mem : MemorySystem engine)
    (result : Begun γ × MemorySystem engine) : Prop :=
  ∃ start done : PyMemorySystem engine, start.mem = mem.impl.mem ∧
    start.wire = mem.impl.wire ∧ start.completed = mem.impl.completed ∧
    PyMemorySystem.Passes asks start done ∧ result.2.impl.mem = done.mem ∧
    result.2.impl.wire = done.wire ∧
    done.completed = result.1.events ++ result.2.impl.completed

namespace Handles

variable {asks : Request (CppCallback (ReadWrap γ)) → Prop}
  {mem cached : MemorySystem engine}

theorem nothing {result : Begun γ × MemorySystem engine}
    (impl : result.2.impl = mem.impl) (events : result.1.events = []) :
    Handles asks mem result :=
  ⟨mem.impl, mem.impl, rfl, rfl, rfl, .refl _, by rw [impl], by rw [impl],
    by rw [impl, events, List.nil_append]⟩

theorem issues {cacheline : Int} {addrs reach : List Int} {type : RequestType}
    {coreId : Int}
    {callback : Option γ} {value : List Bool → MemoryValue} {sends : List (Int × Bool)}
    {result : Begun γ × MemorySystem engine}
    (issues : Issues cacheline mem addrs reach type coreId callback value result sends)
    (asked : 0 ≤ coreId ∧ coreId < mem.numCores → ∀ addr, asks ⟨addr, type, coreId,
      makeCallback type (callback.map ReadWrap.mk) coreId⟩) : Handles asks
        mem result := by
  have passes := issues.sending.passes fun nonempty => asked (issues.checked nonempty)
  refine ⟨mem.impl, result.2.impl, rfl, rfl, rfl, passes, rfl, rfl, ?_⟩
  have noEvents : result.1.events = [] := by
    rcases issues.result with ⟨error, raised⟩ | ⟨-, ended⟩
    · rw [raised]
      rfl
    · rw [ended]
      split
      · cases callback <;> rfl
      · rfl
  rw [noEvents, List.nil_append]

theorem dispatched {result : Begun γ × MemorySystem engine} {done : PyMemorySystem engine}
    (passes : PyMemorySystem.Passes asks mem.impl done)
    (events : result.1.events = done.completed)
    (impl : result.2.impl = { done with completed := [] }) : Handles asks mem result :=
  ⟨mem.impl, done, rfl, rfl, rfl, passes, by rw [impl], by rw [impl],
    by rw [impl, events, List.append_nil]⟩

theorem run (cycles : Int) : Handles asks mem (mem.run cycles) := by
  unfold MemorySystem.run PyMemorySystem.run
  split
  · exact .dispatched (PyMemorySystem.iterate_passes asks mem.impl cycles.toNat) rfl rfl
  · exact .nothing rfl rfl

theorem runUntilIdle (maxCycles : Int) :
    Handles asks mem (mem.runUntilIdle maxCycles) := by
  unfold MemorySystem.runUntilIdle PyMemorySystem.runUntilIdle
  split
  · exact .dispatched (PyMemorySystem.idleLoop_passes asks mem.impl maxCycles.toNat) rfl
      rfl
  · exact .nothing rfl rfl

theorem tickUntilProgress (maxCycles : Int) :
    Handles asks mem (mem.tickUntilProgress maxCycles) := by
  unfold MemorySystem.tickUntilProgress PyMemorySystem.runUntilProgress
  split
  · exact .nothing rfl rfl
  · split
    · exact .dispatched (PyMemorySystem.progressLoop_passes asks mem.impl maxCycles.toNat)
        rfl rfl
    · exact .nothing rfl rfl

theorem tick : Handles asks mem mem.tick :=
  .dispatched (.ticked mem.impl) rfl rfl

theorem driveLoop (addr : Nat → Int)
    (total queueDepth batch maxCycles : Int) (callback : Option (ReadWrap γ))
    (asked : ∀ index, asks (mem.impl.driveRequest addr callback index)) :
    Handles asks mem (cached.driven
      (mem.impl.driveLoop addr total queueDepth batch maxCycles callback)) := by
  rcases mem.impl.driveLoop_cases addr total queueDepth batch maxCycles callback with
    ⟨error, refused⟩ | ⟨-, positive, ran⟩
  · rw [refused]
    exact .nothing rfl rfl
  · rw [ran]
    have passes :=
      mem.impl.driveLoops_passes addr total queueDepth batch maxCycles positive
      callback asked
    refine ⟨mem.impl.driveStart.sys, _, rfl, rfl, rfl, passes, rfl, rfl, ?_⟩
    exact (List.append_nil
      (mem.impl.driveLoops addr total queueDepth batch maxCycles positive
      callback).sys.completed).symm

end Handles

end MemorySystem

namespace MemorySystem

variable {γ : Type} [DecidableEq γ] {engine : Engine (CppCallback (ReadWrap γ))}
  (mem : MemorySystem engine)

theorem readCb_numCores (callback : Option γ) :
    (mem.readCb callback).2.numCores = mem.numCores := by
  unfold readCb
  split
  · rfl
  · split <;> rfl

omit [DecidableEq γ] in
theorem progress_numCores (result : PyMemorySystem.Progress engine) :
    (mem.progress result).2.numCores = mem.numCores := by
  unfold progress
  split <;> rfl

omit [DecidableEq γ] in
theorem driven_numCores (result : PyMemorySystem.Driven engine) :
    (mem.driven result).2.numCores = mem.numCores := by
  unfold driven
  split <;> rfl

theorem begin_numCores (op : MemoryOp γ) : (op.begin mem).2.numCores = mem.numCores := by
  cases op with
  | send addr type coreId callback =>
      simp only [MemoryOp.begin, send]
      split
      · rfl
      · split
        · split <;> rfl
        · split <;> exact mem.readCb_numCores callback
  | sendBatch addrs type coreId callback =>
      simp only [MemoryOp.begin, sendBatch]
      split
      · rfl
      · split
        · split <;> rfl
        · split <;> exact mem.readCb_numCores callback
  | sendRange start count stride type coreId callback =>
      simp only [MemoryOp.begin, sendRange]
      split
      · rfl
      · split
        · split <;> rfl
        · split <;> exact mem.readCb_numCores callback
  | tick => rfl
  | run cycles => exact mem.progress_numCores _
  | tickUntilProgress maxCycles =>
      simp only [MemoryOp.begin, tickUntilProgress]
      split
      · rfl
      · exact mem.progress_numCores _
  | runUntilIdle maxCycles => exact mem.progress_numCores _
  | flush maxCycles => exact mem.progress_numCores _
  | drive addrs queueDepth batch maxCycles callback =>
      exact (driven_numCores _ _).trans (mem.readCb_numCores callback)
  | driveRange start count stride queueDepth batch maxCycles callback =>
      exact (driven_numCores _ _).trans (mem.readCb_numCores callback)

end MemorySystem

namespace MemoryOp

variable {γ : Type}

def Asked (numCores : Int) (type : RequestType) (coreId : Int) (callback : Option γ)
    (request : Request (CppCallback (ReadWrap γ))) : Prop :=
  (0 ≤ coreId ∧ coreId < numCores) ∧ request.type = type ∧ request.coreid = coreId ∧
    request.callback = PyMemorySystem.makeCallback type (callback.map ReadWrap.mk) coreId

def Driven (drives : Nat) (callback : Option γ)
    (request : Request (CppCallback (ReadWrap γ))) : Prop :=
  request.type = .read ∧ request.coreid = 0 ∧
    request.callback = .driven drives (callback.map ReadWrap.mk)

def Asks (numCores : Int) (drives : Nat) :
    MemoryOp γ → Request (CppCallback (ReadWrap γ)) → Prop
  | .send _ type coreId callback => Asked numCores type coreId callback
  | .sendBatch _ type coreId callback | .sendRange _ _ _ type coreId callback =>
      Asked numCores (MemorySystem.batchType type) coreId callback
  | .drive _ _ _ _ callback | .driveRange _ _ _ _ _ _ callback => Driven drives callback
  | _ => fun _ => False

variable [DecidableEq γ] {engine : Engine (CppCallback (ReadWrap γ))}

open MemorySystem (Handles)

theorem handles {cacheline : Int} {mem : MemorySystem engine}
    (stable : mem.Stable cacheline) (op : MemoryOp γ) :
    Handles (op.Asks mem.numCores mem.impl.drives) mem (op.begin mem) := by
  cases op with
  | send addr type coreId callback =>
      obtain ⟨sends, issues⟩ := MemorySystem.send_issues stable addr type coreId callback
      exact .issues issues fun checked _ => ⟨checked, rfl, rfl, rfl⟩
  | sendBatch addrs type coreId callback =>
      obtain ⟨sends, issues⟩ :=
        MemorySystem.sendBatch_issues stable addrs type coreId callback
      exact .issues issues fun checked _ => ⟨checked, rfl, rfl, rfl⟩
  | sendRange start count stride type coreId callback =>
      obtain ⟨sends, issues⟩ :=
        MemorySystem.sendRange_issues stable start count stride type coreId callback
      exact .issues issues fun checked _ => ⟨checked, rfl, rfl, rfl⟩
  | tick => exact .tick
  | run cycles => exact .run cycles
  | tickUntilProgress maxCycles => exact .tickUntilProgress maxCycles
  | runUntilIdle maxCycles => exact .runUntilIdle maxCycles
  | flush maxCycles => exact .runUntilIdle maxCycles
  | drive addrs queueDepth batch maxCycles callback =>
      obtain ⟨wrap, -, impl⟩ := MemorySystem.readCb_stable stable callback
      simp only [begin, MemorySystem.drive, PyMemorySystem.drive, impl, wrap]
      split
      · split
        · exact .driveLoop _ _ _ _ _ _ fun _ => ⟨rfl, rfl, rfl⟩
        · exact .nothing rfl rfl
      · exact .nothing rfl rfl
  | driveRange start count stride queueDepth batch maxCycles callback =>
      obtain ⟨wrap, -, impl⟩ := MemorySystem.readCb_stable stable callback
      simp only [begin, MemorySystem.driveRange, PyMemorySystem.driveRange, impl, wrap]
      split
      · exact .driveLoop _ _ _ _ _ _ fun _ => ⟨rfl, rfl, rfl⟩
      · exact .nothing rfl rfl

end MemoryOp

end Pyramulator
