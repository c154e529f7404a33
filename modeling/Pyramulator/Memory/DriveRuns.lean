import Pyramulator.Memory.DriveSpec
import Pyramulator.Memory.SessionRule

namespace Pyramulator

/-! Drives in the course of a session. -/

structure DriveArgs (γ : Type) where
  addr : Nat → Int
  total : Int
  queueDepth : Int
  batch : Int
  maxCycles : Int
  callback : Option γ

def MemoryOp.driveArgs {γ : Type} (cacheline : Int) :
    MemoryOp γ → Option (DriveArgs γ)
  | .drive addrs queueDepth batch maxCycles callback =>
      if FitsInt queueDepth ∧ FitsLong batch ∧ FitsLong maxCycles ∧
          ∀ addr ∈ addrs, FitsLong addr then
        some ⟨fun index => addrs.getD index 0, addrs.length, queueDepth, batch,
          maxCycles, callback⟩
      else none
  | .driveRange start count stride queueDepth batch maxCycles callback =>
      let stride := stride.getD cacheline
      if FitsLong start ∧ FitsLong count ∧ FitsLong stride ∧ FitsInt queueDepth ∧
          FitsLong batch ∧ FitsLong maxCycles then
        some ⟨fun index => start + index * stride, count, queueDepth, batch,
          maxCycles, callback⟩
      else none
  | _ => none

def Served.info {c : Type} (served : Served c) : RequestInfo where
  addr := served.request.addr
  type := served.request.type
  arriveCycle := served.arrive
  departCycle := served.depart
  coreId := served.request.coreid

namespace MemorySystem

variable {γ : Type} {engine : Engine (CppCallback (ReadWrap γ))}

/-- The wrapper in the cache of `_read_cb` is the one of the callback in it. -/
structure Stable (cacheline : Int) (mem : MemorySystem engine) : Prop where
  cacheline : mem.cacheline = cacheline
  wrap : mem.readCbWrap = mem.readCbSrc.map ReadWrap.mk

theorem readCb_stable [DecidableEq γ] {cacheline : Int} {mem : MemorySystem engine}
    (stable : mem.Stable cacheline) (callback : Option γ) :
    (mem.readCb callback).1 = callback.map ReadWrap.mk ∧
      (mem.readCb callback).2.Stable cacheline ∧
        (mem.readCb callback).2.impl = mem.impl := by
  unfold readCb
  split
  · exact ⟨rfl, stable, rfl⟩
  · split
    · rename_i cached
      exact ⟨by rw [stable.wrap, cached], stable, rfl⟩
    · exact ⟨rfl, ⟨stable.cacheline, rfl⟩, rfl⟩

namespace Stable

variable {cacheline : Int} {mem : MemorySystem engine}

theorem moved (stable : mem.Stable cacheline) (impl : PyMemorySystem engine)
    (clk : Int) : { mem with impl, clk }.Stable cacheline :=
  ⟨stable.cacheline, stable.wrap⟩

theorem progress (stable : mem.Stable cacheline)
    (progress : PyMemorySystem.Progress engine) :
    (mem.progress progress).2.Stable cacheline := by
  unfold MemorySystem.progress
  split
  · exact stable.moved _ _
  · exact stable.moved _ _

theorem driven (stable : mem.Stable cacheline)
    (driven : PyMemorySystem.Driven engine) :
    (mem.driven driven).2.Stable cacheline := by
  unfold MemorySystem.driven
  split
  · exact stable.moved _ _
  · exact stable.moved _ _

variable [DecidableEq γ]

theorem send (stable : mem.Stable cacheline) (addr : Int) (type : RequestType)
    (coreId : Int) (callback : Option γ) :
    (mem.send addr type coreId callback).2.Stable cacheline := by
  have cached := (readCb_stable stable callback).2.1
  unfold MemorySystem.send
  split
  · exact stable
  · split
    · split <;> exact stable.moved _ _
    · simp only
      split <;> exact cached.moved _ _

theorem sendBatch (stable : mem.Stable cacheline) (addrs : List Int)
    (type : RequestType) (coreId : Int) (callback : Option γ) :
    (mem.sendBatch addrs type coreId callback).2.Stable cacheline := by
  have cached := (readCb_stable stable callback).2.1
  unfold MemorySystem.sendBatch
  split
  · exact stable
  · split
    · split <;> exact stable.moved _ _
    · simp only
      split <;> exact cached.moved _ _

theorem sendRange (stable : mem.Stable cacheline) (start count : Int)
    (stride : Option Int) (type : RequestType) (coreId : Int)
    (callback : Option γ) :
    (mem.sendRange start count stride type coreId callback).2.Stable cacheline := by
  have cached := (readCb_stable stable callback).2.1
  unfold MemorySystem.sendRange
  simp only
  split
  · exact stable
  · split
    · split <;> exact stable.moved _ _
    · split <;> exact cached.moved _ _

theorem begin (stable : mem.Stable cacheline) (op : MemoryOp γ) :
    (op.begin mem).2.Stable cacheline := by
  cases op with
  | send => exact stable.send ..
  | sendBatch => exact stable.sendBatch ..
  | sendRange => exact stable.sendRange ..
  | tick => exact stable.moved _ _
  | run => exact stable.progress _
  | tickUntilProgress maxCycles =>
      simp only [MemoryOp.begin, MemorySystem.tickUntilProgress]
      split
      · exact stable
      · exact stable.progress _
  | runUntilIdle => exact stable.progress _
  | flush => exact stable.progress _
  | drive => exact (readCb_stable stable _).2.1.driven _
  | driveRange => exact (readCb_stable stable _).2.1.driven _

end Stable

end MemorySystem

def MemoryCall.Drains {γ : Type} {engine : Engine (CppCallback (ReadWrap γ))}
    (cacheline : Int) (call : MemoryCall engine) : Prop :=
  ∀ args, call.op.driveArgs cacheline = some args → 1 ≤ args.queueDepth →
    1 ≤ args.batch → ∃ segment, ∃ issued : Nat, ∃ events,
      call.begun = .dispatch events (.value (.count issued)) ∧
        call.after.wire = call.before.wire ++ segment ∧
          call.before.DriveSpec args.addr args.total args.queueDepth args.maxCycles
            (args.callback.map ReadWrap.mk) segment (Wire.ticks segment) issued events

namespace Session

variable {γ : Type} {engine : Engine (CppCallback (ReadWrap γ))}

/-- A drive that ended called the callbacks of its completions, those of its own
requests among them, and reported the requests it issued. -/
def Answers (session : Session engine) (cacheline : Int) (entry : Ended engine) :
    Prop :=
  ∀ args segment, entry.1.op.driveArgs cacheline = some args →
    1 ≤ args.queueDepth → 1 ≤ args.batch →
    entry.1.after.wire = entry.1.before.wire ++ segment →
      (∀ callback, args.callback = some callback →
        (((Wire.served segment).filter fun served =>
          served.request.callback.isOf entry.1.before.drives).map fun served =>
            (callback, served.info)).Sublist (entry.2.1.map invocation)) ∧
      (entry.2.1.map invocation).Sublist session.invocations ∧
      ∀ value, entry.2.2 = .ok value → value = .count (Wire.accepted segment).length

theorem own_reported {sys : PyMemorySystem engine} {addr : Nat → Int}
    {total queueDepth maxCycles : Int} {callback : γ}
    {segment : List (Wire (CppCallback (ReadWrap γ)))} {cycles issued : Nat}
    {events : List (CompletionEvent (ReadWrap γ))}
    (spec : sys.DriveSpec addr total queueDepth maxCycles (some ⟨callback⟩) segment
      cycles issued events) :
    (((Wire.served segment).filter fun served =>
      served.request.callback.isOf sys.drives).map fun served =>
        (callback, served.info)).Sublist (events.map invocation) := by
  have each : ∀ served ∈ (Wire.served segment).filter fun served =>
      served.request.callback.isOf sys.drives,
      served.recorded.map invocation = some (callback, served.info) := by
    intro served member
    obtain ⟨passed, named⟩ := List.mem_filter.mp member
    have issued := spec.own served passed named
    rw [spec.sends] at issued
    obtain ⟨index, -, request⟩ := List.mem_map.mp issued
    simp [Served.recorded, ← request, PyMemorySystem.driveRequest, invocation,
      Served.info, CompletionEvent.info]
  have recorded : ((Wire.served segment).filter fun served =>
      served.request.callback.isOf sys.drives).map (fun served =>
        (callback, served.info)) =
      (((Wire.served segment).filter fun served =>
        served.request.callback.isOf sys.drives).filterMap Served.recorded).map
          invocation := by
    rw [List.map_filterMap, List.filterMap_congr each, List.filterMap_eq_map']
  rw [recorded, spec.reported]
  refine List.Sublist.map _ (List.Sublist.trans ?_ (List.sublist_append_right _ _))
  exact List.filter_sublist.filterMap _

theorem answers_of_dispatched {session : Session engine} {cacheline : Int}
    {entry : Ended engine}
    (kept : DispatchEntry (MemoryCall.Drains cacheline) session.invocations entry) :
    session.Answers cacheline entry := by
  intro args segment drive depth positive wire
  obtain ⟨drains, dispatched⟩ := kept
  obtain ⟨passed, issued, events, begun, after, spec⟩ := drains args drive depth positive
  obtain rfl : segment = passed := List.append_cancel_left (wire.symm.trans after)
  obtain ⟨sent, invoked, result⟩ := dispatched events _ begun
  refine ⟨fun callback given => ?_, ?_, fun value returned => ?_⟩
  · rw [given] at spec
    rw [sent]
    exact own_reported spec
  · rw [sent]
    exact invoked
  · rw [result value returned, spec.sends]
    simp [Ending.result]

variable [DecidableEq γ]

theorem call_mem (session : Session engine) (op : MemoryOp γ) :
    (session.call op).mem = (op.begin session.mem).2 := by
  unfold call
  rcases op.begin session.mem with ⟨begun, mem⟩
  cases begun <;> rfl

theorem advance_mem (session : Session engine) (decision : MemoryDecision γ) :
    (∃ clk, (session.advance decision).mem = { session.mem with clk }) ∨
      ∃ op, session.asked decision = some op ∧
        (session.advance decision).mem = (op.begin session.mem).2 := by
  have thrown (error : PyError) (rest : List (MemoryFrame engine)) :
      (session.throw error rest).mem = session.mem := by
    rcases rest with _ | ⟨_ | _ | _, rest⟩ <;> rfl
  unfold advance
  split <;> rename_i shape
  · exact .inl ⟨_, rfl⟩
  · rename_i ending rest
    cases ending <;> exact .inl ⟨_, rfl⟩
  · exact .inl ⟨_, rfl⟩
  · exact .inl ⟨_, rfl⟩
  · exact .inl ⟨_, rfl⟩
  · cases decision with
    | call op => exact .inr ⟨op, by simp [asked, shape], call_mem session op⟩
    | return_ => exact .inl ⟨_, rfl⟩
    | raise error => exact .inl ⟨_, thrown error _⟩
  · cases decision with
    | call op => exact .inr ⟨op, by simp [asked, shape], call_mem session op⟩
    | return_ => exact .inl ⟨_, rfl⟩
    | raise error => exact .inl ⟨_, rfl⟩

theorem advance_stable {cacheline : Int} (session : Session engine)
    (decision : MemoryDecision γ) (stable : session.mem.Stable cacheline) :
    (session.advance decision).mem.Stable cacheline := by
  rcases session.advance_mem decision with ⟨clk, same⟩ | ⟨op, -, same⟩
  · rw [same]
    exact stable.moved _ _
  · rw [same]
    exact stable.begin op

/-- A drive that has something to do begins when no request of an earlier drive
is in flight. -/
def Clean (ledger : engine.Ledger) (cacheline : Int) (session : Session engine)
    (decision : MemoryDecision γ) : Prop :=
  ∀ op args, session.asked decision = some op → op.driveArgs cacheline = some args →
    1 ≤ args.total → 1 ≤ args.maxCycles → session.mem.impl.NoLeftover ledger

theorem begin_drive {cacheline : Int} {mem : MemorySystem engine}
    (stable : mem.Stable cacheline) {op : MemoryOp γ} {args : DriveArgs γ}
    (drive : op.driveArgs cacheline = some args) :
    ∃ cached : MemorySystem engine,
      op.begin mem = cached.driven (mem.impl.driveLoop args.addr args.total
        args.queueDepth args.batch args.maxCycles (args.callback.map ReadWrap.mk)) := by
  cases op with
  | drive addrs queueDepth batch maxCycles callback =>
      obtain ⟨wrap, -, same⟩ := MemorySystem.readCb_stable stable callback
      simp only [MemoryOp.driveArgs] at drive
      split at drive
      · rename_i fits
        obtain rfl := Option.some.inj drive
        refine ⟨(mem.readCb callback).2, ?_⟩
        simp only [MemoryOp.begin, MemorySystem.drive, PyMemorySystem.drive]
        rw [if_pos ⟨fits.1, fits.2.1, fits.2.2.1⟩, if_pos fits.2.2.2, same, wrap]
      · cases drive
  | driveRange start count stride queueDepth batch maxCycles callback =>
      obtain ⟨wrap, -, same⟩ := MemorySystem.readCb_stable stable callback
      simp only [MemoryOp.driveArgs] at drive
      split at drive
      · rename_i fits
        obtain rfl := Option.some.inj drive
        refine ⟨(mem.readCb callback).2, ?_⟩
        simp only [MemoryOp.begin, MemorySystem.driveRange,
          PyMemorySystem.driveRange, stable.cacheline]
        rw [if_pos fits, same, wrap]
      · cases drive
  | _ => cases drive

theorem newCall_drains (ledger : engine.Ledger) {cacheline : Int}
    {session : Session engine} {op : MemoryOp γ}
    (control : session.asked (.call op) = some op)
    (stable : session.mem.Stable cacheline)
    (clean : session.Clean ledger cacheline (.call op)) :
    (session.newCall op).Drains cacheline := by
  intro args drive depth positive
  obtain ⟨cached, begun⟩ := begin_drive stable drive
  change op.begin session.mem = _ at begun
  obtain ⟨segment, cycles, issued, events, after, loops, wire, -, -, spec⟩ :=
    session.mem.impl.driveLoop_spec ledger args.addr
      (args.callback.map ReadWrap.mk) (clean op args control drive) depth positive
  refine ⟨segment, issued, events, ?_, ?_, ?_⟩
  · simp only [newCall, begun, loops]
    rfl
  · simp only [newCall, begun, loops]
    exact wire
  · rw [spec.ticks]
    exact spec

/-- In every run in which each drive begins with no request of an earlier one in
flight, every drive keeps its promises: the loops of the one that begins next end
as they should, and those that ended called their callbacks. -/
theorem drive_drains (ledger : engine.Ledger) (cacheline numCores : Int)
    (decisions : List (MemoryDecision γ))
    (clean : Transition.Follows advance (Clean ledger cacheline)
      (create (MemorySystem.create engine cacheline numCores)) decisions) :
    let session := Transition.run advance
      (create (MemorySystem.create engine cacheline numCores)) decisions
    (∀ op, session.asked (.call op) = some op →
      session.Clean ledger cacheline (.call op) →
        (session.newCall op).Drains cacheline) ∧
      ∀ entry ∈ session.ended,
        entry.1.Drains cacheline ∧ session.Answers cacheline entry := by
  intro session
  have stable (initial : List (MemoryDecision γ)) : (Transition.run advance
      (create (MemorySystem.create engine cacheline numCores)) initial).mem.Stable
        cacheline :=
    Transition.run_invariant (fun state : Session engine => state.mem.Stable cacheline)
      advance_stable ⟨rfl, rfl⟩ initial
  have follows : Transition.Follows advance (fun state decision =>
      state.Clean ledger cacheline decision ∧ state.mem.Stable cacheline)
      (create (MemorySystem.create engine cacheline numCores)) decisions :=
    Transition.follows_iff.mpr fun first decision rest split =>
      ⟨Transition.follows_iff.mp clean first decision rest split, stable first⟩
  have kept := (dispatch_rule (MemoryCall.Drains cacheline)
    fun state op control permitted =>
      newCall_drains ledger control permitted.2 permitted.1).run _ follows
  exact ⟨fun op control permitted =>
      newCall_drains ledger control (stable decisions) permitted,
    fun entry member => ⟨(kept.entries entry member).1,
      answers_of_dispatched (kept.entries entry member)⟩⟩

def drainedDrives : List (MemoryDecision Nat) :=
  [.call (.drive [0, 64] 1 1 100 (some 7)), .return_, .return_, .return_, .return_,
    .return_, .call (.driveRange 128 1 none 4 100 100 (some 8)), .return_, .return_,
    .return_]

theorem drive_drains_twice :
    let session := Transition.run advance
      (create (MemorySystem.create
        (Engine.fixedLatency (CppCallback (ReadWrap Nat)) 2 4) 64 1)) drainedDrives
    session.ended.length = 2 ∧ ∀ entry ∈ session.ended,
      entry.1.Drains 64 ∧ session.Answers 64 entry := by
  refine ⟨by decide +kernel, (drive_drains (Engine.fixedLatencyLedger _ 2 4) 64 1
    drainedDrives ?_).2⟩
  have free : ∀ length < 10, (Engine.fixedLatencyLedger _ 2 4).reads
      (Transition.run advance (create (MemorySystem.create
        (Engine.fixedLatency (CppCallback (ReadWrap Nat)) 2 4) 64 1))
          (drainedDrives.take length)).mem.impl.mem = 0 := by
    decide +kernel
  refine Transition.follows_iff.mpr fun first decision rest split => ?_
  intro op args _ _ _ _ request member
  have begun : drainedDrives.take first.length = first := by
    rw [split, List.take_left]
  have shorter : first.length < 10 := by
    have length := congrArg List.length split
    rw [List.length_append, List.length_cons] at length
    change 10 = _ at length
    omega
  have noReads := free first.length shorter
  rw [begun] at noReads
  rw [noReads] at member
  exact absurd member (Multiset.notMem_zero _)

def leftoverDrives : List (MemoryDecision Nat) :=
  [.call (.drive [0] 1 1 1 (some 7)), .return_,
    .call (.drive [64] 1 1 100 (some 8)), .return_, .return_, .return_]

/-- The second drive takes the completion of the first one's request for that of
its own, and returns after one cycle with its request in flight. -/
theorem leftover_undrained :
    ∃ entry ∈ (Transition.run advance
      (create (MemorySystem.create
        (Engine.fixedLatency (CppCallback (ReadWrap Nat)) 2 4) 64 1))
          leftoverDrives).ended, ¬ entry.1.Drains 64 := by
  obtain ⟨entry, member, op, named, wire⟩ : ∃ entry ∈ (Transition.run advance
      (create (MemorySystem.create
        (Engine.fixedLatency (CppCallback (ReadWrap Nat)) 2 4) 64 1))
          leftoverDrives).ended,
      entry.1.op = .drive [64] 1 1 100 (some 8) ∧ entry.1.before.drives = 1 ∧
        entry.1.after.wire = entry.1.before.wire ++
          [.sent ⟨64, .read, 0, .driven 1 (some ⟨8⟩)⟩ true,
            .ticked [⟨⟨0, .read, 0, .driven 0 (some ⟨7⟩)⟩, 0, 2⟩]] := by
    decide +kernel
  refine ⟨entry, member, fun drains => ?_⟩
  obtain ⟨segment, issued, events, begun, after, spec⟩ :=
    drains ⟨fun index => [64].getD index 0, 1, 1, 1, 100, some 8⟩
      (by rw [op]; rfl) (by decide) (by decide)
  obtain rfl := List.append_cancel_left (wire.symm.trans after)
  have own := (spec.drained (by decide)).2.length_eq
  rw [named] at own
  exact absurd own (by decide)

end Session

end Pyramulator
