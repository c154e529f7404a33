import Mathlib.Tactic.Abel
import Pyramulator.Memory.Passage

namespace Pyramulator

/-! What is owed to user callbacks, what they were told and what is on its way. -/

structure Answer (γ : Type) where
  callback : γ
  addr : Int
  type : RequestType
  coreId : Int
  deriving DecidableEq

variable {γ : Type}

def CompletionEvent.answer (event : CompletionEvent (ReadWrap γ)) : Answer γ :=
  ⟨event.callback.userCb, event.addr, event.type, event.coreId⟩

def Request.answer (request : Request (CppCallback (ReadWrap γ))) : Option (Answer γ) :=
  match request.callback with
  | .ignore => none
  | .record wrap coreid => some ⟨wrap.userCb, request.addr, request.type, coreid⟩
  | .driven _ wrap =>
      wrap.map fun wrap => ⟨wrap.userCb, request.addr, request.type, request.coreid⟩

theorem Served.recorded_answer (served : Served (CppCallback (ReadWrap γ))) :
    served.recorded.map CompletionEvent.answer = served.request.answer := by
  unfold Served.recorded Request.answer
  rcases served.request.callback with _ | _ | ⟨_, _ | _⟩ <;> rfl

def Answer.told (invocation : γ × RequestInfo) : Answer γ :=
  ⟨invocation.1, invocation.2.addr, invocation.2.type, invocation.2.coreId⟩

@[simp] theorem Answer.told_invocation (event : CompletionEvent (ReadWrap γ)) :
    Answer.told (event.callback.userCb, event.info) = event.answer := rfl

namespace MemoryOp

def callback : MemoryOp γ → Option γ
  | .send _ _ _ callback | .sendBatch _ _ _ callback | .sendRange _ _ _ _ _ callback
  | .drive _ _ _ _ callback | .driveRange _ _ _ _ _ _ callback => callback
  | _ => none

def type : MemoryOp γ → RequestType
  | .send _ type _ _ => type
  | .sendBatch _ type _ _ | .sendRange _ _ _ type _ _ => MemorySystem.batchType type
  | _ => .read

def coreId : MemoryOp γ → Int
  | .send _ _ coreId _ | .sendBatch _ _ coreId _ | .sendRange _ _ _ _ coreId _ => coreId
  | _ => 0

def addrs (cacheline : Int) : MemoryOp γ → List Int
  | .send addr _ _ _ => [addr]
  | .sendBatch addrs _ _ _ => addrs
  | .sendRange start count stride _ _ _ =>
      PyMemorySystem.strided start (stride.getD cacheline) count.toNat
  | _ => []

def reach (cacheline : Int) : MemoryOp γ → List Int
  | .send addr _ _ _ => PyMemorySystem.reaching [addr]
  | .sendBatch addrs _ _ _ => PyMemorySystem.reaching addrs
  | .sendRange start count stride _ _ _ =>
      if FitsLong start ∧ FitsLong count ∧ FitsLong (stride.getD cacheline) then
        PyMemorySystem.strided start (stride.getD cacheline) count.toNat else []
  | _ => []

/-- The callback of a method is told of its reads by the engine, and of nothing
else. -/
theorem Asks.answer {op : MemoryOp γ} {numCores : Int} {drives : Nat}
    {request : Request (CppCallback (ReadWrap γ))}
    (asked : op.Asks numCores drives request) :
    request.type = op.type ∧ request.answer = if op.type = .read then
      op.callback.map fun callback =>
        ⟨callback, request.addr, request.type, request.coreid⟩ else none := by
  obtain ⟨addr, type, coreid, callback⟩ := request
  have checked {type' : RequestType} {coreId : Int} {user : Option γ}
      (asked : Asked numCores type' coreId user ⟨addr, type, coreid, callback⟩) :
      type = type' ∧ Request.answer ⟨addr, type, coreid, callback⟩ =
        if type' = .read then user.map fun user => ⟨user, addr, type, coreid⟩
          else none := by
    obtain ⟨-, same, core, cb⟩ := asked
    simp only at same core cb
    subst same core cb
    refine ⟨rfl, ?_⟩
    cases type <;> cases user <;> rfl
  have driven {user : Option γ}
      (asked : Driven drives user ⟨addr, type, coreid, callback⟩) :
      type = .read ∧ Request.answer ⟨addr, type, coreid, callback⟩ =
        user.map fun user => ⟨user, addr, type, coreid⟩ := by
    obtain ⟨same, core, cb⟩ := asked
    simp only at same core cb
    subst same core cb
    refine ⟨rfl, ?_⟩
    cases user <;> rfl
  cases op with
  | send => exact checked asked
  | sendBatch => exact checked asked
  | sendRange => exact checked asked
  | drive => exact driven asked
  | driveRange => exact driven asked
  | _ => exact asked.elim

end MemoryOp

variable {engine : Engine (CppCallback (ReadWrap γ))}

namespace MemoryCall

def due (call : MemoryCall engine) : List (Answer γ) :=
  match call.op.callback with
  | none => []
  | some callback =>
      (Wire.accepted (PyMemorySystem.passed call.before call.after)).map fun request =>
      ⟨callback, request.addr, request.type, request.coreid⟩

/-- What it will not be told: of writes when the call raised at once, and of requests
that are neither reads nor writes. -/
def unanswered (call : MemoryCall engine) : List (Answer γ) :=
  if call.op.type = .read then []
  else
    match call.begun with
    | .writes _ _ _ _ => []
    | _ => call.due

end MemoryCall

def PyMemorySystem.held (ledger : engine.Ledger) (sys : PyMemorySystem engine) :
    Multiset (Answer γ) :=
  (ledger.reads sys.mem).filterMap Request.answer +
    (sys.completed.map CompletionEvent.answer : List (Answer γ))

namespace MemoryFrame

def due : MemoryFrame engine → List (Answer γ)
  | .dispatch call _ _ _ _ | .writes call _ _ _ _ => call.due
  | .user _ _ => []

def waiting : MemoryFrame engine → List (Answer γ)
  | .dispatch _ _ rest _ _ => rest.map CompletionEvent.answer
  | .writes _ rest coreId callback _ =>
      rest.map fun addr => ⟨callback, addr, .write, coreId⟩
  | .user _ _ => []

end MemoryFrame

namespace Session

variable (ledger : engine.Ledger) (session : Session engine)

def owed : Multiset (Answer γ) :=
  (session.ended.flatMap fun entry => entry.1.due : List (Answer γ)) +
    (session.stack.flatMap MemoryFrame.due : List (Answer γ))

def answered : Multiset (Answer γ) :=
  (session.invocations.map Answer.told : List (Answer γ))

/-- What is on its way: in the engine, in the queue of the wrapper and in the methods
in progress. -/
def waiting : Multiset (Answer γ) :=
  session.mem.impl.held ledger +
    (session.stack.flatMap MemoryFrame.waiting : List (Answer γ))

/-- What is lost in a step: the writes behind the one whose callback raises, and
what a call leaves unanswered. -/
def lost [DecidableEq γ] (decision : MemoryDecision γ) : List (Answer γ) :=
  match session.stack, decision with
  | .user _ _ :: frame :: _, .raise _ =>
      match frame with
      | .writes _ _ _ _ _ => frame.waiting
      | _ => []
  | _, _ => (session.asked decision).elim [] fun op => (session.newCall op).unanswered

end Session

/-! ## One call -/

def Begun.waiting : Begun γ → List (Answer γ)
  | .dispatch events _ => events.map CompletionEvent.answer
  | .writes addrs coreId callback _ =>
      addrs.map fun addr => ⟨callback, addr, .write, coreId⟩
  | _ => []

namespace MemoryOp

variable [DecidableEq γ] {cacheline : Int} {mem : MemorySystem engine}

theorem begin_cases (stable : mem.Stable cacheline) (op : MemoryOp γ) :
    (∃ value sends, MemorySystem.Issues cacheline mem (op.addrs cacheline)
      (op.reach cacheline) op.type op.coreId op.callback value (op.begin mem) sends) ∨
    op.type = .read ∧ ((∃ error, (op.begin mem).1 = .raised error) ∨
      ∃ events ending, (op.begin mem).1 = .dispatch events ending) := by
  have progress (result : PyMemorySystem.Progress engine) :
      (∃ error, (mem.progress result).1 = .raised error) ∨
        ∃ events ending, (mem.progress result).1 = .dispatch events ending := by
    rcases result with ⟨error | ⟨cycles, events⟩, impl⟩
    · exact .inl ⟨error, rfl⟩
    · exact .inr ⟨events, _, rfl⟩
  have driven (cached : MemorySystem engine) (result : PyMemorySystem.Driven engine) :
      (∃ error, (cached.driven result).1 = .raised error) ∨
        ∃ events ending, (cached.driven result).1 = .dispatch events ending := by
    rcases result with ⟨error | ⟨cycles, issued, events⟩, impl⟩
    · exact .inl ⟨error, rfl⟩
    · exact .inr ⟨events, _, rfl⟩
  cases op with
  | send addr type coreId callback =>
      obtain ⟨sends, issues⟩ := MemorySystem.send_issues stable addr type coreId callback
      exact .inl ⟨_, sends, issues⟩
  | sendBatch addrs type coreId callback =>
      obtain ⟨sends, issues⟩ :=
        MemorySystem.sendBatch_issues stable addrs type coreId callback
      exact .inl ⟨_, sends, issues⟩
  | sendRange start count stride type coreId callback =>
      obtain ⟨sends, issues⟩ :=
        MemorySystem.sendRange_issues stable start count stride type coreId callback
      exact .inl ⟨_, sends, issues⟩
  | tick => exact .inr ⟨rfl, .inr ⟨_, _, rfl⟩⟩
  | run cycles => exact .inr ⟨rfl, progress _⟩
  | tickUntilProgress maxCycles =>
      refine .inr ⟨rfl, ?_⟩
      simp only [begin, MemorySystem.tickUntilProgress]
      split
      · exact .inl ⟨_, rfl⟩
      · exact progress _
  | runUntilIdle maxCycles => exact .inr ⟨rfl, progress _⟩
  | flush maxCycles => exact .inr ⟨rfl, progress _⟩
  | drive => exact .inr ⟨rfl, driven _ _⟩
  | driveRange => exact .inr ⟨rfl, driven _ _⟩

end MemoryOp

namespace Session

variable [DecidableEq γ] {cacheline : Int} (ledger : engine.Ledger)
  {session : Session engine}

omit [DecidableEq γ] in
theorem handles_held {asks : Request (CppCallback (ReadWrap γ)) → Prop}
    {mem : MemorySystem engine} {result : Begun γ × MemorySystem engine}
    (handles : MemorySystem.Handles asks mem result) :
    ∃ segment, result.2.impl.wire = mem.impl.wire ++ segment ∧
      (∀ request accepted, .sent request accepted ∈ segment → asks request) ∧
      (((Wire.accepted segment).filter fun request => request.type = .read).filterMap
          Request.answer : List (Answer γ)) + mem.impl.held ledger =
        result.2.impl.held ledger +
          (result.1.events.map CompletionEvent.answer : List (Answer γ)) := by
  obtain ⟨start, done, mem_, wire, completed, passes, memDone, wireDone, split⟩ := handles
  obtain ⟨segment, passed, asked⟩ := passes.wire
  obtain ⟨other, effect⟩ := passes.effect ledger
  obtain rfl := List.append_cancel_left (passed.symm.trans effect.wire)
  refine ⟨segment, by rw [wireDone, passed, wire], asked, ?_⟩
  have reads := congrArg (Multiset.filterMap Request.answer) effect.reads
  have told := congrArg (fun events => (events.map CompletionEvent.answer :
    Multiset (Answer γ))) effect.completed
  simp only [split, completed, List.map_append, List.map_filterMap,
    Served.recorded_answer, ← Multiset.coe_add] at told
  rw [Multiset.filterMap_add, Multiset.filterMap_add, Multiset.filterMap_coe,
    Multiset.filterMap_coe, List.filterMap_map, mem_, ← memDone] at reads
  change _ = (((Wire.served segment).filterMap fun served => served.request.answer :
    List (Answer γ)) : Multiset (Answer γ)) + _ at reads
  simp only [PyMemorySystem.held]
  generalize (Wire.served segment).filterMap (fun served => served.request.answer) =
    served
    at reads told
  generalize Multiset.filterMap Request.answer (ledger.reads mem.impl.mem) = engineBefore
    at reads ⊢
  generalize Multiset.filterMap Request.answer (ledger.reads result.2.impl.mem) =
    engineAfter
    at reads ⊢
  generalize List.filterMap Request.answer _ = taken at reads ⊢
  calc (taken : Multiset (Answer γ)) +
        (engineBefore + (mem.impl.completed.map CompletionEvent.answer : List (Answer γ)))
      = (engineBefore + taken) +
          (mem.impl.completed.map CompletionEvent.answer : List (Answer γ)) := by abel
    _ = engineAfter +
          ((mem.impl.completed.map CompletionEvent.answer : List (Answer γ)) +
            served) := by
        rw [reads]
        abel
    _ = _ := by
        rw [← told]
        abel

section

variable {op : MemoryOp γ} {value : List Bool → MemoryValue} {sends : List (Int × Bool)}

theorem newCall_due
    (issues : MemorySystem.Issues cacheline session.mem (op.addrs cacheline)
      (op.reach cacheline) op.type op.coreId op.callback value
        (op.begin session.mem) sends) :
    (session.newCall op).due = op.callback.elim [] fun callback =>
      (acceptedOf sends).map fun addr => ⟨callback, addr, op.type, op.coreId⟩ := by
  have accepted : Wire.accepted (PyMemorySystem.passed (session.newCall op).before
      (session.newCall op).after) = _ := issues.accepted
  rw [MemoryCall.due, accepted]
  change (match op.callback with | none => _ | some callback => _) = _
  cases op.callback with
  | none => rfl
  | some callback => exact List.map_map

theorem newCall_sends
    (issues : MemorySystem.Issues cacheline session.mem (op.addrs cacheline)
      (op.reach cacheline) op.type op.coreId op.callback value
        (op.begin session.mem) sends) :
    (session.newCall op).begun.events = [] ∧
      ((∃ callback, (session.newCall op).begun =
          .writes (acceptedOf sends) op.coreId callback (value (sends.map Prod.snd)) ∧
            op.callback = some callback ∧ op.type = .write ∧
              (session.newCall op).begun.waiting = (session.newCall op).due) ∨
        (session.newCall op).begun.waiting = [] ∧
          (∀ events ending, (session.newCall op).begun ≠ .dispatch events ending) ∧
          (∀ addrs coreId callback value,
            (session.newCall op).begun ≠ .writes addrs coreId callback value) ∧
          (op.type = .write → op.callback = none ∨
            ∃ error, (session.newCall op).begun = .raised error)) := by
  have due := newCall_due issues
  have begun : (session.newCall op).begun = (op.begin session.mem).1 := rfl
  rcases issues.result with ⟨error, raised⟩ | ⟨-, ended⟩
  · rw [begun, raised]
    exact ⟨rfl, .inr ⟨rfl, by simp, by simp, fun _ => .inr ⟨error, rfl⟩⟩⟩
  · by_cases write : op.type = .write
    · rw [if_pos write] at ended
      cases user : op.callback with
      | none =>
          rw [user] at ended
          rw [begun, ended]
          exact ⟨rfl, .inr ⟨rfl, by simp [MemorySystem.fireWrites],
            by simp [MemorySystem.fireWrites], fun _ => .inl rfl⟩⟩
      | some callback =>
          rw [user] at ended due
          rw [begun, ended]
          refine ⟨rfl, .inl ⟨callback, rfl, rfl, write, ?_⟩⟩
          rw [due, write]
          rfl
    · rw [if_neg write] at ended
      rw [begun, ended]
      exact ⟨rfl, .inr ⟨rfl, by simp, by simp, fun same => absurd same write⟩⟩

end

theorem newCall_balance (stable : session.mem.Stable cacheline) (op : MemoryOp γ) :
    let call := session.newCall op
    call.due + call.before.held ledger =
      call.after.held ledger + call.begun.waiting + call.unanswered := by
  intro call
  obtain ⟨segment, wire, asked, balance⟩ :=
    handles_held ledger (op.handles stable)
  have passed : PyMemorySystem.passed call.before call.after = segment := by
    change List.drop _ (op.begin session.mem).2.impl.wire = _
    rw [wire]
    exact List.drop_left
  have answers : ∀ request ∈ Wire.accepted segment, request.type = op.type ∧
      request.answer = if op.type = .read then
        op.callback.map fun callback =>
          ⟨callback, request.addr, request.type, request.coreid⟩ else none :=
    fun request member => (asked request true (Wire.mem_accepted.mp member)).answer
  change _ + session.mem.impl.held ledger =
    (op.begin session.mem).2.impl.held ledger + call.begun.waiting + _
  change _ = _ +
    (call.begun.events.map CompletionEvent.answer : Multiset (Answer γ)) at balance
  by_cases read : op.type = .read
  · have all : (Wire.accepted segment).filter (fun request => request.type = .read) =
        Wire.accepted segment :=
      List.filter_eq_self.mpr
        fun request member => by simp [(answers request member).1, read]
    have taken : (Wire.accepted segment).filterMap Request.answer = call.due := by
      rw [MemoryCall.due, passed]
      change _ = match op.callback with | none => _ | some callback => _
      cases user : op.callback with
      | none =>
          refine List.filterMap_eq_nil_iff.mpr fun request member => ?_
          rw [(answers request member).2, if_pos read, user]
          rfl
      | some callback =>
          simp only
          rw [← List.filterMap_eq_map']
          refine List.filterMap_congr fun request member => ?_
          rw [(answers request member).2, if_pos read, user]
          rfl
    have dispatched :
        call.begun.waiting = call.begun.events.map CompletionEvent.answer := by
      rcases op.begin_cases stable with ⟨value, sends, issues⟩ |
        ⟨-, ⟨error, raised⟩ | ⟨events, ending, dispatch⟩⟩
      · obtain ⟨noReads, ⟨callback, -, -, write, -⟩ | ⟨waiting, -⟩⟩ :=
          newCall_sends issues
        · rw [read] at write
          cases write
        · rw [waiting, noReads]
          rfl
      · change (op.begin session.mem).1.waiting = (op.begin session.mem).1.events.map _
        rw [raised]
        rfl
      · change (op.begin session.mem).1.waiting = (op.begin session.mem).1.events.map _
        rw [dispatch]
        rfl
    have unanswered : call.unanswered = [] := if_pos read
    rw [all, taken] at balance
    rw [balance, dispatched, unanswered, Multiset.coe_nil, add_zero]
  · have noReads :
        (Wire.accepted segment).filter (fun request => request.type = .read) = [] :=
      List.filter_eq_nil_iff.mpr
        fun request member => by simp [(answers request member).1, read]
    rw [noReads, List.filterMap_nil, Multiset.coe_nil, zero_add] at balance
    rcases op.begin_cases stable with ⟨value, sends, issues⟩ | ⟨same, -⟩
    · obtain ⟨quiet, kind⟩ := newCall_sends issues
      rw [quiet, List.map_nil, Multiset.coe_nil, add_zero] at balance
      rw [balance]
      rcases kind with ⟨callback, writes, -, -, told⟩ | ⟨waiting, -, notWrites, -⟩
      · have unanswered : call.unanswered = [] := by
          unfold MemoryCall.unanswered
          rw [if_neg (show ¬ call.op.type = .read from read), writes]
        rw [told, unanswered, Multiset.coe_nil, add_zero, add_comm]
      · have unanswered : call.unanswered = call.due := by
          unfold MemoryCall.unanswered
          rw [if_neg (show ¬ call.op.type = .read from read)]
          split
          · exact absurd ‹_› (notWrites _ _ _ _)
          · rfl
        rw [waiting, unanswered, Multiset.coe_nil, add_zero, add_comm]
    · exact absurd same read

/-! ## One step -/

def Accounts (before after : Session engine) (lost : List (Answer γ)) : Prop :=
  after.owed + (before.answered + before.waiting ledger) =
    before.owed + (after.answered + after.waiting ledger) + lost

section

variable {ledger}

omit [DecidableEq γ]

theorem invoke_accounts {rest : List (MemoryFrame engine)} (callback : γ)
    (info : RequestInfo)
    (due : session.stack.flatMap MemoryFrame.due = rest.flatMap MemoryFrame.due)
    (waiting : session.stack.flatMap MemoryFrame.waiting =
      Answer.told (callback, info) :: rest.flatMap MemoryFrame.waiting) :
    Accounts ledger session (session.invoke callback info rest) [] := by
  have mem : (session.invoke callback info rest).mem = session.mem := rfl
  have stack : (session.invoke callback info rest).stack = .user callback info :: rest :=
    rfl
  have user : (MemoryFrame.user callback info : MemoryFrame engine).due = [] ∧
    (MemoryFrame.user callback info : MemoryFrame engine).waiting = [] := ⟨rfl, rfl⟩
  simp only [Accounts, owed, answered, Session.waiting, ended_invoke,
    invocations_invoke, mem, stack, List.flatMap_cons, user, List.nil_append, due,
      waiting, List.map_append,
    List.map_cons, List.map_nil, ← Multiset.coe_add]
  rw [← Multiset.cons_coe, ← Multiset.singleton_add, Multiset.coe_nil,
    Multiset.coe_singleton]
  abel

theorem finish_accounts {call : MemoryCall engine}
    {sent : List (CompletionEvent (ReadWrap γ))} {result : Except PyError MemoryValue}
    {rest : List (MemoryFrame engine)} {lost : List (Answer γ)}
    (due : session.stack.flatMap MemoryFrame.due = call.due ++
      rest.flatMap MemoryFrame.due)
    (waiting : session.stack.flatMap MemoryFrame.waiting =
      lost ++ rest.flatMap MemoryFrame.waiting) :
    Accounts ledger session (session.finish call sent result rest) lost := by
  have mem : (session.finish call sent result rest).mem = session.mem := rfl
  have stack : (session.finish call sent result rest).stack = rest := rfl
  simp only [Accounts, owed, answered, Session.waiting, ended_finish,
    invocations_finish, mem, stack, due, waiting, List.flatMap_append, List.flatMap_cons,
      List.flatMap_nil,
    List.append_nil, ← Multiset.coe_add]
  abel

theorem pop_accounts {rest : List (MemoryFrame engine)}
    (due : session.stack.flatMap MemoryFrame.due = rest.flatMap MemoryFrame.due)
    (waiting : session.stack.flatMap MemoryFrame.waiting =
      rest.flatMap MemoryFrame.waiting) :
    Accounts ledger session { session with stack := rest } [] := by
  simp only [Accounts, owed, answered, Session.waiting, ended, invocations, due, waiting,
    Multiset.coe_nil, add_zero]

end

theorem call_parts (op : MemoryOp γ) :
    (session.call op).owed = session.owed + (session.newCall op).due ∧
      (session.call op).answered = session.answered ∧
        (session.call op).waiting ledger = (session.newCall op).after.held ledger +
          ((session.newCall op).begun.waiting +
            (session.stack.flatMap MemoryFrame.waiting : List (Answer γ))) := by
  unfold call
  simp only [newCall]
  rcases op.begin session.mem with ⟨begun, mem⟩
  have ends (call : MemoryCall engine) (result : Except PyError MemoryValue) :
      let after :=
        ({ session with mem } : Session engine).finish call [] result session.stack
      after.owed = session.owed + call.due ∧ after.answered = session.answered ∧
        after.waiting ledger = mem.impl.held ledger +
          (session.stack.flatMap MemoryFrame.waiting : List (Answer γ)) := by
    intro after
    refine ⟨?_, ?_, rfl⟩
    · simp only [after, owed, ended_finish, List.flatMap_append, List.flatMap_cons,
        List.flatMap_nil, List.append_nil, ← Multiset.coe_add]
      rw [add_right_comm]
      rfl
    · simp [after, answered, invocations, finish, List.filterMap_append]
  cases begun with
  | raised error => simpa [Begun.waiting] using ends _ _
  | returned value => simpa [Begun.waiting] using ends _ _
  | dispatch events ending =>
      refine ⟨?_, rfl, by simp [Session.waiting, MemoryFrame.waiting, Begun.waiting]⟩
      simp only [owed, List.flatMap_cons, ← Multiset.coe_add]
      rw [add_left_comm, add_comm]
      rfl
  | writes addrs coreId callback value =>
      refine ⟨?_, rfl, by simp [Session.waiting, MemoryFrame.waiting, Begun.waiting]⟩
      simp only [owed, List.flatMap_cons, ← Multiset.coe_add]
      rw [add_left_comm, add_comm]
      rfl

theorem call_accounts (stable : session.mem.Stable cacheline) (op : MemoryOp γ) :
    Accounts ledger session (session.call op) (session.newCall op).unanswered := by
  have balance := newCall_balance ledger stable op
  obtain ⟨owed, answered, waiting⟩ := session.call_parts ledger op
  have before : session.waiting ledger = (session.newCall op).before.held ledger +
      (session.stack.flatMap MemoryFrame.waiting : List (Answer γ)) := rfl
  rw [Accounts, owed, answered, waiting, before]
  calc _ = session.owed + session.answered +
        ((session.newCall op).due + (session.newCall op).before.held ledger) +
          (session.stack.flatMap MemoryFrame.waiting : List (Answer γ)) := by abel
    _ = _ := by
        rw [balance]
        abel

theorem throw_accounts {callback : γ} {info : RequestInfo}
    {below : List (MemoryFrame engine)}
    (shape : session.stack = .user callback info :: below) (error : PyError) :
    Accounts ledger session (session.throw error below)
      (session.lost (.raise error)) := by
  rcases below with _ |
    ⟨⟨call, sent, rest, firstExc, ending⟩ | ⟨call, rest, coreId, cb, value⟩ |
    ⟨cb, told⟩, below⟩
  · have noneLost : session.lost (.raise error) = [] := by simp [lost, asked, shape]
    rw [noneLost]
    exact pop_accounts (by simp [shape, MemoryFrame.due])
      (by simp [shape, MemoryFrame.waiting])
  · have noneLost : session.lost (.raise error) = [] := by simp [lost, shape]
    rw [noneLost]
    exact pop_accounts (by simp [shape, MemoryFrame.due])
      (by simp [shape, MemoryFrame.waiting])
  · have behind : session.lost (.raise error) =
        (MemoryFrame.writes call rest coreId cb value).waiting := by simp [lost, shape]
    rw [behind]
    exact finish_accounts (by simp [shape, MemoryFrame.due])
      (by simp [shape, MemoryFrame.waiting])
  · have noneLost : session.lost (.raise error) = [] := by simp [lost, shape]
    rw [noneLost]
    exact pop_accounts (by simp [shape, MemoryFrame.due])
      (by simp [shape, MemoryFrame.waiting])

theorem advance_accounts (stable : session.mem.Stable cacheline)
    (decision : MemoryDecision γ) :
    Accounts ledger session (session.advance decision) (session.lost decision) := by
  have silent (unasked : session.asked decision = none)
      (unraised : ∀ callback info below, session.stack ≠ .user callback info :: below) :
      session.lost decision = [] := by
    unfold lost
    split
    · exact absurd ‹session.stack = _› (unraised _ _ _)
    · rw [unasked]
      rfl
  unfold advance
  split <;> rename_i shape
  · rw [silent (by simp [asked, shape]) (by simp [shape])]
    exact invoke_accounts _ _ (by simp [shape, MemoryFrame.due])
      (by simp [shape, MemoryFrame.waiting])
  · rw [silent (by simp [asked, shape]) (by simp [shape])]
    rename_i call sent ending rest
    cases ending with
    | tick =>
        let counted : Session engine :=
          { session with mem := { session.mem with clk := session.mem.clk + 1 } }
        have ends :
            Accounts ledger counted (counted.finish call sent (.ok (.count 1)) rest) [] :=
          finish_accounts (by simp only [counted, shape]; rfl)
            (by simp only [counted, shape]; rfl)
        exact ends
    | value value =>
        exact finish_accounts (by simp only [shape]; rfl) (by simp only [shape]; rfl)
  · rw [silent (by simp [asked, shape]) (by simp [shape])]
    exact finish_accounts (by simp only [shape]; rfl) (by simp only [shape]; rfl)
  · rw [silent (by simp [asked, shape]) (by simp [shape])]
    exact invoke_accounts _ _ (by simp [shape, MemoryFrame.due])
      (by simp [shape, MemoryFrame.waiting]; rfl)
  · rw [silent (by simp [asked, shape]) (by simp [shape])]
    exact finish_accounts (by simp only [shape]; rfl) (by simp only [shape]; rfl)
  · cases decision with
    | call op =>
        have asks : session.lost (.call op) = (session.newCall op).unanswered := by
          simp [lost, asked, shape]
        rw [asks]
        exact call_accounts ledger stable op
    | return_ =>
        have noneLost : session.lost .return_ = [] := by simp [lost, asked, shape]
        rw [noneLost]
        exact pop_accounts (by simp [shape, MemoryFrame.due])
          (by simp [shape, MemoryFrame.waiting])
    | raise error => exact throw_accounts ledger shape error
  · cases decision with
    | call op =>
        have asks : session.lost (.call op) = (session.newCall op).unanswered := by
          simp [lost, asked, shape]
        rw [asks]
        exact call_accounts ledger stable op
    | return_ =>
        rw [silent (by simp [asked, shape]) (by simp [shape])]
        exact pop_accounts rfl rfl
    | raise error =>
        rw [silent (by simp [asked, shape]) (by simp [shape])]
        exact pop_accounts rfl rfl

def Balanced (session : Session engine) : Prop :=
  session.owed = session.answered + session.waiting ledger

theorem advance_balanced_iff (stable : session.mem.Stable cacheline)
    (balanced : session.Balanced ledger) (decision : MemoryDecision γ) :
    (session.advance decision).Balanced ledger ↔ session.lost decision = [] := by
  have owed : (session.advance decision).owed = (session.advance decision).answered +
      (session.advance decision).waiting ledger + session.lost decision := by
    refine add_right_cancel ((advance_accounts ledger stable decision).trans ?_)
    rw [balanced]
    abel
  rw [Balanced, owed, ← Multiset.coe_eq_zero]
  exact add_eq_left

end Session

end Pyramulator
