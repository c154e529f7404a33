import Pyramulator.Data.Transition
import Pyramulator.Memory.MemorySystem
import Pyramulator.Memory.Traffic

namespace Pyramulator

/-! A `MemorySystem` and the user code around it. A method that dispatches
completions calls user code, which may call further methods, return or raise;
the session is a machine with a stack of the methods that have not ended. -/

/-- A call of a method, with the wrapper before it and after its first part. -/
structure MemoryCall {γ : Type} (engine : Engine (CppCallback (ReadWrap γ))) where
  op : MemoryOp γ
  before : PyMemorySystem engine
  after : PyMemorySystem engine
  begun : Begun γ

def MemoryCall.ticks {γ : Type} {engine : Engine (CppCallback (ReadWrap γ))}
    (call : MemoryCall engine) : Int :=
  call.after.ticks - call.before.ticks

/-- A method in the middle of its completions, or a user callback it called. -/
inductive MemoryFrame {γ : Type} (engine : Engine (CppCallback (ReadWrap γ))) where
  /-- `_dispatch`, which called the callbacks of `sent`. -/
  | dispatch (call : MemoryCall engine)
      (sent rest : List (CompletionEvent (ReadWrap γ)))
      (firstExc : Option PyError) (ending : Ending)
  | writes (call : MemoryCall engine) (rest : List Int) (coreId : Int)
      (callback : γ) (value : MemoryValue)
  | user (callback : γ) (info : RequestInfo)

inductive MemoryDecision (γ : Type) where
  | call (op : MemoryOp γ)
  | return_
  | raise (error : PyError)
  deriving DecidableEq

inductive MemoryEntry {γ : Type} (engine : Engine (CppCallback (ReadWrap γ))) where
  | invoked (callback : γ) (info : RequestInfo)
  /-- A call returned or raised, after the callbacks of `sent`. -/
  | ended (call : MemoryCall engine)
      (sent : List (CompletionEvent (ReadWrap γ)))
      (result : Except PyError MemoryValue)

structure Session {γ : Type} (engine : Engine (CppCallback (ReadWrap γ))) where
  mem : MemorySystem engine
  stack : List (MemoryFrame engine)
  log : List (MemoryEntry engine)

namespace Session

variable {γ : Type} {engine : Engine (CppCallback (ReadWrap γ))}

def create (mem : MemorySystem engine) : Session engine := ⟨mem, [], []⟩

def invoke (session : Session engine) (callback : γ) (info : RequestInfo)
    (rest : List (MemoryFrame engine)) : Session engine :=
  { session with
    stack := .user callback info :: rest
    log := session.log ++ [.invoked callback info] }

def finish (session : Session engine) (call : MemoryCall engine)
    (sent : List (CompletionEvent (ReadWrap γ)))
    (result : Except PyError MemoryValue) (rest : List (MemoryFrame engine)) :
    Session engine :=
  { session with
    stack := rest
    log := session.log ++ [.ended call sent result] }

def conclude (session : Session engine) (call : MemoryCall engine)
    (sent : List (CompletionEvent (ReadWrap γ))) (rest : List (MemoryFrame engine)) :
    Ending → Session engine
  | .tick =>
      { session with mem := { session.mem with clk := session.mem.clk + 1 } }.finish
        call sent (.ok (.count 1)) rest
  | .value value => session.finish call sent (.ok value) rest

def call [DecidableEq γ] (session : Session engine) (op : MemoryOp γ) :
    Session engine :=
  let (begun, mem) := op.begin session.mem
  let call : MemoryCall engine := ⟨op, session.mem.impl, mem.impl, begun⟩
  let session := { session with mem }
  match begun with
  | .raised error => session.finish call [] (.error error) session.stack
  | .returned value => session.finish call [] (.ok value) session.stack
  | .dispatch events ending =>
      { session with stack := .dispatch call [] events none ending :: session.stack }
  | .writes addrs coreId callback value =>
      { session with
        stack := .writes call addrs coreId callback value :: session.stack }

def throw (session : Session engine) (error : PyError) :
    List (MemoryFrame engine) → Session engine
  | .dispatch call sent rest firstExc ending :: below =>
      { session with
        stack := .dispatch call sent rest (firstExc.orElse fun _ => some error) ending
          :: below }
  | .writes call _ _ _ _ :: below => session.finish call [] (.error error) below
  | stack => { session with stack }

def advance [DecidableEq γ] (session : Session engine)
    (decision : MemoryDecision γ) : Session engine :=
  match session.stack with
  | .dispatch call sent (event :: rest) firstExc ending :: below =>
      session.invoke event.callback.userCb event.info
        (.dispatch call (sent ++ [event]) rest firstExc ending :: below)
  | .dispatch call sent [] none ending :: below =>
      session.conclude call sent below ending
  | .dispatch call sent [] (some error) _ :: below =>
      session.finish call sent (.error error) below
  | .writes call (addr :: rest) coreId callback value :: below =>
      session.invoke callback (session.mem.writeInfo addr coreId)
        (.writes call rest coreId callback value :: below)
  | .writes call [] _ _ value :: below => session.finish call [] (.ok value) below
  | .user _ _ :: below =>
      match decision with
      | .call op => session.call op
      | .return_ => { session with stack := below }
      | .raise error => session.throw error below
  | [] =>
      match decision with
      | .call op => session.call op
      | _ => session

def ended (session : Session engine) :
    List (MemoryCall engine × List (CompletionEvent (ReadWrap γ)) ×
      Except PyError MemoryValue) :=
  session.log.filterMap fun
    | .ended call sent result => some (call, sent, result)
    | _ => none

def invocations (session : Session engine) : List (γ × RequestInfo) :=
  session.log.filterMap fun
    | .invoked callback info => some (callback, info)
    | _ => none

def newCall [DecidableEq γ] (session : Session engine) (op : MemoryOp γ) :
    MemoryCall engine :=
  ⟨op, session.mem.impl, (op.begin session.mem).2.impl, (op.begin session.mem).1⟩

def asked (session : Session engine) (decision : MemoryDecision γ) :
    Option (MemoryOp γ) :=
  match session.stack, decision with
  | [], .call op => some op
  | .user _ _ :: _, .call op => some op
  | _, _ => none

@[simp] theorem ended_invoke (session : Session engine) (callback : γ)
    (info : RequestInfo) (rest : List (MemoryFrame engine)) :
    (session.invoke callback info rest).ended = session.ended := by
  simp [ended, invoke, List.filterMap_append]

@[simp] theorem invocations_invoke (session : Session engine) (callback : γ)
    (info : RequestInfo) (rest : List (MemoryFrame engine)) :
    (session.invoke callback info rest).invocations =
      session.invocations ++ [(callback, info)] := by
  simp [invocations, invoke, List.filterMap_append]

@[simp] theorem ended_finish (session : Session engine) (call : MemoryCall engine)
    (sent : List (CompletionEvent (ReadWrap γ)))
    (result : Except PyError MemoryValue) (rest : List (MemoryFrame engine)) :
    (session.finish call sent result rest).ended =
      session.ended ++ [(call, sent, result)] := by
  simp [ended, finish, List.filterMap_append]

@[simp] theorem invocations_finish (session : Session engine)
    (call : MemoryCall engine) (sent : List (CompletionEvent (ReadWrap γ)))
    (result : Except PyError MemoryValue) (rest : List (MemoryFrame engine)) :
    (session.finish call sent result rest).invocations = session.invocations := by
  simp [invocations, finish, List.filterMap_append]

end Session

end Pyramulator
