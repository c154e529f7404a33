import Mathlib.Logic.Function.Iterate
import Pyramulator.Memory.Engine
import Pyramulator.Sim.Simulator

namespace Pyramulator

/-! The C++ class behind the Python bindings, `bindings.cpp`. Python objects
that it only stores are of a type `π`. -/

/-- The `std::function` in a request: the one that does nothing, the one that
records a completion, and the ones that `drive_loop` makes, one for each call
of it. -/
inductive CppCallback (π : Type) where
  | ignore
  | record (callback : π) (coreid : Int)
  | driven (drive : Nat) (callback : Option π)
  deriving DecidableEq

structure CompletionEvent (π : Type) where
  addr : Int
  type : RequestType
  arrive : Int
  depart : Int
  coreId : Int
  callback : π
  deriving DecidableEq

inductive Wire (c : Type) where
  | sent (request : Request c) (accepted : Bool)
  | ticked (served : List (Served c))
  deriving DecidableEq

/-- `long` and `int` parameters, which pybind11 checks. -/
def FitsLong (value : Int) : Prop := -2 ^ 63 ≤ value ∧ value < 2 ^ 63

def FitsInt (value : Int) : Prop := -2 ^ 31 ≤ value ∧ value < 2 ^ 31

instance (value : Int) : Decidable (FitsLong value) :=
  inferInstanceAs (Decidable (_ ∧ _))

instance (value : Int) : Decidable (FitsInt value) :=
  inferInstanceAs (Decidable (_ ∧ _))

/-- `PyMemorySystem`. The number of drives so far, which names their closures,
and the wire are not there in the source; no result depends on them. -/
structure PyMemorySystem {π : Type} (engine : Engine (CppCallback π)) where
  mem : engine.State
  completed : List (CompletionEvent π)
  completedCount : Int
  drives : Nat
  wire : List (Wire (CppCallback π))

namespace PyMemorySystem

variable {π : Type} {engine : Engine (CppCallback π)}

def create : PyMemorySystem engine where
  mem := engine.fresh
  completed := []
  completedCount := 0
  drives := 0
  wire := []

def pending (sys : PyMemorySystem engine) : Int :=
  engine.pendingRequests sys.mem

/-- How often `mem_->tick()` was called. -/
def ticks (sys : PyMemorySystem engine) : Nat :=
  sys.wire.countP fun
    | .ticked _ => true
    | _ => false

def complete (sys : PyMemorySystem engine) (served : Served (CppCallback π)) :
    PyMemorySystem engine :=
  let event (coreId : Int) (callback : π) : CompletionEvent π :=
    { addr := served.request.addr
      type := served.request.type
      arrive := served.arrive
      depart := served.depart
      coreId, callback }
  match served.request.callback with
  | .ignore => sys
  | .record callback coreid =>
      { sys with completed := sys.completed ++ [event coreid callback] }
  | .driven _ none => { sys with completedCount := sys.completedCount + 1 }
  | .driven _ (some callback) =>
      { sys with
        completed := sys.completed ++ [event served.request.coreid callback]
        completedCount := sys.completedCount + 1 }

/-- `tick`, and `mem_->tick()` wherever it is called. -/
def tick (sys : PyMemorySystem engine) : PyMemorySystem engine :=
  let (served, mem) := engine.tick sys.mem
  served.foldl complete { sys with mem, wire := sys.wire ++ [.ticked served] }

/-- `mem_->send(req)`. -/
def sendRequest (sys : PyMemorySystem engine)
    (request : Request (CppCallback π)) : Bool × PyMemorySystem engine :=
  let (accepted, mem) := engine.send sys.mem request
  (accepted, { sys with mem, wire := sys.wire ++ [.sent request accepted] })

/-- `make_callback`. -/
def makeCallback (type : RequestType) (callback : Option π) (coreid : Int) :
    CppCallback π :=
  match type, callback with
  | .read, some callback => .record callback coreid
  | _, _ => .ignore

/-- `send`. -/
def send (sys : PyMemorySystem engine) (addr : Int) (type : RequestType)
    (coreid : Int) (callback : Option π) :
    Except PyError Bool × PyMemorySystem engine :=
  if FitsLong addr ∧ FitsInt coreid then
    let (accepted, sys) := sys.sendRequest
      ⟨addr, type, coreid, makeCallback type callback coreid⟩
    (.ok accepted, sys)
  else (.error .typeError, sys)

/-- The loop of `send_batch`. -/
def sendEach (sys : PyMemorySystem engine) (type : RequestType) (coreid : Int)
    (callback : CppCallback π) :
    List Int → Except PyError (List Bool) × PyMemorySystem engine
  | [] => (.ok [], sys)
  | addr :: rest =>
      if FitsLong addr then
        let (accepted, sys) := sys.sendRequest ⟨addr, type, coreid, callback⟩
        let (flags, sys) := sys.sendEach type coreid callback rest
        (flags.map (accepted :: ·), sys)
      else (.error .castError, sys)

/-- `send_batch`. -/
def sendBatch (sys : PyMemorySystem engine) (addrs : List Int)
    (type : RequestType) (coreid : Int) (callback : Option π) :
    Except PyError (List Bool) × PyMemorySystem engine :=
  if FitsInt coreid then
    sys.sendEach type coreid (makeCallback type callback coreid) addrs
  else (.error .typeError, sys)

/-- The loop of `send_range`, with the number of requests that are left. -/
def sendStrided (sys : PyMemorySystem engine) (type : RequestType)
    (coreid : Int) (callback : CppCallback π) (stride : Int) :
    Nat → Int → List Bool × PyMemorySystem engine
  | 0, _ => ([], sys)
  | left + 1, addr =>
      let (accepted, sys) := sys.sendRequest ⟨addr, type, coreid, callback⟩
      let (flags, sys) :=
        sys.sendStrided type coreid callback stride left (addr + stride)
      (accepted :: flags, sys)

/-- `send_range`. -/
def sendRange (sys : PyMemorySystem engine) (start count stride : Int)
    (type : RequestType) (coreid : Int) (callback : Option π) :
    Except PyError (List Bool) × PyMemorySystem engine :=
  if FitsLong start ∧ FitsLong count ∧ FitsLong stride ∧ FitsInt coreid then
    let (flags, sys) := sys.sendStrided type coreid
      (makeCallback type callback coreid) stride count.toNat start
    (.ok flags, sys)
  else (.error .typeError, sys)

/-- `drain_completed`. -/
def drainCompleted (sys : PyMemorySystem engine) :
    List (CompletionEvent π) × PyMemorySystem engine :=
  (sys.completed, { sys with completed := [] })

abbrev Progress (engine : Engine (CppCallback π)) :=
  Except PyError (Int × List (CompletionEvent π)) × PyMemorySystem engine

def finish (cycles : Int) (sys : PyMemorySystem engine) : Progress engine :=
  let (events, sys) := sys.drainCompleted
  (.ok (cycles, events), sys)

/-- `run`. -/
def run (sys : PyMemorySystem engine) (cycles : Int) : Progress engine :=
  if FitsInt cycles then finish cycles (tick^[cycles.toNat] sys)
  else (.error .typeError, sys)

/-- The loop of `run_until_idle`, with the cycles that are left. -/
def idleLoop (sys : PyMemorySystem engine) : Nat → Nat × PyMemorySystem engine
  | 0 => (0, sys)
  | left + 1 =>
      if 0 < sys.pending then
        let (cycles, sys) := sys.tick.idleLoop left
        (cycles + 1, sys)
      else (0, sys)

/-- `run_until_idle`. -/
def runUntilIdle (sys : PyMemorySystem engine) (maxCycles : Int) :
    Progress engine :=
  if FitsLong maxCycles then
    let (cycles, sys) := sys.idleLoop maxCycles.toNat
    finish cycles sys
  else (.error .typeError, sys)

/-- `!completed_.empty() || mem_->pending_requests() == 0`. -/
def progressed (sys : PyMemorySystem engine) : Bool :=
  !sys.completed.isEmpty || sys.pending == 0

/-- The loop of `run_until_progress`, with the cycles that are left. -/
def progressLoop (sys : PyMemorySystem engine) : Nat → Nat × PyMemorySystem engine
  | 0 => (0, sys)
  | left + 1 =>
      let sys := sys.tick
      if sys.progressed then (1, sys)
      else
        let (cycles, sys) := sys.progressLoop left
        (cycles + 1, sys)

/-- `run_until_progress`. -/
def runUntilProgress (sys : PyMemorySystem engine) (maxCycles : Int) :
    Progress engine :=
  if FitsLong maxCycles then
    let (cycles, sys) := sys.progressLoop maxCycles.toNat
    finish cycles sys
  else (.error .typeError, sys)

end PyMemorySystem

end Pyramulator
