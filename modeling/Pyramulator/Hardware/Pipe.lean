import Pyramulator.Hardware.Component
import Pyramulator.Sim.Rule

namespace Pyramulator

/-! The pipeline stage of `hardware.py`. -/

/-- `Pipe`. The consumer is user code: it has control where the source calls
`self._consumer`. -/
structure Pipe (ι : Type) extends Component where
  latencyCycles : Int
  slots : Int
  latency_pos : 1 ≤ latencyCycles
  slots_pos : 1 ≤ slots
  inFlight : Int
  stalled : List ι
  retryEid : Option Nat
  deriving DecidableEq

/-- The closures a pipe schedules: `lambda: self._deliver(item)` and
`self._retry`. -/
inductive PipeEvent (ι : Type) where
  | deliver (item : ι)
  | retry
  deriving DecidableEq

/-- What a consumer answers: `False`, or anything else. -/
inductive Consumed where
  | refused
  | accepted
  deriving DecidableEq

namespace Pipe

variable {ι κ : Type}

/-- `Pipe.__init__`; the consumer is always given. -/
def create (component : Component) (latencyCycles slots : Int) :
    Except PyError (Pipe ι) :=
  if latency_pos : 1 ≤ latencyCycles then
    if slots_pos : 1 ≤ slots then
      .ok
        { toComponent := component
          latencyCycles, slots, latency_pos, slots_pos
          inFlight := 0
          stalled := []
          retryEid := none }
    else .error (.valueError s!"pipe slots must be positive, got {slots}")
  else .error (.valueError
    s!"pipe latency must be at least 1 cycle, got {latencyCycles}")

/-- `full`. -/
def full (pipe : Pipe ι) : Bool := pipe.slots ≤ pipe.inFlight

section

variable (closure : PipeEvent ι → κ)

/-- `put`. -/
def put (pipe : Pipe ι) (sim : Simulator κ) (item : ι) :
    Except PyError Bool × Simulator κ × Pipe ι :=
  if pipe.full then (.ok false, sim, pipe)
  else
    let pipe := { pipe with inFlight := pipe.inFlight + 1 }
    match pipe.scheduleCycles sim pipe.latencyCycles (closure (.deliver item)) with
    | (.ok _, sim) => (.ok true, sim, pipe)
    | (.error error, sim) => (.error error, sim, pipe)

/-- `self._retry_eid = self.schedule_cycles(1, self._retry)`. -/
def scheduleRetry (pipe : Pipe ι) (sim : Simulator κ) :
    Except PyError Unit × Simulator κ × Pipe ι :=
  match pipe.scheduleCycles sim 1 (closure .retry) with
  | (.ok eventId, sim) => (.ok (), sim, { pipe with retryEid := some eventId })
  | (.error error, sim) => (.error error, sim, pipe)

/-- `_deliver`, from the consumer's answer on. -/
def deliver (pipe : Pipe ι) (sim : Simulator κ) (item : ι) :
    Consumed → Except PyError Unit × Simulator κ × Pipe ι
  | .refused =>
      let pipe := { pipe with stalled := pipe.stalled ++ [item] }
      if pipe.retryEid = none then pipe.scheduleRetry closure sim
      else (.ok (), sim, pipe)
  | .accepted => (.ok (), sim, { pipe with inFlight := pipe.inFlight - 1 })

/-- `_retry`, before its loop. -/
def retry (pipe : Pipe ι) : Pipe ι := { pipe with retryEid := none }

/-- One round of the loop of `_retry`, from the consumer's answer on. The loop
goes on where the item was accepted. -/
def retryAnswer (pipe : Pipe ι) (sim : Simulator κ) :
    Consumed → Except PyError Unit × Simulator κ × Pipe ι
  | .refused => pipe.scheduleRetry closure sim
  | .accepted =>
      match pipe.stalled with
      | [] => (.error .indexError, sim, pipe)
      | _ :: rest =>
          (.ok (), sim,
            { pipe with stalled := rest, inFlight := pipe.inFlight - 1 })

/-! The checks of `schedule_cycles` never fail in a pipe. -/

theorem put_full {pipe : Pipe ι} (sim : Simulator κ) (item : ι)
    (full : pipe.full = true) :
    pipe.put closure sim item = (.ok false, sim, pipe) := by
  simp [put, full]

theorem put_accepted {pipe : Pipe ι} (sim : Simulator κ) (item : ι)
    (notFull : pipe.full = false) :
    pipe.put closure sim item =
      (.ok true,
        pipe.pushCycles sim pipe.latencyCycles (closure (.deliver item)) 0,
        { pipe with inFlight := pipe.inFlight + 1 }) := by
  have nonneg : 0 ≤ pipe.latencyCycles := by have := pipe.latency_pos; omega
  simp [put, notFull,
    pipe.toComponent.scheduleCycles_of_nonneg sim nonneg]

theorem scheduleRetry_eq (pipe : Pipe ι) (sim : Simulator κ) :
    pipe.scheduleRetry closure sim =
      (.ok (), pipe.pushCycles sim 1 (closure .retry) 0,
        { pipe with retryEid := some sim.seq }) := by
  simp [scheduleRetry,
    pipe.toComponent.scheduleCycles_of_nonneg sim Int.one_nonneg]

theorem deliver_refused_none {pipe : Pipe ι} (sim : Simulator κ) (item : ι)
    (unset : pipe.retryEid = none) :
    pipe.deliver closure sim item .refused =
      (.ok (), pipe.pushCycles sim 1 (closure .retry) 0,
        { pipe with
          stalled := pipe.stalled ++ [item]
          retryEid := some sim.seq }) := by
  simp [deliver, unset, scheduleRetry_eq]

theorem deliver_refused_some {pipe : Pipe ι} (sim : Simulator κ) (item : ι)
    {eventId : Nat} (set : pipe.retryEid = some eventId) :
    pipe.deliver closure sim item .refused =
      (.ok (), sim, { pipe with stalled := pipe.stalled ++ [item] }) := by
  simp [deliver, set]

end

end Pipe

structure Item (α : Type) where
  ticket : Nat
  value : α
  putAt : Int
  deriving DecidableEq

/-- What happened to the items of a pipe; no definition of the model reads it. -/
inductive PipeNote (α : Type) where
  | put (item : Item α)
  | offered (item : Item α) (now : Int)
  | accepted (item : Item α)
  deriving DecidableEq

/-- The callbacks on the simulator and the positions at which user code runs:
the pipe's two, the consumer called from the loop of `_retry`, and user code's
own events. -/
inductive PipeCode (α η : Type) where
  | pipe (event : PipeEvent (Item α))
  | retryOffer (item : Item α)
  | host (tag : η)
  deriving DecidableEq

structure PipeWorld (α : Type) where
  pipe : Pipe (Item α)
  /-- The ids of the events that user code scheduled, which it may cancel. -/
  hostIds : List Nat
  notes : List (PipeNote α)

inductive PipeOp (α η : Type) where
  | put (value : α)
  | schedule (delay : Int) (tag : η) (priority : Int)
  | at_ (time : Int) (tag : η) (priority : Int)
  | cancel (handle : Nat)
  | nextTime
  | advanceTo (time : Int)

inductive PipeValue where
  | flag (value : Bool)
  | handle (value : Nat)
  | time (value : Option Int)
  | none_

namespace PipeWorld

variable {α η : Type}

def puts (world : PipeWorld α) : List (Item α) :=
  world.notes.filterMap fun
    | .put item => some item
    | _ => none

def accepted (world : PipeWorld α) : List (Item α) :=
  world.notes.filterMap fun
    | .accepted item => some item
    | _ => none

def offers [DecidableEq α] (world : PipeWorld α) (item : Item α) : List Int :=
  world.notes.filterMap fun
    | .offered other now => if other = item then some now else none
    | _ => none

def note (world : PipeWorld α) (entry : PipeNote α) : PipeWorld α :=
  { world with notes := world.notes ++ [entry] }

def create (pipe : Pipe (Item α)) : PipeWorld α := ⟨pipe, [], []⟩

@[simp] theorem note_pipe (world : PipeWorld α) (entry : PipeNote α) :
    (world.note entry).pipe = world.pipe := rfl

@[simp] theorem note_hostIds (world : PipeWorld α) (entry : PipeNote α) :
    (world.note entry).hostIds = world.hostIds := rfl

@[simp] theorem note_notes (world : PipeWorld α) (entry : PipeNote α) :
    (world.note entry).notes = world.notes ++ [entry] := rfl

/-- The result of scheduling an event of user code, which is told its number. -/
def scheduled (world : PipeWorld α) :
    Except PyError Nat × Simulator (PipeCode α η) →
      Except PyError PipeValue × Simulator (PipeCode α η) × PipeWorld α
  | (.ok eventId, sim) =>
      (.ok (.handle world.hostIds.length), sim,
        { world with hostIds := world.hostIds ++ [eventId] })
  | (.error error, sim) => (.error error, sim, world)

def exec (op : PipeOp α η) (sim : Simulator (PipeCode α η))
    (world : PipeWorld α) :
    Except PyError PipeValue × Simulator (PipeCode α η) × PipeWorld α :=
  match op with
  | .put value =>
      let item : Item α := ⟨world.puts.length, value, sim.now⟩
      match world.pipe.put PipeCode.pipe sim item with
      | (.ok true, sim, pipe) =>
          (.ok (.flag true), sim, { world with pipe }.note (.put item))
      | (.ok false, sim, pipe) => (.ok (.flag false), sim, { world with pipe })
      | (.error error, sim, pipe) => (.error error, sim, { world with pipe })
  | .schedule delay tag priority =>
      world.scheduled (sim.schedule delay (.host tag) priority)
  | .at_ time tag priority =>
      world.scheduled (sim.at_ time (.host tag) priority)
  | .cancel handle =>
      match world.hostIds[handle]? with
      | some eventId =>
          let (result, sim) := sim.cancel eventId
          (.ok (.flag result), sim, world)
      | none => (.ok (.flag false), sim, world)
  | .nextTime =>
      let (result, sim) := sim.nextTime
      (.ok (.time result), sim, world)
  | .advanceTo time =>
      let (result, sim) := sim.advanceTo time
      (result.map fun _ => .none_, sim, world)

/-- The head of the loop of `_retry`: offer the first stalled item. -/
def retryLoop (sim : Simulator (PipeCode α η)) (world : PipeWorld α) :
    Outcome (PipeCode α η) (PipeWorld α) :=
  match world.pipe.stalled with
  | [] => .done sim world
  | item :: _ =>
      .user (.retryOffer item) sim (world.note (.offered item sim.now))

def enter (code : PipeCode α η) (sim : Simulator (PipeCode α η))
    (world : PipeWorld α) : Outcome (PipeCode α η) (PipeWorld α) :=
  match code with
  | .pipe (.deliver item) => .user code sim (world.note (.offered item sim.now))
  | .pipe .retry => retryLoop sim { world with pipe := world.pipe.retry }
  | .retryOffer _ => .done sim world
  | .host _ => .user code sim world

def settled (world : PipeWorld α) :
    Except PyError Unit × Simulator (PipeCode α η) × Pipe (Item α) →
      Outcome (PipeCode α η) (PipeWorld α)
  | (.ok (), sim, pipe) => .done sim { world with pipe }
  | (.error error, sim, pipe) => .raised error sim { world with pipe }

def resume (code : PipeCode α η) (answer : Consumed)
    (sim : Simulator (PipeCode α η)) (world : PipeWorld α) :
    Outcome (PipeCode α η) (PipeWorld α) :=
  match code with
  | .pipe (.deliver item) =>
      match answer with
      | .refused => world.settled (world.pipe.deliver PipeCode.pipe sim item .refused)
      | .accepted =>
          let world := world.note (.accepted item)
          world.settled (world.pipe.deliver PipeCode.pipe sim item .accepted)
  | .retryOffer item =>
      match answer with
      | .refused => world.settled (world.pipe.retryAnswer PipeCode.pipe sim .refused)
      | .accepted =>
          let world := world.note (.accepted item)
          match world.pipe.retryAnswer PipeCode.pipe sim .accepted with
          | (.ok (), sim, pipe) => retryLoop sim { world with pipe }
          | (.error error, sim, pipe) => .raised error sim { world with pipe }
  | .pipe .retry => .done sim world
  | .host _ => .done sim world

end PipeWorld

@[reducible] def pipeSystem (α η : Type) : System where
  Callback := PipeCode α η
  World := PipeWorld α
  Op := PipeOp α η
  Value := PipeValue
  Answer := Consumed
  Wait := Empty
  exec := PipeWorld.exec
  enter := PipeWorld.enter
  resume := PipeWorld.resume
  waiting target _ := target.elim
  stalled := .runtimeError ""
  overrun _ := .runtimeError ""

end Pyramulator
