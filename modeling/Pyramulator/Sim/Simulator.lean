import Mathlib.Algebra.Order.Ring.Int
import Mathlib.Data.Prod.Lex
import Pyramulator.Data.Queue

namespace Pyramulator

/-! The discrete-event kernel of `sim.py`. Callbacks are values of a type the
kernel does not look at: what a callback does is said by the code that runs on
the kernel. -/

inductive PyError where
  | valueError (message : String)
  /-- A value error that shows a text, by its `repr`, between two others. -/
  | valueErrorOf (before text after : String)
  | runtimeError (message : String)
  | overflowError (message : String)
  | typeError
  /-- An element of a list that `item.cast<long>()` refuses. -/
  | castError
  /-- `deque.popleft` of an empty deque. -/
  | indexError
  | user (tag : Nat)
  deriving DecidableEq, Repr

/-- `_Event`. -/
structure Event (κ : Type) where
  time : Int
  priority : Int
  seq : Nat
  callback : κ
  cancelled : Bool
  deriving DecidableEq, Repr

namespace Event

/-- The order of `__lt__`: by time, then priority, then insertion. -/
abbrev Key := Int ×ₗ Int ×ₗ Nat

variable {κ : Type}

def key (event : Event κ) : Key :=
  toLex (event.time, toLex (event.priority, event.seq))

theorem key_lt_iff {first second : Event κ} :
    first.key < second.key ↔
      first.time < second.time ∨ first.time = second.time ∧
        (first.priority < second.priority ∨
          first.priority = second.priority ∧ first.seq < second.seq) := by
  simp [key, Prod.Lex.toLex_lt_toLex]

theorem key_le_iff {first second : Event κ} :
    first.key ≤ second.key ↔
      first.time < second.time ∨ first.time = second.time ∧
        (first.priority < second.priority ∨
          first.priority = second.priority ∧ first.seq ≤ second.seq) := by
  simp [key, Prod.Lex.toLex_le_toLex]

theorem key_ne {first second : Event κ} (distinct : first.seq ≠ second.seq) :
    first.key ≠ second.key := by
  intro same
  simp [key] at same
  exact distinct same.2.2

/-- `event.cancelled = True`. -/
def cancel (event : Event κ) : Event κ := { event with cancelled := true }

@[simp] theorem cancel_seq (event : Event κ) : event.cancel.seq = event.seq := rfl

@[simp] theorem cancel_key (event : Event κ) : event.cancel.key = event.key := rfl

@[simp] theorem cancel_cancelled (event : Event κ) :
    event.cancel.cancelled = true := rfl

end Event

/-- `collections.Counter`: how often each key was counted. -/
abbrev Counter (α : Type) := List (α × Nat)

namespace Counter

variable {α : Type}

/-- `counter[key] += 1`. -/
def increment [DecidableEq α] (key : α) : Counter α → Counter α
  | [] => [(key, 1)]
  | (other, count) :: rest =>
      if other = key then (other, count + 1) :: rest
      else (other, count) :: increment key rest

def total (counter : Counter α) : Nat := (counter.map Prod.snd).sum

@[simp] theorem total_nil : total ([] : Counter α) = 0 := rfl

@[simp] theorem total_increment [DecidableEq α] (key : α) (counter : Counter α) :
    (increment key counter).total = counter.total + 1 := by
  induction counter with
  | nil => rfl
  | cons head rest induction =>
      rcases head with ⟨other, count⟩
      by_cases same : other = key
      · simp [increment, total, same]
        omega
      · simp only [increment, same, if_false]
        simp only [total, List.map_cons, List.sum_cons] at induction ⊢
        omega

end Counter

/-- `Simulator`. The heap is kept in the order of its keys, so that `heap[0]` is
its head; `byId` holds the keys of the dictionary `_by_id`, whose values are the
heap's own events. -/
structure Simulator (κ : Type) where
  heap : List (Event κ)
  byId : List Nat
  seq : Nat
  now : Int
  processed : Nat
  live : Int
  sources : Counter (Option String)
  runUntil : Option Int
  deriving DecidableEq

namespace Simulator

variable {κ : Type}

/-- `Simulator.__init__`. -/
def init : Simulator κ where
  heap := []
  byId := []
  seq := 0
  now := 0
  processed := 0
  live := 0
  sources := []
  runUntil := none

/-- `Simulator.pending`. -/
def pending (sim : Simulator κ) : Int := sim.live

/-- `_push`. -/
def push (sim : Simulator κ) (time : Int) (callback : κ) (priority : Int)
    (source : Option String) : Nat × Simulator κ :=
  let event : Event κ :=
    { time, priority, seq := sim.seq, callback, cancelled := false }
  (event.seq,
    { sim with
      seq := sim.seq + 1
      heap := Queue.insert Event.key event sim.heap
      live := sim.live + 1
      sources := sim.sources.increment source
      byId := sim.byId ++ [event.seq] })

/-- `schedule`. -/
def schedule (sim : Simulator κ) (delay : Int) (callback : κ)
    (priority : Int := 0) (source : Option String := none) :
    Except PyError Nat × Simulator κ :=
  if delay < 0 then
    (.error (.valueError s!"negative delay {delay}"), sim)
  else
    let (eventId, sim) := sim.push (sim.now + delay) callback priority source
    (.ok eventId, sim)

/-- `at`. -/
def at_ (sim : Simulator κ) (time : Int) (callback : κ)
    (priority : Int := 0) (source : Option String := none) :
    Except PyError Nat × Simulator κ :=
  if time < sim.now then
    (.error (.valueError s!"cannot schedule at {time} < now {sim.now}"), sim)
  else
    let (eventId, sim) := sim.push time callback priority source
    (.ok eventId, sim)

def markCancelled (eventId : Nat) (heap : List (Event κ)) : List (Event κ) :=
  heap.map fun event => if event.seq = eventId then event.cancel else event

/-- `cancel`. -/
def cancel (sim : Simulator κ) (eventId : Nat) : Bool × Simulator κ :=
  if eventId ∈ sim.byId ∧
      ¬ sim.heap.any (fun event => event.seq = eventId && event.cancelled) then
    (true,
      { sim with
        heap := markCancelled eventId sim.heap
        live := sim.live - 1 })
  else (false, sim)

/-- The loop of `_peek`: cancelled events at the root leave the heap. -/
def dropCancelled : List (Event κ) → List Nat → List (Event κ) × List Nat
  | [], byId => ([], byId)
  | event :: rest, byId =>
      if event.cancelled then dropCancelled rest (byId.erase event.seq)
      else (event :: rest, byId)

/-- `_peek`. -/
def peek (sim : Simulator κ) : Option (Event κ) × Simulator κ :=
  let (heap, byId) := dropCancelled sim.heap sim.byId
  (heap.head?, { sim with heap, byId })

/-- `next_time`. -/
def nextTime (sim : Simulator κ) : Option Int × Simulator κ :=
  let (event, sim) := sim.peek
  (event.map Event.time, sim)

/-- `_advance_to`. -/
def advanceTo (sim : Simulator κ) (time : Int) :
    Except PyError Unit × Simulator κ :=
  if time < sim.now then
    (.error (.valueError s!"cannot advance to {time} < now {sim.now}"), sim)
  else
    let (next, sim) := sim.peek
    match next.filter fun event => event.time < time with
    | some event =>
        (.error (.runtimeError
          s!"cannot advance to {time}: event pending at {event.time}"), sim)
    | none =>
        match sim.runUntil.filter fun until_ => until_ < time with
        | some until_ =>
            (.error (.runtimeError
              s!"cannot advance to {time}: run until {until_}"), sim)
        | none => (.ok (), { sim with now := time })

/-- `heapq.heappop`, of the root. -/
def heappop (sim : Simulator κ) : Simulator κ :=
  { sim with heap := sim.heap.tail }

/-- `_fire` up to the call of the callback. -/
def startFire (sim : Simulator κ) (event : Event κ) : Simulator κ :=
  { sim with
    live := sim.live - 1
    now := event.time
    byId := sim.byId.erase event.seq }

/-- `_fire` after the callback returned. -/
def endFire (sim : Simulator κ) : Simulator κ :=
  { sim with processed := sim.processed + 1 }

end Simulator

end Pyramulator
