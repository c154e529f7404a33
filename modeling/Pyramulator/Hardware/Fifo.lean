import Pyramulator.Hardware.Component

namespace Pyramulator

/-! The bounded queue of `hardware.py`. -/

/-- `FIFO`. It never holds more than it may. -/
structure Fifo (ι : Type) extends Component where
  capacity : Int
  items : List ι
  capacity_pos : 1 ≤ capacity
  level_le : items.length ≤ capacity

namespace Fifo

variable {ι : Type}

/-- `FIFO.__init__`. -/
def create (component : Component) (capacity : Int) : Except PyError (Fifo ι) :=
  if capacity_pos : 1 ≤ capacity then
    .ok
      { toComponent := component
        capacity, capacity_pos
        items := []
        level_le := by simp only [List.length_nil]; omega }
  else .error (.valueError s!"FIFO capacity must be positive, got {capacity}")

/-- `level`. -/
def level (fifo : Fifo ι) : Int := fifo.items.length

/-- `full`. -/
def full (fifo : Fifo ι) : Bool := fifo.capacity ≤ fifo.level

/-- `put`. -/
def put (fifo : Fifo ι) (item : ι) : Bool × Fifo ι :=
  if full : fifo.full = true then (false, fifo)
  else
    (true,
      { fifo with
        items := fifo.items ++ [item]
        level_le := by
          have room : ¬ fifo.capacity ≤ fifo.level := by
            simpa only [Fifo.full, decide_eq_true_eq] using full
          simp only [level] at room
          rw [List.length_append, List.length_singleton]
          omega })

def tail (fifo : Fifo ι) : Fifo ι :=
  { fifo with
    items := fifo.items.tail
    level_le := by
      have := fifo.level_le
      simp only [List.length_tail]
      omega }

/-- `get`. -/
def get (fifo : Fifo ι) : Except PyError ι × Fifo ι :=
  match fifo.items with
  | [] => (.error .indexError, fifo)
  | item :: _ => (.ok item, fifo.tail)

/-- `peek`. -/
def peek (fifo : Fifo ι) : Option ι := fifo.items.head?

theorem put_full {fifo : Fifo ι} (item : ι) (full : fifo.full = true) :
    fifo.put item = (false, fifo) := by
  simp [put, full]

theorem put_accepted {fifo : Fifo ι} (item : ι) (notFull : fifo.full = false) :
    (fifo.put item).1 = true ∧ (fifo.put item).2.items = fifo.items ++ [item] := by
  simp [put, notFull]

theorem get_cons {fifo : Fifo ι} {item : ι} {rest : List ι}
    (items : fifo.items = item :: rest) :
    fifo.get = (.ok item, fifo.tail) ∧ fifo.tail.items = rest := by
  simp only [get, tail, items, List.tail_cons, and_self]

end Fifo

end Pyramulator
