import Pyramulator.Sim.Coherence

namespace Pyramulator

/-! The bare kernel: every callback is user code. -/

/-- The calls of `Simulator` that do not run events. -/
inductive KernelOp (κ : Type) where
  | schedule (delay : Int) (callback : κ) (priority : Int)
      (source : Option String)
  | at_ (time : Int) (callback : κ) (priority : Int) (source : Option String)
  | cancel (eventId : Nat)
  | nextTime
  | advanceTo (time : Int)

inductive KernelValue where
  | eventId (value : Nat)
  | flag (value : Bool)
  | time (value : Option Int)
  | none_

namespace KernelOp

variable {κ : Type}

def exec (op : KernelOp κ) (sim : Simulator κ) :
    Except PyError KernelValue × Simulator κ :=
  match op with
  | .schedule delay callback priority source =>
      let (result, sim) := sim.schedule delay callback priority source
      (result.map .eventId, sim)
  | .at_ time callback priority source =>
      let (result, sim) := sim.at_ time callback priority source
      (result.map .eventId, sim)
  | .cancel eventId =>
      let (result, sim) := sim.cancel eventId
      (.ok (.flag result), sim)
  | .nextTime =>
      let (result, sim) := sim.nextTime
      (.ok (.time result), sim)
  | .advanceTo time =>
      let (result, sim) := sim.advanceTo time
      (result.map fun _ => .none_, sim)

theorem exec_calls (op : KernelOp κ) (sim : Simulator κ) :
    Simulator.Calls sim (op.exec sim).2 := by
  cases op with
  | schedule => exact Simulator.schedule_calls sim _ _ _ _
  | at_ => exact Simulator.at_calls sim _ _ _ _
  | cancel eventId => exact .single (.cancel eventId)
  | nextTime => exact .single .peek
  | advanceTo time => exact Simulator.advanceTo_calls sim time

end KernelOp

@[reducible] def kernel (κ : Type) : System where
  Callback := κ
  World := Unit
  Op := KernelOp κ
  Value := KernelValue
  Answer := Unit
  Wait := Empty
  exec op sim world :=
    let (result, sim) := op.exec sim
    (result, sim, world)
  enter code sim world := .user code sim world
  resume _ _ sim world := .done sim world
  waiting target _ := target.elim
  stalled := .runtimeError ""
  overrun _ := .runtimeError ""

theorem kernel_lawful (κ : Type) : (kernel κ).Lawful where
  exec op sim _ := op.exec_calls sim
  enter _ _ _ := .refl
  resume _ _ _ _ := .refl

namespace Kernel

open Config (firedEvents firedEvents_append)

variable {κ : Type}

/-- The ids that `schedule` and `at` returned. -/
def scheduledIds (log : List (Entry (kernel κ))) : List Nat :=
  log.filterMap fun
    | .called (.schedule _ _ _ _) (.ok (.eventId eventId)) => some eventId
    | .called (.at_ _ _ _ _) (.ok (.eventId eventId)) => some eventId
    | _ => none

/-- The ids for which `cancel` returned True. -/
def cancelledIds (log : List (Entry (kernel κ))) : List Nat :=
  log.filterMap fun
    | .called (.cancel eventId) (.ok (.flag true)) => some eventId
    | _ => none

def returnedEvents (log : List (Entry (kernel κ))) : List (Event κ) :=
  log.filterMap fun
    | .returned event => some event
    | _ => none

def openEvents (stack : List (Frame (kernel κ))) : List (Event κ) :=
  stack.filterMap fun
    | .callback event _ => some event
    | _ => none

def firedIds (log : List (Entry (kernel κ))) : List Nat :=
  (firedEvents log).map Event.seq

def liveIds (sim : Simulator κ) : List Nat := sim.liveEvents.map Event.seq

@[simp] theorem scheduledIds_append (first second : List (Entry (kernel κ))) :
    scheduledIds (first ++ second) = scheduledIds first ++ scheduledIds second :=
  List.filterMap_append

@[simp] theorem cancelledIds_append (first second : List (Entry (kernel κ))) :
    cancelledIds (first ++ second) = cancelledIds first ++ cancelledIds second :=
  List.filterMap_append

@[simp] theorem returnedEvents_append (first second : List (Entry (kernel κ))) :
    returnedEvents (first ++ second) =
      returnedEvents first ++ returnedEvents second :=
  List.filterMap_append

def after (decisions : List (Decision (kernel κ))) : Config (kernel κ) :=
  Transition.run Config.advance (Config.init ()) decisions

theorem after_coherent (decisions : List (Decision (kernel κ))) :
    (after decisions).Coherent :=
  Config.run_coherent (kernel_lawful κ) () decisions

end Kernel

end Pyramulator
