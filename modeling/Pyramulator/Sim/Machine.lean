import Pyramulator.Data.Transition
import Pyramulator.Sim.Agenda

namespace Pyramulator

/-! `step`, `run` and the loops built on them call user code, which may call
them again. The kernel is therefore a machine with a stack: one frame for each
kernel loop and each callback that has not returned. User code is not modelled;
it decides, whenever it has control, what to do next. -/

/-- Where a piece of component code stops: it returned, it called user code
that has to answer it at `code`, or it raised. -/
inductive Outcome (κ World : Type) where
  | done (sim : Simulator κ) (world : World)
  | user (code : κ) (sim : Simulator κ) (world : World)
  | raised (error : PyError) (sim : Simulator κ) (world : World)

namespace Outcome

variable {κ World : Type}

def sim : Outcome κ World → Simulator κ
  | .done sim _ | .user _ sim _ | .raised _ sim _ => sim

def world : Outcome κ World → World
  | .done _ world | .user _ _ world | .raised _ _ world => world

end Outcome

/-- The components on a simulator: their state, the calls they offer to user
code and the code behind their callbacks. -/
structure System where
  Callback : Type
  World : Type
  /-- A call that returns without letting the simulator run. -/
  Op : Type
  Value : Type
  /-- What user code returns to the component code that called it. -/
  Answer : Type
  /-- What a barrier such as `Dram.flush` waits for. -/
  Wait : Type
  exec : Op → Simulator Callback → World →
    Except PyError Value × Simulator Callback × World
  enter : Callback → Simulator Callback → World → Outcome Callback World
  resume : Callback → Answer → Simulator Callback → World →
    Outcome Callback World
  waiting : Wait → World → Bool
  stalled : PyError
  overrun : Int → PyError

inductive Frame (S : System) where
  | callback (event : Event S.Callback) (code : S.Callback)
  | step
  | run (until_ : Option Int) (maxEvents : Option Int) (start : Nat)
      (prevUntil : Option Int)
  | wait (target : S.Wait) (processed : Int) (maxEvents : Int)

inductive Decision (S : System) where
  | call (op : S.Op)
  | step
  | run (until_ : Option Int) (maxEvents : Option Int)
  | wait (target : S.Wait) (maxEvents : Int)
  | answer (value : S.Answer)
  | raise (error : PyError)

inductive Entry (S : System) where
  | fired (event : Event S.Callback) (now : Int)
  | returned (event : Event S.Callback)
  | called (op : S.Op) (result : Except PyError S.Value)
  | stepped (result : Bool)
  | ran (count : Nat)
  | waited (count : Int)
  | overran
  | raised (error : PyError)

/-- `run_until_idle`. -/
def Decision.runUntilIdle {S : System} (maxEvents : Option Int) : Decision S :=
  .run none maxEvents

structure Config (S : System) where
  sim : Simulator S.Callback
  world : S.World
  stack : List (Frame S)
  log : List (Entry S)

namespace Config

variable {S : System}

def record (config : Config S) (entry : Entry S) : Config S :=
  { config with log := config.log ++ [entry] }

/-- An exception passes through kernel code, where each `run` puts the previous
horizon back, to the user code that called it. -/
def unwind : List (Frame S) → Option Int → List (Frame S) × Option Int
  | .step :: rest, runUntil => unwind rest runUntil
  | .run _ _ _ prevUntil :: rest, _ => unwind rest prevUntil
  | .wait _ _ _ :: rest, runUntil => unwind rest runUntil
  | stack, runUntil => (stack, runUntil)

/-- Raise in code that was called by the frames `rest`. -/
def propagate (config : Config S) (rest : List (Frame S)) (error : PyError) :
    Config S :=
  let (stack, runUntil) := unwind rest config.sim.runUntil
  { config with
    sim := { config.sim with runUntil }
    stack
    log := config.log ++ [.raised error] }

/-- A callback returned to the frames `rest`: `_fire` ends, and with it `step`
or one round of the loop that called it. -/
def returnTo (config : Config S) (event : Event S.Callback)
    (rest : List (Frame S)) : Config S :=
  let config := { config with sim := config.sim.endFire, stack := rest }
  let config := config.record (.returned event)
  match rest with
  | .step :: rest => { config with stack := rest }.record (.stepped true)
  | .wait target processed maxEvents :: rest =>
      if maxEvents ≤ processed + 1 then
        (config.record .overran).propagate rest (S.overrun maxEvents)
      else
        { config with stack := .wait target (processed + 1) maxEvents :: rest }
  | _ => config

/-- Component code called by the frames `rest` stopped. -/
def settle (config : Config S) (event : Event S.Callback)
    (rest : List (Frame S)) : Outcome S.Callback S.World → Config S
  | .done sim world => { config with sim, world }.returnTo event rest
  | .user code sim world =>
      { config with sim, world, stack := .callback event code :: rest }
  | .raised error sim world => { config with sim, world }.propagate rest error

/-- `heappop` and `_fire` of the next event, called by the frames `rest`. -/
def fire (config : Config S) (event : Event S.Callback)
    (rest : List (Frame S)) : Config S :=
  let sim := config.sim.fireNext event
  { config with sim }.record (.fired event sim.now) |>.settle event rest
    (S.enter event.callback sim config.world)

/-- One round of the loop of `run`. -/
def runLoop (config : Config S) (until_ maxEvents : Option Int) (start : Nat)
    (prevUntil : Option Int) (rest : List (Frame S)) : Config S :=
  let finish (sim : Simulator S.Callback) : Config S :=
    { config with sim := { sim with runUntil := prevUntil }, stack := rest }
      |>.record (.ran (sim.processed - start))
  if maxEvents.any fun bound => bound ≤ (config.sim.processed - start : Int) then
    finish config.sim
  else
    match config.sim.peek with
    | (none, sim) => finish sim
    | (some event, sim) =>
        if until_.any fun bound => bound < event.time then finish sim
        else config.fire event (.run until_ maxEvents start prevUntil :: rest)

def waitLoop (config : Config S) (target : S.Wait) (processed maxEvents : Int)
    (rest : List (Frame S)) : Config S :=
  if S.waiting target config.world then
    match config.sim.peek with
    | (none, sim) => { config with sim }.propagate rest S.stalled
    | (some event, _) =>
        config.fire event (.wait target processed maxEvents :: rest)
  else { config with stack := rest }.record (.waited processed)

def act (config : Config S) : Decision S → Config S
  | .call op =>
      let (result, sim, world) := S.exec op config.sim config.world
      { config with sim, world }.record (.called op result)
  | .step =>
      match config.sim.peek with
      | (none, sim) => { config with sim }.record (.stepped false)
      | (some event, _) => config.fire event (.step :: config.stack)
  | .run until_ maxEvents =>
      { config with
        sim := { config.sim with runUntil := until_ }
        stack := .run until_ maxEvents config.sim.processed config.sim.runUntil
          :: config.stack }
  | .wait target maxEvents =>
      { config with stack := .wait target 0 maxEvents :: config.stack }
  | .answer value =>
      match config.stack with
      | .callback event code :: rest =>
          config.settle event rest
            (S.resume code value config.sim config.world)
      | _ => config
  | .raise error =>
      match config.stack with
      | .callback _ _ :: rest => config.propagate rest error
      | _ => config

/-- One step: a round of the loop on top of the stack, or an act of user code. -/
def advance (config : Config S) (decision : Decision S) : Config S :=
  match config.stack with
  | .run until_ maxEvents start prevUntil :: rest =>
      config.runLoop until_ maxEvents start prevUntil rest
  | .wait target processed maxEvents :: rest =>
      config.waitLoop target processed maxEvents rest
  | _ => config.act decision

def Fires (config : Config S) (decision : Decision S)
    (event : Event S.Callback) : Prop :=
  ∃ rest, config.advance decision = config.fire event rest

def codes (stack : List (Frame S)) : List S.Callback :=
  stack.filterMap fun
    | .callback _ code => some code
    | _ => none

def firedEvents (log : List (Entry S)) : List (Event S.Callback) :=
  log.filterMap fun
    | .fired event _ => some event
    | _ => none

@[simp] theorem firedEvents_append (first second : List (Entry S)) :
    firedEvents (first ++ second) = firedEvents first ++ firedEvents second :=
  List.filterMap_append

/-! The kernel does not touch the components. -/

@[simp] theorem propagate_world (config : Config S) (rest : List (Frame S))
    (error : PyError) : (config.propagate rest error).world = config.world := rfl

@[simp] theorem returnTo_world (config : Config S) (event : Event S.Callback)
    (rest : List (Frame S)) : (config.returnTo event rest).world = config.world := by
  unfold returnTo
  rcases rest with _ | ⟨_ | _ | _ | _, rest⟩
  · rfl
  · rfl
  · rfl
  · rfl
  · simp only [record]
    split <;> rfl

theorem settle_world (config : Config S) (event : Event S.Callback)
    (rest : List (Frame S)) (outcome : Outcome S.Callback S.World) :
    (config.settle event rest outcome).world = outcome.world := by
  cases outcome with
  | done sim world => exact returnTo_world _ event rest
  | user code sim world => rfl
  | raised error sim world => rfl

def init (world : S.World) : Config S where
  sim := Simulator.init
  world
  stack := []
  log := []

end Config

end Pyramulator
