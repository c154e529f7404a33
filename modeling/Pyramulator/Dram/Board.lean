import Pyramulator.Dram.System

namespace Pyramulator

/-! A component that is alone on its DRAM, as a system. No callback is user code. -/

variable {γ η C Op α β : Type}

structure Board (η : Type) {γ : Type} (setup : DramSetup γ) (C : Type) where
  sim : Simulator (DramCode Unit γ η)
  dram : Dram setup.engine
  component : C

namespace Board

variable {setup : DramSetup γ}

def memory (board : Board η setup C) : Device (DramCode Unit γ η) setup.engine :=
  ⟨board.sim, board.dram⟩

def fired (board : Board η setup C) (event : Event (DramCode Unit γ η)) :
    Board η setup C :=
  { board with sim := board.sim.fireNext event }

abbrev Call (η : Type) {γ : Type} (setup : DramSetup γ) (C α : Type) :=
  Method PyError (Board η setup C) α

def onDram (call : Device.Call (DramCode Unit γ η) setup.engine α) : Call η setup C α :=
  fun board =>
    let (result, after) := call board.memory
    (result, { board with sim := after.sim, dram := after.dram })

def assign (change : C → C) : Call η setup C Unit :=
  .modify fun board => { board with component := change board.component }

end Board

/-- The code of a component: what may be called from outside, and what its own callbacks
do. -/
structure Firmware (η : Type) {γ : Type} (setup : DramSetup γ) (C Op : Type) where
  initial : C
  call : Op → Board.Call η setup C Unit
  completion : γ → RequestInfo → Board.Call η setup C Unit
  host : η → Board.Call η setup C Unit

namespace Firmware

variable [DecidableEq γ] {setup : DramSetup γ}

def callback (firmware : Firmware η setup C Op) :
    DramCode Unit γ η → Board.Call η setup C Unit
  | .dram () .tick => Board.onDram (Dram.tick (.dram ()))
  | .dram () .idleTick => Board.onDram (Dram.idleTick (.dram ()))
  | .dram () (.completion callback info) => firmware.completion callback info
  | .host tag => firmware.host tag

end Firmware

/-- The two components. The calls from outside so far, and whether a method raised, are
not there in the source. -/
structure BoardWorld {γ : Type} (setup : DramSetup γ) (C Op : Type) where
  dram : Dram setup.engine
  component : C
  calls : List Op
  failed : Bool

inductive BoardOp (Op : Type) where
  | build
  | call (op : Op)
  deriving DecidableEq

namespace BoardWorld

variable {setup : DramSetup γ}

def board (world : BoardWorld setup C Op) (sim : Simulator (DramCode Unit γ η)) :
    Board η setup C := ⟨sim, world.dram, world.component⟩

def perform (method : Board.Call η setup C Unit) (sim : Simulator (DramCode Unit γ η))
    (world : BoardWorld setup C Op) :
    Except PyError Unit × Simulator (DramCode Unit γ η) × BoardWorld setup C Op :=
  let (result, after) := method (world.board sim)
  (result, after.sim,
    { world with
      dram := after.dram
      component := after.component
      failed := world.failed || !result.isOk })

variable [DecidableEq γ] (firmware : Firmware η setup C Op)

/-- The component is the one that its `__init__` returns, which only keeps the DRAM it
is given. -/
def exec (op : BoardOp Op) (sim : Simulator (DramCode Unit γ η))
    (world : Option (BoardWorld setup C Op)) :
    Except PyError Unit × Simulator (DramCode Unit γ η) × Option
      (BoardWorld setup C Op) :=
  match op, world with
  | .build, some _ => (.ok (), sim, world)
  | .build, none =>
      match Dram.create (.dram ()) setup sim with
      | (.ok dram, sim) => (.ok (), sim, some ⟨dram, firmware.initial, [], false⟩)
      | (.error error, sim) => (.error error, sim, none)
  | .call _, none => (.ok (), sim, none)
  | .call op, some world =>
      let (result, sim, world) := world.perform (firmware.call op) sim
      (result, sim, some { world with calls := world.calls ++ [op] })

def enter (code : DramCode Unit γ η) (sim : Simulator (DramCode Unit γ η))
    (world : Option (BoardWorld setup C Op)) :
    Outcome (DramCode Unit γ η) (Option (BoardWorld setup C Op)) :=
  match world with
  | none => .done sim none
  | some world =>
      match world.perform (firmware.callback code) sim with
      | (.ok (), sim, world) => .done sim (some world)
      | (.error error, sim, world) => .raised error sim (some world)

/-- The loop condition of `Dram.flush`. -/
def waiting (world : Option (BoardWorld setup C Op)) : Bool :=
  world.any fun world => 0 < world.dram.pending

end BoardWorld

@[reducible] def boardSystem [DecidableEq γ] {setup : DramSetup γ}
    (firmware : Firmware η setup C Op) : System where
  Callback := DramCode Unit γ η
  World := Option (BoardWorld setup C Op)
  Op := BoardOp Op
  Value := Unit
  Answer := Empty
  Wait := Unit
  exec := BoardWorld.exec firmware
  enter := BoardWorld.enter firmware
  resume _ answer _ _ := answer.elim
  waiting _ := BoardWorld.waiting
  stalled := .runtimeError "simulator stalled before DRAM drained"
  overrun maxEvents := .runtimeError s!"DRAM not drained within {maxEvents} events"

end Pyramulator
