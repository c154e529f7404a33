import Pyramulator.Dram.Device
import Pyramulator.Sim.Rule

namespace Pyramulator

/-! Any number of `Dram` components and user code on one simulator. -/

/-- The callbacks on the simulator: those of the components, told apart by their
labels, and user code's own. -/
inductive DramCode (ℓ γ η : Type) where
  | dram (label : ℓ) (event : DramEvent γ)
  | host (tag : η)
  deriving DecidableEq

/-- The components that were built, and the ids of the events that user code
scheduled, which it may cancel. -/
structure DramWorld {ℓ γ : Type} (setups : ℓ → DramSetup γ) where
  drams : (label : ℓ) → Option (Dram (setups label).engine)
  hostIds : List Nat

inductive DramOp (ℓ γ η : Type) where
  | build (label : ℓ)
  | request (label : ℓ) (request : DramRequest γ)
  | pending (label : ℓ)
  | cycles (label : ℓ)
  | schedule (delay : Int) (tag : η) (priority : Int)
  | at_ (time : Int) (tag : η) (priority : Int)
  | cancel (handle : Nat)
  | now
  | nextTime
  | live
  deriving DecidableEq

inductive DramValue where
  | memory (value : MemoryValue)
  | flag (value : Bool)
  | handle (value : Nat)
  | number (value : Int)
  | time (value : Option Int)
  | none_
  deriving DecidableEq

/-- How the components tick: as `_tick` is written, or one cycle at a time. -/
inductive TickPolicy where
  | coalesced
  | plain
  deriving DecidableEq

namespace DramWorld

variable {ℓ γ η α : Type} [DecidableEq ℓ] {setups : ℓ → DramSetup γ}

def create (setups : ℓ → DramSetup γ) : DramWorld setups := ⟨fun _ => none, []⟩

def put (world : DramWorld setups) (label : ℓ)
    (dram : Dram (setups label).engine) : DramWorld setups :=
  { world with drams := Function.update world.drams label (some dram) }

@[simp] theorem put_self (world : DramWorld setups) (label : ℓ)
    (dram : Dram (setups label).engine) :
    (world.put label dram).drams label = some dram := by simp [put]

theorem put_other (world : DramWorld setups) {label other : ℓ}
    (different : other ≠ label) (dram : Dram (setups label).engine) :
    (world.put label dram).drams other = world.drams other := by
  simp [put, different]

theorem put_put (world : DramWorld setups) (label : ℓ)
    (first second : Dram (setups label).engine) :
    (world.put label first).put label second = world.put label second := by
  simp only [put, Function.update_idem]

theorem put_same {world : DramWorld setups} {label : ℓ}
    {dram : Dram (setups label).engine}
    (built : world.drams label = some dram) : world.put label dram = world := by
  simp only [put, ← built, Function.update_eq_self]

@[simp] theorem put_hostIds (world : DramWorld setups) (label : ℓ)
    (dram : Dram (setups label).engine) :
    (world.put label dram).hostIds = world.hostIds := rfl

def onDram (label : ℓ)
    (method : Device.Call (DramCode ℓ γ η) (setups label).engine α)
    (sim : Simulator (DramCode ℓ γ η)) (world : DramWorld setups) :
    Except PyError (Option α) × Simulator (DramCode ℓ γ η) × DramWorld setups :=
  match world.drams label with
  | none => (.ok none, sim, world)
  | some dram =>
      let (result, device) := method ⟨sim, dram⟩
      (result.map some, device.sim, world.put label device.dram)

/-- The result of scheduling an event of user code, which is told its number. -/
def scheduled (world : DramWorld setups) :
    Except PyError Nat × Simulator (DramCode ℓ γ η) →
      Except PyError DramValue × Simulator (DramCode ℓ γ η) × DramWorld setups
  | (.ok eventId, sim) =>
      (.ok (.handle world.hostIds.length), sim,
        { world with hostIds := world.hostIds ++ [eventId] })
  | (.error error, sim) => (.error error, sim, world)

variable [DecidableEq γ]

def exec (op : DramOp ℓ γ η) (sim : Simulator (DramCode ℓ γ η))
    (world : DramWorld setups) :
    Except PyError DramValue × Simulator (DramCode ℓ γ η) × DramWorld setups :=
  match op with
  | .build label =>
      match world.drams label with
      | some _ => (.ok .none_, sim, world)
      | none =>
          match Dram.create (.dram label) (setups label) sim with
          | (.ok dram, sim) => (.ok .none_, sim, world.put label dram)
          | (.error error, sim) => (.error error, sim, world)
  | .request label request =>
      let (result, sim, world) :=
        onDram label (Dram.submit (.dram label) request) sim world
      (result.map fun value => value.elim .none_ .memory, sim, world)
  | .pending label =>
      (.ok ((world.drams label).elim .none_ fun dram => .number dram.pending), sim,
        world)
  | .cycles label =>
      (.ok ((world.drams label).elim .none_ fun dram => .number dram.cycles), sim,
        world)
  | .schedule delay tag priority =>
      world.scheduled (sim.schedule delay (.host tag) priority)
  | .at_ time tag priority =>
      world.scheduled (sim.at_ time (.host tag) priority)
  | .cancel handle =>
      match world.hostIds[handle]? with
      | some eventId =>
          let (result, sim) := sim.cancel eventId
          (.ok (.flag result), sim, world)
      | none => (.ok (.flag false), sim, world)
  | .now => (.ok (.number sim.now), sim, world)
  | .nextTime =>
      let (result, sim) := sim.nextTime
      (.ok (.time result), sim, world)
  | .live => (.ok (.number sim.pending), sim, world)

def settled :
    Except PyError (Option Unit) × Simulator (DramCode ℓ γ η) × DramWorld setups →
      Outcome (DramCode ℓ γ η) (DramWorld setups)
  | (.ok _, sim, world) => .done sim world
  | (.error error, sim, world) => .raised error sim world

def enter (policy : TickPolicy) (code : DramCode ℓ γ η)
    (sim : Simulator (DramCode ℓ γ η)) (world : DramWorld setups) :
    Outcome (DramCode ℓ γ η) (DramWorld setups) :=
  match code with
  | .dram label .tick =>
      match policy with
      | .coalesced => settled (onDram label (Dram.tick (.dram label)) sim world)
      | .plain => settled (onDram label (Dram.tickOnce (.dram label)) sim world)
  | .dram label .idleTick =>
      settled (onDram label (Dram.idleTick (.dram label)) sim world)
  | .dram _ (.completion _ _) => .user code sim world
  | .host _ => .user code sim world

/-- The loop condition of `flush`. -/
def waiting (label : ℓ) (world : DramWorld setups) : Bool :=
  (world.drams label).any fun dram => 0 < dram.pending

end DramWorld

/-- Components and user code on one simulator; `flush` is its barrier. -/
@[reducible] def dramSystem (η : Type) {ℓ γ : Type} [DecidableEq ℓ] [DecidableEq γ]
    (setups : ℓ → DramSetup γ) (policy : TickPolicy) : System where
  Callback := DramCode ℓ γ η
  World := DramWorld setups
  Op := DramOp ℓ γ η
  Value := DramValue
  Answer := Unit
  Wait := ℓ
  exec := DramWorld.exec
  enter := DramWorld.enter policy
  resume _ _ sim world := .done sim world
  waiting := DramWorld.waiting
  stalled := .runtimeError "simulator stalled before DRAM drained"
  overrun maxEvents := .runtimeError s!"DRAM not drained within {maxEvents} events"

end Pyramulator
