import Pyramulator.Sim.Machine

namespace Pyramulator

/-! A simulator whose callbacks are programs: what they do depends on their own state and
on what the simulator answers. They do not raise, they do not step the simulator and they
do not read its horizon. -/

inductive Script (κ σ : Type) where
  | done (state : σ)
  | schedule (delay : Int) (callback : κ) (priority : Int) (source : Option String)
      (next : Except PyError Nat → Script κ σ)
  | at_ (time : Int) (callback : κ) (priority : Int) (source : Option String)
      (next : Except PyError Nat → Script κ σ)
  | cancel (eventId : Nat) (next : Bool → Script κ σ)
  | now (next : Int → Script κ σ)
  | nextTime (next : Option Int → Script κ σ)
  | pending (next : Int → Script κ σ)
  | processed (next : Nat → Script κ σ)
  | eventCounts (next : Counter (Option String) → Script κ σ)

namespace Script

variable {κ σ : Type}

def run : Script κ σ → Simulator κ → Simulator κ × σ
  | .done state, sim => (sim, state)
  | .schedule delay callback priority source next, sim =>
      let (eventId, sim) := sim.schedule delay callback priority source
      (next eventId).run sim
  | .at_ time callback priority source next, sim =>
      let (eventId, sim) := sim.at_ time callback priority source
      (next eventId).run sim
  | .cancel eventId next, sim =>
      let (cancelled, sim) := sim.cancel eventId
      (next cancelled).run sim
  | .now next, sim => (next sim.now).run sim
  | .nextTime next, sim =>
      let (time, sim) := sim.nextTime
      (next time).run sim
  | .pending next, sim => (next sim.pending).run sim
  | .processed next, sim => (next sim.processed).run sim
  | .eventCounts next, sim => (next sim.sources).run sim

end Script

@[reducible] def scripted {κ σ : Type} (body : κ → σ → Script κ σ) : System where
  Callback := κ
  World := σ
  Op := Empty
  Value := Unit
  Answer := Unit
  Wait := Empty
  exec op := op.elim
  enter code sim state :=
    let (sim, state) := (body code state).run sim
    .done sim state
  resume _ _ sim state := .done sim state
  waiting target := target.elim
  stalled := .runtimeError ""
  overrun _ := .runtimeError ""

namespace Scripted

variable {κ σ : Type} {body : κ → σ → Script κ σ}

def start (body : κ → σ → Script κ σ) (sim : Simulator κ) (state : σ) :
    Config (scripted body) where
  sim := { sim with runUntil := none }
  world := state
  stack := []
  log := []

/-- A call of `run` returns. -/
def Runs (config : Config (scripted body)) (until_ maxEvents : Option Int)
    (after : Config (scripted body)) : Prop :=
  Transition.Reach Config.advance (fun config _ => config.stack ≠ [])
      (config.advance (.run until_ maxEvents)) after ∧
    after.stack = []

end Scripted

end Pyramulator
