import Pyramulator.Sim.Coherence

namespace Pyramulator

/-! Clocks and components of `hardware.py`. -/

/-- `Clock`: the period in simulator time units, never zero or negative. -/
structure Clock where
  periodPs : Int
  positive : 0 < periodPs
  deriving DecidableEq

namespace Clock

/-- `Clock.__init__`. -/
def create (periodPs : Int) : Except PyError Clock :=
  if positive : 0 < periodPs then .ok ⟨periodPs, positive⟩
  else .error (.valueError s!"clock period must be positive, got {periodPs}")

/-- `cycles`. -/
def cycles (clk : Clock) (count : Int) : Except PyError Int :=
  if count < 0 then .error (.valueError s!"negative cycle count {count}")
  else .ok (count * clk.periodPs)

theorem cycles_of_nonneg (clk : Clock) {count : Int} (nonneg : 0 ≤ count) :
    clk.cycles count = .ok (count * clk.periodPs) := by
  simp [cycles, not_lt.mpr nonneg]

end Clock

/-- `Component`, without the simulator, which is passed to its methods. -/
structure Component where
  clk : Clock
  name : String
  deriving DecidableEq

namespace Component

variable {κ : Type}

/-- `schedule_cycles`. -/
def scheduleCycles (component : Component) (sim : Simulator κ)
    (delayCycles : Int) (callback : κ) (priority : Int := 0) :
    Except PyError Nat × Simulator κ :=
  match component.clk.cycles delayCycles with
  | .error error => (.error error, sim)
  | .ok delay => sim.schedule delay callback priority (some component.name)

def pushCycles (component : Component) (sim : Simulator κ) (delayCycles : Int)
    (callback : κ) (priority : Int) : Simulator κ :=
  (sim.push (sim.now + delayCycles * component.clk.periodPs) callback priority
    (some component.name)).2

theorem scheduleCycles_of_nonneg (component : Component) (sim : Simulator κ)
    {delayCycles : Int} (nonneg : 0 ≤ delayCycles) (callback : κ)
    (priority : Int) :
    component.scheduleCycles sim delayCycles callback priority =
      (.ok sim.seq, component.pushCycles sim delayCycles callback priority) := by
  have delay : ¬ delayCycles * component.clk.periodPs < 0 :=
    not_lt.mpr (Int.mul_nonneg nonneg component.clk.positive.le)
  simp [scheduleCycles, component.clk.cycles_of_nonneg nonneg,
    Simulator.schedule, delay, pushCycles]

theorem scheduleCycles_calls (component : Component) (sim : Simulator κ)
    (delayCycles : Int) (callback : κ) (priority : Int) :
    Simulator.Calls sim
      (component.scheduleCycles sim delayCycles callback priority).2 := by
  unfold scheduleCycles
  split
  · exact .refl
  · exact Simulator.schedule_calls sim _ _ _ _

@[simp] theorem pushCycles_now (component : Component) (sim : Simulator κ)
    (delayCycles : Int) (callback : κ) (priority : Int) :
    (component.pushCycles sim delayCycles callback priority).now = sim.now := rfl

@[simp] theorem pushCycles_seq (component : Component) (sim : Simulator κ)
    (delayCycles : Int) (callback : κ) (priority : Int) :
    (component.pushCycles sim delayCycles callback priority).seq =
      sim.seq + 1 := rfl

theorem pushCycles_liveEvents (component : Component) {sim : Simulator κ}
    (wellFormed : sim.WellFormed) (delayCycles : Int) (callback : κ)
    (priority : Int) :
    (component.pushCycles sim delayCycles callback priority).liveEvents =
      Queue.insert Event.key
        (sim.pushed (sim.now + delayCycles * component.clk.periodPs) callback
          priority) sim.liveEvents :=
  Simulator.push_liveEvents wellFormed _ _ _ _

end Component

end Pyramulator
