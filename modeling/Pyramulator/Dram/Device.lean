import Pyramulator.Data.Method
import Pyramulator.Hardware.Component
import Pyramulator.Memory.MemorySystem
import Pyramulator.Memory.Traffic

namespace Pyramulator

/-! The DRAM of `dram.py`: a memory system as a device on the simulator. -/

/-- The function `on_complete` that `_collector` makes. The serial number tells
it from the others. -/
structure Collector (γ : Type) where
  serial : Nat
  callback : Option γ
  deriving DecidableEq

/-- The C++ callbacks in a `Dram`. -/
abbrev DramCallback (γ : Type) := CppCallback (ReadWrap (Collector γ))

/-- The closures a `Dram` schedules: `self._tick`, `self._idle_tick` and the ones
that `_make_completion_cb` makes. -/
inductive DramEvent (γ : Type) where
  | tick
  | idleTick
  | completion (callback : γ) (info : RequestInfo)
  deriving DecidableEq

/-- `_idle_batch_cycles` and `_current_idle_batch`; `_max_idle_batch` is sixteen
times the first. -/
structure IdleBatch where
  base : Int
  current : Int
  base_pos : 1 ≤ base
  base_le : base ≤ current
  le_max : current ≤ base * 16

namespace IdleBatch

/-- `_max_idle_batch`. -/
def max_ (batch : IdleBatch) : Int := batch.base * 16

/-- `self._current_idle_batch = self._idle_batch_cycles`. -/
def reset (batch : IdleBatch) : IdleBatch :=
  { batch with
    current := batch.base
    base_le := le_refl _
    le_max := by have := batch.base_pos; omega }

/-- `min(self._current_idle_batch * 2, self._max_idle_batch)`. -/
def grow (batch : IdleBatch) : IdleBatch :=
  { batch with
    current := min (batch.current * 2) batch.max_
    base_le := by
      have := batch.base_pos
      have := batch.base_le
      simp only [max_]
      omega
    le_max := min_le_right _ _ }

@[simp] theorem reset_base (batch : IdleBatch) : batch.reset.base = batch.base := rfl

@[simp] theorem reset_current (batch : IdleBatch) :
    batch.reset.current = batch.base := rfl

@[simp] theorem grow_base (batch : IdleBatch) : batch.grow.base = batch.base := rfl

theorem current_pos (batch : IdleBatch) : 1 ≤ batch.current :=
  batch.base_pos.trans batch.base_le

end IdleBatch

/-- A completion that `_deliver_completed` took from the deque, and when. -/
structure Delivery (γ : Type) where
  now : Int
  info : RequestInfo
  callback : Option γ
  deriving DecidableEq

inductive DramRequest (γ : Type) where
  | read (addr : Int) (callback : Option γ) (coreId : Int)
  | write (addr : Int) (callback : Option γ) (coreId : Int)
  | reads (addrs : List Int) (callback : Option γ) (coreId : Int)
  | writes (addrs : List Int) (callback : Option γ) (coreId : Int)
  deriving DecidableEq

/-- A call that was made, its result and the requests the engine accepted. -/
structure Submission (γ : Type) where
  now : Int
  cycles : Int
  request : DramRequest γ
  result : Except PyError MemoryValue
  taken : List (Request (DramCallback γ))

/-- `Dram`. The fields from `builtAt` on are not there in the source and no
result depends on them: the time it was built at, the number of its collectors,
the starts of its busy stretches with the cycles done then, the calls it got and
what it delivered. -/
structure Dram {γ : Type} (engine : Engine (DramCallback γ)) extends Component where
  mem : MemorySystem engine
  completionPriority : Int
  ticking : Bool
  idleRefresh : Bool
  batch : IdleBatch
  idleTicking : Bool
  idleEventId : Option Nat
  completed : List (RequestInfo × Option γ)
  collectorSrc : Option γ
  collectorWrap : Option (Collector γ)
  builtAt : Int
  collectors : Nat
  stretches : List (Int × Int)
  submitted : List (Submission γ)
  delivered : List (Delivery γ)

/-- The arguments of `Dram.__init__`; the engine and the period come from the
configuration. -/
structure DramSetup (γ : Type) where
  engine : Engine (DramCallback γ)
  periodPs : Int
  cacheline : Int
  numCores : Int
  completionPriority : Int
  idleRefresh : Bool
  idleBatchCycles : Int
  name : String

/-- A `Dram` with the simulator it is on. -/
structure Device (κ : Type) {γ : Type} (engine : Engine (DramCallback γ)) where
  sim : Simulator κ
  dram : Dram engine

namespace Device

variable {κ γ α : Type} {engine : Engine (DramCallback γ)}

/-- The methods of `Dram`. -/
abbrev Call (κ : Type) {γ : Type} (engine : Engine (DramCallback γ)) (α : Type) :=
  Method PyError (Device κ engine) α

def onSim (call : Simulator κ → Except PyError α × Simulator κ) :
    Call κ engine α := fun device =>
  let (result, sim) := call device.sim
  (result, { device with sim })

def assign (change : Dram engine → Dram engine) : Call κ engine Unit :=
  .modify fun device => { device with dram := change device.dram }

/-- A method of the memory system. What it tells its callbacks goes into the
deque. -/
def onMem [DecidableEq γ] (op : MemoryOp (Collector γ)) :
    Call κ engine MemoryValue := fun device =>
  let dram := device.dram
  match op.begin dram.mem with
  | (.raised error, mem) => (.error error, { device with dram := { dram with mem } })
  | (.returned value, mem) => (.ok value, { device with dram := { dram with mem } })
  | (.dispatch events ending, mem) =>
      let clk := match ending with
        | .tick => mem.clk + 1
        | .value _ => mem.clk
      let completed := dram.completed ++ events.map fun event =>
        (event.info, event.callback.userCb.callback)
      (.ok ending.result,
        { device with dram := { dram with mem := { mem with clk }, completed } })
  | (.writes addrs coreId collector value, mem) =>
      let completed := dram.completed ++ addrs.map fun addr =>
        (mem.writeInfo addr coreId, collector.callback)
      (.ok value, { device with dram := { dram with mem, completed } })

end Device

namespace Dram

variable {γ : Type} {engine : Engine (DramCallback γ)}

/-- `pending`. -/
def pending (dram : Dram engine) : Int := dram.mem.pending

/-- `cycles`. -/
def cycles (dram : Dram engine) : Int := dram.mem.clk

/-- `_collector`. -/
def collector [DecidableEq γ] (dram : Dram engine) (callback : Option γ) :
    Collector γ × Dram engine :=
  let onComplete : Collector γ := ⟨dram.collectors, callback⟩
  let made := { dram with
    collectorSrc := callback
    collectorWrap := some onComplete
    collectors := dram.collectors + 1 }
  match dram.collectorWrap with
  | some wrap => if callback = dram.collectorSrc then (wrap, dram) else (onComplete, made)
  | none => (onComplete, made)

section

open Device

variable {κ : Type} (closure : DramEvent γ → κ)

/-- `self.schedule_cycles`. -/
def scheduleCycles (count : Int) (event : DramEvent γ) : Call κ engine Nat := do
  let device ← .get
  onSim fun sim => device.dram.toComponent.scheduleCycles sim count (closure event)

/-- The loop of `_deliver_completed`. -/
def deliverEach : List (RequestInfo × Option γ) → Call κ engine Unit
  | [] => pure ()
  | (info, callback) :: rest => do
      let device ← .get
      assign fun dram => { dram with
        completed := rest
        delivered := dram.delivered ++ [⟨device.sim.now, info, callback⟩] }
      match callback with
      | none => pure ()
      | some callback =>
          let _ ← onSim fun sim => sim.schedule 0 (closure (.completion callback info))
            device.dram.completionPriority
          pure ()
      deliverEach rest

/-- `_deliver_completed`. -/
def deliverCompleted : Call κ engine Unit := do
  let device ← .get
  deliverEach closure device.dram.completed

/-- `_start_ticking`. -/
def startTicking : Call κ engine Unit := do
  let device ← .get
  if device.dram.ticking then pure ()
  else
    if device.dram.idleTicking then
      assign fun dram => { dram with idleTicking := false }
      match device.dram.idleEventId with
      | none => .raise (.runtimeError "idle ticking without an event id")
      | some eventId =>
          let _ ← onSim fun sim => ((sim.cancel eventId).map .ok id)
          pure ()
    assign fun dram => { dram with
      ticking := true
      stretches := dram.stretches ++ [(device.sim.now, dram.cycles)] }
    let _ ← scheduleCycles closure 1 .tick
    pure ()

/-- `_start_idle_ticking`. -/
def startIdleTicking : Call κ engine Unit := do
  let device ← .get
  if device.dram.idleTicking then pure ()
  else
    assign fun dram => { dram with idleTicking := true, batch := dram.batch.reset }
    let eventId ← scheduleCycles closure device.dram.batch.base .idleTick
    assign fun dram => { dram with idleEventId := some eventId }

/-- The fields that `Dram.__init__` sets. -/
def fresh (setup : DramSetup γ) (clk : Clock)
    (base_pos : 1 ≤ setup.idleBatchCycles) (now : Int) : Dram setup.engine where
  clk := clk
  name := setup.name
  mem := .create setup.engine setup.cacheline setup.numCores
  completionPriority := setup.completionPriority
  ticking := false
  idleRefresh := setup.idleRefresh
  batch :=
    { base := setup.idleBatchCycles
      current := setup.idleBatchCycles
      base_pos
      base_le := le_refl _
      le_max := by omega }
  idleTicking := false
  idleEventId := none
  completed := []
  collectorSrc := none
  collectorWrap := none
  builtAt := now
  collectors := 0
  stretches := []
  submitted := []
  delivered := []

/-- `Dram.__init__`. -/
def create (setup : DramSetup γ) (sim : Simulator κ) :
    Except PyError (Dram setup.engine) × Simulator κ :=
  match Clock.create setup.periodPs with
  | .error error => (.error error, sim)
  | .ok clk =>
      if base_pos : 1 ≤ setup.idleBatchCycles then
        let dram := fresh setup clk base_pos sim.now
        if setup.idleRefresh then
          match startIdleTicking closure ⟨sim, dram⟩ with
          | (.ok (), device) => (.ok device.dram, device.sim)
          | (.error error, device) => (.error error, device.sim)
        else (.ok dram, sim)
      else
        (.error (.valueError
          s!"idle_batch_cycles must be positive, got {setup.idleBatchCycles}"), sim)

def anyAccepted : MemoryValue → Bool
  | .flag accepted => accepted
  | .flags accepted => accepted.any id
  | .count _ => false

variable [DecidableEq γ]

/-- The request methods: the read ones and the write ones, which deliver at once,
differ in `deliver`. -/
def request (op : Collector γ → MemoryOp (Collector γ)) (deliver : Bool)
    (callback : Option γ) : Call κ engine MemoryValue := do
  let device ← .get
  assign fun dram => (dram.collector callback).2
  let accepted ← onMem (op (device.dram.collector callback).1)
  if anyAccepted accepted then
    if deliver then deliverCompleted closure
    startTicking closure
  return accepted

/-- `read`. -/
def read (addr : Int) (callback : Option γ) (coreId : Int) :
    Call κ engine MemoryValue :=
  request closure (fun wrap => .send addr .read coreId (some wrap)) false callback

/-- `write`. -/
def write (addr : Int) (callback : Option γ) (coreId : Int) :
    Call κ engine MemoryValue :=
  request closure (fun wrap => .send addr .write coreId (some wrap)) true callback

/-- `reads`. -/
def reads (addrs : List Int) (callback : Option γ) (coreId : Int) :
    Call κ engine MemoryValue :=
  request closure (fun wrap => .sendBatch addrs .read coreId (some wrap)) false callback

/-- `writes`. -/
def writes (addrs : List Int) (callback : Option γ) (coreId : Int) :
    Call κ engine MemoryValue :=
  request closure (fun wrap => .sendBatch addrs .write coreId (some wrap)) true callback

def method : DramRequest γ → Call κ engine MemoryValue
  | .read addr callback coreId => read closure addr callback coreId
  | .write addr callback coreId => write closure addr callback coreId
  | .reads addrs callback coreId => reads closure addrs callback coreId
  | .writes addrs callback coreId => writes closure addrs callback coreId

def submit (request : DramRequest γ) : Call κ engine MemoryValue := fun device =>
  let (result, after) := method closure request device
  let taken := Wire.accepted
    (after.dram.mem.impl.wire.drop device.dram.mem.impl.wire.length)
  let submission : Submission γ :=
    ⟨device.sim.now, device.dram.cycles, request, result, taken⟩
  (result, { after with
    dram := { after.dram with
      submitted := after.dram.submitted ++ [submission] } })

def eventBound (period now : Int) : Option Int → Int
  | none => 1000000
  | some next =>
      let dt := next - now
      if dt ≤ 0 then 1 else min 1000000 ((dt - 1) / period + 1)

def burstBound (period now : Int) (next : Option Int) : Option Int → Int
  | none => eventBound period now next
  | some until_ =>
      let dt := until_ - now
      if dt < 0 then 1 else min (eventBound period now next) (dt / period + 1)

/-- `_max_tick_burst`. -/
def maxTickBurst : Call κ engine Int := do
  let device ← .get
  let next ← onSim fun sim => (sim.nextTime).map .ok id
  return burstBound device.dram.clk.periodPs device.sim.now next device.sim.runUntil

/-- `_tick` after the engine ran. -/
def afterTick : Call κ engine Unit := do
  deliverCompleted closure
  let device ← .get
  if device.dram.pending ≠ 0 then
    let _ ← scheduleCycles closure 1 .tick
    pure ()
  else
    assign fun dram => { dram with ticking := false }
    if device.dram.idleRefresh then startIdleTicking closure

/-- `_tick`. -/
def tick : Call κ engine Unit := do
  let burst ← maxTickBurst
  let value ← onMem (.tickUntilProgress burst)
  let device ← .get
  match value with
  | .count n =>
      if 1 < n then
        onSim fun sim =>
          sim.advanceTo (device.sim.now + (n - 1) * device.dram.clk.periodPs)
  | _ => pure ()
  afterTick closure

/-- A `_tick` that always advances one cycle. -/
def tickOnce : Call κ engine Unit := do
  let _ ← onMem .tick
  afterTick closure

/-- `_idle_tick`. -/
def idleTick : Call κ engine Unit := do
  let device ← .get
  let _ ← onMem (.run device.dram.batch.current)
  let device ← .get
  if device.dram.pending ≠ 0 then
    assign fun dram => { dram with idleTicking := false, batch := dram.batch.reset }
    startTicking closure
  else
    assign fun dram => { dram with batch := dram.batch.grow }
    let device ← .get
    let eventId ← scheduleCycles closure device.dram.batch.current .idleTick
    assign fun dram => { dram with idleEventId := some eventId }

end

end Dram

end Pyramulator
