import Pyramulator.Dram.Board
import Pyramulator.Hardware.Fifo
import Pyramulator.Hardware.Pipe

namespace Pyramulator

/-! The copy engine of `pipe_fifo_dram.py`, with its DRAM on one simulator. -/

/-- The bound methods that the engine passes to its DRAM. Python makes a new one
wherever `self._on_load` or `self._on_store_accepted` is evaluated. -/
inductive CopyCallback where
  | onLoad (object : Nat)
  | onStoreAccepted (object : Nat)
  deriving DecidableEq

inductive CopyEvent where
  | issue (event : PipeEvent Int)
  | compute (event : PipeEvent (Int × Int))
  | fillIssue
  deriving DecidableEq

abbrev CopyCode := DramCode Unit CopyCallback CopyEvent

/-- The arguments of `CopyEngine.__init__`. -/
structure CopyArgs where
  nLines : Int := 256
  issueLatency : Int := 2
  computeLatency : Int := 4
  issueSlots : Int := 4
  computeSlots : Int := 16
  queueDepth : Int := 16
  maxOutstanding : Int := 16

/-- `CopyEngine`. The number of bound methods made so far is not there in the
source. -/
structure CopyEngine extends Component where
  nLines : Int
  maxOutstanding : Int
  produced : Int
  readsInflight : Int
  writesAccepted : Int
  issueStalls : Int
  storeStalls : Int
  computeStalls : Int
  fifoHighWater : Int
  heldCompute : List (Int × Int)
  issueQ : Fifo Int
  issuePipe : Pipe Int
  computePipe : Pipe (Int × Int)
  boundMethods : Nat

namespace CopyEngine

/-- `Clock(HOST_PERIOD_PS, "host")`. -/
def hostClock : Clock := ⟨1000, by decide⟩

/-- `CACHELINE`. -/
def cacheline : Int := 64

/-- `SRC_BASE`. -/
def srcBase : Int := 0

/-- `DST_BASE`. -/
def dstBase : Int := 0x100000

/-- `CopyEngine.__init__`. -/
def create (args : CopyArgs) : Except PyError CopyEngine := do
  let issueQ ← Fifo.create ⟨hostClock, "issue_q"⟩ args.queueDepth
  let issuePipe ← Pipe.create ⟨hostClock, "issue_pipe"⟩ args.issueLatency args.issueSlots
  let computePipe ←
    Pipe.create ⟨hostClock, "compute_pipe"⟩ args.computeLatency args.computeSlots
  return {
    clk := hostClock
    name := "copy"
    nLines := args.nLines
    maxOutstanding := args.maxOutstanding
    produced := 0
    readsInflight := 0
    writesAccepted := 0
    issueStalls := 0
    storeStalls := 0
    computeStalls := 0
    fifoHighWater := 0
    heldCompute := []
    issueQ, issuePipe, computePipe
    boundMethods := 0 }

/-- `_dst`. -/
def dst (src : Int) : Int := dstBase + (src - srcBase)

/-- `_compute_reserved`. -/
def computeReserved (copy : CopyEngine) : Int :=
  copy.readsInflight + copy.computePipe.inFlight + copy.heldCompute.length

end CopyEngine

structure Stage (ι : Type) where
  pipe : CopyEngine → Pipe ι
  replace : CopyEngine → Pipe ι → CopyEngine
  closure : PipeEvent ι → CopyEvent

namespace Stage

def issue : Stage Int where
  pipe := CopyEngine.issuePipe
  replace copy issuePipe := { copy with issuePipe }
  closure := .issue

def compute : Stage (Int × Int) where
  pipe := CopyEngine.computePipe
  replace copy computePipe := { copy with computePipe }
  closure := .compute

end Stage

abbrev CopyDevice (setup : DramSetup CopyCallback) := Board CopyEvent setup CopyEngine

namespace CopyDevice

open Board (onDram assign)

variable {setup : DramSetup CopyCallback} {α ι : Type}

abbrev Call (setup : DramSetup CopyCallback) (α : Type) :=
  Board.Call CopyEvent setup CopyEngine α

def onPipe (stage : Stage ι)
    (call : Pipe ι → Simulator CopyCode →
      Except PyError α × Simulator CopyCode × Pipe ι) :
    Call setup α := fun device =>
  let (result, sim, pipe) := call (stage.pipe device.component) device.sim
  (result, { device with sim, component := stage.replace device.component pipe })

/-- `put` of a pipe. -/
def put (stage : Stage ι) (item : ι) : Call setup Bool :=
  onPipe stage fun pipe sim =>
    pipe.put (fun event => .host (stage.closure event)) sim item

/-- `_deliver` of a pipe. -/
def deliver (stage : Stage ι) (consumer : ι → Call setup Consumed) (item : ι) :
    Call setup Unit := do
  let answer ← consumer item
  onPipe stage fun pipe sim =>
    pipe.deliver (fun event => .host (stage.closure event)) sim item answer

/-- The loop of `_retry` of a pipe, over its stalled items. -/
def retryLoop (stage : Stage ι) (consumer : ι → Call setup Consumed) :
    List ι → Call setup Unit
  | [] => pure ()
  | item :: rest => do
      let answer ← consumer item
      onPipe stage fun pipe sim =>
        pipe.retryAnswer (fun event => .host (stage.closure event)) sim answer
      match answer with
      | .refused => pure ()
      | .accepted => retryLoop stage consumer rest

/-- `_retry` of a pipe. -/
def retry (stage : Stage ι) (consumer : ι → Call setup Consumed) : Call setup Unit := do
  assign fun copy => stage.replace copy (stage.pipe copy).retry
  let device ← .get
  retryLoop stage consumer (stage.pipe device.component).stalled

/-- `self.issue_q.put`. -/
def putIssueQ (addr : Int) : Call setup Bool := fun device =>
  let (room, issueQ) := device.component.issueQ.put addr
  (.ok room, { device with component := { device.component with issueQ } })

/-- `self.issue_q.get`. -/
def getIssueQ : Call setup Int := fun device =>
  let (result, issueQ) := device.component.issueQ.get
  (result, { device with component := { device.component with issueQ } })

def send (method : Nat → CopyCallback)
    (request : Option CopyCallback → DramRequest CopyCallback) : Call setup Bool := do
  let device ← .get
  assign fun copy => { copy with boundMethods := copy.boundMethods + 1 }
  let value ← onDram (Dram.submit (.dram ())
    (request (some (method device.component.boundMethods))))
  return Dram.anyAccepted value

/-- `self.dram.read(addr, callback=self._on_load)`. -/
def read (addr : Int) : Call setup Bool :=
  send .onLoad fun callback => .read addr callback 0

/-- `self.dram.write(dst, callback=self._on_store_accepted)`. -/
def write (dst : Int) : Call setup Bool :=
  send .onStoreAccepted fun callback => .write dst callback 0

/-- The loop of `_fill_issue`, with the number of lines that are left. -/
def fillLoop : Nat → Call setup Unit
  | 0 => pure ()
  | left + 1 => do
      let device ← .get
      let copy := device.component
      if copy.produced < copy.nLines ∧ copy.issuePipe.full = false then
        let _ ← put .issue (CopyEngine.srcBase + copy.produced * CopyEngine.cacheline)
        assign fun copy => { copy with produced := copy.produced + 1 }
        fillLoop left
      else pure ()

/-- `_fill_issue`. -/
def fillIssue : Call setup Unit := do
  let device ← .get
  fillLoop (device.component.nLines - device.component.produced).toNat

/-- The loop of `_drain_held_compute`, over the held completions. -/
def drainLoop : List (Int × Int) → Call setup Unit
  | [] => pure ()
  | item :: rest => do
      let accepted ← put .compute item
      if accepted then
        assign fun copy => { copy with heldCompute := rest }
        drainLoop rest
      else pure ()

/-- `_drain_held_compute`. -/
def drainHeldCompute : Call setup Unit := do
  let device ← .get
  drainLoop device.component.heldCompute

/-- The loop of `_pump_reads`, with the number of queued lines. -/
def pumpLoop : Nat → Call setup Unit
  | 0 => pure ()
  | left + 1 => do
      let device ← .get
      let copy := device.component
      match copy.issueQ.peek with
      | none => pure ()
      | some addr =>
          if copy.readsInflight < copy.maxOutstanding ∧
              copy.computeReserved < copy.computePipe.slots then
            let accepted ← read addr
            if accepted then
              let _ ← getIssueQ
              assign fun copy => { copy with readsInflight := copy.readsInflight + 1 }
              pumpLoop left
            else pure ()
          else pure ()

/-- `_pump_reads`. -/
def pumpReads : Call setup Unit := do
  drainHeldCompute
  let device ← .get
  pumpLoop device.component.issueQ.items.length

/-- `_on_issue`. -/
def onIssue (addr : Int) : Call setup Consumed := do
  let room ← putIssueQ addr
  if room then
    assign fun copy => { copy with
      fifoHighWater := max copy.fifoHighWater copy.issueQ.level }
    pumpReads
    scheduleFill
    return .accepted
  else
    assign fun copy => { copy with issueStalls := copy.issueStalls + 1 }
    return .refused
where
  /-- `self.schedule_ps(0, self._fill_issue)`. -/
  scheduleFill : Call setup Unit := fun device =>
    let (result, sim) :=
      device.sim.schedule 0 (.host .fillIssue) 0 (some device.component.name)
    (result.map fun _ => (), { device with sim })

/-- `_on_load`. -/
def onLoad (info : RequestInfo) : Call setup Unit := do
  assign fun copy => { copy with readsInflight := copy.readsInflight - 1 }
  let item := (info.addr, CopyEngine.dst info.addr)
  drainHeldCompute
  let accepted ← put .compute item
  if accepted then pure ()
  else
    assign fun copy => { copy with
      heldCompute := copy.heldCompute ++ [item]
      computeStalls := copy.computeStalls + 1 }
  pumpReads

/-- `_try_store`. -/
def tryStore (item : Int × Int) : Call setup Consumed := do
  let accepted ← write item.2
  if accepted then return .accepted
  else
    assign fun copy => { copy with storeStalls := copy.storeStalls + 1 }
    return .refused

/-- `_on_store_accepted`. -/
def onStoreAccepted : Call setup Unit := do
  assign fun copy => { copy with writesAccepted := copy.writesAccepted + 1 }
  pumpReads

def host : CopyEvent → Call setup Unit
  | .issue (.deliver addr) => deliver .issue onIssue addr
  | .issue .retry => retry .issue onIssue
  | .compute (.deliver item) => deliver .compute tryStore item
  | .compute .retry => retry .compute tryStore
  | .fillIssue => fillIssue

end CopyDevice

/-- The first line of `run`; the second is `run_until_idle`. -/
inductive CopyOp where
  | run
  deriving DecidableEq

def CopyEngine.firmware (copy : CopyEngine) (setup : DramSetup CopyCallback) :
    Firmware CopyEvent setup CopyEngine CopyOp where
  initial := copy
  call _ := CopyDevice.fillIssue
  completion
    | .onLoad _, info => CopyDevice.onLoad info
    | .onStoreAccepted _, _ => CopyDevice.onStoreAccepted
  host := CopyDevice.host

end Pyramulator
