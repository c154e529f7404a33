import Pyramulator.Memory.DriveLoop

namespace Pyramulator

/-! The Python class `MemorySystem` of `_engine.py`. User callbacks are of a type
`γ`, whose equality is the `is` of the source. A method runs up to its first
user callback; what it still has to do is a value. -/

structure RequestInfo where
  addr : Int
  type : RequestType
  arriveCycle : Int
  departCycle : Int
  coreId : Int
  deriving DecidableEq

/-- The function `_wrap` that `_read_cb` makes. -/
structure ReadWrap (γ : Type) where
  userCb : γ
  deriving DecidableEq

/-- What `_wrap` passes on. -/
def CompletionEvent.info {γ : Type} (event : CompletionEvent (ReadWrap γ)) :
    RequestInfo where
  addr := event.addr
  type := event.type
  arriveCycle := event.arrive
  departCycle := event.depart
  coreId := event.coreId

structure MemorySystem {γ : Type} (engine : Engine (CppCallback (ReadWrap γ))) where
  impl : PyMemorySystem engine
  clk : Int
  cacheline : Int
  numCores : Int
  readCbSrc : Option γ
  readCbWrap : Option (ReadWrap γ)

inductive MemoryValue where
  | flag (accepted : Bool)
  | flags (accepted : List Bool)
  | count (value : Int)
  deriving DecidableEq

/-- What a method does when its completions are dispatched: `tick` counts its
cycle then. -/
inductive Ending where
  | tick
  | value (value : MemoryValue)
  deriving DecidableEq

def Ending.result : Ending → MemoryValue
  | .tick => .count 1
  | .value result => result

/-- How far a method came: it raised, it returned, it has completions to
dispatch, or it has accepted writes to answer. -/
inductive Begun (γ : Type) where
  | raised (error : PyError)
  | returned (value : MemoryValue)
  | dispatch (events : List (CompletionEvent (ReadWrap γ))) (ending : Ending)
  | writes (addrs : List Int) (coreId : Int) (callback : γ) (value : MemoryValue)

namespace MemorySystem

variable {γ : Type} {engine : Engine (CppCallback (ReadWrap γ))}

/-- `__init__`, of a valid configuration. -/
def create (engine : Engine (CppCallback (ReadWrap γ)))
    (cacheline numCores : Int) : MemorySystem engine where
  impl := .create
  clk := 0
  cacheline := cacheline
  numCores := numCores
  readCbSrc := none
  readCbWrap := none

/-- `pending`. -/
def pending (mem : MemorySystem engine) : Int := mem.impl.pending

/-- `_check_core_id`. -/
def checkCoreId (mem : MemorySystem engine) (coreId : Int) : Except PyError Unit :=
  if 0 ≤ coreId ∧ coreId < mem.numCores then .ok ()
  else .error (.valueError
    s!"core_id {coreId} out of range for {mem.numCores} cores")

/-- The `RequestInfo` of `_fire_write_completion`. -/
def writeInfo (mem : MemorySystem engine) (addr coreId : Int) : RequestInfo where
  addr := addr
  type := .write
  arriveCycle := mem.clk
  departCycle := mem.clk
  coreId := coreId

/-- `_read_cb`. -/
def readCb [DecidableEq γ] (mem : MemorySystem engine) (callback : Option γ) :
    Option (ReadWrap γ) × MemorySystem engine :=
  match callback with
  | none => (none, mem)
  | some userCb =>
      if mem.readCbSrc = some userCb then (mem.readCbWrap, mem)
      else
        (some ⟨userCb⟩,
          { mem with
            readCbSrc := some userCb
            readCbWrap := some ⟨userCb⟩ })

def fireWrites (addrs : List Int) (coreId : Int) (callback : Option γ)
    (value : MemoryValue) : Begun γ :=
  match callback with
  | none => .returned value
  | some userCb => .writes addrs coreId userCb value

/-- `send`. -/
def send [DecidableEq γ] (mem : MemorySystem engine) (addr : Int)
    (type : RequestType) (coreId : Int) (callback : Option γ) :
    Begun γ × MemorySystem engine :=
  match mem.checkCoreId coreId with
  | .error error => (.raised error, mem)
  | .ok () =>
      if type = .write then
        match mem.impl.send addr type coreId none with
        | (.error error, impl) => (.raised error, { mem with impl })
        | (.ok accepted, impl) =>
            (fireWrites (if accepted then [addr] else []) coreId callback
              (.flag accepted), { mem with impl })
      else
        let (wrap, mem) := mem.readCb callback
        match mem.impl.send addr type coreId wrap with
        | (.error error, impl) => (.raised error, { mem with impl })
        | (.ok accepted, impl) => (.returned (.flag accepted), { mem with impl })

def acceptedAddrs (addrs : List Int) (accepted : List Bool) : List Int :=
  (addrs.zip accepted).filterMap fun (addr, ok) => if ok then some addr else none

/-- `_send_batch`. -/
def sendBatch [DecidableEq γ] (mem : MemorySystem engine) (addrs : List Int)
    (type : RequestType) (coreId : Int) (callback : Option γ) :
    Begun γ × MemorySystem engine :=
  match mem.checkCoreId coreId with
  | .error error => (.raised error, mem)
  | .ok () =>
      if type = .write then
        match mem.impl.sendBatch addrs .write coreId none with
        | (.error error, impl) => (.raised error, { mem with impl })
        | (.ok accepted, impl) =>
            (fireWrites (acceptedAddrs addrs accepted) coreId callback
              (.flags accepted), { mem with impl })
      else
        let (wrap, mem) := mem.readCb callback
        match mem.impl.sendBatch addrs .read coreId wrap with
        | (.error error, impl) => (.raised error, { mem with impl })
        | (.ok accepted, impl) => (.returned (.flags accepted), { mem with impl })

/-- `_send_range`. -/
def sendRange [DecidableEq γ] (mem : MemorySystem engine) (start count : Int)
    (stride : Option Int) (type : RequestType) (coreId : Int)
    (callback : Option γ) : Begun γ × MemorySystem engine :=
  let stride := stride.getD mem.cacheline
  match mem.checkCoreId coreId with
  | .error error => (.raised error, mem)
  | .ok () =>
      if type = .write then
        match mem.impl.sendRange start count stride .write coreId none with
        | (.error error, impl) => (.raised error, { mem with impl })
        | (.ok accepted, impl) =>
            let addrs := (List.range accepted.length).map fun index =>
              start + index * stride
            (fireWrites (acceptedAddrs addrs accepted) coreId callback
              (.flags accepted), { mem with impl })
      else
        let (wrap, mem) := mem.readCb callback
        match mem.impl.sendRange start count stride .read coreId wrap with
        | (.error error, impl) => (.raised error, { mem with impl })
        | (.ok accepted, impl) => (.returned (.flags accepted), { mem with impl })

/-- `tick`. -/
def tick (mem : MemorySystem engine) : Begun γ × MemorySystem engine :=
  let (events, impl) := mem.impl.tick.drainCompleted
  (.dispatch events .tick, { mem with impl })

/-- `self._clk += n`, and then the dispatch. -/
def progress (mem : MemorySystem engine) :
    PyMemorySystem.Progress engine → Begun γ × MemorySystem engine
  | (.error error, impl) => (.raised error, { mem with impl })
  | (.ok (cycles, events), impl) =>
      (.dispatch events (.value (.count cycles)),
        { mem with impl, clk := mem.clk + cycles })

/-- `run`. -/
def run (mem : MemorySystem engine) (cycles : Int) :
    Begun γ × MemorySystem engine :=
  mem.progress (mem.impl.run cycles)

/-- `tick_until_progress`. -/
def tickUntilProgress (mem : MemorySystem engine) (maxCycles : Int) :
    Begun γ × MemorySystem engine :=
  if maxCycles < 1 then
    (.raised (.valueError s!"max_cycles must be positive, got {maxCycles}"), mem)
  else mem.progress (mem.impl.runUntilProgress maxCycles)

/-- `run_until_idle`. -/
def runUntilIdle (mem : MemorySystem engine) (maxCycles : Int) :
    Begun γ × MemorySystem engine :=
  mem.progress (mem.impl.runUntilIdle maxCycles)

/-- `flush`. -/
def flush (mem : MemorySystem engine) (maxCycles : Int) :
    Begun γ × MemorySystem engine :=
  mem.runUntilIdle maxCycles

/-- `self._clk += n`, and then the dispatch of a drive. -/
def driven (mem : MemorySystem engine) :
    PyMemorySystem.Driven engine → Begun γ × MemorySystem engine
  | (.error error, impl) => (.raised error, { mem with impl })
  | (.ok (cycles, issued, events), impl) =>
      (.dispatch events (.value (.count issued)),
        { mem with impl, clk := mem.clk + cycles })

/-- `drive`. -/
def drive [DecidableEq γ] (mem : MemorySystem engine) (addrs : List Int)
    (queueDepth batch maxCycles : Int) (callback : Option γ) :
    Begun γ × MemorySystem engine :=
  let (wrap, mem) := mem.readCb callback
  mem.driven (mem.impl.drive addrs queueDepth batch maxCycles wrap)

/-- `drive_range`. -/
def driveRange [DecidableEq γ] (mem : MemorySystem engine) (start count : Int)
    (stride : Option Int) (queueDepth batch maxCycles : Int)
    (callback : Option γ) : Begun γ × MemorySystem engine :=
  let stride := stride.getD mem.cacheline
  let (wrap, mem) := mem.readCb callback
  mem.driven (mem.impl.driveRange start count stride queueDepth batch maxCycles wrap)

end MemorySystem

inductive MemoryOp (γ : Type) where
  | send (addr : Int) (type : RequestType) (coreId : Int) (callback : Option γ)
  | sendBatch (addrs : List Int) (type : RequestType) (coreId : Int)
      (callback : Option γ)
  | sendRange (start count : Int) (stride : Option Int) (type : RequestType)
      (coreId : Int) (callback : Option γ)
  | tick
  | run (cycles : Int)
  | tickUntilProgress (maxCycles : Int)
  | runUntilIdle (maxCycles : Int)
  | flush (maxCycles : Int)
  | drive (addrs : List Int) (queueDepth batch maxCycles : Int)
      (callback : Option γ)
  | driveRange (start count : Int) (stride : Option Int)
      (queueDepth batch maxCycles : Int) (callback : Option γ)
  deriving DecidableEq

namespace MemoryOp

variable {γ : Type} {engine : Engine (CppCallback (ReadWrap γ))}

/-- `send_read`, `send_write`, `send_reads` and their kin are these methods at a
fixed type. -/
def begin [DecidableEq γ] (op : MemoryOp γ) (mem : MemorySystem engine) :
    Begun γ × MemorySystem engine :=
  match op with
  | .send addr type coreId callback => mem.send addr type coreId callback
  | .sendBatch addrs type coreId callback => mem.sendBatch addrs type coreId callback
  | .sendRange start count stride type coreId callback =>
      mem.sendRange start count stride type coreId callback
  | .tick => mem.tick
  | .run cycles => mem.run cycles
  | .tickUntilProgress maxCycles => mem.tickUntilProgress maxCycles
  | .runUntilIdle maxCycles => mem.runUntilIdle maxCycles
  | .flush maxCycles => mem.flush maxCycles
  | .drive addrs queueDepth batch maxCycles callback =>
      mem.drive addrs queueDepth batch maxCycles callback
  | .driveRange start count stride queueDepth batch maxCycles callback =>
      mem.driveRange start count stride queueDepth batch maxCycles callback

end MemoryOp

end Pyramulator
