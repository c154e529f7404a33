import Mathlib.Logic.Function.Basic
import Pyramulator.Data.Transition
import Pyramulator.Memory.Configuration
import Pyramulator.Metrics.StatsSlice

namespace Pyramulator

/-! The statistics of all the memories of a process. Ramulator keeps a pointer to each
of them in one vector, from which nothing is removed; a memory knows its own ones by their
range. -/

/-- A pointer of `Stats::all_stats` with what it points to, or a null pointer. -/
abbrev RegisteredStat := Option (Nat × Stat)

/-- A `PyMemorySystem` that is alive, with the addresses of the statistics in its
`mem_`. -/
structure StatsOwner where
  statsRange : Nat × Nat
  mem : List Nat
  deriving DecidableEq

/-- What `create_memory` did. When it threw, some of the statistics were not freed. -/
inductive Construction where
  | made
  | thrown (error : PyError) (leaked : List Nat)
  deriving DecidableEq

/-- What happens to the statistics of a process. The memory with the given number is the
one that it is about. -/
inductive StatsOp where
  | construct (number : Nat) (standard : String) (registered : List RegisteredStat)
      (construction : Construction)
  | destroy (number : Nat)
  | work (number : Nat) (change : Nat → Stat → Stat)
  | getStats (number : Nat)
  | resetStats (number : Nat)
  | moduleGetStats
  | moduleResetStats

inductive StatsAnswer where
  | done
  | stats (dict : StatsDict)
  | raised (error : PyError)
  deriving DecidableEq

/-- `Stats::all_stats` and `live_`, with the statistics in the memory of the process.
The answers so far are not there in the source; an answer is missing when a freed
statistic was read. -/
structure StatsProcess where
  allStats : List (Option Nat)
  heap : Nat → Option Stat
  live : List (Nat × StatsOwner)
  answers : List (Option StatsAnswer)

namespace StatsProcess

def start : StatsProcess where
  allStats := []
  heap _ := none
  live := []
  answers := []

def alloc (objects : List (Nat × Stat)) (heap : Nat → Option Stat) : Nat → Option Stat :=
  fun addr => (objects.lookup addr).or (heap addr)

def free (addrs : List Nat) (heap : Nat → Option Stat) : Nat → Option Stat :=
  fun addr => if addr ∈ addrs then none else heap addr

def deref (heap : Nat → Option Stat) : Option Nat → Option (Option Stat)
  | none => some none
  | some addr => (heap addr).map some

def slice (process : StatsProcess) (range : Nat × Nat) : List (Option Nat) :=
  (process.allStats.drop range.1).take (range.2 - range.1)

/-- `sole_live_instance`. -/
def soleLiveInstance {α : Type} : List α → Except PyError α
  | [] => .error (.runtimeError "no live MemorySystem; create one before reading stats")
  | [found] => .ok found
  | _ :: _ :: _ =>
      .error (.runtimeError ("get_stats()/reset_stats() require exactly one " ++
      "live MemorySystem; call the method on an instance instead"))

def construct (number : Nat) (standard : String) (registered : List RegisteredStat)
    (construction : Construction) (process : StatsProcess) : StatsAnswer × StatsProcess :=
  if standard ∈ supportedStandards then
    let objects := registered.reduceOption
    let first := process.allStats.length
    let allStats := process.allStats ++ registered.map (Option.map Prod.fst)
    match construction with
    | .made =>
        (.done,
          { process with
            allStats
            heap := alloc objects process.heap
            live := process.live ++
              [(number, ⟨(first, allStats.length), objects.map Prod.fst⟩)] })
    | .thrown error leaked =>
        (.raised error,
          { process with
            allStats
            heap := alloc (objects.filter fun object => object.1 ∈ leaked) process.heap })
  else (.raised (.valueError s!"unsupported standard: {standard}"), process)

def destroy (number : Nat) (owner : StatsOwner) (process : StatsProcess) : StatsProcess :=
  { process with
    live := process.live.filter fun entry => entry.1 ≠ number
    heap := free owner.mem process.heap }

def work (change : Nat → Stat → Stat) (owner : StatsOwner) (process : StatsProcess) :
    StatsProcess :=
  { process with
    heap := fun addr =>
      if addr ∈ owner.mem then (process.heap addr).map (change addr)
        else process.heap addr }

/-- `get_stats`. -/
def getStats (owner : StatsOwner) (process : StatsProcess) : Option StatsAnswer :=
  ((process.slice owner.statsRange).mapM (deref process.heap)).map fun stats =>
    .stats (statsSlice stats 0 stats.length)

section

variable (reset : Stat → Stat)

/-- The loop of `reset_stats`. -/
def resetEach : List (Option Nat) → (Nat → Option Stat) → Option (Nat → Option Stat)
  | [], heap => some heap
  | none :: rest, heap => resetEach rest heap
  | some addr :: rest, heap => do
      let stat ← heap addr
      resetEach rest (Function.update heap addr (some (reset stat)))

/-- `reset_stats`. It relies on the range. -/
def resetStats (owner : StatsOwner) (process : StatsProcess) : Option StatsProcess :=
  if owner.statsRange.2 ≤ process.allStats.length then
    (resetEach reset (process.slice owner.statsRange) process.heap).map fun heap =>
      { process with heap }
  else none

def silently (after : Option StatsProcess) (process : StatsProcess) :
    Option StatsAnswer × StatsProcess :=
  (after.map fun _ => .done, after.getD process)

def onLive (number : Nat) (process : StatsProcess)
    (method : StatsOwner → Option StatsAnswer × StatsProcess) :
    Option StatsAnswer × StatsProcess :=
  match process.live.lookup number with
  | some owner => method owner
  | none => (some .done, process)

def onSole (process : StatsProcess)
    (method : StatsOwner → Option StatsAnswer × StatsProcess) :
    Option StatsAnswer × StatsProcess :=
  match soleLiveInstance process.live with
  | .ok found => method found.2
  | .error error => (some (.raised error), process)

def exec (process : StatsProcess) : StatsOp → Option StatsAnswer × StatsProcess
  | .construct number standard registered construction =>
      let (answer, process) := process.construct number standard registered construction
      (some answer, process)
  | .destroy number =>
      process.onLive number fun owner => (some .done, process.destroy number owner)
  | .work number change =>
      process.onLive number fun owner => (some .done, process.work change owner)
  | .getStats number => process.onLive number fun owner =>
      (process.getStats owner, process)
  | .resetStats number =>
      process.onLive number fun owner => silently (process.resetStats reset owner) process
  | .moduleGetStats => process.onSole fun owner => (process.getStats owner, process)
  | .moduleResetStats =>
      process.onSole fun owner => silently (process.resetStats reset owner) process

def step (process : StatsProcess) (op : StatsOp) : StatsProcess :=
  let (answer, after) := process.exec reset op
  { after with answers := process.answers ++ [answer] }

end

/-- A memory is constructed once, and its statistics are where no other one is. -/
def Allocates (process : StatsProcess) : StatsOp → Prop
  | .construct number _ registered _ =>
      number ∉ process.live.map Prod.fst ∧
        (registered.reduceOption.map Prod.fst).Nodup ∧
          ∀ object ∈ registered.reduceOption, process.heap object.1 = none
  | _ => True

end StatsProcess

structure StatsStore where
  owned : List (Nat × List RegisteredStat)
  answers : List StatsAnswer

namespace StatsStore

def start : StatsStore := ⟨[], []⟩

def export_ (own : List RegisteredStat) : StatsDict :=
  statsSlice (own.map (Option.map Prod.snd)) 0 own.length

def changed (change : Nat → Stat → Stat) (own : List RegisteredStat) :
    List RegisteredStat :=
  own.map (Option.map fun object => (object.1, change object.1 object.2))

def update (number : Nat) (change : Nat → Stat → Stat) (store : StatsStore) :
    StatsStore :=
  { store with
    owned := store.owned.map fun entry =>
      if entry.1 = number then (entry.1, changed change entry.2) else entry }

variable (reset : Stat → Stat)

def onLive (number : Nat) (store : StatsStore)
    (method : List RegisteredStat → StatsAnswer × StatsStore) :
    StatsAnswer × StatsStore :=
  match store.owned.lookup number with
  | some own => method own
  | none => (.done, store)

def onSole (store : StatsStore)
    (method : Nat × List RegisteredStat → StatsAnswer × StatsStore) :
    StatsAnswer × StatsStore :=
  match StatsProcess.soleLiveInstance store.owned with
  | .ok found => method found
  | .error error => (.raised error, store)

def exec (store : StatsStore) : StatsOp → StatsAnswer × StatsStore
  | .construct number standard registered construction =>
      if standard ∈ supportedStandards then
        match construction with
        | .made => (.done, { store with owned := store.owned ++ [(number, registered)] })
        | .thrown error _ => (.raised error, store)
      else (.raised (.valueError s!"unsupported standard: {standard}"), store)
  | .destroy number =>
      (.done, { store with owned := store.owned.filter fun entry => entry.1 ≠ number })
  | .work number change => (.done, store.update number change)
  | .getStats number => store.onLive number fun own => (.stats (export_ own), store)
  | .resetStats number => (.done, store.update number fun _ => reset)
  | .moduleGetStats => store.onSole fun found => (.stats (export_ found.2), store)
  | .moduleResetStats =>
      store.onSole fun found => (.done, store.update found.1 fun _ => reset)

def step (store : StatsStore) (op : StatsOp) : StatsStore :=
  let (answer, after) := store.exec reset op
  { after with answers := store.answers ++ [answer] }

end StatsStore

end Pyramulator
