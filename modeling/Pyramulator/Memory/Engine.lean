import Mathlib.Data.Multiset.Filter

namespace Pyramulator

/-! Ramulator behind `MemoryBase`, which the repository only links against: a
deterministic machine that takes requests and is ticked. -/

/-- `Request::Type`. -/
inductive RequestType where
  | read
  | write
  | refresh
  | powerdown
  | selfrefresh
  | extension
  deriving DecidableEq

/-- `Request`, as far as the wrapper fills it in. -/
structure Request (c : Type) where
  addr : Int
  type : RequestType
  coreid : Int
  callback : c
  deriving DecidableEq

/-- A call of a request's callback, with the cycles the engine noted in it. -/
structure Served (c : Type) where
  request : Request c
  arrive : Int
  depart : Int
  deriving DecidableEq

structure Engine (c : Type) where
  State : Type
  /-- What `create_memory` returns. -/
  fresh : State
  send : State → Request c → Bool × State
  tick : State → List (Served c) × State
  pendingRequests : State → Nat

namespace Engine

variable {c : Type}

/-- The engine calls the callback of each accepted read exactly once and no
other: the reads it holds are those it accepted and did not yet answer. -/
structure Ledger (engine : Engine c) where
  reads : engine.State → Multiset (Request c)
  fresh : reads engine.fresh = 0
  accepted : ∀ state request, request.type = .read →
    (engine.send state request).1 = true →
      reads (engine.send state request).2 = request ::ₘ reads state
  other : ∀ state request,
    request.type ≠ .read ∨ (engine.send state request).1 = false →
      reads (engine.send state request).2 = reads state
  tick : ∀ state, reads state =
    ((engine.tick state).1.map Served.request : Multiset (Request c)) +
      reads (engine.tick state).2

/-- The number of pending requests: a rejected request adds none, and no read is
held while there are none. It may grow in a tick. -/
structure Tally (engine : Engine c) extends Ledger engine where
  freshPending : engine.pendingRequests engine.fresh = 0
  rejected : ∀ state request, (engine.send state request).1 = false →
    engine.pendingRequests state = 0 →
      engine.pendingRequests (engine.send state request).2 = 0
  idle : ∀ state, engine.pendingRequests state = 0 → reads state = 0

inductive Reaches (engine : Engine c) (sent : Request c → Prop) : engine.State → Prop
  | fresh : Reaches engine sent engine.fresh
  | send {state : engine.State} {request : Request c} (before : Reaches engine sent state)
      (such : sent request) : Reaches engine sent (engine.send state request).2
  | tick {state : engine.State} (before : Reaches engine sent state) :
      Reaches engine sent (engine.tick state).2

structure FixedLatency (c : Type) where
  clk : Int
  queue : List (Int × Request c)

def FixedLatency.due (latency clk : Int) (entry : Int × Request c) : Bool :=
  entry.1 + latency ≤ clk

/-- Every request is serviced a fixed number of cycles after it was accepted;
the queue holds `slots` requests. -/
def fixedLatency (c : Type) (latency : Int) (slots : Nat) : Engine c where
  State := FixedLatency c
  fresh := ⟨0, []⟩
  send state request :=
    if state.queue.length < slots then
      (true, { state with queue := state.queue ++ [(state.clk, request)] })
    else (false, state)
  tick state :=
    let clk := state.clk + 1
    let due := state.queue.filter fun entry => FixedLatency.due latency clk entry
    let reads := due.filter fun entry => entry.2.type = .read
    (reads.map fun entry => ⟨entry.2, entry.1, clk⟩,
      { clk
        queue := state.queue.filter fun entry =>
          !FixedLatency.due latency clk entry })
  pendingRequests state := state.queue.length

def FixedLatency.reads (queue : List (Int × Request c)) : List (Request c) :=
  (queue.filter fun entry => entry.2.type = .read).map Prod.snd

def fixedLatencyLedger (c : Type) (latency : Int) (slots : Nat) :
    (fixedLatency c latency slots).Ledger where
  reads state := (FixedLatency.reads state.queue : Multiset (Request c))
  fresh := rfl
  accepted state request read sent := by
    have free : state.queue.length < slots := by
      by_contra full
      simp [fixedLatency, full] at sent
    simp only [fixedLatency, free, if_true, FixedLatency.reads]
    refine Multiset.coe_eq_coe.mpr ?_
    simp [List.filter_append, read]
  other state request unsent := by
    simp only [fixedLatency] at unsent ⊢
    split
    · rename_i free
      have notRead : request.type ≠ .read := by simpa [free] using unsent
      simp [FixedLatency.reads, List.filter_append, notRead]
    · rfl
  tick state := by
    simp only [fixedLatency, FixedLatency.reads, List.map_map,
      Multiset.coe_add]
    refine Multiset.coe_eq_coe.mpr ?_
    have split := (List.filter_append_perm
      (fun entry => FixedLatency.due latency (state.clk + 1) entry) state.queue)
    have reads := (split.filter fun entry => entry.2.type = .read).map Prod.snd
    rw [List.filter_append, List.map_append] at reads
    exact reads.symm

def fixedLatencyTally (c : Type) (latency : Int) (slots : Nat) :
    (fixedLatency c latency slots).Tally where
  toLedger := fixedLatencyLedger c latency slots
  freshPending := rfl
  rejected state request refused noPending := by
    simp only [fixedLatency] at refused noPending ⊢
    split at refused
    · cases refused
    · rename_i full
      rw [if_neg full]
      exact noPending
  idle state noPending := by
    have empty : state.queue = [] := List.length_eq_zero_iff.mp noPending
    simp [fixedLatencyLedger, FixedLatency.reads, empty]

theorem fixedLatency_reads {latency : Int} {slots : Nat}
    {state : (fixedLatency c latency slots).State}
    (reaches : (fixedLatency c latency slots).Reaches
      (fun request => request.type = .read) state)
    (entry : Int × Request c) (member : entry ∈ FixedLatency.queue state) :
    entry.2.type = .read := by
  induction reaches with
  | fresh => exact absurd member List.not_mem_nil
  | send reached such induction =>
      simp only [fixedLatency] at member
      split at member
      · rcases List.mem_append.mp member with older | new
        · exact induction older
        · obtain rfl := List.mem_singleton.mp new
          exact such
      · exact induction member
  | tick reached induction => exact induction (List.mem_filter.mp member).1

theorem fixedLatency_accepts {latency : Int} {slots : Nat} (room : 0 < slots)
    {state : (fixedLatency c latency slots).State} (request : Request c)
    (reaches : (fixedLatency c latency slots).Reaches
      (fun request => request.type = .read) state)
    (unread : (fixedLatencyTally c latency slots).reads state = 0) :
    ((fixedLatency c latency slots).send state request).1 = true := by
  have held : FixedLatency.reads (FixedLatency.queue state) = [] :=
    (Multiset.coe_eq_zero _).mp unread
  have empty : FixedLatency.queue state = [] := by
    rw [FixedLatency.reads, List.map_eq_nil_iff, List.filter_eq_nil_iff] at held
    refine List.eq_nil_iff_forall_not_mem.mpr fun entry member => held entry member ?_
    simpa using fixedLatency_reads reaches entry member
  have free : (FixedLatency.queue state).length < slots := by
    rw [empty]
    exact room
  simp only [fixedLatency, free, if_true]

section

/-- A memory with a fixed latency whose reads and writes wait in queues of their own. -/
structure TwoQueues (c : Type) where
  clk : Int
  reads : List (Int × Request c)
  writes : List (Int × Request c)

/-- Each queue holds `slots` requests. -/
def twoQueues (c : Type) (latency : Int) (slots : Nat) : Engine c where
  State := TwoQueues c
  fresh := ⟨0, [], []⟩
  send state request :=
    if request.type = .read then
      if state.reads.length < slots then
        (true, { state with reads := state.reads ++ [(state.clk, request)] })
      else (false, state)
    else
      if state.writes.length < slots then
        (true, { state with writes := state.writes ++ [(state.clk, request)] })
      else (false, state)
  tick state :=
    let clk := state.clk + 1
    let due := state.reads.filter fun entry => FixedLatency.due latency clk entry
    (due.map fun entry => ⟨entry.2, entry.1, clk⟩,
      { clk
        reads := state.reads.filter fun entry => !FixedLatency.due latency clk entry
        writes := state.writes.filter fun entry => !FixedLatency.due latency clk entry })
  pendingRequests state := state.reads.length + state.writes.length

variable {latency : Int} {slots : Nat}

def twoQueuesLedger (c : Type) (latency : Int) (slots : Nat) :
    (twoQueues c latency slots).Ledger where
  reads state := ((TwoQueues.reads state).map Prod.snd : List (Request c))
  fresh := rfl
  accepted state request read sent := by
    have free : (TwoQueues.reads state).length < slots := by
      by_contra full
      simp [twoQueues, read, full] at sent
    simp only [twoQueues, read, free, if_true, Multiset.cons_coe]
    refine Multiset.coe_eq_coe.mpr ?_
    simp
  other state request unsent := by
    simp only [twoQueues] at unsent ⊢
    split
    · rename_i read
      split
      · rename_i free
        simp [read, free] at unsent
      · rfl
    · split <;> rfl
  tick state := by
    simp only [twoQueues, List.map_map, Multiset.coe_add]
    refine Multiset.coe_eq_coe.mpr ?_
    have split := (List.filter_append_perm
      (fun entry => FixedLatency.due latency (TwoQueues.clk state + 1) entry)
        (TwoQueues.reads state)).map Prod.snd
    rw [List.map_append] at split
    exact split.symm

def twoQueuesTally (c : Type) (latency : Int) (slots : Nat) :
    (twoQueues c latency slots).Tally where
  toLedger := twoQueuesLedger c latency slots
  freshPending := rfl
  rejected state request refused noPending := by
    simp only [twoQueues] at refused noPending ⊢
    split
    · rename_i read
      simp only [read, if_true] at refused
      split at refused
      · cases refused
      · rename_i full
        rw [if_neg full]
        exact noPending
    · rename_i write
      simp only [write, if_false] at refused
      split at refused
      · cases refused
      · rename_i full
        rw [if_neg full]
        exact noPending
  idle state noPending := by
    have empty : TwoQueues.reads state = [] :=
      List.length_eq_zero_iff.mp (Nat.eq_zero_of_add_eq_zero_right noPending)
    simp [twoQueuesLedger, empty]

theorem twoQueues_rejects (room : 0 < slots) {state : (twoQueues c latency slots).State}
    {request : Request c} (read : request.type = .read)
    (rejected : ((twoQueues c latency slots).send state request).1 = false) :
    (twoQueuesTally c latency slots).reads state ≠ 0 := by
  intro unread
  have held : (TwoQueues.reads state).map Prod.snd = [] :=
    (Multiset.coe_eq_zero _).mp unread
  have empty : TwoQueues.reads state = [] := List.map_eq_nil_iff.mp held
  have free : (TwoQueues.reads state).length < slots := by
    rw [empty]
    exact room
  simp [twoQueues, read, free] at rejected

end

end Engine

end Pyramulator
