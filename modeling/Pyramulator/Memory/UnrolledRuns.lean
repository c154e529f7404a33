import Pyramulator.Memory.Unrolling

namespace Pyramulator

/-! Programs of method calls, and the same programs with one request or cycle at a
time. -/

namespace Session

variable {γ : Type} {engine : Engine (CppCallback (ReadWrap γ))}

def noted (told : List (γ × RequestInfo)) : List (MemoryEntry engine) :=
  told.map fun invoked => .invoked invoked.1 invoked.2

def settled (result : Begun γ × MemorySystem engine) : MemorySystem engine :=
  { result.2 with clk := result.2.clk + result.1.owes }

variable [DecidableEq γ]

theorem run_dispatch (mem : MemorySystem engine) (call : MemoryCall engine)
    (events sent : List (CompletionEvent (ReadWrap γ))) (ending : Ending)
    (below : List (MemoryFrame engine)) (log : List (MemoryEntry engine)) :
    Transition.run advance ⟨mem, .dispatch call sent events none ending :: below, log⟩
        (List.replicate (2 * events.length + 1) .return_) =
      ⟨{ mem with clk := mem.clk + ending.owes }, below,
        log ++ noted (events.map invocation) ++
          [.ended call (sent ++ events) (.ok ending.result)]⟩ := by
  induction events generalizing sent log with
  | nil =>
      have nothing : (noted ([].map invocation) : List (MemoryEntry engine)) = [] := rfl
      rw [nothing, List.append_nil, List.append_nil]
      cases ending with
      | tick => rfl
      | value value =>
          simp only [Ending.owes, Int.add_zero]
          rfl
  | cons event rest induction =>
      have more : 2 * (event :: rest).length + 1 = 2 * rest.length + 1 + 1 + 1 := by
        rw [List.length_cons]
        omega
      rw [more, List.replicate_succ, List.replicate_succ, Transition.run_cons,
        Transition.run_cons]
      refine (induction _ _).trans ?_
      simp only [List.map_cons, List.append_assoc, List.cons_append]
      simp [Session.advance, invoke, noted, invocation]

theorem perform_begun {session : Session engine} (control : InUserCode session.stack)
    (op : MemoryOp γ) :
    ∃ sent, session.perform op = ⟨settled (op.begin session.mem), session.stack,
      session.log ++ noted ((op.begin session.mem).1.tells (op.begin session.mem).2) ++
        [.ended (session.newCall op) sent (op.begin session.mem).1.result]⟩ := by
  rw [perform, Transition.run_cons, advance_call control]
  unfold Session.call newCall
  rcases op.begin session.mem with ⟨begun, mem⟩
  have still : mem = { mem with clk := mem.clk + 0 } := by rw [Int.add_zero]
  cases begun with
  | raised error =>
      refine ⟨[], ?_⟩
      simp [Begun.rounds, Begun.tells, Begun.result, Begun.owes, settled, noted, finish]
  | returned value =>
      refine ⟨[], ?_⟩
      simp [Begun.rounds, Begun.tells, Begun.result, Begun.owes, settled, noted, finish]
  | dispatch events ending =>
      refine ⟨events, ?_⟩
      simp only [Begun.rounds, run_dispatch]
      rfl
  | writes addrs coreId callback value =>
      refine ⟨[], ?_⟩
      simp only [Begun.rounds, run_writes]
      simp [Begun.tells, Begun.result, Begun.owes, settled, noted]

theorem performAll_append (session : Session engine) (first second : List (MemoryOp γ)) :
    session.performAll (first ++ second) = (session.performAll first).performAll second :=
  List.foldl_append

section

variable {session : Session engine} {cacheline numCores : Int}

/-- While user code makes some calls, `segment` passes, and user code sees what comes of
it. -/
structure Replays (written : Option γ) (session after : Session engine)
    (segment : List (Wire (CppCallback (ReadWrap γ))))
    (results : List (Except PyError MemoryValue)) : Prop where
  trace : engine.Traced session.mem.impl.mem segment after.mem.impl.mem
  wire : after.mem.impl.wire = session.mem.impl.wire ++ segment
  clk : after.mem.clk = session.mem.clk + Wire.ticks segment
  invocations : after.invocations =
    session.invocations ++ Wire.tells written session.mem.clk segment
  results : after.results = session.results ++ results

omit [DecidableEq γ] in
theorem Replays.refl (written : Option γ) (session : Session engine) :
    Replays written session session [] [] where
  trace := .nil _
  wire := (List.append_nil _).symm
  clk := (Int.add_zero _).symm
  invocations := (List.append_nil _).symm
  results := (List.append_nil _).symm

omit [DecidableEq γ] in
theorem Replays.trans {written : Option γ} {middle after : Session engine}
    {first second : List (Wire (CppCallback (ReadWrap γ)))}
    {told more : List (Except PyError MemoryValue)}
    (one : Replays written session middle first told)
    (other : Replays written middle after second more) :
    Replays written session after (first ++ second) (told ++ more) where
  trace := one.trace.trans other.trace
  wire := by rw [other.wire, one.wire, List.append_assoc]
  clk := by
    rw [other.clk, one.clk, Wire.ticks_append]
    push_cast
    omega
  invocations := by
    rw [other.invocations, one.invocations, one.clk, Wire.tells_append, List.append_assoc]
  results := by rw [other.results, one.results, List.append_assoc]

/-- Between calls nothing is in progress and nothing waits for its dispatch. -/
structure Ready (cacheline numCores : Int) (session : Session engine) : Prop where
  steady : session.Steady cacheline numCores
  idle : session.stack = []
  silent : session.mem.impl.completed = []

theorem Ready.perform (ready : session.Ready cacheline numCores) {op : MemoryOp γ}
    {segment : List (Wire (CppCallback (ReadWrap γ)))} (forward : op.backward = 0)
    (unrolls : op.Unrolls session.mem (op.begin session.mem) segment) :
    (session.perform op).Ready cacheline numCores ∧
      Replays (op.begin session.mem).1.written session (session.perform op) segment
        [(op.begin session.mem).1.result] := by
  have steady := perform_steady ready.steady op
  have control : InUserCode session.stack := by
    rw [ready.idle]
    trivial
  have drift := (op.counts session.mem).drift
  obtain ⟨sent, performed⟩ := perform_begun control op
  rw [performed] at steady ⊢
  refine ⟨⟨steady, ready.idle, unrolls.silent⟩, unrolls.trace, unrolls.wire, ?_, ?_, ?_⟩
  · rw [forward, PyMemorySystem.ticks_eq, PyMemorySystem.ticks_eq, unrolls.wire,
      Wire.ticks_append] at drift
    simp only [settled]
    omega
  · rw [← unrolls.tells]
    simp [invocations, noted, List.filterMap_append, List.filterMap_map]
  · simp [results, ended, noted, List.filterMap_append, List.filterMap_map]

theorem send_single (steady : session.Steady cacheline numCores) (written : Option γ)
    {request : Request (CppCallback (ReadWrap γ))} (single : request.Single numCores)
    (plain : request.undriven = request.callback) :
    let accepted := (engine.send session.mem.impl.mem request).1
    let result := (Wire.single written (.sent request accepted)).begin session.mem
    result.1 = (if request.type = .write then
        MemorySystem.fireWrites (if accepted then [request.addr] else [])
          request.coreid written
          (.flag accepted)
      else .returned (.flag accepted)) ∧
    result.2.impl = (session.mem.impl.sendRequest request).2 := by
  intro accepted result
  have checked := MemorySystem.checkCoreId_valid (steady.numCores ▸ single.core)
  have callback := plain.symm.trans single.callback
  rcases request with ⟨addr, type, coreid, own⟩
  simp only at callback checked
  have fits : FitsLong addr ∧ FitsInt coreid := ⟨single.addr, single.int⟩
  obtain ⟨src, cache, read⟩ := MemorySystem.readCb_cases steady.stable own.user
  simp only [result, Wire.single, MemoryOp.begin, MemorySystem.send, checked]
  by_cases write : type = .write
  · subst write
    obtain rfl : own = .ignore := by
      rw [callback]
      cases own.user <;> rfl
    simp only [if_true, PyMemorySystem.send, if_pos fits]
    exact ⟨rfl, rfl⟩
  · simp only [if_neg write, read, PyMemorySystem.send, if_pos fits]
    rw [← callback]
    exact ⟨rfl, rfl⟩

theorem Ready.single (ready : session.Ready cacheline numCores) (cores : 1 ≤ numCores)
    (written : Option γ) {passed : Wire (CppCallback (ReadWrap γ))} {final : engine.State}
    (traced : engine.Traced session.mem.impl.mem [passed] final)
    (single : ∀ request accepted, passed = .sent request accepted →
      request.Single numCores ∧ request.undriven = request.callback) :
    (session.perform (passed.single written)).Ready cacheline numCores ∧
      Replays written session (session.perform (passed.single written)) [passed]
        [.ok passed.value] := by
  have sensible : (passed.single written).Sensible cacheline := by
    cases passed <;> trivial
  have forward : (passed.single written).backward = 0 := by
    cases passed <;> rfl
  obtain ⟨segment, unrolls⟩ := MemoryOp.unrolls ready.steady.stable ready.silent
    (ready.steady.numCores ▸ cores) (passed.single written) sensible
  obtain ⟨next, replays⟩ := ready.perform forward unrolls
  refine ⟨next, ?_⟩
  cases traced with
  | sent request later =>
      obtain ⟨alone, plain⟩ := single request _ rfl
      obtain ⟨begun, impl⟩ := send_single ready.steady written alone plain
      have wire := unrolls.wire
      rw [impl] at wire
      obtain rfl := List.append_cancel_left wire
      have told := replays.invocations
      have returned := replays.results
      refine { replays with invocations := told.trans ?_, results := returned.trans ?_ }
      · rw [begun]
        by_cases write : request.type = .write
        · rw [if_pos write]
          cases written <;> rfl
        · simp [Wire.tells, write]
      · rw [begun]
        split
        · cases written <;> rfl
        · rfl
  | ticked later =>
      have wire : session.mem.tick.2.impl.wire =
          session.mem.impl.wire ++ [.ticked (engine.tick session.mem.impl.mem).1] :=
        (PyMemorySystem.Covers.ticked session.mem.impl).wire
      obtain rfl := List.append_cancel_left (wire.symm.trans unrolls.wire)
      exact
        { replays with
          invocations := replays.invocations
          results := replays.results }

theorem Ready.singles (cores : 1 ≤ numCores) (written : Option γ)
    {segment : List (Wire (CppCallback (ReadWrap γ)))} {state final : engine.State}
    (traced : engine.Traced state segment final)
    (single : ∀ request accepted, .sent request accepted ∈ segment →
      request.Single numCores ∧ request.undriven = request.callback)
    (ready : session.Ready cacheline numCores) (here : session.mem.impl.mem = state) :
    (session.performAll (segment.map (Wire.single written))).Ready cacheline numCores ∧
      Replays written session (session.performAll (segment.map (Wire.single written)))
        segment
        (segment.map fun passed => .ok passed.value) := by
  subst here
  induction segment generalizing session with
  | nil =>
      cases traced
      exact ⟨ready, .refl written session⟩
  | cons passed rest induction =>
      obtain ⟨middle, first, later⟩ := traced.uncons
      obtain ⟨next, one⟩ := ready.single cores written first
        fun request accepted same => single request accepted (same ▸ List.mem_cons_self)
      obtain rfl := one.trace.unique first
      obtain ⟨last, more⟩ := induction
        (fun request accepted member =>
          single request accepted (List.mem_cons_of_mem _ member))
        next later
      exact ⟨last, one.trans more⟩

/-- The single calls that a call unrolls into: one for each request that went to the
engine and for each of its cycles. -/
def unrolled (session : Session engine) (op : MemoryOp γ) : List (MemoryOp γ) :=
  let result := op.begin session.mem
  (PyMemorySystem.passed session.mem.impl result.2.impl).map
    (Wire.single result.1.written)

def unrollAll (session : Session engine) : List (MemoryOp γ) → List (MemoryOp γ)
  | [] => []
  | op :: rest => session.unrolled op ++ (session.perform op).unrollAll rest

omit [DecidableEq γ] in
/-- User code and the engine cannot tell one run from the other: the engine is in the same
state and was asked for the same, but for the closures of drives. -/
structure Mirrors (blind : engine.Blind Request.undriven) (bulk plain : Session engine) :
    Prop where
  engine : plain.mem.impl.mem = blind.state bulk.mem.impl.mem
  wire : plain.mem.impl.wire = bulk.mem.impl.wire.map (Wire.changed Request.undriven)
  clk : plain.mem.clk = bulk.mem.clk
  pending : plain.mem.pending = bulk.mem.pending
  invocations : plain.invocations = bulk.invocations

theorem Mirrors.perform {blind : engine.Blind Request.undriven}
    {bulk plain : Session engine}
    (mirrors : bulk.Mirrors blind plain) (ready : bulk.Ready cacheline numCores)
    (plainReady : plain.Ready cacheline numCores) (cores : 1 ≤ numCores) {op : MemoryOp γ}
    (sensible : op.Sensible cacheline) :
    (bulk.perform op).Ready cacheline numCores ∧
      (plain.performAll (bulk.unrolled op)).Ready cacheline numCores ∧
        (bulk.perform op).Mirrors blind (plain.performAll (bulk.unrolled op)) ∧
          ∃ values : List MemoryValue,
            (plain.performAll (bulk.unrolled op)).results = plain.results ++
              values.map .ok ∧
              ∃ result, (bulk.perform op).results = bulk.results ++ [result] ∧
                ∀ value, result = .ok value → value = op.summary values := by
  have forward : op.backward = 0 := by
    cases op with
    | run cycles => exact if_neg fun both => absurd sensible (not_le.mpr both.2)
    | _ => rfl
  obtain ⟨segment, unrolls⟩ := MemoryOp.unrolls ready.steady.stable ready.silent
    (ready.steady.numCores ▸ cores) op sensible
  obtain ⟨next, many⟩ := ready.perform forward unrolls
  have passed : bulk.unrolled op = (segment.map (Wire.changed Request.undriven)).map
      (Wire.single (op.begin bulk.mem).1.written) := by
    rw [unrolled, PyMemorySystem.passed, unrolls.wire, List.drop_left, List.map_map]
    exact List.map_congr_left fun passed _ => (passed.single_changed _).symm
  have traced := many.trace.changed blind
  obtain ⟨plainNext, one⟩ := plainReady.singles cores (op.begin bulk.mem).1.written traced
    (fun request accepted member => by
      obtain ⟨older, older_, same⟩ := List.mem_map.mp member
      cases older with
      | sent request accepted =>
          obtain ⟨rfl, -⟩ := Wire.sent.inj same
          have alone := unrolls.single request accepted older_
          rw [ready.steady.numCores] at alone
          exact ⟨alone.changed, CppCallback.undriven_undriven _ _⟩
      | ticked served => cases same)
    mirrors.engine
  rw [passed]
  have state := one.trace.unique (mirrors.engine ▸ traced)
  refine ⟨next, plainNext, ⟨state, ?_, ?_, ?_, ?_⟩, segment.map Wire.value, ?_, _,
    many.results, unrolls.result⟩
  · rw [one.wire, many.wire, mirrors.wire, List.map_append]
  · rw [one.clk, many.clk, mirrors.clk, Wire.ticks_changed]
  · simp only [MemorySystem.pending, PyMemorySystem.pending, state, blind.pending]
  · rw [one.invocations, many.invocations, mirrors.invocations, mirrors.clk,
      Wire.tells_changed]
  · rw [one.results, List.map_map, List.map_map]
    apply congrArg
    exact List.map_congr_left fun passed _ => congrArg Except.ok passed.value_changed

theorem Mirrors.performAll {blind : engine.Blind Request.undriven}
    {bulk plain : Session engine}
    (mirrors : bulk.Mirrors blind plain) (ready : bulk.Ready cacheline numCores)
    (plainReady : plain.Ready cacheline numCores) (cores : 1 ≤ numCores)
    {ops : List (MemoryOp γ)} (sensible : ∀ op ∈ ops, op.Sensible cacheline) :
    (bulk.performAll ops).Ready cacheline numCores ∧
      (plain.performAll (bulk.unrollAll ops)).Ready cacheline numCores ∧
        (bulk.performAll ops).Mirrors blind (plain.performAll (bulk.unrollAll ops)) := by
  induction ops generalizing bulk plain with
  | nil => exact ⟨ready, plainReady, mirrors⟩
  | cons op rest induction =>
      obtain ⟨first, later⟩ := List.forall_mem_cons.mp sensible
      obtain ⟨next, plainNext, after, -⟩ := mirrors.perform ready plainReady cores first
      rw [unrollAll, performAll_append]
      exact induction after next plainNext later

/-- Whatever a program calls, it could have sent its requests one by one and run its
cycles one by one: the engine and user code see the same, and each call returns what the
single calls tell. -/
theorem unrolled_mirrors (blind : engine.Blind Request.undriven) (cacheline : Int)
    {numCores : Int} (cores : 1 ≤ numCores) {ops : List (MemoryOp γ)} {op : MemoryOp γ}
    (sensible : ∀ other ∈ ops ++ [op], other.Sensible cacheline) :
    let start := create (MemorySystem.create engine cacheline numCores)
    let bulk := start.performAll ops
    let plain := start.performAll (start.unrollAll ops)
    bulk.Mirrors blind plain ∧
      (bulk.perform op).Mirrors blind (plain.performAll (bulk.unrolled op)) ∧
        ∃ values : List MemoryValue,
          (plain.performAll (bulk.unrolled op)).results = plain.results ++
            values.map .ok ∧
            ∃ result, (bulk.perform op).results = bulk.results ++ [result] ∧
              ∀ value, result = .ok value → value = op.summary values := by
  intro start bulk plain
  have ready : start.Ready cacheline numCores := ⟨⟨⟨rfl, rfl⟩, rfl⟩, rfl, rfl⟩
  have same : start.Mirrors blind start := ⟨blind.fresh.symm, rfl, rfl, rfl, rfl⟩
  obtain ⟨next, plainNext, mirrors⟩ := same.performAll ready ready cores
    fun other member => sensible other (List.mem_append_left _ member)
  obtain ⟨-, -, after, told⟩ := mirrors.perform next plainNext cores
    (sensible op (List.mem_append_right _ (List.mem_singleton_self op)))
  exact ⟨mirrors, after, told⟩

/-- Two writes, and a drive that sends three reads while at most two are in flight. -/
theorem unrolled_mirrors_drive :
    let blind := Engine.fixedLatencyBlind 2 2 Request.undriven
    let start : Session (Engine.fixedLatency (CppCallback (ReadWrap Nat)) 2 2) :=
      create (MemorySystem.create _ 64 1)
    let bulk := start.performAll [.sendBatch [0, 64] .write 0 (some 7), .run 2]
    let plain := start.performAll
      (start.unrollAll [.sendBatch [0, 64] .write 0 (some 7), .run 2])
    let op := .drive [0, 64, 128] 2 1 100 (some 5)
    bulk.unrolled op = [.send 0 .read 0 (some 5), .send 64 .read 0 (some 5), .tick, .tick,
      .send 128 .read 0 (some 5), .tick, .tick] ∧
    bulk.Mirrors blind plain ∧
      (bulk.perform op).Mirrors blind (plain.performAll (bulk.unrolled op)) ∧
        ∃ values : List MemoryValue,
          (plain.performAll (bulk.unrolled op)).results = plain.results ++
            values.map .ok ∧
            ∃ result, (bulk.perform op).results = bulk.results ++ [result] ∧
              ∀ value, result = .ok value → value = op.summary values := by
  refine ⟨by decide +kernel, unrolled_mirrors _ 64 (le_refl 1) ?_⟩
  intro other member
  simp only [List.cons_append, List.nil_append, List.mem_cons, List.not_mem_nil,
    or_false] at member
  rcases member with rfl | rfl | rfl
  · trivial
  · exact (by decide : (0 : Int) ≤ 2)
  · trivial

end

end Session

end Pyramulator
