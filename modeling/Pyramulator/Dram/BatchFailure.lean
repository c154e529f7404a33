import Pyramulator.Dram.NeverAhead
import Pyramulator.Memory.BatchFailure

namespace Pyramulator

variable {ℓ γ η : Type} [DecidableEq ℓ] [DecidableEq γ]

/-! Batch calls of a component that raise. -/

namespace Dram

open PyMemorySystem (Untouched requestsTo reaching)

variable {κ : Type} {engine : Engine (DramCallback γ)}

/-- What a request method leaves in the memory is what the method of the memory leaves. -/
theorem onMem_impl (op : MemoryOp (Collector γ)) (device : Device κ engine) :
    (Device.onMem op device).2.dram.mem.impl = (op.begin device.dram.mem).2.impl ∧
      (Device.onMem op device).2.dram.mem.numCores =
        (op.begin device.dram.mem).2.numCores ∧
        (Device.onMem op device).2.sim = device.sim := by
  rcases begin_ : op.begin device.dram.mem with ⟨begun, mem⟩
  cases begun <;> simp only [Device.onMem, begin_, and_self]

theorem submit_impl (closure : DramEvent γ → κ) (request : DramRequest γ)
    (sim : Simulator κ) (dram : Dram engine) :
    (submit closure request ⟨sim, dram⟩).2.dram.mem.impl =
        ((request.op (dram.collector request.callback).1).begin
          (dram.collector request.callback).2.mem).2.impl ∧
      (submit closure request ⟨sim, dram⟩).2.dram.mem.numCores =
        ((request.op (dram.collector request.callback).1).begin
          (dram.collector request.callback).2.mem).2.numCores := by
  obtain ⟨impl, numCores, same⟩ :=
    onMem_impl (request.op (dram.collector request.callback).1)
    (⟨sim, (dram.collector request.callback).2⟩ : Device κ engine)
  change (method closure request ⟨sim, dram⟩).2.dram.mem.impl = _ ∧
    (method closure request ⟨sim, dram⟩).2.dram.mem.numCores = _
  rw [← impl, ← numCores]
  rcases sent : Device.onMem (request.op (dram.collector request.callback).1)
    (⟨sim, (dram.collector request.callback).2⟩ : Device κ engine) with ⟨error | value,
      after⟩
  · rw [method_raised closure sim request dram sent]
    exact ⟨rfl, rfl⟩
  · rw [sent] at same
    cases accepted : anyAccepted value with
    | false =>
        rw [method_rejected closure sim request dram sent accepted]
        exact ⟨rfl, rfl⟩
    | true =>
        by_cases write : request.type = .write
        · obtain ⟨_, after⟩ := after
          obtain rfl : _ = sim := same
          rw [method_write closure _ request dram sent accepted write]
          simp only [startTicking_mem, handedOver, and_self]
        · rw [method_read closure sim request dram sent accepted write]
          simp only [startTicking_mem, and_self]

end Dram

def DramRequest.Batch : DramRequest γ → Prop
  | .reads _ _ _ | .writes _ _ _ => True
  | _ => False

namespace Dram

open PyMemorySystem (Untouched requestsTo reaching)

variable {engine : Engine (DramCallback γ)} {cacheline : Int} {lossy : Prop} {label : ℓ}
  {sim : Simulator (DramCode ℓ γ η)} {dram : Dram engine}

def reaches (dram : Dram engine) (request : DramRequest γ) :
    List (Request (DramCallback γ)) :=
  requestsTo dram.mem.numCores (reaching request.addrs) request.type request.coreId
    (some (dram.collector request.callback).1)

/-- A batch leaves the engine as it was if and only if the engine rejects what
reaches it, and is as it was then. -/
theorem Running.batch_untouched (running : Running lossy cacheline label sim dram)
    {request : DramRequest γ} (batch : request.Batch) :
    Untouched dram.mem.impl (submit (.dram label) request ⟨sim, dram⟩).2.dram.mem.impl ↔
      engine.Refuses dram.mem.impl.mem (dram.reaches request) dram.mem.impl.mem := by
  obtain ⟨src, cache, count, same⟩ := collector_eq dram request.callback
  have kept : (dram.collector request.callback).2.mem = dram.mem := by rw [same]
  rw [(submit_impl ..).1, kept]
  cases request with
  | reads addrs callback coreId =>
      obtain ⟨sends, issues⟩ :=
        MemorySystem.sendBatch_issues running.stable addrs .read coreId
        (some (dram.collector callback).1)
      exact issues.untouched_iff
  | writes addrs callback coreId =>
      obtain ⟨sends, issues⟩ :=
        MemorySystem.sendBatch_issues running.stable addrs .write coreId
        (some (dram.collector callback).1)
      exact issues.untouched_iff
  | read => exact batch.elim
  | write => exact batch.elim

theorem Running.raised_silent (wellFormed : sim.WellFormed)
    (running : Running lossy cacheline label sim dram) {request : DramRequest γ}
    {error : PyError}
    (raised : (submit (.dram label) request ⟨sim, dram⟩).1 = .error error) :
    (submit (.dram label) request ⟨sim, dram⟩).2.sim = sim ∧
      (submit (.dram label) request ⟨sim, dram⟩).2.dram.ticking = dram.ticking := by
  obtain ⟨mem, sends, submission, -, sent, requested⟩ :=
    running.requested wellFormed request
  obtain ⟨src, cache, count, same⟩ := collector_eq dram request.callback
  have ticking :
      (dram.collector request.callback).2.ticking = dram.ticking := by rw [same]
  rw [← ticking]
  generalize (dram.collector request.callback).2 = base at requested
  generalize submit (.dram label) request ⟨sim, dram⟩ = called at raised requested
  cases requested with
  | raised error => exact ⟨rfl, rfl⟩
  | rejected value => cases raised
  | accepted value => cases raised

/-- A call that changed nothing: no request was accepted, and the engine, the number
of pending requests, the queue and what keeps the tick chain alive are as before. -/
structure Unchanged (label : ℓ) (sim : Simulator (DramCode ℓ γ η)) (dram : Dram engine)
    (called : Device (DramCode ℓ γ η) engine) : Prop where
  untouched : Untouched dram.mem.impl called.dram.mem.impl
  pending : called.dram.pending = dram.pending
  silent : called.sim = sim
  chain : (0 < dram.pending → sim.queued label .tick ≠ []) →
    0 < called.dram.pending → called.sim.queued label .tick ≠ []

/-- A batch that raised changed nothing if and only if it left the engine as it was. -/
theorem Running.raised_unchanged (wellFormed : sim.WellFormed)
    (running : Running lossy cacheline label sim dram) {request : DramRequest γ}
    {error : PyError}
    (raised : (submit (.dram label) request ⟨sim, dram⟩).1 = .error error) :
    Unchanged label sim dram (submit (.dram label) request ⟨sim, dram⟩).2 ↔
      Untouched dram.mem.impl
        (submit (.dram label) request ⟨sim, dram⟩).2.dram.mem.impl := by
  obtain ⟨silent, -⟩ := running.raised_silent wellFormed raised
  refine ⟨Unchanged.untouched, fun untouched => ?_⟩
  have pending :
      (submit (.dram label) request ⟨sim, dram⟩).2.dram.pending = dram.pending :=
    congrArg (fun state => (engine.pendingRequests state : Int)) untouched.2
  refine ⟨untouched, pending, silent, fun chain busy => ?_⟩
  rw [pending] at busy
  rw [silent]
  exact chain busy

end Dram

namespace DramWorld

open PyMemorySystem (Untouched requestsTo reaching)

variable {setups : ℓ → DramSetup γ} {policy : TickPolicy}

/-- A batch call that raised, of a memory or of a component, has changed nothing if
and only if the engine rejects each request before the first address that is out of
range, and stays as it was. -/
theorem raised_batch (engine : Engine (CppCallback (ReadWrap γ)))
    (cacheline numCores : Int)
    (decisions : List (MemoryDecision γ)) {config : Config (dramSystem η setups policy)}
    (reached : Transition.Reach Config.advance (fun _ _ => True)
      (Config.init (create setups)) config) :
    (∀ entry ∈ (Transition.run Session.advance
        (Session.create (MemorySystem.create engine cacheline numCores)) decisions).ended,
      ∀ addrs type coreId callback error,
        entry.1.op = .sendBatch addrs type coreId callback → entry.2.2 = .error error →
          (Untouched entry.1.before entry.1.after ↔ engine.Refuses entry.1.before.mem
            (requestsTo numCores (reaching addrs)
              (MemorySystem.batchType type) coreId callback)
              entry.1.before.mem)) ∧
    ∀ label dram request error, config.world.drams label = some dram → request.Batch →
      (Dram.submit (.dram label) request ⟨config.sim, dram⟩).1 = .error error →
        (Dram.Unchanged label config.sim dram
            (Dram.submit (.dram label) request ⟨config.sim, dram⟩).2 ↔
          (setups label).engine.Refuses dram.mem.impl.mem (dram.reaches request)
            dram.mem.impl.mem) := by
  constructor
  · intro entry member addrs type coreId callback error named _
    exact Session.ended_batchExact cacheline numCores decisions entry member
      addrs type coreId callback named
  · intro label dram request error built batch raised
    obtain ⟨coherent, standing, -⟩ := tracking_keeps.reach
      (fun _ _ impossible => by cases impossible) reached
    have running := standing.running label dram built
    rw [running.raised_unchanged coherent.wellFormed raised]
    exact running.batch_untouched batch

theorem raised_batch_outOfRange :
    let config := Transition.run Config.advance
      (Config.init (create (idleSetup 4) : DramWorld (ℓ := Unit) (idleSetup 4)))
      ([.call (.build ())] : List (Decision (dramSystem Unit (idleSetup 4) .coalesced)))
    ∃ dram, config.world.drams () = some dram ∧
      Dram.Unchanged () config.sim dram
        (Dram.submit (.dram ())
          (.reads [2 ^ 70, 0] (some 7) 0) ⟨config.sim, dram⟩).2 := by
  intro config
  have built : (config.world.drams ()).any (fun dram => decide
      ((Dram.submit (.dram ())
        (.reads [2 ^ 70, 0] (some 7) 0) ⟨config.sim, dram⟩).1.isOk = false ∧
        dram.reaches (.reads [2 ^ 70, 0] (some 7) 0) = [])) = true := by
    decide +kernel
  obtain ⟨dram, built, same⟩ := (Option.any_eq_true _ _).mp built
  obtain ⟨raised, unsent⟩ := of_decide_eq_true same
  refine ⟨dram, built, ?_⟩
  rcases answer : (Dram.submit (.dram ()) (.reads [2 ^ 70, 0] (some 7) 0)
    ⟨config.sim, dram⟩).1 with error | value
  · have batch : (DramRequest.reads [2 ^ 70, 0] (some 7) 0).Batch := trivial
    refine ((raised_batch
      (Engine.fixedLatency _ 2 4 : Engine (CppCallback (ReadWrap Nat)))
      64 1 [] (Transition.Follows.reach ?_)).2 () dram _ error built batch answer).mpr ?_
    · exact ⟨trivial, trivial⟩
    rw [unsent]
    exact .nil _
  · rw [answer] at raised
    cases raised

/-- The read before the address that is out of range was accepted, and no tick is
queued for it. -/
theorem outOfRange_unticked :
    let config := Transition.run Config.advance
      (Config.init (create (idleSetup 4) : DramWorld (ℓ := Unit) (idleSetup 4)))
      ([.call (.build ())] : List (Decision (dramSystem Unit (idleSetup 4) .coalesced)))
    ∃ dram, config.world.drams () = some dram ∧
      let called :=
        Dram.submit (.dram ()) (.reads [0, 2 ^ 70] (some 7) 0) ⟨config.sim, dram⟩
      called.1.isOk = false ∧ dram.pending = 0 ∧ called.2.dram.pending = 1 ∧
        called.2.sim.queued () .tick = [] ∧
          ¬ Dram.Unchanged () config.sim dram called.2 := by
  intro config
  have built : (config.world.drams ()).any (fun dram => decide
      ((Dram.submit (.dram ())
        (.reads [0, 2 ^ 70] (some 7) 0) ⟨config.sim, dram⟩).1.isOk = false ∧
        dram.pending = 0 ∧
        (Dram.submit (.dram ()) (.reads [0, 2 ^ 70] (some 7) 0)
          ⟨config.sim, dram⟩).2.dram.pending = 1 ∧
        (Dram.submit (.dram ()) (.reads [0, 2 ^ 70] (some 7) 0)
          ⟨config.sim, dram⟩).2.sim.queued () .tick = [])) = true := by
    decide +kernel
  obtain ⟨dram, built, same⟩ := (Option.any_eq_true _ _).mp built
  obtain ⟨raised, before, after, unticked⟩ := of_decide_eq_true same
  refine ⟨dram, built, raised, before, after, unticked, fun unchanged => ?_⟩
  have same := unchanged.pending
  rw [before, after] at same
  cases same

end DramWorld

end Pyramulator
