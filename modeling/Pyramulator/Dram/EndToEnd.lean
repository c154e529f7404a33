import Pyramulator.Dram.Announce

namespace Pyramulator

/-! The completions of a component without `idle_refresh`, from the calls of user code
to the calls of its callbacks. -/

variable {ℓ γ η : Type}

structure Told (γ : Type) where
  callback : γ
  addr : Int
  type : RequestType
  coreId : Int
  deriving DecidableEq

def Invocation.told (invocation : Invocation γ) : Told γ :=
  ⟨invocation.callback, invocation.info.addr, invocation.info.type,
    invocation.info.coreId⟩

def Request.told (request : Request (DramCallback γ)) : Option (Told γ) :=
  let tell (coreId : Int) (wrap : ReadWrap (Collector γ)) : Option (Told γ) :=
    wrap.userCb.callback.map fun callback =>
      ⟨callback, request.addr, request.type, coreId⟩
  match request.callback with
  | .ignore => none
  | .record wrap coreid => tell coreid wrap
  | .driven _ wrap => wrap.bind (tell request.coreid)

theorem told_of_recorded {engine : Engine (DramCallback γ)} (dram : Dram engine)
    (cycle : Nat) (served : Served (DramCallback γ)) :
    ((served.recorded.map (dram.delivery cycle)).bind Delivery.invocation).map
      Invocation.told = served.request.told := by
  have tell (wrap : ReadWrap (Collector γ)) (info : RequestInfo) :
      (Delivery.invocation ⟨dram.cycleTime cycle, info, wrap.userCb.callback⟩).map
          Invocation.told =
        wrap.userCb.callback.map fun callback =>
          ⟨callback, info.addr, info.type, info.coreId⟩ := by
    cases wrap.userCb.callback <;> rfl
  rcases served with ⟨⟨addr, type, coreid, _ | ⟨wrap, coreId⟩ | ⟨drive, _ | wrap⟩⟩,
    arrive, depart⟩
  · rfl
  · exact tell wrap _
  · rfl
  · exact tell wrap _

/-- Which deliveries have a kind of information is seen in the calls they lead to. -/
theorem invocations_filter (delivered : List (Delivery γ)) (kind : RequestInfo → Bool) :
    (delivered.filterMap Delivery.invocation).filter (fun call => kind call.info) =
      (delivered.filter fun delivery => kind delivery.info).filterMap
        Delivery.invocation := by
  rw [List.filter_filterMap, List.filterMap_filter]
  refine List.filterMap_congr fun delivery _ => ?_
  rcases user : delivery.callback with _ | callback <;>
    simp [Delivery.invocation, user, Option.filter]

namespace Submission

def owed (submission : Submission γ) : List (Told γ) :=
  match submission.request.callback with
  | none => []
  | some callback => submission.accepted.map fun addr =>
      ⟨callback, addr, submission.request.type, submission.request.coreId⟩

/-- The calls that the reads may lead to which a call left behind when it raised. -/
def stranded (submission : Submission γ) : List (Told γ) :=
  submission.strays.filterMap Request.told

theorem type_cases (request : DramRequest γ) :
    request.type = .read ∨ request.type = .write := by
  cases request
  · exact .inl rfl
  · exact .inr rfl
  · exact .inl rfl
  · exact .inr rfl

theorem written_told (submission : Submission γ) :
    (submission.written.filterMap Delivery.invocation).map Invocation.told =
      if submission.request.type = .write then submission.owed else [] := by
  unfold written owed
  split
  · rename_i write
    cases submission.request.callback with
    | none => simp [Delivery.invocation]
    | some callback =>
        simp [Delivery.invocation, Invocation.told, write, Function.comp_def]
  · rfl

theorem told_sent (request : DramRequest γ) (read : request.type = .read)
    {wrap : Collector γ} (callback : wrap.callback = request.callback) (addr : Int) :
    (request.sent wrap addr).told = request.callback.map fun callback =>
      ⟨callback, addr, request.type, request.coreId⟩ := by
  simp [DramRequest.sent, Request.told, read, PyMemorySystem.makeCallback, callback]

theorem taken_told {submission : Submission γ} (faithful : submission.Faithful) :
    (submission.taken.filter fun request => request.type = .read).filterMap
        Request.told =
      (if submission.request.type = .read then submission.owed else []) ++
        submission.stranded := by
  obtain ⟨wrap, addrs, callback, taken, told⟩ := faithful
  cases raised : submission.raised with
  | true =>
      have nothing : submission.owed = [] := by
        have failed : submission.accepted = [] := by
          unfold Submission.accepted
          cases result : submission.result with
          | ok value =>
              simp [Submission.raised, result, Except.isOk, Except.toBool] at raised
          | error error => rfl
        unfold owed
        split
        · rfl
        · rw [failed]
          rfl
      simp only [nothing, ite_self, List.nil_append, stranded, strays, raised, if_true]
  | false =>
      have noStranded : submission.stranded = [] := by
        simp [stranded, strays, raised]
      rw [noStranded, List.append_nil, taken, told raised]
      rcases type_cases submission.request with read | write
      · have all : ∀ request ∈ submission.accepted.map (submission.request.sent wrap),
            request.type = .read := by
          intro request member
          obtain ⟨addr, -, rfl⟩ := List.mem_map.mp member
          exact read
        rw [List.filter_eq_self.mpr fun request member => decide_eq_true (all _ member),
          if_pos read, List.filterMap_map]
        simp only [Function.comp_def, told_sent _ read callback, owed]
        cases submission.request.callback with
        | none => simp
        | some callback => simp
      · have other : ∀ request ∈ submission.accepted.map (submission.request.sent wrap),
            ¬ request.type = .read := by
          intro request member
          obtain ⟨addr, -, rfl⟩ := List.mem_map.mp member
          change ¬ submission.request.type = .read
          rw [write]
          decide
        rw [List.filter_eq_nil_iff.mpr fun request member => by
            simpa using other _ member,
          if_neg (by rw [write]; decide)]
        rfl

theorem owed_split (submission : Submission γ) :
    submission.owed =
      (if submission.request.type = .write then submission.owed else []) ++
        if submission.request.type = .read then submission.owed else [] := by
  rcases type_cases submission.request with read | write
  · simp [read]
  · simp [write]

end Submission

namespace Dram

variable {engine : Engine (DramCallback γ)}

/-- The calls of user code's callbacks by a component, and what it owed. -/
structure Settled (ledger : engine.Ledger) (dram : Dram engine)
    (invocations : List (Invocation γ)) : Prop where
  /-- Writes complete in the order, at the time and in the cycle of acceptance. -/
  writes : invocations.filter (fun call => call.info.type = .write) =
    (dram.submitted.flatMap Submission.written).filterMap Delivery.invocation
  /-- Other completions come in the order in which the engine reported them, at the
  times of the cycles in which it did. -/
  reads : invocations.filter (fun call => ¬ call.info.type = .write) =
    dram.reported.filterMap Delivery.invocation
  /-- Each request was completed once, but for the reads the engine still holds. -/
  once : (invocations.map Invocation.told : Multiset (Told γ)) +
      (ledger.reads dram.mem.impl.mem).filterMap Request.told =
    (dram.submitted.flatMap Submission.owed : Multiset (Told γ)) +
      (dram.submitted.flatMap Submission.stranded : Multiset (Told γ))
  held : ledger.reads dram.mem.impl.mem ≤
    (dram.submitted.flatMap Submission.strays : Multiset (Request (DramCallback γ)))

theorem reported_told (dram : Dram engine) :
    (dram.reported.filterMap Delivery.invocation).map Invocation.told =
      (Wire.served dram.mem.impl.wire).filterMap fun served => served.request.told := by
  unfold reported
  rw [← Wire.reports_fst 0, List.filterMap_filterMap, List.map_filterMap,
    List.filterMap_map]
  exact List.filterMap_congr fun report _ => told_of_recorded dram report.2 report.1

theorem Accounted.once {ledger : engine.Ledger} {dram : Dram engine}
    (accounted : dram.Accounted ledger) :
    ((dram.delivered.filterMap Delivery.invocation).map Invocation.told :
        Multiset (Told γ)) + (ledger.reads dram.mem.impl.mem).filterMap Request.told =
      (dram.submitted.flatMap Submission.owed : Multiset (Told γ)) +
        (dram.submitted.flatMap Submission.stranded : Multiset (Told γ)) := by
  set calls := dram.delivered.filterMap Delivery.invocation with calls_eq
  have writes : (calls.filter fun call => call.info.type = .write).map Invocation.told =
      dram.submitted.flatMap fun submission =>
        if submission.request.type = .write then submission.owed else [] := by
    rw [calls_eq, invocations_filter _ fun info => decide (info.type = .write),
      accounted.writes, List.filterMap_flatMap, List.map_flatMap]
    exact List.flatMap_congr fun submission _ => submission.written_told
  have reads : (calls.filter fun call => ¬ call.info.type = .write).map Invocation.told =
      (Wire.served dram.mem.impl.wire).filterMap fun served => served.request.told := by
    rw [calls_eq, invocations_filter _ fun info => decide ¬ info.type = .write,
      accounted.reports, reported_told]
  have taken : ((Wire.accepted dram.mem.impl.wire).filter fun request =>
        request.type = .read).filterMap Request.told =
      dram.submitted.flatMap fun submission =>
        (if submission.request.type = .read then submission.owed else []) ++
          submission.stranded := by
    rw [accounted.taken, List.filter_flatMap, List.filterMap_flatMap]
    exact List.flatMap_congr fun submission member =>
      Submission.taken_told (accounted.faithful submission member)
  have split : (calls.map Invocation.told : Multiset (Told γ)) =
      ((calls.filter fun call => call.info.type = .write).map Invocation.told :
        Multiset (Told γ)) +
      ((calls.filter fun call => ¬ call.info.type = .write).map Invocation.told :
        Multiset (Told γ)) := by
    rw [Multiset.coe_add, ← List.map_append]
    refine Multiset.coe_eq_coe.mpr (List.Perm.map _ ?_).symm
    simpa only [decide_not] using
      List.filter_append_perm (fun call : Invocation γ => call.info.type = .write) calls
  have served := congrArg (Multiset.filterMap Request.told) accounted.reads
  rw [Multiset.filterMap_add, Multiset.filterMap_coe, Multiset.filterMap_coe, taken,
    List.filterMap_map] at served
  rw [split, writes, reads, add_assoc]
  calc _ = (dram.submitted.flatMap (fun submission =>
            if submission.request.type = .write then submission.owed else []) :
          Multiset (Told γ)) +
        (dram.submitted.flatMap (fun submission =>
            (if submission.request.type = .read then submission.owed else []) ++
              submission.stranded) : Multiset (Told γ)) :=
        congrArg _ served.symm
    _ = _ := by
        rw [← Multiset.coe_eq_coe.mpr (List.flatMap_append_perm _ _ _),
          ← Multiset.coe_add, ← add_assoc, Multiset.coe_add,
          Multiset.coe_eq_coe.mpr (List.flatMap_append_perm _ _ _)]
        simp only [← Submission.owed_split]

theorem Accounted.settle {tally : engine.Tally} {dram : Dram engine}
    (accounted : dram.Accounted tally.toLedger) (stopped : dram.ticking = false) :
    dram.Settled tally.toLedger (dram.delivered.filterMap Delivery.invocation) where
  writes := by
    rw [invocations_filter _ fun info => decide (info.type = .write), accounted.writes]
  reads := by
    rw [invocations_filter _ fun info => decide ¬ info.type = .write, accounted.reports]
  once := accounted.once
  held := accounted.settled stopped

end Dram

namespace DramWorld

variable [DecidableEq ℓ] [DecidableEq γ] {setups : ℓ → DramSetup γ} {policy : TickPolicy}
  {allowed : Config (dramSystem η setups policy) →
    Decision (dramSystem η setups policy) → Prop}

theorem accounted_keeps (tally : ∀ label, (setups label).engine.Tally) :
    Keeps True policy allowed (Each η fun label dram =>
      (setups label).idleRefresh = false →
        dram.Accounted (tally label).toLedger ∧ dram.mem.impl.completed = []) := by
  refine Keeps.each (fun _ _ _ _ _ => trivial) ?_ ?_ ?_ ?_
  · exact fun new noRefresh =>
      ⟨new.accounted (tally _) noRefresh, new.running.drained⟩
  · intro config label request dram wellFormed _ _ running both noRefresh
    obtain ⟨mem, sends, submission, note, sent, requested⟩ :=
      running.requested wellFormed request
    have base := (both noRefresh).1.collector request.callback
    refine ⟨requested.accounted base sent (Dram.collector_callback running.cached _) ?_,
      (requested.running wellFormed (running.collector _) sent).2.drained⟩
    rw [note]
    obtain ⟨src, cache, count, same⟩ := Dram.collector_eq dram request.callback
    rw [same]
    rfl
  · exact fun tick both noRefresh =>
      ⟨tick.accounted (tally _) (both noRefresh).1 (both noRefresh).2,
        tick.running.drained⟩
  · intro config decision label event dram ended _ _ _ _ _ tick both noRefresh
    exact absurd (tick.idle.symm.trans (both noRefresh).1.noIdle) (by decide)

/-- When a run has gone idle, each accepted request of a component without
`idle_refresh` has led to one call of its own callback, and nothing else has. -/
theorem end_to_end (tally : ∀ label, (setups label).engine.Tally)
    {config : Config (dramSystem η setups policy)}
    (reached : Transition.Reach Config.advance (fun _ _ => True)
      (Config.init (create setups)) config)
    (idle : config.sim.liveEvents = []) {label : ℓ}
    (noRefresh : (setups label).idleRefresh = false)
    {dram : Dram (setups label).engine} (built : config.world.drams label = some dram) :
    dram.Settled (tally label).toLedger
      ((Config.firedEvents config.log).filterMap (completionOf label)) := by
  obtain ⟨-, standing, each⟩ := (accounted_keeps tally).reach
    (fun _ _ impossible => by cases impossible) reached
  obtain ⟨-, -, announced⟩ := announcing_keeps.reach
    (fun label => ⟨rfl, fun event member => by cases member⟩) reached
  have accounted := (each label dram built noRefresh).1
  have told := announced label
  rw [built] at told
  have order := told.order
  rw [idle, List.append_nil] at order
  rw [order]
  refine accounted.settle ?_
  cases (standing.running label dram built).clocked with
  | busy event ticking noIdle ticks =>
      have member := (Simulator.mem_queued.mp (ticks ▸ List.mem_singleton_self event)).1
      rw [idle] at member
      cases member
  | idle _ stopped => exact stopped
  | stopped stopped => exact stopped
  | lost _ stopped => exact stopped

def busySetup (_ : Unit) : DramSetup Nat where
  engine := .fixedLatency _ 2 4
  periodPs := 10
  cacheline := 64
  numCores := 1
  completionPriority := 0
  idleRefresh := false
  idleBatchCycles := 1000
  name := "dram"

/-- Two reads that share a callback, a write with one of its own, and a read without
one. -/
def mixedCallbacks : List (Decision (dramSystem Unit busySetup .coalesced)) :=
  [.call (.build ()), .call (.request () (.reads [0, 64] (some 1) 0)),
    .call (.request () (.write 128 (some 2) 0)), .call (.request () (.read 192 none 0)),
    .step, .answer (), .step, .step, .answer (), .step, .answer ()]

theorem end_to_end_mixedCallbacks :
    ∃ dram calls, (Transition.run Config.advance (Config.init (create busySetup))
        mixedCallbacks).world.drams () = some dram ∧
      calls = [⟨2, ⟨128, .write, 0, 0, 0⟩, 0⟩, ⟨1, ⟨0, .read, 0, 2, 0⟩, 20⟩,
        ⟨1, ⟨64, .read, 0, 2, 0⟩, 20⟩] ∧
      dram.Settled (Engine.fixedLatencyTally _ 2 4).toLedger calls := by
  have built : ((Transition.run Config.advance (Config.init (create busySetup))
      mixedCallbacks).world.drams ()).isSome = true := by decide +kernel
  obtain ⟨dram, built⟩ := Option.isSome_iff_exists.mp built
  have settled := end_to_end (η := Unit) (fun _ => Engine.fixedLatencyTally _ 2 4)
    (Transition.reach_run _ _ mixedCallbacks)
    (by decide +kernel) rfl built
  refine ⟨dram, _, built, ?_, settled⟩
  decide +kernel

end DramWorld

end Pyramulator
