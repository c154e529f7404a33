import Pyramulator.Dram.TickChain
import Pyramulator.Memory.Reports

namespace Pyramulator

/-! What a component without `idle_refresh` delivers: the completions of its
accepted writes and those that its engine reports. -/

variable {ℓ γ η : Type}

namespace Submission

def accepted (submission : Submission γ) : List Int :=
  match submission.result with
  | .ok value => DramRequest.taken (submission.request.addrs.zip value.accepts)
  | .error _ => []

def written (submission : Submission γ) : List (Delivery γ) :=
  if submission.request.type = .write then
    submission.accepted.map fun addr =>
      { now := submission.now
        info :=
          { addr
            type := .write
            arriveCycle := submission.cycles
            departCycle := submission.cycles
            coreId := submission.request.coreId }
        callback := submission.request.callback }
  else []

theorem written_type {submission : Submission γ} {delivery : Delivery γ}
    (member : delivery ∈ submission.written) : delivery.info.type = .write := by
  unfold written at member
  split at member
  · obtain ⟨addr, -, rfl⟩ := List.mem_map.mp member
    rfl
  · cases member

theorem written_filter (submission : Submission γ) :
    submission.written.filter (fun delivery => delivery.info.type = .write) =
        submission.written ∧
      submission.written.filter (fun delivery => ¬ delivery.info.type = .write) = [] := by
  refine ⟨List.filter_eq_self.mpr fun delivery member => ?_,
    List.filter_eq_nil_iff.mpr fun delivery member => ?_⟩
  · exact decide_eq_true (written_type member)
  · simp [written_type member]

def raised (submission : Submission γ) : Bool := !submission.result.isOk

def strays (submission : Submission γ) : List (Request (DramCallback γ)) :=
  if submission.raised then
    submission.taken.filter fun request => request.type = .read
  else []

/-- What the engine took is what the call asked for and, if it returned, what its
accept flags say. -/
def Faithful (submission : Submission γ) : Prop :=
  ∃ wrap addrs, wrap.callback = submission.request.callback ∧
    submission.taken = addrs.map (submission.request.sent wrap) ∧
      (submission.raised = false → addrs = submission.accepted)

end Submission

namespace Dram

variable {engine : Engine (DramCallback γ)}

/-- The time of a cycle of the DRAM: the busy stretch it is in began at some time
with some cycles done. -/
def cycleTime (dram : Dram engine) (cycle : Int) : Int :=
  match (dram.stretches.filter fun stretch => stretch.2 < cycle).getLast? with
  | none => dram.builtAt + cycle * dram.clk.periodPs
  | some (start, done) => start + (cycle - done) * dram.clk.periodPs

def delivery (dram : Dram engine) (cycle : Nat)
    (event : CompletionEvent (ReadWrap (Collector γ))) : Delivery γ where
  now := dram.cycleTime cycle
  info := event.info
  callback := event.callback.userCb.callback

def reported (dram : Dram engine) : List (Delivery γ) :=
  (Wire.reports 0 dram.mem.impl.wire).filterMap fun report =>
    report.1.recorded.map (dram.delivery report.2)

/-- The books of a component without `idle_refresh`. -/
structure Accounted (ledger : engine.Ledger) (dram : Dram engine) : Prop where
  completed : dram.completed = []
  noRefresh : dram.idleRefresh = false
  noIdle : dram.idleTicking = false
  cycles : dram.cycles = Wire.ticks dram.mem.impl.wire
  taken : Wire.accepted dram.mem.impl.wire = dram.submitted.flatMap Submission.taken
  reads : ((Wire.accepted dram.mem.impl.wire).filter fun request =>
      request.type = .read : Multiset (Request (DramCallback γ))) =
    ((Wire.served dram.mem.impl.wire).map Served.request :
      Multiset (Request (DramCallback γ))) + ledger.reads dram.mem.impl.mem
  settled : dram.ticking = false → ledger.reads dram.mem.impl.mem ≤
    (dram.submitted.flatMap Submission.strays : Multiset (Request (DramCallback γ)))
  faithful : ∀ submission ∈ dram.submitted, submission.Faithful
  writes : dram.delivered.filter (fun delivery => delivery.info.type = .write) =
    dram.submitted.flatMap Submission.written
  reports : dram.delivered.filter (fun delivery => ¬ delivery.info.type = .write) =
    dram.reported
  stretches : ∀ stretch ∈ dram.stretches, stretch.2 ≤ dram.cycles
  stretch : dram.ticking = true → dram.stretches ≠ []

/-! ## Requests -/

theorem cycleTime_busyFrom {dram : Dram engine} {now cycle : Int}
    (done : cycle ≤ dram.cycles) :
    (dram.busyFrom now).cycleTime cycle = dram.cycleTime cycle := by
  have unreached :
      [(now, dram.cycles)].filter (fun stretch => stretch.2 < cycle) = [] := by
    simpa using done
  simp only [cycleTime, busyFrom, List.filter_append, unreached, List.append_nil]

theorem ticks_sends {c : Type} (proto : Int → Request c) (sends : List (Int × Bool)) :
    Wire.ticks (sends.map fun send => .sent (proto send.1) send.2) = 0 := by
  refine List.countP_eq_zero.mpr fun entry member => ?_
  obtain ⟨send, -, rfl⟩ := List.mem_map.mp member
  simp

theorem served_sends {c : Type} (proto : Int → Request c) (sends : List (Int × Bool)) :
    Wire.served (sends.map fun send => .sent (proto send.1) send.2) = [] := by
  refine List.flatMap_eq_nil_iff.mpr fun entry member => ?_
  obtain ⟨send, -, rfl⟩ := List.mem_map.mp member
  rfl

theorem sending_wire {proto : Int → Request (DramCallback γ)}
    {before after : PyMemorySystem engine} {addrs : List Int} {sends : List (Int × Bool)}
    (sending : PyMemorySystem.Sending proto before after addrs sends) :
    Wire.ticks after.wire = Wire.ticks before.wire ∧
      Wire.served after.wire = Wire.served before.wire ∧
      Wire.reports 0 after.wire = Wire.reports 0 before.wire ∧
      Wire.accepted after.wire =
        Wire.accepted before.wire ++ (DramRequest.taken sends).map proto := by
  rw [sending.wire]
  refine ⟨?_, ?_, ?_, ?_⟩
  · rw [Wire.ticks_append, ticks_sends, add_zero]
  · rw [Wire.served_append, served_sends, List.append_nil]
  · rw [Wire.reports_append, Wire.reports_sends, List.append_nil]
  · rw [Wire.accepted_append, accepted_sends]

theorem sending_reads (ledger : engine.Ledger) {proto : Int → Request (DramCallback γ)}
    {before after : PyMemorySystem engine} {addrs : List Int} {sends : List (Int × Bool)}
    (sending : PyMemorySystem.Sending proto before after addrs sends) :
    ledger.reads after.mem = ledger.reads before.mem +
      (((DramRequest.taken sends).map proto).filter fun request => request.type = .read :
        Multiset (Request (DramCallback γ))) := by
  have reads := (sending.effect ledger).reads
  rw [accepted_sends, served_sends, List.map_nil, Multiset.coe_nil, zero_add] at reads
  exact reads.symm

/-- What the books say of reports does not change when the cycles that were done keep
their times and only requests pass. -/
theorem reported_congr {dram changed : Dram engine}
    (reports : Wire.reports 0 changed.mem.impl.wire = Wire.reports 0 dram.mem.impl.wire)
    (cycles : dram.cycles = Wire.ticks dram.mem.impl.wire)
    (times : ∀ cycle, cycle ≤ dram.cycles →
      changed.cycleTime cycle = dram.cycleTime cycle) :
    changed.reported = dram.reported := by
  unfold reported
  rw [reports]
  refine List.filterMap_congr fun report member => ?_
  have bound := (Wire.reports_cycle member).2
  have time := times report.2 (by rw [cycles]; omega)
  have same : changed.delivery report.2 = dram.delivery report.2 := by
    funext event
    simp only [delivery, time]
  rw [same]

theorem times_started {dram changed : Dram engine} {now : Int}
    (clk : changed.clk = dram.clk) (builtAt : changed.builtAt = dram.builtAt)
    (started : changed.stretches = dram.stretches ∨
      changed.stretches = dram.stretches ++ [(now, dram.cycles)]) :
    ∀ cycle, cycle ≤ dram.cycles → changed.cycleTime cycle = dram.cycleTime cycle := by
  intro cycle done
  rcases started with same | more
  · simp only [cycleTime, clk, builtAt, same]
  · have same : (dram.busyFrom now).cycleTime cycle = dram.cycleTime cycle :=
      cycleTime_busyFrom done
    rw [← same]
    simp only [cycleTime, clk, builtAt, more]
    rfl

theorem stretches_started {dram changed : Dram engine} {now : Int}
    (started : changed.stretches = dram.stretches ∨
      changed.stretches = dram.stretches ++ [(now, dram.cycles)])
    (bounded : ∀ stretch ∈ dram.stretches, stretch.2 ≤ dram.cycles) :
    ∀ stretch ∈ changed.stretches, stretch.2 ≤ dram.cycles := by
  intro stretch member
  rcases started with same | more
  · rw [same] at member
    exact bounded stretch member
  · rw [more] at member
    rcases List.mem_append.mp member with old | new
    · exact bounded stretch old
    · rw [List.mem_singleton.mp new]

theorem Accounted.requested {ledger : engine.Ledger} {dram changed : Dram engine}
    (accounted : dram.Accounted ledger) (now : Int) {request : DramRequest γ}
    {wrap : Collector γ} {mem : MemorySystem engine} {sends : List (Int × Bool)}
    {submission : Submission γ}
    (sending : PyMemorySystem.Sending (request.sent wrap) dram.mem.impl mem.impl
      request.addrs sends) (clk : mem.clk = dram.mem.clk)
    (taken : submission.taken = (DramRequest.taken sends).map (request.sent wrap))
    (faithful : submission.Faithful)
    (after : changed.mem = mem) (completed : changed.completed = [])
    (noRefresh : changed.idleRefresh = dram.idleRefresh)
    (noIdle : changed.idleTicking = false)
    (submitted : changed.submitted = dram.submitted ++ [submission])
    (delivered : changed.delivered = dram.delivered ++ submission.written)
    (component : changed.toComponent = dram.toComponent)
    (builtAt : changed.builtAt = dram.builtAt)
    (started : changed.ticking = dram.ticking ∧ changed.stretches = dram.stretches ∧
        (submission.raised = true ∨ submission.taken = []) ∨
      changed.ticking = true ∧ (dram.ticking = true ∧
          changed.stretches = dram.stretches ∨
        changed.stretches = dram.stretches ++ [(now, dram.cycles)])) :
    changed.Accounted ledger := by
  obtain ⟨ticks, served, reports, accepted⟩ := sending_wire sending
  have reads := sending_reads ledger sending
  rw [← taken] at accepted reads
  have cycles : changed.cycles = dram.cycles := by
    rw [Dram.cycles, after, clk]
    rfl
  have stretches : changed.stretches = dram.stretches ∨
      changed.stretches = dram.stretches ++ [(now, dram.cycles)] := by
    rcases started with ⟨-, same, -⟩ | ⟨-, ⟨-, same⟩ | more⟩
    · exact .inl same
    · exact .inl same
    · exact .inr more
  refine
    { completed
      noRefresh := noRefresh.trans accounted.noRefresh
      noIdle
      cycles := by rw [cycles, after, ticks, accounted.cycles]
      taken := by rw [after, accepted, accounted.taken, submitted]; simp
      reads := ?_
      settled := ?_
      faithful := ?_
      writes := ?_
      reports := ?_
      stretches := ?_
      stretch := ?_ }
  · rw [after, accepted, served, reads, List.filter_append, ← Multiset.coe_add,
      accounted.reads, add_assoc]
  · intro stopped
    rw [after, reads, submitted, List.flatMap_append, List.flatMap_singleton,
      ← Multiset.coe_add]
    rcases started with ⟨ticking, -, silent⟩ | ⟨ticking, -⟩
    · refine add_le_add (accounted.settled (ticking.symm.trans stopped)) ?_
      rcases silent with raised | unwritten
      · rw [Submission.strays, if_pos raised]
      · rw [unwritten]
        exact Multiset.zero_le _
    · exact absurd (ticking.symm.trans stopped) (by decide)
  · intro other member
    rw [submitted] at member
    rcases List.mem_append.mp member with old | new
    · exact accounted.faithful other old
    · rw [List.mem_singleton.mp new]
      exact faithful
  · rw [delivered, List.filter_append, accounted.writes,
      submission.written_filter.1, submitted, List.flatMap_append, List.flatMap_singleton]
  · have same : changed.reported = dram.reported :=
      reported_congr (by rw [after, reports]) accounted.cycles
        (times_started (congrArg Component.clk component) builtAt stretches)
    rw [delivered, List.filter_append, accounted.reports, submission.written_filter.2,
      List.append_nil, same]
  · rw [cycles]
    exact stretches_started stretches accounted.stretches
  · intro ticking
    rcases started with ⟨same, stretches, -⟩ | ⟨-, ⟨busy, stretches⟩ | more⟩
    · rw [stretches]
      exact accounted.stretch (same.symm.trans ticking)
    · rw [stretches]
      exact accounted.stretch busy
    · rw [more]
      simp

theorem taken_none {sends : List (Int × Bool)}
    (allRefused : ∀ send ∈ sends, send.2 = false) : DramRequest.taken sends = [] := by
  simp only [DramRequest.taken, List.filterMap_eq_nil_iff]
  intro send member
  simp [allRefused send member]

theorem accepted_of_sends {submission : Submission γ} {value : MemoryValue}
    {sends : List (Int × Bool)} (result : submission.result = .ok value)
    (accepts : value.accepts = sends.map Prod.snd)
    (all : sends.map Prod.fst = submission.request.addrs) :
    submission.accepted = DramRequest.taken sends := by
  have zip : submission.request.addrs.zip value.accepts = sends := by
    rw [← all, accepts]
    exact (List.zip_of_prod rfl rfl).symm
  simp only [Submission.accepted, result, zip]

/-! ## Cycles -/

section Cycles

variable {dram : Dram engine}

theorem cycleTime_last {ledger : engine.Ledger} (accounted : dram.Accounted ledger)
    (ticking : dram.ticking = true) {count : Nat} (positive : 1 ≤ count) :
    dram.cycleTime (dram.cycles + count) = dram.due count := by
  have all : dram.stretches.filter (fun stretch => stretch.2 < dram.cycles + count) =
      dram.stretches :=
    List.filter_eq_self.mpr fun stretch member => by
      have := accounted.stretches stretch member
      simp only [decide_eq_true_eq]
      omega
  rw [cycleTime, all, due, origin]
  cases last : dram.stretches.getLast? with
  | none => exact absurd (List.getLast?_eq_none_iff.mp last) (accounted.stretch ticking)
  | some stretch =>
      obtain ⟨start, done⟩ := stretch
      simp only
      ring

theorem recorded_read {ledger : engine.Ledger} {impl : PyMemorySystem engine}
    (reads : ((Wire.accepted impl.wire).filter fun request => request.type = .read :
        Multiset (Request (DramCallback γ))) =
      ((Wire.served impl.wire).map Served.request : Multiset (Request (DramCallback γ))) +
        ledger.reads impl.mem) {served : Served (DramCallback γ)}
    (member : served ∈ Wire.served impl.wire) : served.request.type = .read := by
  have among : served.request ∈ ((Wire.accepted impl.wire).filter fun request =>
      request.type = .read : Multiset (Request (DramCallback γ))) := by
    rw [reads]
    exact Multiset.mem_add.mpr (.inl (List.mem_map_of_mem member))
  simpa using (List.mem_filter.mp among).2

theorem recorded_type {served : Served (DramCallback γ)}
    {event : CompletionEvent (ReadWrap (Collector γ))}
    (recorded : served.recorded = some event) : event.type = served.request.type := by
  unfold Served.recorded at recorded
  split at recorded
  · cases recorded
  · cases recorded
    rfl
  · obtain ⟨callback, -, rfl⟩ := Option.map_eq_some_iff.mp recorded
    rfl

theorem silent_of_quiet {impl : PyMemorySystem engine} (drained : impl.completed = [])
    {count : Nat} (quiet : ∀ earlier, 1 ≤ earlier → earlier < count →
      (PyMemorySystem.tick^[earlier] impl).progressed = false) :
    ∀ earlier < count, (PyMemorySystem.tick^[earlier] impl).completed = [] := by
  intro earlier less
  cases earlier with
  | zero => exact drained
  | succ earlier =>
      have progressed := quiet (earlier + 1) (by omega) less
      simp only [PyMemorySystem.progressed, Bool.or_eq_false_iff] at progressed
      simpa using progressed.1

theorem iterate_reads {ledger : engine.Ledger} {impl : PyMemorySystem engine}
    (reads : ((Wire.accepted impl.wire).filter fun request => request.type = .read :
        Multiset (Request (DramCallback γ))) =
      ((Wire.served impl.wire).map Served.request : Multiset (Request (DramCallback γ))) +
        ledger.reads impl.mem) (count : Nat) :
    ((Wire.accepted (PyMemorySystem.tick^[count] impl).wire).filter fun request =>
        request.type = .read : Multiset (Request (DramCallback γ))) =
      ((Wire.served (PyMemorySystem.tick^[count] impl).wire).map Served.request :
        Multiset (Request (DramCallback γ))) +
        ledger.reads (PyMemorySystem.tick^[count] impl).mem := by
  obtain ⟨segment, wire, -, accepted⟩ := PyMemorySystem.iterate_wire impl count
  have effect := (PyMemorySystem.iterate_effect ledger impl count wire).reads
  rw [accepted, List.filter_nil, Multiset.coe_nil, add_zero] at effect
  rw [wire, Wire.accepted_append, Wire.served_append, accepted, List.append_nil,
    List.map_append, ← Multiset.coe_add, reads, effect, add_assoc]

theorem iterate_completed_type {ledger : engine.Ledger} {impl : PyMemorySystem engine}
    (reads : ((Wire.accepted impl.wire).filter fun request => request.type = .read :
        Multiset (Request (DramCallback γ))) =
      ((Wire.served impl.wire).map Served.request : Multiset (Request (DramCallback γ))) +
        ledger.reads impl.mem) (drained : impl.completed = []) {count : Nat}
    {event : CompletionEvent (ReadWrap (Collector γ))}
    (member : event ∈ (PyMemorySystem.tick^[count] impl).completed) :
    event.type = .read := by
  obtain ⟨segment, wire, -, -⟩ := PyMemorySystem.iterate_wire impl count
  rw [(PyMemorySystem.iterate_effect ledger impl count wire).completed, drained,
    List.nil_append] at member
  obtain ⟨served, passed, told⟩ := List.mem_filterMap.mp member
  rw [recorded_type told]
  refine recorded_read (iterate_reads reads count) ?_
  rw [wire, Wire.served_append]
  exact List.mem_append_right _ passed

theorem deliveries_ran {ledger : engine.Ledger} (accounted : dram.Accounted ledger)
    (ticking : dram.ticking = true) {count : Nat} (positive : 1 ≤ count) :
    deliveries (dram.due count) (dram.ran count).completed =
      (PyMemorySystem.tick^[count] dram.mem.impl).completed.map
        (dram.delivery (Wire.ticks dram.mem.impl.wire + count)) := by
  have time := cycleTime_last accounted ticking positive
  rw [accounted.cycles, ← Nat.cast_add] at time
  simp only [deliveries, Dram.ran, accounted.completed, List.nil_append, List.map_map]
  refine List.map_congr_left fun event _ => ?_
  simp only [Function.comp_apply, collected, delivery, time]

theorem Accounted.ran {tally : engine.Tally} (accounted : dram.Accounted tally.toLedger)
    (drained : dram.mem.impl.completed = []) (ticking : dram.ticking = true) {count : Nat}
    (positive : 1 ≤ count)
    (quiet : ∀ earlier, 1 ≤ earlier → earlier < count →
      (PyMemorySystem.tick^[earlier] dram.mem.impl).progressed = false)
    {changed : Dram engine} (after : changed.mem = (dram.ran count).mem)
    (completed : changed.completed = [])
    (noRefresh : changed.idleRefresh = dram.idleRefresh)
    (noIdle : changed.idleTicking = dram.idleTicking)
    (submitted : changed.submitted = dram.submitted)
    (delivered : changed.delivered = dram.delivered ++
      deliveries (dram.due count) (dram.ran count).completed)
    (component : changed.toComponent = dram.toComponent)
    (builtAt : changed.builtAt = dram.builtAt)
    (stretches : changed.stretches = dram.stretches)
    (settled : changed.ticking = false → (dram.ran count).pending = 0) :
    changed.Accounted tally.toLedger := by
  obtain ⟨segment, wire, ticks, accepted⟩ :=
    PyMemorySystem.iterate_wire dram.mem.impl count
  have implAfter :
      changed.mem.impl.wire = (PyMemorySystem.tick^[count] dram.mem.impl).wire ∧
      changed.mem.impl.mem = (PyMemorySystem.tick^[count] dram.mem.impl).mem := by
    rw [after]
    exact ⟨rfl, rfl⟩
  have wireAfter : changed.mem.impl.wire = dram.mem.impl.wire ++ segment :=
    implAfter.1.trans wire
  have cycles : changed.cycles = dram.cycles + count := by
    rw [Dram.cycles, after]
    rfl
  have new := deliveries_ran accounted ticking positive
  have allReads : ∀ delivery ∈ deliveries (dram.due count) (dram.ran count).completed,
      delivery.info.type = .read := by
    intro delivery member
    rw [new] at member
    obtain ⟨event, recorded, rfl⟩ := List.mem_map.mp member
    exact iterate_completed_type accounted.reads drained recorded
  refine
    { completed
      noRefresh := noRefresh.trans accounted.noRefresh
      noIdle := noIdle.trans accounted.noIdle
      cycles := ?_
      taken := ?_
      reads := by
        rw [implAfter.1, implAfter.2]
        exact iterate_reads accounted.reads count
      settled := ?_
      faithful := submitted ▸ accounted.faithful
      writes := ?_
      reports := ?_
      stretches := ?_
      stretch := fun _ => stretches ▸ accounted.stretch ticking }
  · rw [cycles, wireAfter, Wire.ticks_append, ticks, accounted.cycles, Nat.cast_add]
  · rw [wireAfter, Wire.accepted_append, accepted, List.append_nil, accounted.taken,
      submitted]
  · intro stopped
    have idle := tally.idle _ (Int.natCast_eq_zero.mp (settled stopped))
    rw [implAfter.2]
    exact idle.le.trans (Multiset.zero_le _)
  · have noWrites : (deliveries (dram.due count) (dram.ran count).completed).filter
        (fun delivery => delivery.info.type = .write) = [] :=
      List.filter_eq_nil_iff.mpr fun delivery member => by
        simp [allReads delivery member]
    rw [delivered, List.filter_append, noWrites, List.append_nil, accounted.writes,
      submitted]
  · have all : (deliveries (dram.due count) (dram.ran count).completed).filter
        (fun delivery => ¬ delivery.info.type = .write) =
          deliveries (dram.due count) (dram.ran count).completed :=
      List.filter_eq_self.mpr fun delivery member => by
        simp [allReads delivery member]
    have times : changed.delivery = dram.delivery := by
      funext cycle event
      simp only [delivery, cycleTime, stretches, builtAt, component]
    have last := PyMemorySystem.iterate_reports (silent_of_quiet drained quiet) wire
      (Wire.ticks dram.mem.impl.wire) dram.delivery
    rw [if_neg (by omega), ← new] at last
    rw [delivered, List.filter_append, accounted.reports, all, reported, reported, times,
      wireAfter, Wire.reports_append, List.filterMap_append, Nat.zero_add, last]
  · rw [stretches, cycles]
    intro stretch member
    have := accounted.stretches stretch member
    omega

end Cycles

section Books

variable [DecidableEq ℓ] [DecidableEq γ] {lossy : Prop} {cacheline : Int} {label : ℓ}
  {sim : Simulator (DramCode ℓ γ η)} {dram : Dram engine}

theorem Requested.accounted {ledger : engine.Ledger} (accounted : dram.Accounted ledger)
    {request : DramRequest γ} {wrap : Collector γ} {mem : MemorySystem engine}
    {sends : List (Int × Bool)} (sent : Sent cacheline sim dram request wrap mem sends)
    (answering : wrap.callback = request.callback)
    {called : Except PyError MemoryValue × Device (DramCode ℓ γ η) engine}
    {submission : Submission γ}
    (note : submission = ⟨sim.now, dram.cycles, request, called.1,
      (DramRequest.taken sends).map (request.sent wrap)⟩)
    (requested : Requested lossy label sim dram request mem sends submission called) :
    called.2.dram.Accounted ledger := by
  have faithful (told : submission.raised = false →
      DramRequest.taken sends = submission.accepted) : submission.Faithful :=
    ⟨wrap, _, note ▸ answering, note ▸ rfl, told⟩
  have taken : submission.taken = (DramRequest.taken sends).map (request.sent wrap) := by
    rw [note]
  have result : submission.result = called.1 := by rw [note]
  have asked : submission.request = request := by rw [note]
  have when_ : submission.now = sim.now ∧ submission.cycles = dram.cycles := by
    rw [note]
    exact ⟨rfl, rfl⟩
  clear note
  cases requested with
  | raised error =>
      have raised : submission.raised = true := by
        rw [Submission.raised, result]
        rfl
      have unwritten : submission.written = [] := by
        simp [Submission.written, Submission.accepted, result]
      refine accounted.requested sim.now sent.sending sent.clk taken
        (faithful fun returned => absurd (raised.symm.trans returned) (by decide)) rfl
        accounted.completed rfl accounted.noIdle rfl ?_ rfl rfl
        (.inl ⟨rfl, rfl, .inl raised⟩)
      exact ((congrArg (dram.delivered ++ ·) unwritten).trans (List.append_nil _)).symm
  | rejected value accepts all allRefused =>
      have told := accepted_of_sends result accepts (all.trans (asked ▸ rfl))
      have nothing := taken_none allRefused
      have unwritten : submission.written = [] := by
        simp [Submission.written, told, nothing]
      refine accounted.requested sim.now sent.sending sent.clk taken
        (faithful fun _ => told.symm)
        rfl accounted.completed rfl accounted.noIdle rfl ?_ rfl rfl
        (.inl ⟨rfl, rfl, .inr (by rw [taken, nothing]; rfl)⟩)
      exact ((congrArg (dram.delivered ++ ·) unwritten).trans (List.append_nil _)).symm
  | accepted value accepts all someTaken handed rest answered after clock
      clocked started =>
      have told := accepted_of_sends result accepts (all.trans (asked ▸ rfl))
      obtain ⟨rfl, rfl⟩ := answered accounted.completed
      have written : submission.written = deliveries sim.now
          (request.answers dram.mem.clk request.callback sends) := by
        by_cases write : request.type = .write
        · simp only [Submission.written, asked, if_pos write, told, when_.1, when_.2,
            deliveries, DramRequest.answers, List.map_map]
          rfl
        · simp [Submission.written, asked, write, deliveries, DramRequest.answers]
      rcases started with ⟨ticking, same⟩ | ⟨stopped, same⟩
      · refine accounted.requested sim.now sent.sending sent.clk taken
          (faithful fun _ => told.symm) ?_ ?_ ?_ ?_ ?_ ?_ ?_ ?_
            (.inr ⟨?_, .inl ⟨ticking, ?_⟩⟩)
        all_goals simp only [same]
        all_goals first
          | rfl
          | exact accounted.noIdle
          | exact congrArg (dram.delivered ++ ·) written.symm
          | exact ticking
      · refine accounted.requested sim.now sent.sending sent.clk taken
          (faithful fun _ => told.symm) ?_ ?_ ?_ ?_ ?_ ?_ ?_ ?_ (.inr ⟨?_, .inr ?_⟩)
        all_goals simp only [same]
        all_goals first
          | rfl
          | exact congrArg (dram.delivered ++ ·) written.symm
          | exact congrArg (fun cycles => dram.stretches ++ [(sim.now, cycles)]) sent.clk

theorem Accounted.collector {ledger : engine.Ledger} (accounted : dram.Accounted ledger)
    (callback : Option γ) : (dram.collector callback).2.Accounted ledger := by
  obtain ⟨src, cache, count, same⟩ := collector_eq dram callback
  rw [same]
  exact { accounted with }

theorem Ticked.accounted (tally : engine.Tally)
    (accounted : dram.Accounted tally.toLedger)
    (drained : dram.mem.impl.completed = [])
    {event : Event (DramCode ℓ γ η)} {count : Nat}
    {last : Simulator (DramCode ℓ γ η)} {ended : Device (DramCode ℓ γ η) engine}
    (ticked : Ticked lossy cacheline label sim event dram count last ended) :
    ended.dram.Accounted tally.toLedger := by
  have delivered := congrArg (fun now =>
    dram.delivered ++ deliveries now (dram.ran count).completed) ticked.jumped.now
  cases ticked.ends with
  | pending busy =>
      exact accounted.ran drained ticked.ticking ticked.positive ticked.quiet
        rfl rfl rfl rfl
        rfl delivered rfl rfl rfl fun stopped =>
          absurd (ticked.ticking.symm.trans stopped) (by decide)
  | idle serviced refresh =>
      exact absurd (accounted.noRefresh.symm.trans refresh) (by decide)
  | stopped serviced noRefresh =>
      exact accounted.ran drained ticked.ticking ticked.positive ticked.quiet
        rfl rfl rfl rfl
        rfl delivered rfl rfl rfl fun _ => serviced

theorem Created.accounted {setup : DramSetup γ} (tally : setup.engine.Tally)
    (noRefresh : setup.idleRefresh = false) {made : Dram setup.engine}
    {after : Device (DramCode ℓ γ η) setup.engine}
    (created : Created lossy label setup sim made after) :
    after.dram.Accounted tally.toLedger := by
  obtain ⟨clk, base_pos, rfl⟩ := created.initial
  rcases created.dram with ⟨refresh, -⟩ | ⟨-, same⟩
  · exact absurd (noRefresh.symm.trans refresh) (by decide)
  · rw [same]
    exact
      { completed := rfl
        noRefresh
        noIdle := rfl
        cycles := rfl
        taken := rfl
        reads := by simp [fresh, MemorySystem.create, PyMemorySystem.create, tally.fresh]
        settled := fun _ => tally.fresh.le
        faithful := by simp [fresh]
        writes := rfl
        reports := rfl
        stretches := by simp [fresh]
        stretch := fun ticking => by cases ticking }

end Books

end Dram

end Pyramulator
