import Pyramulator.Sim.Kernel

namespace Pyramulator.Kernel

open Config (firedEvents firedEvents_append)

variable {κ : Type}

/-! Accounting of the events of a run. -/

/-- Every id that was handed out is fired, cancelled or still live, once. -/
structure Accounted (sim : Simulator κ) (stack : List (Frame (kernel κ)))
    (log : List (Entry (kernel κ))) : Prop where
  scheduled : scheduledIds log = List.range sim.seq
  accounted : (firedIds log ++ cancelledIds log ++ liveIds sim).Perm
    (List.range sim.seq)
  returned : sim.processed = (returnedEvents log).length
  opened : (returnedEvents log ++ openEvents stack).Subperm (firedEvents log)

namespace Accounted

variable {sim : Simulator κ} {stack rest : List (Frame (kernel κ))}
  {log : List (Entry (kernel κ))}

theorem init : Accounted (Simulator.init : Simulator κ) [] [] where
  scheduled := rfl
  accounted := List.Perm.refl _
  returned := rfl
  opened := List.Subperm.refl _

theorem congr (accounted : Accounted sim stack log) (after : Simulator κ)
    (seq : after.seq = sim.seq) (live : after.liveEvents = sim.liveEvents)
    (processed : after.processed = sim.processed) :
    Accounted after stack log where
  scheduled := by rw [seq]; exact accounted.scheduled
  accounted := by
    rw [seq, liveIds, live]
    exact accounted.accounted
  returned := by rw [processed]; exact accounted.returned
  opened := accounted.opened

theorem silent (accounted : Accounted sim stack log)
    (entries : List (Entry (kernel κ)))
    (noScheduled : scheduledIds entries = [])
    (noCancelled : cancelledIds entries = [])
    (noFired : firedEvents entries = [])
    (noReturned : returnedEvents entries = [])
    (sameOpen : openEvents rest = openEvents stack) :
    Accounted sim rest (log ++ entries) where
  scheduled := by simpa [noScheduled] using accounted.scheduled
  accounted := by
    simpa [firedIds, noCancelled, noFired] using accounted.accounted
  returned := by simpa [noReturned] using accounted.returned
  opened := by simpa [noReturned, noFired, sameOpen] using accounted.opened

theorem push (accounted : Accounted sim stack log)
    (wellFormed : sim.WellFormed) (time : Int) (callback : κ) (priority : Int)
    (source : Option String) {entry : Entry (kernel κ)}
    (scheduled : scheduledIds [entry] = [sim.seq])
    (noCancelled : cancelledIds [entry] = [])
    (noFired : firedEvents [entry] = [])
    (noReturned : returnedEvents [entry] = []) :
    Accounted (sim.push time callback priority source).2 stack
      (log ++ [entry]) where
  scheduled := by
    rw [scheduledIds_append, accounted.scheduled, scheduled,
      Simulator.push_seq, List.range_succ]
  accounted := by
    have live : (liveIds (sim.push time callback priority source).2).Perm
        (sim.seq :: liveIds sim) := by
      rw [liveIds, Simulator.push_liveEvents wellFormed]
      exact (Queue.insert_perm _ _).map Event.seq
    rw [Simulator.push_seq, List.range_succ]
    simp only [firedIds, firedEvents_append, noFired, cancelledIds_append,
      noCancelled, List.append_nil]
    refine (live.append_left _).trans ?_
    refine List.perm_middle.trans ?_
    exact (accounted.accounted.cons _).trans
      (List.perm_append_singleton _ _).symm
  returned := by
    rw [returnedEvents_append, noReturned, List.append_nil]
    exact accounted.returned
  opened := by simpa [noReturned, noFired] using accounted.opened

theorem cancel (accounted : Accounted sim stack log)
    (wellFormed : sim.WellFormed) (eventId : Nat) :
    Accounted (sim.cancel eventId).2 stack
      (log ++ [.called (.cancel eventId) (.ok (.flag (sim.cancel eventId).1))]) := by
  by_cases answer : (sim.cancel eventId).1 = true
  · rw [answer]
    refine
      { scheduled := ?_
        accounted := ?_
        returned := ?_
        opened := ?_ }
    · simpa [scheduledIds] using accounted.scheduled
    · obtain ⟨event, member, same⟩ :=
        (Simulator.cancel_fst wellFormed eventId).mp answer
      have live : (eventId :: liveIds (sim.cancel eventId).2).Perm
          (liveIds sim) := by
        rw [liveIds, liveIds, Simulator.cancel_liveEvents wellFormed]
        have kept : (sim.liveEvents.filter fun event => event.seq ≠ eventId).map
            Event.seq = (sim.liveEvents.map Event.seq).erase eventId := by
          rw [wellFormed.live_distinct.erase_eq_filter, List.filter_map]
          refine congrArg (List.map Event.seq) (List.filter_congr fun other _ => ?_)
          simp [bne, BEq.beq]
        rw [kept]
        exact (List.perm_cons_erase
          (same ▸ List.mem_map_of_mem member)).symm
      simp only [firedIds, firedEvents_append, cancelledIds_append,
        Simulator.cancel_seq]
      refine List.Perm.trans ?_ accounted.accounted
      simp only [firedEvents, cancelledIds, List.filterMap_cons,
        List.filterMap_nil, List.append_nil, List.append_assoc]
      exact (live.append_left _).append_left _
    · simpa [returnedEvents] using accounted.returned
    · simpa [returnedEvents, firedEvents] using accounted.opened
  · have refused : (sim.cancel eventId).1 = false := by simpa using answer
    rw [Simulator.cancel_refused answer, refused]
    exact accounted.silent _ rfl rfl rfl rfl rfl

theorem fire (accounted : Accounted sim rest log) {event : Event κ}
    (next : sim.peek.1 = some event) (code : κ) (now : Int) :
    Accounted (sim.fireNext event) (.callback event code :: rest)
      (log ++ [.fired event now]) where
  scheduled := by
    simpa [scheduledIds] using accounted.scheduled
  accounted := by
    have before := accounted.accounted
    rw [liveIds, Simulator.fireNext_liveEvents next, List.map_cons] at before
    rw [Simulator.fireNext_seq]
    refine List.Perm.trans ?_ before
    simp only [firedIds, firedEvents_append, cancelledIds_append,
      List.map_append, List.append_assoc]
    refine List.Perm.append_left _ ?_
    simp only [firedEvents, cancelledIds, List.filterMap_cons,
      List.filterMap_nil, List.map_cons, List.map_nil,
      List.singleton_append, List.nil_append, liveIds]
    exact List.perm_middle.symm
  returned := by simpa [returnedEvents] using accounted.returned
  opened := by
    simp only [returnedEvents_append, firedEvents_append]
    simp only [returnedEvents, firedEvents, openEvents, List.filterMap_cons,
      List.filterMap_nil, List.append_nil]
    refine (List.perm_middle.subperm).trans ?_
    refine List.Subperm.trans ?_ (List.perm_append_singleton _ _).symm.subperm
    exact List.subperm_cons _ |>.mpr accounted.opened

theorem returnFrom {event : Event κ} {code : κ}
    (accounted : Accounted sim (.callback event code :: rest) log) :
    Accounted sim.endFire rest (log ++ [.returned event]) where
  scheduled := by
    rw [Simulator.endFire_seq]
    simpa [scheduledIds] using accounted.scheduled
  accounted := by
    rw [Simulator.endFire_seq]
    simpa [firedIds, firedEvents, cancelledIds, liveIds] using accounted.accounted
  returned := by
    rw [Simulator.endFire_processed, accounted.returned]
    simp [returnedEvents]
  opened := by
    have opened := accounted.opened
    simp only [openEvents, List.filterMap_cons] at opened
    simp only [returnedEvents_append, firedEvents_append]
    simp only [returnedEvents, firedEvents, openEvents, List.filterMap_cons,
      List.filterMap_nil, List.append_nil, List.append_assoc,
      List.singleton_append] at opened ⊢
    exact opened

theorem abandon {event : Event κ} {code : κ}
    (accounted : Accounted sim (.callback event code :: rest) log) :
    Accounted sim rest log where
  scheduled := accounted.scheduled
  accounted := accounted.accounted
  returned := accounted.returned
  opened := by
    refine List.Subperm.trans ?_ accounted.opened
    refine (List.Sublist.append_left ?_ _).subperm
    exact List.sublist_cons_self _ _

end Accounted

theorem openEvents_unwind (rest : List (Frame (kernel κ)))
    (runUntil : Option Int) :
    openEvents (Config.unwind rest runUntil).1 = openEvents rest := by
  induction rest generalizing runUntil with
  | nil => rfl
  | cons frame rest induction =>
      cases frame with
      | callback event code => rfl
      | step => exact induction _
      | run until_ maxEvents start prevUntil => exact induction _
      | wait target => exact target.elim

abbrev AccountedConfig (config : Config (kernel κ)) : Prop :=
  Accounted config.sim config.stack config.log

section Preservation

variable {config : Config (kernel κ)} {rest : List (Frame (kernel κ))}

theorem accounted_propagate (error : PyError)
    (accounted : Accounted config.sim rest config.log) :
    AccountedConfig (config.propagate rest error) := by
  have sameKernel : Accounted (config.propagate rest error).sim rest config.log :=
    accounted.congr _ rfl rfl rfl
  exact sameKernel.silent [.raised error] rfl rfl rfl rfl
    (openEvents_unwind rest _)

theorem accounted_fire {event : Event κ} (next : config.sim.peek.1 = some event)
    (accounted : Accounted config.sim rest config.log) :
    AccountedConfig (config.fire event rest) :=
  accounted.fire next event.callback event.time

theorem accounted_returnTo {event : Event κ} {code : κ}
    (accounted : Accounted config.sim (.callback event code :: rest) config.log) :
    AccountedConfig (config.returnTo event rest) := by
  have returned := accounted.returnFrom
  cases rest with
  | nil => exact returned
  | cons frame rest =>
      cases frame with
      | callback other code => exact returned
      | step => exact returned.silent [.stepped true] rfl rfl rfl rfl rfl
      | run until_ maxEvents start prevUntil => exact returned
      | wait target => exact target.elim

theorem accounted_runLoop {until_ maxEvents : Option Int} {start : Nat}
    {prevUntil : Option Int} (accounted : Accounted config.sim rest config.log) :
    AccountedConfig (config.runLoop until_ maxEvents start prevUntil rest) := by
  have finish (sim : Simulator κ) (seq : sim.seq = config.sim.seq)
      (live : sim.liveEvents = config.sim.liveEvents)
      (processed : sim.processed = config.sim.processed) (count : Nat) :
      Accounted { sim with runUntil := prevUntil } rest
        (config.log ++ [.ran count]) :=
    (accounted.congr { sim with runUntil := prevUntil }
      seq live processed).silent [.ran count] rfl rfl rfl rfl rfl
  simp only [Config.runLoop]
  split
  · exact finish _ rfl rfl rfl _
  · split
    · rename_i sim peeked
      have same : sim = config.sim.peek.2 := by rw [peeked]
      subst same
      exact finish config.sim.peek.2 rfl (Simulator.peek_liveEvents _) rfl _
    · rename_i event sim peeked
      split
      · have same : sim = config.sim.peek.2 := by rw [peeked]
        subst same
        exact finish config.sim.peek.2 rfl (Simulator.peek_liveEvents _) rfl _
      · have opened : Accounted config.sim
            (.run until_ maxEvents start prevUntil :: rest) config.log :=
          { accounted with }
        exact accounted_fire (by rw [peeked]) opened

theorem accounted_call (coherent : config.Coherent)
    (accounted : AccountedConfig config) (op : KernelOp κ) :
    AccountedConfig (config.act (.call op)) := by
  cases op with
  | schedule delay callback priority source =>
      simp only [AccountedConfig, Config.act, kernel, KernelOp.exec,
        Simulator.schedule]
      split
      · exact accounted.silent _ rfl rfl rfl rfl rfl
      · exact accounted.push coherent.wellFormed _ _ _ _ rfl rfl rfl rfl
  | at_ time callback priority source =>
      simp only [AccountedConfig, Config.act, kernel, KernelOp.exec,
        Simulator.at_]
      split
      · exact accounted.silent _ rfl rfl rfl rfl rfl
      · exact accounted.push coherent.wellFormed _ _ _ _ rfl rfl rfl rfl
  | cancel eventId => exact accounted.cancel coherent.wellFormed eventId
  | nextTime =>
      exact (accounted.congr config.sim.peek.2 rfl
        (Simulator.peek_liveEvents _) rfl).silent _ rfl rfl rfl rfl rfl
  | advanceTo time =>
      have sameAgenda :
          Accounted (config.sim.advanceTo time).2 config.stack config.log := by
        unfold Simulator.advanceTo
        split
        · exact accounted
        · simp only
          have peeked : Accounted config.sim.peek.2 config.stack config.log :=
            accounted.congr _ rfl (Simulator.peek_liveEvents _) rfl
          split
          · exact peeked
          · split
            · exact peeked
            · exact peeked.congr _ rfl rfl rfl
      refine sameAgenda.silent [.called (.advanceTo time) _] ?_ rfl rfl rfl rfl
      cases (config.sim.advanceTo time).1 <;> rfl

theorem accounted_advance (coherent : config.Coherent)
    (accounted : AccountedConfig config) (decision : Decision (kernel κ)) :
    AccountedConfig (config.advance decision) := by
  unfold Config.advance
  split
  · rename_i until_ maxEvents start prevUntil rest shape
    have below : Accounted config.sim rest config.log := by
      have := accounted.opened
      rw [shape] at this
      exact { accounted with opened := this }
    exact accounted_runLoop below
  · rename_i target processed maxEvents rest shape
    exact target.elim
  · cases decision with
    | call op => exact accounted_call coherent accounted op
    | step =>
        simp only [Config.act]
        split
        · rename_i sim peeked
          have same : sim = config.sim.peek.2 := by rw [peeked]
          subst same
          exact (accounted.congr config.sim.peek.2 rfl
            (Simulator.peek_liveEvents _) rfl).silent _ rfl rfl rfl rfl rfl
        · rename_i event sim peeked
          have stepping : Accounted config.sim (.step :: config.stack)
              config.log := { accounted with }
          exact accounted_fire (by rw [peeked]) stepping
    | run until_ maxEvents =>
        exact
          { scheduled := accounted.scheduled
            accounted := accounted.accounted
            returned := accounted.returned
            opened := accounted.opened }
    | wait target => exact target.elim
    | answer value =>
        simp only [Config.act]
        split
        · rename_i event code rest shape
          rw [AccountedConfig, shape] at accounted
          exact accounted_returnTo accounted
        · exact accounted
    | raise error =>
        simp only [Config.act]
        split
        · rename_i event code rest shape
          rw [AccountedConfig, shape] at accounted
          exact accounted_propagate error accounted.abandon
        · exact accounted

end Preservation

theorem after_accounted (decisions : List (Decision (kernel κ))) :
    AccountedConfig (after decisions) := by
  refine (Transition.run_invariant
    (fun config : Config (kernel κ) => config.Coherent ∧ AccountedConfig config)
    ?_ ⟨Config.init_coherent (), Accounted.init⟩ decisions).2
  intro config decision both
  exact ⟨both.1.advance (kernel_lawful κ) decision,
    accounted_advance both.1 both.2 decision⟩

structure EventAccounting (config : Config (kernel κ)) : Prop where
  pending : config.sim.pending =
    (config.sim.heap.filter fun event => !event.cancelled).length
  byId : config.sim.byId.Nodup ∧ ∀ eventId, eventId ∈ config.sim.byId ↔
    ∃ event ∈ config.sim.heap, event.seq = eventId
  cancel : ∀ eventId, (config.sim.cancel eventId).1 = true ↔
    eventId ∈ scheduledIds config.log ∧ eventId ∉ firedIds config.log ∧
      eventId ∉ cancelledIds config.log
  fired_once : (firedIds config.log).Nodup
  fired_uncancelled : (firedIds config.log).Disjoint (cancelledIds config.log)
  balance : (scheduledIds config.log).Perm
    (firedIds config.log ++ cancelledIds config.log ++ liveIds config.sim)
  balance_count : ((scheduledIds config.log).length : Int) =
    (firedIds config.log).length + (cancelledIds config.log).length +
      config.sim.pending
  event_counts : config.sim.sources.total = (scheduledIds config.log).length
  processed : config.sim.processed = (firedEvents config.log).countP fun event =>
    event.seq ∈ (returnedEvents config.log).map Event.seq
  horizon : config.sim.runUntil = Config.innermostUntil config.stack

/-- The books agree in every configuration that user code can bring about, in
callbacks nested to any depth and after exceptions. -/
theorem event_accounting (decisions : List (Decision (kernel κ))) :
    EventAccounting (after decisions) := by
  have coherent := after_coherent decisions
  have accounted := after_accounted decisions
  generalize after decisions = config at coherent accounted
  have wellFormed := coherent.wellFormed
  have nodup : (firedIds config.log ++ cancelledIds config.log ++
      liveIds config.sim).Nodup :=
    accounted.accounted.nodup_iff.mpr List.nodup_range
  obtain ⟨closed, _, apart⟩ := List.nodup_append'.mp nodup
  obtain ⟨fired, _, disjoint⟩ := List.nodup_append'.mp closed
  refine
    { pending := wellFormed.counted
      byId := ⟨wellFormed.indexed.nodup_iff.mpr wellFormed.distinct, ?_⟩
      cancel := ?_
      fired_once := fired
      fired_uncancelled := disjoint
      balance := accounted.scheduled ▸ accounted.accounted.symm
      balance_count := ?_
      event_counts := ?_
      processed := ?_
      horizon := coherent.horizon }
  · intro eventId
    rw [wellFormed.indexed.mem_iff, List.mem_map]
  · intro eventId
    have live : (config.sim.cancel eventId).1 = true ↔
        eventId ∈ liveIds config.sim := by
      rw [Simulator.cancel_fst wellFormed, liveIds, List.mem_map]
    have known := accounted.accounted.mem_iff (a := eventId)
    rw [← accounted.scheduled, List.mem_append, List.mem_append] at known
    rw [live, ← known]
    constructor
    · intro member
      refine ⟨.inr member, fun firedToo => ?_, fun cancelledToo => ?_⟩
      · exact apart (List.mem_append_left _ firedToo) member
      · exact apart (List.mem_append_right _ cancelledToo) member
    · rintro ⟨(firedToo | cancelledToo) | member, notFired, notCancelled⟩
      · exact absurd firedToo notFired
      · exact absurd cancelledToo notCancelled
      · exact member
  · have lengths := accounted.accounted.length_eq
    simp only [List.length_append, List.length_range] at lengths
    rw [accounted.scheduled, List.length_range, Simulator.pending,
      wellFormed.counted]
    simp only [liveIds, List.length_map] at lengths
    omega
  · rw [wellFormed.sourced, accounted.scheduled, List.length_range]
  · have returned : (returnedEvents config.log).Subperm (firedEvents config.log) :=
      (List.sublist_append_left _ _).subperm.trans accounted.opened
    obtain ⟨part, samePart, sublist⟩ := returned
    have returnedIds : ((returnedEvents config.log).map Event.seq).Subperm
        (firedIds config.log) :=
      ⟨part.map Event.seq, samePart.map Event.seq, sublist.map Event.seq⟩
    have returnedNodup : ((returnedEvents config.log).map Event.seq).Nodup :=
      (samePart.map Event.seq).nodup_iff.mp (fired.sublist (sublist.map _))
    have same : ((firedIds config.log).filter fun eventId =>
        eventId ∈ (returnedEvents config.log).map Event.seq).Perm
          ((returnedEvents config.log).map Event.seq) := by
      refine (List.perm_ext_iff_of_nodup (fired.filter _) returnedNodup).mpr
        fun eventId => ?_
      simp only [List.mem_filter, decide_eq_true_eq, and_iff_right_iff_imp]
      exact fun member => returnedIds.subset member
    have count := same.length_eq
    rw [firedIds, List.filter_map, List.length_map, List.length_map] at count
    rw [accounted.returned, ← count, List.countP_eq_length_filter]
    rfl

end Pyramulator.Kernel
