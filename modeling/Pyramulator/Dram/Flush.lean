import Pyramulator.Dram.TickChain
import Pyramulator.Sim.Barrier

namespace Pyramulator

variable {ℓ γ η : Type} [DecidableEq ℓ] [DecidableEq γ]

/-! `flush` as a barrier. -/

def Submission.Stranding (submission : Submission γ) : Prop :=
  (∃ error, submission.result = .error error) ∧ submission.taken ≠ []

namespace Dram

variable {engine : Engine (DramCallback γ)} {lossy : Prop} {cacheline : Int} {label : ℓ}
  {sim : Simulator (DramCode ℓ γ η)} {dram : Dram engine}

def Attended (dram : Dram engine) : Prop :=
  dram.ticking = false → dram.idleTicking = false → dram.pending = 0

theorem Requested.attended (tally : engine.Tally) (attended : dram.Attended)
    {request : DramRequest γ} {wrap : Collector γ} {mem : MemorySystem engine}
    {sends : List (Int × Bool)} (sent : Sent cacheline sim dram request wrap mem sends)
    {submission : Submission γ}
    {called : Except PyError MemoryValue × Device (DramCode ℓ γ η) engine}
    (result : submission.result = called.1)
    (taken : submission.taken = (DramRequest.taken sends).map (request.sent wrap))
    (tended : dram.ticking = false → dram.idleTicking = false → ¬ submission.Stranding)
    (requested : Requested lossy label sim dram request mem sends submission called) :
    called.2.dram.Attended := by
  cases requested with
  | raised error =>
      intro stopped noIdle
      refine sent.sending.silent tally (attended stopped noIdle) fun send member => ?_
      by_contra accepted
      refine tended stopped noIdle ⟨⟨error, result⟩, fun allRefused => ?_⟩
      rw [taken, List.map_eq_nil_iff, DramRequest.taken,
        List.filterMap_eq_nil_iff] at allRefused
      have rejected := allRefused send member
      simp [accepted] at rejected
  | rejected value accepts all allRefused =>
      intro stopped noIdle
      exact sent.sending.silent tally (attended stopped noIdle) allRefused
  | accepted value accepts all someTaken handed rest answered after clock
      clocked started =>
      intro stopped
      have ticking : after.dram.ticking = true := by
        rcases started with ⟨ticking, same⟩ | ⟨-, same⟩
        · rw [same]; exact ticking
        · rw [same]; rfl
      exact absurd (ticking.symm.trans stopped) (by decide)

omit [DecidableEq γ] in
theorem Serviced.attended (serviced : dram.Serviced) : dram.Attended :=
  fun stopped _ => serviced stopped

theorem IdleTicked.attended (attended : dram.Attended) {event : Event (DramCode ℓ γ η)}
    {ended : Except PyError Unit × Device (DramCode ℓ γ η) engine}
    (ticked : IdleTicked lossy cacheline label sim event dram ended) :
    ended.2.dram.Attended := by
  cases ticked.ends with
  | refused large => exact attended
  | pending fits busy => exact fun stopped => by cases stopped
  | idle fits noPending => exact fun _ _ => noPending

theorem Attended.fed (attended : dram.Attended)
    (running : Running False cacheline label sim dram)
    (pending : 0 < dram.pending) : sim.liveEvents ≠ [] := by
  have fromQueue (closure : DramEvent γ) {event : Event (DramCode ℓ γ η)}
      (queued : sim.queued label closure = [event]) : sim.liveEvents ≠ [] :=
    List.ne_nil_of_mem
      (Simulator.mem_queued.mp (queued ▸ List.mem_singleton_self event)).1
  cases running.clocked with
  | busy event ticking noIdle ticks idles time => exact fromQueue .tick ticks
  | idle event stopped idle refresh ticks idles scheduled time =>
      exact fromQueue .idleTick idles
  | stopped stopped noIdle noRefresh ticks idles =>
      exact absurd (attended stopped noIdle) pending.ne'
  | lost _ _ _ _ _ _ _ _ _ refused => exact refused.elim

end Dram

namespace DramWorld

variable {setups : ℓ → DramSetup γ} {policy : TickPolicy}

/-- No call raises after some of its requests were accepted by a component whose clock
is stopped, and no idle tick raises. -/
structure Tended (config : Config (dramSystem η setups policy))
    (decision : Decision (dramSystem η setups policy)) : Prop where
  calls : ∀ label request dram submission, decision = .call (.request label request) →
    config.world.drams label = some dram → dram.ticking = false →
      dram.idleTicking = false →
      (Dram.submit (.dram label : DramEvent γ → DramCode ℓ γ η) request
        ⟨config.sim, dram⟩).2.dram.submitted.getLast? = some submission →
          ¬ submission.Stranding
  batches : ∀ label event dram, config.Fires decision event →
    event.callback = .dram label .idleTick → config.world.drams label = some dram →
      FitsInt dram.batch.current

theorem attended_keeps (tally : ∀ label, (setups label).engine.Tally) :
    Keeps False policy Tended
      (Each η fun _ dram => dram.Attended : Trait η setups) := by
  refine Keeps.each (fun tended fires named built large =>
    large (tended.batches _ _ _ fires named built)) ?_ ?_ ?_ ?_
  · exact fun new => (new.serviced (tally _)).attended
  · intro config label request dram wellFormed tended built running attended
    obtain ⟨mem, sends, submission, note, sent, requested⟩ :=
      running.requested wellFormed request
    have spared := tended.calls label request dram submission rfl built
    have noted := requested.noted
    obtain ⟨src, cache, count, same⟩ := Dram.collector_eq dram request.callback
    have attended : (dram.collector request.callback).2.Attended := by
      rw [same]
      exact attended
    generalize Dram.submit (.dram label) request ⟨config.sim, dram⟩ = called
      at spared note requested noted ⊢
    refine requested.attended (tally label) attended sent ?_ ?_ ?_
    · rw [note]
    · rw [note]
    · rw [same]
      exact fun stopped noIdle => spared stopped noIdle noted
  · exact fun tick _ => tick.serviced.attended
  · exact fun _ _ _ _ _ tick attended => tick.attended attended

theorem fed_of_waiting (tally : ∀ label, (setups label).engine.Tally)
    {config : Config (dramSystem η setups policy)}
    (reached : Transition.Reach Config.advance Tended
      (Config.init (create setups)) config)
    {label : ℓ} (waits : waiting label config.world = true) :
    config.sim.peek.1 ≠ none := by
  obtain ⟨-, standing, each⟩ := (attended_keeps tally).reach
    (fun _ _ impossible => by cases impossible) reached
  obtain ⟨dram, built, pending⟩ := (Option.any_eq_true _ _).mp waits
  have fed := (each label dram built).fed (standing.running label dram built)
    (of_decide_eq_true pending)
  rw [Simulator.peek_fst]
  exact fun empty => fed (List.head?_eq_none_iff.mp empty)

theorem overrun_ne_stalled (maxEvents : Int) :
    (dramSystem η setups policy).overrun maxEvents ≠
      (dramSystem η setups policy).stalled := by
  intro same
  have texts := congrArg String.toList (PyError.runtimeError.inj same)
  simp [toString] at texts

theorem tended_wait
    {config : Config (dramSystem η setups policy)}
    (control : config.InUserCode) (label : ℓ)
    (maxEvents : Int) : Tended config (.wait label maxEvents) where
  calls _ _ _ _ impossible := by cases impossible
  batches _ _ _ fires _ _ := by
    have fired := fires.fired
    rw [control.advance] at fired
    simp [Config.act] at fired

/-- A `flush` at the top level or in a callback, in a run in which no call raised after
some of its requests were accepted by a component whose clock was stopped, is an exact
barrier if and only if the requests were not all serviced for the first time after the
last event that it may process. -/
theorem flush_exact (tally : ∀ label, (setups label).engine.Tally)
    {config : Config (dramSystem η setups policy)}
    (reached : Transition.Reach Config.advance Tended
      (Config.init (create setups)) config)
    (control : config.InUserCode) (label : ℓ) {maxEvents : Int} (positive : 1 ≤ maxEvents)
    {watch : Watch (dramSystem η setups policy)}
    (run : Transition.Reach Watch.advance
      (fun watch decision => Tended watch.config decision ∧ watch.config.Quiet decision)
      (Watch.start config label maxEvents) watch) :
    watch.Exact ↔ ¬ watch.DrainedAt maxEvents.toNat := by
  have opened : Transition.Reach Config.advance Tended (Config.init (create setups))
      (config.advance (.wait label maxEvents)) :=
    .next (.wait label maxEvents) reached (tended_wait control label maxEvents)
  obtain ⟨-, stage, rfl, -⟩ := run.invariant
    (fun watch => Transition.Reach Config.advance Tended (Config.init (create setups))
      watch.config ∧ watch.Stage ∧ watch.maxEvents = maxEvents ∧ watch.target = label)
    ⟨opened, Watch.start_stage control label positive, rfl, rfl⟩ (by
      rintro watch decision ⟨reached, stage, bound, rfl⟩ ⟨tended, quiet⟩
      refine ⟨?_, stage.advance quiet (fed_of_waiting tally reached), ?_, ?_⟩
      · rw [watch.advance_config]
        exact .next decision reached tended
      · rw [watch.advance_maxEvents, bound]
      · rw [watch.advance_target])
  exact stage.exact_iff positive (overrun_ne_stalled _)

theorem Sound.tended {config : Config (dramSystem η setups policy)}
    {decision : Decision (dramSystem η setups policy)} (sound : Sound config decision) :
    Tended config decision where
  calls := by
    rintro label request dram submission rfl built - - noted ⟨⟨error, raised⟩, -⟩
    exact sound.returns built error (raised ▸ (Dram.submit_noted noted).symm)
  batches := sound.2

def raises : Outcome (DramCode ℓ γ η) (DramWorld setups) → Bool
  | .raised _ _ _ => true
  | _ => false

theorem quiet_of_next {config : Config (dramSystem η setups policy)}
    (fine : (config.sim.peek.1.all fun event =>
      !raises (enter policy event.callback (config.sim.fireNext event) config.world)) =
        true) :
    config.Quiet .step where
  user _ := nofun
  entered event error sim world fires entered := by
    rw [fires.next] at fine
    have entered : enter policy event.callback (config.sim.fireNext event) config.world =
      .raised error sim world := entered
    simp [entered, raises] at fine
  resumed _ _ _ _ _ _ _ _ impossible := by cases impossible

def oneRead : List (Decision (dramSystem Unit (idleSetup 4) .coalesced)) :=
  [.call (.build ()), .call (.request () (.read 0 none 0))]

def afterOneRead : Config (dramSystem Unit (idleSetup 4) .coalesced) :=
  Transition.run Config.advance (Config.init (create (idleSetup 4))) oneRead

theorem oneRead_tended : Transition.Reach Config.advance Tended
    (Config.init (create (idleSetup 4))) afterOneRead := by
  refine Transition.Follows.reach ⟨Sound.tended (sound_of_next ?_ (by decide +kernel)),
    Sound.tended (sound_of_next ?_ (by decide +kernel)), trivial⟩
  · exact fun _ => nofun
  · rintro request ⟨⟩
    decide +kernel

theorem flush_exact_oneRead :
    let watch :=
      Transition.run Watch.advance (Watch.start afterOneRead () 10) [.step, .step]
    watch.Exact ∧ watch.ending = some (.returned 1) := by
  intro watch
  have tended (config : Config (dramSystem Unit (idleSetup 4) .coalesced))
      (fits : ((config.world.drams ()).all fun dram =>
        decide (FitsInt dram.batch.current)) = true) : Tended config .step :=
    Sound.tended (sound_of_next (fun _ => nofun) fits)
  refine ⟨(flush_exact (fun _ => Engine.fixedLatencyTally _ 2 4) oneRead_tended trivial ()
    (by decide) (Transition.Follows.reach ?_)).mpr ?_, by decide +kernel⟩
  · exact ⟨⟨tended _ (by decide +kernel), quiet_of_next (by decide +kernel)⟩,
      ⟨tended _ (by decide +kernel), quiet_of_next (by decide +kernel)⟩, trivial⟩
  · unfold Watch.DrainedAt
    decide +kernel

/-- One event services the read, and `flush` may process one: it raises nevertheless. -/
theorem lastEvent_overruns :
    let watch := Transition.run Watch.advance (Watch.start afterOneRead () 1) [.step]
    watch.DrainedAt 1 ∧
      watch.ending = some (.raised (.runtimeError "DRAM not drained within 1 events")) ∧
        ¬ watch.Exact := by
  intro watch
  have drained : watch.DrainedAt 1 := by
    unfold Watch.DrainedAt
    decide +kernel
  refine ⟨drained, by decide +kernel, fun exact_ => ?_⟩
  have returns := exact_.returns 1 drained (by decide +kernel) .step
  revert returns
  decide +kernel

def stoppingSetup (_ : Unit) : DramSetup Nat :=
  { idleSetup 4 () with idleRefresh := false }

/-- After a batch that raised behind a read that was accepted, no event services the
read: `flush` finds nothing to process. -/
theorem strayRead_stalls :
    let config := Transition.run Config.advance (Config.init (create stoppingSetup))
      ([.call (.build ()), .call (.request () (.reads [0, 2 ^ 70] none 0))] :
        List (Decision (dramSystem Unit stoppingSetup .coalesced)))
    let watch := Transition.run Watch.advance (Watch.start config () 10) [.step]
    watch.ending =
      some (.raised (.runtimeError "simulator stalled before DRAM drained")) ∧
      ¬ watch.Exact := by
  intro config watch
  have ended : watch.ending =
      some (.raised (.runtimeError "simulator stalled before DRAM drained")) := by
    decide +kernel
  exact ⟨ended, fun exact_ => exact_.stalled ended⟩

end DramWorld

end Pyramulator
