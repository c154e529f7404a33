import Pyramulator.Dram.Rule

namespace Pyramulator

namespace PyMemorySystem

variable {π : Type} {engine : Engine (CppCallback π)}

theorem iterate_idle (ledger : engine.Ledger) {sys : PyMemorySystem engine}
    (idle : ledger.reads sys.mem = 0) (count : Nat) :
    ledger.reads (tick^[count] sys).mem = 0 ∧
      (tick^[count] sys).completed = sys.completed := by
  induction count with
  | zero => exact ⟨idle, rfl⟩
  | succ count induction =>
      obtain ⟨noneCompleted, same⟩ := induction
      have ticked := ledger.tick (tick^[count] sys).mem
      rw [noneCompleted] at ticked
      have served :=
        Multiset.le_zero.mp ((Multiset.le_add_right _ _).trans ticked.symm.le)
      have left := Multiset.le_zero.mp ((Multiset.le_add_left _ _).trans ticked.symm.le)
      have nothing : (engine.tick (tick^[count] sys).mem).1 = [] := by
        simpa using served
      rw [Function.iterate_succ_apply', tick_eq]
      exact ⟨left, by simp [nothing, same]⟩

end PyMemorySystem

variable {ℓ γ η : Type}

def Submission.Stray (submission : Submission γ) : Prop :=
  (∃ error, submission.result = .error error) ∧
    ∃ request ∈ submission.taken, request.type = .read

namespace Dram

variable {engine : Engine (DramCallback γ)}

/-- The deque is empty, and while the clock runs idly no read is in flight. -/
structure Calm (ledger : engine.Ledger) (dram : Dram engine) : Prop where
  completed : dram.completed = []
  idle : dram.idleTicking = true → ledger.reads dram.mem.impl.mem = 0

theorem Calm.ran {ledger : engine.Ledger} {dram : Dram engine} (calm : dram.Calm ledger)
    (drained : dram.mem.impl.completed = []) (idle : dram.idleTicking = true)
    (count : Nat) : (dram.ran count).Calm ledger := by
  obtain ⟨noneCompleted, same⟩ :=
    PyMemorySystem.iterate_idle ledger (calm.idle idle) count
  refine ⟨?_, fun _ => noneCompleted⟩
  simp only [Dram.ran, same, drained, calm.completed, List.map_nil, List.append_nil]

theorem Calm.collector [DecidableEq γ] {ledger : engine.Ledger} {dram : Dram engine}
    (calm : dram.Calm ledger) (callback : Option γ) :
    (dram.collector callback).2.Calm ledger := by
  obtain ⟨src, cache, count, same⟩ := collector_eq dram callback
  rw [same]
  exact ⟨calm.completed, calm.idle⟩

variable [DecidableEq ℓ] [DecidableEq γ] {lossy : Prop} {label : ℓ}
  {sim : Simulator (DramCode ℓ γ η)} {dram : Dram engine} {cacheline : Int}

theorem Clocked.idleTicking_of_ticking (clocked : Clocked lossy label sim dram)
    (ticking : dram.ticking = true) : dram.idleTicking = false := by
  cases clocked with
  | busy event _ noIdle => exact noIdle
  | idle event stopped => rw [ticking] at stopped; cases stopped
  | stopped stopped noIdle => exact noIdle
  | lost eventId stopped => rw [ticking] at stopped; cases stopped

omit [DecidableEq ℓ] in
theorem Sent.reads (ledger : engine.Ledger) {request : DramRequest γ}
    {wrap : Collector γ} {mem : MemorySystem engine} {sends : List (Int × Bool)}
    (sent : Sent cacheline sim dram request wrap mem sends) :
    ledger.reads mem.impl.mem = ledger.reads dram.mem.impl.mem +
      (((DramRequest.taken sends).map (request.sent wrap)).filter fun request =>
        request.type = .read : Multiset (Request (DramCallback γ))) := by
  have effect := (sent.sending.effect ledger).reads
  have silent : Wire.served (sends.map fun send =>
      .sent (request.sent wrap send.1) send.2) = [] := by
    refine List.flatMap_eq_nil_iff.mpr fun entry member => ?_
    obtain ⟨send, -, rfl⟩ := List.mem_map.mp member
    rfl
  rw [accepted_sends, silent, List.map_nil, Multiset.coe_nil, zero_add] at effect
  exact effect.symm

theorem Requested.calm {ledger : engine.Ledger} (calm : dram.Calm ledger)
    {request : DramRequest γ} {wrap : Collector γ} {mem : MemorySystem engine}
    {sends : List (Int × Bool)}
    (sent : Sent cacheline sim dram request wrap mem sends)
    {submission : Submission γ}
    {called : Except PyError MemoryValue × Device (DramCode ℓ γ η) engine}
    (note : submission.result = called.1 ∧
      submission.taken = (DramRequest.taken sends).map (request.sent wrap))
    (careful : dram.idleTicking = true → ¬ submission.Stray)
    (requested : Requested lossy label sim dram request mem sends submission called) :
    called.2.dram.Calm ledger := by
  have reads := sent.reads ledger
  rw [← note.2] at reads
  cases requested with
  | raised error =>
      refine ⟨calm.completed, fun idle => ?_⟩
      have noReads :
          submission.taken.filter (fun request => request.type = .read) = [] := by
        refine List.filter_eq_nil_iff.mpr fun request member read => ?_
        exact careful idle ⟨⟨error, note.1⟩, request, member, by simpa using read⟩
      rw [noReads, Multiset.coe_nil, add_zero] at reads
      exact reads.trans (calm.idle idle)
  | rejected value accepts all allRefused =>
      refine ⟨calm.completed, fun idle => ?_⟩
      have nothing : DramRequest.taken sends = [] := by
        simp only [DramRequest.taken, List.filterMap_eq_nil_iff]
        intro send member
        simp [allRefused send member]
      rw [note.2, nothing] at reads
      exact reads.trans (by simpa using calm.idle idle)
  | accepted value accepts all someTaken handed rest answered after clock
      clocked started =>
      have ticking : after.dram.ticking = true := by
        rcases started with ⟨ticking, same⟩ | ⟨-, same⟩
        · rw [same]; exact ticking
        · rw [same]; rfl
      have noIdle := clocked.idleTicking_of_ticking ticking
      refine ⟨?_, fun idle => ?_⟩
      · rcases started with ⟨-, same⟩ | ⟨-, same⟩
        · exact (congrArg Dram.completed same).trans (answered calm.completed).1
        · exact (congrArg Dram.completed same).trans (answered calm.completed).1
      · exact absurd (noIdle.symm.trans idle) (by decide)

theorem Ticked.calm (tally : engine.Tally) {event : Event (DramCode ℓ γ η)} {count : Nat}
    {last : Simulator (DramCode ℓ γ η)} {ended : Device (DramCode ℓ γ η) engine}
    (ticked : Ticked lossy cacheline label sim event dram count last ended) :
    ended.dram.Calm tally.toLedger := by
  have noIdle := ticked.noIdle
  cases ticked.ends with
  | pending busy => exact ⟨rfl, fun idle => absurd (noIdle.symm.trans idle) (by decide)⟩
  | idle serviced refresh =>
      exact ⟨rfl, fun _ => tally.idle _ (Int.natCast_eq_zero.mp serviced)⟩
  | stopped serviced noRefresh =>
      exact ⟨rfl, fun idle => absurd (noIdle.symm.trans idle) (by decide)⟩

theorem IdleTicked.calm {ledger : engine.Ledger} (calm : dram.Calm ledger)
    (running : Running lossy cacheline label sim dram) {event : Event (DramCode ℓ γ η)}
    {ended : Except PyError Unit × Device (DramCode ℓ γ η) engine}
    (ticked : IdleTicked lossy cacheline label sim event dram ended) :
    ended.2.dram.Calm ledger := by
  have ran := calm.ran running.drained ticked.idle dram.batch.current.toNat
  cases ticked.ends with
  | refused large => exact calm
  | pending fits busy => exact ⟨ran.completed, fun idle => by cases idle⟩
  | idle fits serviced => exact ⟨ran.completed, ran.idle⟩

theorem Created.calm {setup : DramSetup γ} (ledger : setup.engine.Ledger)
    {made : Dram setup.engine} {after : Device (DramCode ℓ γ η) setup.engine}
    (created : Created lossy label setup sim made after) : after.dram.Calm ledger := by
  obtain ⟨clk, base_pos, rfl⟩ := created.initial
  rcases created.dram with ⟨-, same⟩ | ⟨-, same⟩
  · rw [same]; exact ⟨rfl, fun _ => ledger.fresh⟩
  · rw [same]; exact ⟨rfl, fun _ => ledger.fresh⟩

theorem Requested.noted {base : Dram engine} {request : DramRequest γ}
    {mem : MemorySystem engine} {sends : List (Int × Bool)} {submission : Submission γ}
    {called : Except PyError MemoryValue × Device (DramCode ℓ γ η) engine}
    (requested : Requested lossy label sim base request mem sends submission called) :
    called.2.dram.submitted.getLast? = some submission := by
  cases requested <;> exact List.getLast?_concat

omit [DecidableEq ℓ] in
theorem submit_noted {κ : Type} {closure : DramEvent γ → κ} {request : DramRequest γ}
    {device : Device κ engine} {submission : Submission γ}
    (noted : (submit closure request device).2.dram.submitted.getLast? =
      some submission) : submission.result = (submit closure request device).1 := by
  simp only [submit, List.getLast?_concat, Option.some.injEq] at noted
  rw [← noted]
  rfl

def Serviced (dram : Dram engine) : Prop := dram.ticking = false → dram.pending = 0

theorem Requested.serviced (tally : engine.Tally) (serviced : dram.Serviced)
    {request : DramRequest γ} {wrap : Collector γ} {mem : MemorySystem engine}
    {sends : List (Int × Bool)}
    (sent : Sent cacheline sim dram request wrap mem sends)
    {submission : Submission γ}
    {called : Except PyError MemoryValue × Device (DramCode ℓ γ η) engine}
    (requested : Requested lossy label sim dram request mem sends submission called)
    (returned : ∀ error, called.1 ≠ .error error) : called.2.dram.Serviced := by
  cases requested with
  | raised error => exact absurd rfl (returned error)
  | rejected value accepts all allRefused =>
      exact fun stopped => sent.sending.silent tally (serviced stopped) allRefused
  | accepted value accepts all someTaken handed rest answered after clock
      clocked started =>
      intro stopped
      rcases started with ⟨ticking, same⟩ | ⟨-, same⟩
      · have now : after.dram.ticking = true := by rw [same]; exact ticking
        exact absurd (now.symm.trans stopped) (by decide)
      · have now : after.dram.ticking = true := by rw [same]; rfl
        exact absurd (now.symm.trans stopped) (by decide)

theorem Ticked.serviced {event : Event (DramCode ℓ γ η)} {count : Nat}
    {last : Simulator (DramCode ℓ γ η)} {ended : Device (DramCode ℓ γ η) engine}
    (ticked : Ticked lossy cacheline label sim event dram count last ended) :
    ended.dram.Serviced := by
  have ticking := ticked.ticking
  cases ticked.ends with
  | pending busy =>
      exact fun stopped => absurd (ticking.symm.trans stopped) (by decide)
  | idle serviced refresh => exact fun _ => serviced
  | stopped serviced noRefresh => exact fun _ => serviced

theorem IdleTicked.serviced (serviced : dram.Serviced) {event : Event (DramCode ℓ γ η)}
    {ended : Except PyError Unit × Device (DramCode ℓ γ η) engine}
    (ticked : IdleTicked lossy cacheline label sim event dram ended) :
    ended.2.dram.Serviced := by
  cases ticked.ends with
  | refused large => exact serviced
  | pending fits busy => exact fun stopped => by cases stopped
  | idle fits noPending => exact fun _ => noPending

theorem Created.serviced {setup : DramSetup γ} (tally : setup.engine.Tally)
    {made : Dram setup.engine} {after : Device (DramCode ℓ γ η) setup.engine}
    (created : Created lossy label setup sim made after) : after.dram.Serviced := by
  have noPending : (setup.engine.pendingRequests setup.engine.fresh : Int) = 0 := by
    rw [tally.freshPending]; rfl
  obtain ⟨clk, base_pos, rfl⟩ := created.initial
  rcases created.dram with ⟨-, same⟩ | ⟨-, same⟩
  · rw [same]; exact fun _ => noPending
  · rw [same]; exact fun _ => noPending

end Dram

namespace DramWorld

variable [DecidableEq ℓ] [DecidableEq γ] {lossy : Prop} {setups : ℓ → DramSetup γ}
  {policy : TickPolicy}
  {allowed : Config (dramSystem η setups policy) →
    Decision (dramSystem η setups policy) → Prop}

/-- No call raises after some of its reads were accepted by a component whose clock
runs idly. -/
def Careful (config : Config (dramSystem η setups policy))
    (decision : Decision (dramSystem η setups policy)) : Prop :=
  ∀ label request dram submission, decision = .call (.request label request) →
    config.world.drams label = some dram → dram.idleTicking = true →
      (Dram.submit (.dram label : DramEvent γ → DramCode ℓ γ η) request
        ⟨config.sim, dram⟩).2.dram.submitted.getLast? = some submission →
          ¬ submission.Stray

/-- Where the batch of an idle tick may be refused, in runs that keep to `allowed`. -/
def Refuses (lossy : Prop) (allowed : Config (dramSystem η setups policy) →
    Decision (dramSystem η setups policy) → Prop) : Prop :=
  ∀ {config : Config (dramSystem η setups policy)} {decision label event dram},
    allowed config decision → config.Fires decision event →
      event.callback = .dram label .idleTick → config.world.drams label = some dram →
        ¬ FitsInt dram.batch.current → lossy

theorem calm_requested (tally : ∀ label, (setups label).engine.Tally)
    {config : Config (dramSystem η setups policy)} {label : ℓ} {request : DramRequest γ}
    {dram : Dram (setups label).engine} (wellFormed : config.sim.WellFormed)
    (careful : Careful config (.call (.request label request)))
    (built : config.world.drams label = some dram)
    (running : Dram.Running lossy (setups label).cacheline label config.sim dram)
    (calm : dram.Calm (tally label).toLedger) :
    (Dram.submit (.dram label : DramEvent γ → DramCode ℓ γ η) request
      ⟨config.sim, dram⟩).2.dram.Calm (tally label).toLedger := by
  obtain ⟨mem, sends, submission, note, sent, requested⟩ :=
    running.requested wellFormed request
  have spared : dram.idleTicking = true → ¬ submission.Stray := fun idle =>
    careful label request dram submission rfl built idle requested.noted
  generalize Dram.submit (.dram label) request ⟨config.sim, dram⟩ = called
    at note requested ⊢
  refine requested.calm (calm.collector request.callback) sent ?_ ?_
  · rw [note]
    exact ⟨rfl, rfl⟩
  · obtain ⟨src, cache, count, same⟩ := Dram.collector_eq dram request.callback
    rw [same]
    exact spared

theorem calm_keeps (tally : ∀ label, (setups label).engine.Tally)
    (may : Refuses lossy allowed)
    (careful : ∀ config decision, allowed config decision → Careful config decision) :
    Keeps lossy policy allowed
      (Each η fun label dram => dram.Calm (tally label).toLedger) := by
  refine Keeps.each may ?_ ?_ ?_ ?_
  · exact fun new => new.calm _
  · exact fun wellFormed permitted built running calm =>
      calm_requested tally wellFormed (careful _ _ permitted) built running calm
  · exact fun tick _ => tick.calm (tally _)
  · exact fun _ _ _ _ running tick calm => tick.calm calm running

def Sound (config : Config (dramSystem η setups policy))
    (decision : Decision (dramSystem η setups policy)) : Prop :=
  (∀ label request error, decision = .call (.request label request) →
    (exec (.request label request) config.sim config.world).1 ≠ .error error) ∧
  ∀ label event dram, config.Fires decision event →
    event.callback = .dram label .idleTick → config.world.drams label = some dram →
      FitsInt dram.batch.current

theorem Sound.returns {config : Config (dramSystem η setups policy)} {label : ℓ}
    {request : DramRequest γ} (sound : Sound config (.call (.request label request)))
    {dram : Dram (setups label).engine} (built : config.world.drams label = some dram)
    (error : PyError) :
    (Dram.submit (.dram label : DramEvent γ → DramCode ℓ γ η) request
      ⟨config.sim, dram⟩).1 ≠ .error error := by
  intro raised
  refine sound.1 label request error rfl ?_
  simp only [exec, onDram_built built, raised]
  rfl

theorem Sound.careful {config : Config (dramSystem η setups policy)}
    {decision : Decision (dramSystem η setups policy)} (sound : Sound config decision) :
    Careful config decision := by
  rintro label request dram submission rfl built - noted ⟨⟨error, raised⟩, -⟩
  exact sound.returns built error (raised ▸ (Dram.submit_noted noted).symm)

theorem serviced_keeps (tally : ∀ label, (setups label).engine.Tally) :
    Keeps False policy Sound (Each η fun label dram =>
      dram.Calm (tally label).toLedger ∧ dram.Serviced) := by
  refine Keeps.each (fun sound fires named built large =>
    large (sound.2 _ _ _ fires named built)) ?_ ?_ ?_ ?_
  · exact fun new => ⟨new.calm _, new.serviced (tally _)⟩
  · intro config label request dram wellFormed sound built running both
    refine ⟨calm_requested tally wellFormed sound.careful built running both.1, ?_⟩
    obtain ⟨mem, sends, submission, note, sent, requested⟩ :=
      running.requested wellFormed request
    have serviced : (dram.collector request.callback).2.Serviced := by
      obtain ⟨src, cache, count, same⟩ := Dram.collector_eq dram request.callback
      rw [same]
      exact both.2
    exact requested.serviced (tally label) serviced sent
      (sound.returns built)
  · exact fun tick _ => ⟨tick.calm (tally _), tick.serviced⟩
  · exact fun _ _ _ _ running tick both =>
      ⟨tick.calm both.1 running, tick.serviced both.2⟩

/-! ## The chain of ticks -/

/-- The flags of a component and its events in the agenda tell the same. -/
structure TickChain (label : ℓ) (sim : Simulator (DramCode ℓ γ η))
    {engine : Engine (DramCallback γ)} (dram : Dram engine) : Prop where
  ticking : dram.ticking = true ↔ ∃ event, sim.queued label .tick = [event]
  stopped : dram.ticking = false → sim.queued label .tick = []
  idleTicking : dram.idleTicking = true ↔ ∃ event,
    sim.queued label .idleTick = [event] ∧ dram.idleEventId = some event.seq
  noIdle : dram.idleTicking = false → sim.queued label .idleTick = []
  apart : ¬ (dram.ticking = true ∧ dram.idleTicking = true)
  pending : 0 < dram.pending → dram.ticking = true
  refresh : dram.idleRefresh = true → dram.ticking = true ∨ dram.idleTicking = true
  completed : dram.completed = []

/-- A component that does not refresh and has nothing to do has no event but
deliveries. -/
def Rests (label : ℓ) (sim : Simulator (DramCode ℓ γ η))
    {engine : Engine (DramCallback γ)} (dram : Dram engine) : Prop :=
  dram.idleRefresh = false → dram.pending = 0 → ∀ event ∈ sim.liveEvents,
    event.callback.Owned label → event.callback.Completion label

theorem tickChain_of_running {label : ℓ} {cacheline : Int}
    {sim : Simulator (DramCode ℓ γ η)} {engine : Engine (DramCallback γ)}
    {dram : Dram engine} (running : Dram.Running False cacheline label sim dram)
    (serviced : dram.Serviced) (completed : dram.completed = []) :
    TickChain label sim dram := by
  have busy : 0 < dram.pending → dram.ticking = true := by
    intro positive
    cases stopped : dram.ticking with
    | true => rfl
    | false => exact absurd (serviced stopped) positive.ne'
  cases running.clocked with
  | busy event ticking noIdle ticks idles time =>
      constructor <;> simp_all
  | idle event stopped idle refresh ticks idles scheduled time =>
      constructor <;> simp_all
  | stopped stopped noIdle noRefresh ticks idles =>
      constructor <;> simp_all
  | lost _ _ _ _ _ _ _ _ _ refused => exact refused.elim

theorem rests_of_stopped {label : ℓ} {cacheline : Int}
    {sim : Simulator (DramCode ℓ γ η)} {engine : Engine (DramCallback γ)}
    {dram : Dram engine} (running : Dram.Running lossy cacheline label sim dram)
    (stopped : dram.pending = 0 → dram.ticking = false) : Rests label sim dram := by
  intro noRefresh noPending event member owned
  have silent (closure : DramEvent γ) (empty : sim.queued label closure = [])
      (named : event.callback = .dram label closure) : False := by
    have here := Simulator.mem_queued.mpr ⟨member, named⟩
    rw [empty] at here
    cases here
  have empty : sim.queued label .tick = [] ∧ sim.queued label .idleTick = [] := by
    cases running.clocked with
    | busy _ ticking => exact absurd (ticking.symm.trans (stopped noPending)) (by decide)
    | idle _ _ _ refresh => exact absurd (refresh.symm.trans noRefresh) (by decide)
    | stopped _ _ _ ticks idles => exact ⟨ticks, idles⟩
    | lost _ _ _ refresh => exact absurd (refresh.symm.trans noRefresh) (by decide)
  obtain ⟨closure, named⟩ := owned
  cases closure with
  | tick => exact (silent .tick empty.1 named).elim
  | idleTick => exact (silent .idleTick empty.2 named).elim
  | completion callback info => exact ⟨callback, info, named⟩

/-- In every run of sound calls the chain of ticks of each component is whole, and
after a tick without pending requests it has ended. -/
theorem tick_chain (tally : ∀ label, (setups label).engine.Tally)
    {config : Config (dramSystem η setups .coalesced)}
    (reached : Transition.Reach Config.advance Sound
      (Config.init (create setups)) config)
    {label : ℓ} {dram : Dram (setups label).engine}
    (built : config.world.drams label = some dram) :
    TickChain label config.sim dram ∧
      ∀ decision event after, Sound config decision → config.Fires decision event →
        event.callback = .dram label .tick →
          (config.advance decision).world.drams label = some after →
            Rests label (config.advance decision).sim after := by
  have keeps : Keeps False .coalesced Sound (Each η fun label dram =>
      dram.Calm (tally label).toLedger ∧ dram.Serviced) := serviced_keeps tally
  have initial (label : ℓ) : Each η (fun label dram =>
      dram.Calm (tally label).toLedger ∧ dram.Serviced) label Simulator.init none [] :=
    fun _ impossible => by cases impossible
  obtain ⟨coherent, standing, each⟩ := keeps.reach initial reached
  have running := standing.running label dram built
  obtain ⟨calm, serviced⟩ := each label dram built
  refine ⟨tickChain_of_running running serviced calm.completed, ?_⟩
  intro decision event after sound fires named rebuilt
  obtain ⟨-, next, -⟩ := keeps.reach initial (.next decision reached sound)
  refine rests_of_stopped (next.running label after rebuilt) fun noPending => ?_
  obtain ⟨count, last, ended, result, ticked⟩ :=
    running.ticked coherent.wellFormed fires.next named .coalesced
  have world : (config.advance decision).world = config.world.put label ended.dram := by
    rw [fires.world, named]
    change (DramWorld.enter .coalesced (.dram label .tick) _ _).world = _
    rw [enter_tick, onDram_built built, result]
    rfl
  rw [world, put_self] at rebuilt
  obtain rfl := Option.some.inj rebuilt
  cases ticked.ends with
  | pending busy => exact absurd noPending busy
  | idle serviced refresh => rfl
  | stopped serviced noRefresh => rfl

/-! ### Runs -/

def idleSetup (idleBatchCycles : Int) (_ : Unit) : DramSetup Nat where
  engine := .fixedLatency _ 2 4
  periodPs := 10
  cacheline := 64
  numCores := 1
  completionPriority := 0
  idleRefresh := true
  idleBatchCycles
  name := "dram"

def idleThenRead : List (Decision (dramSystem Unit (idleSetup 4) .coalesced)) :=
  [.call (.build ()), .step, .call (.request () (.read 64 (some 7) 0)), .step, .step]

theorem sound_of_next {config : Config (dramSystem Unit (idleSetup 4) policy)}
    {decision : Decision (dramSystem Unit (idleSetup 4) policy)}
    (returns : ∀ request, decision = .call (.request () request) →
      (exec (.request () request) config.sim config.world).1.isOk)
    (fits : ((config.world.drams ()).all fun dram =>
      decide (FitsInt dram.batch.current)) = true) : Sound config decision := by
  refine ⟨fun label request error named raised =>
    ?_, fun label event dram _ _ built => ?_⟩
  · have ok := returns request named
    rw [raised] at ok
    cases ok
  · rw [built] at fits
    simpa using fits

theorem tick_chain_idleThenRead :
    ∃ dram, (Transition.run Config.advance (Config.init (create (idleSetup 4)))
        idleThenRead).world.drams () = some dram ∧
      TickChain () (Transition.run Config.advance
        (Config.init (create (idleSetup 4))) idleThenRead).sim dram := by
  have built : ((Transition.run Config.advance (Config.init (create (idleSetup 4)))
      idleThenRead).world.drams ()).isSome = true := by decide +kernel
  obtain ⟨dram, built⟩ := Option.isSome_iff_exists.mp built
  refine ⟨dram, built, (tick_chain (fun _ => Engine.fixedLatencyTally _ 2 4)
    (Transition.Follows.reach ?_) built).1⟩
  have others (decision : Decision (dramSystem Unit (idleSetup 4) .coalesced))
      (other : ∀ request, decision ≠ .call (.request () request))
      (config : Config (dramSystem Unit (idleSetup 4) .coalesced))
      (fits : ((config.world.drams ()).all fun dram =>
        decide (FitsInt dram.batch.current)) = true) : Sound config decision :=
    sound_of_next (fun request same => absurd same (other request)) fits
  refine ⟨others _ (by simp) _ (by decide +kernel),
    others _ (by simp) _ (by decide +kernel), sound_of_next ?_ (by decide +kernel),
      others _ (by simp) _ (by decide +kernel),
    others _ (by simp) _ (by decide +kernel), trivial⟩
  rintro request ⟨⟩
  decide +kernel

def hugeBatch : List (Decision (dramSystem Unit (idleSetup (2 ^ 31)) .coalesced)) :=
  [.call (.build ()), .step]

/-- A batch that is no C++ `int`: the idle tick raises, and the component is left
with an idle clock that has no event. -/
theorem hugeBatch_unchained :
    ∃ dram, (Transition.run Config.advance
        (Config.init (create (idleSetup (2 ^ 31)))) hugeBatch).world.drams () =
          some dram ∧ dram.idleTicking = true ∧
      (Transition.run Config.advance (Config.init (create (idleSetup (2 ^ 31))))
        hugeBatch).sim.liveEvents = [] ∧
      ¬ TickChain () (Transition.run Config.advance
        (Config.init (create (idleSetup (2 ^ 31)))) hugeBatch).sim dram := by
  have built : ((Transition.run Config.advance (Config.init (create (idleSetup (2 ^ 31))))
      hugeBatch).world.drams ()).any (fun dram => dram.idleTicking) = true := by
    decide +kernel
  have empty : (Transition.run Config.advance
      (Config.init (create (idleSetup (2 ^ 31)))) hugeBatch).sim.liveEvents = [] := by
    decide +kernel
  obtain ⟨dram, built, idle⟩ := (Option.any_eq_true _ _).mp built
  refine ⟨dram, built, idle, empty, fun chain => ?_⟩
  obtain ⟨event, only, -⟩ := chain.idleTicking.mp idle
  have member := (Simulator.mem_queued.mp (only ▸ List.mem_singleton_self event)).1
  rw [empty] at member
  cases member

end DramWorld

end Pyramulator
