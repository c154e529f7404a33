import Pyramulator.Dram.TickChain

namespace Pyramulator

variable {ℓ γ η : Type} [DecidableEq ℓ] [DecidableEq γ]

/-! The DRAM clock of a component does not run ahead of the simulator's time, and its
idle ticks wait for as many cycles as they run. -/

namespace Dram

open Simulator (Local)

variable {lossy : Prop} {engine : Engine (DramCallback γ)} {cacheline : Int} {label : ℓ}
  {sim after : Simulator (DramCode ℓ γ η)} {dram : Dram engine}

/-- The last cycle that was done is not in the future, nor would be cycle number zero
before the component was built. -/
structure Behind (now : Int) (dram : Dram engine) : Prop where
  origin : dram.builtAt ≤ dram.origin
  done : dram.due 0 ≤ now

omit [DecidableEq γ]

theorem Behind.later {now then_ : Int} (behind : dram.Behind now) (later : now ≤ then_) :
    dram.Behind then_ :=
  ⟨behind.origin, behind.done.trans later⟩

theorem Behind.cycles {now : Int} (behind : dram.Behind now) :
    dram.cycles * dram.clk.periodPs ≤ now - dram.builtAt := by
  have origin := behind.origin
  have done := behind.done
  rw [due, add_zero] at done
  omega

theorem due_from (dram : Dram engine) (count : Int) :
    dram.due count = dram.due 0 + count * dram.clk.periodPs := by
  simp only [due]
  ring

theorem due_zero_busyFrom (now : Int) : (dram.busyFrom now).due 0 = now := by
  rw [due, origin_busyFrom]
  change now - dram.cycles * dram.clk.periodPs +
    (dram.cycles + 0) * dram.clk.periodPs = now
  ring

theorem Behind.busyFrom {now : Int} (behind : dram.Behind now) :
    (dram.busyFrom now).Behind now where
  origin := by
    rw [origin_busyFrom]
    change dram.builtAt ≤ _
    have := behind.cycles
    omega
  done := (due_zero_busyFrom now).le

theorem Behind.congr {changed : Dram engine} {now : Int} (behind : dram.Behind now)
    (builtAt : changed.builtAt = dram.builtAt) (origin : changed.origin = dram.origin)
    (due : changed.due = dram.due) : changed.Behind now :=
  ⟨by rw [builtAt, origin]; exact behind.origin, by rw [due]; exact behind.done⟩

variable [DecidableEq γ]

theorem Clocked.idle_time (clocked : Clocked lossy label sim dram)
    {event : Event (DramCode ℓ γ η)} (queued : event ∈ sim.queued label .idleTick) :
    event.time = dram.due 0 + dram.batch.current * dram.clk.periodPs := by
  cases clocked with
  | idle only _ _ _ _ idles _ time =>
      rw [idles, List.mem_singleton] at queued
      rw [queued, time, due_from]
  | busy _ _ _ _ idles => rw [idles] at queued; cases queued
  | stopped _ _ _ _ idles => rw [idles] at queued; cases queued
  | lost _ _ _ _ _ idles => rw [idles] at queued; cases queued

theorem Created.due_zero {setup : DramSetup γ} {made : Dram setup.engine}
    {device : Device (DramCode ℓ γ η) setup.engine}
    (created : Created lossy label setup sim made device) :
    device.dram.due 0 = sim.now ∧ device.dram.origin = sim.now ∧
      device.dram.builtAt = sim.now := by
  obtain ⟨clk, base_pos, rfl⟩ := created.initial
  have zero : sim.now + (0 + 0) * clk.periodPs = sim.now := by ring
  rcases created.dram with ⟨-, same⟩ | ⟨-, same⟩
  · rw [same]
    exact ⟨zero, rfl, rfl⟩
  · rw [same]
    exact ⟨zero, rfl, rfl⟩

theorem Ticked.due_zero {event : Event (DramCode ℓ γ η)} {count : Nat}
    {last : Simulator (DramCode ℓ γ η)} {ended : Device (DramCode ℓ γ η) engine}
    (ticked : Ticked lossy cacheline label sim event dram count last ended) :
    ended.dram.due 0 = ended.sim.now ∧ ended.dram.origin = dram.origin ∧
      ended.dram.builtAt = dram.builtAt := by
  have time : dram.due (count + 0) = last.now := by
    rw [add_zero]
    exact ticked.jumped.now.symm
  have done : (dram.ran count).due 0 = last.now := (due_ran count 0).trans time
  cases ticked.ends with
  | pending busy => exact ⟨done.trans (handOver_now ..).symm, rfl, rfl⟩
  | idle serviced refresh => exact ⟨done.trans (handOver_now ..).symm, rfl, rfl⟩
  | stopped serviced noRefresh => exact ⟨done.trans (handOver_now ..).symm, rfl, rfl⟩

theorem Ticked.behind {event : Event (DramCode ℓ γ η)} {count : Nat} {now : Int}
    {last : Simulator (DramCode ℓ γ η)} {ended : Device (DramCode ℓ γ η) engine}
    (ticked : Ticked lossy cacheline label sim event dram count last ended)
    (behind : dram.Behind now) : ended.dram.Behind ended.sim.now := by
  obtain ⟨done, origin, builtAt⟩ := ticked.due_zero
  exact ⟨by rw [builtAt, origin]; exact behind.origin, done.le⟩

theorem IdleTicked.due_zero {event : Event (DramCode ℓ γ η)}
    {ended : Except PyError Unit × Device (DramCode ℓ γ η) engine}
    (ticked : IdleTicked lossy cacheline label sim event dram ended) :
    ¬ FitsInt dram.batch.current ∧ ended.2 = ⟨sim.fireNext event, dram⟩ ∨
      FitsInt dram.batch.current ∧ ended.2.dram.due 0 = ended.2.sim.now ∧
        ended.2.dram.builtAt = dram.builtAt ∧
          ended.2.dram.cycles = dram.cycles + dram.batch.current := by
  have nonneg : 0 ≤ dram.batch.current := by have := dram.batch.current_pos; omega
  have time := ticked.time
  have cycles : (dram.ran dram.batch.current.toNat).cycles =
      dram.cycles + dram.batch.current := by
    rw [ran_cycles, Int.toNat_of_nonneg nonneg]
  cases ticked.ends with
  | refused large => exact .inl ⟨large, rfl⟩
  | pending fits busy =>
      refine .inr ⟨fits, ?_, rfl, cycles⟩
      exact due_zero_busyFrom (sim.fireNext event).now
  | idle fits serviced =>
      refine .inr ⟨fits, ?_, rfl, cycles⟩
      change (dram.ran dram.batch.current.toNat).due 0 = event.time
      rw [due_ran, Int.toNat_of_nonneg nonneg, add_zero, time]

theorem IdleTicked.behind {event : Event (DramCode ℓ γ η)}
    {ended : Except PyError Unit × Device (DramCode ℓ γ η) engine}
    (ticked : IdleTicked lossy cacheline label sim event dram ended)
    (next : sim.peek.1 = some event) (wellFormed : sim.WellFormed)
    (behind : dram.Behind sim.now) : ended.2.dram.Behind ended.2.sim.now := by
  have now : sim.now ≤ (sim.fireNext event).now := (wellFormed.next_least next).2.1
  have positive := dram.batch.current_pos
  have later : (dram.ran dram.batch.current.toNat).Behind (sim.fireNext event).now := by
    refine ⟨behind.origin, ?_⟩
    rw [due_ran, Int.toNat_of_nonneg (by omega), add_zero]
    exact ticked.time.ge
  cases ticked.ends with
  | refused large => exact behind.later now
  | pending fits busy =>
      have begun : ((dram.ran dram.batch.current.toNat).idleOff).Behind
          (sim.fireNext event).now := later.congr rfl rfl rfl
      exact begun.busyFrom
  | idle fits serviced => exact later.congr rfl rfl rfl

theorem Requested.behind {request : DramRequest γ} {wrap : Collector γ}
    {mem : MemorySystem engine} {sends : List (Int × Bool)} {submission : Submission γ}
    {called : Except PyError MemoryValue × Device (DramCode ℓ γ η) engine}
    (behind : dram.Behind sim.now)
    (sent : Sent cacheline sim dram request wrap mem sends)
    (requested : Requested lossy label sim dram request mem sends submission called) :
    called.2.dram.Behind called.2.sim.now := by
  have unanswered : ({ dram with mem }.noted submission).Behind sim.now :=
    behind.congr rfl rfl (due_eq rfl rfl rfl sent.clk)
  cases requested with
  | raised error => exact unanswered
  | rejected value accepts all allRefused => exact unanswered
  | accepted value accepts all someTaken handed rest answered after clock
      clocked started =>
      have answering : (dram.answered mem sim.now handed rest).Behind sim.now :=
        behind.congr rfl rfl (due_eq rfl rfl rfl sent.clk)
      have now : sim.now ≤ after.sim.now := by
        have moved := clock.now
        rwa [handOver_now] at moved
      rcases started with ⟨-, same⟩ | ⟨-, same⟩
      · simp only [same]
        exact (answering.later now).congr rfl rfl rfl
      · simp only [same]
        exact (answering.busyFrom.later now).congr rfl rfl rfl

end Dram

namespace DramWorld

open Simulator (Local)

variable {setups : ℓ → DramSetup γ} {policy : TickPolicy}
  {allowed : Config (dramSystem η setups policy) →
    Decision (dramSystem η setups policy) → Prop}

/-- A component that was built is not ahead, and its batches are those it was built
with. -/
def tracking : Trait η setups := fun label sim dram _ =>
  ∀ built, dram = some built →
    built.Behind sim.now ∧ built.batch.base = (setups label).idleBatchCycles

theorem tracking_keeps : Keeps True policy allowed (tracking : Trait η setups) where
  may _ _ _ _ _ := trivial
  congr {label sim dram fired} after holds _ _ now built same := by
    rw [now]
    exact holds built same
  foreign local_ _ holds built same :=
    ⟨(holds built same).1.later local_.now, (holds built same).2⟩
  passed _ _ holds := holds
  completion wellFormed next _ holds built same :=
    ⟨(holds built same).1.later (wellFormed.next_least next).2.1, (holds built same).2⟩
  created {label sim made after fired} _ created _ built same := by
    obtain rfl := Option.some.inj same
    obtain ⟨done, origin, builtAt⟩ := created.due_zero
    refine ⟨⟨by rw [builtAt, origin], done.le.trans created.clock.now⟩, ?_⟩
    obtain ⟨clk, base_pos, rfl⟩ := created.initial
    rcases created.dram with ⟨-, same⟩ | ⟨-, same⟩
    · rw [same]
      rfl
    · rw [same]
      rfl
  requested {config label request dram fired} wellFormed _ _ running holds := by
    obtain ⟨behind, base⟩ := holds dram rfl
    obtain ⟨mem, sends, submission, -, sent, requested⟩ :=
      running.requested wellFormed request
    obtain ⟨src, cache, count, same⟩ := Dram.collector_eq dram request.callback
    rw [same] at sent requested
    intro called built after
    obtain rfl := Option.some.inj after
    simp only [called]
    generalize Dram.submit (.dram label) request ⟨config.sim, dram⟩ = called at requested
    have collected : ({ dram with
        collectorSrc := src, collectorWrap := cache, collectors := count } :
        Dram (setups label).engine).Behind config.sim.now := behind.congr rfl rfl rfl
    refine ⟨Dram.Requested.behind collected sent requested, ?_⟩
    cases requested with
    | raised error => exact base
    | rejected value => exact base
    | accepted _ _ _ _ _ _ _ after clock clocked started =>
        rcases started with ⟨-, same⟩ | ⟨-, same⟩
        · simp only [same]
          exact base
        · simp only [same]
          exact base
  ticked {config decision label event dram count last ended fired} _ _ _ _ _ _ _ ticked
      holds built same := by
    obtain rfl := Option.some.inj same
    obtain ⟨behind, base⟩ := holds dram rfl
    refine ⟨ticked.behind behind, ?_⟩
    cases ticked.ends with
    | pending busy => exact base
    | idle serviced refresh => exact base
    | stopped serviced noRefresh => exact base
  idleTicked {config decision label event dram ended fired} wellFormed _ _ _ next _ _
      ticked holds built same := by
    obtain rfl := Option.some.inj same
    obtain ⟨behind, base⟩ := holds dram rfl
    refine ⟨ticked.behind next wellFormed behind, ?_⟩
    cases ticked.ends with
    | refused large => exact base
    | pending fits busy => exact base
    | idle fits serviced => exact base

/-! ## The moment at which an idle tick was scheduled -/

/-- An idle tick was live before, for the same component, or it was scheduled now. -/
def Waits (label : ℓ) (sim : Simulator (DramCode ℓ γ η))
    (before : Option (Dram (setups label).engine)) (after : Simulator (DramCode ℓ γ η))
    (dram : Dram (setups label).engine) : Prop :=
  ∀ event ∈ after.queued label .idleTick,
    (∃ old, before = some old ∧ event ∈ sim.queued label .idleTick ∧
      dram.due 0 = old.due 0) ∨
    dram.due 0 = after.now ∧
      (before ≠ none → event ∉ sim.queued label .idleTick)

section Waits

variable {label : ℓ} {sim after : Simulator (DramCode ℓ γ η)}
  {dram : Dram (setups label).engine}

theorem Waits.foreign {kind : DramCode ℓ γ η → Prop} (local_ : Local kind sim after)
    (apart : ∀ closure, ¬ kind (.dram label closure)) :
    Waits label sim (some dram) after dram := by
  intro event queued
  rw [local_.queued (apart _)] at queued
  exact .inl ⟨dram, rfl, queued, rfl⟩

theorem Waits.requested (wellFormed : sim.WellFormed)
    (running : Dram.Running True (setups label).cacheline label sim dram)
    (request : DramRequest γ) :
    let called := Dram.submit (.dram label) request ⟨sim, dram⟩
    Waits label sim (some dram) called.2.sim called.2.dram := by
  obtain ⟨mem, sends, submission, -, sent, requested⟩ :=
    running.requested wellFormed request
  obtain ⟨src, cache, count, same⟩ := Dram.collector_eq dram request.callback
  rw [same] at sent requested
  have unanswered : ({ dram with mem } : Dram (setups label).engine).due = dram.due :=
    Dram.due_eq rfl rfl rfl sent.clk
  intro called event queued
  simp only [called] at queued ⊢
  generalize Dram.submit (.dram label) request ⟨sim, dram⟩ = result at requested queued
  cases requested with
  | raised error => exact .inl ⟨dram, rfl, queued, congrFun unanswered 0⟩
  | rejected value => exact .inl ⟨dram, rfl, queued, congrFun unanswered 0⟩
  | accepted _ _ _ _ _ _ _ after clock clocked started =>
      have ticking : after.dram.ticking = true := by
        rcases started with ⟨ticking, same⟩ | ⟨-, same⟩
        · rw [same]
          exact ticking
        · rw [same]
          rfl
      cases clocked with
      | busy _ _ _ _ idles =>
          rw [idles] at queued
          cases queued
      | idle _ stopped => exact absurd (ticking.symm.trans stopped) (by decide)
      | stopped stopped => exact absurd (ticking.symm.trans stopped) (by decide)
      | lost _ stopped => exact absurd (ticking.symm.trans stopped) (by decide)

theorem Called.waits {op : DramOp ℓ γ η}
    {before changed : Option (Dram (setups label).engine)}
    (wellFormed : sim.WellFormed) (called : Called True label op sim before after changed)
    (built : changed = some dram) : Waits label sim before after dram := by
  cases called with
  | foreign kind local_ apart =>
      subst built
      exact .foreign local_ apart
  | created unbuilt created =>
      obtain rfl := Option.some.inj built
      exact fun _ _ => .inr ⟨created.due_zero.1.trans created.now.symm,
        fun isBuilt => absurd unbuilt isBuilt⟩
  | requested named known running =>
      obtain rfl := Option.some.inj built
      subst known
      exact .requested wellFormed running _

theorem Entered.waits {event : Event (DramCode ℓ γ η)}
    {before changed : Option (Dram (setups label).engine)} (wellFormed : sim.WellFormed)
    (next : sim.peek.1 = some event)
    (entered : Entered True label event sim before after changed)
    (built : changed = some dram) : Waits label sim before after dram := by
  cases entered with
  | foreign kind local_ apart other =>
      subst built
      exact .foreign local_ apart
  | completion completion =>
      subst built
      intro other queued
      have apart : event.callback ≠ .dram label .idleTick := by
        obtain ⟨callback, info, named⟩ := completion
        simp [named]
      rw [Simulator.queued_fired_other next apart] at queued
      exact .inl ⟨dram, rfl, queued, rfl⟩
  | ticked named known running ticked =>
      obtain rfl := Option.some.inj built
      obtain ⟨-, -, -, idles, -⟩ := running.clocked.tick_fired next named
      rw [Simulator.queued_fired_other next (by simp [named])] at idles
      refine fun other _ => .inr ⟨ticked.due_zero.1, fun _ old => ?_⟩
      rw [idles] at old
      cases old
  | idleTicked named known running ticked =>
      obtain rfl := Option.some.inj built
      subst known
      intro other queued
      rcases ticked.due_zero with ⟨-, same⟩ | ⟨-, done, -⟩
      · rw [same] at queued ⊢
        refine .inl ⟨_, rfl, ?_, rfl⟩
        rw [Simulator.queued_fired next named]
        exact List.mem_cons_of_mem _ queued
      · refine .inr ⟨done, fun _ old => ?_⟩
        obtain ⟨-, -, -, -, idles, -⟩ := running.clocked.idleTick_fired next named
        obtain ⟨live, idle⟩ := Simulator.mem_queued.mp queued
        have known : other.seq < sim.seq :=
          wellFormed.live_fresh other (Simulator.mem_queued.mp old).1
        have here := Simulator.mem_queued.mpr ⟨ticked.clock.older live known, idle⟩
        rw [idles] at here
        cases here

end Waits

theorem advance_waits {config : Config (dramSystem η setups policy)}
    (wellFormed : config.sim.WellFormed)
    (standing : Standing True config.sim config.world)
    (decision : Decision (dramSystem η setups policy)) {label : ℓ}
    {dram : Dram (setups label).engine}
    (built : (config.advance decision).world.drams label = some dram) :
    Waits label config.sim (config.world.drams label) (config.advance decision).sim
      dram := by
  obtain ⟨sim, world, effect, shows⟩ := config.advance_effect decision
  rw [shows.world] at built
  suffices waits : Waits label config.sim (config.world.drams label) sim dram by
    intro event queued
    rw [shows.now]
    exact waits event (Simulator.queued_of_liveEvents shows.live ▸ queued)
  have silent (same : config.world.drams label = some dram) :
      Waits label config.sim (config.world.drams label) config.sim dram := by
    rw [same]
    exact .foreign (.refl (fun _ => False) wellFormed) fun _ => id
  cases effect with
  | silent => exact silent built
  | called op named =>
      exact ((exec_called standing wellFormed op).2 label).waits wellFormed built
  | resumed code answer named below position => exact silent built
  | entered event fires next =>
      exact ((enter_entered standing wellFormed policy next
        fun _ _ _ _ _ => trivial).2 label).waits wellFormed next built

def ScheduledAt {S : System} (start : Config S) (event : Event S.Callback) (now : Int)
    (config : Config S) : Prop :=
  ∃ before decision,
    Transition.Reach Config.advance (fun _ _ => True) start before ∧
    event ∉ before.sim.liveEvents ∧
    event ∈ (before.advance decision).sim.liveEvents ∧
    (before.advance decision).sim.now = now ∧
    Transition.Reach Config.advance (fun _ _ => True) (before.advance decision) config

theorem scheduledAt {config : Config (dramSystem η setups policy)}
    (reached : Transition.Reach Config.advance (fun _ _ => True)
      (Config.init (create setups)) config) {label : ℓ}
    {dram : Dram (setups label).engine} (built : config.world.drams label = some dram)
    {event : Event (DramCode ℓ γ η)}
    (queued : event ∈ config.sim.queued label .idleTick) :
    ScheduledAt (Config.init (create setups)) event (dram.due 0) config := by
  induction reached generalizing dram with
  | refl => cases built
  | @next config decision reached permitted induction =>
      obtain ⟨coherent, standing, -⟩ := tracking_keeps.reach
        (fun _ _ impossible => by cases impossible) reached
      obtain ⟨live, idle⟩ := Simulator.mem_queued.mp queued
      rcases advance_waits coherent.wellFormed standing decision built event queued with
        ⟨old, known, before, same⟩ | ⟨now, new⟩
      · obtain ⟨first, made, begun, absent, present, when_, later⟩ :=
          induction known before
        exact ⟨first, made, begun, absent, present, when_.trans same.symm,
          .next decision later trivial⟩
      · refine ⟨config, decision, reached, fun old => ?_, live, now.symm, .refl⟩
        cases known : config.world.drams label with
        | none => exact standing.unbuilt label known event old ⟨_, idle⟩
        | some dram =>
            exact new (by simp [known]) (Simulator.mem_queued.mpr ⟨old, idle⟩)

theorem idleTick_ticks_iff {config : Config (dramSystem η setups policy)}
    (wellFormed : config.sim.WellFormed)
    (standing : Standing True config.sim config.world)
    {label : ℓ} {dram ended : Dram (setups label).engine}
    (built : config.world.drams label = some dram)
    {decision : Decision (dramSystem η setups policy)} {event : Event (DramCode ℓ γ η)}
    (fires : config.Fires decision event) (named : event.callback = .dram label .idleTick)
    (after : (config.advance decision).world.drams label = some ended) :
    ended.cycles = dram.cycles + dram.batch.current ↔ FitsInt dram.batch.current := by
  have entered := (enter_entered standing wellFormed policy fires.next
    fun _ _ _ _ _ => trivial).2 label
  rw [fires.world] at after
  change (DramWorld.enter policy event.callback (config.sim.fireNext event)
    config.world).world.drams label = some ended at after
  rw [after, built] at entered
  have positive := dram.batch.current_pos
  generalize (DramWorld.enter policy event.callback (config.sim.fireNext event)
    config.world : Outcome _ _).sim = left at entered
  cases entered with
  | foreign kind local_ apart other => exact absurd ⟨_, named⟩ other
  | completion completion =>
      obtain ⟨callback, info, other⟩ := completion
      rw [named] at other
      cases other
  | ticked other => rw [named] at other; cases other
  | idleTicked _ known running ticked =>
      obtain rfl := Option.some.inj known
      rcases ticked.due_zero with ⟨large, same⟩ | ⟨fits, -, -, cycles⟩
      · rw [same]
        refine iff_of_false (fun same => ?_) large
        simp only at same
        omega
      · exact iff_of_true cycles fits

/-- The DRAM clock is not ahead of the simulator's time, and an idle tick is due one
batch of cycles after it was scheduled, in every run. It runs that batch when the
batch is a C++ `int`. -/
theorem never_ahead {config : Config (dramSystem η setups policy)}
    (reached : Transition.Reach Config.advance (fun _ _ => True)
      (Config.init (create setups)) config) {label : ℓ}
    {dram : Dram (setups label).engine} (built : config.world.drams label = some dram) :
    dram.cycles * dram.clk.periodPs ≤ config.sim.now - dram.builtAt ∧
    (setups label).idleBatchCycles ≤ dram.batch.current ∧
    dram.batch.current ≤ 16 * (setups label).idleBatchCycles ∧
    (∀ event ∈ config.sim.queued label .idleTick,
      ScheduledAt (Config.init (create setups)) event
        (event.time - dram.batch.current * dram.clk.periodPs) config) ∧
    ∀ decision event ended, config.Fires decision event →
      event.callback = .dram label .idleTick →
      (config.advance decision).world.drams label = some ended →
        (ended.cycles = dram.cycles + dram.batch.current ↔
          FitsInt dram.batch.current) := by
  obtain ⟨coherent, standing, tracked⟩ := tracking_keeps.reach
    (fun _ _ impossible => by cases impossible) reached
  obtain ⟨behind, base⟩ := tracked label dram built
  have running := standing.running label dram built
  have least := dram.batch.base_le
  have most := dram.batch.le_max
  rw [base] at least most
  refine ⟨behind.cycles, least, by omega, fun event queued => ?_,
    fun decision event ended fires named after =>
      idleTick_ticks_iff coherent.wellFormed standing built fires named after⟩
  rw [running.clocked.idle_time queued, add_sub_cancel_right]
  exact scheduledAt reached built queued

/-! ### Runs -/

theorem never_ahead_idleThenRead :
    ∃ dram, (Transition.run Config.advance (Config.init (create (idleSetup 4)))
        idleThenRead).world.drams () = some dram ∧
      dram.cycles * dram.clk.periodPs ≤ (Transition.run Config.advance
        (Config.init (create (idleSetup 4))) idleThenRead).sim.now - dram.builtAt := by
  have built : ((Transition.run Config.advance (Config.init (create (idleSetup 4)))
      idleThenRead).world.drams ()).isSome = true := by decide +kernel
  obtain ⟨dram, built⟩ := Option.isSome_iff_exists.mp built
  refine ⟨dram, built, (never_ahead (Transition.Follows.reach ?_) built).1⟩
  exact ⟨trivial, trivial, trivial, trivial, trivial, trivial⟩

/-- The idle tick that waited for 2³¹ cycles runs none. -/
theorem hugeBatch_unticked :
    let config := Transition.run Config.advance
      (Config.init (create (idleSetup (2 ^ 31)))) (hugeBatch.take 1)
    ∃ event dram ended, config.Fires .step event ∧
      event.callback = .dram () .idleTick ∧ config.world.drams () = some dram ∧
      (config.advance .step).world.drams () = some ended ∧
      event.time - dram.builtAt = dram.batch.current * dram.clk.periodPs ∧
      ended.cycles ≠ dram.cycles + dram.batch.current := by
  intro config
  have built : (config.world.drams ()).any (fun dram =>
      decide (dram.builtAt = 0 ∧ dram.batch.current * dram.clk.periodPs = 2 ^ 31 * 10 ∧
        dram.cycles + dram.batch.current = 2 ^ 31)) = true := by
    decide +kernel
  have next : config.sim.peek.1.any (fun event =>
      decide (event.callback = .dram () .idleTick ∧ event.time = 2 ^ 31 * 10)) =
        true := by
    decide +kernel
  have left : ((config.advance .step).world.drams ()).any (fun dram =>
      decide (dram.cycles = 0)) = true := by
    decide +kernel
  obtain ⟨dram, built, same⟩ := (Option.any_eq_true _ _).mp built
  obtain ⟨builtAt, waited, due⟩ := of_decide_eq_true same
  obtain ⟨event, next, same⟩ := (Option.any_eq_true _ _).mp next
  obtain ⟨named, time⟩ := of_decide_eq_true same
  obtain ⟨ended, left, same⟩ := (Option.any_eq_true _ _).mp left
  have cycles := of_decide_eq_true same
  have once : (Config.firedEvents (config.advance .step).log).length = 1 ∧
      (Config.firedEvents config.log).length = 0 := by
    decide +kernel
  have fires : config.Fires .step event := by
    rcases Config.advance_cases config .step with ⟨other, rest, peeked, step⟩ | unfired
    · obtain rfl := Option.some.inj (next.symm.trans peeked)
      exact ⟨rest, step⟩
    · rw [unfired, once.2] at once
      exact absurd once.1 (by decide)
  refine ⟨event, dram, ended, fires, named, built, left, ?_, ?_⟩
  · rw [builtAt, waited, time]
    rfl
  · rw [cycles, due]
    decide

end DramWorld

end Pyramulator
