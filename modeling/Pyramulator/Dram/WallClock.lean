import Pyramulator.Dram.TickChain

namespace Pyramulator

variable {ℓ γ η : Type} [DecidableEq ℓ] [DecidableEq γ]

/-! The DRAM clock of a component with `idle_refresh`, and the simulator's time. -/

namespace Dram

variable {lossy : Prop} {engine : Engine (DramCallback γ)} {cacheline : Int} {label : ℓ}
  {sim : Simulator (DramCode ℓ γ η)} {dram : Dram engine}

def elapsed (now : Int) (dram : Dram engine) : Int :=
  (now - dram.builtAt) / dram.clk.periodPs

def OnTime (dram : Dram engine) : Prop :=
  dram.idleRefresh = true → dram.origin < dram.builtAt + dram.clk.periodPs

omit [DecidableEq ℓ] [DecidableEq γ] in
/-- A busy stretch that begins when no whole period is missing loses less than one. -/
theorem OnTime.busyFrom {now : Int} (current : dram.elapsed now ≤ dram.cycles) :
    (dram.busyFrom now).OnTime := by
  intro _
  rw [origin_busyFrom]
  change now - dram.cycles * dram.clk.periodPs < dram.builtAt + dram.clk.periodPs
  have short := (Int.ediv_lt_iff_lt_mul dram.clk.positive).mp
    (Int.lt_add_one_of_le current)
  rw [add_mul, one_mul] at short
  omega

/-- While the events of its clock are not overdue, a component is behind by the
batch that runs at most. -/
theorem OnTime.bound (wellFormed : sim.WellFormed) (onTime : dram.OnTime)
    (refresh : dram.idleRefresh = true) (clocked : Clocked False label sim dram) :
    dram.elapsed sim.now - dram.cycles ≤ dram.batch.current := by
  have positive := dram.batch.current_pos
  have origin := onTime refresh
  have next : sim.now ≤ dram.due dram.batch.current := by
    cases clocked with
    | busy event ticking noIdle ticks idles time =>
        have member := (Simulator.mem_queued.mp (ticks ▸ List.mem_singleton_self event)).1
        have future := wellFormed.future event member
        have more := Int.mul_le_mul_of_nonneg_right
          (show dram.cycles + 1 ≤ dram.cycles + dram.batch.current by omega)
          dram.clk.positive.le
        rw [time] at future
        simp only [due] at future ⊢
        omega
    | idle event stopped idle refresh ticks idles scheduled time =>
        have member := (Simulator.mem_queued.mp (idles ▸ List.mem_singleton_self event)).1
        exact (wellFormed.future event member).trans time.le
    | stopped _ _ noRefresh => exact absurd (refresh.symm.trans noRefresh) (by decide)
    | lost _ _ _ _ _ _ _ _ _ refused => exact refused.elim
  have short : dram.elapsed sim.now < dram.cycles + dram.batch.current + 1 := by
    refine (Int.ediv_lt_iff_lt_mul dram.clk.positive).mpr ?_
    rw [due] at next
    rw [add_mul _ 1, one_mul]
    omega
  omega

end Dram

namespace DramWorld

variable {setups : ℓ → DramSetup γ} {policy : TickPolicy}

/-- Requests that end an idle stretch come before a whole period of its running
batch has passed, and pybind11 takes the batch of every idle tick. -/
def Punctual (config : Config (dramSystem η setups policy))
    (decision : Decision (dramSystem η setups policy)) : Prop :=
  (∀ label request dram value, decision = .call (.request label request) →
    config.world.drams label = some dram → dram.idleTicking = true →
      (exec (.request label request) config.sim config.world).1 = .ok (.memory value) →
        Dram.anyAccepted value = true → dram.elapsed config.sim.now ≤ dram.cycles) ∧
  ∀ label event dram, config.Fires decision event →
    event.callback = .dram label .idleTick → config.world.drams label = some dram →
      FitsInt dram.batch.current

structure Timely (setup : DramSetup γ) (dram : Dram setup.engine) : Prop where
  refresh : dram.idleRefresh = setup.idleRefresh
  base : dram.batch.base = setup.idleBatchCycles
  onTime : dram.OnTime

theorem timely_requested {config : Config (dramSystem η setups policy)} {label : ℓ}
    {request : DramRequest γ} {dram : Dram (setups label).engine}
    (wellFormed : config.sim.WellFormed)
    (punctual : Punctual config (.call (.request label request)))
    (built : config.world.drams label = some dram)
    (running : Dram.Running False (setups label).cacheline label config.sim dram)
    (timely : Timely (setups label) dram) :
    Timely (setups label) (Dram.submit (.dram label : DramEvent γ → DramCode ℓ γ η)
      request ⟨config.sim, dram⟩).2.dram := by
  obtain ⟨mem, sends, submission, -, sent, requested⟩ :=
    running.requested wellFormed request
  obtain ⟨src, cache, count, same⟩ := Dram.collector_eq dram request.callback
  rw [same] at sent requested
  have current (value : MemoryValue) (idle : dram.idleTicking = true)
      (returned : (Dram.submit (.dram label : DramEvent γ → DramCode ℓ γ η) request
        ⟨config.sim, dram⟩).1 = .ok value) (accepted : Dram.anyAccepted value = true) :
      dram.elapsed config.sim.now ≤ dram.cycles := by
    refine punctual.1 label request dram value rfl built idle ?_ accepted
    simp only [exec, onDram_built built, returned]
    rfl
  generalize Dram.submit (.dram label) request ⟨config.sim, dram⟩ = called
    at requested current ⊢
  cases requested with
  | raised error => exact ⟨timely.refresh, timely.base, timely.onTime⟩
  | rejected value => exact ⟨timely.refresh, timely.base, timely.onTime⟩
  | accepted value accepts all someTaken handed rest answered after clock
      clocked started =>
      rcases started with ⟨-, after⟩ | ⟨stopped, after⟩
      · simp only [after]
        exact ⟨timely.refresh, timely.base, timely.onTime⟩
      · simp only [after]
        refine ⟨timely.refresh, timely.base, ?_⟩
        intro refresh
        have idle : dram.idleTicking = true := by
          cases running.clocked with
          | busy _ ticking => exact absurd (ticking.symm.trans stopped) (by decide)
          | idle _ _ idle => exact idle
          | stopped _ _ noRefresh =>
              exact absurd (refresh.symm.trans noRefresh) (by decide)
          | lost _ _ idle => exact idle
        refine Dram.OnTime.busyFrom ?_ refresh
        have cycles : mem.clk = dram.cycles := sent.clk
        refine (current value idle rfl ?_).trans cycles.ge
        rw [Dram.anyAccepted_eq, accepts, List.any_map, List.any_eq_true]
        exact someTaken

theorem timely_keeps :
    Keeps False policy Punctual
      (Each η fun label dram => Timely (setups label) dram) := by
  refine Keeps.each (fun punctual fires named built large =>
    large (punctual.2 _ _ _ fires named built)) ?_ ?_ ?_ ?_
  · intro label sim made after new
    obtain ⟨clk, base_pos, rfl⟩ := new.initial
    have built : Timely (setups label) (Dram.fresh (setups label) clk base_pos sim.now) :=
      ⟨rfl, rfl, fun _ => by
        have := clk.positive
        change sim.now < sim.now + clk.periodPs
        omega⟩
    rcases new.dram with ⟨-, same⟩ | ⟨-, same⟩
    · rw [same]; exact ⟨built.refresh, built.base, built.onTime⟩
    · rw [same]; exact built
  · intro config label request dram wellFormed punctual built running timely
    exact timely_requested wellFormed punctual built running timely
  · intro label sim event dram count last ended tick timely
    cases tick.ends with
    | pending busy => exact ⟨timely.refresh, timely.base, timely.onTime⟩
    | idle serviced refresh => exact ⟨timely.refresh, timely.base, timely.onTime⟩
    | stopped serviced noRefresh => exact ⟨timely.refresh, timely.base, timely.onTime⟩
  · intro config decision label event dram ended _ _ _ _ running tick timely
    cases tick.ends with
    | refused large => exact timely
    | idle fits serviced => exact ⟨timely.refresh, timely.base, timely.onTime⟩
    | pending fits busy =>
        refine ⟨timely.refresh, timely.base, fun refresh => ?_⟩
        have onTime := timely.onTime refresh
        have time := tick.time
        rw [Dram.origin_busyFrom]
        change event.time - (dram.cycles + dram.batch.current.toNat) *
          dram.clk.periodPs < dram.builtAt + dram.clk.periodPs
        rw [Int.toNat_of_nonneg (by have := dram.batch.current_pos; omega),
          time, Dram.due]
        omega

/-- With `idle_refresh` the DRAM clock is behind the simulator's by one idle batch at
most, in every run of punctual requests. -/
theorem keeps_up {config : Config (dramSystem η setups .coalesced)}
    (reached : Transition.Reach Config.advance Punctual
      (Config.init (create setups)) config)
    {label : ℓ} (refresh : (setups label).idleRefresh = true)
    {dram : Dram (setups label).engine} (built : config.world.drams label = some dram) :
    (config.sim.now - dram.builtAt) / dram.clk.periodPs - dram.cycles ≤
        dram.batch.current ∧
      dram.batch.current ≤ 16 * (setups label).idleBatchCycles := by
  obtain ⟨coherent, standing, each⟩ :=
    timely_keeps.reach (fun _ _ impossible => by cases impossible) reached
  have timely := each label dram built
  have running := standing.running label dram built
  refine ⟨timely.onTime.bound coherent.wellFormed (timely.refresh.trans refresh)
    running.clocked, ?_⟩
  have most := dram.batch.le_max
  rw [timely.base] at most
  omega

theorem punctual_of_next {config : Config (dramSystem Unit (idleSetup 4) policy)}
    {decision : Decision (dramSystem Unit (idleSetup 4) policy)}
    (current : ((config.world.drams ()).all fun dram =>
      decide (dram.elapsed config.sim.now ≤ dram.cycles)) = true)
    (fits : ((config.world.drams ()).all fun dram =>
      decide (FitsInt dram.batch.current)) = true) : Punctual config decision := by
  refine ⟨fun label request dram value _ built _ _ _ => ?_,
    fun label event dram _ _ built => ?_⟩
  · rw [built] at current
    simpa using current
  · rw [built] at fits
    simpa using fits

theorem keeps_up_idleThenRead :
    ∃ dram, (Transition.run Config.advance (Config.init (create (idleSetup 4)))
        idleThenRead).world.drams () = some dram ∧
      ((Transition.run Config.advance (Config.init (create (idleSetup 4)))
        idleThenRead).sim.now - dram.builtAt) / dram.clk.periodPs - dram.cycles ≤
          dram.batch.current ∧ dram.batch.current ≤ 16 * 4 := by
  have built : ((Transition.run Config.advance (Config.init (create (idleSetup 4)))
      idleThenRead).world.drams ()).isSome = true := by decide +kernel
  obtain ⟨dram, built⟩ := Option.isSome_iff_exists.mp built
  refine ⟨dram, built, keeps_up (Transition.Follows.reach ?_) rfl built⟩
  refine ⟨punctual_of_next ?_ ?_, punctual_of_next ?_ ?_, punctual_of_next ?_ ?_,
    punctual_of_next ?_ ?_, punctual_of_next ?_ ?_, trivial⟩
  all_goals decide +kernel

/-- The idle batches of 1, 2, 4 and 8 cycles, a read fifteen periods into the batch
of 16, and all this again. -/
def lateRead : List (Decision (dramSystem Unit (idleSetup 1) .coalesced)) :=
  [.call (.build ()), .call (.at_ 300 () 0), .call (.at_ 620 () 0), .step, .step, .step,
    .step, .step, .call (.request () (.read 0 none 0)), .answer (), .step, .step, .step,
    .step, .step, .step]

/-- The cycles of a batch that a read cuts off are lost: after one such read the
clock is behind by 30 cycles, where the longest batch has 16. -/
theorem lateRead_behind :
    ∃ dram, (Transition.run Config.advance (Config.init (create (idleSetup 1)))
        lateRead).world.drams () = some dram ∧ dram.batch.current = 16 ∧
      ((Transition.run Config.advance (Config.init (create (idleSetup 1)))
        lateRead).sim.now - dram.builtAt) / dram.clk.periodPs - dram.cycles = 30 ∧
      ¬ ((Transition.run Config.advance (Config.init (create (idleSetup 1)))
        lateRead).sim.now - dram.builtAt) / dram.clk.periodPs - dram.cycles ≤ 16 * 1 := by
  have behind : ((Transition.run Config.advance (Config.init (create (idleSetup 1)))
      lateRead).world.drams ()).any (fun dram => decide (dram.batch.current = 16 ∧
        ((Transition.run Config.advance (Config.init (create (idleSetup 1)))
          lateRead).sim.now - dram.builtAt) / dram.clk.periodPs - dram.cycles = 30)) =
        true := by
    decide +kernel
  obtain ⟨dram, built, both⟩ := (Option.any_eq_true _ _).mp behind
  obtain ⟨batch, lag⟩ := of_decide_eq_true both
  exact ⟨dram, built, batch, lag, by rw [lag]; decide⟩

end DramWorld

end Pyramulator
