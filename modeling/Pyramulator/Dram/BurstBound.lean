import Pyramulator.Dram.Flush
import Pyramulator.Dram.NeverAhead
import Pyramulator.Sim.Horizon

namespace Pyramulator

/-! How many cycles a tick may run: `_max_tick_burst` is the largest number that keeps to
the queue and to the horizon. -/

namespace Dram

variable {κ γ : Type} {engine : Engine (DramCallback γ)} {sim : Simulator κ}
  {period cycles : Int}

/-- When a burst of so many cycles that begins now keeps to the queue and to the horizon:
the jump to its last cycle is accepted, it is over before each later event and at once if
there is an event now, and it does not go past a horizon that is not behind. -/
structure Safe (sim : Simulator κ) (period cycles : Int) : Prop where
  accepted : 1 < cycles → (sim.advanceTo (sim.now + (cycles - 1) * period)).1 = .ok ()
  later : ∀ event ∈ sim.liveEvents, sim.now < event.time →
    sim.now + (cycles - 1) * period < event.time
  present : ∀ event ∈ sim.liveEvents, event.time = sim.now →
    sim.now + (cycles - 1) * period = sim.now
  within : ∀ until_ ∈ sim.runUntil, sim.now ≤ until_ →
    sim.now + (cycles - 1) * period ≤ until_

theorem Safe.single (sim : Simulator κ) (period : Int) : Safe sim period 1 where
  accepted more := absurd more (lt_irrefl 1)
  later event _ after := by simpa using after
  present event _ _ := by simp
  within until_ _ ahead := by simpa using ahead

section

variable (positive : 0 < period)
include positive

theorem le_eventBound_iff (now : Int) (next : Option Int) (more : 1 < cycles)
    (cap : cycles ≤ 1000000) :
    cycles ≤ eventBound period now next ↔
      ∀ time ∈ next, now + (cycles - 1) * period < time := by
  cases next with
  | none => simpa [eventBound] using cap
  | some time =>
      have spent : 0 < (cycles - 1) * period := Int.mul_pos (by omega) positive
      simp only [eventBound, Option.mem_some_iff, forall_eq']
      split
      · omega
      · have quotient : cycles - 1 ≤ (time - now - 1) / period ↔
            (cycles - 1) * period ≤ time - now - 1 := Int.le_ediv_iff_mul_le positive
        omega

theorem le_burstBound_iff (now : Int) (next until_ : Option Int) (more : 1 < cycles)
    (cap : cycles ≤ 1000000) :
    cycles ≤ burstBound period now next until_ ↔
      (∀ time ∈ next, now + (cycles - 1) * period < time) ∧
        ∀ horizon ∈ until_, now + (cycles - 1) * period ≤ horizon := by
  have events := le_eventBound_iff positive now next more cap
  cases until_ with
  | none => simpa [burstBound] using events
  | some horizon =>
      have spent : 0 < (cycles - 1) * period := Int.mul_pos (by omega) positive
      rw [← events]
      simp only [burstBound, Option.mem_some_iff, forall_eq']
      split
      · omega
      · have quotient : cycles - 1 ≤ (horizon - now) / period ↔
            (cycles - 1) * period ≤ horizon - now := Int.le_ediv_iff_mul_le positive
        omega

/-- `_max_tick_burst` is the largest number of cycles, up to its cap, that is safe. -/
theorem safe_iff (wellFormed : sim.WellFormed) (one : 1 ≤ cycles)
    (cap : cycles ≤ 1000000) :
    Safe sim period cycles ↔
      cycles ≤ burstBound period sim.now (sim.liveEvents.head?.map Event.time)
        sim.runUntil := by
  rcases Int.lt_or_eq_of_le one with more | rfl
  · have spent : 0 < (cycles - 1) * period := Int.mul_pos (by omega) positive
    rw [le_burstBound_iff positive _ _ _ more cap]
    constructor
    · intro safe
      obtain ⟨-, -, -, horizon⟩ := Simulator.advanceTo_ok (safe.accepted more)
      refine ⟨fun time first => ?_, horizon⟩
      obtain ⟨event, head, rfl⟩ := Option.map_eq_some_iff.mp first
      have member : event ∈ sim.liveEvents := List.mem_of_head? head
      rcases Int.lt_or_eq_of_le (wellFormed.future event member) with later | present
      · exact safe.later event member later
      · have still := safe.present event member present.symm
        omega
    · rintro ⟨events, horizon⟩
      have before (event : Event κ) (member : event ∈ sim.liveEvents) :
          sim.now + (cycles - 1) * period < event.time := by
        obtain ⟨first, head⟩ : ∃ first, sim.liveEvents.head? = some first :=
          Option.isSome_iff_exists.mp
            (List.isSome_head?.mpr (List.ne_nil_of_mem member))
        exact (events first.time (by rw [head]; rfl)).trans_le
          (wellFormed.first_le head member)
      have accepted := Simulator.advanceTo_of_le
        (show sim.now ≤ sim.now + (cycles - 1) * period by omega)
        (fun event head => (before event (List.mem_of_head? head)).le) horizon
      refine ⟨fun _ => by rw [accepted], fun event member _ => before event member,
        fun event member present => ?_, fun until_ known _ => horizon until_ known⟩
      have gone := before event member
      omega
  · exact iff_of_true (.single sim period) (burstBound_spec _ _ _ positive).1

end

theorem burst_le (dram : Dram engine) (sim : Simulator κ) :
    (dram.burst sim : Int) ≤ burstBound dram.clk.periodPs sim.now
      (sim.liveEvents.head?.map Event.time) sim.runUntil := by
  obtain ⟨one, -⟩ :=
    burstBound_spec sim.now (sim.liveEvents.head?.map Event.time) sim.runUntil
    dram.clk.positive
  obtain ⟨count, -, bound, loop, -⟩ :=
    dram.mem.impl.progressLoop_spec (show 1 ≤ (burstBound dram.clk.periodPs sim.now
      (sim.liveEvents.head?.map Event.time) sim.runUntil).toNat by omega)
  have same : dram.burst sim = count := by rw [burst, loop]
  omega

end Dram

namespace DramWorld

variable {ℓ γ η : Type} [DecidableEq ℓ] [DecidableEq γ] {setups : ℓ → DramSetup γ}

theorem tick_advances {config : Config (dramSystem η setups .coalesced)}
    (wellFormed : config.sim.WellFormed) {lossy : Prop}
    (standing : Standing lossy config.sim config.world)
    {decision : Decision (dramSystem η setups .coalesced)}
    {event : Event (DramCode ℓ γ η)} (fires : config.Fires decision event) {label : ℓ}
    (named : event.callback = .dram label .tick) {dram : Dram (setups label).engine}
    (built : config.world.drams label = some dram) :
    (config.advance decision).sim.now = (config.sim.fireNext event).now +
        ((dram.burst (config.sim.fireNext event) : Int) - 1) * dram.clk.periodPs ∧
      ∃ ended, (config.advance decision).world.drams label = some ended ∧
        ended.cycles = dram.cycles + dram.burst (config.sim.fireNext event) := by
  have running := standing.running label dram built
  obtain ⟨-, noIdle, -⟩ := running.clocked.tick_fired fires.next named
  obtain ⟨last, jumped, ticked⟩ := Dram.tick_eq
    (.dram label : DramEvent γ → DramCode ℓ γ η) (config.sim.fireNext event) dram
    (wellFormed.fireNext fires.next)
  obtain ⟨ended, after, ends⟩ := Dram.afterTick_ends label last
    (dram.ran (dram.burst (config.sim.fireNext event))) noIdle
  have entered : (dramSystem η setups .coalesced).enter event.callback
      (config.sim.fireNext event) config.world =
        .done ended.sim (config.world.put label ended.dram) := by
    have done :
        TickPolicy.coalesced.tick (.dram label) ⟨config.sim.fireNext event, dram⟩ =
        (.ok (), ended) := ticked.trans after
    rw [named]
    exact enter_ticked built done
  have now : ended.sim.now = last.now := by
    cases ends <;> simp [Dram.handed]
  have cycles : ended.dram.cycles = dram.cycles +
      dram.burst (config.sim.fireNext event) := by
    cases ends <;> rfl
  obtain ⟨rest, step⟩ := fires
  have shows := Config.fire_shows config event rest
  rw [entered] at shows
  rw [step]
  refine ⟨shows.now.trans (now.trans jumped.now), ended.dram, ?_, cycles⟩
  rw [shows.world]
  exact put_self _ _ _

/-- Whenever `_tick` runs, the cycles that it runs are safe, and `_max_tick_burst` is the
largest number of cycles that is. So a `run` from the top level whose callbacks do not
step the simulator does not go past its horizon, and without another bound it leaves no
event at or before the horizon. -/
theorem burst_safe {config : Config (dramSystem η setups .coalesced)}
    (reached : Transition.Reach Config.advance (fun _ _ => True)
      (Config.init (create setups)) config) :
    (∀ decision event label dram, config.Fires decision event →
      event.callback = .dram label .tick → config.world.drams label = some dram →
        let sim := config.sim.fireNext event
        let period := dram.clk.periodPs
        let bound := Dram.burstBound period sim.now (sim.liveEvents.head?.map Event.time)
          sim.runUntil
        let count : Int := dram.burst sim
        (1 ≤ count ∧ count ≤ bound ∧ Dram.Safe sim period count) ∧
          ((config.advance decision).sim.now = sim.now + (count - 1) * period ∧
            ∃ ended, (config.advance decision).world.drams label = some ended ∧
              ended.cycles = dram.cycles + count) ∧
          ∀ cycles, 1 ≤ cycles → cycles ≤ 1000000 →
            (Dram.Safe sim period cycles ↔ cycles ≤ bound)) ∧
    ∀ until_ maxEvents after, config.stack = [] → config.sim.now ≤ until_ →
      Transition.Reach Config.advance
          (fun config decision => config.stack ≠ [] ∧ config.Unstepped decision)
          (config.advance (.run (some until_) maxEvents)) after →
        after.sim.now ≤ until_ ∧
          ∀ count, after.stack = [] → after.log.getLast? = some (.ran count) →
            maxEvents = none → ∀ event ∈ after.sim.liveEvents, until_ < event.time := by
  obtain ⟨coherent, standing, -⟩ := tracking_keeps.reach
    (fun _ _ impossible => by cases impossible) reached
  constructor
  · intro decision event label dram fires named built sim period bound count
    have fired : sim.WellFormed := coherent.wellFormed.fireNext fires.next
    have small : bound ≤ 1000000 := (Dram.burstBound_spec _ _ _ dram.clk.positive).2.1
    have one : 1 ≤ count := Int.ofNat_le.mpr (dram.burst_spec sim).positive
    have most : count ≤ bound := dram.burst_le sim
    have exactly (cycles : Int) (one : 1 ≤ cycles) (cap : cycles ≤ 1000000) :
        Dram.Safe sim period cycles ↔ cycles ≤ bound :=
      Dram.safe_iff dram.clk.positive fired one cap
    refine ⟨⟨one, most, (exactly count one (most.trans small)).mpr most⟩, ?_, exactly⟩
    exact tick_advances coherent.wellFormed standing fires named built
  · intro until_ maxEvents after top notPast reached
    have runs := Config.RunsWithin.reach (lawful .coalesced) coherent top notPast reached
    refine ⟨runs.now, fun count ended last unbounded => ?_⟩
    cases runs.stage with
    | head start stack => rw [ended] at stack; cases stack
    | within start event code stack => rw [ended] at stack; cases stack
    | ended stack complete => exact complete count last unbounded

def readWithin : List (Decision (dramSystem Unit stoppingSetup .coalesced)) :=
  [.call (.build ()), .call (.request () (.read 64 (some 7) 0))]

/-- The read takes two cycles of ten picoseconds, and a `run` up to fifteen ends after the
first of them. -/
theorem burst_safe_readWithin :
    let config :=
      Transition.run Config.advance (Config.init (create stoppingSetup)) readWithin
    let begun := config.advance (.run (some 15) none)
    let after := (begun.advance .step).advance .step
    (∃ event dram, begun.Fires .step event ∧ begun.world.drams () = some dram ∧
      Dram.Safe (begun.sim.fireNext event) dram.clk.periodPs
        (dram.burst (begun.sim.fireNext event))) ∧
    after.sim.now = 10 ∧ ∀ event ∈ after.sim.liveEvents, 15 < event.time := by
  intro config begun after
  have reached : Transition.Reach Config.advance (fun _ _ => True)
      (Config.init (create stoppingSetup)) config := Transition.reach_run _ _ _
  have built : (begun.world.drams ()).isSome = true := by decide +kernel
  have next : begun.sim.peek.1.any (fun event =>
      decide (event.callback = .dram () .tick)) = true := by decide +kernel
  have once : (Config.firedEvents (begun.advance .step).log).length = 1 ∧
      (Config.firedEvents begun.log).length = 0 := by decide +kernel
  have top : config.stack.isEmpty = true ∧ config.sim.now ≤ 15 := by decide +kernel
  have loops : begun.stack.isEmpty = false ∧ (begun.advance .step).stack.isEmpty = false ∧
      (Config.codes begun.stack).isEmpty = true ∧
        (Config.codes (begun.advance .step).stack).isEmpty = true := by decide +kernel
  have ended : after.stack.isEmpty = true ∧ after.sim.now = 10 ∧
      after.log.getLast?.any (fun entry => match entry with
        | .ran _ => true
        | _ => false) = true := by decide +kernel
  have begins : begun = config.advance (.run (some 15) none) := rfl
  have ends : after = (begun.advance .step).advance .step := rfl
  clear_value after begun config
  constructor
  · obtain ⟨dram, built⟩ := Option.isSome_iff_exists.mp built
    obtain ⟨event, next, same⟩ := (Option.any_eq_true _ _).mp next
    have fires : begun.Fires .step event := by
      rcases Config.advance_cases begun .step with ⟨other, rest, peeked, step⟩ | unfired
      · obtain rfl := Option.some.inj (next.symm.trans peeked)
        exact ⟨rest, step⟩
      · rw [unfired, once.2] at once
        exact absurd once.1 (by decide)
    have running : Transition.Reach Config.advance (fun _ _ => True)
        (Config.init (create stoppingSetup)) begun := begins ▸ .next _ reached trivial
    have safe :=
      (burst_safe running).1 .step event () dram fires (of_decide_eq_true same) built
    exact ⟨event, dram, fires, built, safe.1.2.2⟩
  · obtain ⟨empty, now, returned⟩ := ended
    obtain ⟨entry, last, ran⟩ := (Option.any_eq_true _ _).mp returned
    obtain ⟨count, rfl⟩ : ∃ count, entry = .ran count := by
      cases entry <;> simp at ran ⊢
    have unstepped (config : Config (dramSystem Unit stoppingSetup .coalesced))
        (codeless : (Config.codes config.stack).isEmpty = true) :
          config.Unstepped .step := by
      intro event code rest stack
      simp [stack, Config.codes] at codeless
    have within : Transition.Reach Config.advance
        (fun config decision => config.stack ≠ [] ∧ config.Unstepped decision)
        (config.advance (.run (some 15) none)) after := by
      rw [ends, ← begins]
      refine .next Decision.step (.next Decision.step .refl ⟨?_, unstepped _ loops.2.2.1⟩)
        ⟨?_, unstepped _ loops.2.2.2⟩
      · simpa using loops.1
      · simpa using loops.2.1
    exact ⟨now,
      ((burst_safe reached).2 15 none after (List.isEmpty_iff.mp top.1) top.2 within).2
      count (List.isEmpty_iff.mp empty) last rfl⟩

end DramWorld

end Pyramulator
