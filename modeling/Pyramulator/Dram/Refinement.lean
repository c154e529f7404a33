import Pyramulator.Dram.NeverAhead
import Pyramulator.Dram.Bursts

namespace Pyramulator

/-! Components whose ticks are coalesced do the same as components that tick one cycle at
a time, for every program that does not count the events. -/

variable {ℓ γ η : Type} [DecidableEq ℓ] [DecidableEq γ] {setups : ℓ → DramSetup γ}
  {ids : Nat → Nat → Prop}

theorem Frame.Alike.goes {frame : Frame (dramSystem η setups .coalesced)}
    {other : Frame (dramSystem η setups .plain)} (alike : Frame.Alike False frame other)
    {world changed : DramWorld setups} (worlds : DramWorld.Alike ids world changed)
    {time : Int} (goes : frame.Goes world time) : other.Goes changed time := by
  cases alike with
  | callback same code => exact goes.elim
  | step => exact goes.elim
  | run until_ maxEvents prevUntil counted unsliced => exact goes
  | wait target maxEvents counted => exact (worlds.waiting target).trans goes

namespace Config

def Handed (config : Config (dramSystem η setups .coalesced))
    (decision : Decision (dramSystem η setups .coalesced)) : Prop :=
  ∀ event label dram, config.Fires decision event → event.callback = .dram label .tick →
    config.world.drams label = some dram → dram.completed = []

variable {first : Config (dramSystem η setups .coalesced)}
  {second : Config (dramSystem η setups .plain)} {label : ℓ}
  {dram : Dram (setups label).engine} {event match_ : Event (DramCode ℓ γ η)}

theorem Midway.start (alike : Alike False ids first second)
    (next : first.sim.peek.1 = some event)
    (nextOther : second.sim.peek.1 = some match_)
    (named : event.callback = .dram label .tick)
    (built : first.world.drams label = some dram) (empty : dram.completed = []) :
    Midway ids (first.sim.fireNext event) first.world label dram event.time
      (dram.burst (first.sim.fireNext event)) second match_ := by
  obtain ⟨same, sims⟩ := alike.sim.fireNext next nextOther
  have spec := dram.burst_spec (first.sim.fireNext event)
  exact
    { sims
      worlds := by
        rw [DramWorld.put_same built]
        exact alike.world
      named := same.callback ▸ named
      empty
      quiet := spec.quiet
      before := fun more other member => by
        obtain ⟨head, first_⟩ := Option.isSome_iff_exists.mp
          (List.isSome_head?.mpr (List.ne_nil_of_mem member))
        rcases spec.before head first_ with single | ⟨-, before⟩
        · omega
        · exact before.trans_le (sims.first_wellFormed.first_le first_ member)
      within := fun more horizon known => by
        rcases spec.within horizon known with single | within
        · omega
        · exact within }

theorem tick_matched (host : Host ℓ γ η) (wellFormed : first.sim.WellFormed)
    (horizon : first.sim.runUntil = innermostUntil first.stack)
    {decision : Decision (dramSystem η setups .coalesced)}
    (matched : first.Matched second)
    (fires : first.Fires decision event) (unstepped : decision ≠ .step)
    (named : event.callback = .dram label .tick)
    (built : first.world.drams label = some dram)
    (empty : dram.completed = []) (enough : .overran ∉ (first.advance decision).log)
    (ample : ∀ count, .overran ∉ (host.step^[count] second).log) :
    ∃ steps, 0 < steps ∧ (first.advance decision).Matched (host.step^[steps] second) ∧
      ∀ earlier, 0 < earlier → earlier < steps →
        ¬ (host.step^[earlier] second).InUserCode := by
  obtain ⟨sights, ids, alike⟩ := matched
  have next := fires.next
  obtain ⟨match_, nextOther, same⟩ : ∃ match_, second.sim.peek.1 = some match_ ∧
      Event.Alike ids event match_ := by
    have both := alike.sim.peek_fst
    rw [next] at both
    generalize second.sim.peek.1 = other at both
    cases both with
    | some same => exact ⟨_, rfl, same⟩
  obtain ⟨frame, rest, stack, goes⟩ := fires.goes unstepped (by
    intro until_ maxEvents start prevUntil rest shape
    have frames := alike.stack
    rw [shape] at frames
    obtain ⟨other, others, loops, -, -⟩ := List.forall₂_cons_left_iff.mp frames
    cases loops with
    | run until_ maxEvents prevUntil counted unsliced =>
        exact unsliced.elim False.elim id)
  have frames := alike.stack
  rw [stack] at frames
  obtain ⟨other, others, loops, below, stackOther⟩ := List.forall₂_cons_left_iff.mp frames
  have goesOther := loops.goes alike.world goes
  have step := advance_goes stack next goes decision
  have stepOther : host.step second = second.fire match_ (other :: others) :=
    advance_goes stackOther nextOther (same.time ▸ goesOther) _
  obtain ⟨after, jumped, ticked⟩ :=
    Dram.tick_eq (.dram label : DramEvent γ → DramCode ℓ γ η)
    (first.sim.fireNext event) dram (wellFormed.fireNext next)
  have midway := Midway.start alike next nextOther named built empty
  have positive := (dram.burst_spec (first.sim.fireNext event)).positive
  generalize dram.burst (first.sim.fireNext event) =
    count at midway positive jumped ticked
  obtain ⟨left, rfl⟩ : ∃ left, count = left + 1 := ⟨count - 1, by omega⟩
  have entered :
      (dramSystem η setups .coalesced).enter event.callback (first.sim.fireNext event)
      first.world = DramWorld.settled (Midway.ticked label after (dram.ran (left + 1))
        first.world) := by
    have coalesced :
        TickPolicy.coalesced.tick (.dram label : DramEvent γ → DramCode ℓ γ η)
        ⟨first.sim.fireNext event, dram⟩ = _ := ticked
    rw [named]
    exact (DramWorld.enter_tick .coalesced label).trans
      (by rw [DramWorld.onDram_built built, coalesced]; rfl)
  have fired : first.advance decision =
      ({ first with sim := first.sim.fireNext event }.record
        (.fired event (first.sim.fireNext event).now)).settle event (frame :: rest)
          (DramWorld.settled
            (Midway.ticked label after (dram.ran (left + 1)) first.world)) := by
    rw [step, fire, entered]
  rw [fired] at enough ⊢
  have horizonOther (until_ maxEvents : Option Int) (start : Nat) (prevUntil : Option Int)
      (shape : other = .run until_ maxEvents start prevUntil) :
        first.sim.runUntil = until_ := by
    subst shape
    cases loops with
    | run until_ maxEvents prevUntil counted unsliced =>
        rw [horizon, stack]
        rfl
  have ending : (first.sim.fireNext event).now + (((left + 1 : Nat) : Int) - 1) *
      dram.clk.periodPs =
      event.time + left * dram.clk.periodPs := by
    rw [Nat.cast_succ, Int.add_sub_cancel]
    rfl
  have silent : Entry.sight (.fired event (first.sim.fireNext event).now :
      Entry (dramSystem η setups .coalesced)) = none := if_pos (isTick named)
  have shown : ({ first with sim := first.sim.fireNext event }.record
      (.fired event (first.sim.fireNext event).now)).sights = second.sights := by
    rw [Config.sights, record, List.filterMap_append, List.filterMap_cons, silent,
      List.filterMap_nil, List.append_nil]
    exact sights
  obtain ⟨extra, reaches, busy⟩ :=
    midway.burst host enough named (.cons loops below) goesOther
    horizonOther (ending ▸ jumped) rfl shown fun count => by
      rw [← stepOther, ← Function.iterate_succ_apply]
      exact ample (count + 1)
  rw [← stepOther, ← Function.iterate_succ_apply] at reaches
  refine ⟨extra + 1, Nat.succ_pos extra, reaches, fun earlier positive before => ?_⟩
  obtain ⟨earlier, rfl⟩ : ∃ before, earlier = before + 1 := ⟨earlier - 1, by omega⟩
  rw [Function.iterate_succ_apply, stepOther]
  exact busy earlier (by omega)

theorem step_matched (host : Host ℓ γ η)
    (reached : Transition.Reach advance (fun _ _ => True)
      (init (DramWorld.create setups)) first)
    (matched : first.Matched second)
    (handed : first.Handed ((host first.sights).decision .coalesced))
    (enough : .overran ∉ (host.step first).log)
    (ample : ∀ count, .overran ∉ (host.step^[count] second).log) :
    ∃ steps, 0 < steps ∧ (host.step first).Matched (host.step^[steps] second) ∧
      ∀ earlier, 0 < earlier → earlier < steps →
        ¬ (host.step^[earlier] second).InUserCode := by
  by_cases ticks :
    ∃ event label, first.Fires ((host first.sights).decision .coalesced) event ∧
      event.callback = .dram label .tick
  · obtain ⟨event, label, fires, named⟩ := ticks
    obtain ⟨coherent, standing, -⟩ := DramWorld.tracking_keeps.reach
      (fun _ _ impossible => by cases impossible) reached
    have member : event ∈ first.sim.liveEvents :=
      (coherent.wellFormed.next_least fires.next).1
    rcases built : first.world.drams label with _ | dram
    · exact absurd ⟨.tick, named⟩ (standing.unbuilt label built event member)
    · exact tick_matched host coherent.wellFormed coherent.horizon matched fires
        (HostAct.unstepped _) named built (handed event label dram fires named built)
          enough ample
  · obtain ⟨sights, ids, alike⟩ := matched
    have others : SameTicks .plain first
        (first.advance ((host first.sights).decision .coalesced)) :=
      .inr fun event rest fired label named => ticks ⟨event, label, ⟨rest, fired⟩, named⟩
    have once := ample 1
    have acts : ((host first.sights).decision .coalesced :
        Decision (dramSystem η setups .coalesced)).under .plain =
          (host second.sights).decision .plain := by
      rw [HostAct.under_decision, sights]
    rw [Function.iterate_one, Host.step, ← acts] at once
    have step :=
      advance_inStep alike _ (.inr (HostAct.unsliced _)) others (.inr ⟨enough, once⟩)
    refine ⟨1, Nat.one_pos, ?_, fun earlier positive before => by omega⟩
    rw [Function.iterate_one, Host.step, Host.step, ← acts]
    exact step.matched sights

end Config

namespace Host

variable (host : Host ℓ γ η) (setups : ℓ → DramSetup γ)

/-- The deques are empty at each tick if no call raises behind a read that an idle
component accepted, and the engines answer the reads that they accept. -/
theorem handed_of_careful (tally : ∀ label, (setups label).engine.Tally)
    (careful : ∀ steps, DramWorld.Careful (host.play setups .coalesced steps)
      ((host (host.play setups .coalesced steps).sights).decision .coalesced))
        (steps : Nat) :
    (host.play setups .coalesced steps).Handed
      ((host (host.play setups .coalesced steps).sights).decision .coalesced) := by
  have reached : Transition.Reach Config.advance DramWorld.Careful
      (Config.init (DramWorld.create setups)) (host.play setups .coalesced steps) := by
    induction steps with
    | zero => exact .refl
    | succ steps induction =>
        rw [play, Function.iterate_succ_apply']
        exact .next _ induction (careful steps)
  have keeps : DramWorld.Keeps True .coalesced DramWorld.Careful
      (DramWorld.Each η fun label (dram : Dram (setups label).engine) =>
        dram.Calm (tally label).toLedger) :=
    DramWorld.calm_keeps tally (fun _ _ _ _ _ => trivial) fun _ _ permitted => permitted
  obtain ⟨-, -, calm⟩ := keeps.reach (fun _ _ impossible => by cases impossible) reached
  intro event label dram _ _ built
  exact (calm label dram built).completed

/-- As long as no component ticks with a completion in its deque, and no barrier runs out
of its events, every state of the run with coalesced ticks has a counterpart in the run
whose ticks run one cycle, and every state of that run in which the program has control
has one in the run with coalesced ticks. -/
theorem coalescing_refines
    (handed : ∀ steps, (host.play setups .coalesced steps).Handed
      ((host (host.play setups .coalesced steps).sights).decision .coalesced))
    (enough : ∀ steps, .overran ∉ (host.play setups .coalesced steps).sights)
    (ample : ∀ steps, .overran ∉ (host.play setups .plain steps).sights) :
    (∀ steps, ∃ more, steps ≤ more ∧
      (host.play setups .coalesced steps).Matched (host.play setups .plain more)) ∧
    ∀ steps, ∃ matched later, steps ≤ later ∧
      (host.play setups .coalesced matched).Matched (host.play setups .plain later) ∧
        ((host.play setups .plain steps).InUserCode → later = steps) := by
  let Related (first : Config (dramSystem η setups .coalesced))
      (second : Config (dramSystem η setups .plain)) : Prop :=
    first.Matched second ∧ (∃ steps, first = host.play setups .coalesced steps) ∧
      ∃ steps, second = host.play setups .plain steps
  have covers : Transition.CoversSilently (step host) (step host) Related
      fun config => ¬ config.InUserCode := by
    rintro first second ⟨matched, ⟨steps, rfl⟩, more, rfl⟩
    have later (count : Nat) : host.step^[count] (host.play setups .plain more) =
        host.play setups .plain (count + more) :=
          (Function.iterate_add_apply _ _ _ _).symm
    have next : host.step (host.play setups .coalesced steps) =
        host.play setups .coalesced (steps + 1) :=
          (Function.iterate_succ_apply' _ _ _).symm
    have reached : Transition.Reach Config.advance (fun _ _ => True)
        (Config.init (DramWorld.create setups)) (host.play setups .coalesced steps) :=
      host.play_reach steps
    obtain ⟨count, positive, reaches, busy⟩ := Config.step_matched host reached matched
      (handed steps)
      (by rw [next, ← Config.overran_sights]; exact enough _)
      (fun count => by rw [later, ← Config.overran_sights]; exact ample _)
    exact ⟨count, positive, ⟨reaches, ⟨steps + 1, next⟩, count + more, later count⟩, busy⟩
  have start : Related (Config.init (DramWorld.create setups))
      (Config.init (DramWorld.create setups)) := ⟨.init, ⟨0, rfl⟩, 0, rfl⟩
  constructor
  · intro steps
    obtain ⟨more, bound, reaches⟩ := covers.covers.forward start steps
    exact ⟨more, bound, reaches.1⟩
  · intro steps
    obtain ⟨matched, later, bound, reaches, shows⟩ := covers.backward start steps
    exact ⟨matched, later, bound, reaches.1, fun control => shows (not_not.mpr control)⟩

end Host

open DramWorld (idleSetup)

def oneReadProgram : Host Unit Nat Unit :=
  .scripted [.call (.build ()), .call (.request () (.read 64 (some 7) 0)), .run (some 5),
    .run (some 90)]

theorem coalescing_refines_oneRead :
    (∀ steps, ∃ more, steps ≤ more ∧
      (oneReadProgram.play (idleSetup 4) .coalesced steps).Matched
        (oneReadProgram.play (idleSetup 4) .plain more)) ∧
    ∀ steps, ∃ matched later, steps ≤ later ∧
      (oneReadProgram.play (idleSetup 4) .coalesced matched).Matched
        (oneReadProgram.play (idleSetup 4) .plain later) ∧
        ((oneReadProgram.play (idleSetup 4) .plain steps).InUserCode →
          later = steps) := by
  have fine (policy : TickPolicy) : ((List.range 16).all fun steps =>
      let config := oneReadProgram.play (idleSetup 4) policy steps
      (config.sights.all fun | .overran => false | _ => true) &&
        (config.world.drams ()).all fun dram => dram.completed.isEmpty) = true := by
    cases policy <;> decide +kernel
  have ended (policy : TickPolicy) :
      oneReadProgram.ended (oneReadProgram.play (idleSetup 4) policy 15) = true := by
    cases policy <;> decide +kernel
  have each (policy : TickPolicy) (steps : Nat) :
      .overran ∉ (oneReadProgram.play (idleSetup 4) policy steps).sights ∧
        ∀ dram ∈ (oneReadProgram.play (idleSetup 4) policy steps).world.drams (),
          dram.completed = [] := by
    have early (steps : Nat) (before : steps < 16) :
        .overran ∉ (oneReadProgram.play (idleSetup 4) policy steps).sights ∧
          ∀ dram ∈ (oneReadProgram.play (idleSetup 4) policy steps).world.drams (),
            dram.completed = [] := by
      have here := List.all_eq_true.mp (fine policy) steps (List.mem_range.mpr before)
      obtain ⟨sights, drams⟩ := (Bool.and_eq_true _ _).mp here
      exact ⟨fun overran => absurd (List.all_eq_true.mp sights _ overran) (by decide),
        fun dram built =>
          List.isEmpty_iff.mp ((Option.all_eq_true _ _).mp drams dram built)⟩
    rcases Nat.lt_or_ge steps 16 with before | after
    · exact early steps before
    · rw [Host.play_ended (ended policy) (by omega : 15 ≤ steps)]
      exact early 15 (by omega)
  exact Host.coalescing_refines oneReadProgram (idleSetup 4)
    (fun steps event label dram _ _ built => (each .coalesced steps).2 dram built)
    (fun steps => (each .coalesced steps).1) fun steps => (each .plain steps).1

/-- A batch that raises behind an accepted read, which an idle tick then answers, and
another read. -/
def strayProgram : Host Unit Nat Unit :=
  .scripted [.call (.build ()), .call (.request () (.reads [0, 2 ^ 63] (some 7) 0)),
    .run (some 40), .call (.request () (.read 64 (some 8) 0)), .run (some 90)]

def completions (sights : List (Sight Unit Nat Unit)) : List (Nat × Int) :=
  sights.filterMap fun
    | .fired _ _ (.dram _ (.completion callback _)) now => some (callback, now)
    | _ => none

/-- The burst keeps the completion of the first read back: it comes at 60 picoseconds, and
at 50 if every tick runs one cycle. -/
theorem strayProgram_diverges :
    completions (strayProgram.play (idleSetup 4) .coalesced 13).sights =
      [(7, 60), (8, 60)] ∧
    completions (strayProgram.play (idleSetup 4) .plain 14).sights = [(7, 50), (8, 60)] ∧
      ∀ more, ¬ (strayProgram.play (idleSetup 4) .coalesced 13).Matched
        (strayProgram.play (idleSetup 4) .plain more) := by
  have coalesced : completions (strayProgram.play (idleSetup 4) .coalesced 13).sights =
      [(7, 60), (8, 60)] := by decide +kernel
  have plain : ((List.range 15).all fun more => decide
      (completions (strayProgram.play (idleSetup 4) .plain more).sights ≠
        [(7, 60), (8, 60)])) =
        true := by decide +kernel
  have ended : strayProgram.ended (strayProgram.play (idleSetup 4) .plain 14) = true := by
    decide +kernel
  refine ⟨coalesced, by decide +kernel, fun more matched => ?_⟩
  have shown := congrArg completions matched.1
  rw [coalesced] at shown
  have early (more : Nat) (before : more < 15) :
      completions (strayProgram.play (idleSetup 4) .plain more).sights ≠
        [(7, 60), (8, 60)] :=
    of_decide_eq_true (List.all_eq_true.mp plain more (List.mem_range.mpr before))
  rcases Nat.lt_or_ge more 15 with before | after
  · exact early more before shown.symm
  · rw [Host.play_ended ended (by omega : 14 ≤ more)] at shown
    exact early 14 (by omega) shown.symm

end Pyramulator
