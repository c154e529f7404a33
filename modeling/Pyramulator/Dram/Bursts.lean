import Pyramulator.Dram.Standing
import Pyramulator.Dram.Host

namespace Pyramulator

/-! A burst, and as many ticks of one cycle. -/

namespace Dram

variable {κ γ : Type} {engine : Engine (DramCallback γ)}
  {dram : Dram engine} {count : Nat}

theorem quiet_completed
    (quiet : (PyMemorySystem.tick^[count] dram.mem.impl).progressed = false) :
    (PyMemorySystem.tick^[count] dram.mem.impl).completed = [] ∧
      (dram.ran count).pending ≠ 0 := by
  simp only [PyMemorySystem.progressed, Bool.or_eq_false_iff, Bool.not_eq_false',
    List.isEmpty_iff] at quiet
  refine ⟨quiet.1, ?_⟩
  simpa [ran_pending] using quiet.2

theorem ran_impl
    (noneCompleted : (PyMemorySystem.tick^[count] dram.mem.impl).completed = []) :
    (dram.ran count).mem.impl = PyMemorySystem.tick^[count] dram.mem.impl := by
  simp only [ran, ← noneCompleted]

theorem ran_ran
    (noneCompleted : (PyMemorySystem.tick^[count] dram.mem.impl).completed = [])
    (more : Nat) : (dram.ran count).ran more = dram.ran (count + more) := by
  have impl : ({ PyMemorySystem.tick^[count] dram.mem.impl with completed := [] } :
      PyMemorySystem engine) =
        PyMemorySystem.tick^[count] dram.mem.impl := ran_impl noneCompleted
  have both : PyMemorySystem.tick^[more] (PyMemorySystem.tick^[count] dram.mem.impl) =
      PyMemorySystem.tick^[count + more] dram.mem.impl := by
    rw [Nat.add_comm, Function.iterate_add_apply]
  simp only [ran, impl, noneCompleted, both, List.map_nil, List.append_nil, Nat.cast_add,
    Int.add_assoc]

theorem tickOnce_quiet [DecidableEq γ] (closure : DramEvent γ → κ) (sim : Simulator κ)
    (pending : (dram.ran 1).pending ≠ 0) (noneCompleted : (dram.ran 1).completed = []) :
    tickOnce closure (⟨sim, dram⟩ : Device κ engine) =
      (.ok (), ⟨(sim.push (sim.now + dram.clk.periodPs)
        (closure .tick) 0 (some dram.name)).2, dram.ran 1⟩) := by
  have same : (dram.ran 1).handedOver sim.now = dram.ran 1 := by
    simp only [handedOver, noneCompleted, deliveries, List.map_nil, List.append_nil]
    rw [← noneCompleted]
  rw [tickOnce_eq, afterTick_pending closure sim _ pending, same, noneCompleted]
  simp only [handOver, Component.pushCycles, Int.one_mul, ran_toComponent]

end Dram

variable {ℓ γ η : Type} [DecidableEq ℓ] [DecidableEq γ] {setups : ℓ → DramSetup γ}
  {ids : Nat → Nat → Prop} {label : ℓ}

omit [DecidableEq ℓ] [DecidableEq γ] in
theorem isTick {code : DramCode ℓ γ η} (named : code = .dram label .tick) :
    code.isTick = true := by
  rw [named]
  rfl

theorem Frame.Alike.counted {policy policy' : TickPolicy}
    {frame : Frame (dramSystem η setups policy)}
    {other : Frame (dramSystem η setups policy')}
    (alike : Frame.Alike False frame other) : Frame.Alike False frame other.counted := by
  cases alike with
  | callback same code => exact .callback same code
  | step => exact .step
  | run until_ maxEvents prevUntil counted unsliced =>
      exact .run until_ maxEvents prevUntil counted unsliced
  | wait target maxEvents counted => exact .wait target maxEvents fun counting =>
      counting.elim

namespace Config

theorem fire_quiet {config : Config (dramSystem η setups .plain)}
    {event : Event (DramCode ℓ γ η)} (named : event.callback = .dram label .tick)
    {dram : Dram (setups label).engine} (built : config.world.drams label = some dram)
    (pending : (dram.ran 1).pending ≠ 0) (noneCompleted : (dram.ran 1).completed = [])
    {frame : Frame (dramSystem η setups .plain)}
    {rest : List (Frame (dramSystem η setups .plain))}
    {world : DramWorld setups} {time : Int} (goes : frame.Goes world time)
    (ample : .overran ∉ (config.fire event (frame :: rest)).log) :
    config.fire event (frame :: rest) =
      { sim := ((config.sim.fireNext event).push (event.time + dram.clk.periodPs)
          (.dram label .tick) 0 (some dram.name)).2.endFire
        world := config.world.put label (dram.ran 1)
        stack := frame.counted :: rest
        log := config.log ++ [.fired event (config.sim.fireNext event).now] ++
          [.returned event] } := by
  have ticked : TickPolicy.plain.tick (.dram label : DramEvent γ → DramCode ℓ γ η)
      ⟨config.sim.fireNext event, dram⟩ = (.ok (), ⟨((config.sim.fireNext event).push
        (event.time + dram.clk.periodPs) (.dram label .tick) 0 (some dram.name)).2,
          dram.ran 1⟩) :=
    Dram.tickOnce_quiet _ _ pending noneCompleted
  have entered :
      (dramSystem η setups .plain).enter event.callback (config.sim.fireNext event)
      config.world =
        .done ((config.sim.fireNext event).push (event.time + dram.clk.periodPs)
        (.dram label .tick) 0 (some dram.name)).2
          (config.world.put label (dram.ran 1)) := by
    rw [named]
    exact DramWorld.enter_ticked built ticked
  rw [fire, entered] at ample ⊢
  exact returnTo_goes goes ample

/-- The second run is in the middle of a burst: it fires a tick of one cycle, and so many
cycles of the burst are left. -/
structure Midway (ids : Nat → Nat → Prop) (sim : Simulator (DramCode ℓ γ η))
    (world : DramWorld setups) (label : ℓ) (mid : Dram (setups label).engine) (now : Int)
    (left : Nat) (second : Config (dramSystem η setups .plain))
    (event : Event (DramCode ℓ γ η)) : Prop where
  sims : Simulator.Alike ids { sim with now } (second.sim.fireNext event)
  worlds : DramWorld.Alike ids (world.put label mid) second.world
  named : event.callback = .dram label .tick
  empty : mid.completed = []
  quiet : ∀ earlier, 1 ≤ earlier → earlier < left →
    (PyMemorySystem.tick^[earlier] mid.mem.impl).progressed = false
  before : 1 < left → ∀ other ∈ sim.liveEvents,
    now + (left - 1 : Int) * mid.clk.periodPs < other.time
  within : 1 < left → ∀ horizon ∈ sim.runUntil,
    now + (left - 1 : Int) * mid.clk.periodPs ≤ horizon

namespace Midway

variable {sim : Simulator (DramCode ℓ γ η)} {world : DramWorld setups}
  {mid : Dram (setups label).engine} {now : Int} {left : Nat}
  {second : Config (dramSystem η setups .plain)} {event : Event (DramCode ℓ γ η)}
  {frame : Frame (dramSystem η setups .plain)}
    {rest : List (Frame (dramSystem η setups .plain))}

theorem built (midway : Midway ids sim world label mid now left second event) :
    ∃ other, second.world.drams label = some other ∧ Dram.Alike ids mid other := by
  have same := midway.worlds.drams label
  rw [DramWorld.put_self] at same
  generalize second.world.drams label = dram at same
  cases same with
  | some same => exact ⟨_, rfl, same⟩

theorem next (midway : Midway ids sim world label mid now (left + 2) second event)
    (goes : frame.Goes second.world now)
    (horizon : ∀ until_ maxEvents start prevUntil,
      frame = .run until_ maxEvents start prevUntil → sim.runUntil = until_)
    (ample : .overran ∉ (second.fire event (frame :: rest)).log) :
    let after := second.fire event (frame :: rest)
    ∃ tick, after.sim.peek.1 = some tick ∧ after.stack = frame.counted :: rest ∧
      after.sights = second.sights ∧ frame.counted.Goes after.world tick.time ∧
        tick.time = now + mid.clk.periodPs ∧
          Midway ids sim world label (mid.ran 1) (now + mid.clk.periodPs) (left + 1) after
            tick := by
  obtain ⟨other, built, same⟩ := midway.built
  obtain ⟨noneCompleted, pending⟩ :=
    Dram.quiet_completed (midway.quiet 1 (le_refl 1) (by omega))
  have empty : (mid.ran 1).completed = [] := by
    simp only [Dram.ran, midway.empty, noneCompleted, List.map_nil, List.append_nil]
  have period := mid.clk.positive
  have passes : (((left + 2 : Nat) : Int) - 1) * mid.clk.periodPs =
      mid.clk.periodPs + ((left + 1 : Nat) - 1 : Int) * mid.clk.periodPs := by
    push_cast
    ring
  have rest_ : 0 ≤ ((left + 1 : Nat) - 1 : Int) * mid.clk.periodPs :=
    Int.mul_nonneg (by omega) period.le
  have before := midway.before (by omega)
  have within := midway.within (by omega)
  rw [passes] at before within
  obtain ⟨peeked, sims⟩ :=
    midway.sims.passing (show now ≤ now + mid.clk.periodPs by omega)
    (fun event member => by
      have later := before event member
      omega) (.dram label .tick) 0 (some mid.name)
  have now_ : now = event.time := midway.sims.now
  cases same with
  | intro idleEventId submitted idle =>
      have fired := fire_quiet midway.named built pending empty goes ample
      intro after
      obtain ⟨sim_, world_, stack_, log_⟩ : after.sim = ((second.sim.fireNext event).push
            (now + mid.clk.periodPs) (.dram label .tick) 0 (some mid.name)).2.endFire ∧
          after.world = second.world.put label ({ mid with
            idleEventId := idleEventId
            submitted := submitted }.ran 1) ∧
          after.stack = frame.counted :: rest ∧
            after.log = second.log ++ [.fired event (second.sim.fireNext event).now] ++
              [.returned event] := by
        rw [now_]
        simp only [after, fired]
        exact ⟨trivial, trivial, trivial, trivial⟩
      clear_value after
      refine ⟨_, by rw [sim_]; exact peeked, stack_, ?_, ?_, rfl, ?_⟩
      · simp [sights, log_, List.filterMap_append, Entry.sight, midway.named,
          DramCode.isTick]
      · cases frame with
        | callback other code => exact goes.elim
        | step => exact goes.elim
        | run until_ maxEvents start prevUntil =>
            refine ⟨goes.1, fun bound known => ?_⟩
            have later := within bound (horizon _ _ _ _ rfl ▸ known)
            exact le_trans (by simp only [Simulator.pushed]; omega) later
        | wait target processed maxEvents =>
            change DramWorld.waiting target after.world = true
            rw [world_]
            by_cases here : target = label
            · subst here
              have busy : 0 < (mid.ran 1).pending :=
                lt_of_le_of_ne (Int.natCast_nonneg _) pending.symm
              rw [DramWorld.waiting, DramWorld.put_self, Option.any_some]
              exact decide_eq_true busy
            · rw [DramWorld.waiting, DramWorld.put_other _ here]
              exact goes
      · have worlds : DramWorld.Alike ids (world.put label (mid.ran 1)) after.world := by
          have ran : Dram.Alike ids (mid.ran 1) ({ mid with
              idleEventId := idleEventId
              submitted := submitted }.ran 1) :=
            @Dram.Alike.intro _ _ ids (mid.ran 1) idleEventId submitted idle
          have puts := midway.worlds.put ran
          rw [DramWorld.put_put] at puts
          rw [world_]
          exact puts
        exact
          { sims := by
              rw [sim_]
              exact sims
            worlds
            named := rfl
            empty
            quiet := fun earlier positive bound => by
              have later := midway.quiet (earlier + 1) (by omega) (by omega)
              rwa [Function.iterate_succ_apply,
                ← Function.iterate_one PyMemorySystem.tick,
                ← Dram.ran_impl noneCompleted] at later
            before := fun _ other member => by
              have later := before other member
              simp only [Dram.ran_toComponent] at later ⊢
              omega
            within := fun _ horizon known => by
              have later := within horizon known
              simp only [Dram.ran_toComponent] at later ⊢
              omega }

def ticked (label : ℓ) (after : Simulator (DramCode ℓ γ η))
    (total : Dram (setups label).engine) (world : DramWorld setups) :
    Except PyError (Option Unit) × Simulator (DramCode ℓ γ η) × DramWorld setups :=
  let result := Dram.afterTick (.dram label : DramEvent γ → DramCode ℓ γ η) ⟨after, total⟩
  (result.1.map some, result.2.sim, world.put label result.2.dram)

theorem last (midway : Midway ids sim world label mid now 1 second event)
    {after : Simulator (DramCode ℓ γ η)} (jumped : sim.Jumped after now) :
    ∃ later, ids ≤ later ∧
      DramWorld.Leaves later (DramWorld.settled (ticked label after (mid.ran 1) world))
      (DramWorld.enter .plain event.callback (second.sim.fireNext event)
        second.world) := by
  obtain ⟨other, built, same⟩ := midway.built
  cases same with
  | intro idleEventId submitted idle =>
      have devices : Device.Alike ids (⟨after, mid.ran 1⟩ : Device (DramCode ℓ γ η) _)
          ⟨second.sim.fireNext event, { mid with
            idleEventId := idleEventId
            submitted := submitted }.ran 1⟩ :=
        ⟨midway.sims.congr jumped.wellFormed midway.sims.second_wellFormed
          jumped.liveEvents rfl
          jumped.seq.ge (le_refl _) (jumped.now.trans midway.sims.now)
            (jumped.runUntil.trans midway.sims.runUntil),
          @Dram.Alike.intro _ _ ids (mid.ran 1) idleEventId submitted idle⟩
      obtain ⟨later, grows, ⟨sims, drams⟩, agree⟩ :=
        Dram.afterTick_inStep (DramCode.dram label) ids ids (le_refl _) _ _ devices
      have worlds := (midway.worlds.mono grows).put drams
      rw [DramWorld.put_put] at worlds
      have once : TickPolicy.plain.tick (.dram label : DramEvent γ → DramCode ℓ γ η)
          ⟨second.sim.fireNext event, { mid with
            idleEventId := idleEventId
            submitted := submitted }⟩ = _ := Dram.tickOnce_eq _ _ _
      refine ⟨later, grows, ?_⟩
      rw [midway.named, DramWorld.enter_tick, DramWorld.onDram_built built, once]
      exact DramWorld.settled_leaves (congrArg (Except.map some) agree.eq) sims worlds

theorem burst (host : Host ℓ γ η) {first : Config (dramSystem η setups .coalesced)}
    {fired : Event (DramCode ℓ γ η)}
    {stack : List (Frame (dramSystem η setups .coalesced))}
    {after : Simulator (DramCode ℓ γ η)} {total : Dram (setups label).engine} {left : Nat}
    (enough : .overran ∉
      (first.settle fired stack (DramWorld.settled (ticked label after total world))).log)
    (named : fired.callback = .dram label .tick)
    (midway : Midway ids sim world label mid now (left + 1) second event)
    (frames : List.Forall₂ (Frame.Alike False) stack (frame :: rest))
    (goes : frame.Goes second.world now)
    (horizon : ∀ until_ maxEvents start prevUntil,
      frame = .run until_ maxEvents start prevUntil → sim.runUntil = until_)
    (jumped : sim.Jumped after (now + left * mid.clk.periodPs))
    (ran : mid.ran (left + 1) = total) (sights : first.sights = second.sights)
    (ample : ∀ count,
      .overran ∉ (host.step^[count] (second.fire event (frame :: rest))).log) :
    ∃ extra, (first.settle fired stack
      (DramWorld.settled (ticked label after total world))).Matched
        (host.step^[extra] (second.fire event (frame :: rest))) ∧
      ∀ earlier < extra,
        ¬ (host.step^[earlier] (second.fire event (frame :: rest))).InUserCode := by
  induction left generalizing mid now second event frame with
  | zero =>
      subst ran
      rw [Nat.cast_zero, Int.zero_mul, Int.add_zero] at jumped
      obtain ⟨later, grows, leaves⟩ := midway.last jumped
      refine ⟨0, ?_, fun earlier before => absurd before (Nat.not_lt_zero _)⟩
      have same := first.settle_tick (isTick named) (isTick midway.named) stack
        (ticked label after (mid.ran 1) world)
      have enoughOther :
          .overran ∉ (first.settle event stack
            (DramWorld.settled (ticked label after (mid.ran 1) world))).log := by
        rw [← overran_sights, ← same.1, overran_sights]
        exact enough
      have alike : Alike False ids
          { first with sim := { sim with now }, world := world.put label mid, stack }
          { second with
            sim := second.sim.fireNext event
            stack := frame :: rest
            log := second.log ++ [.fired event event.time] } :=
        ⟨midway.sims, midway.worlds, frames, fun counting => counting.elim⟩
      have fires : second.fire event (frame :: rest) = settle
          { second with
            sim := second.sim.fireNext event
            stack := frame :: rest
            log := second.log ++ [.fired event event.time] } event (frame :: rest)
          (DramWorld.enter .plain event.callback (second.sim.fireNext event)
            second.world) :=
        settle_congr rfl _ _ _
      have settles : settle
          { first with sim := { sim with now }, world := world.put label mid, stack }
          event stack (DramWorld.settled (ticked label after (mid.ran 1) world)) =
            first.settle event stack
              (DramWorld.settled (ticked label after (mid.ran 1) world)) :=
        settle_congr rfl _ _ _
      have once := ample 0
      rw [Function.iterate_zero, id_eq, fires] at once ⊢
      have step := settle_inStep alike (.refl event) frames grows leaves
        (fun counting => counting.elim) (.inr ⟨settles ▸ enoughOther, once⟩)
      rw [settles] at step
      refine (step.matched ?_).congr same
      have silent :
          Entry.sight (.fired event event.time : Entry (dramSystem η setups .plain)) =
          none := if_pos (isTick midway.named)
      rw [Config.sights, Config.sights, List.filterMap_append,
        List.filterMap_cons, silent, List.filterMap_nil, List.append_nil]
      exact sights
  | succ left induction =>
      obtain ⟨tick, peeked, loop, same, goesOn, time, following⟩ :=
        midway.next goes horizon (ample 0)
      have again : host.step (second.fire event (frame :: rest)) =
          (second.fire event (frame :: rest)).fire tick (frame.counted :: rest) :=
        advance_goes loop peeked goesOn _
      rw [time] at goesOn
      have completed := (Dram.quiet_completed (midway.quiet 1 (le_refl 1) (by omega))).1
      have ending : now + ((left + 1 : Nat) : Int) * mid.clk.periodPs =
          now + mid.clk.periodPs + left * (mid.ran 1).clk.periodPs := by
        push_cast
        rw [Dram.ran_toComponent]
        ring
      have framesOn : List.Forall₂ (Frame.Alike False) stack (frame.counted :: rest) := by
        cases frames with
        | cons alike below => exact .cons alike.counted below
      have horizonOn (until_ maxEvents : Option Int) (start : Nat)
          (prevUntil : Option Int)
          (loops : frame.counted = .run until_ maxEvents start prevUntil) :
          sim.runUntil = until_ := by
        cases frame with
        | run => exact horizon _ _ _ _ loops
        | _ => cases loops
      have ranOn : (mid.ran 1).ran (left + 1) = total := by
        rw [Dram.ran_ran completed, Nat.add_comm, ran]
      obtain ⟨extra, matched, busy⟩ := induction following framesOn goesOn horizonOn
        (ending ▸ jumped) ranOn (sights.trans same.symm) fun count => by
          rw [← again, ← Function.iterate_succ_apply]
          exact ample (count + 1)
      rw [← again, ← Function.iterate_succ_apply] at matched
      refine ⟨extra + 1, matched, fun earlier before => ?_⟩
      cases earlier with
      | zero =>
          exact not_inUserCode loop goesOn
      | succ earlier =>
          rw [Function.iterate_succ_apply, again]
          exact busy earlier (by omega)

end Midway

end Config

end Pyramulator
