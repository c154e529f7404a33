import Pyramulator.Sim.Coherence

namespace Pyramulator

/-! One induction over the runs of the machine, for all invariants. A property
speaks of the kernel, the components, the code positions on the stack and the
events fired so far; it is an invariant when the component code keeps it. -/

abbrev System.Property (S : System) :=
  Simulator S.Callback → S.World → List S.Callback → List (Event S.Callback) →
    Prop

def Outcome.Leaves {S : System} (P : S.Property) (codes : List S.Callback)
    (fired : List (Event S.Callback)) :
    Outcome S.Callback S.World → Prop
  | .done sim world => P sim world codes fired
  | .user code sim world => P sim world (code :: codes) fired
  | .raised _ sim world => P sim world codes fired

theorem Outcome.Leaves.and {S : System} {P : S.Property}
    {codes : List S.Callback} {fired : List (Event S.Callback)}
    {outcome : Outcome S.Callback S.World} (leaves : outcome.Leaves P codes fired)
    {Q : S.World → Prop} (holds : Q outcome.world) :
    outcome.Leaves (fun sim world codes fired => P sim world codes fired ∧ Q world)
      codes fired := by
  cases outcome <;> exact ⟨leaves, holds⟩

namespace Config

variable {S : System}

def Holds (P : S.Property) (config : Config S) : Prop :=
  P config.sim config.world (codes config.stack) (firedEvents config.log)

/-- Events fire only beneath code positions that satisfy `firing`. -/
def Orderly (firing : List S.Callback → Prop) : List (Frame S) → Prop
  | [] => True
  | .callback _ _ :: rest => Orderly firing rest
  | _ :: rest => firing (codes rest) ∧ Orderly firing rest

/-- The proof obligations of an invariant of the runs in which user code keeps
to `allowed`. -/
structure Invariant (allowed : Config S → Decision S → Prop)
    (firing : List S.Callback → Prop) (P : S.Property) : Prop where
  /-- The property does not read the bookkeeping of the kernel. -/
  congr : ∀ {sim world codes fired} after, P sim world codes fired →
    after.liveEvents = sim.liveEvents → after.seq = sim.seq →
      after.now = sim.now → P after world codes fired
  exec : ∀ {config : Config S} op, config.Coherent → config.Holds P →
    allowed config (.call op) →
      P (S.exec op config.sim config.world).2.1
        (S.exec op config.sim config.world).2.2 (codes config.stack)
        (firedEvents config.log)
  enter : ∀ {config : Config S} {decision codes event}, config.sim.WellFormed →
    allowed config decision → config.Fires decision event →
      Config.codes config.stack = codes → firing codes →
      P config.sim config.world codes (firedEvents config.log) →
        config.sim.peek.1 = some event →
          (S.enter event.callback (config.sim.fireNext event) config.world).Leaves P
            codes (firedEvents config.log ++ [event])
  resume : ∀ {config : Config S} {code codes} answer, config.sim.WellFormed →
    allowed config (.answer answer) → Config.codes config.stack = code :: codes →
      P config.sim config.world (code :: codes) (firedEvents config.log) →
        (S.resume code answer config.sim config.world).Leaves P codes
          (firedEvents config.log)
  raise : ∀ {config : Config S} {code codes} error,
    allowed config (.raise error) → Config.codes config.stack = code :: codes →
      P config.sim config.world (code :: codes) (firedEvents config.log) →
        P config.sim config.world codes (firedEvents config.log)
  step : ∀ {config : Config S}, allowed config .step →
    firing (codes config.stack)
  run : ∀ {config : Config S} {until_ maxEvents},
    allowed config (.run until_ maxEvents) → firing (codes config.stack)
  wait : ∀ {config : Config S} {target maxEvents},
    allowed config (.wait target maxEvents) → firing (codes config.stack)

namespace Invariant

theorem codes_unwind (rest : List (Frame S)) (runUntil : Option Int) :
    codes (unwind rest runUntil).1 = codes rest := by
  induction rest generalizing runUntil with
  | nil => rfl
  | cons frame rest induction =>
      cases frame with
      | callback event code => rfl
      | step => exact induction _
      | run until_ maxEvents start prevUntil => exact induction _
      | wait target processed maxEvents => exact induction _

theorem orderly_unwind {firing : List S.Callback → Prop}
    {rest : List (Frame S)} (orderly : Orderly firing rest)
    (runUntil : Option Int) : Orderly firing (unwind rest runUntil).1 := by
  induction rest generalizing runUntil with
  | nil => exact orderly
  | cons frame rest induction =>
      cases frame with
      | callback event code => exact orderly
      | step => exact induction orderly.2 _
      | run until_ maxEvents start prevUntil => exact induction orderly.2 _
      | wait target processed maxEvents => exact induction orderly.2 _

variable {allowed : Config S → Decision S → Prop}
  {firing : List S.Callback → Prop} {P : S.Property} (config : Config S)
  {rest : List (Frame S)}

abbrev Kept (firing : List S.Callback → Prop) (P : S.Property)
    (config : Config S) : Prop :=
  config.Holds P ∧ Orderly firing config.stack

theorem propagate (rule : Invariant allowed firing P) (error : PyError)
    (holds : P config.sim config.world (codes rest) (firedEvents config.log))
    (orderly : Orderly firing rest) :
    Kept firing P (config.propagate rest error) := by
  refine ⟨?_, orderly_unwind orderly _⟩
  have unwound := rule.congr (config.propagate rest error).sim holds rfl rfl rfl
  change P (config.propagate rest error).sim config.world
    (codes (unwind rest config.sim.runUntil).1)
    (firedEvents (config.log ++ [.raised error]))
  rw [codes_unwind, firedEvents_append]
  simpa [firedEvents] using unwound

theorem returnTo (rule : Invariant allowed firing P) (event : Event S.Callback)
    (holds : P config.sim config.world (codes rest) (firedEvents config.log))
    (orderly : Orderly firing rest) :
    Kept firing P (config.returnTo event rest) := by
  have ended : P config.sim.endFire config.world (codes rest)
      (firedEvents (config.log ++ [.returned event])) := by
    simpa [firedEvents] using rule.congr config.sim.endFire holds rfl rfl rfl
  cases rest with
  | nil => exact ⟨ended, orderly⟩
  | cons frame rest =>
      cases frame with
      | callback other code => exact ⟨ended, orderly⟩
      | step =>
          refine ⟨?_, orderly.2⟩
          simpa [Holds, Config.returnTo, record, firedEvents, codes] using ended
      | run until_ maxEvents start prevUntil => exact ⟨ended, orderly⟩
      | wait target processed maxEvents =>
          simp only [Config.returnTo, record]
          split
          · exact rule.propagate
              { config with
                sim := config.sim.endFire
                log := config.log ++ [.returned event] ++ [.overran] } _
              (by simpa [firedEvents, codes] using ended) orderly.2
          · exact ⟨ended, orderly⟩

theorem settle (rule : Invariant allowed firing P) (event : Event S.Callback)
    {outcome : Outcome S.Callback S.World}
    (leaves : outcome.Leaves P (codes rest) (firedEvents config.log))
    (orderly : Orderly firing rest) :
    Kept firing P (config.settle event rest outcome) := by
  cases outcome with
  | done sim world =>
      exact rule.returnTo { config with sim, world } event leaves orderly
  | user code sim world => exact ⟨leaves, orderly⟩
  | raised error sim world =>
      exact rule.propagate { config with sim, world } error leaves orderly

theorem fire (rule : Invariant allowed firing P) (rest : List (Frame S))
    {event : Event S.Callback} {decision : Decision S}
    (permitted : allowed config decision)
    (step : config.advance decision = config.fire event rest)
    (next : config.sim.peek.1 = some event)
    (position : codes config.stack = codes rest) (wellFormed : config.sim.WellFormed)
    (holds : P config.sim config.world (codes rest) (firedEvents config.log))
    (fires : firing (codes rest)) (orderly : Orderly firing rest) :
    Kept firing P (config.fire event rest) := by
  refine rule.settle
    { config with
      sim := config.sim.fireNext event
      log := config.log ++ [.fired event event.time] } event ?_ orderly
  have leaves := rule.enter wellFormed permitted ⟨rest, step⟩ position fires holds next
  simpa [record, firedEvents] using leaves

theorem runLoop (rule : Invariant allowed firing P)
    {until_ maxEvents : Option Int} {start : Nat} {prevUntil : Option Int}
    {decision : Decision S} (permitted : allowed config decision)
    (round : config.advance decision =
      config.runLoop until_ maxEvents start prevUntil rest)
    (position : codes config.stack = codes rest) (wellFormed : config.sim.WellFormed)
    (holds : P config.sim config.world (codes rest) (firedEvents config.log))
    (fires : firing (codes rest)) (orderly : Orderly firing rest) :
    Kept firing P (config.runLoop until_ maxEvents start prevUntil rest) := by
  have finish (sim : Simulator S.Callback) (count : Nat)
      (live : sim.liveEvents = config.sim.liveEvents)
      (seq : sim.seq = config.sim.seq) (now : sim.now = config.sim.now) :
      P { sim with runUntil := prevUntil } config.world (codes rest)
        (firedEvents (config.log ++ [.ran count])) := by
    simpa [firedEvents] using
      rule.congr { sim with runUntil := prevUntil } holds live seq now
  simp only [Config.runLoop] at round ⊢
  split
  · exact ⟨finish config.sim _ rfl rfl rfl, orderly⟩
  · rename_i more
    rw [if_neg more] at round
    split
    · rename_i sim peeked
      have same : sim = config.sim.peek.2 := by rw [peeked]
      subst same
      exact ⟨finish config.sim.peek.2 _ (Simulator.peek_liveEvents _) rfl rfl,
        orderly⟩
    · rename_i event sim peeked
      rw [peeked] at round
      split
      · have same : sim = config.sim.peek.2 := by rw [peeked]
        subst same
        exact ⟨finish config.sim.peek.2 _ (Simulator.peek_liveEvents _) rfl rfl,
          orderly⟩
      · rename_i early
        exact rule.fire config (.run until_ maxEvents start prevUntil :: rest)
          permitted (round.trans (if_neg early))
            (by rw [peeked]) position wellFormed holds
          fires ⟨fires, orderly⟩

theorem waitLoop (rule : Invariant allowed firing P) {target : S.Wait}
    {processed maxEvents : Int} {decision : Decision S}
    (permitted : allowed config decision)
    (round : config.advance decision =
      config.waitLoop target processed maxEvents rest)
    (position : codes config.stack = codes rest) (wellFormed : config.sim.WellFormed)
    (holds : P config.sim config.world (codes rest) (firedEvents config.log))
    (fires : firing (codes rest)) (orderly : Orderly firing rest) :
    Kept firing P (config.waitLoop target processed maxEvents rest) := by
  simp only [Config.waitLoop] at round ⊢
  split
  · rename_i more
    rw [if_pos more] at round
    split
    · rename_i sim peeked
      have same : sim = config.sim.peek.2 := by rw [peeked]
      subst same
      refine rule.propagate { config with sim := config.sim.peek.2 } _ ?_ orderly
      exact rule.congr _ holds (Simulator.peek_liveEvents _) rfl rfl
    · rename_i event sim peeked
      rw [peeked] at round
      exact rule.fire config (.wait target processed maxEvents :: rest) permitted
        round (by rw [peeked]) position wellFormed holds fires ⟨fires, orderly⟩
  · refine ⟨?_, orderly⟩
    simpa [Holds, record, firedEvents] using holds

theorem act (rule : Invariant allowed firing P) (coherent : config.Coherent)
    (kept : Kept firing P config) (decision : Decision S)
    (permitted : allowed config decision)
    (round : config.advance decision = config.act decision) :
    Kept firing P (config.act decision) := by
  obtain ⟨holds, orderly⟩ := kept
  cases decision with
  | call op =>
      refine ⟨?_, orderly⟩
      have executed := rule.exec op coherent holds permitted
      simpa [Holds, Config.act, record, firedEvents] using executed
  | step =>
      simp only [Config.act] at round ⊢
      split
      · rename_i sim peeked
        have same : sim = config.sim.peek.2 := by rw [peeked]
        subst same
        refine ⟨?_, orderly⟩
        have peekedHolds := rule.congr config.sim.peek.2 holds
          (Simulator.peek_liveEvents _) rfl rfl
        simpa [Holds, record, firedEvents] using peekedHolds
      · rename_i event sim peeked
        rw [peeked] at round
        exact rule.fire config (.step :: config.stack) permitted round
          (by rw [peeked]) rfl coherent.wellFormed holds (rule.step permitted)
          ⟨rule.step permitted, orderly⟩
  | run until_ maxEvents =>
      exact ⟨rule.congr _ holds rfl rfl rfl, rule.run permitted, orderly⟩
  | wait target maxEvents =>
      exact ⟨rule.congr _ holds rfl rfl rfl, rule.wait permitted, orderly⟩
  | answer value =>
      simp only [Config.act]
      split
      · rename_i event code rest shape
        have position : codes config.stack = code :: codes rest := by
          rw [shape]; rfl
        have leaves := rule.resume value coherent.wellFormed permitted position
          (by rw [← position]; exact holds)
        rw [shape] at orderly
        exact rule.settle config event leaves orderly
      · exact ⟨holds, orderly⟩
  | raise error =>
      simp only [Config.act]
      split
      · rename_i event code rest shape
        have position : codes config.stack = code :: codes rest := by
          rw [shape]; rfl
        have raised := rule.raise error permitted position
          (by rw [← position]; exact holds)
        rw [shape] at orderly
        exact rule.propagate config error raised orderly
      · exact ⟨holds, orderly⟩

theorem advance (rule : Invariant allowed firing P) (coherent : config.Coherent)
    (kept : Kept firing P config) (decision : Decision S)
    (permitted : allowed config decision) :
    Kept firing P (config.advance decision) := by
  have holds := kept.1
  have orderly := kept.2
  generalize after : config.advance decision = next
  have round := after
  unfold Config.advance at round
  subst after
  split at round
  · rename_i until_ maxEvents start prevUntil rest shape
    rw [Holds, shape] at holds
    rw [shape] at orderly
    rw [← round]
    exact rule.runLoop config permitted round.symm (by rw [shape]; rfl)
      coherent.wellFormed holds
      orderly.1 orderly.2
  · rename_i target processed maxEvents rest shape
    rw [Holds, shape] at holds
    rw [shape] at orderly
    rw [← round]
    exact rule.waitLoop config permitted round.symm (by rw [shape]; rfl)
      coherent.wellFormed holds
      orderly.1 orderly.2
  · rw [← round]
    exact rule.act config coherent kept decision permitted round.symm

/-- An invariant that holds in one configuration holds in every one that is
reached from it. -/
theorem reach (rule : Invariant allowed firing P) (lawful : S.Lawful)
    {start config : Config S} (coherent : start.Coherent) (kept : Kept firing P start)
    (reached : Transition.Reach Config.advance allowed start config) :
    config.Coherent ∧ Kept firing P config := by
  refine reached.invariant
    (fun config => config.Coherent ∧ Kept firing P config) ⟨coherent, kept⟩ ?_
  intro config decision both permitted
  exact ⟨both.1.advance lawful decision,
    rule.advance config both.1 both.2 decision permitted⟩

end Invariant

/-! ## What a step fires -/

section Fires

variable (config : Config S) (event : Event S.Callback) (rest : List (Frame S))

@[simp] theorem propagate_fired (error : PyError) :
    firedEvents (config.propagate rest error).log = firedEvents config.log := by
  simp [Config.propagate, firedEvents]

theorem returnTo_fired :
    firedEvents (config.returnTo event rest).log = firedEvents config.log := by
  have ended : firedEvents (config.log ++ [.returned event]) =
      firedEvents config.log := by simp [firedEvents]
  cases rest with
  | nil => exact ended
  | cons frame rest =>
      cases frame with
      | callback other code => exact ended
      | step => simp [Config.returnTo, record, firedEvents]
      | run until_ maxEvents start prevUntil => exact ended
      | wait target processed maxEvents =>
          simp only [Config.returnTo, record]
          split
          · rw [propagate_fired, firedEvents_append, ended]
            simp [firedEvents]
          · exact ended

theorem settle_fired (outcome : Outcome S.Callback S.World) :
    firedEvents (config.settle event rest outcome).log = firedEvents config.log := by
  cases outcome with
  | done sim world => exact returnTo_fired _ event rest
  | user code sim world => rfl
  | raised error sim world => exact propagate_fired _ rest error

theorem fire_fired :
    firedEvents (config.fire event rest).log = firedEvents config.log ++ [event] := by
  rw [Config.fire, settle_fired]
  simp [record, firedEvents]

theorem fire_world :
    (config.fire event rest).world =
      (S.enter event.callback (config.sim.fireNext event) config.world).world :=
  settle_world _ _ _ _

/-- A step calls the callback of the next event above all that is on the stack, or it
calls none. -/
theorem advance_position (decision : Decision S) :
    (∃ event rest, config.sim.peek.1 = some event ∧
        config.advance decision = config.fire event rest ∧
          codes rest = codes config.stack) ∨
      firedEvents (config.advance decision).log = firedEvents config.log := by
  unfold Config.advance
  split
  · rename_i shape
    simp only [Config.runLoop]
    split
    · exact .inr (by simp [record, firedEvents])
    · split
      · exact .inr (by simp [record, firedEvents])
      · rename_i event sim peeked
        split
        · exact .inr (by simp [record, firedEvents])
        · exact .inl ⟨event, _, by rw [peeked], rfl, by rw [shape]⟩
  · rename_i shape
    simp only [Config.waitLoop]
    split
    · split
      · exact .inr (propagate_fired _ _ _)
      · rename_i event sim peeked
        exact .inl ⟨event, _, by rw [peeked], rfl, by rw [shape]⟩
    · exact .inr (by simp [record, firedEvents])
  · cases decision with
    | call op => exact .inr (by simp [Config.act, record, firedEvents])
    | step =>
        simp only [Config.act]
        split
        · exact .inr (by simp [record, firedEvents])
        · rename_i event sim peeked
          exact .inl ⟨event, _, by rw [peeked], rfl, rfl⟩
    | run => exact .inr rfl
    | wait => exact .inr rfl
    | answer value =>
        simp only [Config.act]
        split
        · exact .inr (settle_fired _ _ _ _)
        · exact .inr rfl
    | raise error =>
        simp only [Config.act]
        split
        · exact .inr (propagate_fired _ _ _)
        · exact .inr rfl

theorem advance_cases (decision : Decision S) :
    (∃ event rest, config.sim.peek.1 = some event ∧
        config.advance decision = config.fire event rest) ∨
      firedEvents (config.advance decision).log = firedEvents config.log := by
  rcases advance_position config decision with ⟨event, rest, next, step, -⟩ | noneFired
  · exact .inl ⟨event, rest, next, step⟩
  · exact .inr noneFired

/-! ### What a step changes -/

/-- The components and the agenda are these; the kernel's own bookkeeping is not
looked at. -/
structure Shows (config : Config S) (sim : Simulator S.Callback) (world : S.World) :
    Prop where
  live : config.sim.liveEvents = sim.liveEvents
  seq : config.sim.seq = sim.seq
  now : config.sim.now = sim.now
  world : config.world = world

inductive Effect (config : Config S) (decision : Decision S) :
    Simulator S.Callback → S.World → Prop
  | silent : Effect config decision config.sim config.world
  | called (op : S.Op) (named : decision = .call op) :
      Effect config decision (S.exec op config.sim config.world).2.1
        (S.exec op config.sim config.world).2.2
  | resumed (code : S.Callback) (answer : S.Answer) (named : decision = .answer answer)
      (below : List S.Callback) (position : codes config.stack = code :: below) :
      Effect config decision (S.resume code answer config.sim config.world).sim
        (S.resume code answer config.sim config.world).world
  | entered (event : Event S.Callback) (fires : config.Fires decision event)
      (next : config.sim.peek.1 = some event) :
      Effect config decision
        (S.enter event.callback (config.sim.fireNext event) config.world).sim
        (S.enter event.callback (config.sim.fireNext event) config.world).world

theorem propagate_shows (error : PyError) :
    (config.propagate rest error).Shows config.sim config.world :=
  ⟨rfl, rfl, rfl, rfl⟩

theorem returnTo_shows : (config.returnTo event rest).Shows config.sim config.world := by
  refine ⟨?_, ?_, ?_, returnTo_world config event rest⟩
  all_goals
    unfold Config.returnTo
    rcases rest with _ | ⟨_ | _ | _ | _, rest⟩
    · rfl
    · rfl
    · rfl
    · rfl
    · simp only [record]
      split <;> rfl

theorem settle_shows (outcome : Outcome S.Callback S.World) :
    (config.settle event rest outcome).Shows outcome.sim outcome.world := by
  cases outcome with
  | done sim world => exact returnTo_shows { config with sim, world } event rest
  | user code sim world => exact ⟨rfl, rfl, rfl, rfl⟩
  | raised error sim world => exact propagate_shows { config with sim, world } rest error

theorem fire_shows :
    (config.fire event rest).Shows
      (S.enter event.callback (config.sim.fireNext event) config.world).sim
      (S.enter event.callback (config.sim.fireNext event) config.world).world :=
  settle_shows _ event rest _

theorem advance_effect (decision : Decision S) :
    ∃ sim world, config.Effect decision sim world ∧
      (config.advance decision).Shows sim world := by
  have peeked (stack : List (Frame S)) (log : List (Entry S)) (runUntil : Option Int) :
      ({ config with
          sim := { config.sim.peek.2 with runUntil }, stack, log } : Config S).Shows
        config.sim config.world := ⟨Simulator.peek_liveEvents _, rfl, rfl, rfl⟩
  rcases advance_cases config decision with ⟨event, rest, next, step⟩ | unfired
  · refine ⟨_, _, .entered event ⟨rest, step⟩ next, ?_⟩
    rw [step]
    exact fire_shows config event rest
  · have notFired (event : Event S.Callback) (rest : List (Frame S)) :
        config.advance decision ≠ config.fire event rest := by
      intro step
      rw [step, fire_fired] at unfired
      simp at unfired
    generalize after : config.advance decision = next
    have silent (same : next.Shows config.sim config.world) :
        ∃ sim world, config.Effect decision sim world ∧ next.Shows sim world :=
      ⟨_, _, .silent, same⟩
    have round := after
    unfold Config.advance at round
    split at round
    · simp only [Config.runLoop] at round
      split at round
      · exact silent (round ▸ ⟨rfl, rfl, rfl, rfl⟩)
      · split at round
        · rename_i sim peeking
          obtain rfl : sim = config.sim.peek.2 := by rw [peeking]
          exact silent (round ▸ peeked _ _ _)
        · rename_i event sim peeking
          split at round
          · obtain rfl : sim = config.sim.peek.2 := by rw [peeking]
            exact silent (round ▸ peeked _ _ _)
          · exact absurd (after.trans round.symm) (notFired event _)
    · simp only [Config.waitLoop] at round
      split at round
      · split at round
        · rename_i sim peeking
          obtain rfl : sim = config.sim.peek.2 := by rw [peeking]
          exact silent (round ▸ ⟨Simulator.peek_liveEvents _, rfl, rfl, rfl⟩)
        · rename_i event sim peeking
          exact absurd (after.trans round.symm) (notFired event _)
      · exact silent (round ▸ ⟨rfl, rfl, rfl, rfl⟩)
    · cases decision with
      | call op =>
          rw [← round]
          exact ⟨_, _, .called op rfl, ⟨rfl, rfl, rfl, rfl⟩⟩
      | step =>
          simp only [Config.act] at round
          split at round
          · rename_i sim peeking
            obtain rfl : sim = config.sim.peek.2 := by rw [peeking]
            exact silent (round ▸ ⟨Simulator.peek_liveEvents _, rfl, rfl, rfl⟩)
          · rename_i event sim peeking
            exact absurd (after.trans round.symm) (notFired event _)
      | run => exact silent (round ▸ ⟨rfl, rfl, rfl, rfl⟩)
      | wait => exact silent (round ▸ ⟨rfl, rfl, rfl, rfl⟩)
      | answer value =>
          simp only [Config.act] at round
          split at round
          · rename_i event code rest shape
            rw [← round]
            exact ⟨_, _, .resumed code value rfl (codes rest) (by rw [shape]; rfl),
              settle_shows config event rest _⟩
          · exact silent (round ▸ ⟨rfl, rfl, rfl, rfl⟩)
      | raise error =>
          simp only [Config.act] at round
          split at round
          · exact silent (round ▸ propagate_shows config _ error)
          · exact silent (round ▸ ⟨rfl, rfl, rfl, rfl⟩)

variable {config event} {decision : Decision S}

theorem Fires.fired (fires : config.Fires decision event) :
    firedEvents (config.advance decision).log = firedEvents config.log ++ [event] := by
  obtain ⟨rest, step⟩ := fires
  rw [step, fire_fired]

/-- The event that fires is the next one, and its callback is called above all that is
on the stack. -/
theorem Fires.position (fires : config.Fires decision event) :
    config.sim.peek.1 = some event ∧ ∃ rest,
      config.advance decision = config.fire event rest ∧
        codes rest = codes config.stack := by
  have fired := fires.fired
  rcases advance_position config decision with ⟨other, rest, peeked, step, same⟩ |
    noneFired
  · rw [step, fire_fired] at fired
    obtain rfl : other = event := by simpa using fired
    exact ⟨peeked, rest, step, same⟩
  · simp [noneFired] at fired

theorem Fires.next (fires : config.Fires decision event) :
    config.sim.peek.1 = some event := fires.position.1

theorem Fires.world (fires : config.Fires decision event) :
    (config.advance decision).world =
      (S.enter event.callback (config.sim.fireNext event) config.world).world := by
  obtain ⟨rest, step⟩ := fires
  rw [step, fire_world]

end Fires

end Config

end Pyramulator
