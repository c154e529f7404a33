import Pyramulator.Sim.Rule

namespace Pyramulator

/-! The barriers of the machine, such as `Dram.flush`: loops that wait for a
component and let the simulator run meanwhile. -/

namespace Config

variable {S : System}

def InUserCode (config : Config S) : Prop :=
  match config.stack with
  | [] | .callback _ _ :: _ => True
  | _ => False

theorem InUserCode.advance {config : Config S} (control : config.InUserCode)
    (decision : Decision S) : config.advance decision = config.act decision := by
  unfold InUserCode at control
  unfold Config.advance
  split
  · rename_i shape
    rw [shape] at control
    exact control.elim
  · rename_i shape
    rw [shape] at control
    exact control.elim
  · rfl

structure Quiet (config : Config S) (decision : Decision S) : Prop where
  user : ∀ error, decision ≠ .raise error
  entered : ∀ event error sim world, config.Fires decision event →
    S.enter event.callback (config.sim.fireNext event) config.world ≠
      .raised error sim world
  resumed : ∀ event code rest answer error sim world,
    config.stack = .callback event code :: rest → decision = .answer answer →
      S.resume code answer config.sim config.world ≠ .raised error sim world

/-- A callback that was called by the frames `below` has not returned. -/
def Stands (below stack : List (Frame S)) : Prop :=
  ∃ above event code, stack = above ++ .callback event code :: below

namespace Stands

variable {below stack : List (Frame S)}

theorem here (event : Event S.Callback) (code : S.Callback) :
    Stands below (.callback event code :: below) :=
  ⟨[], event, code, rfl⟩

theorem push (stands : Stands below stack) (frame : Frame S) :
    Stands below (frame :: stack) := by
  obtain ⟨above, event, code, rfl⟩ := stands
  exact ⟨frame :: above, event, code, rfl⟩

theorem cases_top {frame : Frame S} (stands : Stands below (frame :: stack)) :
    (∃ event code, frame = .callback event code ∧ stack = below) ∨
      Stands below stack := by
  obtain ⟨above, event, code, shape⟩ := stands
  cases above with
  | nil =>
      obtain ⟨rfl, rfl⟩ := List.cons.inj shape
      exact .inl ⟨event, code, rfl, rfl⟩
  | cons top above =>
      obtain ⟨rfl, rfl⟩ := List.cons.inj shape
      exact .inr ⟨above, event, code, rfl⟩

theorem pop {frame : Frame S} (stands : Stands below (frame :: stack))
    (loop : ∀ event code, frame ≠ .callback event code) : Stands below stack := by
  rcases stands.cases_top with ⟨event, code, same, -⟩ | stands
  · exact absurd same (loop event code)
  · exact stands

theorem length (stands : Stands below stack) : below.length < stack.length := by
  obtain ⟨above, event, code, rfl⟩ := stands
  simp only [List.length_append, List.length_cons]
  omega

theorem unwind (stands : Stands below stack) (runUntil : Option Int) :
    Stands below (Config.unwind stack runUntil).1 := by
  induction stack generalizing runUntil with
  | nil => exact stands
  | cons frame rest induction =>
      cases frame with
      | callback event code => exact stands
      | step =>
          apply induction
          exact stands.pop fun _ _ => nofun
      | run until_ maxEvents start prevUntil =>
          apply induction
          exact stands.pop fun _ _ => nofun
      | wait target processed maxEvents =>
          apply induction
          exact stands.pop fun _ _ => nofun

variable (config : Config S) (event : Event S.Callback)

theorem propagate (stands : Stands below stack) (error : PyError) :
    Stands below (config.propagate stack error).stack :=
  stands.unwind config.sim.runUntil

theorem returnTo (stands : Stands below stack) :
    Stands below (config.returnTo event stack).stack := by
  cases stack with
  | nil => exact stands
  | cons frame rest =>
      cases frame with
      | callback other code => exact stands
      | run until_ maxEvents start prevUntil => exact stands
      | step => exact stands.pop fun _ _ => nofun
      | wait target processed maxEvents =>
          have rest_ : Stands below rest := stands.pop fun _ _ => nofun
          simp only [Config.returnTo, record]
          split
          · exact rest_.unwind _
          · exact rest_.push _

theorem settle (stands : Stands below stack) (outcome : Outcome S.Callback S.World) :
    Stands below (config.settle event stack outcome).stack := by
  cases outcome with
  | done sim world => exact stands.returnTo { config with sim, world } event
  | user code sim world => exact stands.push _
  | raised error sim world => exact stands.propagate { config with sim, world } error

theorem fire (stands : Stands below stack) :
    Stands below (config.fire event stack).stack :=
  stands.settle _ event _

end Stands

theorem Stands.advance {config : Config S} {below : List (Frame S)}
    (stands : Stands below config.stack) {decision : Decision S}
    (quiet : config.Quiet decision) :
    Stands below (config.advance decision).stack ∨
      ∃ event sim world, config.advance decision =
        { config with sim, world }.returnTo event below := by
  have within (event : Event S.Callback) (frame : Frame S) {rest : List (Frame S)}
      (rest_ : Stands below rest) :
        Stands below (config.fire event (frame :: rest)).stack :=
    (rest_.push frame).fire config event
  have acts : Stands below (config.act decision).stack ∨
      ∃ event sim world, config.act decision =
        { config with sim, world }.returnTo event below := by
    cases decision with
    | call op => exact .inl stands
    | step =>
        left
        simp only [act]
        split
        · exact stands
        · exact within _ .step stands
    | run until_ maxEvents => exact .inl (stands.push _)
    | wait target maxEvents => exact .inl (stands.push _)
    | raise error => exact absurd rfl (quiet.user error)
    | answer value =>
        simp only [act]
        split
        · rename_i event code rest shape
          have top := stands
          rw [shape] at top
          rcases top.cases_top with ⟨_, _, -, rfl⟩ | rest_
          · cases resumed : S.resume code value config.sim config.world with
            | done sim world => exact .inr ⟨event, sim, world, rfl⟩
            | user next sim world => exact .inl (.here event next)
            | raised error sim world =>
                exact absurd resumed
                  (quiet.resumed event code rest value error sim world shape rfl)
          · exact .inl (rest_.settle config event _)
        · exact .inl stands
  unfold Config.advance
  split
  · rename_i shape
    rw [shape] at stands
    have rest_ := stands.pop fun _ _ same => by cases same
    left
    simp only [runLoop]
    split
    · exact rest_
    · split
      · exact rest_
      · split
        · exact rest_
        · exact within _ _ rest_
  · rename_i shape
    rw [shape] at stands
    have rest_ := stands.pop fun _ _ same => by cases same
    left
    simp only [waitLoop]
    split
    · split
      · exact rest_.unwind _
      · exact within _ _ rest_
    · exact rest_
  · exact acts

end Config

/-! ## A barrier that is watched -/

def Entry.isReturned {S : System} : Entry S → Bool
  | .returned _ => true
  | _ => false

inductive BarrierEnding where
  | returned (count : Int)
  | raised (error : PyError)
  deriving DecidableEq

def BarrierEnding.of {S : System} : Option (Entry S) → Option BarrierEnding
  | some (.waited count) => some (.returned count)
  | some (.raised error) => some (.raised error)
  | _ => none

/-- A call of a barrier: the frames it was called by, whether it had to wait when it was
called and after each event that it let run, and how it ended. -/
structure Watch (S : System) where
  config : Config S
  below : List (Frame S)
  target : S.Wait
  maxEvents : Int
  seen : List Bool
  ending : Option BarrierEnding

namespace Watch

variable {S : System}

def start (config : Config S) (target : S.Wait) (maxEvents : Int) : Watch S where
  config := config.advance (.wait target maxEvents)
  below := config.stack
  target
  maxEvents
  seen := [S.waiting target config.world]
  ending := none

/-- The run goes on. An event has returned to the barrier when no frame is left above
it; it has ended when its own frame is gone. -/
def advance (watch : Watch S) (decision : Decision S) : Watch S :=
  let after := watch.config.advance decision
  let news := after.log.drop watch.config.log.length
  if watch.ending.isSome then { watch with config := after }
  else
    { watch with
      config := after
      seen :=
        if after.stack.length ≤ watch.below.length + 1 ∧ news.any Entry.isReturned then
          watch.seen ++ [S.waiting watch.target after.world]
        else watch.seen
      ending :=
        if watch.below.length < after.stack.length then none
          else BarrierEnding.of news.getLast? }

section Advance

variable (watch : Watch S) (decision : Decision S)

theorem advance_config :
    (watch.advance decision).config = watch.config.advance decision := by
  unfold advance
  split <;> rfl

theorem advance_target : (watch.advance decision).target = watch.target := by
  unfold advance
  split <;> rfl

theorem advance_maxEvents : (watch.advance decision).maxEvents = watch.maxEvents := by
  unfold advance
  split <;> rfl

end Advance

/-- The barrier had no more to wait for after so many events, for the first time. -/
def DrainedAt (watch : Watch S) (count : Nat) : Prop :=
  List.replicate count true ++ [false] <+: watch.seen

/-- The barrier returns exactly when there is nothing more to wait for within the events
that it may let run; it stops there, and returns how many there were. -/
structure Exact (watch : Watch S) : Prop where
  returns : ∀ count : Nat, watch.DrainedAt count → (count : Int) ≤ watch.maxEvents →
    ∀ decision, (watch.advance decision).ending = some (.returned count)
  returned : ∀ count, watch.ending = some (.returned count) →
    0 ≤ count ∧ count ≤ watch.maxEvents ∧ watch.DrainedAt count.toNat
  overran : watch.ending = some (.raised (S.overrun watch.maxEvents)) →
    watch.seen = List.replicate (watch.maxEvents.toNat + 1) true
  stalled : watch.ending ≠ some (.raised S.stalled)

inductive Stage (watch : Watch S) : Prop
  | head (count : Nat) (room : count < watch.maxEvents) (running : watch.ending = none)
      (stack : watch.config.stack =
        .wait watch.target count watch.maxEvents :: watch.below)
      (seen : watch.seen = List.replicate count true ++
        [S.waiting watch.target watch.config.world])
  | within (count : Nat) (room : count < watch.maxEvents) (running : watch.ending = none)
      (stands : Config.Stands (.wait watch.target count watch.maxEvents :: watch.below)
        watch.config.stack)
      (seen : watch.seen = List.replicate count true ++ [true])
  | returned (count : Nat) (room : count < watch.maxEvents)
      (ended : watch.ending = some (.returned count))
      (seen : watch.seen = List.replicate count true ++ [false])
  | overran (last : Bool)
      (ended : watch.ending = some (.raised (S.overrun watch.maxEvents)))
      (seen : watch.seen = List.replicate watch.maxEvents.toNat true ++ [last])

theorem drainedAt_iff {watch : Watch S} {processed : Nat} {last : Bool}
    (seen : watch.seen = List.replicate processed true ++ [last]) (count : Nat) :
    watch.DrainedAt count ↔ count = processed ∧ last = false := by
  constructor
  · rintro ⟨rest, whole⟩
    have here : watch.seen[count]? = some false := by
      rw [← whole, List.append_assoc, List.getElem?_append_right (by simp)]
      simp
    rcases lt_trichotomy count processed with earlier | rfl | later
    · rw [seen, List.getElem?_append_left (by simpa using earlier),
        List.getElem?_replicate_of_lt earlier] at here
      cases here
    · rw [seen, List.getElem?_append_right (by simp)] at here
      exact ⟨rfl, by simpa using here⟩
    · rw [seen, List.getElem?_eq_none (by simp; omega)] at here
      cases here
  · rintro ⟨rfl, rfl⟩
    exact ⟨[], by rw [seen, List.append_nil]⟩

theorem Stage.exact_iff {watch : Watch S} (stage : watch.Stage)
    (positive : 1 ≤ watch.maxEvents) (apart : S.overrun watch.maxEvents ≠ S.stalled) :
    watch.Exact ↔ ¬ watch.DrainedAt watch.maxEvents.toNat := by
  cases stage with
  | head count room running stack seen =>
      rw [drainedAt_iff seen]
      refine iff_of_true ⟨?_, ?_, ?_, ?_⟩ (by omega)
      · intro drained at_ within decision
        obtain ⟨rfl, noEvent⟩ := (drainedAt_iff seen drained).mp at_
        have after : watch.config.advance decision =
            { watch.config with stack := watch.below }.record (.waited drained) := by
          unfold Config.advance
          rw [stack]
          simp only [Config.waitLoop, noEvent]
          rfl
        simp [advance, running, after, Config.record, BarrierEnding.of]
      all_goals simp [running]
  | within count room running stands seen =>
      rw [drainedAt_iff seen]
      refine iff_of_true ⟨?_, ?_, ?_, ?_⟩ (by simp)
      · intro drained at_
        simp [drainedAt_iff seen] at at_
      all_goals simp [running]
  | returned count room ended seen =>
      rw [drainedAt_iff seen]
      refine iff_of_true ⟨?_, ?_, ?_, ?_⟩ (by omega)
      · intro drained at_ within decision
        obtain ⟨rfl, -⟩ := (drainedAt_iff seen drained).mp at_
        simp [advance, ended]
      · intro count_ same
        obtain rfl : (count : Int) = count_ := by simpa [ended] using same
        refine ⟨by omega, by omega, ?_⟩
        exact (drainedAt_iff seen _).mpr ⟨rfl, rfl⟩
      all_goals simp [ended]
  | overran last ended seen =>
      rw [drainedAt_iff seen]
      constructor
      · rintro exact_ ⟨-, rfl⟩
        have returns :=
          exact_.returns _ ((drainedAt_iff seen _).mpr ⟨rfl, rfl⟩) (by omega) .step
        simp [advance, ended] at returns
      · intro busy
        obtain rfl : last = true := by simpa using busy
        refine ⟨?_, ?_, ?_, ?_⟩
        · intro drained at_
          simp [drainedAt_iff seen] at at_
        · simp [ended]
        · intro
          rw [seen, List.replicate_succ']
        · simpa [ended] using apart

/-! ### Every step of the run -/

theorem unwind_length (stack : List (Frame S)) (runUntil : Option Int) :
    (Config.unwind stack runUntil).1.length ≤ stack.length := by
  induction stack generalizing runUntil with
  | nil => exact Nat.le_refl _
  | cons frame rest induction =>
      cases frame with
      | callback event code => exact Nat.le_refl _
      | step => exact (induction _).trans (Nat.le_succ _)
      | run until_ maxEvents start prevUntil => exact (induction _).trans (Nat.le_succ _)
      | wait target processed maxEvents => exact (induction _).trans (Nat.le_succ _)

section Step

variable {watch : Watch S} {decision : Decision S} {count : Nat}

theorem Stage.goes_on (running : watch.ending = none) (room : count < watch.maxEvents)
    (seen : watch.seen = List.replicate count true ++ [true])
    (stands : Config.Stands (.wait watch.target count watch.maxEvents :: watch.below)
      (watch.config.advance decision).stack) : (watch.advance decision).Stage := by
  have above := stands.length
  rw [List.length_cons] at above
  have shape : watch.advance decision =
      { watch with config := watch.config.advance decision } := by
    rw [advance, running, if_neg (by decide), if_neg (by omega),
      if_pos (by omega), ← running]
  rw [shape]
  exact .within count room running stands seen

theorem Stage.comes_back (running : watch.ending = none) (room : count < watch.maxEvents)
    (seen : watch.seen = List.replicate count true ++ [true]) (config : Config S)
    (event : Event S.Callback) (before : List (Entry S))
    (log : config.log = watch.config.log ++ before)
    (back : watch.config.advance decision =
      config.returnTo event (.wait watch.target count watch.maxEvents :: watch.below)) :
    (watch.advance decision).Stage := by
  have whole : watch.seen = List.replicate (count + 1) true := by
    rw [seen, List.replicate_succ']
  unfold advance
  rw [running, if_neg (by decide), back]
  by_cases last : watch.maxEvents ≤ (count : Int) + 1
  · have bound : watch.maxEvents.toNat = count + 1 := by omega
    have after : config.returnTo event
        (.wait watch.target count watch.maxEvents :: watch.below) =
        ({ config with
            sim := config.sim.endFire
            log := config.log ++ [.returned event] ++ [.overran] } : Config S).propagate
          watch.below (S.overrun watch.maxEvents) := if_pos last
    have short := unwind_length watch.below config.sim.endFire.runUntil
    rw [after]
    refine .overran (S.waiting watch.target config.world) ?_ ?_
    · simp only [Config.propagate, log]
      rw [if_neg (by omega)]
      simp [BarrierEnding.of]
    · simp only [Config.propagate, log]
      rw [if_pos ⟨by omega, by simp [Entry.isReturned]⟩, whole, bound]
  · have after : config.returnTo event
        (.wait watch.target count watch.maxEvents :: watch.below) =
        { config with
          sim := config.sim.endFire
          log := config.log ++ [.returned event]
          stack := .wait watch.target (count + 1) watch.maxEvents :: watch.below } :=
      if_neg last
    rw [after]
    refine .head (count + 1) ?_ ?_ ?_ ?_
    · push_cast
      omega
    · simp
    · simp
    · simp only [log]
      rw [if_pos ⟨by simp, by simp [Entry.isReturned]⟩, whole]

theorem Stage.advance (stage : watch.Stage) (quiet : watch.config.Quiet decision)
    (fed : S.waiting watch.target watch.config.world = true →
      watch.config.sim.peek.1 ≠ none) : (watch.advance decision).Stage := by
  have still {ending : BarrierEnding} (ended : watch.ending = some ending) :
      watch.advance decision =
        { watch with config := watch.config.advance decision } := by
    have done : watch.ending.isSome = true := by rw [ended]; rfl
    rw [Watch.advance, if_pos done]
  cases stage with
  | returned count room ended seen => exact still ended ▸ .returned count room ended seen
  | overran last ended seen => exact still ended ▸ .overran last ended seen
  | within count room running stands seen =>
      rcases stands.advance quiet with stands | ⟨event, sim, world, back⟩
      · exact goes_on running room seen stands
      · refine comes_back running room seen _ event [] ?_ back
        exact (List.append_nil _).symm
  | head count room running stack seen =>
      have round : watch.config.advance decision =
          watch.config.waitLoop watch.target count watch.maxEvents watch.below := by
        unfold Config.advance
        rw [stack]
      cases waits : S.waiting watch.target watch.config.world with
      | false =>
          rw [waits] at seen
          have after : watch.config.advance decision =
              { watch.config with stack := watch.below }.record (.waited count) := by
            rw [round]
            simp [Config.waitLoop, waits]
          have shape : watch.advance decision =
              { watch with
                config := watch.config.advance decision
                ending := some (.returned count) } := by
            simp [Watch.advance, running, after, Config.record, BarrierEnding.of,
              Entry.isReturned]
          rw [shape]
          exact .returned count room rfl seen
      | true =>
          rw [waits] at seen
          obtain ⟨event, next⟩ := Option.ne_none_iff_exists'.mp (fed waits)
          have fires : watch.config.advance decision = watch.config.fire event
              (.wait watch.target count watch.maxEvents :: watch.below) := by
            rw [round]
            rcases peeked : watch.config.sim.peek with ⟨_, sim⟩
            obtain rfl : _ = some event := by rw [← next, peeked]
            simp [Config.waitLoop, waits, peeked]
          cases entered : S.enter event.callback (watch.config.sim.fireNext event)
              watch.config.world with
          | done sim world =>
              refine comes_back running room seen
                { watch.config with
                  sim, world, log := watch.config.log ++ [.fired event event.time] }
                event [.fired event event.time] rfl ?_
              rw [fires, Config.fire, entered]
              rfl
          | user code sim world =>
              refine goes_on running room seen ?_
              rw [fires, Config.fire, entered]
              exact .here event code
          | raised error sim world =>
              exact absurd entered (quiet.entered event error sim world ⟨_, fires⟩)

end Step

theorem start_stage {config : Config S} (control : config.InUserCode) (target : S.Wait)
    {maxEvents : Int} (positive : 1 ≤ maxEvents) :
    (start config target maxEvents).Stage := by
  have opened : config.advance (.wait target maxEvents) =
      { config with stack := .wait target 0 maxEvents :: config.stack } :=
    control.advance _
  refine .head 0 positive rfl ?_ ?_
  · rw [start, opened]
    rfl
  · simp [start, opened]

end Watch

end Pyramulator
