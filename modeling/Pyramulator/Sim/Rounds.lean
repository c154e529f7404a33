import Pyramulator.Sim.Barrier

namespace Pyramulator

/-! The rounds of the loops of the kernel. -/

namespace Frame

variable {S : System}

def Goes (world : S.World) (time : Int) : Frame S → Prop
  | .run until_ maxEvents _ _ => maxEvents = none ∧ ∀ bound ∈ until_, time ≤ bound
  | .wait target _ _ => S.waiting target world = true
  | .callback _ _ | .step => False

def counted : Frame S → Frame S
  | .wait target processed maxEvents => .wait target (processed + 1) maxEvents
  | frame => frame

end Frame

namespace Config

variable {S : System}

section Rounds

variable (config : Config S) (rest : List (Frame S))

/-- A loop of `run` ends. -/
def ran (sim : Simulator S.Callback) (start : Nat) (prevUntil : Option Int) : Config S :=
  { config with sim := { sim with runUntil := prevUntil }, stack := rest }.record
    (.ran (sim.processed - start))

variable {config rest} {until_ maxEvents prevUntil : Option Int} {start : Nat}
  {target : S.Wait} {processed bound : Int} {event : Event S.Callback}

theorem runLoop_sliced
    (sliced : (maxEvents.any fun bound => bound ≤ (config.sim.processed - start : Int)) =
      true) :
    config.runLoop until_ maxEvents start prevUntil rest =
      config.ran rest config.sim start prevUntil := by
  rw [runLoop, if_pos sliced]
  rfl

variable
  (unsliced : (maxEvents.any fun bound => bound ≤ (config.sim.processed - start : Int)) =
    false)

include unsliced in
theorem runLoop_drained (drained : config.sim.peek.1 = none) :
    config.runLoop until_ maxEvents start prevUntil rest =
      config.ran rest config.sim.peek.2 start prevUntil := by
  rcases peeked : config.sim.peek with ⟨_, sim⟩
  rw [peeked] at drained
  obtain rfl := drained
  simp only [runLoop, unsliced, Bool.false_eq_true, if_false, peeked]
  rfl

include unsliced in
theorem runLoop_late (next : config.sim.peek.1 = some event)
    (late : (until_.any fun bound => bound < event.time) = true) :
    config.runLoop until_ maxEvents start prevUntil rest =
      config.ran rest config.sim.peek.2 start prevUntil := by
  rcases peeked : config.sim.peek with ⟨_, sim⟩
  rw [peeked] at next
  obtain rfl := next
  simp only [runLoop, unsliced, Bool.false_eq_true, if_false, peeked, late, if_true]
  rfl

include unsliced in
theorem runLoop_fires (next : config.sim.peek.1 = some event)
    (soon : (until_.any fun bound => bound < event.time) = false) :
    config.runLoop until_ maxEvents start prevUntil rest =
      config.fire event (.run until_ maxEvents start prevUntil :: rest) := by
  rcases peeked : config.sim.peek with ⟨_, sim⟩
  rw [peeked] at next
  obtain rfl := next
  simp only [runLoop, unsliced, Bool.false_eq_true, if_false, peeked, soon]

theorem waitLoop_ends (done : S.waiting target config.world = false) :
    config.waitLoop target processed bound rest =
      { config with stack := rest }.record (.waited processed) := by
  simp only [waitLoop, done, Bool.false_eq_true, if_false]

variable (waiting : S.waiting target config.world = true)
include waiting

theorem waitLoop_stalls (drained : config.sim.peek.1 = none) :
    config.waitLoop target processed bound rest =
      { config with sim := config.sim.peek.2 }.propagate rest S.stalled := by
  rcases peeked : config.sim.peek with ⟨_, sim⟩
  rw [peeked] at drained
  obtain rfl := drained
  simp only [waitLoop, waiting, if_true, peeked]

theorem waitLoop_fires (next : config.sim.peek.1 = some event) :
    config.waitLoop target processed bound rest =
      config.fire event (.wait target processed bound :: rest) := by
  rcases peeked : config.sim.peek with ⟨_, sim⟩
  rw [peeked] at next
  obtain rfl := next
  simp only [waitLoop, waiting, if_true, peeked]

end Rounds

theorem settle_congr {config other : Config S} (same : config.log = other.log)
    (event : Event S.Callback) (rest : List (Frame S))
    (outcome : Outcome S.Callback S.World) :
    config.settle event rest outcome = other.settle event rest outcome := by
  cases outcome with
  | done sim world => simp only [settle, returnTo, record, same]
  | user code sim world => simp only [settle, same]
  | raised error sim world => simp only [settle, propagate, same]

section Goes

variable {config : Config S} {event : Event S.Callback} {frame : Frame S}
  {rest : List (Frame S)} {decision : Decision S} {world : S.World} {time : Int}

theorem not_inUserCode (stack : config.stack = frame :: rest)
    (goes : frame.Goes world time) :
    ¬ config.InUserCode := by
  cases frame with
  | callback other code => exact goes.elim
  | step => exact goes.elim
  | run until_ maxEvents start prevUntil => simp [InUserCode, stack]
  | wait target processed maxEvents => simp [InUserCode, stack]

theorem advance_goes (stack : config.stack = frame :: rest)
    (next : config.sim.peek.1 = some event) (goes : frame.Goes config.world event.time)
    (decision : Decision S) :
    config.advance decision = config.fire event (frame :: rest) := by
  rw [advance, stack]
  cases frame with
  | callback other code => exact goes.elim
  | step => exact goes.elim
  | run until_ maxEvents start prevUntil =>
      obtain ⟨rfl, within⟩ := goes
      refine runLoop_fires rfl next
        ((Option.any_eq_false _ _).mpr fun bound horizon => ?_)
      simpa using within bound horizon
  | wait target processed maxEvents => exact waitLoop_fires goes next

theorem returnTo_goes (goes : frame.Goes world time)
    (ample : .overran ∉ (config.returnTo event (frame :: rest)).log) :
    config.returnTo event (frame :: rest) = { config with
      sim := config.sim.endFire
      stack := frame.counted :: rest
      log := config.log ++ [.returned event] } := by
  cases frame with
  | callback other code => exact goes.elim
  | step => exact goes.elim
  | run until_ maxEvents start prevUntil => rfl
  | wait target processed maxEvents =>
      simp only [returnTo, record] at ample ⊢
      split at ample
      · exact absurd (by simp [propagate]) ample
      · rename_i more
        rw [if_neg more]
        rfl

theorem act_unfired (unstepped : decision ≠ .step) :
    firedEvents (config.act decision).log = firedEvents config.log := by
  cases decision with
  | call op => simp [act, record, firedEvents]
  | step => exact absurd rfl unstepped
  | run => rfl
  | wait => rfl
  | answer value =>
      simp only [act]
      split
      · exact settle_fired _ _ _ _
      · rfl
  | raise error =>
      simp only [act]
      split
      · exact propagate_fired _ _ _
      · rfl

theorem Fires.goes (fires : config.Fires decision event) (unstepped : decision ≠ .step)
    (unsliced : ∀ until_ maxEvents start prevUntil rest,
      config.stack = .run until_ maxEvents start prevUntil :: rest → maxEvents = none) :
    ∃ frame rest, config.stack = frame :: rest ∧ frame.Goes config.world event.time := by
  have next := fires.next
  have fired := fires.fired
  have fires_
      (silent : firedEvents (config.advance decision).log = firedEvents config.log) :
      False := by simp [silent] at fired
  rcases shape : config.stack with _ | ⟨frame, rest⟩
  · refine (fires_ ?_).elim
    rw [advance, shape]
    exact act_unfired unstepped
  · refine ⟨frame, rest, rfl, ?_⟩
    cases frame with
    | callback other code =>
        refine (fires_ ?_).elim
        rw [advance, shape]
        exact act_unfired unstepped
    | step =>
        refine (fires_ ?_).elim
        rw [advance, shape]
        exact act_unfired unstepped
    | run until_ maxEvents start prevUntil =>
        obtain rfl := unsliced until_ maxEvents start prevUntil rest shape
        refine ⟨rfl, fun bound horizon => ?_⟩
        by_contra late
        refine fires_ ?_
        have ends : (until_.any fun bound => decide (bound < event.time)) = true :=
          (Option.any_eq_true _ _).mpr ⟨bound, horizon, by simpa using late⟩
        have round : config.advance decision = config.ran rest config.sim.peek.2 start
            prevUntil := by
          rw [advance, shape]
          exact runLoop_late rfl next ends
        rw [round]
        simp [ran, record, firedEvents]
    | wait target processed maxEvents =>
        by_contra done
        refine fires_ ?_
        have ends : S.waiting target config.world = false := Bool.eq_false_iff.mpr done
        have round : config.advance decision =
            { config with stack := rest }.record (.waited processed) := by
          rw [advance, shape]
          exact waitLoop_ends ends
        rw [round]
        simp [record, firedEvents]

end Goes

end Config

end Pyramulator
