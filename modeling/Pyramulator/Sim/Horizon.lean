import Pyramulator.Sim.Rule

namespace Pyramulator

/-! The horizon of `run`: what component code may do with the time, as long as it touches
the kernel through its calls. -/

namespace Simulator

variable {κ : Type} {sim after : Simulator κ} {until_ : Int}

theorem Call.now_within (call : Call sim after) (horizon : sim.runUntil = some until_)
    (within : sim.now ≤ until_) : after.now ≤ until_ := by
  cases call with
  | push => exact within
  | cancel => rwa [cancel_now]
  | peek => exact within
  | advance time accepted =>
      obtain ⟨result, -, -, bound⟩ := advanceTo_ok accepted
      rw [result]
      exact bound until_ horizon

theorem Calls.now_within (calls : Calls sim after) (horizon : sim.runUntil = some until_)
    (within : sim.now ≤ until_) : after.now ≤ until_ := by
  induction calls with
  | refl => exact within
  | tail calls call induction =>
      exact call.now_within ((Calls.runUntil_eq calls).trans horizon) induction

end Simulator

namespace Config

variable {S : System} {until_ : Int} {maxEvents : Option Int}

/-- User code steps the simulator, by `step`, `run` or a barrier. -/
def Steps : Decision S → Prop
  | .step | .run _ _ | .wait _ _ => True
  | .call _ | .answer _ | .raise _ => False

def Unstepped (config : Config S) (decision : Decision S) : Prop :=
  ∀ event code rest, config.stack = .callback event code :: rest → ¬ Steps decision

/-- A `run` from the top level, as long as no callback steps the simulator. -/
inductive RunStage (until_ : Int) (maxEvents : Option Int) (config : Config S) : Prop
  | head (start : Nat) (stack : config.stack = [.run (some until_) maxEvents start none])
  | within (start : Nat) (event : Event S.Callback) (code : S.Callback)
      (stack : config.stack =
        [.callback event code, .run (some until_) maxEvents start none])
  | ended (stack : config.stack = [])
      (complete : ∀ count, config.log.getLast? = some (.ran count) → maxEvents = none →
        ∀ event ∈ config.sim.liveEvents, until_ < event.time)

/-- The time is within the horizon, in every state of such a `run`. -/
structure RunsWithin (until_ : Int) (maxEvents : Option Int) (config : Config S) :
    Prop where
  coherent : config.Coherent
  now : config.sim.now ≤ until_
  stage : RunStage until_ maxEvents config

theorem RunStage.settle {config : Config S} (event : Event S.Callback) (start : Nat)
    (outcome : Outcome S.Callback S.World) :
    RunStage until_ maxEvents
      (config.settle event [.run (some until_) maxEvents start none] outcome) := by
  cases outcome with
  | done sim world => exact .head start rfl
  | user code sim world => exact .within start event code rfl
  | raised error sim world =>
      refine .ended rfl fun count last => ?_
      simp [Config.settle, propagate] at last

theorem RunStage.runLoop {config : Config S} (coherent : config.Coherent) {start : Nat}
    (within : config.sim.now ≤ until_) :
    (∃ event, config.sim.peek.1 = some event ∧ event.time ≤ until_ ∧
      config.runLoop (some until_) maxEvents start none [] =
        config.fire event [.run (some until_) maxEvents start none]) ∨
    (config.runLoop (some until_) maxEvents start none []).sim.now ≤ until_ ∧
      RunStage until_ maxEvents
        (config.runLoop (some until_) maxEvents start none []) := by
  simp only [Config.runLoop]
  split
  · rename_i bounded
    refine .inr ⟨within, .ended rfl fun _ _ unbounded => ?_⟩
    rw [unbounded] at bounded
    cases bounded
  · split
    · rename_i sim peeked
      have first : config.sim.peek.1 = none := by rw [peeked]
      obtain rfl : sim = config.sim.peek.2 := by rw [peeked]
      rw [Simulator.peek_fst, List.head?_eq_none_iff] at first
      refine .inr ⟨within, .ended rfl fun _ _ _ event member => ?_⟩
      change event ∈ config.sim.peek.2.liveEvents at member
      rw [Simulator.peek_liveEvents, first] at member
      exact absurd member List.not_mem_nil
    · rename_i event sim peeked
      have next : config.sim.peek.1 = some event := by rw [peeked]
      obtain rfl : sim = config.sim.peek.2 := by rw [peeked]
      split
      · rename_i late
        have late : until_ < event.time := by simpa using late
        refine .inr ⟨within, .ended rfl fun _ _ _ other member => ?_⟩
        change other ∈ config.sim.peek.2.liveEvents at member
        rw [Simulator.peek_liveEvents] at member
        rw [Simulator.peek_fst] at next
        exact late.trans_le (coherent.wellFormed.first_le next member)
      · rename_i soon
        exact .inl ⟨event, next, by simpa using soon, rfl⟩

theorem RunsWithin.advance (lawful : S.Lawful) {config : Config S}
    (runs : RunsWithin until_ maxEvents config) (active : config.stack ≠ [])
    {decision : Decision S} (unstepped : config.Unstepped decision) :
    RunsWithin until_ maxEvents (config.advance decision) := by
  obtain ⟨coherent, within, stage⟩ := runs
  suffices both : (config.advance decision).sim.now ≤ until_ ∧
      RunStage until_ maxEvents (config.advance decision) from
    ⟨coherent.advance lawful decision, both.1, both.2⟩
  have settles (start : Nat) (event : Event S.Callback)
      {outcome : Outcome S.Callback S.World}
      (bound : outcome.sim.now ≤ until_) (base : Config S) :
      (base.settle event [.run (some until_) maxEvents start none] outcome).sim.now ≤
        until_ ∧
        RunStage until_ maxEvents
          (base.settle event [.run (some until_) maxEvents start none] outcome) :=
    ⟨(settle_shows base event _ outcome).now.trans_le bound, .settle event start outcome⟩
  cases stage with
  | ended stack => exact absurd stack active
  | head start stack =>
      have horizon : config.sim.runUntil = some until_ := by
        rw [coherent.horizon, stack]
        rfl
      have round : config.advance decision =
          config.runLoop (some until_) maxEvents start none [] := by
        rw [Config.advance, stack]
      rw [round]
      rcases RunStage.runLoop coherent within with ⟨event, -, soon, fires⟩ | ended
      · rw [fires]
        exact settles start event
          ((lawful.enter event.callback (config.sim.fireNext event)
          config.world).now_within horizon soon) _
      · exact ended
  | within start event code stack =>
      have horizon : config.sim.runUntil = some until_ := by
        rw [coherent.horizon, stack]
        rfl
      have acts : config.advance decision = config.act decision := by
        rw [Config.advance, stack]
      have alone := unstepped event code _ stack
      rw [acts]
      cases decision with
      | call op =>
          exact ⟨(lawful.exec _ _ _).now_within horizon within,
            .within start event code stack⟩
      | answer value =>
          simp only [Config.act, stack]
          exact settles start event ((lawful.resume _ _ _ _).now_within horizon within) _
      | raise error =>
          simp only [Config.act, stack]
          exact ⟨within, .ended rfl fun count last => by simp [propagate] at last⟩
      | step => exact absurd trivial alone
      | run => exact absurd trivial alone
      | wait => exact absurd trivial alone

theorem RunsWithin.start {config : Config S} (coherent : config.Coherent)
    (lawful : S.Lawful) (top : config.stack = []) (notPast : config.sim.now ≤ until_) :
    RunsWithin until_ maxEvents (config.advance (.run (some until_) maxEvents)) := by
  have outside : config.sim.runUntil = none := by
    rw [coherent.horizon, top]
    rfl
  have opened : config.advance (.run (some until_) maxEvents) = { config with
      sim := { config.sim with runUntil := some until_ }
      stack := [.run (some until_) maxEvents config.sim.processed none] } := by
    simp only [Config.advance, top, Config.act, outside]
  have kept := coherent.advance lawful (.run (some until_) maxEvents)
  rw [opened] at kept ⊢
  exact ⟨kept, notPast, .head config.sim.processed rfl⟩

/-- In a `run` from the top level the time never passes the horizon, and when it returns
and had no other bound, no live event is at or before the horizon. -/
theorem RunsWithin.reach (lawful : S.Lawful) {config : Config S}
    (coherent : config.Coherent)
    (top : config.stack = []) (notPast : config.sim.now ≤ until_) {after : Config S}
    (reached : Transition.Reach Config.advance
      (fun config decision => config.stack ≠ [] ∧ config.Unstepped decision)
      (config.advance (.run (some until_) maxEvents)) after) :
    RunsWithin until_ maxEvents after :=
  reached.invariant (RunsWithin until_ maxEvents) (.start coherent lawful top notPast)
    fun _ _ runs permitted => runs.advance lawful permitted.1 permitted.2

end Config

end Pyramulator
