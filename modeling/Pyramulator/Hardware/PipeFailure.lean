import Pyramulator.Hardware.PipeConsistency

namespace Pyramulator.PipeWorld

open Config (codes)

variable {α η : Type}

/-! A consumer that raises. -/

/-- Where the consumer is not being called, the slots taken are those of the queued and
of the stalled items, and one retry is queued while items are stalled. -/
def Agrees (config : Config (pipeSystem α η)) : Prop :=
  Idle (codes config.stack) →
    config.world.pipe.inFlight =
        (deliveries config.sim).length + config.world.pipe.stalled.length ∧
      (config.world.pipe.stalled ≠ [] → (retries config.sim).length = 1)

def Prompt (config : Config (pipeSystem α η)) (decision : Decision (pipeSystem α η)) :
    Prop :=
  Idle (codes config.stack) ∨ (∃ op, decision = .call op) ∨
    (∃ value, decision = .answer value) ∨ ∃ error, decision = .raise error

def Quiet (config : Config (pipeSystem α η)) (decision : Decision (pipeSystem α η)) :
    Prop :=
  ¬ Idle (codes config.stack) → ∀ error, decision ≠ .raise error

variable {config : Config (pipeSystem α η)} {decision : Decision (pipeSystem α η)}

theorem Prompt.obedient (prompt : Prompt config decision)
    (quiet : Quiet config decision) :
    Obedient config decision := by
  rcases prompt with idle | call | answer | ⟨error, raise⟩
  · exact .inl idle
  · exact .inr (.inl call)
  · exact .inr (.inr answer)
  · refine .inl ?_
    by_contra consumed
    exact quiet consumed error raise

variable [DecidableEq α] {setup : Pipe (Item α)}

theorem Kept.agrees (kept : Kept setup config.sim config.world (codes config.stack)) :
    Agrees config := by
  intro idle
  have occupancy := kept.occupancy
  rw [contents, idle.delivering, List.append_nil, List.length_append] at occupancy
  refine ⟨by omega, fun stalled => ?_⟩
  rcases retry_cases kept.retry idle with ⟨-, -, empty⟩ | ⟨event, -, only, -⟩
  · exact absurd empty stalled
  · rw [only]
    rfl

/-- A consumer that raises out of `_deliver` leaves a slot that is never freed; out of
`_retry`, it leaves items that no event retries. -/
theorem Kept.raised_disagrees {code : PipeCode α η} {rest : List (PipeCode α η)}
    (kept : Kept setup config.sim config.world (code :: rest))
    (consumer : isConsumer code = true)
    (after : Config (pipeSystem α η))
    (live : after.sim.liveEvents = config.sim.liveEvents)
    (world : after.world = config.world) (position : codes after.stack = rest) :
    ¬ Agrees after := by
  intro agrees
  have idle : Idle (codes after.stack) := by
    rw [position]
    exact fun code member => kept.single code (List.mem_of_mem_head? member)
  obtain ⟨slots, retried⟩ := agrees idle
  rw [world, deliveries, live] at slots
  rw [world, retries, live] at retried
  cases code with
  | pipe event =>
      cases event with
      | retry => cases consumer
      | deliver item =>
          have occupancy := kept.occupancy
          simp only [contents, delivering_deliver, deliveries, List.length_append,
            List.length_cons, List.length_nil] at occupancy
          omega
  | host tag => cases consumer
  | retryOffer item =>
      obtain ⟨-, noRetries, first⟩ : config.world.pipe.retryEid = none ∧
        retries config.sim = [] ∧ config.world.pipe.stalled.head? = some item :=
          kept.retry
      have stalled : config.world.pipe.stalled ≠ [] := by
        intro empty
        rw [empty] at first
        cases first
      have one := retried stalled
      rw [← retries, noRetries] at one
      cases one

omit [DecidableEq α] in
theorem consumer_on_top (orderly : Config.Orderly Idle config.stack)
    (asked : ¬ Idle (codes config.stack)) :
    ∃ event code rest, config.stack = .callback event code :: rest ∧
      isConsumer code = true := by
  rcases shape : config.stack with _ |
    ⟨⟨event, code⟩ | _ | ⟨until_, maxEvents, start, prev⟩ |
    ⟨target, _, _⟩, rest⟩
  · rw [shape] at asked
    exact absurd (by simp [Idle, codes]) asked
  · refine ⟨event, code, rest, rfl, ?_⟩
    by_contra other
    refine asked ?_
    rw [shape]
    simpa [Idle, codes] using other
  · rw [shape] at orderly asked
    exact absurd orderly.1 asked
  · rw [shape] at orderly asked
    exact absurd orderly.1 asked
  · exact target.elim

/-- All states of a run agree with the agenda if and only if no consumer raises: right
after a consumer raised, the pipe does not. -/
theorem raising_consumer {component : Component} {latencyCycles slots : Int}
    {pipe : Pipe (Item α)}
    (created : Pipe.create component latencyCycles slots = .ok pipe)
    {decisions : List (Decision (pipeSystem α η))}
    (prompt : Transition.Follows Config.advance Prompt
      (Config.init (create pipe)) decisions) :
    (∀ initial, initial <+: decisions →
        Agrees (Transition.run Config.advance (Config.init (create pipe)) initial)) ↔
      Transition.Follows Config.advance Quiet (Config.init (create pipe)) decisions := by
  obtain ⟨rfl, rfl, rfl, inFlight, stalled, retryEid⟩ := create_ok created
  have kept : Kept pipe (Simulator.init : Simulator (PipeCode α η)) (create pipe) [] :=
    kept_create inFlight stalled retryEid
  refine Transition.holds_iff_follows
    (fun config => config.Coherent ∧
      Config.Invariant.Kept Idle (Kept.property (η := η) pipe) config) Agrees
    (fun config decision both prompt quiet => ?_)
      (fun config decision both agrees prompt => ?_)
    ?_ kept.agrees prompt
  · exact ⟨both.1.advance lawful decision,
      (kept_rule pipe).advance config both.1 both.2 decision (prompt.obedient quiet)⟩
  · obtain ⟨coherent, holds, orderly⟩ := both
    constructor
    · rintro agrees asked error rfl
      obtain ⟨event, code, rest, shape, consumer⟩ := consumer_on_top orderly asked
      have kept : Kept pipe config.sim config.world (code :: codes rest) := by
        have kept : Kept pipe config.sim config.world (codes config.stack) := holds
        rw [shape] at kept
        exact kept
      refine kept.raised_disagrees consumer (config.advance (.raise error))
        ?_ ?_ ?_ agrees
      · simp only [Config.advance, Config.act, shape]
        rfl
      · simp only [Config.advance, Config.act, shape]
        rfl
      · simp only [Config.advance, Config.act, shape]
        exact Config.Invariant.codes_unwind rest _
    · intro quiet
      obtain ⟨kept, -⟩ :=
        (kept_rule pipe).advance config coherent ⟨holds, orderly⟩ decision
        (prompt.obedient quiet)
      exact Kept.agrees kept
  · exact ⟨Config.init_coherent _, kept, trivial⟩

/-- The consumer refuses an item, and it raises when the item is offered again. -/
def raisingRetry : List (Decision (pipeSystem Nat Unit)) :=
  [.call (.put 7), .step, .answer .refused, .step, .raise (.user 0)]

theorem raising_consumer_oneItem :
    Agrees (Transition.run Config.advance (Config.init (create onePipe)) oneItem) := by
  have created : Pipe.create ⟨⟨10, by decide⟩, "pipe"⟩ 1 1 = .ok onePipe := rfl
  refine (raising_consumer created ?_).mpr ?_ oneItem (List.prefix_refl _)
  · exact ⟨.inl (by decide), .inl (by decide), .inr (.inr (.inl ⟨_, rfl⟩)),
      .inl (by decide), .inr (.inr (.inl ⟨_, rfl⟩)), trivial⟩
  · exact ⟨by simp [Quiet], by simp [Quiet], by simp [Quiet], by simp [Quiet],
      by simp [Quiet], trivial⟩

/-- The item stays stalled, and no event will offer it again. -/
theorem raisingRetry_stranded :
    let config :=
      Transition.run Config.advance (Config.init (create onePipe)) raisingRetry
    config.stack = [] ∧ config.world.pipe.stalled ≠ [] ∧ config.sim.liveEvents = [] ∧
      ¬ Agrees config := by
  refine ⟨by decide, by decide, by decide, fun agrees => ?_⟩
  exact absurd (agrees (by decide)).2 (by decide)

end Pyramulator.PipeWorld
