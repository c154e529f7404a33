import Pyramulator.Hardware.PipeInvariant

namespace Pyramulator.PipeWorld

open Config (codes)

variable {α η : Type}

/-! The pipe keeps to the calls of the kernel. -/

theorem put_calls (pipe : Pipe (Item α)) (sim : Simulator (PipeCode α η))
    (item : Item α) : Simulator.Calls sim (pipe.put .pipe sim item).2.1 := by
  by_cases full : pipe.full = true
  · rw [Pipe.put_full _ _ _ full]
  · rw [Pipe.put_accepted _ _ _ (by simpa using full)]
    refine .single (.push _ ?_ _ _ _)
    have nonneg : 0 ≤ pipe.latencyCycles := by have := pipe.latency_pos; omega
    have := Int.mul_nonneg nonneg pipe.clk.positive.le
    omega

theorem scheduleRetry_calls (pipe : Pipe (Item α))
    (sim : Simulator (PipeCode α η)) :
    Simulator.Calls sim (pipe.scheduleRetry .pipe sim).2.1 := by
  rw [Pipe.scheduleRetry_eq]
  refine .single (.push _ ?_ _ _ _)
  have := pipe.clk.positive
  omega

theorem retryLoop_calls (sim : Simulator (PipeCode α η)) (world : PipeWorld α) :
    (retryLoop sim world).sim = sim := by
  unfold retryLoop
  split <;> rfl

theorem settled_sim (world : PipeWorld α)
    (result : Except PyError Unit × Simulator (PipeCode α η) × Pipe (Item α)) :
    (world.settled result).sim = result.2.1 := by
  rcases result with ⟨_ | _, _, _⟩ <;> rfl

theorem deliver_calls (pipe : Pipe (Item α)) (sim : Simulator (PipeCode α η))
    (item : Item α) (answer : Consumed) :
    Simulator.Calls sim (pipe.deliver .pipe sim item answer).2.1 := by
  cases answer with
  | accepted => exact .refl
  | refused =>
      simp only [Pipe.deliver]
      split
      · exact scheduleRetry_calls _ sim
      · exact .refl

theorem retryAnswer_calls (pipe : Pipe (Item α)) (sim : Simulator (PipeCode α η))
    (answer : Consumed) :
    Simulator.Calls sim (pipe.retryAnswer .pipe sim answer).2.1 := by
  cases answer with
  | refused => exact scheduleRetry_calls pipe sim
  | accepted =>
      simp only [Pipe.retryAnswer]
      split <;> exact .refl

theorem exec_calls (op : PipeOp α η) (sim : Simulator (PipeCode α η))
    (world : PipeWorld α) : Simulator.Calls sim (exec op sim world).2.1 := by
  cases op with
  | put value =>
      have calls := put_calls world.pipe sim ⟨world.puts.length, value, sim.now⟩
      simp only [exec]
      split <;> rename_i result <;> rw [result] at calls <;> exact calls
  | schedule delay tag priority =>
      have calls := sim.schedule_calls delay (.host tag : PipeCode α η) priority none
      simp only [exec, scheduled]
      split <;> rename_i result <;> rw [result] at calls <;> exact calls
  | at_ time tag priority =>
      have calls := sim.at_calls time (.host tag : PipeCode α η) priority none
      simp only [exec, scheduled]
      split <;> rename_i result <;> rw [result] at calls <;> exact calls
  | cancel handle =>
      simp only [exec]
      split
      · exact .single (.cancel _)
      · exact .refl
  | nextTime => exact .single .peek
  | advanceTo time => exact sim.advanceTo_calls time

theorem lawful : (pipeSystem α η).Lawful where
  exec := exec_calls
  enter code sim world := by
    rcases code with (item | _) | item | tag
    · exact .refl
    · simp only [enter, retryLoop_calls]
      exact .refl
    · exact .refl
    · exact .refl
  resume code answer sim world := by
    rcases code with (item | _) | item | tag
    · cases answer <;> simp only [resume, settled_sim] <;>
        exact deliver_calls _ _ _ _
    · exact .refl
    · cases answer with
      | refused =>
          simp only [resume, settled_sim]
          exact retryAnswer_calls _ _ _
      | accepted =>
          have calls := retryAnswer_calls (world.note (.accepted item)).pipe sim
            .accepted
          simp only [resume]
          split <;> rename_i result <;> rw [result] at calls
          · rw [retryLoop_calls]
            exact calls
          · exact calls
    · exact .refl

/-- A consumer that is asked only makes calls and answers: it neither raises nor
steps the simulator. -/
def Obedient (config : Config (pipeSystem α η))
    (decision : Decision (pipeSystem α η)) : Prop :=
  Idle (codes config.stack) ∨ (∃ op, decision = .call op) ∨
    ∃ value, decision = .answer value

theorem kept_rule [DecidableEq α] (setup : Pipe (Item α)) :
    Config.Invariant Obedient Idle (Kept.property (η := η) setup) where
  congr after kept live seq now := kept.sameAgenda after live seq now.ge
  exec op coherent kept _ := Kept.exec kept coherent.wellFormed op
  enter wellFormed _ _ _ idle kept next := Kept.enter kept next wellFormed idle _
  resume answer wellFormed _ _ kept := Kept.resume kept wellFormed answer _
  raise error permitted position kept := by
    rcases permitted with idle | ⟨_, impossible⟩ | ⟨_, impossible⟩
    · exact Kept.pop kept (idle _ (by rw [position]; rfl))
    · cases impossible
    · cases impossible
  step permitted := by
    rcases permitted with idle | ⟨_, impossible⟩ | ⟨_, impossible⟩
    · exact idle
    · cases impossible
    · cases impossible
  run permitted := by
    rcases permitted with idle | ⟨_, impossible⟩ | ⟨_, impossible⟩
    · exact idle
    · cases impossible
    · cases impossible
  wait {_ target} _ := target.elim

theorem kept_create [DecidableEq α] {pipe : Pipe (Item α)}
    (inFlight : pipe.inFlight = 0) (stalled : pipe.stalled = [])
    (retryEid : pipe.retryEid = none) :
    Kept pipe (Simulator.init : Simulator (PipeCode α η)) (create pipe) [] where
  component := rfl
  latency := rfl
  slots := rfl
  hosts := by simp [create]
  arrival := by simp [Simulator.init, Simulator.liveEvents]
  occupancy := by
    simp [create, contents, inFlight, stalled, delivering, deliveries,
      Simulator.init, Simulator.liveEvents]
  bound := by
    have := pipe.slots_pos
    simp only [create]
    omega
  single := by simp
  tickets := rfl
  order := by
    simp [create, contents, stalled, delivering, deliveries, Simulator.init,
      Simulator.liveEvents]
  once := by
    simp [create, contents, stalled, delivering, deliveries, Simulator.init,
      Simulator.liveEvents, accepted, puts]
  offered := by simp [create, seen, accepted, stalled, delivering]
  unoffered := by simp [create, offers]
  retry := by
    simp [RetryState, retrying, create, retryEid, stalled, retries,
      Simulator.init, Simulator.liveEvents]

theorem retry_cases {pipe : Pipe (Item α)} {sim : Simulator (PipeCode α η)}
    {codes : List (PipeCode α η)} (state : RetryState pipe sim codes)
    (idle : Idle codes) :
    pipe.retryEid = none ∧ retries sim = [] ∧ pipe.stalled = [] ∨
      ∃ event, pipe.retryEid = some event.seq ∧ retries sim = [event] ∧
        pipe.stalled ≠ [] ∧ event.time ≤ sim.now + pipe.clk.periodPs := by
  rw [RetryState, idle.retrying] at state
  cases set : pipe.retryEid with
  | none =>
      rw [set] at state
      exact .inl ⟨rfl, state⟩
  | some eventId =>
      rw [set] at state
      obtain ⟨stalled, event, only, rfl, soon⟩ := state
      exact .inr ⟨event, rfl, only, stalled, soon⟩

theorem create_ok {component : Component} {latencyCycles slots : Int}
    {pipe : Pipe (Item α)}
    (created : Pipe.create component latencyCycles slots = .ok pipe) :
    pipe.toComponent = component ∧ pipe.latencyCycles = latencyCycles ∧
      pipe.slots = slots ∧ pipe.inFlight = 0 ∧ pipe.stalled = [] ∧
        pipe.retryEid = none := by
  unfold Pipe.create at created
  split at created
  · split at created
    · cases created
      exact ⟨rfl, rfl, rfl, rfl, rfl, rfl⟩
    · cases created
  · cases created

structure Consistent [DecidableEq α] (component : Component)
    (latencyCycles slots : Int) (config : Config (pipeSystem α η)) : Prop where
  /-- A slot is taken by a queued delivery or by a stalled item. -/
  occupancy : config.world.pipe.inFlight =
    (deliveries config.sim).length + config.world.pipe.stalled.length
  bounds : 0 ≤ config.world.pipe.inFlight ∧ config.world.pipe.inFlight ≤ slots
  retry_set : config.world.pipe.stalled ≠ [] ↔
    config.world.pipe.retryEid ≠ none
  retry_queued : config.world.pipe.retryEid ≠ none ↔
    (retries config.sim).length = 1
  no_retry : config.world.pipe.retryEid = none → retries config.sim = []
  /-- The retry event is the one that is noted, and it is due within a period. -/
  retry_due : ∀ event ∈ retries config.sim,
    config.world.pipe.retryEid = some event.seq ∧
      event.time ≤ config.sim.now + component.clk.periodPs
  /-- An item is offered first one latency after its put; till then its
  delivery is queued for that time. -/
  first_offer : ∀ item ∈ config.world.puts,
    (config.world.offers item).head? =
        some (item.putAt + latencyCycles * component.clk.periodPs) ∨
      config.world.offers item = [] ∧ ∃ event ∈ config.sim.liveEvents,
        deliveryOf event = some item ∧
          event.time = item.putAt + latencyCycles * component.clk.periodPs
  accepted_once : config.world.accepted.Nodup ∧
    config.world.accepted ⊆ config.world.puts
  drained : config.sim.liveEvents = [] →
    config.world.accepted.Perm config.world.puts

/-- In every run with a consumer that neither raises nor steps the simulator,
the pipe is consistent whenever the consumer is not being called. -/
theorem pipe_consistent [DecidableEq α] {component : Component}
    {latencyCycles slots : Int} {pipe : Pipe (Item α)}
    (created : Pipe.create component latencyCycles slots = .ok pipe)
    {config : Config (pipeSystem α η)}
    (reached : Transition.Reach Config.advance Obedient
      (Config.init (create pipe)) config)
    (between : Idle (codes config.stack)) :
    Consistent component latencyCycles slots config := by
  obtain ⟨rfl, rfl, rfl, inFlight, stalled, retryEid⟩ := create_ok created
  obtain ⟨coherent, kept, -⟩ := (kept_rule pipe).reach lawful
    (Config.init_coherent _) ⟨kept_create inFlight stalled retryEid, trivial⟩ reached
  change Kept pipe config.sim config.world (codes config.stack) at kept
  have wellFormed := coherent.wellFormed
  have waiting : contents config.world.pipe config.sim (codes config.stack) =
      config.world.pipe.stalled ++ deliveries config.sim := by
    rw [contents, between.delivering, List.append_nil]
  have seenHere : config.world.seen (codes config.stack) =
      config.world.accepted ++ config.world.pipe.stalled := by
    rw [seen, between.delivering, List.append_nil]
  have retryState := retry_cases kept.retry between
  have occupancy := kept.occupancy
  rw [waiting, List.length_append] at occupancy
  refine
    { occupancy := by omega
      bounds := ⟨by omega, kept.bound⟩
      retry_set := ?_
      retry_queued := ?_
      no_retry := ?_
      retry_due := ?_
      first_offer := ?_
      accepted_once := ?_
      drained := ?_ }
  · rcases retryState with ⟨unset, -, empty⟩ | ⟨event, set, -, stalled, -⟩
    · simp [unset, empty]
    · simp [set, stalled]
  · rcases retryState with ⟨unset, noRetries, -⟩ | ⟨event, set, only, -, -⟩
    · simp [unset, noRetries]
    · simp [set, only]
  · intro unset
    rcases retryState with ⟨-, noRetries, -⟩ | ⟨event, set, -, -, -⟩
    · exact noRetries
    · rw [unset] at set
      cases set
  · intro event member
    rcases retryState with ⟨-, noRetries, -⟩ | ⟨other, set, only, -, soon⟩
    · simp [noRetries] at member
    · obtain rfl : event = other := by simpa [only] using member
      exact ⟨set, kept.component ▸ soon⟩
  · intro item member
    have known := kept.once.mem_iff.mpr member
    rw [Flow.seen_eq] at known
    rcases List.mem_append.mp known with offered | queued
    · exact .inl (kept.offered item offered)
    · have nodup := kept.all_nodup
      have unseen : item ∉ config.world.seen (codes config.stack) := fun early =>
        (List.nodup_append.mp nodup).2.2 item early item queued rfl
      obtain ⟨event, live, delivery⟩ := List.mem_filterMap.mp queued
      exact .inr ⟨kept.unoffered item unseen, event, live, delivery,
        (kept.arrival event live item delivery).2.1⟩
  · refine ⟨?_, fun item member => kept.once.subset (List.mem_append_left _ member)⟩
    have nodup := kept.once.nodup_iff.mpr kept.puts_nodup
    exact (List.nodup_append.mp nodup).1
  · intro empty
    have noRetry : retries config.sim = [] := by simp [retries, empty]
    have noDelivery : deliveries config.sim = [] := by simp [deliveries, empty]
    have noStalled : config.world.pipe.stalled = [] := by
      rcases retryState with ⟨-, -, stalled⟩ | ⟨event, -, only, -, -⟩
      · exact stalled
      · simp [noRetry] at only
    have once := kept.once
    rw [waiting, noStalled, noDelivery] at once
    simpa using once

/-- One slot, one cycle of latency: a put, a refused offer and an accepted one. -/
def oneItem : List (Decision (pipeSystem Nat Unit)) :=
  [.call (.put 7), .step, .answer .refused, .step, .answer .accepted]

def onePipe : Pipe (Item Nat) where
  toComponent := ⟨⟨10, by decide⟩, "pipe"⟩
  latencyCycles := 1
  slots := 1
  latency_pos := by decide
  slots_pos := by decide
  inFlight := 0
  stalled := []
  retryEid := none

theorem one_slot : (1 : Int) ≤ 1 := le_rfl

theorem two_slots : (1 : Int) ≤ 2 := by decide

theorem pipe_consistent_oneItem :
    Consistent ⟨⟨10, by decide⟩, "pipe"⟩ 1 1
      (Transition.run Config.advance (Config.init (create onePipe)) oneItem) := by
  have created : Pipe.create ⟨⟨10, by decide⟩, "pipe"⟩ 1 1 = .ok onePipe := rfl
  refine pipe_consistent created (Transition.Follows.reach ?_) ?_
  · exact ⟨.inl (by decide), .inl (by decide), .inr (.inr ⟨_, rfl⟩),
      .inl (by decide), .inr (.inr ⟨_, rfl⟩), trivial⟩
  · decide

end Pyramulator.PipeWorld
