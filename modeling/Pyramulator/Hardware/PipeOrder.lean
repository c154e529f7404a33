import Pyramulator.Hardware.PipeConsistency

namespace Pyramulator.PipeWorld

open Config (codes)

/-! Items leave the pipe in the order of their puts, except where `_deliver`
hands an item over past the stalled ones. -/

section Sequences

variable {Entry : Type*} [DecidableEq Entry]

theorem eq_append_of_prefix {whole done left : List Entry} (nodup : whole.Nodup)
    (begun : done <+: whole) (all : (done ++ left).Perm whole)
    (order : left.Sublist whole) : whole = done ++ left := by
  obtain ⟨rest, rfl⟩ := begun
  have same : left.Perm rest := (List.perm_append_left_iff done).mp all
  have apart : ∀ entry ∈ rest, entry ∉ done := fun entry member early =>
    (List.nodup_append.mp nodup).2.2 entry early entry member rfl
  have only := order.filter fun entry => entry ∉ done
  have first : left.filter (fun entry => entry ∉ done) = left :=
    List.filter_eq_self.mpr fun entry member => by
      simpa using apart entry (same.subset member)
  have second : (done ++ rest).filter (fun entry => entry ∉ done) = rest := by
    rw [List.filter_append, List.filter_eq_nil_iff.mpr (by simp),
      List.filter_eq_self.mpr fun entry member => by simpa using apart entry member]
    rfl
  rw [first, second] at only
  rw [only.eq_of_length same.length_eq]

theorem append_prefix_iff {whole done : List Entry} (front : List Entry)
    (entry : Entry) (back : List Entry) (nodup : whole.Nodup) (begun : done <+: whole)
    (all : (done ++ (front ++ entry :: back)).Perm whole)
    (order : (front ++ entry :: back).Sublist whole) :
    done ++ [entry] <+: whole ↔ front = [] := by
  have shape := eq_append_of_prefix nodup begun all order
  rw [shape, List.prefix_append_right_inj]
  constructor
  · intro next
    cases front with
    | nil => rfl
    | cons head tail =>
        obtain ⟨rest, same⟩ := next
        obtain rfl : entry = head := (List.cons.inj same).1
        rw [shape] at nodup
        have clash := (List.nodup_append.mp nodup).2.1
        simp at clash
  · rintro rfl
    exact ⟨back, rfl⟩

end Sequences

variable {α η : Type}

def InOrder (world : PipeWorld α) : Prop := world.accepted <+: world.puts

instance [DecidableEq α] (world : PipeWorld α) : Decidable world.InOrder :=
  inferInstanceAs (Decidable (_ <+: _))

/-- The consumer refuses whatever `_deliver` offers while items are stalled. -/
def InTurn (config : Config (pipeSystem α η))
    (decision : Decision (pipeSystem α η)) : Prop :=
  delivering (codes config.stack) ≠ [] → config.world.pipe.stalled ≠ [] →
    decision ≠ .answer .accepted

def offering : PipeCode α η → List (Item α)
  | .pipe (.deliver item) | .retryOffer item => [item]
  | _ => []

theorem exec_accepted (op : PipeOp α η) (sim : Simulator (PipeCode α η))
    (world : PipeWorld α) :
    (exec op sim world).2.2.accepted = world.accepted := by
  cases op with
  | put value =>
      simp only [exec]
      split <;> simp [accepted]
  | schedule delay tag priority =>
      simp only [exec, scheduled]
      split <;> rfl
  | at_ time tag priority =>
      simp only [exec, scheduled]
      split <;> rfl
  | cancel handle =>
      simp only [exec]
      split <;> rfl
  | nextTime => rfl
  | advanceTo time => rfl

theorem exec_puts (op : PipeOp α η) (sim : Simulator (PipeCode α η))
    (world : PipeWorld α) : world.puts <+: (exec op sim world).2.2.puts := by
  cases op with
  | put value =>
      simp only [exec]
      split
      · rw [puts_note]
        exact List.prefix_append _ _
      · exact List.prefix_refl _
      · exact List.prefix_refl _
  | schedule delay tag priority =>
      simp only [exec, scheduled]
      split <;> exact List.prefix_refl _
  | at_ time tag priority =>
      simp only [exec, scheduled]
      split <;> exact List.prefix_refl _
  | cancel handle =>
      simp only [exec]
      split <;> exact List.prefix_refl _
  | nextTime => exact List.prefix_refl _
  | advanceTo time => exact List.prefix_refl _

theorem retryLoop_inOrder (sim : Simulator (PipeCode α η)) (world : PipeWorld α) :
    (retryLoop sim world).world.accepted = world.accepted ∧
      (retryLoop sim world).world.puts = world.puts := by
  unfold retryLoop
  split
  · exact ⟨rfl, rfl⟩
  · simp [Outcome.world, accepted, puts]

theorem enter_inOrder (code : PipeCode α η) (sim : Simulator (PipeCode α η))
    (world : PipeWorld α) :
    (enter code sim world).world.accepted = world.accepted ∧
      (enter code sim world).world.puts = world.puts := by
  rcases code with (item | _) | item | tag
  · simp [enter, Outcome.world, accepted, puts]
  · exact retryLoop_inOrder sim _
  · exact ⟨rfl, rfl⟩
  · exact ⟨rfl, rfl⟩

theorem settled_world (world : PipeWorld α)
    (result : Except PyError Unit × Simulator (PipeCode α η) × Pipe (Item α)) :
    (world.settled result).world = { world with pipe := result.2.2 } := by
  rcases result with ⟨_ | _, _, _⟩ <;> rfl

theorem resume_inOrder (code : PipeCode α η) (answer : Consumed)
    (sim : Simulator (PipeCode α η)) (world : PipeWorld α) :
    (resume code answer sim world).world.accepted = world.accepted ++
        (if answer = .accepted then offering code else []) ∧
      (resume code answer sim world).world.puts = world.puts := by
  rcases code with (item | _) | item | tag
  · cases answer with
    | refused => simp [resume, settled_world, accepted, puts]
    | accepted => simp [resume, settled_world, accepted, puts, offering]
  · cases answer <;> simp [resume, offering, Outcome.world]
  · cases answer with
    | refused => simp [resume, settled_world, accepted, puts]
    | accepted =>
        simp only [resume]
        split
        · rename_i after pipe result
          obtain ⟨first, second⟩ := retryLoop_inOrder after
            { world.note (.accepted item) with pipe }
          rw [first, second]
          simp [accepted, puts, offering]
        · simp [Outcome.world, accepted, puts, offering]
  · cases answer <;> simp [resume, offering, Outcome.world]

section Accept

variable [DecidableEq α] {setup : Pipe (Item α)} {sim : Simulator (PipeCode α η)}
  {world : PipeWorld α} {below : List (PipeCode α η)} {item : Item α}

theorem delivered_inOrder_iff
    (kept : Kept setup sim world (.pipe (.deliver item) :: below))
    (inOrder : world.InOrder) :
    world.accepted ++ [item] <+: world.puts ↔ world.pipe.stalled = [] := by
  have shape : contents world.pipe sim (.pipe (.deliver item) :: below) =
      world.pipe.stalled ++ item :: deliveries sim := by
    simp [contents]
  refine append_prefix_iff _ _ (deliveries sim) kept.puts_nodup inOrder ?_ ?_
  · exact shape ▸ kept.once
  · exact shape ▸ kept.order

theorem retried_inOrder (kept : Kept setup sim world (.retryOffer item :: below))
    (inOrder : world.InOrder) : world.accepted ++ [item] <+: world.puts := by
  have head : world.pipe.stalled.head? = some item := by
    have state := kept.retry
    rw [RetryState, retrying_retryOffer] at state
    exact state.2.2
  obtain ⟨rest, stalled⟩ := List.head?_eq_some_iff.mp head
  have shape : contents world.pipe sim (.retryOffer item :: below) =
      [] ++ item :: (rest ++ deliveries sim) := by
    simp [contents, stalled]
  refine (append_prefix_iff [] _ (rest ++ deliveries sim) kept.puts_nodup inOrder
    ?_ ?_).mpr rfl
  · exact shape ▸ kept.once
  · exact shape ▸ kept.order

end Accept

theorem inOrder_rule [DecidableEq α] (setup : Pipe (Item α)) :
    Config.Invariant
      (fun config decision => Obedient config decision ∧ InTurn config decision)
      Idle
      (fun sim world codes fired =>
        Kept.property (η := η) setup sim world codes fired ∧ world.InOrder) where
  congr after kept live seq now :=
    ⟨(kept_rule setup).congr after kept.1 live seq now, kept.2⟩
  exec {config} op coherent kept permitted := by
    refine ⟨(kept_rule setup).exec op coherent kept.1 permitted.1, ?_⟩
    rw [InOrder, exec_accepted]
    exact kept.2.trans (exec_puts op config.sim config.world)
  enter {config _ _ event} wellFormed permitted fires position idle kept next := by
    refine ((kept_rule setup).enter wellFormed permitted.1 fires position idle kept.1
      next).and ?_
    obtain ⟨first, second⟩ := enter_inOrder event.callback
      (config.sim.fireNext event) config.world
    rw [InOrder, first, second]
    exact kept.2
  resume {config code below} answer wellFormed permitted position kept := by
    refine ((kept_rule setup).resume answer wellFormed permitted.1 position
      kept.1).and ?_
    obtain ⟨first, second⟩ := resume_inOrder code answer config.sim config.world
    rw [InOrder, first, second]
    cases answer with
    | refused => simpa [InOrder] using kept.2
    | accepted =>
        have inTurn := permitted.2
        rw [InTurn, position] at inTurn
        rcases code with (item | _) | item | tag
        · refine (delivered_inOrder_iff kept.1 kept.2).mpr ?_
          by_contra stalled
          exact inTurn (by simp) stalled rfl
        · simpa [offering, InOrder] using kept.2
        · exact retried_inOrder kept.1 kept.2
        · simpa [offering, InOrder] using kept.2
  raise error permitted position kept :=
    ⟨(kept_rule setup).raise error permitted.1 position kept.1, kept.2⟩
  step permitted := (kept_rule (α := α) (η := η) setup).step permitted.1
  run permitted := (kept_rule (α := α) (η := η) setup).run permitted.1
  wait {_ target} _ := target.elim

theorem top_of_consumer {config : Config (pipeSystem α η)} {item : Item α}
    {below : List (PipeCode α η)}
    (orderly : Config.Orderly Idle config.stack)
    (position : codes config.stack = .pipe (.deliver item) :: below) :
    ∃ event rest, config.stack =
      .callback event (.pipe (.deliver item)) :: rest := by
  have asked : ¬ Idle (codes config.stack) := by
    rw [position]
    exact fun idle => by simpa [isConsumer] using idle _ rfl
  cases shape : config.stack with
  | nil => rw [shape] at position; cases position
  | cons frame rest =>
      rw [shape] at orderly asked position
      cases frame with
      | callback event code =>
          obtain rfl : code = .pipe (.deliver item) := (List.cons.inj position).1
          exact ⟨event, rest, rfl⟩
      | step => exact absurd orderly.1 asked
      | run => exact absurd orderly.1 asked
      | wait => exact absurd orderly.1 asked

theorem outOfTurn_breaks [DecidableEq α] {setup : Pipe (Item α)}
    {config : Config (pipeSystem α η)}
    (kept : Kept setup config.sim config.world (codes config.stack))
    (orderly : Config.Orderly Idle config.stack)
    (inOrder : config.world.InOrder)
    {decision : Decision (pipeSystem α η)} (outOfTurn : ¬ InTurn config decision) :
    ¬ (config.advance decision).world.InOrder := by
  simp only [InTurn, Classical.not_imp, not_not] at outOfTurn
  obtain ⟨offered, stalled, rfl⟩ := outOfTurn
  obtain ⟨item, below, position⟩ : ∃ item below,
      codes config.stack = .pipe (.deliver item) :: below := by
    cases shape : codes config.stack with
    | nil => exact absurd (by rw [shape]; rfl) offered
    | cons code below =>
        rcases code with (item | _) | item | tag
        · exact ⟨item, below, rfl⟩
        · exact absurd (by rw [shape]; rfl) offered
        · exact absurd (by rw [shape]; rfl) offered
        · exact absurd (by rw [shape]; rfl) offered
  obtain ⟨event, rest, shape⟩ := top_of_consumer orderly position
  rw [position] at kept
  have after : (config.advance (.answer .accepted)).world =
      (resume (.pipe (.deliver item)) .accepted config.sim config.world).world := by
    simp only [Config.advance, Config.act, shape]
    exact Config.settle_world _ _ _ _
  obtain ⟨first, second⟩ :=
    resume_inOrder (.pipe (.deliver item)) .accepted config.sim config.world
  rw [InOrder, after, first, second]
  exact fun accepted => stalled ((delivered_inOrder_iff kept inOrder).mp accepted)

/-- The items of a run leave in the order of their puts, in every state of the
run, if and only if the consumer accepts nothing from `_deliver` while items are
stalled. -/
theorem inOrder_iff [DecidableEq α] {component : Component}
    {latencyCycles slots : Int} {pipe : Pipe (Item α)}
    (created : Pipe.create component latencyCycles slots = .ok pipe)
    {decisions : List (Decision (pipeSystem α η))}
    (obedient : Transition.Follows Config.advance Obedient
      (Config.init (create pipe)) decisions) :
    (∀ initial, initial <+: decisions →
        (Transition.run Config.advance (Config.init (create pipe))
          initial).world.InOrder) ↔
      Transition.Follows Config.advance InTurn (Config.init (create pipe))
        decisions := by
  obtain ⟨rfl, rfl, rfl, inFlight, stalled, retryEid⟩ := create_ok created
  have start := kept_create (η := η) inFlight stalled retryEid
  constructor
  · intro ordered
    refine Transition.follows_iff.mpr fun first decision rest split => ?_
    have reached := (obedient.begun ⟨decision :: rest, split.symm⟩).reach
    obtain ⟨-, kept, orderly⟩ := (kept_rule pipe).reach lawful
      (Config.init_coherent _) ⟨start, trivial⟩ reached
    by_contra outOfTurn
    refine outOfTurn_breaks kept orderly (ordered first ⟨_, split.symm⟩) outOfTurn ?_
    have next := ordered (first ++ [decision]) ⟨rest, by rw [split]; simp⟩
    rwa [Transition.run_append] at next
  · intro inTurn initial begun
    have both := (obedient.begun begun).and (inTurn.begun begun)
    obtain ⟨-, kept, -⟩ := (inOrder_rule pipe).reach lawful
      (Config.init_coherent _) ⟨⟨start, List.prefix_refl _⟩, trivial⟩ both.reach
    exact kept.2

def overtaking : List (Decision (pipeSystem Nat Unit)) :=
  [.call (.put 0), .call (.put 1), .step, .answer .refused, .step,
    .answer .accepted, .step, .answer .accepted]

def twoSlots : Pipe (Item Nat) :=
  { onePipe with slots := 2, latency_pos := one_slot, slots_pos := two_slots }

/-- A consumer that refuses once receives the second item first. -/
theorem overtaking_outOfOrder :
    Pipe.create ⟨⟨10, by decide⟩, "pipe"⟩ 1 2 = .ok twoSlots ∧
      Transition.Follows Config.advance Obedient (Config.init (create twoSlots))
        overtaking ∧
      let world := (Transition.run Config.advance (Config.init (create twoSlots))
        overtaking).world
      world.puts.map Item.value = [0, 1] ∧
        world.accepted.map Item.value = [1, 0] ∧ ¬ world.InOrder := by
  refine ⟨rfl, ?_, by decide, by decide, ?_⟩
  · exact ⟨.inl (by decide), .inl (by decide), .inl (by decide),
      .inr (.inr ⟨_, rfl⟩), .inl (by decide), .inr (.inr ⟨_, rfl⟩),
      .inl (by decide), .inr (.inr ⟨_, rfl⟩), trivial⟩
  · decide

theorem inOrder_iff_overtaking :
    (∀ initial, initial <+: overtaking →
        (Transition.run Config.advance (Config.init (create twoSlots))
          initial).world.InOrder) ↔
      Transition.Follows Config.advance InTurn (Config.init (create twoSlots))
        overtaking := by
  have created : Pipe.create ⟨⟨10, by decide⟩, "pipe"⟩ 1 2 = .ok twoSlots := rfl
  refine inOrder_iff created ?_
  exact ⟨.inl (by decide), .inl (by decide), .inl (by decide),
    .inr (.inr ⟨_, rfl⟩), .inl (by decide), .inr (.inr ⟨_, rfl⟩),
    .inl (by decide), .inr (.inr ⟨_, rfl⟩), trivial⟩

end Pyramulator.PipeWorld
