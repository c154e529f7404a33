import Pyramulator.Dram.Requests

namespace Pyramulator

/-! The clock of a component: what the agenda holds for it. -/

variable {ℓ γ η : Type}

def DramCode.Owned (label : ℓ) (code : DramCode ℓ γ η) : Prop :=
  ∃ closure, code = .dram label closure

def DramCode.Hosted (code : DramCode ℓ γ η) : Prop := ∃ tag, code = .host tag

def DramCode.Clock (label : ℓ) (code : DramCode ℓ γ η) : Prop :=
  code = .dram label .tick ∨ code = .dram label .idleTick

def DramCode.Completion (label : ℓ) (code : DramCode ℓ γ η) : Prop :=
  ∃ callback info, code = .dram label (.completion callback info)

theorem DramCode.Clock.owned {label : ℓ} {code : DramCode ℓ γ η}
    (clock : code.Clock label) : code.Owned label :=
  clock.elim (fun tick => ⟨_, tick⟩) fun idle => ⟨_, idle⟩

theorem DramCode.Completion.owned {label : ℓ} {code : DramCode ℓ γ η}
    (completion : code.Completion label) : code.Owned label := by
  obtain ⟨callback, info, named⟩ := completion
  exact ⟨_, named⟩

def DramCode.isOf [DecidableEq ℓ] [DecidableEq γ] (label : ℓ) (closure : DramEvent γ) :
    DramCode ℓ γ η → Bool
  | .dram other event => other = label && event = closure
  | .host _ => false

theorem DramCode.isOf_iff [DecidableEq ℓ] [DecidableEq γ] {label : ℓ}
    {closure : DramEvent γ} {code : DramCode ℓ γ η} :
    code.isOf label closure = true ↔ code = .dram label closure := by
  cases code <;> simp [isOf]

namespace Simulator

structure Local (kind : DramCode ℓ γ η → Prop)
    (sim after : Simulator (DramCode ℓ γ η)) : Prop where
  wellFormed : after.WellFormed
  seq : sim.seq ≤ after.seq
  now : sim.now ≤ after.now
  others : ∀ {Part : Type} (select : Event (DramCode ℓ γ η) → Option Part),
    (∀ event, kind event.callback → select event = none) →
      after.liveEvents.filterMap select = sim.liveEvents.filterMap select
  fresh : ∀ event ∈ after.liveEvents, event ∈ sim.liveEvents ∨ sim.seq ≤ event.seq

namespace Local

variable {kind : DramCode ℓ γ η → Prop} {sim middle after : Simulator (DramCode ℓ γ η)}

theorem refl (kind : DramCode ℓ γ η → Prop) (wellFormed : sim.WellFormed) :
    Local kind sim sim where
  wellFormed := wellFormed
  seq := le_refl _
  now := le_refl _
  others _ _ := rfl
  fresh _ member := .inl member

theorem trans (first : Local kind sim middle) (second : Local kind middle after) :
    Local kind sim after where
  wellFormed := second.wellFormed
  seq := first.seq.trans second.seq
  now := first.now.trans second.now
  others select apart := (second.others select apart).trans (first.others select apart)
  fresh event member := by
    rcases second.fresh event member with known | new
    · exact first.fresh event known
    · exact .inr (first.seq.trans new)

theorem mono {wider : DramCode ℓ γ η → Prop} (local_ : Local kind sim after)
    (implies : ∀ code, kind code → wider code) : Local wider sim after :=
  { local_ with
    others := fun select apart =>
      local_.others select fun event narrow => apart event (implies _ narrow) }

theorem push (wellFormed : sim.WellFormed) {time : Int} (future : sim.now ≤ time)
    {callback : DramCode ℓ γ η} (named : kind callback) (priority : Int)
    (source : Option String) :
    Local kind sim (sim.push time callback priority source).2 where
  wellFormed := wellFormed.push future callback priority source
  seq := Nat.le_succ _
  now := le_refl _
  others select apart := push_select_none wellFormed source (apart _ named)
  fresh event member := by
    rw [push_liveEvents wellFormed] at member
    rcases Queue.mem_insert.mp member with rfl | older
    · exact .inr (le_refl _)
    · exact .inl older

theorem cancel (wellFormed : sim.WellFormed) {eventId : Nat}
    (owned : ∀ event ∈ sim.liveEvents, event.seq = eventId →
      kind event.callback) : Local kind sim (sim.cancel eventId).2 where
  wellFormed := wellFormed.cancel eventId
  seq := (cancel_seq sim eventId).ge
  now := (cancel_now sim eventId).ge
  others select apart := cancel_select wellFormed fun event member same =>
    apart event (owned event member same)
  fresh event member := by
    rw [cancel_liveEvents wellFormed] at member
    exact .inl (List.mem_filter.mp member).1

theorem jumped {time : Int} (jumped : Jumped sim after time) (later : sim.now ≤ time) :
    Local kind sim after where
  wellFormed := jumped.wellFormed
  seq := jumped.seq.ge
  now := later.trans jumped.now.ge
  others select _ := by rw [jumped.liveEvents]
  fresh event member := .inl (jumped.liveEvents ▸ member)

theorem fired (wellFormed : sim.WellFormed) {event : Event (DramCode ℓ γ η)}
    (next : sim.peek.1 = some event) (named : kind event.callback) :
    Local kind sim (sim.fireNext event) where
  wellFormed := wellFormed.fireNext next
  seq := le_refl _
  now := (wellFormed.next_least next).2.1
  others select apart := by
    rw [fireNext_liveEvents next, List.filterMap_cons_none (apart event named)]
  fresh other member := .inl (by
    rw [fireNext_liveEvents next]
    exact List.mem_cons_of_mem _ member)

theorem older (local_ : Local kind sim after) {event : Event (DramCode ℓ γ η)}
    (member : event ∈ after.liveEvents) (old : event.seq < sim.seq) :
    event ∈ sim.liveEvents := by
  rcases local_.fresh event member with known | new
  · exact known
  · omega

theorem known (local_ : Local kind sim after) {event : Event (DramCode ℓ γ η)}
    (member : event ∈ after.liveEvents) (apart : ¬ kind event.callback) :
    event ∈ sim.liveEvents := by
  classical
  have same := local_.others
    (Option.guard fun other => decide (¬ kind other.callback)) fun other named =>
      Option.guard_eq_none_iff.mpr (by simpa using named)
  simp only [List.filterMap_eq_filter] at same
  have kept : event ∈ after.liveEvents.filter fun other =>
      decide (¬ kind other.callback) :=
    List.mem_filter.mpr ⟨member, by simpa using apart⟩
  rw [same] at kept
  exact (List.mem_filter.mp kept).1

end Local

variable [DecidableEq ℓ] [DecidableEq γ]

def queued (label : ℓ) (closure : DramEvent γ) (sim : Simulator (DramCode ℓ γ η)) :
    List (Event (DramCode ℓ γ η)) :=
  sim.liveEvents.filterMap (Option.guard fun event => event.callback.isOf label closure)

section Queued

variable {label : ℓ} {closure : DramEvent γ} {sim after : Simulator (DramCode ℓ γ η)}

theorem mem_queued {event : Event (DramCode ℓ γ η)} :
    event ∈ sim.queued label closure ↔
      event ∈ sim.liveEvents ∧ event.callback = .dram label closure := by
  simp only [queued, List.mem_filterMap, Option.guard_eq_some_iff,
    DramCode.isOf_iff]
  exact ⟨fun ⟨_, member, rfl, named⟩ => ⟨member, named⟩,
    fun ⟨member, named⟩ => ⟨event, member, rfl, named⟩⟩

theorem queued_of_liveEvents (same : after.liveEvents = sim.liveEvents) :
    after.queued label closure = sim.queued label closure := by
  rw [queued, queued, same]

theorem guard_isOf_none {event : Event (DramCode ℓ γ η)}
    (different : event.callback ≠ .dram label closure) :
    Option.guard (fun event : Event (DramCode ℓ γ η) =>
      event.callback.isOf label closure) event = none :=
  Option.guard_eq_none_iff.mpr (by
    rw [← Bool.not_eq_true, DramCode.isOf_iff]
    exact different)

theorem Local.queued {kind : DramCode ℓ γ η → Prop} (local_ : Local kind sim after)
    (different : ¬ kind (.dram label closure)) :
    after.queued label closure = sim.queued label closure := by
  refine local_.others _ fun event named => guard_isOf_none fun same => ?_
  rw [same] at named
  exact different named

theorem push_queued_other (wellFormed : sim.WellFormed) {time priority : Int}
    {callback : DramCode ℓ γ η} (source : Option String)
    (different : callback ≠ .dram label closure) :
    (sim.push time callback priority source).2.queued label closure =
      sim.queued label closure :=
  push_select_none wellFormed source (guard_isOf_none different)

theorem push_queued (wellFormed : sim.WellFormed) {time priority : Int}
    (source : Option String) (unqueued : sim.queued label closure = []) :
    (sim.push time (.dram label closure) priority source).2.queued label closure =
      [sim.pushed time (.dram label closure) priority] := by
  have selected : Option.guard (fun event : Event (DramCode ℓ γ η) =>
      event.callback.isOf label closure)
        (sim.pushed time (.dram label closure) priority) =
      some (sim.pushed time (.dram label closure) priority) := by
    simp [Option.guard, pushed, DramCode.isOf]
  rw [Simulator.queued, push_liveEvents wellFormed,
    Queue.filterMap_insert_last wellFormed.live_sorted selected]
  · exact congrArg (· ++ _) unqueued
  · intro other member seen
    have named : other.callback = .dram label closure := by
      by_contra different
      exact seen (guard_isOf_none different)
    have impossible : other ∈ sim.queued label closure :=
      mem_queued.mpr ⟨member, named⟩
    rw [unqueued] at impossible
    cases impossible

theorem queued_cancel (wellFormed : sim.WellFormed) {event : Event (DramCode ℓ γ η)}
    (only : sim.queued label closure = [event]) :
    (sim.cancel event.seq).2.queued label closure = [] := by
  refine List.eq_nil_iff_forall_not_mem.mpr fun other member => ?_
  obtain ⟨live, named⟩ := mem_queued.mp member
  rw [cancel_liveEvents wellFormed, List.mem_filter] at live
  obtain rfl : other = event := by
    have here : other ∈ sim.queued label closure := mem_queued.mpr ⟨live.1, named⟩
    simpa [only] using here
  simp at live

theorem queued_fired {event : Event (DramCode ℓ γ η)}
    (next : sim.peek.1 = some event) (named : event.callback = .dram label closure) :
    sim.queued label closure = event :: (sim.fireNext event).queued label closure := by
  rw [queued, fireNext_liveEvents next]
  exact List.filterMap_cons_some (by simp [Option.guard, DramCode.isOf_iff, named])

theorem queued_fired_other {event : Event (DramCode ℓ γ η)}
    (next : sim.peek.1 = some event) (different : event.callback ≠ .dram label closure) :
    (sim.fireNext event).queued label closure = sim.queued label closure := by
  rw [queued, queued, fireNext_liveEvents next]
  exact (List.filterMap_cons_none (guard_isOf_none different)).symm

end Queued

end Simulator

end Pyramulator
