import Mathlib.Logic.Relation
import Pyramulator.Sim.Simulator

namespace Pyramulator.Simulator

/-! What the kernel is for: an agenda of live events in the order in which they
are to fire. The heap with its lazily deleted entries, the dictionary and the
counter of live events all stand for this one list. -/

variable {κ : Type}

def liveEvents (sim : Simulator κ) : List (Event κ) :=
  sim.heap.filter fun event => !event.cancelled

structure WellFormed (sim : Simulator κ) : Prop where
  sorted : Queue.Sorted Event.key sim.heap
  fresh : ∀ event ∈ sim.heap, event.seq < sim.seq
  distinct : (sim.heap.map Event.seq).Nodup
  indexed : sim.byId.Perm (sim.heap.map Event.seq)
  counted : sim.live = sim.liveEvents.length
  future : ∀ event ∈ sim.liveEvents, sim.now ≤ event.time
  sourced : sim.sources.total = sim.seq

theorem init_wellFormed : (init : Simulator κ).WellFormed where
  sorted := List.Pairwise.nil
  fresh := by simp [init]
  distinct := List.nodup_nil
  indexed := List.Perm.refl _
  counted := rfl
  future := by simp [init, liveEvents]
  sourced := rfl

theorem mem_liveEvents {sim : Simulator κ} {event : Event κ} :
    event ∈ sim.liveEvents ↔ event ∈ sim.heap ∧ event.cancelled = false := by
  simp [liveEvents]

namespace WellFormed

variable {sim : Simulator κ}

theorem live_sorted (wellFormed : sim.WellFormed) :
    Queue.Sorted Event.key sim.liveEvents :=
  wellFormed.sorted.filter _

theorem live_fresh (wellFormed : sim.WellFormed) :
    ∀ event ∈ sim.liveEvents, event.seq < sim.seq :=
  fun event member => wellFormed.fresh event (mem_liveEvents.mp member).1

theorem live_distinct (wellFormed : sim.WellFormed) :
    (sim.liveEvents.map Event.seq).Nodup :=
  wellFormed.distinct.sublist (List.filter_sublist.map Event.seq)

theorem eq_of_seq (wellFormed : sim.WellFormed) {first second : Event κ}
    (firstMember : first ∈ sim.heap) (secondMember : second ∈ sim.heap)
    (same : first.seq = second.seq) : first = second :=
  List.inj_on_of_nodup_map wellFormed.distinct firstMember secondMember same

end WellFormed

/-! ## Insertion -/

@[simp] theorem push_fst (sim : Simulator κ) (time : Int) (callback : κ)
    (priority : Int) (source : Option String) :
    (sim.push time callback priority source).1 = sim.seq := rfl

@[simp] theorem push_now (sim : Simulator κ) (time : Int) (callback : κ)
    (priority : Int) (source : Option String) :
    (sim.push time callback priority source).2.now = sim.now := rfl

@[simp] theorem push_seq (sim : Simulator κ) (time : Int) (callback : κ)
    (priority : Int) (source : Option String) :
    (sim.push time callback priority source).2.seq = sim.seq + 1 := rfl

@[simp] theorem push_processed (sim : Simulator κ) (time : Int) (callback : κ)
    (priority : Int) (source : Option String) :
    (sim.push time callback priority source).2.processed = sim.processed := rfl

@[simp] theorem push_runUntil (sim : Simulator κ) (time : Int) (callback : κ)
    (priority : Int) (source : Option String) :
    (sim.push time callback priority source).2.runUntil = sim.runUntil := rfl

/-- The event that `_push` adds. -/
def pushed (sim : Simulator κ) (time : Int) (callback : κ) (priority : Int) :
    Event κ :=
  { time, priority, seq := sim.seq, callback, cancelled := false }

theorem push_liveEvents {sim : Simulator κ} (wellFormed : sim.WellFormed)
    (time : Int) (callback : κ) (priority : Int) (source : Option String) :
    (sim.push time callback priority source).2.liveEvents =
      Queue.insert Event.key (sim.pushed time callback priority)
        sim.liveEvents := by
  simp only [liveEvents, push]
  rw [Queue.filter_insert _ wellFormed.sorted]
  rfl

theorem WellFormed.push {sim : Simulator κ} (wellFormed : sim.WellFormed)
    {time : Int} (future : sim.now ≤ time) (callback : κ) (priority : Int)
    (source : Option String) :
    (sim.push time callback priority source).2.WellFormed where
  sorted := by
    refine wellFormed.sorted.insert fun other member => Event.key_ne ?_
    exact (wellFormed.fresh other member).ne
  fresh := by
    intro event member
    rcases Queue.mem_insert.mp member with rfl | older
    · exact Nat.lt_succ_self _
    · exact Nat.lt_succ_of_lt (wellFormed.fresh event older)
  distinct := by
    refine ((Queue.insert_perm _ _).map Event.seq).nodup_iff.mpr ?_
    refine List.nodup_cons.mpr ⟨?_, wellFormed.distinct⟩
    intro member
    obtain ⟨event, older, same⟩ := List.mem_map.mp member
    exact (wellFormed.fresh event older).ne same
  indexed := by
    refine List.Perm.trans ?_ ((Queue.insert_perm _ _).map Event.seq).symm
    exact (List.perm_append_singleton _ _).trans (wellFormed.indexed.cons _)
  counted := by
    rw [push_liveEvents wellFormed, Queue.length_insert]
    have := wellFormed.counted
    simp only [Simulator.push]
    omega
  future := by
    intro event member
    rw [push_liveEvents wellFormed] at member
    rcases Queue.mem_insert.mp member with rfl | older
    · exact future
    · exact wellFormed.future event older
  sourced := by simp [Simulator.push, wellFormed.sourced]

theorem push_select_none {Part : Type*} {sim : Simulator κ}
    (wellFormed : sim.WellFormed) {select : Event κ → Option Part} {time : Int}
    {callback : κ} {priority : Int} (source : Option String)
    (ignored : select (sim.pushed time callback priority) = none) :
    (sim.push time callback priority source).2.liveEvents.filterMap select =
      sim.liveEvents.filterMap select := by
  rw [push_liveEvents wellFormed]
  exact Queue.filterMap_insert_none ignored

/-! ## Cancellation -/

theorem markCancelled_seq (eventId : Nat) (heap : List (Event κ)) :
    (markCancelled eventId heap).map Event.seq = heap.map Event.seq := by
  simp only [markCancelled, List.map_map]
  refine List.map_congr_left fun event _ => ?_
  by_cases same : event.seq = eventId <;> simp [same]

theorem markCancelled_live (eventId : Nat) (heap : List (Event κ)) :
    (markCancelled eventId heap).filter (fun event => !event.cancelled) =
      (heap.filter fun event => !event.cancelled).filter
        fun event => event.seq ≠ eventId := by
  induction heap with
  | nil => rfl
  | cons event rest induction =>
      simp only [markCancelled, List.map_cons] at induction ⊢
      by_cases same : event.seq = eventId
      · by_cases flag : event.cancelled <;> simp [same, flag, induction]
      · by_cases flag : event.cancelled <;> simp [same, flag, induction]

theorem markCancelled_sorted (eventId : Nat) {heap : List (Event κ)}
    (sorted : Queue.Sorted Event.key heap) :
    Queue.Sorted Event.key (markCancelled eventId heap) := by
  refine List.pairwise_map.mpr (sorted.imp fun {first second} before => ?_)
  by_cases sameFirst : first.seq = eventId <;>
    by_cases sameSecond : second.seq = eventId <;>
      simpa [sameFirst, sameSecond] using before

theorem markCancelled_insert {eventId : Nat} {event : Event κ}
    (other : event.seq ≠ eventId) (heap : List (Event κ)) :
    markCancelled eventId (Queue.insert Event.key event heap) =
      Queue.insert Event.key event (markCancelled eventId heap) := by
  induction heap with
  | nil => simp [markCancelled, other]
  | cons head tail induction =>
      have same : (if head.seq = eventId then head.cancel else head).key = head.key := by
        split <;> rfl
      by_cases before : event.key ≤ head.key
      · simp only [markCancelled, List.map_cons, Queue.insert_cons, same,
          if_pos before, if_neg other]
      · simp only [markCancelled, List.map_cons] at induction ⊢
        simp only [Queue.insert_cons, same, if_neg before, List.map_cons, induction]

theorem cancel_push {sim : Simulator κ} {eventId : Nat}
    (old : eventId ≠ sim.seq) (time : Int)
    (callback : κ) (priority : Int) (source : Option String) :
    ((sim.push time callback priority source).2.cancel eventId).2 =
      ((sim.cancel eventId).2.push time callback priority source).2 := by
  have fresh : (sim.pushed time callback priority).seq ≠ eventId := Ne.symm old
  have known : (eventId ∈ (sim.push time callback priority source).2.byId ∧
      ¬ (sim.push time callback priority source).2.heap.any
        fun event => event.seq = eventId && event.cancelled) ↔
      eventId ∈ sim.byId ∧
        ¬ sim.heap.any fun event => event.seq = eventId && event.cancelled := by
    change (_ ∈ sim.byId ++ [sim.seq] ∧ ¬ (Queue.insert Event.key
      (sim.pushed time callback priority) sim.heap).any _) ↔ _
    simp [old, fresh]
  have marked := markCancelled_insert fresh sim.heap
  unfold cancel
  by_cases pending : eventId ∈ sim.byId ∧
      ¬ sim.heap.any fun event => event.seq = eventId && event.cancelled
  · rw [if_pos pending, if_pos (known.mpr pending)]
    simp only [push, pushed] at marked ⊢
    rw [marked, show sim.live + 1 - 1 = sim.live - 1 + 1 by omega]
  · rw [if_neg pending, if_neg (mt known.mp pending)]

theorem cancel_accepted {sim : Simulator κ} {eventId : Nat}
    (answer : (sim.cancel eventId).1 = true) :
    (sim.cancel eventId).2 =
      { sim with
        heap := markCancelled eventId sim.heap
        live := sim.live - 1 } := by
  unfold cancel at answer ⊢
  split at answer
  · rename_i pending
    rw [if_pos pending]
  · cases answer

theorem cancel_refused {sim : Simulator κ} {eventId : Nat}
    (answer : (sim.cancel eventId).1 ≠ true) : (sim.cancel eventId).2 = sim := by
  unfold cancel at answer ⊢
  split at answer
  · exact absurd rfl answer
  · rename_i absent
    rw [if_neg absent]

theorem cancel_fst {sim : Simulator κ} (wellFormed : sim.WellFormed)
    (eventId : Nat) :
    (sim.cancel eventId).1 = true ↔ ∃ event ∈ sim.liveEvents,
      event.seq = eventId := by
  have answer : (sim.cancel eventId).1 = true ↔ eventId ∈ sim.byId ∧
      ¬ sim.heap.any fun event => event.seq = eventId && event.cancelled := by
    unfold cancel
    split <;> simp_all
  rw [answer, wellFormed.indexed.mem_iff]
  constructor
  · rintro ⟨known, unflagged⟩
    obtain ⟨event, member, same⟩ := List.mem_map.mp known
    refine ⟨event, mem_liveEvents.mpr ⟨member, ?_⟩, same⟩
    cases flag : event.cancelled with
    | false => rfl
    | true =>
        refine absurd (List.any_eq_true.mpr ⟨event, member, ?_⟩) unflagged
        simp [same, flag]
  · rintro ⟨event, live, same⟩
    obtain ⟨member, unflagged⟩ := mem_liveEvents.mp live
    refine ⟨List.mem_map.mpr ⟨event, member, same⟩, ?_⟩
    intro flagged
    obtain ⟨other, otherMember, check⟩ := List.any_eq_true.mp flagged
    simp only [Bool.and_eq_true, decide_eq_true_eq] at check
    have equal : other = event :=
      wellFormed.eq_of_seq otherMember member (check.1.trans same.symm)
    simp [equal, unflagged] at check

theorem cancel_liveEvents {sim : Simulator κ} (wellFormed : sim.WellFormed)
    (eventId : Nat) :
    (sim.cancel eventId).2.liveEvents =
      sim.liveEvents.filter fun event => event.seq ≠ eventId := by
  by_cases answer : (sim.cancel eventId).1 = true
  · rw [liveEvents, cancel_accepted answer, markCancelled_live]
    rfl
  · rw [cancel_refused answer, eq_comm, List.filter_eq_self]
    intro event member
    have absent := mt (cancel_fst wellFormed eventId).mpr answer
    simp only [ne_eq, decide_not, Bool.not_eq_true', decide_eq_false_iff_not]
    exact fun same => absent ⟨event, member, same⟩

theorem cancel_select {Part : Type*} {sim : Simulator κ}
    (wellFormed : sim.WellFormed) {select : Event κ → Option Part}
    {eventId : Nat}
    (apart : ∀ event ∈ sim.liveEvents, event.seq = eventId →
      select event = none) :
    (sim.cancel eventId).2.liveEvents.filterMap select =
      sim.liveEvents.filterMap select := by
  rw [cancel_liveEvents wellFormed]
  refine Queue.filterMap_filter_of_kept fun event member seen => ?_
  simp only [ne_eq, decide_not, Bool.not_eq_true', decide_eq_false_iff_not]
  exact fun same => seen (apart event member same)

@[simp] theorem cancel_now (sim : Simulator κ) (eventId : Nat) :
    (sim.cancel eventId).2.now = sim.now := by
  unfold cancel; split <;> rfl

@[simp] theorem cancel_seq (sim : Simulator κ) (eventId : Nat) :
    (sim.cancel eventId).2.seq = sim.seq := by
  unfold cancel; split <;> rfl

@[simp] theorem cancel_processed (sim : Simulator κ) (eventId : Nat) :
    (sim.cancel eventId).2.processed = sim.processed := by
  unfold cancel; split <;> rfl

@[simp] theorem cancel_runUntil (sim : Simulator κ) (eventId : Nat) :
    (sim.cancel eventId).2.runUntil = sim.runUntil := by
  unfold cancel; split <;> rfl

theorem WellFormed.cancel {sim : Simulator κ} (wellFormed : sim.WellFormed)
    (eventId : Nat) : (sim.cancel eventId).2.WellFormed := by
  by_cases answer : (sim.cancel eventId).1 = true
  · have liveAfter := cancel_liveEvents wellFormed eventId
    obtain ⟨event, member, same⟩ := (cancel_fst wellFormed eventId).mp answer
    rw [cancel_accepted answer] at liveAfter ⊢
    refine
      { sorted := markCancelled_sorted eventId wellFormed.sorted
        fresh := ?_
        distinct := ?_
        indexed := ?_
        counted := ?_
        future := ?_
        sourced := wellFormed.sourced }
    · intro other otherMember
      have known : other.seq ∈ sim.heap.map Event.seq := by
        rw [← markCancelled_seq eventId]
        exact List.mem_map_of_mem otherMember
      obtain ⟨original, originalMember, seqSame⟩ := List.mem_map.mp known
      exact seqSame ▸ wellFormed.fresh original originalMember
    · rw [markCancelled_seq]; exact wellFormed.distinct
    · rw [markCancelled_seq]; exact wellFormed.indexed
    · rw [liveAfter]
      have erased : (sim.liveEvents.filter fun other => other.seq ≠ eventId).length
          + 1 = sim.liveEvents.length := by
        have split := List.length_eq_length_filter_add (l := sim.liveEvents)
          fun other => other.seq ≠ eventId
        have one : (sim.liveEvents.filter fun other =>
            !decide (other.seq ≠ eventId)) = [event] := by
          have nodup := wellFormed.live_distinct.of_map
          refine List.perm_singleton.mp ?_
          refine (List.perm_ext_iff_of_nodup (nodup.filter _)
            (List.nodup_singleton _)).mpr fun other => ?_
          simp only [ne_eq, decide_not, Bool.not_not, List.mem_filter,
            decide_eq_true_eq, List.mem_singleton]
          constructor
          · rintro ⟨otherMember, otherSame⟩
            exact wellFormed.eq_of_seq (mem_liveEvents.mp otherMember).1
              (mem_liveEvents.mp member).1 (otherSame.trans same.symm)
          · rintro rfl
            exact ⟨member, same⟩
        rw [one] at split
        simpa using split.symm
      have := wellFormed.counted
      simp only
      omega
    · rw [liveAfter]
      exact fun other otherMember =>
        wellFormed.future other (List.mem_filter.mp otherMember).1
  · rw [cancel_refused answer]
    exact wellFormed

/-! ## The root of the heap -/

theorem dropCancelled_fst (heap : List (Event κ)) (byId : List Nat) :
    (dropCancelled heap byId).1 = heap.dropWhile fun event => event.cancelled := by
  induction heap generalizing byId with
  | nil => rfl
  | cons event rest induction =>
      by_cases flag : event.cancelled <;> simp [dropCancelled, flag, induction]

theorem dropCancelled_snd {heap : List (Event κ)} {byId : List Nat}
    (indexed : byId.Perm (heap.map Event.seq)) :
    (dropCancelled heap byId).2.Perm
      ((dropCancelled heap byId).1.map Event.seq) := by
  induction heap generalizing byId with
  | nil => exact indexed
  | cons event rest induction =>
      by_cases flag : event.cancelled
      · simp only [dropCancelled, flag, if_true]
        refine induction ((indexed.erase event.seq).trans ?_)
        simp
      · simpa [dropCancelled, flag] using indexed

@[simp] theorem peek_heap (sim : Simulator κ) :
    sim.peek.2.heap = sim.heap.dropWhile fun event => event.cancelled :=
  dropCancelled_fst sim.heap sim.byId

@[simp] theorem peek_now (sim : Simulator κ) : sim.peek.2.now = sim.now := rfl

@[simp] theorem peek_seq (sim : Simulator κ) : sim.peek.2.seq = sim.seq := rfl

@[simp] theorem peek_processed (sim : Simulator κ) :
    sim.peek.2.processed = sim.processed := rfl

@[simp] theorem peek_runUntil (sim : Simulator κ) :
    sim.peek.2.runUntil = sim.runUntil := rfl

private theorem filter_dropWhile_cancelled (heap : List (Event κ)) :
    (heap.dropWhile fun event => event.cancelled).filter
        (fun event => !event.cancelled) =
      heap.filter fun event => !event.cancelled := by
  induction heap with
  | nil => rfl
  | cons event rest induction =>
      by_cases flag : event.cancelled <;> simp [flag, induction]

@[simp] theorem peek_liveEvents (sim : Simulator κ) :
    sim.peek.2.liveEvents = sim.liveEvents := by
  simp [liveEvents, filter_dropWhile_cancelled]

theorem peek_fst (sim : Simulator κ) : sim.peek.1 = sim.liveEvents.head? := by
  have head : sim.peek.1 =
      (sim.heap.dropWhile fun event => event.cancelled).head? := by
    rw [← dropCancelled_fst sim.heap sim.byId]
    rfl
  rw [head, liveEvents]
  induction sim.heap with
  | nil => rfl
  | cons event rest induction =>
      by_cases flag : event.cancelled <;> simp [flag, induction]

theorem peek_some_heap {sim : Simulator κ} {event : Event κ}
    (next : sim.peek.1 = some event) :
    ∃ rest, sim.peek.2.heap = event :: rest ∧ event.cancelled = false := by
  have head : sim.peek.2.heap.head? = some event := next
  rw [peek_heap] at head ⊢
  cases shape : sim.heap.dropWhile fun other => other.cancelled with
  | nil => simp [shape] at head
  | cons first rest =>
      have same : first = event := by simpa [shape] using head
      subst same
      refine ⟨rest, rfl, ?_⟩
      have unflagged := List.head?_dropWhile_not
        (fun other : Event κ => other.cancelled) sim.heap
      rw [shape] at unflagged
      simpa using unflagged

theorem WellFormed.peek {sim : Simulator κ} (wellFormed : sim.WellFormed) :
    sim.peek.2.WellFormed where
  sorted := by
    rw [peek_heap]
    exact List.Pairwise.sublist (List.dropWhile_sublist _) wellFormed.sorted
  fresh := by
    rw [peek_heap]
    exact fun event member =>
      wellFormed.fresh event ((List.dropWhile_sublist _).subset member)
  distinct := by
    rw [peek_heap]
    exact wellFormed.distinct.sublist ((List.dropWhile_sublist _).map _)
  indexed := dropCancelled_snd wellFormed.indexed
  counted := by rw [peek_liveEvents]; exact wellFormed.counted
  future := by rw [peek_liveEvents]; exact wellFormed.future
  sourced := wellFormed.sourced

/-! ## Firing -/

def fireNext (sim : Simulator κ) (event : Event κ) : Simulator κ :=
  sim.peek.2.heappop.startFire event

@[simp] theorem fireNext_now (sim : Simulator κ) (event : Event κ) :
    (sim.fireNext event).now = event.time := rfl

@[simp] theorem fireNext_seq (sim : Simulator κ) (event : Event κ) :
    (sim.fireNext event).seq = sim.seq := rfl

@[simp] theorem fireNext_processed (sim : Simulator κ) (event : Event κ) :
    (sim.fireNext event).processed = sim.processed := rfl

@[simp] theorem fireNext_runUntil (sim : Simulator κ) (event : Event κ) :
    (sim.fireNext event).runUntil = sim.runUntil := rfl

theorem fireNext_heap (sim : Simulator κ) (event : Event κ) :
    (sim.fireNext event).heap = sim.peek.2.heap.tail := rfl

theorem fireNext_liveEvents {sim : Simulator κ} {event : Event κ}
    (next : sim.peek.1 = some event) :
    sim.liveEvents = event :: (sim.fireNext event).liveEvents := by
  obtain ⟨rest, heap, unflagged⟩ := peek_some_heap next
  rw [← peek_liveEvents, liveEvents, liveEvents, fireNext_heap, heap]
  simp [unflagged]

theorem WellFormed.fireNext {sim : Simulator κ} (wellFormed : sim.WellFormed)
    {event : Event κ} (next : sim.peek.1 = some event) :
    (sim.fireNext event).WellFormed := by
  obtain ⟨rest, heap, unflagged⟩ := peek_some_heap next
  have heapAfter : (sim.fireNext event).heap = rest := by
    rw [fireNext_heap, heap, List.tail_cons]
  have liveBefore := fireNext_liveEvents next
  have peeked := wellFormed.peek
  refine
    { sorted := ?_
      fresh := ?_
      distinct := ?_
      indexed := ?_
      counted := ?_
      future := ?_
      sourced := wellFormed.sourced }
  · have sorted := peeked.sorted
    rw [heap] at sorted
    rw [heapAfter]
    exact sorted.tail
  · rw [heapAfter]
    intro other member
    exact peeked.fresh other (by rw [heap]; simp [member])
  · have distinct := peeked.distinct
    rw [heap, List.map_cons] at distinct
    rw [heapAfter]
    exact (List.nodup_cons.mp distinct).2
  · have indexed := peeked.indexed.erase event.seq
    rw [heap, List.map_cons, List.erase_cons_head] at indexed
    rw [heapAfter]
    exact indexed
  · have counted := wellFormed.counted
    rw [liveBefore, List.length_cons] at counted
    simp only [Simulator.fireNext, startFire, heappop, Simulator.peek] at counted ⊢
    omega
  · intro other member
    have sorted := wellFormed.live_sorted
    rw [liveBefore] at sorted
    have before := Event.key_lt_iff.mp (sorted.head_least member)
    rw [fireNext_now]
    omega

theorem WellFormed.next_least {sim : Simulator κ} (wellFormed : sim.WellFormed)
    {event : Event κ} (next : sim.peek.1 = some event) :
    event ∈ sim.liveEvents ∧ sim.now ≤ event.time ∧
      ∀ other ∈ sim.liveEvents, other ≠ event → event.key < other.key := by
  have liveBefore := fireNext_liveEvents next
  have member : event ∈ sim.liveEvents := by rw [liveBefore]; simp
  refine ⟨member, wellFormed.future event member, ?_⟩
  intro other otherMember different
  have sorted := wellFormed.live_sorted
  rw [liveBefore] at sorted otherMember
  rcases List.mem_cons.mp otherMember with same | later
  · exact absurd same different
  · exact sorted.head_least later

@[simp] theorem endFire_now (sim : Simulator κ) : sim.endFire.now = sim.now := rfl

@[simp] theorem endFire_seq (sim : Simulator κ) : sim.endFire.seq = sim.seq := rfl

@[simp] theorem endFire_processed (sim : Simulator κ) :
    sim.endFire.processed = sim.processed + 1 := rfl

@[simp] theorem endFire_runUntil (sim : Simulator κ) :
    sim.endFire.runUntil = sim.runUntil := rfl

@[simp] theorem endFire_liveEvents (sim : Simulator κ) :
    sim.endFire.liveEvents = sim.liveEvents := rfl

theorem WellFormed.endFire {sim : Simulator κ} (wellFormed : sim.WellFormed) :
    sim.endFire.WellFormed :=
  { wellFormed with }

@[simp] theorem setRunUntil_liveEvents (sim : Simulator κ)
    (runUntil : Option Int) :
    { sim with runUntil }.liveEvents = sim.liveEvents := rfl

theorem WellFormed.setRunUntil {sim : Simulator κ} (wellFormed : sim.WellFormed)
    (runUntil : Option Int) : { sim with runUntil }.WellFormed :=
  { wellFormed with }

/-! ## Jumps -/

/-- A jump that is not refused moves `now` forward, up to the next live event
and to the horizon at most. -/
theorem advanceTo_ok {sim : Simulator κ} {time : Int}
    (accepted : (sim.advanceTo time).1 = .ok ()) :
    (sim.advanceTo time).2 = { sim.peek.2 with now := time } ∧
      sim.now ≤ time ∧ (∀ event ∈ sim.liveEvents.head?, time ≤ event.time) ∧
      ∀ until_ ∈ sim.runUntil, time ≤ until_ := by
  unfold advanceTo at accepted ⊢
  split at accepted
  · simp at accepted
  · rename_i notPast
    rw [if_neg notPast]
    simp only [peek_fst, peek_runUntil] at accepted ⊢
    split at accepted
    · simp at accepted
    · rename_i noneBefore
      split at accepted
      · simp at accepted
      · rename_i withinHorizon
        refine ⟨rfl, by omega, ?_, ?_⟩
        · intro event next
          have := Option.filter_eq_none_iff.mp noneBefore event next
          simpa using this
        · intro until_ horizon
          have := Option.filter_eq_none_iff.mp withinHorizon until_ horizon
          simpa using this

@[simp] theorem advanceTo_liveEvents (sim : Simulator κ) (time : Int) :
    (sim.advanceTo time).2.liveEvents = sim.liveEvents := by
  unfold advanceTo
  split
  · rfl
  · simp only
    split
    · exact peek_liveEvents sim
    · split
      · exact peek_liveEvents sim
      · exact peek_liveEvents sim

@[simp] theorem advanceTo_seq (sim : Simulator κ) (time : Int) :
    (sim.advanceTo time).2.seq = sim.seq := by
  unfold advanceTo
  split
  · rfl
  · simp only
    split
    · rfl
    · split <;> rfl

theorem advanceTo_of_le {sim : Simulator κ} {time : Int}
    (notPast : sim.now ≤ time)
    (before : ∀ event ∈ sim.liveEvents.head?, time ≤ event.time)
    (horizon : ∀ until_ ∈ sim.runUntil, time ≤ until_) :
    sim.advanceTo time = (.ok (), { sim.peek.2 with now := time }) := by
  unfold advanceTo
  rw [if_neg (not_lt.mpr notPast)]
  have first : sim.peek.1.filter (fun event => event.time < time) = none := by
    refine Option.filter_eq_none_iff.mpr fun event next => ?_
    rw [peek_fst] at next
    simpa using before event next
  have second : sim.runUntil.filter (fun until_ => until_ < time) = none := by
    refine Option.filter_eq_none_iff.mpr fun until_ member => ?_
    simpa using horizon until_ member
  simp [first, second]

theorem WellFormed.first_le {sim : Simulator κ} (wellFormed : sim.WellFormed)
    {first event : Event κ} (head : sim.liveEvents.head? = some first)
    (member : event ∈ sim.liveEvents) : first.time ≤ event.time := by
  have sorted := wellFormed.live_sorted
  obtain ⟨rest, shape⟩ : ∃ rest, sim.liveEvents = first :: rest :=
    List.head?_eq_some_iff.mp head
  rw [shape] at member sorted
  rcases List.mem_cons.mp member with rfl | later
  · exact le_refl _
  · have before := Event.key_lt_iff.mp (sorted.head_least later)
    omega

theorem WellFormed.advance {sim : Simulator κ} (wellFormed : sim.WellFormed)
    {time : Int} (before : ∀ event ∈ sim.liveEvents.head?, time ≤ event.time) :
    ({ sim.peek.2 with now := time } : Simulator κ).WellFormed := by
  have peeked := wellFormed.peek
  refine
    { sorted := peeked.sorted
      fresh := peeked.fresh
      distinct := peeked.distinct
      indexed := peeked.indexed
      counted := peeked.counted
      future := ?_
      sourced := peeked.sourced }
  intro event member
  have liveMember : event ∈ sim.liveEvents := by
    rw [← peek_liveEvents]; exact member
  cases first : sim.liveEvents.head? with
  | none =>
      rw [List.head?_eq_none_iff.mp first] at liveMember
      exact absurd liveMember List.not_mem_nil
  | some head => exact (before head first).trans (wellFormed.first_le first liveMember)

structure Jumped (sim after : Simulator κ) (time : Int) : Prop where
  wellFormed : after.WellFormed
  liveEvents : after.liveEvents = sim.liveEvents
  seq : after.seq = sim.seq
  processed : after.processed = sim.processed
  runUntil : after.runUntil = sim.runUntil
  now : after.now = time

theorem WellFormed.peek_jumped {sim : Simulator κ} (wellFormed : sim.WellFormed) :
    Jumped sim sim.peek.2 sim.now :=
  ⟨wellFormed.peek, peek_liveEvents sim, rfl, rfl, rfl, rfl⟩

theorem WellFormed.advanceTo_jumped {sim : Simulator κ} (wellFormed : sim.WellFormed)
    {time : Int} (notPast : sim.now ≤ time)
    (before : ∀ event ∈ sim.liveEvents.head?, time ≤ event.time)
    (horizon : ∀ until_ ∈ sim.runUntil, time ≤ until_) :
    (sim.advanceTo time).1 = .ok () ∧ Jumped sim (sim.advanceTo time).2 time := by
  rw [advanceTo_of_le notPast before horizon]
  exact ⟨rfl, wellFormed.advance before, peek_liveEvents sim, rfl, rfl, rfl, rfl⟩

end Pyramulator.Simulator
