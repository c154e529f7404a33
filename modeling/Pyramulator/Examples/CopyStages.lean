import Pyramulator.Examples.CopyFlow

namespace Pyramulator.CopyDevice

open CopyCallback (client)
open CopyCode (filling)
open Simulator (Local)

/-! A pipe of the engine with its consumer. -/

variable {setup : DramSetup CopyCallback} {tally : setup.engine.Tally} {args : CopyArgs}
  {ι : Type} {view : StageView ι}

structure Turned (view : StageView ι) (before after : CopyDevice setup) : Prop where
  local_ : Local view.Own before.sim after.sim
  dram : after.dram = before.dram
  copy : after.component = view.replace before.component (view.pipe after.component)
  slots : (view.pipe after.component).slots = (view.pipe before.component).slots
  inFlight : (view.pipe after.component).inFlight ≤ (view.pipe before.component).inFlight

theorem Standing.congr {before after : CopyDevice setup}
    (pipe : view.pipe after.component = view.pipe before.component)
    (delivery : after.sim.due view.delivery = before.sim.due view.delivery)
    (again : after.sim.due view.again = before.sim.due view.again) :
    items view after = items view before ∧
      (Standing view before → Standing view after) := by
  have items : items view after = items view before := by
    rw [items, items, delivery, pipe]
  refine ⟨items, fun standing => ?_⟩
  exact
    { count := by
        rw [pipe, items]
        exact standing.count
      armed := by
        rw [pipe, again]
        exact standing.armed
      wakes := by
        rw [pipe]
        exact standing.wakes }

section Framed

variable {before after : CopyDevice setup} (framed : Framed tally args before after)
include framed

theorem Framed.pipe : view.pipe after.component = view.pipe before.component :=
  view.pipe_congr framed.issuePipe framed.computePipe

theorem Framed.delivery : after.sim.due view.delivery = before.sim.due view.delivery := by
  refine framed.local_.due fun code unpiped => ?_
  rw [StageView.delivery, view.event_unpiped code unpiped]
  rfl

theorem Framed.items : items view after = items view before := by
  rw [CopyDevice.items, CopyDevice.items, framed.delivery, framed.pipe]

theorem Framed.again : after.sim.due view.again = before.sim.due view.again := by
  refine framed.local_.due fun code unpiped => ?_
  rw [StageView.again, view.event_unpiped code unpiped]
  rfl

theorem Framed.counted {hand : Multiset ι} (counted : Counted view before hand) :
    Counted view after hand where
  count := by
    rw [framed.pipe, framed.items]
    exact counted.count
  armed set := by
    rw [framed.again]
    rw [framed.pipe] at set
    exact counted.armed set

theorem Framed.standing (standing : Standing view before) : Standing view after :=
  (Standing.congr framed.pipe framed.delivery framed.again).2 standing

end Framed

/-- What is known of a consumer: `G` holds of the engine and of the items in the pipe,
and `woken` of the engine once an item was accepted. -/
structure Serves (tally : setup.engine.Tally) (args : CopyArgs) (view : StageView ι)
    (consumer : ι → Call setup Consumed) (G : Multiset ι → CopyDevice setup → Prop)
    (woken : CopyDevice setup → Prop) : Prop where
  core : ∀ {items device}, G items device → Core tally args device
  consume : ∀ {item rest device}, G (item ::ₘ rest) device →
    (consumer item).Ends device
      (fun answer after => Framed tally args device after ∧
        (answer = .refused → G (item ::ₘ rest) after) ∧
          (answer = .accepted → G rest after ∧ woken after))
      (Core tally args)
  turned : ∀ {items before after}, G items before → Turned view before after →
    woken before ∨
      (view.pipe after.component).inFlight = (view.pipe before.component).inFlight →
      G items after

def withPipe (view : StageView ι) (device : CopyDevice setup) (sim : Simulator CopyCode)
    (pipe : Pipe ι) : CopyDevice setup :=
  { sim, dram := device.dram, component := view.replace device.component pipe }

section Methods

variable {device : CopyDevice setup} {sim : Simulator CopyCode} {pipe : Pipe ι}

@[simp] theorem withPipe_pipe :
    view.pipe (withPipe view device sim pipe).component = pipe :=
  view.pipe_replace _ _

@[simp] theorem withPipe_items :
    (withPipe view device sim pipe).items view = sim.due view.delivery +
      pipe.stalled := by
  rw [items, withPipe_pipe]
  rfl

theorem onPipe_ends {α : Type} {Q : α → CopyDevice setup → Prop}
    {E : CopyDevice setup → Prop}
    {call : Pipe ι → Simulator CopyCode → Except PyError α × Simulator CopyCode × Pipe ι}
    {value : α}
    (returned : call (view.pipe device.component) device.sim = (.ok value, sim, pipe))
    (holds : Q value (withPipe view device sim pipe)) :
    (onPipe view.toStage call).Ends device Q E := by
  refine .of_ok _ _ ?_ holds
  simp only [onPipe, returned]
  rfl

theorem Turned.of_pipe (local_ : Local view.Own device.sim sim)
    (slots : pipe.slots = (view.pipe device.component).slots)
    (inFlight : pipe.inFlight ≤ (view.pipe device.component).inFlight) :
    Turned view device (withPipe view device sim pipe) where
  local_
  dram := rfl
  copy := by
    rw [withPipe_pipe]
    rfl
  slots := by rw [withPipe_pipe, slots]
  inFlight := by rw [withPipe_pipe]; exact inFlight

theorem retry_pushed (view : StageView ι) (wellFormed : device.sim.WellFormed)
    (component : Component) :
    let sim := component.pushCycles device.sim 1 (.host (view.closure .retry)) 0
    Local view.Own device.sim sim ∧ sim.due view.delivery = device.sim.due view.delivery ∧
      sim.due view.again ≠ 0 := by
  refine ⟨Dram.pushCycles_local wellFormed _ (by decide) ⟨_, rfl⟩ 0, ?_, ?_⟩
  · refine Simulator.due_push_none wellFormed _ ?_
    rw [StageView.delivery, view.event_closure]
    rfl
  · have again : view.again (.host (view.closure .retry)) = some () := by
      rw [StageView.again, view.event_closure]
      rfl
    rw [Component.pushCycles, Simulator.due_push_some wellFormed _ again]
    exact Multiset.cons_ne_zero

theorem put_ends (view : StageView ι) {Q : Bool → CopyDevice setup → Prop}
    {E : CopyDevice setup → Prop} (wellFormed : device.sim.WellFormed) (item : ι)
    (notFull : (view.pipe device.component).full = false)
    (later : ∀ sim, Local view.Own device.sim sim →
      sim.due view.delivery = item ::ₘ device.sim.due view.delivery →
        sim.due view.again = device.sim.due view.again →
          Q true (withPipe view device sim { view.pipe device.component with
            inFlight := (view.pipe device.component).inFlight + 1 })) :
    (put view.toStage item).Ends device Q E := by
  have nonneg : 0 ≤ (view.pipe device.component).latencyCycles := by
    have := (view.pipe device.component).latency_pos
    omega
  have delivery : view.delivery (.host (view.closure (.deliver item))) = some item := by
    rw [StageView.delivery, view.event_closure]
    rfl
  have again : view.again (.host (view.closure (.deliver item))) = none := by
    rw [StageView.again, view.event_closure]
    rfl
  refine onPipe_ends (Pipe.put_accepted _ _ item notFull) (later _ ?_ ?_ ?_)
  · exact Dram.pushCycles_local wellFormed _ nonneg ⟨_, rfl⟩ 0
  · exact Simulator.due_push_some wellFormed _ delivery
  · exact Simulator.due_push_none wellFormed _ again

theorem Standing.put {item : ι} (standing : Standing view device)
    (delivery : sim.due view.delivery = item ::ₘ device.sim.due view.delivery)
    (again : sim.due view.again = device.sim.due view.again) :
    let after := withPipe view device sim { view.pipe device.component with
      inFlight := (view.pipe device.component).inFlight + 1 }
    items view after = item ::ₘ items view device ∧ Standing view after := by
  intro after
  have items : items view after = item ::ₘ items view device := by
    rw [withPipe_items, delivery, Multiset.cons_add]
    rfl
  have count := standing.count
  rw [zero_add] at count
  refine ⟨items, ?_⟩
  exact
    { count := by
        rw [zero_add, items, Multiset.card_cons, withPipe_pipe]
        simp only
        omega
      armed := by
        rw [withPipe_pipe]
        change _ → sim.due view.again ≠ 0
        rw [again]
        exact standing.armed
      wakes := by
        rw [withPipe_pipe]
        exact standing.wakes }

end Methods

namespace Serves

variable {consumer : ι → Call setup Consumed} {G : Multiset ι → CopyDevice setup → Prop}
  {woken : CopyDevice setup → Prop} (serves : Serves tally args view consumer G woken)
  {F : Prop} {device : CopyDevice setup}
include serves

theorem deliver_ends {item : ι} (holds : G (item ::ₘ items view device) device)
    (counted : F → Counted view device {item})
    (wakes : F → (view.pipe device.component).stalled ≠ [] →
      (view.pipe device.component).retryEid ≠ none) :
    (deliver view.toStage consumer item).Ends device
      (fun _ after => G (items view after) after ∧ (F → Standing view after))
      (Core tally args) := by
  unfold deliver
  refine .bind (serves.consume holds) ?_
  rintro answer middle ⟨framed, refused, accepted⟩
  have counted : F → Counted view middle {item} :=
    fun fine => framed.counted (counted fine)
  have wakes : F → (view.pipe middle.component).stalled ≠ [] →
      (view.pipe middle.component).retryEid ≠ none := by
    rw [framed.pipe]
    exact wakes
  rw [← framed.items] at refused accepted
  have wellFormed := framed.core.wellFormed
  cases answer with
  | accepted =>
      obtain ⟨holds, woken⟩ := accepted rfl
      refine onPipe_ends rfl ⟨?_, fun fine => ?_⟩
      · rw [withPipe_items]
        exact serves.turned holds
          (.of_pipe (.refl _ wellFormed) rfl (by simp only; omega))
          (.inl woken)
      · have count := (counted fine).count
        rw [Multiset.card_add, Multiset.card_singleton] at count
        exact
          { count := by
              simp only [withPipe_pipe, withPipe_items, zero_add]
              change _ = ((items view middle).card : Int)
              omega
            armed := by
              rw [withPipe_pipe]
              exact (counted fine).armed
            wakes := by
              rw [withPipe_pipe]
              exact wakes fine }
  | refused =>
      have holds := refused rfl
      have queued (sim : Simulator CopyCode)
          (same : sim.due view.delivery = middle.sim.due view.delivery) :
          sim.due view.delivery +
            ((view.pipe middle.component).stalled ++ [item] : List ι) =
            item ::ₘ items view middle := by
        rw [same, items, ← Multiset.coe_add, ← Multiset.singleton_add,
          ← add_assoc, add_comm]
        rfl
      cases set : (view.pipe middle.component).retryEid with
      | none =>
          obtain ⟨local_, same, again⟩ :=
            retry_pushed view wellFormed (view.pipe middle.component).toComponent
          refine onPipe_ends (Pipe.deliver_refused_none _ _ item set) ⟨?_, fun fine => ?_⟩
          · rw [withPipe_items, queued _ same]
            exact serves.turned holds (.of_pipe local_ rfl le_rfl)
              (.inr (by rw [withPipe_pipe]))
          · have count := (counted fine).count
            exact
              { count := by
                  rw [withPipe_pipe, withPipe_items, queued _ same, zero_add,
                    ← Multiset.singleton_add]
                  exact count
                armed := fun _ => again
                wakes := fun _ => by
                  rw [withPipe_pipe]
                  exact fun impossible => by cases impossible }
      | some eventId =>
          refine onPipe_ends (Pipe.deliver_refused_some _ _ item set) ⟨?_, fun fine => ?_⟩
          · rw [withPipe_items, queued _ rfl]
            exact serves.turned holds (.of_pipe (.refl _ wellFormed) rfl le_rfl)
              (.inr (by rw [withPipe_pipe]))
          · have count := (counted fine).count
            have busy : (view.pipe middle.component).retryEid ≠ none := by
              rw [set]
              exact fun impossible => by cases impossible
            exact
              { count := by
                  rw [withPipe_pipe, withPipe_items, queued _ rfl, zero_add,
                    ← Multiset.singleton_add]
                  exact count
                armed := fun _ => (counted fine).armed busy
                wakes := fun _ => by
                  rw [withPipe_pipe]
                  exact busy }

theorem retryLoop_ends (stalled : List ι)
    (waiting : (view.pipe device.component).stalled = stalled)
    (unset : (view.pipe device.component).retryEid = none)
    (holds : G (items view device) device)
    (count : F → (view.pipe device.component).inFlight = (items view device).card) :
    (retryLoop view.toStage consumer stalled).Ends device
      (fun _ after => G (items view after) after ∧ (F → Standing view after))
      (Core tally args) := by
  induction stalled generalizing device with
  | nil =>
      refine .pure ⟨holds, fun fine =>
        { count := by rw [zero_add]; exact count fine
          armed := fun set => absurd unset set
          wakes := fun nonempty => absurd waiting nonempty }⟩
  | cons item rest induction =>
      unfold retryLoop
      have split :
          items view device = item ::ₘ (device.sim.due view.delivery + rest) := by
        rw [items, waiting, ← Multiset.cons_coe, Multiset.add_cons]
      rw [split] at holds
      refine .bind (serves.consume holds) ?_
      rintro answer middle ⟨framed, refused, accepted⟩
      have wellFormed := framed.core.wellFormed
      have waiting : (view.pipe middle.component).stalled = item :: rest := by
        rw [framed.pipe]
        exact waiting
      have unset : (view.pipe middle.component).retryEid = none := by
        rw [framed.pipe]
        exact unset
      have count : F →
          (view.pipe middle.component).inFlight = (items view middle).card := by
        rw [framed.pipe, framed.items]
        exact count
      rw [← framed.delivery] at split refused accepted
      rw [← framed.items] at split
      cases answer with
      | refused =>
          obtain ⟨local_, same, again⟩ :=
            retry_pushed view wellFormed (view.pipe middle.component).toComponent
          refine .bind (R := fun _ last => G (items view last) last ∧
            (F → Standing view last))
            (onPipe_ends (by rw [Pipe.retryAnswer, Pipe.scheduleRetry_eq])
              ⟨?_, fun fine => ?_⟩)
            fun _ last both => .pure both
          · rw [withPipe_items, same]
            have holds := refused rfl
            rw [← split] at holds
            exact serves.turned holds (.of_pipe local_ rfl le_rfl)
              (.inr (by rw [withPipe_pipe]))
          · exact
              { count := by
                  rw [withPipe_pipe, withPipe_items, same, zero_add]
                  exact count fine
                armed := fun _ => again
                wakes := fun _ => by
                  rw [withPipe_pipe]
                  exact fun impossible => by cases impossible }
      | accepted =>
          obtain ⟨holds, woken⟩ := accepted rfl
          refine .bind (R := fun _ last => last = withPipe view middle middle.sim
              { view.pipe middle.component with
                stalled := rest
                inFlight := (view.pipe middle.component).inFlight - 1 })
            (onPipe_ends (by rw [Pipe.retryAnswer, waiting]) rfl) ?_
          rintro _ _ rfl
          refine induction (by rw [withPipe_pipe])
            (by rw [withPipe_pipe]; exact unset) ?_ ?_
          · rw [withPipe_items]
            exact serves.turned holds
              (.of_pipe (.refl _ wellFormed) rfl (by simp only; omega))
              (.inl woken)
          · intro fine
            have all := count fine
            rw [split, Multiset.card_cons] at all
            rw [withPipe_pipe, withPipe_items]
            simp only
            omega

theorem retry_ends (holds : G (items view device) device)
    (count : F → (view.pipe device.component).inFlight = (items view device).card) :
    (retry view.toStage consumer).Ends device
      (fun _ after => G (items view after) after ∧ (F → Standing view after))
      (Core tally args) := by
  have wellFormed := (serves.core holds).wellFormed
  have turned : Turned view device
      (withPipe view device device.sim (view.pipe device.component).retry) :=
    .of_pipe (.refl _ wellFormed) rfl le_rfl
  refine .modify (.get (serves.retryLoop_ends _ rfl ?_ ?_ ?_))
  · exact congrArg Pipe.retryEid (view.pipe_replace _ _)
  · have same :
        (withPipe view device device.sim (view.pipe device.component).retry).items view =
        items view device := by
      rw [withPipe_items]
      rfl
    change G ((withPipe view device device.sim (view.pipe device.component).retry).items
      view) _
    rw [same]
    have kept : (view.pipe (withPipe view device device.sim
        (view.pipe device.component).retry).component).inFlight =
          (view.pipe device.component).inFlight := by
      rw [withPipe_pipe]
      rfl
    exact serves.turned holds turned (.inr kept)
  · intro fine
    change (view.pipe (withPipe view device device.sim
        (view.pipe device.component).retry).component).inFlight =
      ((withPipe view device device.sim (view.pipe device.component).retry).items
        view).card
    rw [withPipe_pipe, withPipe_items]
    exact count fine

end Serves

end Pyramulator.CopyDevice
