import Mathlib.Data.Multiset.Filter
import Pyramulator.Sim.Agenda

namespace Pyramulator.Simulator

/-! What the agenda holds for one kind of callbacks, in no order. -/

variable {κ Part : Type}

def due (part : κ → Option Part) (sim : Simulator κ) : Multiset Part :=
  (sim.liveEvents.filterMap fun event => part event.callback : List Part)

variable {part : κ → Option Part} {sim after : Simulator κ}

theorem due_congr (same : after.liveEvents = sim.liveEvents) :
    due part after = due part sim := by
  rw [due, due, same]

theorem due_of_empty (empty : sim.liveEvents = []) : due part sim = 0 := by
  rw [due, empty]
  rfl

theorem liveEvents_of_idle (idle : sim.nextTime.1 = none) : sim.liveEvents = [] := by
  have noEvent : sim.peek.1.map Event.time = none := idle
  rw [peek_fst, Option.map_eq_none_iff, List.head?_eq_none_iff] at noEvent
  exact noEvent

section Push

variable (wellFormed : sim.WellFormed) {time priority : Int} {callback : κ}
  (source : Option String)
include wellFormed

theorem due_push_some {value : Part} (seen : part callback = some value) :
    due part (sim.push time callback priority source).2 = value ::ₘ due part sim := by
  have inserted : (Queue.insert Event.key (sim.pushed time callback priority)
      sim.liveEvents).Perm (sim.pushed time callback priority :: sim.liveEvents) :=
    Queue.insert_perm _ _
  have first : (sim.pushed time callback priority :: sim.liveEvents).filterMap
      (fun event => part event.callback) =
        value :: sim.liveEvents.filterMap fun event => part event.callback :=
    List.filterMap_cons_some seen
  rw [due, push_liveEvents wellFormed, due, Multiset.cons_coe, ← first]
  exact Multiset.coe_eq_coe.mpr (inserted.filterMap fun event => part event.callback)

theorem due_push_none (unseen : part callback = none) :
    due part (sim.push time callback priority source).2 = due part sim := by
  rw [due, due, push_select_none wellFormed source unseen]

end Push

section Fire

variable {event : Event κ} (next : sim.peek.1 = some event)
include next

theorem due_fired_some {value : Part} (seen : part event.callback = some value) :
    due part sim = value ::ₘ due part (sim.fireNext event) := by
  rw [due, due, fireNext_liveEvents next, Multiset.cons_coe]
  exact congrArg Multiset.ofList (List.filterMap_cons_some
    (f := fun event : Event κ => part event.callback) seen)

theorem due_fired_none (unseen : part event.callback = none) :
    due part (sim.fireNext event) = due part sim := by
  rw [due, due, fireNext_liveEvents next]
  exact congrArg Multiset.ofList (List.filterMap_cons_none
    (f := fun event : Event κ => part event.callback) unseen).symm

end Fire

end Pyramulator.Simulator
