import Pyramulator.Hardware.PipeConsistency

namespace Pyramulator.PipeWorld

open Config (codes)

variable {α η : Type}

/-! A consumer that steps the simulator before it answers. -/

/-- The items that calls of `_deliver` on the stack offer. -/
def handing (codes : List (PipeCode α η)) : List (Item α) :=
  codes.filterMap fun
    | .pipe (.deliver item) => some item
    | _ => none

/-- The items that calls of `_retry` on the stack offer. -/
def retryOffers (codes : List (PipeCode α η)) : List (Item α) :=
  codes.filterMap fun
    | .retryOffer item => some item
    | _ => none

def unanswered (codes : List (PipeCode α η)) : List (Item α) :=
  codes.filterMap fun
    | .pipe (.deliver item) | .retryOffer item => some item
    | _ => none

theorem unanswered_perm (codes : List (PipeCode α η)) :
    (unanswered codes).Perm (retryOffers codes ++ handing codes) := by
  induction codes with
  | nil => exact .refl _
  | cons code rest induction =>
      cases code with
      | pipe event =>
          cases event with
          | deliver item => exact (induction.cons item).trans List.perm_middle.symm
          | retry => exact induction
      | retryOffer item => exact induction.cons item
      | host tag => exact induction

/-- What waits for the consumer's answer: stalled items, offered ones and queued ones. -/
def pending (pipe : Pipe (Item α)) (sim : Simulator (PipeCode α η))
    (codes : List (PipeCode α η)) : List (Item α) :=
  pipe.stalled ++ handing codes ++ deliveries sim

/-- What the code of the pipe keeps at each of its calls, while at most one `_retry` is on
the stack. -/
structure Carried (sim : Simulator (PipeCode α η)) (world : PipeWorld α)
    (codes : List (PipeCode α η)) : Prop where
  hosts : ∀ eventId ∈ world.hostIds, eventId < sim.seq ∧
    ∀ event ∈ sim.liveEvents, event.seq = eventId →
      ∃ tag, event.callback = .host tag
  tickets : world.puts.map Item.ticket = List.range world.puts.length
  once : (world.accepted ++ pending world.pipe sim codes).Perm world.puts
  single : (retryOffers codes).length ≤ 1
  first : ∀ item ∈ retryOffers codes, world.pipe.stalled.head? = some item
  noted : ∀ eventId, world.pipe.retryEid = some eventId →
    ∃ event ∈ retries sim, event.seq = eventId

/-- What holds of a pipe whose consumer may step the simulator, where user code has
control. -/
structure Nested (sim : Simulator (PipeCode α η)) (world : PipeWorld α)
    (codes : List (PipeCode α η)) : Prop extends Carried sim world codes where
  progress : world.pipe.stalled ≠ [] →
    retryOffers codes ≠ [] ∨ world.pipe.retryEid ≠ none

namespace Nested

variable {sim : Simulator (PipeCode α η)} {world : PipeWorld α}
  {codes : List (PipeCode α η)}

theorem create (pipe : Pipe (Item α)) (stalled : pipe.stalled = [])
    (retryEid : pipe.retryEid = none) :
    Nested (Simulator.init : Simulator (PipeCode α η)) (create pipe) [] where
  hosts := by simp [PipeWorld.create]
  tickets := rfl
  once := by
    simp [PipeWorld.create, pending, stalled, handing, deliveries, Simulator.init,
      Simulator.liveEvents, accepted, puts]
  single := by simp [retryOffers]
  first := by simp [retryOffers]
  noted := by simp [PipeWorld.create, retryEid]
  progress := by simp [PipeWorld.create, stalled]

theorem congr (nested : Nested sim world codes) (after : Simulator (PipeCode α η))
    (hostIds : List Nat) (delivered : deliveries after = deliveries sim)
    (retried : retries after = retries sim)
    (hosts : ∀ eventId ∈ hostIds, eventId < after.seq ∧
      ∀ event ∈ after.liveEvents, event.seq = eventId →
        ∃ tag, event.callback = .host tag) : Nested after
          { world with hostIds } codes where
  hosts := hosts
  tickets := nested.tickets
  once := by
    rw [pending, delivered]
    exact nested.once
  single := nested.single
  first := nested.first
  noted := by
    rw [retried]
    exact nested.noted
  progress := nested.progress

theorem sameAgenda (nested : Nested sim world codes) (after : Simulator (PipeCode α η))
    (live : after.liveEvents = sim.liveEvents) (seq : after.seq = sim.seq) :
    Nested after world codes := by
  refine nested.congr after world.hostIds ?_ ?_ ?_
  · rw [deliveries, live, deliveries]
  · rw [retries, live, retries]
  · rw [live, seq]
    exact nested.hosts

theorem recode (nested : Nested sim world codes) {rest : List (PipeCode α η)}
    (handed : handing rest = handing codes)
    (retried : retryOffers rest = retryOffers codes) :
    Nested sim world rest where
  hosts := nested.hosts
  tickets := nested.tickets
  once := by
    rw [pending, handed]
    exact nested.once
  single := by
    rw [retried]
    exact nested.single
  first := by
    rw [retried]
    exact nested.first
  noted := nested.noted
  progress := by
    rw [retried]
    exact nested.progress

end Nested

theorem Carried.offered {sim : Simulator (PipeCode α η)} {world : PipeWorld α}
    {codes : List (PipeCode α η)} (carried : Carried sim world codes) (item : Item α)
    (now : Int) : Carried sim (world.note (.offered item now)) codes := by
  have accepted : (world.note (.offered item now)).accepted = world.accepted := by
    rw [accepted_note, List.append_nil]
  have puts : (world.note (.offered item now)).puts = world.puts := by
    rw [puts_note, List.append_nil]
  exact
    { hosts := carried.hosts
      tickets := by
        rw [puts]
        exact carried.tickets
      once := by
        rw [puts, accepted]
        exact carried.once
      single := carried.single
      first := carried.first
      noted := carried.noted }

namespace Nested

variable {sim : Simulator (PipeCode α η)} {world : PipeWorld α}
  {codes : List (PipeCode α η)}

/-! ### Calls of user code -/

theorem hosts_push {time : Int} {callback : PipeCode α η} {priority : Int}
    (nested : Nested sim world codes) (wellFormed : sim.WellFormed)
    (source : Option String) :
    ∀ eventId ∈ world.hostIds,
      eventId < (sim.push time callback priority source).2.seq ∧
        ∀ event ∈ (sim.push time callback priority source).2.liveEvents,
          event.seq = eventId → ∃ tag, event.callback = .host tag := by
  intro eventId member
  obtain ⟨known, hosted⟩ := nested.hosts eventId member
  rw [Simulator.push_liveEvents wellFormed, Simulator.push_seq]
  refine ⟨by omega, fun event live same => ?_⟩
  rcases Queue.mem_insert.mp live with rfl | live
  · exact absurd same (by simp only [Simulator.pushed]; omega)
  · exact hosted event live same

theorem host_push (nested : Nested sim world codes) (wellFormed : sim.WellFormed)
    (time : Int) (tag : η) (priority : Int) (source : Option String) :
    Nested (sim.push time (.host tag) priority source).2
      { world with hostIds := world.hostIds ++ [sim.seq] } codes := by
  apply nested.congr
  · exact Simulator.push_select_none wellFormed source rfl
  · exact Simulator.push_select_none wellFormed source rfl
  · intro eventId member
    rcases List.mem_append.mp member with older | newer
    · exact nested.hosts_push wellFormed source eventId older
    · obtain rfl : eventId = sim.seq := by simpa using newer
      rw [Simulator.push_liveEvents wellFormed, Simulator.push_seq]
      refine ⟨by omega, fun event live same => ?_⟩
      rcases Queue.mem_insert.mp live with rfl | live
      · exact ⟨tag, rfl⟩
      · exact absurd same (wellFormed.live_fresh event live).ne

theorem cancel (nested : Nested sim world codes) (wellFormed : sim.WellFormed)
    {eventId : Nat} (own : eventId ∈ world.hostIds) :
    Nested (sim.cancel eventId).2 world codes := by
  have hosted := (nested.hosts eventId own).2
  apply nested.congr _ world.hostIds
  · refine Simulator.cancel_select wellFormed fun event live same => ?_
    obtain ⟨tag, host⟩ := hosted event live same
    simp [deliveryOf, host]
  · refine Simulator.cancel_select wellFormed fun event live same => ?_
    obtain ⟨tag, host⟩ := hosted event live same
    simp [retryOf, host]
  · intro other member
    rw [Simulator.cancel_liveEvents wellFormed, Simulator.cancel_seq]
    obtain ⟨known, hostedOther⟩ := nested.hosts other member
    exact ⟨known, fun event live => hostedOther event (List.mem_filter.mp live).1⟩

theorem put (nested : Nested sim world codes) (wellFormed : sim.WellFormed) (value : α) :
    let item : Item α := ⟨world.puts.length, value, sim.now⟩
    Nested
      (world.pipe.pushCycles sim world.pipe.latencyCycles (.pipe (.deliver item)) 0)
      (Flow.afterPut world item) codes := by
  intro item
  have puts : (Flow.afterPut world item).puts = world.puts ++ [item] := puts_note _ _
  have accepted : (Flow.afterPut world item).accepted = world.accepted := by
    simp [Flow.afterPut, PipeWorld.accepted]
  have queued : (deliveries (world.pipe.pushCycles sim world.pipe.latencyCycles
      (.pipe (.deliver item)) 0)).Perm (item :: deliveries sim) := by
    rw [deliveries, Component.pushCycles_liveEvents _ wellFormed]
    exact (Queue.insert_perm _ _).filterMap deliveryOf
  refine
    { hosts := nested.hosts_push wellFormed _
      tickets := ?_
      once := ?_
      single := nested.single
      first := nested.first
      noted := ?_
      progress := nested.progress }
  · rw [puts, List.map_append, nested.tickets, List.length_append]
    simp [List.range_succ, item]
  · rw [puts, accepted]
    refine List.Perm.trans ?_ (nested.once.append_right [item])
    rw [List.append_assoc]
    refine List.Perm.append_left _ ?_
    change (world.pipe.stalled ++ handing codes ++ _).Perm
      (world.pipe.stalled ++ handing codes ++ deliveries sim ++ [item])
    rw [List.append_assoc _ (deliveries sim)]
    refine List.Perm.append_left _ (queued.trans ?_)
    exact (List.perm_append_singleton item _).symm
  · have same : retries (world.pipe.pushCycles sim world.pipe.latencyCycles
        (.pipe (.deliver item)) 0) = retries sim :=
      Simulator.push_select_none wellFormed _ rfl
    rw [same]
    exact nested.noted

theorem exec (nested : Nested sim world codes) (wellFormed : sim.WellFormed)
    (op : PipeOp α η) :
    Nested (PipeWorld.exec op sim world).2.1 (PipeWorld.exec op sim world).2.2 codes := by
  cases op with
  | put value =>
      simp only [PipeWorld.exec]
      cases full : world.pipe.full with
      | true =>
          rw [Pipe.put_full _ _ _ full]
          exact nested
      | false =>
          rw [Pipe.put_accepted _ _ _ full]
          exact nested.put wellFormed value
  | schedule delay tag priority =>
      simp only [PipeWorld.exec, Simulator.schedule]
      split
      · exact nested
      · exact nested.host_push wellFormed _ tag priority none
  | at_ time tag priority =>
      simp only [PipeWorld.exec, Simulator.at_]
      split
      · exact nested
      · exact nested.host_push wellFormed time tag priority none
  | cancel handle =>
      simp only [PipeWorld.exec]
      split
      · rename_i eventId found
        exact nested.cancel wellFormed (List.mem_of_getElem? found)
      · exact nested
  | nextTime => exact nested.sameAgenda sim.peek.2 (Simulator.peek_liveEvents sim) rfl
  | advanceTo time => exact nested.sameAgenda (sim.advanceTo time).2 (by simp) (by simp)

/-! ### The code of the pipe -/

abbrev property : (pipeSystem α η).Property :=
  fun sim world codes _ => Nested sim world codes

theorem fireOther (nested : Nested sim world codes) {event : Event (PipeCode α η)}
    (next : sim.peek.1 = some event) (delivered : deliveryOf event = none)
    (retried : retryOf event = none) : Nested (sim.fireNext event) world codes := by
  have live := Simulator.fireNext_liveEvents next
  apply nested.congr _ world.hostIds
  · rw [deliveries, deliveries, live, List.filterMap_cons_none delivered]
  · rw [retries, retries, live, List.filterMap_cons_none retried]
  · intro eventId member
    obtain ⟨known, hosted⟩ := nested.hosts eventId member
    exact ⟨known, fun other otherLive =>
      hosted other (by rw [live]; exact List.mem_cons_of_mem _ otherLive)⟩

theorem fireDelivery (nested : Nested sim world codes) {event : Event (PipeCode α η)}
    {item : Item α} (next : sim.peek.1 = some event)
    (named : event.callback = .pipe (.deliver item)) :
    Nested (sim.fireNext event) world (.pipe (.deliver item) :: codes) := by
  have live := Simulator.fireNext_liveEvents next
  have first : deliveries sim = item :: deliveries (sim.fireNext event) := by
    rw [deliveries, deliveries, live,
      List.filterMap_cons_some (b := item) (by simp [deliveryOf, named])]
  have retried : retries (sim.fireNext event) = retries sim := by
    rw [retries, retries, live, List.filterMap_cons_none (by simp [retryOf, named])]
  have handed : handing (.pipe (.deliver item) :: codes) = item :: handing codes := rfl
  refine
    { hosts := fun eventId member => ?_
      tickets := nested.tickets
      once := ?_
      single := nested.single
      first := nested.first
      noted := by
        rw [retried]
        exact nested.noted
      progress := nested.progress }
  · obtain ⟨known, hosted⟩ := nested.hosts eventId member
    exact ⟨known, fun other otherLive =>
      hosted other (by rw [live]; exact List.mem_cons_of_mem _ otherLive)⟩
  · refine List.Perm.trans (List.Perm.append_left _ ?_) nested.once
    rw [pending, pending, handed, first, List.append_assoc, List.append_assoc]
    exact List.Perm.append_left _ List.perm_middle.symm

theorem retryLoop (carried : Carried sim world codes) (alone : retryOffers codes = [])
    (fired : List (Event (PipeCode α η))) :
    (PipeWorld.retryLoop sim world).Leaves property codes fired := by
  unfold PipeWorld.retryLoop
  split
  · rename_i empty
    exact ⟨carried, fun stalled => absurd empty stalled⟩
  · rename_i item rest shape
    have retried : retryOffers (.retryOffer item :: codes) = [item] := congrArg _ alone
    have offered := carried.offered item sim.now
    exact
      { hosts := offered.hosts
        tickets := offered.tickets
        once := offered.once
        single := by
          rw [retried]
          exact le_refl _
        first := by
          rw [retried]
          intro other member
          rw [List.mem_singleton.mp member, note_pipe, shape]
          rfl
        noted := offered.noted
        progress := fun _ => .inl (by simp [retried]) }

theorem fireRetry (nested : Nested sim world codes) {event : Event (PipeCode α η)}
    (next : sim.peek.1 = some event) (named : event.callback = .pipe .retry) :
    Carried (sim.fireNext event) { world with pipe := world.pipe.retry } codes := by
  have live := Simulator.fireNext_liveEvents next
  have delivered : deliveries (sim.fireNext event) = deliveries sim := by
    rw [deliveries, deliveries, live,
      List.filterMap_cons_none (by simp [deliveryOf, named])]
  refine
    { hosts := fun eventId member => ?_
      tickets := nested.tickets
      once := ?_
      single := nested.single
      first := nested.first
      noted := fun eventId noted => by cases noted }
  · obtain ⟨known, hosted⟩ := nested.hosts eventId member
    exact ⟨known, fun other otherLive =>
      hosted other (by rw [live]; exact List.mem_cons_of_mem _ otherLive)⟩
  · rw [pending, delivered]
    exact nested.once

theorem enter (nested : Nested sim world codes) {event : Event (PipeCode α η)}
    (next : sim.peek.1 = some event)
    (alone : event.callback = .pipe .retry → retryOffers codes = [])
    (fired : List (Event (PipeCode α η))) :
    (PipeWorld.enter event.callback (sim.fireNext event) world).Leaves property codes
      fired := by
  cases shape : event.callback with
  | pipe pipeEvent =>
      cases pipeEvent with
      | deliver item =>
          have handed := nested.fireDelivery next shape
          exact ⟨handed.offered item _, handed.progress⟩
      | retry => exact retryLoop (nested.fireRetry next shape) (alone shape) fired
  | retryOffer item =>
      exact nested.fireOther next (by simp [deliveryOf, shape]) (by simp [retryOf, shape])
  | host tag =>
      exact (nested.fireOther next (by simp [deliveryOf, shape])
        (by simp [retryOf, shape])).recode rfl rfl

theorem accept {code : PipeCode α η} (nested : Nested sim world (code :: codes))
    (item : Item α) (stalled : List (Item α))
    (left : (item :: (stalled ++ handing codes)).Perm
      (world.pipe.stalled ++ handing (code :: codes)))
    (first : ∀ other ∈ retryOffers codes, stalled.head? = some other)
    (single : (retryOffers codes).length ≤ 1) :
    Carried sim (Flow.afterAccept world item stalled) codes := by
  have accepted : (Flow.afterAccept world item stalled).accepted =
      world.accepted ++ [item] := accepted_note _ _
  have puts : (Flow.afterAccept world item stalled).puts = world.puts := by
    simp [Flow.afterAccept, PipeWorld.puts]
  refine
    { hosts := nested.hosts
      tickets := by
        rw [puts]
        exact nested.tickets
      once := ?_
      single := single
      first := first
      noted := nested.noted }
  rw [puts, accepted]
  refine List.Perm.trans ?_ nested.once
  rw [List.append_assoc]
  refine List.Perm.append_left _ ?_
  exact left.append_right (deliveries sim)

theorem reschedule {code : PipeCode α η} (nested : Nested sim world (code :: codes))
    (wellFormed : sim.WellFormed) (stalled : List (Item α))
    (left : (stalled ++ handing codes).Perm
      (world.pipe.stalled ++ handing (code :: codes)))
    (first : ∀ other ∈ retryOffers codes, stalled.head? = some other)
    (single : (retryOffers codes).length ≤ 1) :
    Nested (world.pipe.pushCycles sim 1 (.pipe .retry) 0)
      { world with pipe := { world.pipe with stalled, retryEid := some sim.seq } }
        codes := by
  have delivered :
      deliveries (world.pipe.pushCycles sim 1 (.pipe .retry : PipeCode α η) 0) =
      deliveries sim := Simulator.push_select_none wellFormed _ rfl
  refine
    { hosts := nested.hosts_push wellFormed _
      tickets := nested.tickets
      once := ?_
      single := single
      first := first
      noted := ?_
      progress := fun _ => .inr (by simp) }
  · refine List.Perm.trans (List.Perm.append_left _ ?_) nested.once
    rw [pending, delivered]
    exact left.append_right (deliveries sim)
  · intro eventId same
    obtain rfl := Option.some.inj same
    refine ⟨sim.pushed (sim.now + 1 * world.pipe.clk.periodPs) (.pipe .retry) 0, ?_, rfl⟩
    rw [retries, Component.pushCycles_liveEvents _ wellFormed]
    exact List.mem_filterMap.mpr ⟨_, Queue.mem_insert.mpr (.inl rfl), rfl⟩

theorem resume {code : PipeCode α η} (nested : Nested sim world (code :: codes))
    (wellFormed : sim.WellFormed) (answer : Consumed)
    (fired : List (Event (PipeCode α η))) :
    (PipeWorld.resume code answer sim world).Leaves property codes fired := by
  cases code with
  | host tag => exact nested.recode rfl rfl
  | retryOffer item =>
      have single := nested.single
      change (retryOffers codes).length + 1 ≤ 1 at single
      have alone : retryOffers codes = [] := List.length_eq_zero_iff.mp (by omega)
      obtain ⟨rest, stalled⟩ : ∃ rest, world.pipe.stalled = item :: rest :=
        List.head?_eq_some_iff.mp (nested.first item List.mem_cons_self)
      have noOffers (left : List (Item α)) :
          ∀ other ∈ retryOffers codes, left.head? = some other := by
        rw [alone]
        exact fun other impossible => by cases impossible
      have few : (retryOffers codes).length ≤ 1 := by
        rw [alone]
        exact Nat.zero_le 1
      cases answer with
      | refused =>
          simp only [PipeWorld.resume, Pipe.retryAnswer, Pipe.scheduleRetry_eq]
          exact nested.reschedule wellFormed world.pipe.stalled (.refl _) (noOffers _) few
      | accepted =>
          simp only [PipeWorld.resume, Pipe.retryAnswer, note_pipe, stalled]
          have left : (item :: (rest ++ handing codes)).Perm
              (world.pipe.stalled ++ handing (.retryOffer item :: codes)) := by
            rw [stalled]
            exact .refl _
          exact retryLoop (nested.accept item rest left (noOffers _) few) alone fired
  | pipe pipeEvent =>
      cases pipeEvent with
      | retry => exact nested.recode rfl rfl
      | deliver item =>
          have handed : handing (.pipe (.deliver item) :: codes) = item ::
              handing codes := rfl
          cases answer with
          | refused =>
              have left : (world.pipe.stalled ++ [item] ++ handing codes).Perm
                  (world.pipe.stalled ++ handing (.pipe (.deliver item) :: codes)) := by
                rw [handed, List.append_assoc]
                exact .refl _
              have first : ∀ other ∈ retryOffers codes,
                  (world.pipe.stalled ++ [item]).head? = some other := by
                intro other member
                rw [List.head?_append, nested.first other member]
                rfl
              cases set : world.pipe.retryEid with
              | none =>
                  simp only [PipeWorld.resume, Pipe.deliver_refused_none _ _ _ set]
                  exact nested.reschedule wellFormed _ left first nested.single
              | some eventId =>
                  simp only [PipeWorld.resume, Pipe.deliver_refused_some _ _ _ set]
                  exact
                    { hosts := nested.hosts
                      tickets := nested.tickets
                      once := (List.Perm.append_left _
                        (left.append_right (deliveries sim))).trans nested.once
                      single := nested.single
                      first := first
                      noted := nested.noted
                      progress := fun _ => .inr (by simp [set]) }
          | accepted =>
              have left : (item :: (world.pipe.stalled ++ handing codes)).Perm
                  (world.pipe.stalled ++ handing (.pipe (.deliver item) :: codes)) := by
                rw [handed]
                exact List.perm_middle.symm
              exact ⟨nested.accept item world.pipe.stalled left nested.first
                nested.single, nested.progress⟩

theorem pop {code : PipeCode α η} (nested : Nested sim world (code :: codes))
    (plain : isConsumer code = false) : Nested sim world codes := by
  match code, plain with
  | .host tag, _ => exact nested.recode rfl rfl
  | .pipe .retry, _ => exact nested.recode rfl rfl

end Nested

/-! ## Runs -/

def Answering (config : Config (pipeSystem α η)) (decision : Decision (pipeSystem α η)) :
    Prop :=
  ∀ error, decision = .raise error → Idle (codes config.stack)

/-- No `_retry` begins while the consumer has not answered another one. -/
def Apart (config : Config (pipeSystem α η)) (decision : Decision (pipeSystem α η)) :
    Prop :=
  ∀ event, config.Fires decision event → event.callback = .pipe .retry →
    retryOffers (codes config.stack) = []

structure OfferedOnce (config : Config (pipeSystem α η)) : Prop where
  /-- No item is offered while an earlier offer of it is unanswered. -/
  unanswered : (unanswered (codes config.stack)).Nodup
  /-- `_retry` will remove the item that it is offering. -/
  removes : ∀ item below, codes config.stack = .retryOffer item :: below →
    config.world.pipe.stalled.head? = some item
  accepted : config.world.accepted.Nodup
  carried : (config.world.accepted ++
    pending config.world.pipe config.sim (codes config.stack)).Perm config.world.puts
  drained : config.sim.liveEvents = [] → PipeWorld.unanswered (codes config.stack) = [] →
    config.world.accepted.Perm config.world.puts

variable {config : Config (pipeSystem α η)} {decision : Decision (pipeSystem α η)}

theorem Nested.offeredOnce
    (nested : Nested config.sim config.world (codes config.stack)) :
    OfferedOnce config := by
  have tickets : (config.world.puts.map Item.ticket).Nodup := by
    rw [nested.tickets]
    exact List.nodup_range
  have all := nested.once.nodup_iff.mpr tickets.of_map
  have offers := unanswered_perm (codes config.stack)
  obtain ⟨accepted, waiting, -⟩ := List.nodup_append.mp all
  obtain ⟨seen, -, -⟩ := List.nodup_append.mp waiting
  obtain ⟨-, handed, apart⟩ := List.nodup_append.mp seen
  refine
    { unanswered := ?_
      removes := fun item below position => nested.first item ?_
      accepted
      carried := nested.once
      drained := fun empty answered => ?_ }
  · rw [offers.nodup_iff, List.nodup_append]
    refine ⟨?_, handed, fun item member other later => ?_⟩
    · match shape : retryOffers (codes config.stack), nested.single with
      | [], _ => exact List.nodup_nil
      | [item], _ => exact List.nodup_singleton item
    · exact apart item (List.mem_of_mem_head? (nested.first item member)) other later
  · rw [position]
    exact List.mem_cons_self
  · rw [answered] at offers
    obtain ⟨retried, handed⟩ := List.append_eq_nil_iff.mp offers.symm.eq_nil
    have unset : config.world.pipe.retryEid = none := by
      cases set : config.world.pipe.retryEid with
      | none => rfl
      | some eventId =>
          obtain ⟨event, member, -⟩ := nested.noted eventId set
          rw [retries, empty] at member
          cases member
    have stalled : config.world.pipe.stalled = [] := by
      by_contra nonempty
      rcases nested.progress nonempty with offered | noted
      · exact offered retried
      · exact noted unset
    have once := nested.once
    rw [pending, stalled, handed, deliveries, empty] at once
    simpa using once

theorem nested_rule :
    Config.Invariant (fun config decision => Answering config decision ∧
      Apart config decision)
      (fun _ => True) (Nested.property (α := α) (η := η)) where
  congr after nested live seq _ := nested.sameAgenda after live seq
  exec op coherent nested _ := Nested.exec nested coherent.wellFormed op
  enter {config _ _ event} wellFormed permitted fires position _ nested next := by
    refine Nested.enter nested next (fun named => ?_) _
    rw [← position]
    exact permitted.2 event fires named
  resume answer wellFormed _ _ nested := Nested.resume nested wellFormed answer _
  raise error permitted position nested := by
    have idle := permitted.1 error rfl
    rw [position] at idle
    exact Nested.pop nested (idle _ rfl)
  step _ := trivial
  run _ := trivial
  wait _ := trivial

theorem Nested.offered_again
    (nested : Nested config.sim config.world (codes config.stack))
    {event : Event (PipeCode α η)} (fires : config.Fires decision event)
    (named : event.callback = .pipe .retry)
    (once : OfferedOnce (config.advance decision)) :
    retryOffers (codes config.stack) = [] := by
  by_contra busy
  obtain ⟨item, member⟩ := List.exists_mem_of_ne_nil _ busy
  obtain ⟨rest, stalled⟩ : ∃ rest, config.world.pipe.stalled = item :: rest :=
    List.head?_eq_some_iff.mp (nested.first item member)
  obtain ⟨-, below, step, position⟩ := fires.position
  have offers :
      (pipeSystem α η).enter event.callback (config.sim.fireNext event) config.world =
      .user (.retryOffer item) (config.sim.fireNext event)
        ({ config.world with pipe := config.world.pipe.retry }.note
          (.offered item (config.sim.fireNext event).now)) := by
    change PipeWorld.enter _ _ _ = _
    rw [named, PipeWorld.enter, PipeWorld.retryLoop]
    simp only [Pipe.retry, stalled]
  have stack : codes (config.advance decision).stack =
      .retryOffer item :: codes config.stack := by
    rw [step, Config.fire, offers, ← position]
    rfl
  have distinct := once.unanswered
  rw [stack] at distinct
  refine (List.nodup_cons.mp distinct).1 ?_
  exact (unanswered_perm _).mem_iff.mpr (List.mem_append_left _ member)

/-- In all states of a run whose consumers answer, items are neither duplicated nor
dropped, if and only if no `_retry` begins inside another one. -/
theorem offered_once {component : Component} {latencyCycles slots : Int}
    {pipe : Pipe (Item α)}
    (created : Pipe.create component latencyCycles slots = .ok pipe)
    {decisions : List (Decision (pipeSystem α η))}
    (answering : Transition.Follows Config.advance Answering (Config.init (create pipe))
      decisions) :
    (∀ initial, initial <+: decisions →
        OfferedOnce (Transition.run Config.advance (Config.init (create pipe)) initial)) ↔
      Transition.Follows Config.advance Apart (Config.init (create pipe)) decisions := by
  obtain ⟨-, -, -, -, stalled, retryEid⟩ := create_ok created
  have nested : Nested (Simulator.init : Simulator (PipeCode α η)) (create pipe) [] :=
    .create pipe stalled retryEid
  refine Transition.holds_iff_follows
    (fun config => config.Coherent ∧
      Config.Invariant.Kept (fun _ => True) Nested.property config) OfferedOnce
    (fun config decision both answering apart => ?_)
    (fun config decision both once answering => ?_) ?_ nested.offeredOnce answering
  · exact ⟨both.1.advance lawful decision,
      nested_rule.advance config both.1 both.2 decision ⟨answering, apart⟩⟩
  · obtain ⟨coherent, holds, orderly⟩ := both
    constructor
    · exact fun after event fires named => Nested.offered_again holds fires named after
    · intro apart
      obtain ⟨next, -⟩ := nested_rule.advance config coherent ⟨holds, orderly⟩ decision
        ⟨answering, apart⟩
      exact Nested.offeredOnce next
  · exact ⟨Config.init_coherent _, nested, trivial⟩

/-! ### Runs with two items -/

def twoPipe : Pipe (Item Nat) :=
  { onePipe with slots := 2, latency_pos := one_slot, slots_pos := two_slots }

/-- The consumer steps the simulator while it is offered the first item, refuses that
one and accepts it later. -/
def steppingConsumer : List (Decision (pipeSystem Nat Unit)) :=
  [.call (.put 1), .call (.put 2), .step, .step, .answer .accepted,
    .answer .refused, .step, .answer .accepted]

theorem offered_once_steppingConsumer :
    OfferedOnce (Transition.run Config.advance (Config.init (create twoPipe))
      steppingConsumer) := by
  have created : Pipe.create ⟨⟨10, by decide⟩, "pipe"⟩ 1 2 = .ok twoPipe := rfl
  have apart (config : Config (pipeSystem Nat Unit))
      (decision : Decision (pipeSystem Nat Unit))
      (alone : retryOffers (codes config.stack) = [] ∨ config.sim.peek.1 = none) :
      Apart config decision := by
    intro event fires _
    rcases alone with alone | noEvent
    · exact alone
    · cases noEvent.symm.trans fires.next
  refine (offered_once created ?_).mpr ?_ _ (List.prefix_refl _)
  · simp [steppingConsumer, Transition.Follows, Answering]
  · exact ⟨apart _ _ (by decide), apart _ _ (by decide), apart _ _ (by decide),
      apart _ _ (by decide), apart _ _ (by decide), apart _ _ (by decide),
      apart _ _ (by decide), apart _ _ (by decide), trivial⟩

/-- The consumer is offered the first item again and steps the simulator: the second
item is refused, and its retry offers the first item, which is accepted twice. -/
def nestedRetry : List (Decision (pipeSystem Nat Unit)) :=
  [.call (.put 1), .step, .answer .refused, .call (.put 2), .step, .step,
    .answer .refused, .step, .answer .accepted, .answer .refused, .answer .accepted]

/-- The second item is neither accepted nor stalled nor queued. -/
theorem nestedRetry_duplicates :
    let config := Transition.run Config.advance (Config.init (create twoPipe)) nestedRetry
    config.stack = [] ∧ config.world.accepted.map Item.value = [1, 1] ∧
      config.world.pipe.stalled = [] ∧ deliveries config.sim = [] ∧
        ¬ OfferedOnce config := by
  refine ⟨by decide, by decide, by decide, by decide, fun once => ?_⟩
  exact absurd once.accepted (by decide)

end Pyramulator.PipeWorld
