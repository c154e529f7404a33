import Pyramulator.Hardware.Pipe

namespace Pyramulator.PipeWorld

variable {α η : Type}

/-! ## What the agenda and the stack hold for a pipe -/

def deliveryOf (event : Event (PipeCode α η)) : Option (Item α) :=
  match event.callback with
  | .pipe (.deliver item) => some item
  | _ => none

def retryOf (event : Event (PipeCode α η)) : Option (Event (PipeCode α η)) :=
  match event.callback with
  | .pipe .retry => some event
  | _ => none

def deliveries (sim : Simulator (PipeCode α η)) : List (Item α) :=
  sim.liveEvents.filterMap deliveryOf

def retries (sim : Simulator (PipeCode α η)) : List (Event (PipeCode α η)) :=
  sim.liveEvents.filterMap retryOf

def isConsumer : PipeCode α η → Bool
  | .pipe (.deliver _) | .retryOffer _ => true
  | _ => false

/-- The item that `_deliver` is offering. -/
def delivering (codes : List (PipeCode α η)) : List (Item α) :=
  match codes with
  | .pipe (.deliver item) :: _ => [item]
  | _ => []

/-- The item that `_retry` is offering. -/
def retrying (codes : List (PipeCode α η)) : Option (Item α) :=
  match codes with
  | .retryOffer item :: _ => some item
  | _ => none

section Position

variable (rest : List (PipeCode α η))

@[simp] theorem delivering_deliver (item : Item α) :
    delivering (.pipe (.deliver item) :: rest) = [item] := rfl

@[simp] theorem delivering_retryOffer (item : Item α) :
    delivering (.retryOffer item :: rest) = [] := rfl

@[simp] theorem delivering_host (tag : η) :
    delivering (.host tag :: rest) = ([] : List (Item α)) := rfl

@[simp] theorem retrying_deliver (item : Item α) :
    retrying (.pipe (.deliver item) :: rest) = none := rfl

@[simp] theorem retrying_retryOffer (item : Item α) :
    retrying (.retryOffer item :: rest) = some item := rfl

@[simp] theorem retrying_host (tag : η) :
    retrying (.host tag :: rest) = (none : Option (Item α)) := rfl

end Position

def Idle (codes : List (PipeCode α η)) : Prop :=
  ∀ code ∈ codes.head?, isConsumer code = false

instance (codes : List (PipeCode α η)) : Decidable (Idle codes) :=
  inferInstanceAs (Decidable (∀ code ∈ codes.head?, isConsumer code = false))

theorem Idle.delivering {codes : List (PipeCode α η)} (idle : Idle codes) :
    delivering codes = [] := by
  unfold PipeWorld.delivering
  split
  · have := idle _ rfl
    simp [isConsumer] at this
  · rfl

theorem Idle.retrying {codes : List (PipeCode α η)} (idle : Idle codes) :
    retrying codes = none := by
  unfold PipeWorld.retrying
  split
  · have := idle _ rfl
    simp [isConsumer] at this
  · rfl

/-- The items of the pipe that wait, in the order in which they are to leave. -/
def contents (pipe : Pipe (Item α)) (sim : Simulator (PipeCode α η))
    (codes : List (PipeCode α η)) : List (Item α) :=
  pipe.stalled ++ delivering codes ++ deliveries sim

def seen (world : PipeWorld α) (codes : List (PipeCode α η)) : List (Item α) :=
  world.accepted ++ world.pipe.stalled ++ delivering codes

def latencyPs (pipe : Pipe (Item α)) : Int :=
  pipe.latencyCycles * pipe.clk.periodPs

/-! ## Notes -/

section Notes

variable (world : PipeWorld α) (entry : PipeNote α)

theorem puts_note :
    (world.note entry).puts = world.puts ++
      (match entry with | .put item => [item] | _ => []) := by
  cases entry <;> simp [puts, note]

theorem accepted_note :
    (world.note entry).accepted = world.accepted ++
      (match entry with | .accepted item => [item] | _ => []) := by
  cases entry <;> simp [accepted, note]

@[simp] theorem offers_note_offered [DecidableEq α] (item other : Item α)
    (now : Int) :
    (world.note (.offered item now)).offers other =
      world.offers other ++ if item = other then [now] else [] := by
  by_cases same : item = other <;> simp [offers, note, same]

@[simp] theorem offers_note_put [DecidableEq α] (item other : Item α) :
    (world.note (.put item)).offers other = world.offers other := by
  simp [offers, note]

@[simp] theorem offers_note_accepted [DecidableEq α] (item other : Item α) :
    (world.note (.accepted item)).offers other = world.offers other := by
  simp [offers, note]

end Notes

/-! ## The invariant -/

/-- The shared retry event: there while items are stalled, except while
`_retry` runs. -/
def RetryState (pipe : Pipe (Item α)) (sim : Simulator (PipeCode α η))
    (codes : List (PipeCode α η)) : Prop :=
  match retrying codes, pipe.retryEid with
  | some item, retryEid =>
      retryEid = none ∧ retries sim = [] ∧ pipe.stalled.head? = some item
  | none, none => retries sim = [] ∧ pipe.stalled = []
  | none, some eventId =>
      pipe.stalled ≠ [] ∧ ∃ event, retries sim = [event] ∧ event.seq = eventId ∧
        event.time ≤ sim.now + pipe.clk.periodPs

theorem RetryState.later {pipe : Pipe (Item α)}
    {sim after : Simulator (PipeCode α η)} {codes : List (PipeCode α η)}
    (before : RetryState pipe sim codes) (same : retries after = retries sim)
    (now : sim.now ≤ after.now) : RetryState pipe after codes := by
  unfold RetryState at before ⊢
  rw [same]
  split at before
  · exact before
  · exact before
  · obtain ⟨stalled, event, only, seq, soon⟩ := before
    exact ⟨stalled, event, only, seq, by omega⟩

theorem RetryState.recode {pipe : Pipe (Item α)}
    {sim : Simulator (PipeCode α η)} {codes rest : List (PipeCode α η)}
    (before : RetryState pipe sim codes) (same : retrying rest = retrying codes) :
    RetryState pipe sim rest := by
  unfold RetryState
  rw [same]
  exact before

/-- The items of a pipe that was created as `setup`, wherever they wait. -/
structure Flow [DecidableEq α] (setup : Pipe (Item α))
    (sim : Simulator (PipeCode α η)) (world : PipeWorld α)
    (codes : List (PipeCode α η)) : Prop where
  component : world.pipe.toComponent = setup.toComponent
  latency : world.pipe.latencyCycles = setup.latencyCycles
  slots : world.pipe.slots = setup.slots
  hosts : ∀ eventId ∈ world.hostIds, eventId < sim.seq ∧
    ∀ event ∈ sim.liveEvents, event.seq = eventId →
      ∃ tag, event.callback = .host tag
  arrival : ∀ event ∈ sim.liveEvents, ∀ item, deliveryOf event = some item →
    event.priority = 0 ∧ event.time = item.putAt + latencyPs setup ∧
      item.putAt ≤ sim.now
  occupancy : world.pipe.inFlight = (contents world.pipe sim codes).length
  bound : world.pipe.inFlight ≤ setup.slots
  single : ∀ code ∈ codes.tail, isConsumer code = false
  tickets : world.puts.map Item.ticket = List.range world.puts.length
  order : (contents world.pipe sim codes).Sublist world.puts
  once : (world.accepted ++ contents world.pipe sim codes).Perm world.puts
  offered : ∀ item ∈ world.seen codes,
    (world.offers item).head? = some (item.putAt + latencyPs setup)
  unoffered : ∀ item, item ∉ world.seen codes → world.offers item = []

structure Kept [DecidableEq α] (setup : Pipe (Item α))
    (sim : Simulator (PipeCode α η)) (world : PipeWorld α)
    (codes : List (PipeCode α η)) : Prop
    extends Flow setup sim world codes where
  retry : RetryState world.pipe sim codes

namespace Flow

variable [DecidableEq α] {setup : Pipe (Item α)}
  {sim : Simulator (PipeCode α η)} {world : PipeWorld α}
  {codes : List (PipeCode α η)}

theorem latencyPs_eq (flow : Flow setup sim world codes) :
    world.pipe.latencyCycles * world.pipe.clk.periodPs = latencyPs setup := by
  rw [latencyPs, flow.latency, flow.component]

theorem puts_nodup (flow : Flow setup sim world codes) : world.puts.Nodup := by
  have tickets : (world.puts.map Item.ticket).Nodup := by
    rw [flow.tickets]; exact List.nodup_range
  exact tickets.of_map

omit [DecidableEq α] in
theorem seen_eq (world : PipeWorld α) (codes : List (PipeCode α η))
    (sim : Simulator (PipeCode α η)) :
    world.accepted ++ contents world.pipe sim codes =
      world.seen codes ++ deliveries sim := by
  simp [seen, contents]

theorem all_nodup (flow : Flow setup sim world codes) :
    (world.seen codes ++ deliveries sim).Nodup := by
  rw [← seen_eq]
  exact flow.once.nodup_iff.mpr flow.puts_nodup

theorem congr (flow : Flow setup sim world codes)
    (after : Simulator (PipeCode α η)) (hostIds : List Nat)
    (same : deliveries after = deliveries sim)
    (now : sim.now ≤ after.now)
    (hosts : ∀ eventId ∈ hostIds, eventId < after.seq ∧
      ∀ event ∈ after.liveEvents, event.seq = eventId →
        ∃ tag, event.callback = .host tag)
    (arrival : ∀ event ∈ after.liveEvents, ∀ item,
      deliveryOf event = some item → event ∈ sim.liveEvents) :
    Flow setup after { world with hostIds } codes where
  component := flow.component
  latency := flow.latency
  slots := flow.slots
  hosts := hosts
  arrival event member item delivery := by
    have older := flow.arrival event (arrival event member item delivery) item
      delivery
    omega
  occupancy := by
    rw [contents, same]
    exact flow.occupancy
  bound := flow.bound
  single := flow.single
  tickets := flow.tickets
  order := by
    rw [contents, same]
    exact flow.order
  once := by
    rw [contents, same]
    exact flow.once
  offered := flow.offered
  unoffered := flow.unoffered

/-- An item moves from the consumer to the stalled ones, or the stack changes
below the pipe. -/
theorem shift (flow : Flow setup sim world codes)
    (stalled : List (Item α)) (retryEid : Option Nat)
    (rest : List (PipeCode α η))
    (same : stalled ++ delivering rest = world.pipe.stalled ++ delivering codes)
    (single : ∀ code ∈ rest.tail, isConsumer code = false) :
    Flow setup sim
      { world with pipe := { world.pipe with stalled, retryEid } } rest := by
  have contentsAfter : contents { world.pipe with stalled, retryEid } sim rest =
      contents world.pipe sim codes := by
    rw [contents, same]
    rfl
  have seenAfter :
      seen { world with pipe := { world.pipe with stalled, retryEid } } rest =
        world.seen codes := by
    simp only [seen, List.append_assoc, same]
    rfl
  exact
    { component := flow.component
      latency := flow.latency
      slots := flow.slots
      hosts := flow.hosts
      arrival := flow.arrival
      occupancy := contentsAfter ▸ flow.occupancy
      bound := flow.bound
      single := single
      tickets := flow.tickets
      order := contentsAfter ▸ flow.order
      once := contentsAfter ▸ flow.once
      offered := seenAfter ▸ flow.offered
      unoffered := seenAfter ▸ flow.unoffered }

/-- The state after the consumer accepted an item, with the items that are
stalled then. -/
def afterAccept (world : PipeWorld α) (item : Item α)
    (stalled : List (Item α)) : PipeWorld α :=
  { world with
    pipe := { world.pipe with
      stalled
      inFlight := world.pipe.inFlight - 1 } }.note (.accepted item)

theorem accept (flow : Flow setup sim world codes) (item : Item α)
    (front back stalled : List (Item α)) (rest : List (PipeCode α η))
    (before : world.pipe.stalled ++ delivering codes = front ++ item :: back)
    (after : stalled ++ delivering rest = front ++ back)
    (single : ∀ code ∈ rest.tail, isConsumer code = false) :
    Flow setup sim (afterAccept world item stalled) rest := by
  have contentsBefore : contents world.pipe sim codes =
      front ++ item :: (back ++ deliveries sim) := by
    rw [contents, before]; simp
  have contentsAfter : contents (afterAccept world item stalled).pipe sim rest =
      front ++ (back ++ deliveries sim) := by
    rw [← List.append_assoc, ← after]; rfl
  have accepted : (afterAccept world item stalled).accepted =
      world.accepted ++ [item] := accepted_note _ _
  have puts : (afterAccept world item stalled).puts = world.puts := by
    simp [afterAccept, PipeWorld.puts]
  have offers (other : Item α) :
      (afterAccept world item stalled).offers other = world.offers other :=
    offers_note_accepted _ _ _
  have seenAfter (other : Item α) :
      other ∈ seen (afterAccept world item stalled) rest ↔
        other ∈ world.seen codes := by
    have moved : seen (afterAccept world item stalled) rest =
        world.accepted ++ [item] ++ (front ++ back) := by
      rw [← accepted, ← after, ← List.append_assoc]; rfl
    have unmoved : world.seen codes =
        world.accepted ++ (front ++ item :: back) := by
      rw [← before, ← List.append_assoc]; rfl
    rw [moved, unmoved]
    simp only [List.mem_append, List.mem_cons, List.not_mem_nil, or_false]
    tauto
  refine
    { component := flow.component
      latency := flow.latency
      slots := flow.slots
      hosts := flow.hosts
      arrival := flow.arrival
      occupancy := ?_
      bound := ?_
      single := single
      tickets := by rw [puts]; exact flow.tickets
      order := ?_
      once := ?_
      offered := ?_
      unoffered := ?_ }
  · have occupancy := flow.occupancy
    rw [contentsBefore] at occupancy
    rw [contentsAfter]
    simp only [afterAccept, note_pipe, List.length_append,
      List.length_cons] at occupancy ⊢
    omega
  · have bound := flow.bound
    simp only [afterAccept, note_pipe]
    omega
  · have order := flow.order
    rw [contentsBefore] at order
    rw [contentsAfter, puts]
    refine List.Sublist.trans ?_ order
    exact (List.Sublist.refl front).append (List.sublist_cons_self _ _)
  · have once := flow.once
    rw [contentsBefore] at once
    rw [contentsAfter, puts, accepted, List.append_assoc]
    refine (List.Perm.append_left _ ?_).trans once
    rw [List.singleton_append]
    exact List.perm_middle.symm
  · intro other member
    rw [offers]
    exact flow.offered other ((seenAfter other).mp member)
  · intro other unseen
    rw [offers]
    exact flow.unoffered other fun member => unseen ((seenAfter other).mpr member)

/-! ### Insertions -/

theorem pushRetry (flow : Flow setup sim world codes)
    (wellFormed : sim.WellFormed) :
    Flow setup (world.pipe.pushCycles sim 1 (.pipe .retry) 0) world codes := by
  have live := Component.pushCycles_liveEvents world.pipe.toComponent wellFormed
    1 (PipeCode.pipe .retry : PipeCode α η) 0
  refine flow.congr _ world.hostIds ?_ (le_refl _) ?_ ?_
  · exact Simulator.push_select_none wellFormed _ rfl
  · intro eventId member
    obtain ⟨known, hosted⟩ := flow.hosts eventId member
    rw [Component.pushCycles_seq, live]
    refine ⟨by omega, fun event eventLive same => ?_⟩
    rcases Queue.mem_insert.mp eventLive with rfl | older
    · exact absurd same (by simp only [Simulator.pushed]; omega)
    · exact hosted event older same
  · intro event eventLive item delivery
    rw [live] at eventLive
    rcases Queue.mem_insert.mp eventLive with rfl | older
    · simp [deliveryOf, Simulator.pushed] at delivery
    · exact older

/-- The state after a `put` that was accepted. -/
def afterPut (world : PipeWorld α) (item : Item α) : PipeWorld α :=
  { world with
    pipe := { world.pipe with inFlight := world.pipe.inFlight + 1 } }.note
      (.put item)

theorem deliveries_put (flow : Flow setup sim world codes)
    (wellFormed : sim.WellFormed) (item : Item α) (_now : item.putAt = sim.now) :
    deliveries (world.pipe.pushCycles sim world.pipe.latencyCycles
        (.pipe (.deliver item)) 0) = deliveries sim ++ [item] := by
  rw [deliveries, Component.pushCycles_liveEvents _ wellFormed]
  refine Queue.filterMap_insert_last wellFormed.live_sorted rfl ?_
  intro other member seen
  obtain ⟨older, delivery⟩ := Option.ne_none_iff_exists'.mp seen
  have fresh := wellFormed.live_fresh other member
  obtain ⟨priority, time, past⟩ := flow.arrival other member older delivery
  rw [Event.key_lt_iff, time, flow.latencyPs_eq]
  simp only [Simulator.pushed, priority, lt_irrefl, true_and, false_or]
  omega

theorem put (flow : Flow setup sim world codes) (wellFormed : sim.WellFormed)
    (notFull : world.pipe.full = false) (value : α) :
    let item : Item α := ⟨world.puts.length, value, sim.now⟩
    Flow setup
      (world.pipe.pushCycles sim world.pipe.latencyCycles
        (.pipe (.deliver item)) 0)
      (afterPut world item) codes := by
  intro item
  have added := flow.deliveries_put wellFormed item rfl
  have live := Component.pushCycles_liveEvents world.pipe.toComponent wellFormed
    world.pipe.latencyCycles (PipeCode.pipe (.deliver item) : PipeCode α η) 0
  have puts : (afterPut world item).puts = world.puts ++ [item] := puts_note _ _
  have accepted : (afterPut world item).accepted = world.accepted := by
    simp [afterPut, PipeWorld.accepted]
  have contentsAfter : contents (afterPut world item).pipe
      (world.pipe.pushCycles sim world.pipe.latencyCycles
        (.pipe (.deliver item)) 0) codes =
      contents world.pipe sim codes ++ [item] := by
    rw [contents, added, ← List.append_assoc]
    rfl
  have offers (other : Item α) :
      (afterPut world item).offers other = world.offers other :=
    offers_note_put _ _ _
  have seenAfter : (afterPut world item).seen codes = world.seen codes := by
    rw [seen, accepted]
    rfl
  refine
    { component := flow.component
      latency := flow.latency
      slots := flow.slots
      hosts := ?_
      arrival := ?_
      occupancy := ?_
      bound := ?_
      single := flow.single
      tickets := ?_
      order := ?_
      once := ?_
      offered := ?_
      unoffered := ?_ }
  · intro eventId member
    obtain ⟨known, hosted⟩ := flow.hosts eventId member
    rw [Component.pushCycles_seq, live]
    refine ⟨by omega, fun event eventLive same => ?_⟩
    rcases Queue.mem_insert.mp eventLive with rfl | older
    · exact absurd same (by simp only [Simulator.pushed]; omega)
    · exact hosted event older same
  · intro event eventLive other delivery
    rw [live] at eventLive
    rcases Queue.mem_insert.mp eventLive with rfl | older
    · obtain rfl : item = other := by
        simpa [deliveryOf, Simulator.pushed] using delivery
      refine ⟨rfl, ?_, le_refl _⟩
      rw [← flow.latencyPs_eq]
      rfl
    · exact flow.arrival event older other delivery
  · rw [contentsAfter, List.length_append]
    have := flow.occupancy
    simp only [afterPut, note_pipe, List.length_singleton]
    omega
  · have bound : world.pipe.inFlight < world.pipe.slots := by
      simpa [Pipe.full] using notFull
    rw [flow.slots] at bound
    simp only [afterPut, note_pipe]
    omega
  · rw [puts, List.map_append, flow.tickets, List.length_append]
    simp [List.range_succ, item]
  · rw [contentsAfter, puts]
    exact flow.order.append (List.Sublist.refl _)
  · rw [contentsAfter, puts, accepted, ← List.append_assoc]
    exact flow.once.append_right _
  · intro other member
    rw [seenAfter] at member
    rw [offers]
    exact flow.offered other member
  · intro other unseen
    rw [seenAfter] at unseen
    rw [offers]
    exact flow.unoffered other unseen

/-! ### Offers -/

theorem offer_again (flow : Flow setup sim world codes) {item : Item α}
    (member : item ∈ world.seen codes) (now : Int) :
    Flow setup sim (world.note (.offered item now)) codes := by
  have puts : (world.note (.offered item now)).puts = world.puts := by
    simp [PipeWorld.puts]
  have accepted : (world.note (.offered item now)).accepted = world.accepted := by
    simp [PipeWorld.accepted]
  have seenAfter : (world.note (.offered item now)).seen codes =
      world.seen codes := by
    rw [seen, accepted]
    rfl
  refine
    { flow with
      tickets := by rw [puts]; exact flow.tickets
      order := by rw [puts]; exact flow.order
      once := by rw [puts, accepted]; exact flow.once
      offered := ?_
      unoffered := ?_ }
  · intro other otherMember
    rw [seenAfter] at otherMember
    rw [offers_note_offered, List.head?_append, flow.offered other otherMember]
    rfl
  · intro other unseen
    rw [seenAfter] at unseen
    have different : item ≠ other := fun same => unseen (same ▸ member)
    rw [offers_note_offered, if_neg different, List.append_nil]
    exact flow.unoffered other unseen

theorem fireOther (flow : Flow setup sim world codes)
    {event : Event (PipeCode α η)} (next : sim.peek.1 = some event)
    (wellFormed : sim.WellFormed) (other : deliveryOf event = none) :
    Flow setup (sim.fireNext event) world codes := by
  have live := Simulator.fireNext_liveEvents next
  refine flow.congr _ world.hostIds ?_ (wellFormed.next_least next).2.1 ?_ ?_
  · rw [deliveries, deliveries, live, List.filterMap_cons_none other]
  · intro eventId member
    obtain ⟨known, hosted⟩ := flow.hosts eventId member
    exact ⟨known, fun event eventLive =>
      hosted event (by rw [live]; exact List.mem_cons_of_mem _ eventLive)⟩
  · intro event eventLive item _
    rw [live]
    exact List.mem_cons_of_mem _ eventLive

theorem fireDelivery (flow : Flow setup sim world codes)
    {event : Event (PipeCode α η)} {item : Item α}
    (next : sim.peek.1 = some event) (wellFormed : sim.WellFormed)
    (delivery : event.callback = .pipe (.deliver item))
    (idle : ∀ code ∈ codes, isConsumer code = false) :
    Flow setup (sim.fireNext event) (world.note (.offered item event.time))
      (.pipe (.deliver item) :: codes) := by
  have live := Simulator.fireNext_liveEvents next
  have selected : deliveryOf event = some item := by simp [deliveryOf, delivery]
  have first : deliveries sim = item :: deliveries (sim.fireNext event) := by
    rw [deliveries, deliveries, live, List.filterMap_cons_some selected]
  have nothing : delivering codes = [] :=
    Idle.delivering fun code member => idle code (List.mem_of_mem_head? member)
  have contentsAfter : contents world.pipe (sim.fireNext event)
      (.pipe (.deliver item) :: codes) = contents world.pipe sim codes := by
    rw [contents, contents, nothing, first]
    simp [delivering]
  have puts : (world.note (.offered item event.time)).puts = world.puts := by
    simp [PipeWorld.puts]
  have accepted : (world.note (.offered item event.time)).accepted =
      world.accepted := by
    simp [PipeWorld.accepted]
  have seenAfter : (world.note (.offered item event.time)).seen
      (.pipe (.deliver item) :: codes) = world.seen codes ++ [item] := by
    rw [seen, seen, accepted, nothing, List.append_nil]
    rfl
  have unseen : item ∉ world.seen codes := by
    have nodup := flow.all_nodup
    rw [first] at nodup
    exact fun member => (List.nodup_append.mp nodup).2.2 _ member _ (by simp) rfl
  have onTime := flow.arrival event (by rw [live]; simp) item selected
  have others := flow.hosts
  rw [live] at others
  refine
    { component := flow.component
      latency := flow.latency
      slots := flow.slots
      hosts := fun eventId member => ⟨(others eventId member).1,
        fun other otherLive => (others eventId member).2 other (by simp [otherLive])⟩
      arrival := ?_
      occupancy := contentsAfter ▸ flow.occupancy
      bound := flow.bound
      single := idle
      tickets := by rw [puts]; exact flow.tickets
      order := by rw [puts]; exact contentsAfter ▸ flow.order
      once := by rw [puts, accepted]; exact contentsAfter ▸ flow.once
      offered := ?_
      unoffered := ?_ }
  · intro other otherLive later otherDelivery
    have arrival := flow.arrival other (by rw [live]; simp [otherLive]) later
      otherDelivery
    have forward := (wellFormed.next_least next).2.1
    rw [Simulator.fireNext_now]
    omega
  · intro other member
    rw [seenAfter] at member
    rw [offers_note_offered]
    rcases List.mem_append.mp member with old | new
    · rw [List.head?_append, flow.offered other old]
      rfl
    · obtain rfl : other = item := by simpa using new
      rw [flow.unoffered other unseen]
      simp [onTime.2.1]
  · intro other otherUnseen
    rw [seenAfter] at otherUnseen
    have different : item ≠ other := fun same => otherUnseen (by simp [same])
    rw [offers_note_offered, if_neg different, List.append_nil]
    exact flow.unoffered other fun member => otherUnseen (by simp [member])

end Flow

namespace Kept

variable [DecidableEq α] {setup : Pipe (Item α)}
  {sim : Simulator (PipeCode α η)} {world : PipeWorld α}
  {codes : List (PipeCode α η)}

theorem congr (kept : Kept setup sim world codes)
    (after : Simulator (PipeCode α η)) (hostIds : List Nat)
    (deliveriesSame : deliveries after = deliveries sim)
    (retriesSame : retries after = retries sim)
    (now : sim.now ≤ after.now)
    (hosts : ∀ eventId ∈ hostIds, eventId < after.seq ∧
      ∀ event ∈ after.liveEvents, event.seq = eventId →
        ∃ tag, event.callback = .host tag)
    (arrival : ∀ event ∈ after.liveEvents, ∀ item,
      deliveryOf event = some item → event ∈ sim.liveEvents) :
    Kept setup after { world with hostIds } codes where
  toFlow := kept.toFlow.congr after hostIds deliveriesSame now hosts arrival
  retry := kept.retry.later retriesSame now

/-! ### Calls of user code -/

theorem host_push (kept : Kept setup sim world codes)
    (wellFormed : sim.WellFormed) (time : Int) (tag : η) (priority : Int)
    (source : Option String) :
    Kept setup (sim.push time (.host tag) priority source).2
      { world with hostIds := world.hostIds ++ [sim.seq] } codes := by
  refine kept.congr _ _ ?_ ?_ (le_refl _) ?_ ?_
  · exact Simulator.push_select_none wellFormed source rfl
  · exact Simulator.push_select_none wellFormed source rfl
  · intro eventId member
    rw [Simulator.push_liveEvents wellFormed, Simulator.push_seq]
    rcases List.mem_append.mp member with older | newer
    · obtain ⟨known, hosted⟩ := kept.hosts eventId older
      refine ⟨by omega, fun event live same => ?_⟩
      rcases Queue.mem_insert.mp live with rfl | live
      · exact ⟨tag, rfl⟩
      · exact hosted event live same
    · obtain rfl : eventId = sim.seq := by simpa using newer
      refine ⟨by omega, fun event live same => ?_⟩
      rcases Queue.mem_insert.mp live with rfl | live
      · exact ⟨tag, rfl⟩
      · exact absurd same (wellFormed.live_fresh event live).ne
  · intro event live item delivery
    rw [Simulator.push_liveEvents wellFormed] at live
    rcases Queue.mem_insert.mp live with rfl | live
    · simp [deliveryOf, Simulator.pushed] at delivery
    · exact live

theorem cancel (kept : Kept setup sim world codes)
    (wellFormed : sim.WellFormed) {eventId : Nat}
    (own : eventId ∈ world.hostIds) :
    Kept setup (sim.cancel eventId).2 world codes := by
  have hosted := (kept.hosts eventId own).2
  refine kept.congr _ world.hostIds ?_ ?_ (by simp) ?_ ?_
  · refine Simulator.cancel_select wellFormed fun event live same => ?_
    obtain ⟨tag, host⟩ := hosted event live same
    simp [deliveryOf, host]
  · refine Simulator.cancel_select wellFormed fun event live same => ?_
    obtain ⟨tag, host⟩ := hosted event live same
    simp [retryOf, host]
  · intro other member
    rw [Simulator.cancel_liveEvents wellFormed, Simulator.cancel_seq]
    obtain ⟨known, hostedOther⟩ := kept.hosts other member
    exact ⟨known, fun event live => hostedOther event (List.mem_filter.mp live).1⟩
  · intro event live item _
    rw [Simulator.cancel_liveEvents wellFormed] at live
    exact (List.mem_filter.mp live).1

theorem sameAgenda (kept : Kept setup sim world codes)
    (after : Simulator (PipeCode α η)) (live : after.liveEvents = sim.liveEvents)
    (seq : after.seq = sim.seq) (now : sim.now ≤ after.now) :
    Kept setup after world codes := by
  refine kept.congr after world.hostIds ?_ ?_ now ?_ ?_
  · rw [deliveries, live, deliveries]
  · rw [retries, live, retries]
  · rw [live, seq]; exact kept.hosts
  · intro event member _ _
    rwa [live] at member

theorem advanceTo (kept : Kept setup sim world codes) (time : Int) :
    Kept setup (sim.advanceTo time).2 world codes := by
  have calls := Simulator.advanceTo_calls sim time
  exact kept.sameAgenda _ (by simp) (by simp) calls.now_le

theorem put (kept : Kept setup sim world codes) (wellFormed : sim.WellFormed)
    (notFull : world.pipe.full = false) (value : α) :
    let item : Item α := ⟨world.puts.length, value, sim.now⟩
    Kept setup
      (world.pipe.pushCycles sim world.pipe.latencyCycles
        (.pipe (.deliver item)) 0)
      (Flow.afterPut world item) codes where
  toFlow := kept.toFlow.put wellFormed notFull value
  retry := kept.retry.later (Simulator.push_select_none wellFormed _ rfl)
    (le_refl _)

theorem exec (kept : Kept setup sim world codes) (wellFormed : sim.WellFormed)
    (op : PipeOp α η) :
    Kept setup (PipeWorld.exec op sim world).2.1
      (PipeWorld.exec op sim world).2.2 codes := by
  cases op with
  | put value =>
      simp only [PipeWorld.exec]
      by_cases full : world.pipe.full = true
      · rw [Pipe.put_full _ _ _ full]
        exact kept
      · have notFull : world.pipe.full = false := by simpa using full
        rw [Pipe.put_accepted _ _ _ notFull]
        exact kept.put wellFormed notFull value
  | schedule delay tag priority =>
      simp only [PipeWorld.exec, Simulator.schedule]
      split
      · exact kept
      · exact kept.host_push wellFormed _ tag priority none
  | at_ time tag priority =>
      simp only [PipeWorld.exec, Simulator.at_]
      split
      · exact kept
      · exact kept.host_push wellFormed time tag priority none
  | cancel handle =>
      simp only [PipeWorld.exec]
      split
      · rename_i eventId found
        exact kept.cancel wellFormed (List.mem_of_getElem? found)
      · exact kept
  | nextTime =>
      exact kept.sameAgenda sim.peek.2 (Simulator.peek_liveEvents sim) rfl
        (le_refl _)
  | advanceTo time => exact kept.advanceTo time

/-! ### The code of the pipe -/

abbrev property (setup : Pipe (Item α)) : (pipeSystem α η).Property :=
  fun sim world codes _ => Kept setup sim world codes

theorem reschedule (flow : Flow setup sim world codes)
    (wellFormed : sim.WellFormed) (noRetries : retries sim = [])
    (idle : retrying codes = none) (set : world.pipe.retryEid = some sim.seq)
    (stalled : world.pipe.stalled ≠ []) :
    Kept setup (world.pipe.pushCycles sim 1 (.pipe .retry) 0) world codes where
  toFlow := flow.pushRetry wellFormed
  retry := by
    have only : retries (world.pipe.pushCycles sim 1
        (.pipe .retry : PipeCode α η) 0) =
        [sim.pushed (sim.now + 1 * world.pipe.clk.periodPs) (.pipe .retry) 0] := by
      rw [retries, Component.pushCycles_liveEvents _ wellFormed,
        Queue.filterMap_insert_last wellFormed.live_sorted
          (rfl : retryOf (sim.pushed (sim.now + 1 * world.pipe.clk.periodPs)
            (.pipe .retry) 0) = some _) ?_]
      · rw [← retries, noRetries]
        rfl
      · intro other member seen
        exact absurd (List.filterMap_eq_nil_iff.mp noRetries other member) seen
    simp only [RetryState, idle, set]
    exact ⟨stalled, _, only, rfl, by simp [Simulator.pushed]⟩

theorem retryLoop (flow : Flow setup sim world codes)
    (idle : ∀ code ∈ codes, isConsumer code = false)
    (unset : world.pipe.retryEid = none) (noRetries : retries sim = [])
    (fired : List (Event (PipeCode α η))) :
    (PipeWorld.retryLoop sim world).Leaves (property setup) codes fired := by
  have top : Idle codes := fun code member => idle code (List.mem_of_mem_head? member)
  unfold PipeWorld.retryLoop
  split
  · rename_i empty
    refine ⟨flow, ?_⟩
    simp [RetryState, top.retrying, unset, noRetries, empty]
  · rename_i item rest shape
    have member : item ∈ world.seen codes := by simp [seen, shape]
    have again := flow.offer_again member sim.now
    refine ⟨?_, ?_⟩
    · exact again.shift world.pipe.stalled world.pipe.retryEid
        (.retryOffer item :: codes) (by rw [top.delivering]; rfl) idle
    · simp [RetryState, unset, noRetries, shape]

theorem enter (kept : Kept setup sim world codes)
    {event : Event (PipeCode α η)} (next : sim.peek.1 = some event)
    (wellFormed : sim.WellFormed) (idle : Idle codes)
    (fired : List (Event (PipeCode α η))) :
    (PipeWorld.enter event.callback (sim.fireNext event) world).Leaves
      (property setup) codes fired := by
  have live := Simulator.fireNext_liveEvents next
  have forward := (wellFormed.next_least next).2.1
  have plain : ∀ code ∈ codes, isConsumer code = false := by
    intro code member
    cases codes with
    | nil => simp at member
    | cons head rest =>
        rcases List.mem_cons.mp member with rfl | below
        · exact idle _ rfl
        · exact kept.single code below
  have retryState := kept.retry
  cases shape : event.callback with
  | pipe pipeEvent =>
      cases pipeEvent with
      | deliver item =>
          have same : retries (sim.fireNext event) = retries sim := by
            rw [retries, retries, live,
              List.filterMap_cons_none (by simp [retryOf, shape])]
          refine ⟨kept.fireDelivery next wellFormed shape plain, ?_⟩
          exact (retryState.later same forward).recode (by simp [idle.retrying])
      | retry =>
          have flow := kept.fireOther next wellFormed (by simp [deliveryOf, shape])
          have one : retries sim = event :: retries (sim.fireNext event) := by
            rw [retries, retries, live,
              List.filterMap_cons_some (b := event) (by simp [retryOf, shape])]
          have noRetries : retries (sim.fireNext event) = [] := by
            unfold RetryState at retryState
            rw [idle.retrying, one] at retryState
            split at retryState
            · simp at retryState
            · simp at retryState
            · obtain ⟨_, other, only, _⟩ := retryState
              simpa using congrArg List.tail only
          exact retryLoop
            (flow.shift world.pipe.stalled none codes rfl kept.single)
            plain rfl noRetries fired
  | retryOffer item =>
      have flow := kept.fireOther next wellFormed (by simp [deliveryOf, shape])
      have same : retries (sim.fireNext event) = retries sim := by
        rw [retries, retries, live,
          List.filterMap_cons_none (by simp [retryOf, shape])]
      exact ⟨flow, retryState.later same forward⟩
  | host tag =>
      have flow := kept.fireOther next wellFormed (by simp [deliveryOf, shape])
      have same : retries (sim.fireNext event) = retries sim := by
        rw [retries, retries, live,
          List.filterMap_cons_none (by simp [retryOf, shape])]
      refine ⟨flow.shift world.pipe.stalled world.pipe.retryEid _ ?_ plain, ?_⟩
      · rw [idle.delivering]; rfl
      · exact (retryState.later same forward).recode (by simp [idle.retrying])

theorem pop {code : PipeCode α η} (kept : Kept setup sim world (code :: codes))
    (plain : isConsumer code = false) : Kept setup sim world codes := by
  have top : Idle codes := fun code member =>
    kept.single code (List.mem_of_mem_head? member)
  have idle : Idle (code :: codes) := by simpa [Idle] using plain
  refine ⟨kept.shift world.pipe.stalled world.pipe.retryEid codes ?_ ?_, ?_⟩
  · rw [top.delivering, idle.delivering]
  · exact fun other member => kept.single other (List.mem_of_mem_tail member)
  · exact kept.retry.recode (by rw [top.retrying, idle.retrying])

theorem resume {code : PipeCode α η}
    (kept : Kept setup sim world (code :: codes)) (wellFormed : sim.WellFormed)
    (answer : Consumed) (fired : List (Event (PipeCode α η))) :
    (PipeWorld.resume code answer sim world).Leaves (property setup) codes
      fired := by
  have plain : ∀ other ∈ codes, isConsumer other = false := kept.single
  have below : ∀ other ∈ codes.tail, isConsumer other = false :=
    fun other member => plain other (List.mem_of_mem_tail member)
  have top : Idle codes := fun other member =>
    plain other (List.mem_of_mem_head? member)
  have retryState := kept.retry
  cases code with
  | host tag => exact kept.pop rfl
  | retryOffer item =>
      have asked : world.pipe.retryEid = none ∧ retries sim = [] ∧
          world.pipe.stalled.head? = some item := retryState
      obtain ⟨unset, noRetries, head⟩ := asked
      obtain ⟨rest, stalled⟩ : ∃ rest, world.pipe.stalled = item :: rest :=
        List.head?_eq_some_iff.mp head
      cases answer with
      | refused =>
          have moved := kept.shift world.pipe.stalled (some sim.seq) codes
            (by rw [top.delivering]; rfl) below
          simp only [PipeWorld.resume, Pipe.retryAnswer, Pipe.scheduleRetry_eq]
          exact reschedule moved wellFormed noRetries top.retrying rfl
            (by simp [stalled])
      | accepted =>
          have left := kept.toFlow.accept item [] rest rest codes
            (by simp [stalled]) (by simp [top.delivering]) below
          simp only [PipeWorld.resume, Pipe.retryAnswer, note_pipe,
            stalled]
          exact retryLoop left plain unset noRetries fired
  | pipe pipeEvent =>
      cases pipeEvent with
      | retry => exact kept.pop rfl
      | deliver item =>
          cases answer with
          | refused =>
              cases set : world.pipe.retryEid with
              | none =>
                  have asked : retries sim = [] := by
                    simp only [RetryState, retrying_deliver, set] at retryState
                    exact retryState.1
                  have moved := kept.shift (world.pipe.stalled ++ [item])
                    (some sim.seq) codes (by rw [top.delivering]; simp) below
                  simp only [PipeWorld.resume, Pipe.deliver_refused_none _ _ _ set]
                  exact reschedule moved wellFormed asked top.retrying rfl
                    (by simp)
              | some eventId =>
                  have moved := kept.shift (world.pipe.stalled ++ [item])
                    world.pipe.retryEid codes (by rw [top.delivering]; simp) below
                  simp only [RetryState, retrying_deliver, set] at retryState
                  simp only [PipeWorld.resume, Pipe.deliver_refused_some _ _ _ set]
                  refine ⟨moved, ?_⟩
                  simp only [RetryState, top.retrying, set]
                  exact ⟨by simp, retryState.2⟩
          | accepted =>
              have left := kept.toFlow.accept item world.pipe.stalled []
                world.pipe.stalled codes (by simp) (by rw [top.delivering]) below
              exact ⟨left, retryState.recode (by rw [top.retrying]; rfl)⟩

end Kept

end Pyramulator.PipeWorld
