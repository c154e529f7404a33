import Pyramulator.Dram.Single

namespace Pyramulator

/-! A component that is alone on a DRAM and reads and writes one address at a time: what
the DRAM still owes it, and what the DRAM took. -/

variable {γ η Part : Type}

/-- How the callbacks of a component show the reads and the writes that they answer. -/
structure Client (γ Part : Type) where
  loaded : γ → Int → Option Part
  stored : γ → Int → Option Part
  addr : Part → Int
  loaded_addr : ∀ {callback requested part}, loaded callback requested = some part →
    addr part = requested
  stored_addr : ∀ {callback requested part}, stored callback requested = some part →
    addr part = requested

namespace Client

def loads (client : Client γ Part) : DramCode Unit γ η → Option Part
  | .dram () (.completion callback info) => client.loaded callback info.addr
  | _ => none

def stores (client : Client γ Part) : DramCode Unit γ η → Option Part
  | .dram () (.completion callback info) => client.stored callback info.addr
  | _ => none

def read? (client : Client γ Part) (request : Request (DramCallback γ)) : Option Part :=
  match request.callback with
  | .record wrap _ => wrap.userCb.callback.bind fun callback =>
      client.loaded callback request.addr
  | _ => none

def Loading (client : Client γ Part) (request : Request (DramCallback γ)) : Prop :=
  ∃ (wrap : Collector γ) (callback : γ) (part : Part),
    request.callback = .record ⟨wrap⟩ 0 ∧ wrap.callback = some callback ∧
      client.loaded callback request.addr = some part ∧
        client.stored callback request.addr = none

theorem loads_clock (client : Client γ Part) (code : DramCode Unit γ η)
    (clock : code.Clock ()) : client.loads code = none := by
  rcases clock with rfl | rfl <;> rfl

theorem stores_clock (client : Client γ Part) (code : DramCode Unit γ η)
    (clock : code.Clock ()) : client.stores code = none := by
  rcases clock with rfl | rfl <;> rfl

theorem Loading.read?_eq {client : Client γ Part} {request : Request (DramCallback γ)}
    {wrap : Collector γ} {callback : γ} {core : Int}
    (recorded : request.callback = .record ⟨wrap⟩ core)
    (named : wrap.callback = some callback) :
    client.read? request = client.loaded callback request.addr := by
  simp only [read?, recorded, named, Option.bind_some]

theorem Loading.isSome {client : Client γ Part} {request : Request (DramCallback γ)}
    (loading : client.Loading request) : (client.read? request).isSome = true := by
  obtain ⟨wrap, callback, part, recorded, named, loaded, -⟩ := loading
  rw [Loading.read?_eq recorded named, loaded]
  rfl

end Client

open Simulator (Local)

def Dram.taken {engine : Engine (DramCallback γ)} (type : RequestType)
    (dram : Dram engine) : List Int :=
  ((Wire.accepted dram.mem.impl.wire).filter fun request => request.type = type).map
    Request.addr

theorem Dram.taken_asked {engine : Engine (DramCallback γ)} {dram after : Dram engine}
    {answer : Option Bool} {request : Request (DramCallback γ)}
    (asked : dram.mem.impl.Asked request answer after.mem.impl) (type : RequestType) :
    (after.taken type : Multiset Int) =
      (if answer = some true ∧ request.type = type then {request.addr} else 0) +
        dram.taken type := by
  rw [taken, taken, asked.accepted, List.filter_append, List.map_append,
    ← Multiset.coe_add, add_comm]
  by_cases accepted : answer = some true
  · by_cases same : request.type = type
    · simp [accepted, same]
    · simp [accepted, same]
  · simp [accepted]

variable [DecidableEq γ] {setup : DramSetup γ} (client : Client γ Part)
  (tally : setup.engine.Tally)

namespace Client

/-- The DRAM between two events, all of whose reads are the component's. -/
structure Attended (device : Device (DramCode Unit γ η) setup.engine) : Prop where
  running : Dram.Running True setup.cacheline () device.sim device.dram
  calm : device.dram.Calm tally.toLedger
  serviced : device.dram.Serviced
  loading : ∀ request ∈ tally.reads device.dram.mem.impl.mem, client.Loading request
  reaches : setup.engine.Reaches (fun _ => True) device.dram.mem.impl.mem

/-- The reads that are going on: the engine holds the request, or its completion is in
the agenda. -/
def reading (device : Device (DramCode Unit γ η) setup.engine) : Multiset Part :=
  (tally.reads device.dram.mem.impl.mem).filterMap client.read? +
    device.sim.due client.loads

structure Took (before after : Device (DramCode Unit γ η) setup.engine)
    (reads writes : Multiset Part) : Prop where
  attended : client.Attended tally after
  wellFormed : after.sim.WellFormed
  reading : client.reading tally after = reads + client.reading tally before
  takenReads : (after.dram.taken .read : Multiset Int) =
    reads.map client.addr + before.dram.taken .read
  takenWrites : (after.dram.taken .write : Multiset Int) =
    writes.map client.addr + before.dram.taken .write
  stored : after.sim.due client.stores = writes + before.sim.due client.stores

variable {client tally} {device : Device (DramCode Unit γ η) setup.engine}

/-! ## Requests -/

theorem Attended.busy (attended : client.Attended tally device)
    (holding : tally.reads device.dram.mem.impl.mem ≠ 0) :
    client.reading tally device ≠ 0 := by
  obtain ⟨request, member⟩ := Multiset.exists_mem_of_ne_zero holding
  obtain ⟨part, shown⟩ :=
    Option.isSome_iff_exists.mp (attended.loading request member).isSome
  intro unread
  have listed : part ∈ client.reading tally device :=
    Multiset.mem_add.mpr
      (.inl ((Multiset.mem_filterMap _ _).mpr ⟨request, member, shown⟩))
  rw [unread] at listed
  cases listed

theorem Attended.rejected (attended : client.Attended tally device)
    (rejects : ∀ {state request}, setup.engine.Reaches (fun _ => True) state →
      request.type = .read → (setup.engine.send state request).1 = false →
        tally.reads state ≠ 0)
    {addr : Int} {callback : Option γ} {core : Int}
    {called : Except PyError MemoryValue × Device (DramCode Unit γ η) setup.engine}
    (ends : Dram.SingleEnds True setup.cacheline () device.sim device.dram
      (.read addr callback core) addr (some false) called) :
    client.reading tally device ≠ 0 := by
  obtain ⟨wrap, -, asked⟩ := ends.asked
  exact attended.busy (rejects attended.reaches rfl (asked.rejected rfl))

section Requests

variable (attended : client.Attended tally device)
  (wellFormed : device.sim.WellFormed)
include attended wellFormed

theorem Attended.read (callback : γ) (addr : Int) {part : Part}
    (loaded : client.loaded callback addr = some part)
    (unstored : client.stored callback addr = none) :
    let called := Dram.submit (.dram () : DramEvent γ → DramCode Unit γ η)
      (.read addr (some callback) 0) device
    ∃ answer, Dram.SingleEnds True setup.cacheline () device.sim device.dram
        (.read addr (some callback) 0) addr answer called ∧
      client.Took tally device called.2 (if answer = some true then {part} else 0) 0 := by
  intro called
  obtain ⟨answer, ends⟩ := attended.running.single wellFormed attended.calm.completed
    (.read (some callback) 0 : (DramRequest.read addr (some callback) 0).Single addr)
  have type : (DramRequest.read addr (some callback) 0).type ≠ .write := by
    intro impossible
    cases impossible
  obtain ⟨wrap, named, asked⟩ := ends.asked
  have recorded : (DramRequest.sent (.read addr (some callback) 0) wrap addr).callback =
      .record ⟨wrap⟩ 0 := by
    simp only [DramRequest.sent, DramRequest.type, DramRequest.coreId,
      PyMemorySystem.makeCallback, reduceCtorEq, if_false]
  have shown : client.read? (DramRequest.sent (.read addr (some callback) 0) wrap addr) =
      some part := by
    rw [Loading.read?_eq recorded named]
    exact loaded
  have reads := asked.reads tally.toLedger
  have given : (DramRequest.sent (.read addr (some callback) 0) wrap addr).type = .read :=
    rfl
  refine ⟨answer, ends, ?_⟩
  exact
    { attended :=
        { running := ends.running
          calm := ends.calm attended.calm
          serviced := ends.serviced tally attended.serviced
          loading := fun other member => by
            rw [reads] at member
            rcases Multiset.mem_add.mp member with new | old
            · split at new
              · obtain rfl := Multiset.mem_singleton.mp new
                exact ⟨wrap, callback, part, recorded, named, loaded, unstored⟩
              · cases new
            · exact attended.loading other old
          reaches := asked.reaches attended.reaches }
      wellFormed := ends.local_.wellFormed
      reading := by
        rw [reading, reading, reads, ends.due_read wellFormed client.loads_clock type,
          Multiset.filterMap_add, add_assoc]
        congr 1
        by_cases accepted : answer = some true
        · rw [if_pos ⟨accepted, given⟩, if_pos accepted]
          exact congrArg Multiset.ofList (List.filterMap_cons_some shown)
        · rw [if_neg fun both => accepted both.1, if_neg accepted]
          rfl
      takenReads := by
        rw [Dram.taken_asked asked .read]
        congr 1
        by_cases accepted : answer = some true
        · rw [if_pos ⟨accepted, given⟩, if_pos accepted, Multiset.map_singleton,
            client.loaded_addr loaded]
          rfl
        · rw [if_neg fun both => accepted both.1, if_neg accepted]
          rfl
      takenWrites := by
        rw [Dram.taken_asked asked .write, if_neg fun both => by cases both.2]
        rfl
      stored := by
        rw [ends.due_read wellFormed client.stores_clock type, zero_add] }

theorem Attended.write (callback : γ) (addr : Int) {part : Part}
    (stored : client.stored callback addr = some part)
    (unloaded : client.loaded callback addr = none) :
    let called := Dram.submit (.dram () : DramEvent γ → DramCode Unit γ η)
      (.write addr (some callback) 0) device
    ∃ answer, Dram.SingleEnds True setup.cacheline () device.sim device.dram
        (.write addr (some callback) 0) addr answer called ∧
      client.Took tally device called.2 0 (if answer = some true then {part} else 0) := by
  intro called
  obtain ⟨answer, ends⟩ := attended.running.single wellFormed attended.calm.completed
    (.write (some callback) 0 : (DramRequest.write addr (some callback) 0).Single addr)
  obtain ⟨wrap, named, asked⟩ := ends.asked
  have reads := asked.reads tally.toLedger
  have given :
      (DramRequest.sent (.write addr (some callback) 0) wrap addr).type = .write := rfl
  have unread : ¬ (answer = some true ∧
      (DramRequest.sent (.write addr (some callback) 0) wrap addr).type = .read) := by
    rintro ⟨-, impossible⟩
    cases impossible
  rw [if_neg unread, zero_add] at reads
  have seen {seen : Option Part} (pick : DramCode Unit γ η → Option Part)
      (apart : ∀ code : DramCode Unit γ η, code.Clock () → pick code = none)
      (echo : ∀ clk,
        pick (.dram () (.completion callback ⟨addr, .write, clk, clk, 0⟩)) = seen) :
      called.2.sim.due pick =
        (if answer = some true then (seen.toList : Multiset Part) else 0) +
          device.sim.due pick :=
    ends.due_write wellFormed apart rfl rfl echo
  refine ⟨answer, ends, ?_⟩
  exact
    { attended :=
        { running := ends.running
          calm := ends.calm attended.calm
          serviced := ends.serviced tally attended.serviced
          loading := fun other member => attended.loading other (reads ▸ member)
          reaches := asked.reaches attended.reaches }
      wellFormed := ends.local_.wellFormed
      reading := by
        rw [reading, reading, reads, seen client.loads client.loads_clock fun _ =>
          unloaded]
        simp
      takenReads := by
        rw [Dram.taken_asked asked .read, if_neg unread]
        rfl
      takenWrites := by
        rw [Dram.taken_asked asked .write]
        congr 1
        by_cases accepted : answer = some true
        · rw [if_pos ⟨accepted, given⟩, if_pos accepted, Multiset.map_singleton,
            client.stored_addr stored]
          rfl
        · rw [if_neg fun both => accepted both.1, if_neg accepted]
          rfl
      stored := seen client.stores client.stores_clock fun _ => stored }

end Requests

/-! ## Ticks -/

omit [DecidableEq γ] in
theorem reaches_iterate {impl : PyMemorySystem setup.engine}
    (reaches : setup.engine.Reaches (fun _ => True) impl.mem) (count : Nat) :
    setup.engine.Reaches (fun _ => True) (PyMemorySystem.tick^[count] impl).mem := by
  induction count with
  | zero => exact reaches
  | succ count induction =>
      rw [Function.iterate_succ_apply', PyMemorySystem.tick_eq]
      exact .tick induction

omit [DecidableEq γ] in
theorem loads_collected {pick : DramCode Unit γ η → Option Part}
    {shown : γ → Int → Option Part} (picked : ∀ callback info,
      pick (.dram () (.completion callback info)) = shown callback info.addr)
    {chosen : Request (DramCallback γ) → Option Part}
    (agrees : ∀ (request : Request (DramCallback γ)) (wrap : Collector γ) (callback : γ),
      client.Loading request → request.callback = .record ⟨wrap⟩ 0 →
        wrap.callback = some callback → shown callback request.addr = chosen request)
    {served : List (Served (DramCallback γ))}
    (loading : ∀ entry ∈ served, client.Loading entry.request) :
    ((served.filterMap Served.recorded).map Dram.collected).filterMap
        (fun (info, callback) => callback.bind fun callback =>
          pick (.dram () (.completion callback info))) =
      served.filterMap fun entry => chosen entry.request := by
  induction served with
  | nil => rfl
  | cons entry rest induction =>
      obtain ⟨first, later⟩ := List.forall_mem_cons.mp loading
      obtain ⟨wrap, callback, part, recorded, named, -⟩ := id first
      have reported : entry.recorded = some ⟨entry.request.addr, entry.request.type,
          entry.arrive, entry.depart, 0, ⟨wrap⟩⟩ := by
        simp only [Served.recorded, recorded]
      have same := agrees entry.request wrap callback first recorded named
      rw [List.filterMap_cons_some reported, List.map_cons, List.filterMap_cons,
        List.filterMap_cons, induction later]
      simp only [Dram.collected, CompletionEvent.info, named,
        Option.bind_some, picked, same]

section Ticks

variable {sim : Simulator (DramCode Unit γ η)} {dram : Dram setup.engine}
  (attended : client.Attended tally ⟨sim, dram⟩)
include attended

theorem Attended.ticked {event : Event (DramCode Unit γ η)}
    (next : sim.peek.1 = some event)
    (named : event.callback = .dram () .tick) {count : Nat}
    {last : Simulator (DramCode Unit γ η)}
    {ended : Device (DramCode Unit γ η) setup.engine}
    (ticked : Dram.Ticked True setup.cacheline () sim event dram count last ended) :
    client.Took tally ⟨sim, dram⟩ ended 0 0 := by
  obtain ⟨segment, wire, -, noneAccepted⟩ :=
    PyMemorySystem.iterate_wire dram.mem.impl count
  have effect := PyMemorySystem.iterate_effect tally.toLedger dram.mem.impl count wire
  have reads := effect.reads
  rw [noneAccepted, List.filter_nil, Multiset.coe_nil, add_zero] at reads
  have mem : ended.dram.mem = (dram.ran count).mem := by
    cases ticked.ends <;> rfl
  have impl :
      ended.dram.mem.impl.mem = (PyMemorySystem.tick^[count] dram.mem.impl).mem := by
    rw [mem]
    rfl
  have served : ∀ entry ∈ Wire.served segment, client.Loading entry.request := by
    intro entry member
    refine attended.loading entry.request ?_
    rw [reads]
    exact Multiset.mem_add.mpr (.inl (List.mem_map_of_mem member))
  have completed : (dram.ran count).completed =
      ((Wire.served segment).filterMap Served.recorded).map Dram.collected := by
    change dram.completed ++ _ = _
    rw [attended.calm.completed, effect.completed, attended.running.drained]
    rfl
  have agenda (pick : DramCode Unit γ η → Option Part) {shown : γ → Int → Option Part}
      (apart : ∀ code : DramCode Unit γ η, code.Clock () → pick code = none)
      (picked : ∀ callback info,
        pick (.dram () (.completion callback info)) = shown callback info.addr)
      (chosen : Request (DramCallback γ) → Option Part)
      (agrees :
        ∀ (request : Request (DramCallback γ)) (wrap : Collector γ) (callback : γ),
        client.Loading request → request.callback = .record ⟨wrap⟩ 0 →
          wrap.callback = some callback → shown callback request.addr = chosen request) :
      ended.sim.due pick =
        ((Wire.served segment).filterMap fun entry => chosen entry.request : List Part) +
          sim.due pick := by
    rw [ticked.clock.due apart, Dram.handOver_due ticked.jumped.wellFormed, completed,
      loads_collected picked agrees served, Simulator.due_congr ticked.jumped.liveEvents,
      Simulator.due_fired_none next (apart _ (.inl named))]
  have taken (type : RequestType) : ended.dram.taken type = dram.taken type := by
    have wire : ended.dram.mem.impl.wire = dram.mem.impl.wire ++ segment := by
      rw [mem, ← wire]
      rfl
    rw [Dram.taken, Dram.taken, wire, Wire.accepted_append, noneAccepted, List.append_nil]
  exact
    { attended :=
        { running := ticked.running
          calm := ticked.calm tally
          serviced := ticked.serviced
          loading := fun request member => attended.loading request (by
            rw [impl] at member
            rw [reads]
            exact Multiset.mem_add.mpr (.inr member))
          reaches := impl ▸ reaches_iterate attended.reaches count }
      wellFormed := ticked.local_.wellFormed
      reading := by
        have loads := agenda client.loads client.loads_clock (fun _ _ => rfl) client.read?
          fun request wrap callback _ recorded named =>
            (Loading.read?_eq recorded named).symm
        have same :
            ((Wire.served segment).filterMap fun entry => client.read? entry.request) =
            ((Wire.served segment).map Served.request).filterMap client.read? := by
          rw [List.filterMap_map]
          rfl
        rw [reading, reading, impl, loads, reads, same, Multiset.filterMap_add,
          Multiset.filterMap_coe, zero_add, add_left_comm, add_assoc]
      takenReads := by
        rw [taken]
        exact (zero_add _).symm
      takenWrites := by
        rw [taken]
        exact (zero_add _).symm
      stored := by
        have stores := agenda client.stores client.stores_clock (fun _ _ => rfl)
          (fun _ => none) fun request wrap callback loading recorded named => by
            obtain ⟨own, called, part, same, known, -, unstored⟩ := loading
            rw [recorded] at same
            cases same
            rw [named] at known
            cases known
            exact unstored
        rw [stores, List.filterMap_none]
        rfl }

theorem Attended.idleTicked {event : Event (DramCode Unit γ η)}
    (next : sim.peek.1 = some event) (named : event.callback = .dram () .idleTick)
    {ended : Except PyError Unit × Device (DramCode Unit γ η) setup.engine}
    (ticked : Dram.IdleTicked True setup.cacheline () sim event dram ended) :
    client.Took tally ⟨sim, dram⟩ ended.2 0 0 := by
  obtain ⟨count, mem⟩ : ∃ count, ended.2.dram.mem.impl.mem =
        (PyMemorySystem.tick^[count] dram.mem.impl).mem ∧
      ended.2.dram.mem.impl.wire = (PyMemorySystem.tick^[count] dram.mem.impl).wire := by
    cases ticked.ends with
    | refused large => exact ⟨0, rfl, rfl⟩
    | pending fits busy => exact ⟨_, rfl, rfl⟩
    | idle fits serviced => exact ⟨_, rfl, rfl⟩
  have before := attended.calm.idle ticked.idle
  obtain ⟨noneCompleted, -⟩ := PyMemorySystem.iterate_idle tally.toLedger before count
  obtain ⟨segment, wire, -, unsent⟩ := PyMemorySystem.iterate_wire dram.mem.impl count
  have silent {pick : DramCode Unit γ η → Option Part}
      (apart : ∀ code : DramCode Unit γ η, code.Clock () → pick code = none) :
      ended.2.sim.due pick = sim.due pick := by
    rw [ticked.clock.due apart, Simulator.due_fired_none next (apart _ (.inr named))]
  have taken (type : RequestType) : ended.2.dram.taken type = dram.taken type := by
    rw [Dram.taken, Dram.taken, mem.2, wire, Wire.accepted_append, unsent,
      List.append_nil]
  rw [← mem.1] at noneCompleted
  exact
    { attended :=
        { running := ticked.running
          calm := ticked.calm attended.calm attended.running
          serviced := ticked.serviced attended.serviced
          loading := fun request member => by
            rw [noneCompleted] at member
            cases member
          reaches := mem.1 ▸ reaches_iterate attended.reaches count }
      wellFormed := ticked.local_.wellFormed
      reading := by
        rw [reading, reading, noneCompleted, before, silent client.loads_clock, zero_add]
      takenReads := by
        rw [taken]
        exact (zero_add _).symm
      takenWrites := by
        rw [taken]
        exact (zero_add _).symm
      stored := by rw [silent client.stores_clock, zero_add] }

end Ticks

/-! ## The rest of the agenda -/

section Agenda

theorem Attended.moved (attended : client.Attended tally device)
    {kind : DramCode Unit γ η → Prop} {after : Simulator (DramCode Unit γ η)}
    (local_ : Local kind device.sim after)
    (tick : ¬ kind (.dram () .tick)) (idleTick : ¬ kind (.dram () .idleTick)) :
    client.Attended tally ⟨after, device.dram⟩ where
  running :=
    ⟨attended.running.clocked.foreign local_ tick idleTick, attended.running.drained,
      attended.running.stable, attended.running.cached⟩
  calm := attended.calm
  serviced := attended.serviced
  loading := attended.loading
  reaches := attended.reaches

theorem Attended.congr (attended : client.Attended tally device)
    {after : Simulator (DramCode Unit γ η)}
    (live : after.liveEvents = device.sim.liveEvents)
    (seq : after.seq = device.sim.seq) : client.Attended tally ⟨after, device.dram⟩ where
  running := ⟨attended.running.clocked.agenda (Simulator.queued_of_liveEvents live)
      (Simulator.queued_of_liveEvents live) seq.ge fun _ member _ => live ▸ member,
    attended.running.drained, attended.running.stable, attended.running.cached⟩
  calm := attended.calm
  serviced := attended.serviced
  loading := attended.loading
  reaches := attended.reaches

theorem Attended.hosted (attended : client.Attended tally device)
    {after : Simulator (DramCode Unit γ η)}
    (local_ : Local DramCode.Hosted device.sim after) :
    client.Took tally device ⟨after, device.dram⟩ 0 0 := by
  have silent {pick : DramCode Unit γ η → Option Part}
      (apart : ∀ event, pick (.host event) = none) :
      after.due pick = device.sim.due pick := by
    apply local_.due
    rintro code ⟨event, rfl⟩
    exact apart event
  exact
    { attended := attended.moved local_ (by rintro ⟨event, ⟨⟩⟩) (by rintro ⟨event, ⟨⟩⟩)
      wellFormed := local_.wellFormed
      reading := by
        rw [zero_add, reading, reading, silent fun _ => rfl]
      takenReads := (zero_add _).symm
      takenWrites := (zero_add _).symm
      stored := by rw [zero_add, silent fun _ => rfl] }

omit [DecidableEq γ] in
theorem reading_congr (device : Device (DramCode Unit γ η) setup.engine)
    {after : Simulator (DramCode Unit γ η)}
    (live : after.liveEvents = device.sim.liveEvents) :
    client.reading tally ⟨after, device.dram⟩ = client.reading tally device := by
  rw [reading, reading, Simulator.due_congr live]

omit [DecidableEq γ] in
theorem reading_fired {event : Event (DramCode Unit γ η)}
    (next : device.sim.peek.1 = some event)
    {part : Part} (seen : client.loads event.callback = some part) :
    client.reading tally device =
      part ::ₘ client.reading tally ⟨device.sim.fireNext event, device.dram⟩ := by
  rw [reading, reading, Simulator.due_fired_some next seen, Multiset.add_cons]

theorem Attended.completed (attended : client.Attended tally device)
    (wellFormed : device.sim.WellFormed) {event : Event (DramCode Unit γ η)}
    (next : device.sim.peek.1 = some event) {callback : γ} {info : RequestInfo}
    (named : event.callback = .dram () (.completion callback info)) :
    client.Attended tally ⟨device.sim.fireNext event, device.dram⟩ := by
  refine attended.moved (Local.fired wellFormed next rfl) ?_ ?_
  · rw [named]
    rintro ⟨⟩
  · rw [named]
    rintro ⟨⟩

theorem Attended.idle (attended : client.Attended tally device)
    (empty : device.sim.liveEvents = []) :
    client.reading tally device = 0 ∧ device.dram.pending = 0 := by
  have stopped : device.dram.ticking = false := by
    cases ticking : device.dram.ticking with
    | false => rfl
    | true =>
        cases attended.running.clocked with
        | busy event _ _ ticks =>
            have live :=
              (Simulator.mem_queued.mp (ticks ▸ List.mem_singleton_self event)).1
            rw [empty] at live
            cases live
        | idle _ stopped => cases stopped.symm.trans ticking
        | stopped stopped => cases stopped.symm.trans ticking
        | lost _ stopped => cases stopped.symm.trans ticking
  have noPending := attended.serviced stopped
  have unread : tally.reads device.dram.mem.impl.mem = 0 :=
    tally.idle _ (Int.natCast_eq_zero.mp noPending)
  refine ⟨?_, noPending⟩
  rw [reading, unread, Simulator.due_of_empty empty]
  rfl

end Agenda

end Client

theorem Dram.Created.untouched {device : Device (DramCode Unit γ η) setup.engine}
    {sim : Simulator (DramCode Unit γ η)} {made : Dram setup.engine}
    (created : Dram.Created True () setup sim made device) :
    device.dram.mem.impl.mem = setup.engine.fresh ∧ device.dram.mem.impl.wire = [] := by
  obtain ⟨clk, base_pos, rfl⟩ := created.initial
  rcases created.dram with ⟨-, same⟩ | ⟨-, same⟩
  · rw [same]
    exact ⟨rfl, rfl⟩
  · rw [same]
    exact ⟨rfl, rfl⟩

theorem Dram.Created.taken {device : Device (DramCode Unit γ η) setup.engine}
    {sim : Simulator (DramCode Unit γ η)} {made : Dram setup.engine}
    (created : Dram.Created True () setup sim made device) (type : RequestType) :
    device.dram.taken type = [] := by
  rw [Dram.taken, created.untouched.2]
  rfl

namespace Client

theorem reading_created {device : Device (DramCode Unit γ η) setup.engine}
    {sim : Simulator (DramCode Unit γ η)} {made : Dram setup.engine}
    (created : Dram.Created True () setup sim made device) (empty : sim.liveEvents = []) :
    client.reading tally device = 0 := by
  rw [reading, created.untouched.1, tally.fresh, created.clock.due client.loads_clock,
    Simulator.due_of_empty empty]
  rfl

theorem Attended.created {device : Device (DramCode Unit γ η) setup.engine}
    {sim : Simulator (DramCode Unit γ η)} {made : Dram setup.engine}
    (created : Dram.Created True () setup sim made device) :
    client.Attended tally device where
  running := created.running
  calm := created.calm _
  serviced := created.serviced tally
  loading := by
    intro request member
    rw [created.untouched.1, tally.fresh] at member
    cases member
  reaches := created.untouched.1 ▸ .fresh

namespace Took

variable {client tally} {first second third : Device (DramCode Unit γ η) setup.engine}
  {reads moreReads writes moreWrites : Multiset Part}

theorem refl (attended : client.Attended tally first)
    (wellFormed : first.sim.WellFormed) :
    client.Took tally first first 0 0 where
  attended
  wellFormed
  reading := (zero_add _).symm
  takenReads := (zero_add _).symm
  takenWrites := (zero_add _).symm
  stored := (zero_add _).symm

end Took

end Client

end Pyramulator
