import Pyramulator.Memory.BulkSends
import Pyramulator.Dram.Lockstep

namespace Pyramulator

/-! Requests that go to a component by one call, and the same requests by calls of
their own. -/

open MemorySystem (acceptedAddrs acceptedAddrs_cons answering)

namespace DramRequest

variable {γ : Type} (type : RequestType) (callback : Option γ) (coreId : Int)

/-- `read` or `write`. -/
def one (addr : Int) : DramRequest γ :=
  if type = .write then .write addr callback coreId else .read addr callback coreId

/-- `reads` or `writes`. -/
def all (addrs : List Int) : DramRequest γ :=
  if type = .write then .writes addrs callback coreId else .reads addrs callback coreId

structure Of (request : DramRequest γ) : Prop where
  type : request.type = type
  callback : request.callback = callback
  coreId : request.coreId = coreId

variable {type}

theorem one_of (known : type = .read ∨ type = .write) (addr : Int) :
    Of type callback coreId (one type callback coreId addr) := by
  rcases known with rfl | rfl <;> exact ⟨rfl, rfl, rfl⟩

theorem all_of (known : type = .read ∨ type = .write) (addrs : List Int) :
    Of type callback coreId (all type callback coreId addrs) := by
  rcases known with rfl | rfl <;> exact ⟨rfl, rfl, rfl⟩

theorem one_op (known : type = .read ∨ type = .write) (addr : Int) (wrap : Collector γ) :
    (one type callback coreId addr).op wrap = .send addr type coreId (some wrap) := by
  rcases known with rfl | rfl <;> rfl

theorem all_op (known : type = .read ∨ type = .write) (addrs : List Int)
    (wrap : Collector γ) :
    (all type callback coreId addrs).op wrap =
      .sendBatch addrs type coreId (some wrap) := by
  rcases known with rfl | rfl <;> rfl

end DramRequest

namespace Dram

variable {γ κ : Type} {engine : Engine (DramCallback γ)}

structure Prepared (cacheline numCores : Int) (type : RequestType) (callback : Option γ)
    (wrap : Collector γ) (dram : Dram engine) : Prop where
  src : dram.collectorSrc = callback
  cached : dram.collectorWrap = some wrap
  answers : wrap.callback = callback
  ready : type = .read → dram.mem.readCbSrc = some wrap
  stable : dram.mem.Stable cacheline
  numCores : dram.mem.numCores = numCores
  startable : dram.ticking = false → dram.idleTicking = true → dram.idleEventId ≠ none

variable (closure : DramEvent γ → κ) (type : RequestType) (coreId : Int)
  (wrap : Collector γ)

def flags (dram : Dram engine) (addrs : List Int) : List Bool :=
  (dram.mem.sendAll type coreId (some wrap) addrs).1

def written (dram : Dram engine) (addrs : List Int) (flags : List Bool) :
    List (RequestInfo × Option γ) :=
  if type = .write then
    (acceptedAddrs addrs flags).map fun addr =>
      (dram.mem.writeInfo addr coreId, wrap.callback)
  else []

def issued (dram : Dram engine) (addrs : List Int) : Dram engine :=
  { dram with
    mem := { dram.mem with impl := (dram.mem.sendAll type coreId (some wrap) addrs).2 }
    completed := dram.completed ++
      dram.written type coreId wrap addrs (dram.flags type coreId wrap addrs) }

/-- `_deliver_completed` of the write methods. -/
def delivering (device : Device κ engine) : Device κ engine :=
  if type = .write then
    ⟨handOver closure device.dram.completionPriority device.sim device.dram.completed,
      device.dram.handedOver device.sim.now⟩
  else device

def served (device : Device κ engine) (addrs : List Int) : Device κ engine :=
  let issued : Device κ engine := ⟨device.sim, device.dram.issued type coreId wrap addrs⟩
  if (device.dram.flags type coreId wrap addrs).any id then
    (startTicking closure (delivering closure type issued)).2
  else issued

section

variable {type coreId wrap} (dram : Dram engine)

theorem length_flags (addrs : List Int) :
    (dram.flags type coreId wrap addrs).length = addrs.length :=
  PyMemorySystem.length_sendAll _ _ _

theorem flags_cons (addr : Int) (rest : List Int) :
    dram.flags type coreId wrap (addr :: rest) =
      dram.flags type coreId wrap [addr] ++
        (dram.issued type coreId wrap [addr]).flags type coreId wrap rest := rfl

theorem written_cons (addr : Int) (rest : List Int) (flag : Bool) (flags : List Bool) :
    dram.written type coreId wrap (addr :: rest) (flag :: flags) =
      dram.written type coreId wrap [addr] [flag] ++
        dram.written type coreId wrap rest flags := by
  unfold written
  split
  · rw [acceptedAddrs_cons, List.map_append]
  · rfl

theorem written_none {addrs : List Int} {flags : List Bool}
    (allRefused : flags.any id = false) :
    dram.written type coreId wrap addrs flags = [] := by
  have nothing : acceptedAddrs addrs flags = [] := by
    apply List.filterMap_eq_nil_iff.mpr
    rintro ⟨addr, flag⟩ member
    have rejected := List.any_eq_false.mp allRefused flag (List.of_mem_zip member).2
    simp only [id, Bool.not_eq_true] at rejected
    simp [rejected]
  simp [written, nothing]

theorem issued_cons (addr : Int) (rest : List Int) :
    dram.issued type coreId wrap (addr :: rest) =
      (dram.issued type coreId wrap [addr]).issued type coreId wrap rest := by
  have split : dram.written type coreId wrap (addr :: rest)
      (dram.flags type coreId wrap (addr :: rest)) =
        dram.written type coreId wrap [addr] (dram.flags type coreId wrap [addr]) ++
          dram.written type coreId wrap rest
            ((dram.issued type coreId wrap [addr]).flags type coreId wrap rest) :=
    dram.written_cons addr rest _ _
  rw [issued, split, ← List.append_assoc]
  rfl

theorem issued_nil : dram.issued type coreId wrap [] = dram := by
  have nothing : dram.written type coreId wrap [] (dram.flags type coreId wrap []) = [] :=
    dram.written_none rfl
  rw [issued, nothing, List.append_nil]
  rfl

end

section

variable (sim : Simulator κ) (dram : Dram engine)

theorem handOver_append (priority : Int) (before after : List (RequestInfo × Option γ)) :
    handOver closure priority sim (before ++ after) =
      handOver closure priority (handOver closure priority sim before) after := by
  induction before generalizing sim with
  | nil => rfl
  | cons completion rest induction =>
      obtain ⟨info, _ | callback⟩ := completion
      · exact induction sim
      · exact induction _

theorem delivering_nothing (nothing : type = .write → dram.completed = []) :
    delivering closure type (⟨sim, dram⟩ : Device κ engine) = ⟨sim, dram⟩ := by
  unfold delivering
  split
  · rename_i write
    simp only [nothing write, handOver, handedOver, deliveries, List.map_nil,
      List.append_nil]
    rw [← nothing write]
  · rfl

/-- The completions of the first requests are delivered before those of the others. -/
theorem delivering_issued (addrs : List Int) :
    let first : Device κ engine := delivering closure type ⟨sim, dram⟩
    delivering closure type ⟨first.sim, first.dram.issued type coreId wrap addrs⟩ =
      delivering closure type ⟨sim, dram.issued type coreId wrap addrs⟩ := by
  by_cases write : type = .write
  · simp only [delivering, if_pos write, issued, handedOver, List.nil_append,
      handOver_append, deliveries, List.map_append, List.append_assoc, handOver_now]
    rfl
  · simp only [delivering, if_neg write]

theorem served_rejected {addr : Int} (rest : List Int)
    (rejected : dram.flags type coreId wrap [addr] = [false]) :
    served closure type coreId wrap (⟨sim, dram⟩ : Device κ engine) (addr :: rest) =
      served closure type coreId wrap ⟨sim, dram.issued type coreId wrap [addr]⟩
        rest := by
  simp only [served, flags_cons dram addr rest, issued_cons dram addr rest, rejected,
    List.singleton_append, List.any_cons, id, Bool.false_or]

theorem served_one_rejected {addr : Int}
    (rejected : dram.flags type coreId wrap [addr] = [false]) :
    served closure type coreId wrap (⟨sim, dram⟩ : Device κ engine) [addr] =
      ⟨sim, dram.issued type coreId wrap [addr]⟩ := by
  simp only [served, rejected, List.any_cons, id, List.any_nil, Bool.or_self,
    Bool.false_eq_true, if_false]

theorem served_accepted {addr : Int} (rest : List Int)
    (accepted : dram.flags type coreId wrap [addr] = [true]) :
    let first : Device κ engine :=
      delivering closure type ⟨sim, dram.issued type coreId wrap [addr]⟩
    served closure type coreId wrap (⟨sim, dram⟩ : Device κ engine) (addr :: rest) =
      (startTicking closure (delivering closure type
        ⟨first.sim, first.dram.issued type coreId wrap rest⟩)).2 := by
  intro first
  simp only [served, flags_cons dram addr rest, accepted, List.singleton_append,
    List.any_cons, id, Bool.true_or, if_true, issued_cons dram addr rest]
  rw [delivering_issued closure type coreId wrap]

theorem served_busy (busy : dram.ticking = true)
    (calm : type = .write → dram.completed = []) (addrs : List Int) :
    served closure type coreId wrap (⟨sim, dram⟩ : Device κ engine) addrs =
      delivering closure type ⟨sim, dram.issued type coreId wrap addrs⟩ := by
  have ticking : (delivering closure type
      (⟨sim, dram.issued type coreId wrap addrs⟩ : Device κ engine)).dram.ticking =
        true := by
    unfold delivering
    split <;> exact busy
  cases any_ : (dram.flags type coreId wrap addrs).any id with
  | true =>
      simp only [served, any_, if_true]
      exact congrArg Prod.snd (startTicking_busy closure _ _ ticking)
  | false =>
      simp only [served, any_, Bool.false_eq_true, if_false]
      rw [delivering_nothing closure type]
      intro write
      rw [issued, calm write, written_none dram any_]
      rfl

def serveEach : Device κ engine → List Int → Device κ engine :=
  List.foldl fun device addr => served closure type coreId wrap device [addr]

theorem serveEach_busy (busy : dram.ticking = true)
    (calm : type = .write → dram.completed = []) (addrs : List Int) :
    serveEach closure type coreId wrap (⟨sim, dram⟩ : Device κ engine) addrs =
      served closure type coreId wrap ⟨sim, dram⟩ addrs := by
  induction addrs generalizing sim dram with
  | nil =>
      rw [served_busy closure type coreId wrap sim dram busy calm, issued_nil,
        delivering_nothing closure type sim dram calm]
      rfl
  | cons addr rest induction =>
      have one := served_busy closure type coreId wrap sim dram busy calm [addr]
      have ticking : (delivering closure type
          (⟨sim, dram.issued type coreId wrap [addr]⟩ : Device κ engine)).dram.ticking =
            true := by
        unfold delivering
        split <;> exact busy
      have emptied : type = .write → (delivering closure type
          (⟨sim, dram.issued type coreId wrap [addr]⟩ : Device κ engine)).dram.completed =
            [] := by
        intro write
        rw [delivering, if_pos write]
        rfl
      rw [served_busy closure type coreId wrap sim dram busy calm, issued_cons,
        ← delivering_issued, ← served_busy _ _ _ _ _ _ ticking emptied,
        ← induction _ _ ticking emptied, ← one]
      rfl

end

/-! ## The start of the clock -/

section Start

variable {sim : Simulator κ}

theorem handOver_cancel {eventId : Nat} (old : eventId < sim.seq) (priority : Int)
    (completed : List (RequestInfo × Option γ)) :
    ((handOver closure priority sim completed).cancel eventId).2 =
      handOver closure priority (sim.cancel eventId).2 completed := by
  induction completed generalizing sim with
  | nil => rfl
  | cons completion rest induction =>
      obtain ⟨info, _ | callback⟩ := completion
      · exact induction old
      · simp only [handOver, Simulator.cancel_now]
        rw [induction (Nat.lt_succ_of_lt old), Simulator.cancel_push old.ne]

theorem owes_handOver {ids : Nat → Nat → Prop} {event : Event κ}
    {first second : Simulator κ}
    (owes : Simulator.Owes ids event first second) (priority : Int)
    (completed : List (RequestInfo × Option γ)) :
    ∃ more, ids ≤ more ∧
      Simulator.Owes more event (handOver closure priority first completed)
      (handOver closure priority second completed) := by
  induction completed generalizing ids first second with
  | nil => exact ⟨ids, le_refl _, owes⟩
  | cons completion rest induction =>
      obtain ⟨info, _ | callback⟩ := completion
      · exact induction owes
      · have pushed := owes.push (show first.now ≤ first.now + 0 by omega)
          (by have := owes.later; omega)
            (closure (.completion callback info)) priority none
        obtain ⟨more, grows, owing⟩ := induction pushed
        refine ⟨more, (Simulator.paired_grows ids _ _).trans grows, ?_⟩
        simp only [handOver, ← owes.now]
        exact owing

theorem start_handOver (wellFormed : sim.WellFormed) (component : Component)
    (priority : Int) (completed : List (RequestInfo × Option γ)) :
    ∃ ids, (fun left right => left = right ∧ left < sim.seq) ≤ ids ∧ Simulator.Alike ids
      (handOver closure priority (component.pushCycles sim 1 (closure .tick) 0) completed)
      (component.pushCycles (handOver closure priority sim completed) 1
        (closure .tick) 0) := by
  have positive := component.clk.positive
  have owes := Simulator.Owes.start (.refl wellFormed)
    (show sim.now < sim.now + 1 * component.clk.periodPs by omega) (closure .tick) 0
      (some component.name)
  obtain ⟨more, grows, owing⟩ := owes_handOver closure owes priority completed
  have settled := owing.settle (some component.name)
  simp only [Component.pushCycles, handOver_now]
  exact ⟨_, grows.trans (Simulator.paired_grows more _ _), settled⟩

theorem start_delivering (type : RequestType) (wellFormed : sim.WellFormed)
    (dram : Dram engine)
    (stopped : dram.ticking = false)
    (startable : dram.idleTicking = true → dram.idleEventId ≠ none)
    (old : ∀ eventId, dram.idleEventId = some eventId → eventId < sim.seq) :
    let early : Device κ engine :=
      delivering closure type (startTicking closure ⟨sim, dram⟩).2
    let late := (startTicking closure (delivering closure type ⟨sim, dram⟩)).2
    early.dram = late.dram ∧
      ∃ ids, (fun left right => left = right ∧ left < sim.seq) ≤ ids ∧
      Simulator.Alike ids early.sim late.sim := by
  by_cases write : type = .write
  · simp only [delivering, if_pos write]
    by_cases idle : dram.idleTicking = true
    · obtain ⟨eventId, scheduled⟩ := Option.ne_none_iff_exists'.mp (startable idle)
      have cancelled := handOver_cancel closure (old eventId scheduled)
        dram.completionPriority dram.completed
      have late := startTicking_idle closure
        (handOver closure dram.completionPriority sim dram.completed)
          (dram.handedOver sim.now)
        stopped idle scheduled
      rw [startTicking_idle closure sim dram stopped idle scheduled, late, cancelled]
      refine ⟨by simp [busyFrom, handedOver, cycles], ?_⟩
      have started := start_handOver closure (wellFormed.cancel eventId)
        dram.toComponent dram.completionPriority dram.completed
      rw [Simulator.cancel_seq] at started
      exact started
    · have noIdle : dram.idleTicking = false := by simpa using idle
      have late := startTicking_stopped closure
        (handOver closure dram.completionPriority sim dram.completed)
          (dram.handedOver sim.now)
        stopped noIdle
      rw [startTicking_stopped closure sim dram stopped noIdle, late]
      refine ⟨by simp [busyFrom, handedOver, cycles], ?_⟩
      exact start_handOver closure wellFormed dram.toComponent _ _
  · simp only [delivering, if_neg write, true_and]
    have calls := startTicking_lawful closure (⟨sim, dram⟩ : Device κ engine)
    exact ⟨_, fun left right same =>
      ⟨same.1, same.2.trans_le (Simulator.Calls.seq_le calls)⟩,
      .refl (Simulator.Calls.wellFormed calls wellFormed)⟩

theorem served_nil (type : RequestType) (coreId : Int) (wrap : Collector γ)
    (sim : Simulator κ) (dram : Dram engine) :
    served closure type coreId wrap (⟨sim, dram⟩ : Device κ engine) [] = ⟨sim, dram⟩ := by
  change (⟨sim, dram.issued type coreId wrap []⟩ : Device κ engine) = _
  rw [issued_nil]

theorem delivering_calls (type : RequestType) (device : Device κ engine) :
    Simulator.Calls device.sim (delivering closure type device).sim := by
  unfold delivering
  split
  · have calls := deliverCompleted_lawful closure device
    rw [deliverCompleted_eq] at calls
    exact calls
  · exact .refl

theorem start_issued (type : RequestType) (coreId : Int) (wrap : Collector γ)
    (sim : Simulator κ) (dram : Dram engine) (stopped : dram.ticking = false)
    (startable : dram.idleTicking = true → dram.idleEventId ≠ none) (addrs : List Int) :
    let begun := (startTicking closure (⟨sim, dram⟩ : Device κ engine)).2
    begun.dram.ticking = true ∧ begun.dram.completed = dram.completed ∧
      (startTicking closure ⟨sim, dram.issued type coreId wrap addrs⟩).2 =
        ⟨begun.sim, begun.dram.issued type coreId wrap addrs⟩ := by
  by_cases idle : dram.idleTicking = true
  · obtain ⟨eventId, scheduled⟩ := Option.ne_none_iff_exists'.mp (startable idle)
    have later :=
      startTicking_idle closure sim (dram.issued type coreId wrap addrs) stopped idle
      scheduled
    rw [startTicking_idle closure sim dram stopped idle scheduled, later]
    exact ⟨rfl, rfl, rfl⟩
  · have noIdle : dram.idleTicking = false := by simpa using idle
    have later :=
      startTicking_stopped closure sim (dram.issued type coreId wrap addrs) stopped
      noIdle
    rw [startTicking_stopped closure sim dram stopped noIdle, later]
    exact ⟨rfl, rfl, rfl⟩

theorem serveEach_accepted (type : RequestType) (coreId : Int) (wrap : Collector γ)
    (wellFormed : sim.WellFormed) (dram : Dram engine)
    (startable : dram.ticking = false → dram.idleTicking = true → dram.idleEventId ≠ none)
    (old : ∀ eventId, dram.idleEventId = some eventId → eventId < sim.seq) {addr : Int}
    (rest : List Int) (accepted : dram.flags type coreId wrap [addr] = [true]) :
    let one :=
      serveEach closure type coreId wrap (⟨sim, dram⟩ : Device κ engine) (addr :: rest)
    let many :=
      served closure type coreId wrap (⟨sim, dram⟩ : Device κ engine) (addr :: rest)
    one.dram = many.dram ∧
      ∃ ids, (fun left right => left = right ∧ left < sim.seq) ≤ ids ∧
      Simulator.Alike ids one.sim many.sim := by
  have opening : serveEach closure type coreId wrap (⟨sim, dram⟩ : Device κ engine)
      (addr :: rest) = serveEach closure type coreId wrap
        (startTicking closure (delivering closure type
          ⟨sim, dram.issued type coreId wrap [addr]⟩)).2 rest := by
    have first : served closure type coreId wrap (⟨sim, dram⟩ : Device κ engine) [addr] =
        (startTicking closure (delivering closure type
          ⟨sim, dram.issued type coreId wrap [addr]⟩)).2 := by
      simp only [served, accepted, List.any_cons, id, Bool.true_or, if_true]
    rw [← first]
    rfl
  have calls := delivering_calls closure type
    (⟨sim, dram.issued type coreId wrap [addr]⟩ : Device κ engine)
  have emptied : type = .write → (delivering closure type
      (⟨sim, dram.issued type coreId wrap [addr]⟩ : Device κ engine)).dram.completed =
        [] := by
    intro write
    rw [delivering, if_pos write]
    rfl
  have clock : (delivering closure type
      (⟨sim, dram.issued type coreId wrap [addr]⟩ : Device κ engine)).dram.ticking =
        dram.ticking ∧ (delivering closure type
      (⟨sim, dram.issued type coreId wrap [addr]⟩ : Device κ engine)).dram.idleTicking =
        dram.idleTicking ∧ (delivering closure type
      (⟨sim, dram.issued type coreId wrap [addr]⟩ : Device κ engine)).dram.idleEventId =
        dram.idleEventId := by
    unfold delivering
    split <;> exact ⟨rfl, rfl, rfl⟩
  have all := served_accepted closure type coreId wrap sim dram rest accepted
  rw [opening, all]
  clear opening all
  generalize delivering closure type
    (⟨sim, dram.issued type coreId wrap [addr]⟩ : Device κ engine) =
    first at calls emptied clock ⊢
  obtain ⟨after, base⟩ := first
  obtain ⟨ticking, idleTicking, idleEventId⟩ := clock
  have formed : after.WellFormed := Simulator.Calls.wellFormed calls wellFormed
  have later : sim.seq ≤ after.seq := Simulator.Calls.seq_le calls
  simp only at ticking idleTicking idleEventId emptied ⊢
  by_cases busy : dram.ticking = true
  · have goes : base.ticking = true := ticking.trans busy
    have still : (delivering closure type
        (⟨after, base.issued type coreId wrap rest⟩ : Device κ engine)).dram.ticking =
          true := by
      unfold delivering
      split <;> exact goes
    have moved := delivering_calls closure type
      (⟨after, base.issued type coreId wrap rest⟩ : Device κ engine)
    rw [startTicking_busy closure after base goes,
      serveEach_busy closure type coreId wrap after
      base goes emptied, served_busy closure type coreId wrap after base goes emptied,
      startTicking_busy closure _ _ still]
    refine ⟨rfl, _, fun left right same => ⟨same.1, same.2.trans_le ?_⟩,
      .refl (Simulator.Calls.wellFormed moved formed)⟩
    exact later.trans (Simulator.Calls.seq_le moved)
  · have stopped : base.ticking = false := ticking.trans (by simpa using busy)
    have starts : base.idleTicking = true → base.idleEventId ≠ none := by
      rw [idleTicking, idleEventId]
      exact startable (by simpa using busy)
    obtain ⟨goes, kept, begun⟩ :=
      start_issued closure type coreId wrap after base stopped starts rest
    have ends :=
      start_delivering closure type formed (base.issued type coreId wrap rest) stopped
      starts fun eventId scheduled =>
        (old eventId (idleEventId ▸ scheduled)).trans_le later
    rw [begun] at ends
    rw [serveEach_busy closure type coreId wrap _ _ goes fun write =>
      kept.trans (emptied write),
      served_busy closure type coreId wrap _ _ goes fun write =>
        kept.trans (emptied write)]
    obtain ⟨same, ids, grows, alike⟩ := ends
    exact ⟨same, ids, fun left right known =>
      grows _ _ ⟨known.1, known.2.trans_le later⟩, alike⟩

/-- Whatever is accepted, the calls come to the same, up to the numbers of the events. -/
theorem serveEach_served (type : RequestType) (coreId : Int) (wrap : Collector γ)
    (wellFormed : sim.WellFormed) (dram : Dram engine)
    (startable : dram.ticking = false → dram.idleTicking = true → dram.idleEventId ≠ none)
    (old : ∀ eventId, dram.idleEventId = some eventId → eventId < sim.seq)
    (addrs : List Int) :
    let one := serveEach closure type coreId wrap (⟨sim, dram⟩ : Device κ engine) addrs
    let many := served closure type coreId wrap (⟨sim, dram⟩ : Device κ engine) addrs
    one.dram = many.dram ∧
      ∃ ids, (fun left right => left = right ∧ left < sim.seq) ≤ ids ∧
      Simulator.Alike ids one.sim many.sim := by
  induction addrs generalizing dram with
  | nil =>
      rw [served_nil]
      exact ⟨rfl, _, le_refl _, .refl wellFormed⟩
  | cons addr rest induction =>
      have length : (dram.flags type coreId wrap [addr]).length = 1 :=
        dram.length_flags [addr]
      obtain ⟨flag, answer⟩ := List.length_eq_one_iff.mp length
      cases flag with
      | true =>
          exact serveEach_accepted closure type coreId wrap wellFormed dram
            startable old rest
            answer
      | false =>
          have later := induction (dram.issued type coreId wrap [addr]) startable old
          rw [← served_rejected closure type coreId wrap sim dram rest answer,
            ← served_one_rejected closure type coreId wrap sim dram answer] at later
          exact later

end Start

/-! ## The calls -/

section Calls

variable [DecidableEq γ] (closure : DramEvent γ → κ) (sim : Simulator κ)
  {dram : Dram engine}
  {cacheline numCores : Int} {type : RequestType} {callback : Option γ} {coreId : Int}
  {wrap : Collector γ}

omit [DecidableEq γ] in
theorem startTicking_ok (device : Device κ engine)
    (startable : device.dram.ticking = false → device.dram.idleTicking = true →
      device.dram.idleEventId ≠ none) : (startTicking closure device).1 = .ok () := by
  obtain ⟨sim, dram⟩ := device
  by_cases busy : dram.ticking = true
  · rw [startTicking_busy closure sim dram busy]
  · have stopped : dram.ticking = false := by simpa using busy
    by_cases idle : dram.idleTicking = true
    · obtain ⟨eventId, scheduled⟩ :=
        Option.ne_none_iff_exists'.mp (startable stopped idle)
      rw [startTicking_idle closure sim dram stopped idle scheduled]
    · rw [startTicking_stopped closure sim dram stopped (by simpa using idle)]

theorem Prepared.collector
    (prepared : Prepared cacheline numCores type callback wrap dram) :
    dram.collector callback = (wrap, dram) := by
  simp only [Dram.collector, prepared.cached, if_pos prepared.src.symm]

theorem Prepared.readCb (prepared : Prepared cacheline numCores type callback wrap dram)
    (read : type = .read) : (dram.mem.readCb (some wrap)).2 = dram.mem := by
  simp only [MemorySystem.readCb, if_pos (prepared.ready read)]

theorem onMem_issued {op : MemoryOp (Collector γ)} {value : List Bool → MemoryValue}
    {addrs : List Int}
    (begun : op.begin dram.mem = (answering type coreId (some wrap) value addrs
      (dram.flags type coreId wrap addrs), { dram.mem with
        impl := (dram.mem.sendAll type coreId (some wrap) addrs).2 })) :
    Device.onMem op (⟨sim, dram⟩ : Device κ engine) =
      (.ok (value (dram.flags type coreId wrap addrs)),
        ⟨sim, dram.issued type coreId wrap addrs⟩) := by
  unfold answering at begun
  unfold issued written
  by_cases write : type = .write
  · rw [if_pos write] at begun
    rw [if_pos write, onMem_writes op begun]
    rfl
  · rw [if_neg write] at begun
    rw [if_neg write, onMem_returned op begun, List.append_nil]

theorem method_served (prepared : Prepared cacheline numCores type callback wrap dram)
    {request : DramRequest γ} (of : request.Of type callback coreId) {addrs : List Int}
    {value : List Bool → MemoryValue}
    (begun : (request.op wrap).begin dram.mem =
      (answering type coreId (some wrap) value addrs
      (dram.flags type coreId wrap addrs), { dram.mem with
        impl := (dram.mem.sendAll type coreId (some wrap) addrs).2 }))
    (accepts : anyAccepted (value (dram.flags type coreId wrap addrs)) =
      (dram.flags type coreId wrap addrs).any id) :
    method closure request (⟨sim, dram⟩ : Device κ engine) =
      (.ok (value (dram.flags type coreId wrap addrs)),
        served closure type coreId wrap ⟨sim, dram⟩ addrs) := by
  have sent : Device.onMem (request.op (dram.collector request.callback).1)
      (⟨sim, (dram.collector request.callback).2⟩ : Device κ engine) =
        (.ok (value (dram.flags type coreId wrap addrs)),
          ⟨sim, dram.issued type coreId wrap addrs⟩) := by
    rw [of.callback, prepared.collector]
    exact onMem_issued sim begun
  unfold served
  cases any_ : (dram.flags type coreId wrap addrs).any id with
  | false => exact method_rejected closure sim request dram sent (accepts.trans any_)
  | true =>
      have someTaken := accepts.trans any_
      by_cases write : type = .write
      · have wrote :=
          method_write closure sim request dram sent someTaken (of.type.trans write)
        simp only [delivering, if_pos write, if_true]
        rw [wrote, startTicking_ok closure _ prepared.startable]
        rfl
      · have read := method_read closure sim request dram sent someTaken (of.type ▸ write)
        simp only [delivering, if_neg write, if_true]
        rw [read, startTicking_ok closure _ prepared.startable]
        rfl

variable (prepared : Prepared cacheline numCores type callback wrap dram)
  (valid : 0 ≤ coreId ∧ coreId < numCores) (int : FitsInt coreId)
  (known : type = .read ∨ type = .write)
include prepared valid int known

theorem one_served {addr : Int} (fits : FitsLong addr) :
    ∃ flag, dram.flags type coreId wrap [addr] = [flag] ∧
      method closure (.one type callback coreId addr) (⟨sim, dram⟩ : Device κ engine) =
        (.ok (.flag flag), served closure type coreId wrap ⟨sim, dram⟩ [addr]) := by
  have length : (dram.flags type coreId wrap [addr]).length = 1 :=
    dram.length_flags [addr]
  obtain ⟨flag, answer⟩ := List.length_eq_one_iff.mp length
  have checked := MemorySystem.checkCoreId_valid (prepared.numCores.symm ▸ valid)
  have issued :=
    MemorySystem.send_issued prepared.stable (some wrap) checked int known fits
  have ready := MemorySystem.send_ready prepared.stable (some wrap) checked int known fits
    prepared.readCb
  have begun : ((DramRequest.one type callback coreId addr).op wrap).begin dram.mem =
      (answering type coreId (some wrap) (fun flags => .flag (flags.headD false)) [addr]
        (dram.flags type coreId wrap [addr]), { dram.mem with
          impl := (dram.mem.sendAll type coreId (some wrap) [addr]).2 }) := by
    rw [DramRequest.one_op callback coreId known]
    exact Prod.ext issued.begun ready
  have called := method_served closure sim prepared
    (DramRequest.one_of callback coreId known addr) begun
    (by rw [answer]; cases flag <;> rfl)
  simp only [answer, List.headD_cons] at called
  exact ⟨flag, answer, called⟩

theorem all_served {addrs : List Int} (fits : ∀ addr ∈ addrs, FitsLong addr) :
    method closure (.all type callback coreId addrs) (⟨sim, dram⟩ : Device κ engine) =
      (.ok (.flags (dram.flags type coreId wrap addrs)),
        served closure type coreId wrap ⟨sim, dram⟩ addrs) := by
  have checked := MemorySystem.checkCoreId_valid (prepared.numCores.symm ▸ valid)
  have issued :=
    MemorySystem.sendBatch_issued prepared.stable (some wrap) checked int known fits
  have ready :=
    MemorySystem.sendBatch_ready prepared.stable (some wrap) checked int known fits
    prepared.readCb
  apply method_served closure sim prepared
    (DramRequest.all_of callback coreId known addrs) _ rfl
  rw [DramRequest.all_op callback coreId known]
  exact Prod.ext issued.begun ready

end Calls

/-! ## What the calls leave alone -/

section Kept

variable (closure : DramEvent γ → κ)

theorem startTicking_dram (device : Device κ engine)
    (startable : device.dram.ticking = false → device.dram.idleTicking = true →
      device.dram.idleEventId ≠ none) :
    (startTicking closure device).2.dram = device.dram ∨
      (startTicking closure device).2.dram = device.dram.busyFrom device.sim.now := by
  obtain ⟨sim, dram⟩ := device
  by_cases busy : dram.ticking = true
  · rw [startTicking_busy closure sim dram busy]
    exact .inl rfl
  · have stopped : dram.ticking = false := by simpa using busy
    by_cases idle : dram.idleTicking = true
    · obtain ⟨eventId, scheduled⟩ :=
        Option.ne_none_iff_exists'.mp (startable stopped idle)
      rw [startTicking_idle closure sim dram stopped idle scheduled]
      exact .inr rfl
    · rw [startTicking_stopped closure sim dram stopped (by simpa using idle)]
      exact .inr rfl

theorem startTicking_noted (sim : Simulator κ) (dram : Dram engine)
    (notes : List (Submission γ)) :
    startTicking closure (⟨sim, { dram with submitted := notes }⟩ : Device κ engine) =
      let started := startTicking closure ⟨sim, dram⟩
      (started.1, ⟨started.2.sim, { started.2.dram with submitted := notes }⟩) := by
  by_cases busy : dram.ticking = true
  · rw [startTicking_busy closure sim dram busy]
    exact startTicking_busy closure sim { dram with submitted := notes } busy
  · have stopped : dram.ticking = false := by simpa using busy
    by_cases idle : dram.idleTicking = true
    · obtain lost | ⟨eventId, scheduled⟩ := Option.eq_none_or_eq_some dram.idleEventId
      · rw [startTicking_lost closure sim dram stopped idle lost]
        exact startTicking_lost closure sim { dram with submitted := notes }
          stopped idle lost
      · rw [startTicking_idle closure sim dram stopped idle scheduled]
        exact startTicking_idle closure sim { dram with submitted := notes } stopped
          idle scheduled
    · have noIdle : dram.idleTicking = false := by simpa using idle
      rw [startTicking_stopped closure sim dram stopped noIdle]
      exact startTicking_stopped closure sim { dram with submitted := notes }
        stopped noIdle

variable (type : RequestType) (coreId : Int) (wrap : Collector γ)

theorem served_noted (sim : Simulator κ) (dram : Dram engine)
    (notes : List (Submission γ)) (addrs : List Int) :
    served closure type coreId wrap
      (⟨sim, { dram with submitted := notes }⟩ : Device κ engine)
        addrs =
      let plain := served closure type coreId wrap (⟨sim, dram⟩ : Device κ engine) addrs
      ⟨plain.sim, { plain.dram with submitted := notes }⟩ := by
  unfold served
  cases any_ : (dram.flags type coreId wrap addrs).any id with
  | false =>
      have same : (({ dram with submitted := notes } : Dram engine).flags type coreId wrap
          addrs).any id = false := any_
      simp only [same, Bool.false_eq_true, if_false]
      rfl
  | true =>
      have same : (({ dram with submitted := notes } : Dram engine).flags type coreId wrap
          addrs).any id = true := any_
      simp only [same, if_true]
      let issued := dram.issued type coreId wrap addrs
      by_cases write : type = .write
      · simp only [delivering, if_pos write]
        exact congrArg Prod.snd (startTicking_noted closure
          (handOver closure issued.completionPriority sim issued.completed)
            (issued.handedOver sim.now) notes)
      · simp only [delivering, if_neg write]
        exact congrArg Prod.snd (startTicking_noted closure sim issued notes)

theorem served_dram (sim : Simulator κ) (dram : Dram engine)
    (startable : dram.ticking = false → dram.idleTicking = true → dram.idleEventId ≠ none)
    (addrs : List Int) :
    ∃ completed delivered, let base : Dram engine :=
        { dram.issued type coreId wrap addrs with completed, delivered }
      let after :=
        (served closure type coreId wrap (⟨sim, dram⟩ : Device κ engine) addrs).dram
      after = base ∨ after = base.busyFrom sim.now := by
  let issued := dram.issued type coreId wrap addrs
  unfold served
  split
  · by_cases write : type = .write
    · have started :=
        startTicking_dram closure (⟨handOver closure issued.completionPriority sim
        issued.completed, issued.handedOver sim.now⟩ : Device κ engine) startable
      simp only [delivering, if_pos write]
      rw [handOver_now] at started
      exact ⟨_, _, started⟩
    · simp only [delivering, if_neg write]
      exact ⟨_, _, startTicking_dram closure (⟨sim, issued⟩ : Device κ engine) startable⟩
  · exact ⟨_, _, .inl rfl⟩

theorem serveEach_noted (sim : Simulator κ) (dram : Dram engine)
    (notes : List (Submission γ)) (addrs : List Int) :
    serveEach closure type coreId wrap
        (⟨sim, { dram with submitted := notes }⟩ : Device κ engine) addrs =
      let plain :=
        serveEach closure type coreId wrap (⟨sim, dram⟩ : Device κ engine) addrs
      ⟨plain.sim, { plain.dram with submitted := notes }⟩ := by
  induction addrs generalizing sim dram with
  | nil => rfl
  | cons addr rest induction =>
      have one := served_noted closure type coreId wrap sim dram notes [addr]
      simp only [serveEach, List.foldl_cons, one]
      exact induction _ _

theorem served_calls (device : Device κ engine) (addrs : List Int) :
    Simulator.Calls device.sim (served closure type coreId wrap device addrs).sim := by
  unfold served
  split
  · have delivered := delivering_calls closure type
      (⟨device.sim, device.dram.issued type coreId wrap addrs⟩ : Device κ engine)
    exact Relation.ReflTransGen.trans delivered (startTicking_lawful closure _)
  · exact .refl

theorem serveEach_calls (device : Device κ engine) (addrs : List Int) :
    Simulator.Calls device.sim (serveEach closure type coreId wrap device addrs).sim := by
  induction addrs generalizing device with
  | nil => exact .refl
  | cons addr rest induction =>
      exact Relation.ReflTransGen.trans
        (served_calls closure type coreId wrap device [addr])
        (induction _)

variable {cacheline numCores : Int} {type wrap} {callback : Option γ} {dram : Dram engine}

theorem Prepared.served (prepared : Prepared cacheline numCores type callback wrap dram)
    (sim : Simulator κ) (addrs : List Int) :
    Prepared cacheline numCores type callback wrap
      (served closure type coreId wrap (⟨sim, dram⟩ : Device κ engine) addrs).dram := by
  obtain ⟨completed, delivered, after | after⟩ :=
    served_dram closure type coreId wrap sim dram prepared.startable addrs
  · rw [after]
    exact ⟨prepared.src, prepared.cached, prepared.answers, prepared.ready,
      ⟨prepared.stable.cacheline, prepared.stable.wrap⟩, prepared.numCores,
      prepared.startable⟩
  · rw [after]
    exact ⟨prepared.src, prepared.cached, prepared.answers, prepared.ready,
      ⟨prepared.stable.cacheline, prepared.stable.wrap⟩, prepared.numCores,
      fun stopped => by cases stopped⟩

theorem Prepared.served_flags
    (prepared : Prepared cacheline numCores type callback wrap dram)
    (sim : Simulator κ) (addrs rest : List Int) :
    (Dram.served closure type coreId wrap (⟨sim, dram⟩ : Device κ engine)
      addrs).dram.flags type
      coreId wrap rest = (dram.issued type coreId wrap addrs).flags type coreId
        wrap rest := by
  obtain ⟨completed, delivered, after | after⟩ :=
    served_dram closure type coreId wrap sim dram prepared.startable addrs
  · rw [after]
    rfl
  · rw [after]
    rfl

theorem Prepared.noted (prepared : Prepared cacheline numCores type callback wrap dram)
    (submission : Submission γ) :
    Prepared cacheline numCores type callback wrap (dram.noted submission) :=
  ⟨prepared.src, prepared.cached, prepared.answers, prepared.ready, prepared.stable,
    prepared.numCores, prepared.startable⟩

end Kept

/-! ## The first call -/

section Prepare

variable [DecidableEq γ] (type : RequestType) (callback : Option γ)

def prepared (dram : Dram engine) : Dram engine :=
  let (wrap, base) := dram.collector callback
  if type = .write then base else { base with mem := (base.mem.readCb (some wrap)).2 }

variable {callback} {cacheline numCores : Int} {dram : Dram engine}

theorem prepared_prepared (cached : dram.Cached) (stable : dram.mem.Stable cacheline)
    (cores : dram.mem.numCores = numCores)
    (startable : dram.ticking = false → dram.idleTicking = true →
      dram.idleEventId ≠ none) :
    Prepared cacheline numCores type callback (dram.collector callback).1
      (dram.prepared type callback) := by
  have answers := collector_callback cached callback
  have held : (dram.collector callback).2.collectorSrc = callback ∧
      (dram.collector callback).2.collectorWrap = some (dram.collector callback).1 := by
    unfold collector
    split
    · rename_i wrap known
      split
      · rename_i same
        exact ⟨same.symm, known⟩
      · exact ⟨rfl, rfl⟩
    · exact ⟨rfl, rfl⟩
  obtain ⟨src, cache, count, eq⟩ := collector_eq dram callback
  have mem : (dram.collector callback).2.mem = dram.mem := by rw [eq]
  unfold prepared
  by_cases write : type = .write
  · simp only [if_pos write]
    refine ⟨held.1, held.2, answers, fun read => ?_, mem ▸ stable, mem ▸ cores, ?_⟩
    · rw [write] at read
      cases read
    · rw [eq]
      exact startable
  · obtain ⟨-, kept, -⟩ :=
      MemorySystem.readCb_stable stable (some (dram.collector callback).1)
    have ready : (dram.mem.readCb (some (dram.collector callback).1)).2.readCbSrc =
        some (dram.collector callback).1 := by
      simp only [MemorySystem.readCb]
      split
      · rename_i same
        exact same
      · rfl
    have numbered : (dram.mem.readCb (some (dram.collector callback).1)).2.numCores =
        numCores := by
      obtain ⟨src, cache, read⟩ :=
        MemorySystem.readCb_cases stable (some (dram.collector callback).1)
      rw [read]
      exact cores
    simp only [if_neg write]
    refine ⟨held.1, held.2, answers, fun _ => ?_, ?_, ?_, ?_⟩
    · rw [mem]
      exact ready
    · rw [mem]
      exact kept
    · rw [mem]
      exact numbered
    · rw [eq]
      exact startable

omit [DecidableEq γ] in
theorem onMem_mem [DecidableEq γ] {op : MemoryOp (Collector γ)}
    {mem : MemorySystem engine}
    (sim : Simulator κ) (dram : Dram engine) (same : op.begin dram.mem = op.begin mem) :
    Device.onMem op (⟨sim, dram⟩ : Device κ engine) =
      Device.onMem op ⟨sim, { dram with mem }⟩ := by
  simp only [Device.onMem, same]

theorem method_prepared (closure : DramEvent γ → κ) (sim : Simulator κ) {coreId : Int}
    {request : DramRequest γ} (of : request.Of type callback coreId)
    (valid : dram.mem.checkCoreId coreId = .ok ())
    (prepared : Prepared cacheline numCores type callback (dram.collector callback).1
      (dram.prepared type callback)) :
    method closure request (⟨sim, dram⟩ : Device κ engine) =
      method closure request ⟨sim, dram.prepared type callback⟩ := by
  have begun : Device.onMem (request.op (dram.collector callback).1)
      (⟨sim, (dram.collector callback).2⟩ : Device κ engine) =
        Device.onMem (request.op (dram.collector callback).1)
          ⟨sim, dram.prepared type callback⟩ := by
    unfold Dram.prepared
    by_cases write : type = .write
    · simp only [if_pos write]
    · simp only [if_neg write]
      apply onMem_mem
      obtain ⟨src, cache, count, eq⟩ := collector_eq dram callback
      have mem : (dram.collector callback).2.mem = dram.mem := by rw [eq]
      rw [mem]
      obtain ⟨one, all⟩ :=
        MemorySystem.reads_readCb (some (dram.collector callback).1) valid
      have read : request.type ≠ .write := of.type ▸ write
      obtain ⟨kind, named, core⟩ := of
      cases request with
      | read addr cb number =>
          obtain rfl : number = coreId := core
          exact (one addr).symm
      | reads addrs cb number =>
          obtain rfl : number = coreId := core
          exact (all addrs).symm
      | write => exact absurd rfl read
      | writes => exact absurd rfl read
  rw [DramRequest.method_eq]
  simp only [Dram.request, Method.bind_apply, Method.get_apply,
    Device.assign_apply, of.callback, prepared.collector, begun]

omit [DecidableEq γ] in
theorem prepared_mem [DecidableEq γ] (type : RequestType) (callback : Option γ)
    (dram : Dram engine) :
    (dram.prepared type callback).mem.impl = dram.mem.impl ∧
      (dram.prepared type callback).mem.clk = dram.mem.clk := by
  obtain ⟨src, cache, count, eq⟩ := collector_eq dram callback
  have mem : (dram.collector callback).2.mem = dram.mem := by rw [eq]
  unfold prepared
  by_cases write : type = .write
  · simp only [if_pos write, mem, and_self]
  · simp only [if_neg write, mem, MemorySystem.readCb]
    split <;> exact ⟨rfl, rfl⟩

theorem submit_prepared (closure : DramEvent γ → κ) (sim : Simulator κ) {coreId : Int}
    {request : DramRequest γ} (of : request.Of type callback coreId)
    (valid : dram.mem.checkCoreId coreId = .ok ())
    (prepared : Prepared cacheline numCores type callback (dram.collector callback).1
      (dram.prepared type callback)) :
    submit closure request (⟨sim, dram⟩ : Device κ engine) =
      submit closure request ⟨sim, dram.prepared type callback⟩ := by
  obtain ⟨impl, clk⟩ := prepared_mem type callback dram
  simp only [submit, method_prepared type closure sim of valid prepared,
    impl, cycles, clk]

end Prepare

end Dram

end Pyramulator
