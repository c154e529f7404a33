import Pyramulator.Dram.Lawful
import Pyramulator.Memory.Passage

namespace Pyramulator

/-! What a request method does, to the engine, to the deque and to the caches. -/

def MemoryValue.accepts : MemoryValue → List Bool
  | .flag accepted => [accepted]
  | .flags accepted => accepted
  | .count _ => []

theorem Dram.anyAccepted_eq (value : MemoryValue) :
    anyAccepted value = value.accepts.any id := by
  cases value <;> simp [anyAccepted, MemoryValue.accepts]

namespace DramRequest

variable {γ : Type}

def type : DramRequest γ → RequestType
  | .read _ _ _ | .reads _ _ _ => .read
  | .write _ _ _ | .writes _ _ _ => .write

def addrs : DramRequest γ → List Int
  | .read addr _ _ | .write addr _ _ => [addr]
  | .reads addrs _ _ | .writes addrs _ _ => addrs

def callback : DramRequest γ → Option γ
  | .read _ callback _ | .write _ callback _ => callback
  | .reads _ callback _ | .writes _ callback _ => callback

def coreId : DramRequest γ → Int
  | .read _ _ coreId | .write _ _ coreId => coreId
  | .reads _ _ coreId | .writes _ _ coreId => coreId

def op (request : DramRequest γ) (wrap : Collector γ) : MemoryOp (Collector γ) :=
  match request with
  | .read addr _ coreId => .send addr .read coreId (some wrap)
  | .write addr _ coreId => .send addr .write coreId (some wrap)
  | .reads addrs _ coreId => .sendBatch addrs .read coreId (some wrap)
  | .writes addrs _ coreId => .sendBatch addrs .write coreId (some wrap)

def sent (request : DramRequest γ) (wrap : Collector γ) (addr : Int) :
    Request (DramCallback γ) :=
  ⟨addr, request.type, request.coreId,
    PyMemorySystem.makeCallback request.type
      (if request.type = .write then none else some ⟨wrap⟩) request.coreId⟩

def taken (sends : List (Int × Bool)) : List Int :=
  sends.filterMap fun (addr, ok) => if ok then some addr else none

theorem taken_eq (sends : List (Int × Bool)) : taken sends = acceptedOf sends := by
  rw [taken, acceptedOf, ← List.filterMap_eq_map, List.filterMap_filter]
  rfl

def answers (request : DramRequest γ) (clk : Int) (callback : Option γ)
    (sends : List (Int × Bool)) : List (RequestInfo × Option γ) :=
  if request.type = .write then
    (taken sends).map fun addr => (⟨addr, .write, clk, clk, request.coreId⟩, callback)
  else []

theorem method_eq [DecidableEq γ] {κ : Type} {engine : Engine (DramCallback γ)}
    (closure : DramEvent γ → κ) (request : DramRequest γ) :
    (Dram.method closure request : Device.Call κ engine MemoryValue) =
      Dram.request closure request.op (request.type = .write) request.callback := by
  cases request <;> rfl

end DramRequest

namespace MemorySystem

variable {γ : Type} {engine : Engine (CppCallback (ReadWrap γ))}

/-- How far a send comes, with the requests that went to the engine: it raises, or
it has the accept flags, and for writes the accepted ones are still to be
answered. -/
def Sends (cacheline : Int) (mem : MemorySystem engine)
    (addrs : List Int) (type : RequestType) (coreId : Int) (userCb : γ)
    (value : List Bool → MemoryValue) (result : Begun γ × MemorySystem engine) : Prop :=
  result.2.clk = mem.clk ∧ result.2.Stable cacheline ∧
    ∃ sends, PyMemorySystem.Sending
        (fun addr => ⟨addr, type, coreId, PyMemorySystem.makeCallback type
          (if type = .write then none else some ⟨userCb⟩) coreId⟩) mem.impl result.2.impl
            addrs sends ∧
      ((∃ error, result.1 = .raised error) ∨ sends.map Prod.fst = addrs ∧
        result.1 = if type = .write then
            .writes (DramRequest.taken sends) coreId userCb (value (sends.map Prod.snd))
          else .returned (value (sends.map Prod.snd)))

variable {cacheline : Int} {mem : MemorySystem engine}

theorem Issues.sends {addrs reach : List Int} {type : RequestType}
    {coreId : Int} {userCb : γ}
    {value : List Bool → MemoryValue} {result : Begun γ × MemorySystem engine}
    {sends : List (Int × Bool)}
    (issues : Issues cacheline mem addrs reach type coreId (some userCb) value
      result sends) :
    Sends cacheline mem addrs type coreId userCb value result := by
  have ignored : PyMemorySystem.makeCallback type
      (if type = .write then none else some (ReadWrap.mk userCb)) coreId =
        PyMemorySystem.makeCallback type (some ⟨userCb⟩) coreId := by
    cases type <;> rfl
  refine ⟨issues.clk, issues.stable, sends, by rw [ignored]; exact issues.sending, ?_⟩
  rw [DramRequest.taken_eq]
  exact issues.result

variable [DecidableEq γ]

theorem send_sends (stable : mem.Stable cacheline) (addr : Int) (type : RequestType)
    (coreId : Int) (userCb : γ) :
    Sends cacheline mem [addr] type coreId userCb
      (fun flags => .flag (flags.headD false))
        (mem.send addr type coreId (some userCb)) := by
  obtain ⟨sends, issues⟩ := send_issues stable addr type coreId (some userCb)
  exact issues.sends

theorem sendBatch_sends (stable : mem.Stable cacheline) (addrs : List Int)
    (type : RequestType) (coreId : Int) (userCb : γ)
    (known : type = .read ∨ type = .write) :
    Sends cacheline mem addrs type coreId userCb .flags
      (mem.sendBatch addrs type coreId (some userCb)) := by
  obtain ⟨sends, issues⟩ := sendBatch_issues stable addrs type coreId (some userCb)
  have same : batchType type = type := by rcases known with rfl | rfl <;> rfl
  exact (same ▸ issues).sends

end MemorySystem

namespace Dram

variable {γ κ : Type} {engine : Engine (DramCallback γ)} [DecidableEq γ]

/-- What a request does to the memory: requests are sent, and the call returns
their accept flags and answers the accepted writes, or it raises. -/
structure Sent (cacheline : Int) (sim : Simulator κ)
    (dram : Dram engine) (request : DramRequest γ) (wrap : Collector γ)
    (mem : MemorySystem engine) (sends : List (Int × Bool)) : Prop where
  sending : PyMemorySystem.Sending (request.sent wrap) dram.mem.impl mem.impl
    request.addrs sends
  clk : mem.clk = dram.mem.clk
  stable : mem.Stable cacheline
  result : (∃ error, Device.onMem (request.op wrap) (⟨sim, dram⟩ : Device κ engine) =
      (.error error, ⟨sim, { dram with mem }⟩)) ∨
    ∃ value, value.accepts = sends.map Prod.snd ∧ sends.map Prod.fst = request.addrs ∧
      Device.onMem (request.op wrap) (⟨sim, dram⟩ : Device κ engine) =
        (.ok value, ⟨sim, { dram with
          mem
          completed := dram.completed ++
            request.answers dram.mem.clk wrap.callback sends }⟩)

theorem onMem_refused {sim : Simulator κ} {dram : Dram engine}
    (op : MemoryOp (Collector γ)) {error : PyError} {mem : MemorySystem engine}
    (raised : op.begin dram.mem = (.raised error, mem)) :
    Device.onMem op (⟨sim, dram⟩ : Device κ engine) =
      (.error error, ⟨sim, { dram with mem }⟩) := by
  simp only [Device.onMem, raised]

theorem onMem_returned {sim : Simulator κ} {dram : Dram engine}
    (op : MemoryOp (Collector γ)) {value : MemoryValue} {mem : MemorySystem engine}
    (returned : op.begin dram.mem = (.returned value, mem)) :
    Device.onMem op (⟨sim, dram⟩ : Device κ engine) =
      (.ok value, ⟨sim, { dram with mem }⟩) := by
  simp only [Device.onMem, returned]

theorem onMem_writes {sim : Simulator κ} {dram : Dram engine}
    (op : MemoryOp (Collector γ)) {addrs : List Int} {coreId : Int}
    {wrap : Collector γ} {value : MemoryValue} {mem : MemorySystem engine}
    (writes : op.begin dram.mem = (.writes addrs coreId wrap value, mem)) :
    Device.onMem op (⟨sim, dram⟩ : Device κ engine) =
      (.ok value, ⟨sim, { dram with
        mem
        completed := dram.completed ++ addrs.map fun addr =>
          (mem.writeInfo addr coreId, wrap.callback) }⟩) := by
  simp only [Device.onMem, writes]

theorem onMem_sent {cacheline : Int} (sim : Simulator κ)
    {dram : Dram engine} (stable : dram.mem.Stable cacheline)
    (request : DramRequest γ) (wrap : Collector γ) :
    ∃ mem sends, Sent cacheline sim dram request wrap mem sends := by
  have each {value : List Bool → MemoryValue}
      (accepts : ∀ flags, flags.length = request.addrs.length →
        (value flags).accepts = flags)
      (sends : MemorySystem.Sends cacheline dram.mem request.addrs request.type
        request.coreId wrap value ((request.op wrap).begin dram.mem)) :
      ∃ mem sends, Sent cacheline sim dram request wrap mem sends := by
    obtain ⟨clk, stable, sends, sending, result⟩ := sends
    rcases shape : (request.op wrap).begin dram.mem with ⟨begun, mem⟩
    rw [shape] at clk stable sending result
    refine ⟨mem, sends, sending, clk, stable, ?_⟩
    rcases result with ⟨error, rfl⟩ | ⟨all, returned⟩
    · exact .inl ⟨error, onMem_refused _ shape⟩
    · refine .inr ⟨value (sends.map Prod.snd), accepts _ ?_, all, ?_⟩
      · rw [← all, List.length_map, List.length_map]
      · simp only at returned
        by_cases write : request.type = .write
        · rw [if_pos write] at returned
          rw [onMem_writes _ (shape.trans (by rw [returned]))]
          simp only [MemorySystem.writeInfo, DramRequest.answers, if_pos write] at clk ⊢
          rw [clk]
        · rw [if_neg write] at returned
          rw [onMem_returned _ (shape.trans (by rw [returned]))]
          simp only [DramRequest.answers, if_neg write, List.append_nil]
  have alone : ∀ flags : List Bool, flags.length = 1 →
      (MemoryValue.flag (flags.headD false)).accepts = flags := by
    intro flags length
    obtain ⟨flag, rfl⟩ := List.length_eq_one_iff.mp length
    rfl
  cases request with
  | read addr callback coreId =>
      exact each alone (MemorySystem.send_sends stable addr .read coreId wrap)
  | write addr callback coreId =>
      exact each alone (MemorySystem.send_sends stable addr .write coreId wrap)
  | reads addrs callback coreId =>
      exact each (fun _ _ => rfl)
        (MemorySystem.sendBatch_sends stable addrs .read coreId wrap (.inl rfl))
  | writes addrs callback coreId =>
      exact each (fun _ _ => rfl)
        (MemorySystem.sendBatch_sends stable addrs .write coreId wrap (.inr rfl))

def Cached (dram : Dram engine) : Prop :=
  ∀ wrap, dram.collectorWrap = some wrap → wrap.callback = dram.collectorSrc

theorem collector_callback {dram : Dram engine} (cached : dram.Cached)
    (callback : Option γ) : (dram.collector callback).1.callback = callback := by
  unfold collector
  split
  · rename_i wrap known
    split
    · rename_i same
      rw [cached wrap known, same]
    · rfl
  · rfl

theorem collector_cached {dram : Dram engine} (cached : dram.Cached)
    (callback : Option γ) : (dram.collector callback).2.Cached := by
  unfold collector
  split
  · split
    · exact cached
    · exact fun wrap known => by cases known; rfl
  · exact fun wrap known => by cases known; rfl

theorem collector_eq (dram : Dram engine) (callback : Option γ) :
    ∃ src wrap count, (dram.collector callback).2 = { dram with
      collectorSrc := src, collectorWrap := wrap, collectors := count } := by
  unfold collector
  split
  · split
    · exact ⟨_, _, _, rfl⟩
    · exact ⟨_, _, _, rfl⟩
  · exact ⟨_, _, _, rfl⟩

def noted (submission : Submission γ) (dram : Dram engine) : Dram engine :=
  { dram with submitted := dram.submitted ++ [submission] }

section Submit

variable (closure : DramEvent γ → κ) (sim : Simulator κ)

/-- How a call of a request method ends: it raised, no request was accepted, or
some were and the component ticks. -/
inductive Submits (base : Dram engine) (request : DramRequest γ)
    (mem : MemorySystem engine) (sends : List (Int × Bool))
    (submission : Submission γ) :
    Except PyError MemoryValue × Device κ engine → Prop
  | raised (error : PyError) :
      Submits base request mem sends submission
        (.error error, ⟨sim, { base with mem }.noted submission⟩)
  | rejected (value : MemoryValue) (accepts : value.accepts = sends.map Prod.snd)
      (all : sends.map Prod.fst = request.addrs)
      (allRefused : ∀ send ∈ sends, send.2 = false) :
      Submits base request mem sends submission
        (.ok value, ⟨sim, { base with mem }.noted submission⟩)
  | accepted (value : MemoryValue) (accepts : value.accepts = sends.map Prod.snd)
      (all : sends.map Prod.fst = request.addrs)
      (someTaken : ∃ send ∈ sends, send.2 = true)
      (handed rest : List (RequestInfo × Option γ))
      (answered : base.completed = [] → rest = [] ∧
        handed = request.answers base.mem.clk request.callback sends)
      (started : Except PyError Unit × Device κ engine)
      (ticking : startTicking closure
        ⟨handOver closure base.completionPriority sim handed,
          { base with
            mem
            completed := rest
            delivered := base.delivered ++ deliveries sim.now handed }⟩ = started) :
      Submits base request mem sends submission
        (started.1.map fun _ => value,
          ⟨started.2.sim, started.2.dram.noted submission⟩)

omit [DecidableEq γ] in
theorem startTicking_mem (device : Device κ engine) :
    (startTicking closure device).2.dram.mem = device.dram.mem := by
  rcases device with ⟨sim, dram⟩
  by_cases busy : dram.ticking = true
  · rw [startTicking_busy closure sim dram busy]
  · have stopped : dram.ticking = false := by simpa using busy
    by_cases idle : dram.idleTicking = true
    · cases scheduled : dram.idleEventId with
      | none => rw [startTicking_lost closure sim dram stopped idle scheduled]
      | some eventId =>
          rw [startTicking_idle closure sim dram stopped idle scheduled]
          rfl
    · rw [startTicking_stopped closure sim dram stopped (by simpa using idle)]
      rfl

omit [DecidableEq γ] in
theorem accepted_sends (proto : Int → Request (DramCallback γ))
    (sends : List (Int × Bool)) :
    Wire.accepted (sends.map fun send => .sent (proto send.1) send.2) =
      (DramRequest.taken sends).map proto := by
  rw [Wire.accepted_sends, DramRequest.taken_eq]

theorem submit_eq (request : DramRequest γ) (dram : Dram engine) :
    let called := method closure request (⟨sim, dram⟩ : Device κ engine)
    submit closure request (⟨sim, dram⟩ : Device κ engine) =
      (called.1, ⟨called.2.sim, called.2.dram.noted
        ⟨sim.now, dram.cycles, request, called.1, Wire.accepted
          (called.2.dram.mem.impl.wire.drop dram.mem.impl.wire.length)⟩⟩) := rfl

section Method

variable (request : DramRequest γ) (dram : Dram engine)

theorem method_raised {error : PyError} {after : Device κ engine}
    (sent : Device.onMem (request.op (dram.collector request.callback).1)
      (⟨sim, (dram.collector request.callback).2⟩ : Device κ engine) =
        (.error error, after)) :
    method closure request ⟨sim, dram⟩ = (.error error, after) := by
  rw [DramRequest.method_eq]
  simp only [Dram.request, Method.bind_apply, Method.get_apply, Device.assign_apply,
    sent]

theorem method_rejected {value : MemoryValue} {after : Device κ engine}
    (sent : Device.onMem (request.op (dram.collector request.callback).1)
      (⟨sim, (dram.collector request.callback).2⟩ : Device κ engine) =
        (.ok value, after)) (rejected : anyAccepted value = false) :
    method closure request ⟨sim, dram⟩ = (.ok value, after) := by
  rw [DramRequest.method_eq]
  simp only [Dram.request, Method.bind_apply, Method.get_apply, Device.assign_apply,
    sent, rejected]
  rfl

theorem method_read {value : MemoryValue} {after : Device κ engine}
    (sent : Device.onMem (request.op (dram.collector request.callback).1)
      (⟨sim, (dram.collector request.callback).2⟩ : Device κ engine) =
        (.ok value, after)) (accepted : anyAccepted value = true)
    (read : request.type ≠ .write) :
    method closure request ⟨sim, dram⟩ =
      ((startTicking closure after).1.map fun _ => value,
        (startTicking closure after).2) := by
  rw [DramRequest.method_eq]
  simp only [Dram.request, Method.bind_apply, Method.get_apply, Device.assign_apply,
    sent, accepted, read, decide_false, if_true, Bool.false_eq_true, if_false,
    Method.pure_apply]
  rcases startTicking closure after with ⟨_ | _, _⟩ <;> rfl

theorem method_write {value : MemoryValue} {after : Dram engine}
    (sent : Device.onMem (request.op (dram.collector request.callback).1)
      (⟨sim, (dram.collector request.callback).2⟩ : Device κ engine) =
        (.ok value, ⟨sim, after⟩)) (accepted : anyAccepted value = true)
    (write : request.type = .write) :
    let device : Device κ engine :=
      ⟨handOver closure after.completionPriority sim after.completed,
        after.handedOver sim.now⟩
    method closure request ⟨sim, dram⟩ =
      ((startTicking closure device).1.map fun _ => value,
        (startTicking closure device).2) := by
  intro device
  rw [DramRequest.method_eq]
  simp only [Dram.request, Method.bind_apply, Method.get_apply, Device.assign_apply,
    sent, accepted, write, decide_true, if_true, deliverCompleted_eq,
    Method.pure_apply]
  rcases startTicking closure device with ⟨_ | _, _⟩ <;> rfl

end Method

theorem submit_submits {cacheline : Int} {dram : Dram engine}
    (stable : dram.mem.Stable cacheline) (cached : dram.Cached)
    (request : DramRequest γ) :
    let wrap := (dram.collector request.callback).1
    let base := (dram.collector request.callback).2
    let called := submit closure request (⟨sim, dram⟩ : Device κ engine)
    ∃ mem sends, Sent cacheline sim base request wrap mem sends ∧
      Submits closure sim base request mem sends
        ⟨sim.now, dram.cycles, request, called.1,
          (DramRequest.taken sends).map (request.sent wrap)⟩ called := by
  intro wrap base called
  have same : base.mem = dram.mem := by
    obtain ⟨src, cache, count, eq⟩ := collector_eq dram request.callback
    simp only [base, eq]
  have answering : wrap.callback = request.callback := collector_callback cached _
  obtain ⟨mem, sends, sent⟩ := onMem_sent sim (same ▸ stable) request wrap
  refine ⟨mem, sends, sent, ?_⟩
  have passed : Wire.accepted (mem.impl.wire.drop dram.mem.impl.wire.length) =
      (DramRequest.taken sends).map (request.sent wrap) := by
    rw [sent.sending.wire, same, List.drop_left, accepted_sends]
  have noted := submit_eq closure sim request dram
  rcases sent.result with ⟨error, raised⟩ | ⟨value, accepts, all, returned⟩
  · simp only [method_raised closure sim request dram raised, passed] at noted
    change called = _ at noted
    rw [noted]
    exact .raised error
  · rw [answering] at returned
    by_cases accepted : anyAccepted value = true
    · have someTaken : ∃ send ∈ sends, send.2 = true := by
        rw [anyAccepted_eq, accepts, List.any_map, List.any_eq_true] at accepted
        exact accepted
      by_cases write : request.type = .write
      · have written := method_write closure sim request dram returned accepted write
        simp only [written, startTicking_mem, handedOver, passed] at noted
        change called = _ at noted
        rw [noted]
        exact .accepted value accepts all someTaken (base.completed ++ _) []
          (fun completed => ⟨rfl, by rw [completed, List.nil_append]⟩) _ rfl
      · have read := method_read closure sim request dram returned accepted write
        simp only [read, startTicking_mem, passed] at noted
        change called = _ at noted
        rw [noted]
        have unanswered : request.answers base.mem.clk request.callback sends = [] :=
          if_neg write
        refine .accepted value accepts all someTaken [] base.completed
          (fun completed => ⟨completed, unanswered.symm⟩) _ ?_
        rw [unanswered, List.append_nil]
        simp only [handOver, deliveries, List.map_nil, List.append_nil]
    · have allRefused : ∀ send ∈ sends, send.2 = false := by
        rw [anyAccepted_eq, accepts, List.any_map] at accepted
        simpa using accepted
      have nothing : DramRequest.taken sends = [] := by
        simp only [DramRequest.taken, List.filterMap_eq_nil_iff]
        intro send member
        simp [allRefused send member]
      have unanswered : request.answers base.mem.clk request.callback sends = [] := by
        simp [DramRequest.answers, nothing]
      have refused :=
        method_rejected closure sim request dram returned (by simpa using accepted)
      simp only [refused, passed] at noted
      change called = _ at noted
      rw [noted]
      rw [unanswered, List.append_nil]
      exact .rejected value accepts all allRefused

end Submit

end Dram

end Pyramulator
