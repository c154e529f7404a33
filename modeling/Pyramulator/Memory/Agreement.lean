import Pyramulator.Memory.BulkSends

namespace Pyramulator

/-! A session does not depend on the cache of `_read_cb`. -/

variable {γ : Type} {engine : Engine (CppCallback (ReadWrap γ))} {cacheline : Int}

namespace MemorySystem

/-- Memories that differ in the cache of `_read_cb` only. -/
structure Alike (cacheline : Int) (first second : MemorySystem engine) : Prop where
  uncached : first.uncached = second.uncached
  first : first.Stable cacheline
  second : second.Stable cacheline

namespace Alike

variable {first second : MemorySystem engine}

theorem impl (alike : Alike cacheline first second) : first.impl = second.impl := by
  have same := congrArg MemorySystem.impl alike.uncached
  exact same

theorem clk (alike : Alike cacheline first second) : first.clk = second.clk := by
  have same := congrArg MemorySystem.clk alike.uncached
  exact same

theorem writeInfo (alike : Alike cacheline first second) (addr coreId : Int) :
    first.writeInfo addr coreId = second.writeInfo addr coreId := by
  simp only [MemorySystem.writeInfo, alike.clk]

theorem moved (alike : Alike cacheline first second) (clk : Int) :
    Alike cacheline { first with clk } { second with clk } where
  uncached := congrArg (fun mem : MemorySystem engine => { mem with clk }) alike.uncached
  first := alike.first.moved _ _
  second := alike.second.moved _ _

end Alike

variable [DecidableEq γ] {mem : MemorySystem engine}

theorem begin_uncached (stable : mem.Stable cacheline) (op : MemoryOp γ) :
    (op.begin mem.uncached).1 = (op.begin mem).1 ∧
      (op.begin mem.uncached).2.uncached = (op.begin mem).2.uncached := by
  have bare : mem.uncached.Stable cacheline := ⟨stable.cacheline, rfl⟩
  have progressed (progress : PyMemorySystem.Progress engine) :
      (mem.uncached.progress progress).1 = (mem.progress progress).1 ∧
        (mem.uncached.progress progress).2.uncached =
          (mem.progress progress).2.uncached := by
    rcases progress with ⟨error | ⟨cycles, events⟩, impl⟩
    · exact ⟨rfl, rfl⟩
    · exact ⟨rfl, rfl⟩
  have driven (driven : PyMemorySystem.Driven engine) (firstSrc secondSrc : Option γ)
      (firstCache secondCache : Option (ReadWrap γ)) :
      let first := { mem with readCbSrc := firstSrc, readCbWrap := firstCache }
      let second := { mem with readCbSrc := secondSrc, readCbWrap := secondCache }
      (first.driven driven).1 = (second.driven driven).1 ∧
        (first.driven driven).2.uncached = (second.driven driven).2.uncached := by
    rcases driven with ⟨error | ⟨cycles, issued, events⟩, impl⟩
    · exact ⟨rfl, rfl⟩
    · exact ⟨rfl, rfl⟩
  cases op with
  | send addr type coreId callback =>
      obtain ⟨src, cache, read⟩ := readCb_cases stable callback
      obtain ⟨bareSrc, bareCache, bareRead⟩ := readCb_cases bare callback
      simp only [MemoryOp.begin, MemorySystem.send, uncached_checkCoreId,
        uncached_impl, read, bareRead]
      split
      · exact ⟨rfl, rfl⟩
      · split
        · split <;> exact ⟨rfl, rfl⟩
        · split <;> exact ⟨rfl, rfl⟩
  | sendBatch addrs type coreId callback =>
      obtain ⟨src, cache, read⟩ := readCb_cases stable callback
      obtain ⟨bareSrc, bareCache, bareRead⟩ := readCb_cases bare callback
      simp only [MemoryOp.begin, MemorySystem.sendBatch, uncached_checkCoreId,
        uncached_impl, read, bareRead]
      split
      · exact ⟨rfl, rfl⟩
      · split
        · split <;> exact ⟨rfl, rfl⟩
        · split <;> exact ⟨rfl, rfl⟩
  | sendRange start count stride type coreId callback =>
      obtain ⟨src, cache, read⟩ := readCb_cases stable callback
      obtain ⟨bareSrc, bareCache, bareRead⟩ := readCb_cases bare callback
      simp only [MemoryOp.begin, MemorySystem.sendRange, uncached_checkCoreId,
        uncached_impl, uncached_cacheline, read, bareRead]
      split
      · exact ⟨rfl, rfl⟩
      · split
        · split <;> exact ⟨rfl, rfl⟩
        · split <;> exact ⟨rfl, rfl⟩
  | tick => exact ⟨rfl, rfl⟩
  | run cycles => exact progressed _
  | tickUntilProgress maxCycles =>
      simp only [MemoryOp.begin, MemorySystem.tickUntilProgress]
      split
      · exact ⟨rfl, rfl⟩
      · exact progressed _
  | runUntilIdle maxCycles => exact progressed _
  | flush maxCycles => exact progressed _
  | drive addrs queueDepth batch maxCycles callback =>
      obtain ⟨src, cache, read⟩ := readCb_cases stable callback
      obtain ⟨bareSrc, bareCache, bareRead⟩ := readCb_cases bare callback
      simp only [MemoryOp.begin, MemorySystem.drive, read, bareRead]
      exact driven _ _ _ _ _
  | driveRange start count stride queueDepth batch maxCycles callback =>
      obtain ⟨src, cache, read⟩ := readCb_cases stable callback
      obtain ⟨bareSrc, bareCache, bareRead⟩ := readCb_cases bare callback
      simp only [MemoryOp.begin, MemorySystem.driveRange, read, bareRead]
      exact driven _ _ _ _ _

theorem Alike.begin {first second : MemorySystem engine}
    (alike : Alike cacheline first second) (op : MemoryOp γ) :
    (op.begin first).1 = (op.begin second).1 ∧
      Alike cacheline (op.begin first).2 (op.begin second).2 := by
  obtain ⟨firstBegun, firstMem⟩ := begin_uncached alike.first op
  obtain ⟨secondBegun, secondMem⟩ := begin_uncached alike.second op
  rw [alike.uncached] at firstBegun firstMem
  exact ⟨firstBegun.symm.trans secondBegun, firstMem.symm.trans secondMem,
    alike.first.begin op, alike.second.begin op⟩

end MemorySystem

namespace Session

/-- Sessions whose memories are alike, with the same methods in progress. -/
structure Alike (cacheline : Int) (first second : Session engine) : Prop where
  mem : MemorySystem.Alike cacheline first.mem second.mem
  stack : first.stack = second.stack

def Notes (first second later other : Session engine) : Prop :=
  ∃ more, later.log = first.log ++ more ∧ other.log = second.log ++ more

theorem Notes.refl (first second : Session engine) : Notes first second first second :=
  ⟨[], (List.append_nil _).symm, (List.append_nil _).symm⟩

theorem Notes.trans {first second later other last final : Session engine}
    (one : Notes first second later other) (two : Notes later other last final) :
    Notes first second last final := by
  obtain ⟨more, same, otherSame⟩ := one
  obtain ⟨rest, last, final⟩ := two
  exact ⟨more ++ rest, by rw [last, same, List.append_assoc],
    by rw [final, otherSame, List.append_assoc]⟩

variable [DecidableEq γ]

theorem Alike.call {first second : Session engine} (alike : Alike cacheline first second)
    (op : MemoryOp γ) :
    Alike cacheline (first.call op) (second.call op) ∧
      Notes first second (first.call op) (second.call op) := by
  obtain ⟨same, after⟩ := alike.mem.begin op
  unfold Session.call
  rcases firstBegun : op.begin first.mem with ⟨begun, firstMem⟩
  rcases secondBegun : op.begin second.mem with ⟨other, secondMem⟩
  rw [firstBegun, secondBegun] at same after
  obtain rfl : begun = other := same
  have impl : firstMem.impl = secondMem.impl := after.impl
  simp only [alike.mem.impl, impl, alike.stack]
  cases begun with
  | raised error => exact ⟨⟨after, rfl⟩, _, rfl, rfl⟩
  | returned value => exact ⟨⟨after, rfl⟩, _, rfl, rfl⟩
  | dispatch events ending => exact ⟨⟨after, rfl⟩, .refl _ _⟩
  | writes addrs coreId callback value => exact ⟨⟨after, rfl⟩, .refl _ _⟩

theorem Alike.advance {first second : Session engine}
    (alike : Alike cacheline first second) (decision : MemoryDecision γ) :
    Alike cacheline (first.advance decision) (second.advance decision) ∧
      Notes first second (first.advance decision) (second.advance decision) := by
  have called := alike.call
  obtain ⟨mem, stack⟩ := alike
  rcases first with ⟨firstMem, frames, firstLog⟩
  rcases second with ⟨secondMem, otherFrames, secondLog⟩
  obtain rfl : frames = otherFrames := stack
  have infos := mem.writeInfo
  simp only at mem infos
  rcases frames with _ | ⟨_ | _ | _, below⟩
  · cases decision with
    | call op => exact called op
    | return_ => exact ⟨⟨mem, rfl⟩, .refl _ _⟩
    | raise error => exact ⟨⟨mem, rfl⟩, .refl _ _⟩
  · rename_i call sent rest firstExc ending
    cases rest with
    | cons event rest => exact ⟨⟨mem, rfl⟩, _, rfl, rfl⟩
    | nil =>
        cases firstExc with
        | some error => exact ⟨⟨mem, rfl⟩, _, rfl, rfl⟩
        | none =>
            cases ending with
            | tick =>
                have moved := mem.moved (firstMem.clk + 1)
                refine ⟨⟨?_, rfl⟩, _, rfl, rfl⟩
                change MemorySystem.Alike cacheline
                  { firstMem with clk := firstMem.clk + 1 }
                  { secondMem with clk := secondMem.clk + 1 }
                rwa [← mem.clk]
            | value value => exact ⟨⟨mem, rfl⟩, _, rfl, rfl⟩
  · rename_i call rest coreId callback value
    cases rest with
    | cons addr rest =>
        simp only [Session.advance, invoke, infos]
        exact ⟨⟨mem, rfl⟩, _, rfl, rfl⟩
    | nil => exact ⟨⟨mem, rfl⟩, _, rfl, rfl⟩
  · cases decision with
    | call op => exact called op
    | return_ => exact ⟨⟨mem, rfl⟩, .refl _ _⟩
    | raise error =>
        rcases below with _ | ⟨_ | _ | _, below⟩
        · exact ⟨⟨mem, rfl⟩, .refl _ _⟩
        · exact ⟨⟨mem, rfl⟩, .refl _ _⟩
        · exact ⟨⟨mem, rfl⟩, _, rfl, rfl⟩
        · exact ⟨⟨mem, rfl⟩, .refl _ _⟩

theorem Alike.run {first second : Session engine} (alike : Alike cacheline first second)
    (decisions : List (MemoryDecision γ)) :
    let later := Transition.run Session.advance first decisions
    let other := Transition.run Session.advance second decisions
    Alike cacheline later other ∧ Notes first second later other := by
  induction decisions generalizing first second with
  | nil => exact ⟨alike, .refl _ _⟩
  | cons decision rest induction =>
      obtain ⟨next, noted⟩ := alike.advance decision
      obtain ⟨last, more⟩ := induction next
      exact ⟨last, noted.trans more⟩

end Session

/-! ## Calls whose callbacks only return -/

def Begun.rounds : Begun γ → Nat
  | .raised _ | .returned _ => 0
  | .dispatch events _ => 2 * events.length + 1
  | .writes addrs _ _ _ => 2 * addrs.length + 1

namespace Session

open MemorySystem (Issued acceptedAddrs answering)

def InUserCode : List (MemoryFrame engine) → Prop
  | [] | .user _ _ :: _ => True
  | _ => False

def results (session : Session engine) : List (Except PyError MemoryValue) :=
  session.ended.map fun entry => entry.2.2

def writeAnswers (mem : MemorySystem engine) (type : RequestType) (coreId : Int)
    (callback : Option γ) (addrs : List Int) (flags : List Bool) :
    List (γ × RequestInfo) :=
  match type, callback with
  | .write, some userCb =>
      (acceptedAddrs addrs flags).map fun addr => (userCb, mem.writeInfo addr coreId)
  | _, _ => []

variable [DecidableEq γ]

def perform (session : Session engine) (op : MemoryOp γ) : Session engine :=
  Transition.run advance session
    (.call op :: List.replicate (op.begin session.mem).1.rounds .return_)

def performAll (session : Session engine) (ops : List (MemoryOp γ)) : Session engine :=
  ops.foldl perform session

structure Sent (session after : Session engine) (type : RequestType) (coreId : Int)
    (callback : Option γ) (addrs : List Int) (flags : List Bool)
    (results : List (Except PyError MemoryValue)) : Prop where
  stack : after.stack = session.stack
  sent : session.mem.sendAll type coreId callback addrs = (flags, after.mem.impl)
  mem : after.mem.uncached = { session.mem.uncached with impl := after.mem.impl }
  invocations : after.invocations = session.invocations ++
    writeAnswers session.mem type coreId callback addrs flags
  results : after.results = session.results ++ results

theorem run_writes (mem : MemorySystem engine) (call : MemoryCall engine)
    (addrs : List Int)
    (coreId : Int) (callback : γ) (value : MemoryValue)
    (below : List (MemoryFrame engine)) (log : List (MemoryEntry engine)) :
    Transition.run advance ⟨mem, .writes call addrs coreId callback value :: below, log⟩
        (List.replicate (2 * addrs.length + 1) .return_) =
      ⟨mem, below, log ++
        addrs.map (fun addr => .invoked callback (mem.writeInfo addr coreId)) ++
          [.ended call [] (.ok value)]⟩ := by
  induction addrs generalizing log with
  | nil =>
      rw [List.map_nil, List.append_nil]
      rfl
  | cons addr rest induction =>
      have more : 2 * (addr :: rest).length + 1 = 2 * rest.length + 1 + 1 + 1 := by
        rw [List.length_cons]
        omega
      rw [more, List.replicate_succ, List.replicate_succ, Transition.run_cons,
        Transition.run_cons]
      refine (induction _).trans ?_
      simp only [List.map_cons, List.append_assoc, List.cons_append]
      simp [Session.advance, invoke]

section

variable {session : Session engine} {type : RequestType} {coreId : Int}
  {callback : Option γ}

theorem advance_call (control : InUserCode session.stack) (op : MemoryOp γ) :
    session.advance (.call op) = session.call op := by
  rcases session with ⟨mem, _ | ⟨_ | _ | _, below⟩, log⟩
  · rfl
  · exact control.elim
  · exact control.elim
  · rfl

theorem perform_eq (control : InUserCode session.stack) {op : MemoryOp γ}
    {value : List Bool → MemoryValue} {addrs : List Int}
    (issued : Issued session.mem type coreId callback value addrs
      (op.begin session.mem)) :
    let flags := (session.mem.sendAll type coreId callback addrs).1
    session.perform op = ⟨(op.begin session.mem).2, session.stack, session.log ++
      (writeAnswers session.mem type coreId callback addrs flags).map
        (fun told => .invoked told.1 told.2) ++
          [.ended (session.newCall op) [] (.ok (value flags))]⟩ := by
  intro flags
  have clk : (op.begin session.mem).2.clk = session.mem.clk := by
    have same := congrArg MemorySystem.clk issued.mem
    exact same
  have begun := issued.begun
  rw [perform, Transition.run_cons, advance_call control]
  unfold Session.call newCall
  rcases started : op.begin session.mem with ⟨_, mem⟩
  rw [started] at begun clk
  obtain rfl := begun
  change mem.clk = session.mem.clk at clk
  have infos (addr : Int) :
      mem.writeInfo addr coreId = session.mem.writeInfo addr coreId := by
    simp only [MemorySystem.writeInfo, clk]
  by_cases write : type = .write
  · subst write
    cases callback with
    | none =>
        simp [answering, MemorySystem.fireWrites, writeAnswers, Begun.rounds,
          finish, flags]
    | some userCb =>
        simp only [answering, MemorySystem.fireWrites, Begun.rounds, if_true, run_writes]
        simp [writeAnswers, infos, flags]
  · have unwritten : writeAnswers session.mem type coreId callback addrs flags = [] := by
      cases type <;> first | rfl | contradiction
    simp [answering, write, unwritten, Begun.rounds, finish, flags]

theorem perform_sent (control : InUserCode session.stack) {op : MemoryOp γ}
    {value : List Bool → MemoryValue} {addrs : List Int}
    (issued : Issued session.mem type coreId callback value addrs
      (op.begin session.mem)) :
    let flags := (session.mem.sendAll type coreId callback addrs).1
    Sent session (session.perform op) type coreId callback addrs flags
      [.ok (value flags)] := by
  intro flags
  have impl : (op.begin session.mem).2.impl =
      (session.mem.sendAll type coreId callback addrs).2 := by
    have same := congrArg MemorySystem.impl issued.mem
    exact same
  rw [perform_eq control issued]
  refine ⟨rfl, ?_, ?_, ?_, ?_⟩
  · rw [impl]
  · rw [impl, issued.mem]
  · simp [invocations, List.filterMap_append, List.filterMap_map, flags]
  · simp [results, ended, List.filterMap_append, List.filterMap_map, flags]

omit [DecidableEq γ] in
theorem Sent.cons {middle after : Session engine} {addr : Int}
    {rest : List Int} {flag : Bool}
    {flags : List Bool} {first second : List (Except PyError MemoryValue)}
    (one : Sent session middle type coreId callback [addr] [flag] first)
    (more : Sent middle after type coreId callback rest flags second) :
    Sent session after type coreId callback (addr :: rest) (flag :: flags)
      (first ++ second) where
  stack := more.stack.trans one.stack
  sent := by
    have head := one.sent
    have tail := more.sent
    simp only [MemorySystem.sendAll, PyMemorySystem.sendAll] at head tail ⊢
    obtain ⟨accepted, impl⟩ := Prod.mk.inj head
    rw [impl, (List.cons.inj accepted).1, tail]
  mem := by rw [more.mem, one.mem]
  invocations := by
    have clk : middle.mem.clk = session.mem.clk := by
      have same := congrArg MemorySystem.clk one.mem
      exact same
    rw [more.invocations, one.invocations, List.append_assoc]
    apply congrArg (session.invocations ++ ·)
    simp only [writeAnswers]
    split
    · rw [MemorySystem.acceptedAddrs_cons addr rest, List.map_append]
      simp only [MemorySystem.writeInfo, clk]
    · rfl
  results := by rw [more.results, one.results, List.append_assoc]

variable {cacheline numCores : Int}

theorem perform_steady (steady : session.Steady cacheline numCores) (op : MemoryOp γ) :
    (session.perform op).Steady cacheline numCores :=
  Transition.run_invariant (Steady cacheline numCores)
    (fun _ decision steady => advance_steady steady decision) steady _

theorem performAll_sent (steady : session.Steady cacheline numCores)
    (control : InUserCode session.stack) (valid : 0 ≤ coreId ∧ coreId < numCores)
    (int : FitsInt coreId) (known : type = .read ∨ type = .write) (callback : Option γ)
    {addrs : List Int} (fits : ∀ addr ∈ addrs, FitsLong addr) :
    ∃ flags, Sent session
      (session.performAll (addrs.map fun addr => .send addr type coreId callback))
        type coreId callback addrs flags (flags.map fun flag => .ok (.flag flag)) := by
  induction addrs generalizing session with
  | nil =>
      have nothing : writeAnswers session.mem type coreId callback [] [] = [] := by
        unfold writeAnswers
        split <;> rfl
      exact ⟨[], rfl, rfl, rfl, by simp [nothing, performAll], by simp [performAll]⟩
  | cons addr rest induction =>
      obtain ⟨first, later⟩ := List.forall_mem_cons.mp fits
      have issued :
          Issued session.mem type coreId callback (fun flags => .flag (flags.headD false))
          [addr] (MemoryOp.begin (.send addr type coreId callback) session.mem) :=
        MemorySystem.send_issued steady.stable callback
          (MemorySystem.checkCoreId_valid (steady.numCores ▸ valid)) int known first
      have one := perform_sent control issued
      obtain ⟨flags, more⟩ :=
        induction (perform_steady steady (.send addr type coreId callback))
        (one.stack ▸ control) later
      exact ⟨_, one.cons more⟩

/-- One call did what single sends did: the same went to the engine, the same
completions came at once, and the same will come of it. -/
structure Agrees (session many one : Session engine) (type : RequestType) (coreId : Int)
    (callback : Option γ) (addrs : List Int) : Prop where
  impl : many.mem.impl = one.mem.impl
  clk : many.mem.clk = one.mem.clk
  stack : many.stack = one.stack
  invocations : many.invocations = one.invocations
  flags : ∃ flags, flags.length = addrs.length ∧
    many.results = session.results ++ [.ok (.flags flags)] ∧
      one.results = session.results ++ flags.map fun flag => .ok (.flag flag)
  /-- Each accepted write is reported with the address that went to the engine. -/
  written : ∀ userCb, type = .write → callback = some userCb →
    many.invocations = session.invocations ++
      (Wire.accepted (PyMemorySystem.passed session.mem.impl many.mem.impl)).map
        fun request => (userCb, session.mem.writeInfo request.addr coreId)
  later : ∀ decisions, Notes many one (Transition.run advance many decisions)
    (Transition.run advance one decisions)

section

variable {after many one : Session engine} {addrs : List Int} {flags : List Bool}
  {results : List (Except PyError MemoryValue)}

omit [DecidableEq γ] in
theorem Sent.length (sent : Sent session after type coreId callback addrs flags results) :
    flags.length = addrs.length := by
  have length := session.mem.impl.length_sendAll
    (MemorySystem.requestOf type coreId callback) addrs
  rwa [show (session.mem.impl.sendAll _ addrs).1 = flags from congrArg Prod.fst sent.sent]
    at length

omit [DecidableEq γ] in
theorem Sent.accepted
    (sent : Sent session after type coreId callback addrs flags results) :
    (Wire.accepted (PyMemorySystem.passed session.mem.impl after.mem.impl)).map
      Request.addr =
      acceptedAddrs addrs flags := by
  have all :
      session.mem.impl.sendAll (MemorySystem.requestOf type coreId callback) addrs =
      (flags, after.mem.impl) := sent.sent
  have wire := session.mem.impl.sendAll_wire
    (MemorySystem.requestOf type coreId callback) addrs
  rw [all] at wire
  rw [PyMemorySystem.passed, wire, List.drop_left, Wire.accepted_sends, List.map_map,
    (MemorySystem.acceptedOf_zip sent.length).1]
  exact List.map_id _

omit [DecidableEq γ] in
theorem Sent.written (sent : Sent session after type coreId callback addrs flags results)
    {userCb : γ} (write : type = .write) (answered : callback = some userCb) :
    after.invocations = session.invocations ++
      (Wire.accepted (PyMemorySystem.passed session.mem.impl after.mem.impl)).map
        fun request => (userCb, session.mem.writeInfo request.addr coreId) := by
  rw [sent.invocations, writeAnswers.eq_def]
  simp only [write, answered]
  rw [← sent.accepted, List.map_map]
  rfl

theorem Sent.agrees (steadyMany : many.Steady cacheline numCores)
    (steadyOne : one.Steady cacheline numCores)
    (sentMany : Sent session many type coreId callback addrs flags [.ok (.flags flags)])
    (sentOne : Sent session one type coreId callback addrs flags
      (flags.map fun flag => .ok (.flag flag))) :
    Agrees session many one type coreId callback addrs := by
  have impl : many.mem.impl = one.mem.impl :=
    (Prod.mk.inj (sentMany.sent.symm.trans sentOne.sent)).2
  have same :
      many.mem.uncached = one.mem.uncached := by rw [sentMany.mem, sentOne.mem, impl]
  have alike : Alike cacheline many one :=
    ⟨⟨same, steadyMany.stable, steadyOne.stable⟩, sentMany.stack.trans sentOne.stack.symm⟩
  exact
    { impl
      clk := alike.mem.clk
      stack := alike.stack
      invocations := sentMany.invocations.trans sentOne.invocations.symm
      flags := ⟨flags, sentMany.length, sentMany.results, sentOne.results⟩
      written := fun _ write answered => sentMany.written write answered
      later := fun decisions => (alike.run decisions).2 }

end

section

variable (steady : session.Steady cacheline numCores) (control : InUserCode session.stack)
  (valid : 0 ≤ coreId ∧ coreId < numCores) (int : FitsInt coreId)
  (known : type = .read ∨ type = .write) (callback : Option γ)
include steady control valid int known

theorem perform_agrees {op : MemoryOp γ} {addrs : List Int}
    (fits : ∀ addr ∈ addrs, FitsLong addr)
    (issued : Issued session.mem type coreId callback .flags addrs
      (op.begin session.mem)) :
    Agrees session (session.perform op)
      (session.performAll (addrs.map fun addr => .send addr type coreId callback))
        type coreId callback addrs := by
  have many := perform_sent control issued
  obtain ⟨flags, one⟩ := performAll_sent steady control valid int known callback fits
  have same : (session.mem.sendAll type coreId callback addrs).1 = flags :=
    congrArg Prod.fst one.sent
  rw [same] at many
  have steadyOne : (session.performAll (addrs.map fun addr =>
      .send addr type coreId callback)).Steady cacheline numCores := by
    apply Transition.run_invariant (Steady cacheline numCores) _ steady
    exact fun _ op steady => perform_steady steady op
  exact many.agrees (perform_steady steady op) steadyOne one

theorem sendBatch_agrees {addrs : List Int} (fits : ∀ addr ∈ addrs, FitsLong addr) :
    Agrees session (session.perform (.sendBatch addrs type coreId callback))
      (session.performAll (addrs.map fun addr => .send addr type coreId callback))
        type coreId callback addrs := by
  have checked := MemorySystem.checkCoreId_valid (steady.numCores ▸ valid)
  exact perform_agrees steady control valid int known callback fits
    (MemorySystem.sendBatch_issued steady.stable callback checked int known fits)

theorem sendRange_agrees {start count : Int} {stride : Option Int}
    (fits : ∀ index : Nat, index < count →
      FitsLong (start + index * stride.getD cacheline))
    (args : FitsLong start ∧ FitsLong count ∧ FitsLong (stride.getD cacheline)) :
    let addrs := PyMemorySystem.strided start (stride.getD cacheline) count.toNat
    Agrees session (session.perform (.sendRange start count stride type coreId callback))
      (session.performAll (addrs.map fun addr => .send addr type coreId callback))
        type coreId callback addrs := by
  intro addrs
  have checked := MemorySystem.checkCoreId_valid (steady.numCores ▸ valid)
  have issued := MemorySystem.sendRange_issued steady.stable callback checked int known
    (steady.stable.cacheline.symm ▸ args)
  rw [steady.stable.cacheline] at issued
  refine perform_agrees steady control valid int known callback
    (fun addr member => ?_) issued
  obtain ⟨index, bound, rfl⟩ := List.mem_map.mp member
  apply fits
  have below := List.mem_range.mp bound
  omega

omit int known in
theorem sendRange_refused {start count : Int} {stride : Option Int} (type : RequestType)
    (args : ¬ (FitsLong start ∧ FitsLong count ∧ FitsLong (stride.getD cacheline))) :
    let after := session.perform (.sendRange start count stride type coreId callback)
    after.mem.impl = session.mem.impl ∧ after.stack = session.stack ∧
      after.results = session.results ++ [.error .typeError] := by
  have checked := MemorySystem.checkCoreId_valid (steady.numCores ▸ valid)
  obtain ⟨raised, impl⟩ :=
    MemorySystem.sendRange_refused steady.stable callback checked type
    (steady.stable.cacheline.symm ▸ args)
  have begun : ((.sendRange start count stride type coreId callback : MemoryOp γ).begin
      session.mem).1 = .raised .typeError := raised
  rw [perform, begun, Transition.run_cons, advance_call control]
  unfold Session.call
  rcases started : (MemoryOp.sendRange start count stride type coreId callback).begin
    session.mem with ⟨_, mem⟩
  rw [started] at begun
  obtain rfl := begun
  refine ⟨?_, rfl, by simp [Begun.rounds, results, ended, finish]⟩
  have same : mem.impl = session.mem.impl := by
    have after := congrArg (fun result => result.2.impl) started
    exact after.symm.trans impl
  exact same

end

end

end Session

end Pyramulator
