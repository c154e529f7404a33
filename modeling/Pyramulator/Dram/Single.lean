import Pyramulator.Dram.TickChain
import Pyramulator.Memory.Reports
import Pyramulator.Sim.Due

namespace Pyramulator

/-! What a request for one address does, and what the agenda holds after it. -/

variable {ℓ γ η Part : Type}

theorem Simulator.Local.due {kind : DramCode ℓ γ η → Prop}
    {sim after : Simulator (DramCode ℓ γ η)} (local_ : Local kind sim after)
    {part : DramCode ℓ γ η → Option Part} (apart : ∀ code, kind code → part code = none) :
    after.due part = sim.due part :=
  congrArg Multiset.ofList
    (local_.others (fun event => part event.callback) fun _ named => apart _ named)

namespace PyMemorySystem

variable {π : Type} {engine : Engine (CppCallback π)}

/-- What became of a request: the call raised before it reached the engine, or the
engine answered. -/
inductive Asked (impl : PyMemorySystem engine) (request : Request (CppCallback π)) :
    Option Bool → PyMemorySystem engine → Prop
  | raised : Asked impl request none impl
  | answered :
      Asked impl request (some (impl.sendRequest request).1) (impl.sendRequest request).2

theorem Sending.asked {proto : Int → Request (CppCallback π)}
    {impl after : PyMemorySystem engine} {addr : Int} {sends : List (Int × Bool)}
    (sending : Sending proto impl after [addr] sends) :
    sends = [] ∧ after = impl ∨
      ∃ accepted, sends = [(addr, accepted)] ∧
        Asked impl (proto addr) (some accepted) after := by
  cases sending with
  | none_ => exact .inl ⟨rfl, rfl⟩
  | cons rest =>
      cases rest
      exact .inr ⟨_, rfl, .answered⟩

namespace Asked

variable {impl after : PyMemorySystem engine} {request : Request (CppCallback π)}
  {answer : Option Bool} (asked : impl.Asked request answer after)
include asked

theorem accepted : Wire.accepted after.wire =
    Wire.accepted impl.wire ++ if answer = some true then [request] else [] := by
  cases asked with
  | raised => simp
  | answered =>
      simp only [sendRequest, Wire.accepted_append, Wire.accepted_sent, Option.some.injEq]

theorem reads (ledger : engine.Ledger) : ledger.reads after.mem =
    (if answer = some true ∧ request.type = .read then {request} else 0) +
      ledger.reads impl.mem := by
  cases asked with
  | raised => simp
  | answered =>
      simp only [sendRequest, Option.some.injEq]
      split
      · rename_i both
        rw [ledger.accepted _ _ both.2 both.1, Multiset.singleton_add]
      · rename_i unread
        rw [ledger.other _ _ (by rw [← Bool.not_eq_true]; tauto), zero_add]

theorem reaches (reached : engine.Reaches (fun _ => True) impl.mem) :
    engine.Reaches (fun _ => True) after.mem := by
  cases asked with
  | raised => exact reached
  | answered => exact .send reached trivial

theorem pending (tally : engine.Tally) (refused : answer ≠ some true)
    (noPending : impl.pending = 0) : after.pending = 0 := by
  cases asked with
  | raised => exact noPending
  | answered =>
      rw [pending_eq_zero] at noPending ⊢
      exact tally.rejected _ _ (by simpa [sendRequest] using refused) noPending

theorem rejected (refused : answer = some false) :
    (engine.send impl.mem request).1 = false := by
  cases asked with
  | raised => cases refused
  | answered => exact Option.some.inj refused

end Asked

end PyMemorySystem

namespace DramRequest

inductive Single (addr : Int) : DramRequest γ → Prop
  | read (callback : Option γ) (coreId : Int) : Single addr (.read addr callback coreId)
  | write (callback : Option γ) (coreId : Int) : Single addr (.write addr callback coreId)

theorem Single.addrs_eq {addr : Int} {request : DramRequest γ}
    (single : request.Single addr) :
    request.addrs = [addr] := by
  cases single <;> rfl

theorem Single.begin_eq [DecidableEq γ] {addr : Int} {request : DramRequest γ}
    (single : request.Single addr) (wrap : Collector γ)
    {engine : Engine (DramCallback γ)} (mem : MemorySystem engine) :
    (request.op wrap).begin mem = mem.send addr request.type request.coreId
      (some wrap) := by
  cases single <;> rfl

end DramRequest

namespace Dram

open Simulator (Local)

variable {engine : Engine (DramCallback γ)}

theorem handOver_due {sim : Simulator (DramCode ℓ γ η)} (wellFormed : sim.WellFormed)
    (label : ℓ) (priority : Int) (completed : List (RequestInfo × Option γ))
    (part : DramCode ℓ γ η → Option Part) :
    (handOver (.dram label) priority sim completed).due part =
      (completed.filterMap fun (info, callback) =>
        callback.bind fun callback => part (.dram label (.completion callback info)) :
          List Part) + sim.due part := by
  induction completed generalizing sim with
  | nil => simp [handOver]
  | cons completion rest induction =>
      obtain ⟨info, _ | callback⟩ := completion
      · rw [handOver, induction wellFormed, List.filterMap_cons_none rfl]
      · have later := wellFormed.push (show sim.now ≤ sim.now + 0 by omega)
          (.dram label (.completion callback info)) priority none
        rw [handOver, induction later]
        cases seen : part (.dram label (.completion callback info)) with
        | none =>
            rw [Simulator.due_push_none wellFormed none seen,
              List.filterMap_cons_none (by simpa using seen)]
        | some value =>
            rw [Simulator.due_push_some wellFormed none seen,
              List.filterMap_cons_some (by simpa using seen), ← Multiset.cons_coe,
              Multiset.cons_add, Multiset.add_cons]

section Raised

variable {κ : Type} (closure : DramEvent γ → κ)

theorem startTicking_known (sim : Simulator κ) {dram : Dram engine}
    (known : dram.idleTicking = true → dram.idleEventId ≠ none) :
    ∃ after, startTicking closure (⟨sim, dram⟩ : Device κ engine) = (.ok (), after) := by
  cases busy : dram.ticking with
  | true => exact ⟨_, startTicking_busy closure sim dram busy⟩
  | false =>
      cases idle : dram.idleTicking with
      | false => exact ⟨_, startTicking_stopped closure sim dram busy idle⟩
      | true =>
          obtain ⟨eventId, scheduled⟩ := Option.ne_none_iff_exists'.mp (known idle)
          exact ⟨_, startTicking_idle closure sim dram busy idle scheduled⟩

variable [DecidableEq γ]

theorem single_raised {sim : Simulator κ} {dram : Dram engine} {cacheline : Int}
    (stable : dram.mem.Stable cacheline)
    (known : dram.idleTicking = true → dram.idleEventId ≠ none)
    {addr : Int} {request : DramRequest γ} (single : request.Single addr)
    {error : PyError} (raised : (submit closure request ⟨sim, dram⟩).1 = .error error) :
    (submit closure request ⟨sim, dram⟩).2.dram.mem.impl = dram.mem.impl := by
  obtain ⟨src, cache, count, base⟩ := collector_eq dram request.callback
  change (method closure request ⟨sim, dram⟩).1 = .error error at raised
  change (method closure request ⟨sim, dram⟩).2.dram.mem.impl = dram.mem.impl
  have same : (dram.collector request.callback).2.mem = dram.mem := by rw [base]
  obtain ⟨sends, issues⟩ := MemorySystem.send_issues (same ▸ stable) addr request.type
    request.coreId (some (dram.collector request.callback).1)
  rw [← single.begin_eq] at issues
  rcases shape : (request.op (dram.collector request.callback).1).begin
    (dram.collector request.callback).2.mem with ⟨begun, mem⟩
  rw [shape] at issues
  rcases issues.result with ⟨error, rfl⟩ | ⟨all, returned⟩
  · have unsent : sends = [] := by
      rcases issues.sending.asked with ⟨nothingSent, -⟩ | ⟨accepted, one, -⟩
      · exact nothingSent
      · exact absurd (by rw [one]; rfl) (issues.cut error rfl (by rw [one]; simp))
    have unchanged : mem.impl = dram.mem.impl := by
      rw [← same]
      rcases issues.sending.asked with ⟨-, impl⟩ | ⟨accepted, one, -⟩
      · exact impl
      · rw [unsent] at one
        cases one
    rw [method_raised closure sim request dram (onMem_refused _ shape)]
    exact unchanged
  · have onMem :
        ∃ value completed, Device.onMem (request.op (dram.collector request.callback).1)
        (⟨sim, (dram.collector request.callback).2⟩ : Device κ engine) =
          (.ok value,
            ⟨sim, { (dram.collector request.callback).2 with mem, completed }⟩) := by
      by_cases write : request.type = .write
      · rw [if_pos write] at returned
        exact ⟨_, _, onMem_writes _ (shape.trans (congrArg (·, mem) returned))⟩
      · rw [if_neg write] at returned
        exact ⟨_, _, onMem_returned _ (shape.trans (congrArg (·, mem) returned))⟩
    obtain ⟨value, completed, onMem⟩ := onMem
    have idle : (dram.collector request.callback).2.idleTicking = dram.idleTicking ∧
        (dram.collector request.callback).2.idleEventId = dram.idleEventId := by
      rw [base]
      exact ⟨rfl, rfl⟩
    have starts (device : Device κ engine)
        (idleTicking : device.dram.idleTicking = dram.idleTicking)
        (idleEventId : device.dram.idleEventId = dram.idleEventId) :
        (startTicking closure device).1.map (fun _ => value) ≠ .error error := by
      obtain ⟨after, started⟩ := startTicking_known closure device.sim
        (show device.dram.idleTicking = true →
          _ by rw [idleTicking, idleEventId]; exact known)
      rw [started]
      exact fun impossible => by cases impossible
    by_cases accepted : anyAccepted value = true
    · by_cases write : request.type = .write
      · rw [method_write closure sim request dram onMem accepted write] at raised
        exact absurd raised (starts _ idle.1 idle.2)
      · rw [method_read closure sim request dram onMem accepted write] at raised
        exact absurd raised (starts _ idle.1 idle.2)
    · rw [method_rejected closure sim request dram onMem
        (by simpa using accepted)] at raised
      cases raised

end Raised

variable [DecidableEq ℓ] [DecidableEq γ] {lossy : Prop} {cacheline : Int} {label : ℓ}
  {sim : Simulator (DramCode ℓ γ η)} {dram : Dram engine}

/-- How a request for one address ends in a component between two events. -/
structure SingleEnds (lossy : Prop) (cacheline : Int) (label : ℓ)
    (sim : Simulator (DramCode ℓ γ η)) (dram : Dram engine) (request : DramRequest γ)
    (addr : Int) (answer : Option Bool)
    (called : Except PyError MemoryValue × Device (DramCode ℓ γ η) engine) : Prop where
  asked : ∃ wrap : Collector γ, wrap.callback = request.callback ∧
    dram.mem.impl.Asked (request.sent wrap addr) answer called.2.dram.mem.impl
  raised : answer = none → ∃ error, called.1 = .error error
  returned : ∀ accepted, answer = some accepted →
    ∃ value, called.1 = .ok value ∧ anyAccepted value = accepted
  running : Running lossy cacheline label called.2.sim called.2.dram
  local_ : Local (DramCode.Owned label) sim called.2.sim
  completed : called.2.dram.completed = []
  silent : answer ≠ some true → called.2.sim = sim
  agenda : answer = some true → ∃ clk, Local (DramCode.Clock label)
    (handOver (.dram label) dram.completionPriority sim
      (request.answers clk request.callback [(addr, true)])) called.2.sim
  started : answer = some true → called.2.dram.ticking = true
  stopped : answer ≠ some true →
    called.2.dram.ticking = dram.ticking ∧ called.2.dram.idleTicking = dram.idleTicking
  submitted : ∃ submission, called.2.dram.submitted = dram.submitted ++ [submission] ∧
    submission.result = called.1

theorem Clocked.known (clocked : Clocked lossy label sim dram)
    (idle : dram.idleTicking = true) : dram.idleEventId ≠ none := by
  cases clocked with
  | busy _ _ noIdle => exact absurd (noIdle.symm.trans idle) (by decide)
  | idle _ _ _ _ _ _ scheduled =>
      exact fun unscheduled => by cases scheduled.symm.trans unscheduled
  | stopped _ noIdle => exact absurd (noIdle.symm.trans idle) (by decide)
  | lost _ _ _ _ _ _ scheduled =>
      exact fun unscheduled => by cases scheduled.symm.trans unscheduled

namespace SingleEnds

variable {addr : Int} {request : DramRequest γ} {answer : Option Bool}
  {called : Except PyError MemoryValue × Device (DramCode ℓ γ η) engine}
  (ends : SingleEnds lossy cacheline label sim dram request addr answer called)
include ends

theorem serviced (tally : engine.Tally) (serviced : dram.Serviced) :
    called.2.dram.Serviced := by
  obtain ⟨wrap, -, asked⟩ := ends.asked
  intro stopped
  by_cases accepted : answer = some true
  · exact absurd ((ends.started accepted).symm.trans stopped) (by decide)
  · exact asked.pending tally accepted
      (serviced ((ends.stopped accepted).1.symm.trans stopped))

theorem calm {ledger : engine.Ledger} (calm : dram.Calm ledger) :
    called.2.dram.Calm ledger := by
  obtain ⟨wrap, -, asked⟩ := ends.asked
  refine ⟨ends.completed, fun idle => ?_⟩
  by_cases accepted : answer = some true
  · have noIdle := ends.running.clocked.idleTicking_of_ticking (ends.started accepted)
    exact absurd (noIdle.symm.trans idle) (by decide)
  · rw [asked.reads, if_neg (fun both => accepted both.1), zero_add]
    exact calm.idle ((ends.stopped accepted).2.symm.trans idle)

section Due

variable (wellFormed : sim.WellFormed) {part : DramCode ℓ γ η → Option Part}
  (apart : ∀ code, code.Clock label → part code = none)
include wellFormed apart

theorem due_read (read : request.type ≠ .write) :
    called.2.sim.due part = sim.due part := by
  by_cases accepted : answer = some true
  · obtain ⟨clk, clock⟩ := ends.agenda accepted
    rw [clock.due apart, handOver_due wellFormed, DramRequest.answers, if_neg read]
    simp
  · rw [ends.silent accepted]

theorem due_write (write : request.type = .write) {callback : γ}
    (callback_eq : request.callback = some callback) {seen : Option Part}
    (echo : ∀ clk, part (.dram label (.completion callback
      ⟨addr, .write, clk, clk, request.coreId⟩)) = seen) :
    called.2.sim.due part =
      (if answer = some true then (seen.toList : Multiset Part) else 0) +
        sim.due part := by
  by_cases accepted : answer = some true
  · obtain ⟨clk, clock⟩ := ends.agenda accepted
    rw [clock.due apart, handOver_due wellFormed, DramRequest.answers, if_pos write,
      if_pos accepted, callback_eq]
    cases seen <;> simp [DramRequest.taken, echo]
  · rw [ends.silent accepted, if_neg accepted, zero_add]

end Due

end SingleEnds

theorem Running.single (wellFormed : sim.WellFormed)
    (running : Running lossy cacheline label sim dram) (completed : dram.completed = [])
    {addr : Int} {request : DramRequest γ} (single : request.Single addr) :
    ∃ answer, SingleEnds lossy cacheline label sim dram request addr answer
      (submit (.dram label) request ⟨sim, dram⟩) := by
  obtain ⟨mem, sends, submission, note, sent, requested⟩ :=
    running.requested wellFormed request
  obtain ⟨local_, after⟩ :=
    requested.running wellFormed (running.collector request.callback) sent
  have refused (error : PyError)
      (failed : (submit (.dram label : DramEvent γ → DramCode ℓ γ η) request
        ⟨sim, dram⟩).1 = .error error) :=
    single_raised _ running.stable running.clocked.known single failed
  have wrapping := collector_callback running.cached request.callback
  have asked := sent.sending
  rw [single.addrs_eq] at asked
  obtain ⟨src, cache, count, base⟩ := collector_eq dram request.callback
  generalize (dram.collector request.callback).1 = wrap at note sent asked wrapping
  rw [base] at asked requested
  have result : submission.result = (submit (.dram label) request ⟨sim, dram⟩ :
      Except PyError MemoryValue × Device (DramCode ℓ γ η) engine).1 := by rw [note]
  generalize submit (.dram label) request ⟨sim, dram⟩ = called
    at requested local_ after refused result
  cases requested with
  | raised error =>
      have unsent : mem.impl = dram.mem.impl := refused error rfl
      exact ⟨none,
        { asked := ⟨wrap, wrapping, by
            change PyMemorySystem.Asked _ _ _ mem.impl
            rw [unsent]
            exact .raised⟩
          raised := fun _ => ⟨error, rfl⟩
          returned := fun _ impossible => by cases impossible
          running := after
          local_
          completed
          silent := fun _ => rfl
          agenda := fun impossible => by cases impossible
          started := fun impossible => by cases impossible
          stopped := fun _ => ⟨rfl, rfl⟩
          submitted := ⟨submission, rfl, result⟩ }⟩
  | rejected value accepts all allRefused =>
      rcases asked.asked with ⟨rfl, -⟩ | ⟨accepted, rfl, told⟩
      · rw [single.addrs_eq] at all
        cases all
      · obtain rfl : accepted = false := allRefused _ (List.mem_singleton_self _)
        exact ⟨some false,
          { asked := ⟨wrap, wrapping, told⟩
            raised := fun impossible => by cases impossible
            returned := fun accepted same => ⟨value, rfl, by
              obtain rfl := Option.some.inj same
              rw [anyAccepted_eq, accepts]
              rfl⟩
            running := after
            local_
            completed
            silent := fun _ => rfl
            agenda := fun impossible => by cases impossible
            started := fun impossible => by cases impossible
            stopped := fun _ => ⟨rfl, rfl⟩
            submitted := ⟨submission, rfl, result⟩ }⟩
  | accepted value accepts all someTaken handed rest answered device clock
      clocked started =>
      rcases asked.asked with ⟨rfl, -⟩ | ⟨accepted, rfl, told⟩
      · rw [single.addrs_eq] at all
        cases all
      · obtain rfl : accepted = true := by
          obtain ⟨send, member, ok⟩ := someTaken
          rw [List.mem_singleton.mp member] at ok
          exact ok
        obtain ⟨rfl, rfl⟩ := answered completed
        have now : device.dram.mem = mem ∧ device.dram.completed = [] ∧
            device.dram.ticking = true ∧ device.dram.submitted = dram.submitted := by
          rcases started with ⟨ticking, same⟩ | ⟨-, same⟩
          · rw [same]
            exact ⟨rfl, rfl, ticking, rfl⟩
          · rw [same]
            exact ⟨rfl, rfl, rfl, rfl⟩
        exact ⟨some true,
          { asked := ⟨wrap, wrapping, by
              change PyMemorySystem.Asked _ _ _ device.dram.mem.impl
              rw [now.1]
              exact told⟩
            raised := fun impossible => by cases impossible
            returned := fun accepted same => ⟨value, rfl, by
              obtain rfl := Option.some.inj same
              rw [anyAccepted_eq, accepts]
              rfl⟩
            running := after
            local_
            completed := now.2.1
            silent := fun different => absurd rfl different
            agenda := fun _ => ⟨_, clock⟩
            started := fun _ => now.2.2.1
            stopped := fun different => absurd rfl different
            submitted := ⟨submission, congrArg (· ++ [submission]) now.2.2.2, result⟩ }⟩

end Dram

end Pyramulator
