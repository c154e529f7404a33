import Pyramulator.Memory.BatchFailure
import Pyramulator.Memory.Watched

namespace Pyramulator

/-! Every accepted request with a callback is answered once, at its time, unless a
write batch is cut short. -/

variable {γ : Type} {engine : Engine (CppCallback (ReadWrap γ))}

/-- A method leaves no accepted request unanswered: it reads, nobody waits for an
answer, it sends all its writes, or all that it sends is rejected. -/
def MemoryOp.Answers (cacheline : Int) (mem : MemorySystem engine) (op : MemoryOp γ) :
    Prop :=
  op.type = .read ∨ op.callback = none ∨
    (op.type = .write ∧ op.reach cacheline = op.addrs cacheline) ∨
      ∃ last, engine.Refuses mem.impl.mem (PyMemorySystem.requestsTo mem.numCores
        (op.reach cacheline) op.type op.coreId op.callback) last

/-- How a write call answers: it tells all that was accepted, or it has no callbacks
to call. -/
def MemoryCall.Written (call : MemoryCall engine) : Prop :=
  call.op.type = .write →
    (∃ addrs coreId callback value, call.begun = .writes addrs coreId callback value ∧
      call.due = writeAnswers callback coreId addrs) ∨
    (∀ events ending, call.begun ≠ .dispatch events ending) ∧
      (∀ addrs coreId callback value, call.begun ≠ .writes addrs coreId callback value) ∧
        call.unanswered = call.due

namespace Session

variable {session : Session engine} {cacheline numCores : Int}

/-- No accepted request loses its answer in this step: no exception leaves the callback
of a write while further writes of its batch wait, and a call answers what it sends. -/
def Thorough (cacheline : Int) (session : Session engine) (decision : MemoryDecision γ) :
    Prop :=
  match session.stack, decision with
  | .user _ _ :: .writes _ rest _ _ _ :: _, .raise _ => rest = []
  | _, _ => ∀ op, session.asked decision = some op → op.Answers cacheline session.mem

variable [DecidableEq γ]

theorem newCall_written (stable : session.mem.Stable cacheline) (op : MemoryOp γ) :
    (session.newCall op).Written := by
  intro write
  change op.type = .write at write
  have notRead : ¬ (session.newCall op).op.type = .read := by
    change ¬ op.type = .read
    rw [write]
    decide
  rcases op.begin_cases stable with ⟨value, sends, issues⟩ | ⟨read, -⟩
  · obtain ⟨-, ⟨callback, writes, -, -, told⟩ | ⟨-, notDispatch, notWrites, -⟩⟩ :=
      newCall_sends issues
    · refine .inl ⟨_, _, _, _, writes, ?_⟩
      rw [← told, writes]
      rfl
    · refine .inr ⟨notDispatch, notWrites, ?_⟩
      unfold MemoryCall.unanswered
      rw [if_neg notRead]
      split
      · exact absurd ‹_› (notWrites _ _ _ _)
      · rfl
  · exact absurd read notRead

theorem unanswered_iff (stable : session.mem.Stable cacheline) (op : MemoryOp γ) :
    (session.newCall op).unanswered = [] ↔ op.Answers cacheline session.mem := by
  by_cases read : op.type = .read
  · exact iff_of_true (if_pos read) (.inl read)
  · rcases op.begin_cases stable with ⟨value, sends, issues⟩ | ⟨same, -⟩
    · have due := newCall_due issues
      obtain ⟨-, kind⟩ := newCall_sends issues
      have refused : (∃ last, engine.Refuses session.mem.impl.mem
          (PyMemorySystem.requestsTo session.mem.numCores (op.reach cacheline) op.type
            op.coreId op.callback) last) ↔ acceptedOf sends = [] := by
        simp only [issues.refuses_iff, exists_and_left, exists_eq, and_true,
          issues.accepted, List.map_eq_nil_iff]
      have reached (nonempty : sends ≠ []) : sends.map Prod.fst = op.reach cacheline := by
        rw [issues.reached]
        refine if_pos ?_
        by_contra refused
        exact nonempty (List.map_eq_nil_iff.mp (issues.reached.trans (if_neg refused)))
      have nothingDue (empty : sends = []) : (session.newCall op).due = [] := by
        rw [due, empty]
        cases op.callback <;> rfl
      rcases kind with ⟨callback, writes, user, write, -⟩ | ⟨-, -, notWrites, kind⟩
      · have answered : (session.newCall op).unanswered = [] := by
          unfold MemoryCall.unanswered
          rw [if_neg (show ¬ (session.newCall op).op.type = .read from read), writes]
        refine iff_of_true answered (.inr (.inr ?_))
        by_cases empty : sends = []
        · exact .inr (refused.mpr (by rw [empty]; rfl))
        · rcases issues.result with ⟨error, raised⟩ | ⟨all, -⟩
          · change (op.begin session.mem).1 = _ at writes
            rw [raised] at writes
            cases writes
          · exact .inl ⟨write, (reached empty).symm.trans all⟩
      · have unanswered : (session.newCall op).unanswered = (session.newCall op).due := by
          unfold MemoryCall.unanswered
          rw [if_neg (show ¬ (session.newCall op).op.type = .read from read)]
          split
          · exact absurd ‹_› (notWrites _ _ _ _)
          · rfl
        rw [unanswered]
        constructor
        · intro nothing
          cases user : op.callback with
          | none => exact .inr (.inl user)
          | some callback =>
              rw [due, user] at nothing
              exact .inr (.inr (.inr (refused.mpr (List.map_eq_nil_iff.mp nothing))))
        · rintro (impossible | user | ⟨write, all⟩ | rejected)
          · exact absurd impossible read
          · rw [due, user]
            rfl
          · rcases kind write with user | ⟨error, raised⟩
            · rw [due, user]
              rfl
            · by_cases empty : sends = []
              · exact nothingDue empty
              · exact absurd ((reached empty).trans all) (issues.cut error raised empty)
          · rw [due, refused.mp rejected]
            cases op.callback <;> rfl
    · exact absurd same read

theorem lost_iff (stable : session.mem.Stable cacheline) (decision : MemoryDecision γ) :
    session.lost decision = [] ↔ session.Thorough cacheline decision := by
  have asks : ((session.asked decision).elim [] fun op =>
      (session.newCall op).unanswered) = [] ↔
        ∀ op, session.asked decision = some op → op.Answers cacheline session.mem := by
    cases session.asked decision with
    | none => simp
    | some op => simpa using unanswered_iff stable op
  unfold lost Thorough
  split
  · rename_i callback info frame below error shape
    rw [shape]
    cases frame with
    | writes call rest coreId callback value => simp [MemoryFrame.waiting]
    | dispatch call sent rest firstExc ending => simp [asked]
    | user callback info => simp [asked]
  · rename_i unthrown
    split
    · rename_i shape
      exact absurd rfl (unthrown _ _ _ _ _ shape)
    · exact asks

end Session

namespace Watched

/-- All is answered once: writes while their call is in progress, reads while the call
is in progress that dispatches their completion. A call that dispatched raises the first
exception of its callbacks. -/
structure Delivers (ledger : engine.Ledger) (watched : Watched engine) : Prop where
  once : watched.session.Balanced ledger
  prompt : ∀ finished ∈ watched.finished, finished.call.op.type = .write →
    finished.call.due.Sublist (finished.during.map Answer.told)
  dispatched : ∀ finished ∈ watched.finished, ∀ events ending,
    finished.call.begun = .dispatch events ending →
      (events.map Session.invocation).Sublist finished.during ∧
        finished.result = finished.raised.head?.elim (.ok ending.result) .error
  written : ∀ finished ∈ watched.finished, ∀ addrs coreId callback value,
    finished.call.begun = .writes addrs coreId callback value →
      finished.result = finished.raised.head?.elim (.ok value) .error

end Watched

theorem Finished.Kept.prompt {finished : Finished engine} (kept : finished.Kept)
    (written : finished.call.Written) (nothing : finished.lost = [])
    (write : finished.call.op.type = .write) :
    finished.call.due.Sublist (finished.during.map Answer.told) := by
  rcases written write with ⟨addrs, coreId, callback, value, begun, due⟩ |
    ⟨notDispatch, notWrites, unanswered⟩
  · obtain ⟨done, rest, rfl, told, lost, -⟩ :=
      kept.writes addrs coreId callback value begun
    have all : rest = [] := List.map_eq_nil_iff.mp (lost.symm.trans nothing)
    rw [due, all, List.append_nil]
    exact told
  · rw [← unanswered, ← kept.silent notDispatch notWrites, nothing]
    exact List.nil_sublist _

namespace Watched

variable [DecidableEq γ] {watched : Watched engine} {cacheline numCores : Int}

structure Observed (cacheline numCores : Int) (watched : Watched engine) : Prop where
  steady : watched.session.Steady cacheline numCores
  sound : watched.Sound
  written : Session.Keeps (Session.DispatchFrame MemoryCall.Written)
    (Session.DispatchEntry MemoryCall.Written) watched.session

omit [DecidableEq γ] in
theorem Observed.create (cacheline numCores : Int) :
    (create (MemorySystem.create engine cacheline numCores)).Observed cacheline
      numCores where
  steady := ⟨⟨rfl, rfl⟩, rfl⟩
  sound := .create _
  written := ⟨by simp [Watched.create, Session.create],
    by simp [Watched.create, Session.create, Session.ended]⟩

theorem Observed.advance (observed : watched.Observed cacheline numCores)
    (decision : MemoryDecision γ) :
    (watched.advance decision).Observed cacheline numCores where
  steady := Session.advance_steady observed.steady decision
  sound := observed.sound.advance decision
  written := by
    have rule : Session.Rule (Session.DispatchFrame MemoryCall.Written)
        (Session.DispatchEntry MemoryCall.Written)
          fun (session : Session engine) _ => session.Steady cacheline numCores :=
      Session.dispatch_rule _ fun _ op _ steady =>
        Session.newCall_written steady.stable op
    exact observed.written.advance rule decision observed.steady

omit [DecidableEq γ] in
theorem Observed.call_written (observed : watched.Observed cacheline numCores)
    {finished : Finished engine} (member : finished ∈ watched.finished) :
    finished.call.Written := by
  have known := List.mem_map_of_mem (f := Finished.call) member
  rw [observed.sound.calls] at known
  obtain ⟨entry, here, same⟩ := List.mem_map.mp known
  rw [← same]
  exact (observed.written.entries entry here).1

theorem Observed.delivers_iff (ledger : engine.Ledger)
    (observed : watched.Observed cacheline numCores) (delivers : watched.Delivers ledger)
    (decision : MemoryDecision γ) :
    (watched.advance decision).Delivers ledger ↔
      watched.session.Thorough cacheline decision := by
  have balanced :=
    Session.advance_balanced_iff ledger observed.steady.stable delivers.once
    decision
  rw [← Session.lost_iff observed.steady.stable decision]
  refine ⟨fun after => balanced.mp after.once, fun nothing => ?_⟩
  have next := observed.advance decision
  refine ⟨balanced.mpr nothing, fun finished member write => ?_,
    fun finished member events ending begun =>
      (next.sound.kept finished member).dispatch events ending begun,
    fun finished member addrs coreId callback value begun => ?_⟩
  · have kept := next.sound.kept finished member
    have written := next.call_written member
    rcases List.mem_append.mp member with older | newer
    · exact delivers.prompt finished older write
    · obtain ⟨entry, -, rfl⟩ := List.mem_map.mp newer
      exact kept.prompt written nothing write
  · obtain ⟨done, rest, -, -, -, result⟩ :=
      (next.sound.kept finished member).writes addrs coreId callback value begun
    exact result

/-- In all states of a run every accepted request with a callback is answered once, at
its time, if and only if no step of the run cuts a write batch short, or sends what
is answered by nobody. -/
theorem answered_once (ledger : engine.Ledger) (cacheline numCores : Int)
    (decisions : List (MemoryDecision γ)) :
    (∀ initial, initial <+: decisions → (Transition.run advance
        (create (MemorySystem.create engine cacheline numCores)) initial).Delivers
          ledger) ↔
      Transition.Follows advance
        (fun watched decision => watched.session.Thorough cacheline decision)
        (create (MemorySystem.create engine cacheline numCores)) decisions := by
  refine Transition.holds_iff_follows (Observed cacheline numCores) (Delivers ledger)
    (fun watched decision observed _ _ => observed.advance decision)
    (fun watched decision observed delivers _ =>
      observed.delivers_iff ledger delivers decision) (.create cacheline numCores) ?_
    (Transition.follows_true _ _ decisions)
  refine ⟨?_, by simp [create], by simp [create], by simp [create]⟩
  change (0 : Multiset (Answer γ)) = 0 +
    (((ledger.reads engine.fresh).filterMap _ + 0) + 0)
  rw [ledger.fresh, Multiset.filterMap_zero]
  rfl

def cutBatch : List (MemoryDecision Nat) :=
  [.call (.sendBatch [0, 64] .write 0 (some 7)), .return_, .raise (.user 1)]

/-- The second write is accepted, and its callback is not invoked. -/
theorem cutBatch_unanswered :
    ¬ (Transition.run advance (create (MemorySystem.create
      (Engine.fixedLatency (CppCallback (ReadWrap Nat)) 2 4) 64 1)) cutBatch).Delivers
        (Engine.fixedLatencyLedger _ 2 4) := by
  intro delivers
  have once := delivers.once
  revert once
  unfold Session.Balanced
  decide +kernel

end Watched

end Pyramulator
