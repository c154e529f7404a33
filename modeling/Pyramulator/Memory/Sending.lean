import Mathlib.Tactic.Ring
import Pyramulator.Memory.Traffic

namespace Pyramulator

/-! Requests that go to the engine one after the other. -/

/-- Some requests, sent one after the other, are all rejected; the state of the engine
before and after them. -/
inductive Engine.Refuses {c : Type} (engine : Engine c) :
    engine.State → List (Request c) → engine.State → Prop
  | nil (state : engine.State) : Refuses engine state [] state
  | cons {state last : engine.State} {request : Request c} {requests : List (Request c)}
      (rejected : (engine.send state request).1 = false)
      (rest : Refuses engine (engine.send state request).2 requests last) :
      Refuses engine state (request :: requests) last

namespace PyMemorySystem

variable {π : Type} {engine : Engine (CppCallback π)}

theorem pending_eq_zero (sys : PyMemorySystem engine) :
    sys.pending = 0 ↔ engine.pendingRequests sys.mem = 0 := Int.natCast_eq_zero

/-- Requests that differ in their addresses went to the engine one after the
other, for the first of the addresses. -/
inductive Sending (request : Int → Request (CppCallback π)) :
    PyMemorySystem engine → PyMemorySystem engine → List Int → List (Int × Bool) → Prop
  | none_ (sys : PyMemorySystem engine) (addrs : List Int) :
      Sending request sys sys addrs []
  | cons {sys after : PyMemorySystem engine} {addr : Int} {addrs : List Int}
      {sends : List (Int × Bool)}
      (rest : Sending request (sys.sendRequest (request addr)).2 after addrs sends) :
      Sending request sys after (addr :: addrs)
        ((addr, (sys.sendRequest (request addr)).1) :: sends)

namespace Sending

variable {request : Int → Request (CppCallback π)} {before after : PyMemorySystem engine}
  {addrs : List Int} {sends : List (Int × Bool)}

theorem effect (sending : Sending request before after addrs sends)
    (ledger : engine.Ledger) :
    Effect ledger before after (sends.map fun send => .sent (request send.1) send.2) := by
  induction sending with
  | none_ sys addrs => exact .refl sys
  | cons rest induction => exact (sendRequest_effect ledger _ _).trans induction

theorem wire (sending : Sending request before after addrs sends) :
    after.wire =
      before.wire ++ sends.map fun send => .sent (request send.1) send.2 := by
  induction sending with
  | none_ sys addrs => simp
  | cons rest induction => simp [induction, sendRequest]

theorem completed (sending : Sending request before after addrs sends) :
    after.completed = before.completed := by
  induction sending with
  | none_ sys addrs => rfl
  | cons rest induction => simp [induction, sendRequest]

theorem silent (sending : Sending request before after addrs sends)
    (tally : engine.Tally) (pending : before.pending = 0)
    (rejected : ∀ send ∈ sends, send.2 = false) : after.pending = 0 := by
  induction sending with
  | none_ sys addrs => exact pending
  | @cons sys _ addr _ _ rest induction =>
      obtain ⟨first, later⟩ := List.forall_mem_cons.mp rejected
      refine induction ((pending_eq_zero _).mpr ?_) later
      exact tally.rejected sys.mem (request addr) first ((pending_eq_zero sys).mp pending)

theorem refuses_iff (sending : Sending request before after addrs sends)
    {last : engine.State} :
    engine.Refuses before.mem (sends.map fun send => request send.1) last ↔
      (∀ send ∈ sends, send.2 = false) ∧ last = after.mem := by
  induction sending with
  | none_ sys addrs =>
      constructor
      · rintro (_ | _)
        exact ⟨by simp, rfl⟩
      · rintro ⟨-, rfl⟩
        exact .nil _
  | cons rest induction =>
      rw [List.forall_mem_cons, and_assoc, ← induction]
      constructor
      · rintro (_ | ⟨rejected, rest⟩)
        exact ⟨rejected, rest⟩
      · rintro ⟨rejected, rest⟩
        exact .cons rejected rest

theorem single (sys : PyMemorySystem engine)
    (request : Int → Request (CppCallback π)) (addr : Int) :
    Sending request sys (sys.sendRequest (request addr)).2 [addr]
      [(addr, (sys.sendRequest (request addr)).1)] := .cons (.none_ _ [])

end Sending

variable (sys : PyMemorySystem engine)

def reaching (addrs : List Int) : List Int := addrs.takeWhile fun addr => FitsLong addr

theorem send_sending (addr : Int) (type : RequestType) (coreid : Int)
    (callback : Option π) :
    ∃ sends, Sending
        (fun addr => ⟨addr, type, coreid, makeCallback type callback coreid⟩) sys
          (sys.send addr type coreid callback).2 [addr] sends ∧
      (sends.map Prod.fst = if FitsInt coreid then reaching [addr] else []) ∧
      (∀ accepted, (sys.send addr type coreid callback).1 = .ok accepted →
        sends = [(addr, accepted)]) ∧
      ∀ error, (sys.send addr type coreid callback).1 = .error error → sends = [] := by
  unfold send
  split
  · rename_i fits
    refine ⟨_, Sending.single sys
      (fun addr => ⟨addr, type, coreid, makeCallback type callback coreid⟩) addr, ?_,
        fun accepted returned => ?_, fun error impossible => by cases impossible⟩
    · simp [reaching, fits]
    · rw [Except.ok.inj returned]
  · rename_i refused
    refine ⟨[], Sending.none_ sys _, ?_, fun accepted impossible => (by cases impossible),
      fun _ _ => rfl⟩
    split
    · rename_i fits
      have large : ¬ FitsLong addr := fun fitsLong => refused ⟨fitsLong, fits⟩
      simp [reaching, large]
    · rfl

theorem sendEach_sending (addrs : List Int) (type : RequestType) (coreid : Int)
    (callback : CppCallback π) :
    ∃ sends, Sending (fun addr => ⟨addr, type, coreid, callback⟩) sys
        (sys.sendEach type coreid callback addrs).2 addrs sends ∧
      sends.map Prod.fst = reaching addrs ∧
      (∀ flags, (sys.sendEach type coreid callback addrs).1 = .ok flags →
        sends = addrs.zip flags ∧ flags.length = addrs.length) ∧
      ∀ error, (sys.sendEach type coreid callback addrs).1 = .error error →
        sends.map Prod.fst ≠ addrs := by
  induction addrs generalizing sys with
  | nil =>
      exact ⟨[], Sending.none_ sys _, rfl, fun flags _ => by simp_all [sendEach],
        fun error impossible => by simp [sendEach] at impossible⟩
  | cons addr rest induction =>
      unfold sendEach
      split
      · rename_i fits
        obtain ⟨sends, sending, reached, returned, raised⟩ :=
          induction (sys.sendRequest ⟨addr, type, coreid, callback⟩).2
        refine ⟨_, Sending.cons sending, ?_, ?_⟩
        · simpa [reaching, fits] using reached
        · simp only
          generalize sendEach _ type coreid callback rest = answer at returned raised
          rcases answer with ⟨error | later, after⟩
          · refine ⟨fun flags impossible => (by cases impossible), fun _ _ => ?_⟩
            simpa using raised error rfl
          · obtain ⟨rfl, length⟩ := returned later rfl
            refine ⟨fun flags result => ?_, fun error impossible => by cases impossible⟩
            obtain rfl := Except.ok.inj result
            exact ⟨rfl, by simp [length]⟩
      · rename_i large
        exact ⟨[], Sending.none_ sys _, by simp [reaching, large],
          fun flags impossible => (by cases impossible), by simp⟩

theorem sendBatch_sending (addrs : List Int) (type : RequestType) (coreid : Int)
    (callback : Option π) :
    ∃ sends, Sending
        (fun addr => ⟨addr, type, coreid, makeCallback type callback coreid⟩) sys
          (sys.sendBatch addrs type coreid callback).2 addrs sends ∧
      (sends.map Prod.fst = if FitsInt coreid then reaching addrs else []) ∧
      (∀ flags, (sys.sendBatch addrs type coreid callback).1 = .ok flags →
        sends = addrs.zip flags ∧ flags.length = addrs.length) ∧
      ∀ error, (sys.sendBatch addrs type coreid callback).1 = .error error →
        sends ≠ [] → sends.map Prod.fst ≠ addrs := by
  unfold sendBatch
  split
  · obtain ⟨sends, sending, reached, returned, raised⟩ :=
      sys.sendEach_sending addrs type coreid (makeCallback type callback coreid)
    exact ⟨sends, sending, reached, returned, fun error result _ => raised error result⟩
  · exact ⟨[], Sending.none_ sys _, rfl, fun flags impossible => (by cases impossible),
      fun _ _ nonempty => absurd rfl nonempty⟩

def strided (start stride : Int) (count : Nat) : List Int :=
  (List.range count).map fun index : Nat => start + index * stride

theorem strided_succ (start stride : Int) (count : Nat) :
    strided start stride (count + 1) = start ::
      strided (start + stride) stride count := by
  simp only [strided, List.range_succ_eq_map, List.map_cons, List.map_map]
  refine congrArg₂ List.cons (by simp) (List.map_congr_left fun index _ => ?_)
  simp only [Function.comp_apply]
  push_cast
  ring

theorem length_strided {start stride : Int} {count : Nat} {flags : List Bool}
    (length : flags.length = count) :
    flags.length = (strided start stride count).length := by
  simp [strided, length]

theorem sendStrided_sending (type : RequestType) (coreid : Int) (callback : CppCallback π)
    (stride : Int) (count : Nat) (start : Int) :
    ∃ sends, Sending (fun addr => ⟨addr, type, coreid, callback⟩) sys
        (sys.sendStrided type coreid callback stride count start).2
          (strided start stride count) sends ∧
      sends = (strided start stride count).zip
        (sys.sendStrided type coreid callback stride count start).1 ∧
      (sys.sendStrided type coreid callback stride count start).1.length = count := by
  induction count generalizing sys start with
  | zero => exact ⟨[], .none_ sys _, rfl, rfl⟩
  | succ count induction =>
      obtain ⟨sends, sending, all, length⟩ := induction
        (sys.sendRequest ⟨start, type, coreid, callback⟩).2 (start + stride)
      rw [strided_succ]
      unfold sendStrided
      refine ⟨_, .cons sending, by rw [all]; rfl, ?_⟩
      simp only [List.length_cons, length]

theorem sendRange_sending (start count stride : Int) (type : RequestType) (coreid : Int)
    (callback : Option π) :
    ∃ sends, Sending
        (fun addr => ⟨addr, type, coreid, makeCallback type callback coreid⟩) sys
          (sys.sendRange start count stride type coreid callback).2
            (strided start stride count.toNat) sends ∧
      (sends.map Prod.fst = if FitsInt coreid then
        if FitsLong start ∧ FitsLong count ∧ FitsLong stride then
          strided start stride count.toNat else [] else []) ∧
      (∀ flags, (sys.sendRange start count stride type coreid callback).1 = .ok flags →
        sends = (strided start stride count.toNat).zip flags ∧
          flags.length = count.toNat) ∧
      ∀ error, (sys.sendRange start count stride type coreid callback).1 = .error error →
        sends = [] := by
  unfold sendRange
  split
  · obtain ⟨sends, sending, all, length⟩ := sys.sendStrided_sending type coreid
      (makeCallback type callback coreid) stride count.toNat start
    refine ⟨sends, sending, ?_, fun flags returned => ?_,
      fun error impossible => by cases impossible⟩
    · rename_i fits
      rw [if_pos fits.2.2.2, if_pos ⟨fits.1, fits.2.1, fits.2.2.1⟩, all]
      exact List.map_fst_zip (length_strided length).ge
    · obtain rfl := Except.ok.inj returned
      exact ⟨all, length⟩
  · rename_i refused
    refine ⟨[], .none_ sys _, ?_, fun flags impossible => (by cases impossible),
      fun _ _ => rfl⟩
    split
    · rename_i fits
      exact (if_neg fun both => refused ⟨both.1, both.2.1, both.2.2, fits⟩).symm
    · rfl

end PyMemorySystem

end Pyramulator
