import Mathlib.Algebra.Order.Group.Multiset
import Pyramulator.Memory.PyMemorySystem

namespace Pyramulator

/-! What the wrapper did between two moments is told by what passed between it
and the engine. -/

namespace Wire

variable {c : Type}

def accepted (wire : List (Wire c)) : List (Request c) :=
  wire.filterMap fun
    | .sent request true => some request
    | _ => none

def served (wire : List (Wire c)) : List (Served c) :=
  wire.flatMap fun
    | .ticked served => served
    | _ => []

def ticks (wire : List (Wire c)) : Nat :=
  wire.countP fun
    | .ticked _ => true
    | _ => false

@[simp] theorem accepted_nil : accepted ([] : List (Wire c)) = [] := rfl

@[simp] theorem served_nil : served ([] : List (Wire c)) = [] := rfl

@[simp] theorem ticks_nil : ticks ([] : List (Wire c)) = 0 := rfl

@[simp] theorem accepted_append (first second : List (Wire c)) :
    accepted (first ++ second) = accepted first ++ accepted second :=
  List.filterMap_append

@[simp] theorem served_append (first second : List (Wire c)) :
    served (first ++ second) = served first ++ served second :=
  List.flatMap_append

@[simp] theorem ticks_append (first second : List (Wire c)) :
    ticks (first ++ second) = ticks first + ticks second :=
  List.countP_append

@[simp] theorem accepted_sent (request : Request c) (answer : Bool) :
    accepted [.sent request answer] = if answer then [request] else [] := by
  cases answer <;> rfl

@[simp] theorem served_sent (request : Request c) (answer : Bool) :
    served [.sent request answer] = [] := rfl

@[simp] theorem ticks_sent (request : Request c) (answer : Bool) :
    ticks [.sent request answer] = 0 := rfl

theorem mem_accepted {wire : List (Wire c)} {request : Request c} :
    request ∈ accepted wire ↔ .sent request true ∈ wire := by
  simp only [accepted, List.mem_filterMap]
  constructor
  · rintro ⟨entry, member, same⟩
    cases entry with
    | sent other answer =>
        cases answer with
        | true => cases same; exact member
        | false => cases same
    | ticked called => cases same
  · exact fun member => ⟨_, member, rfl⟩

@[simp] theorem accepted_ticked (called : List (Served c)) :
    accepted [.ticked called] = [] := rfl

@[simp] theorem served_ticked (called : List (Served c)) :
    served [.ticked called] = called := by simp [served]

@[simp] theorem ticks_ticked (called : List (Served c)) :
    ticks [.ticked called] = 1 := rfl

end Wire

variable {π : Type}

def Served.recorded (served : Served (CppCallback π)) :
    Option (CompletionEvent π) :=
  let event (coreId : Int) (callback : π) : CompletionEvent π :=
    { addr := served.request.addr
      type := served.request.type
      arrive := served.arrive
      depart := served.depart
      coreId, callback }
  match served.request.callback with
  | .ignore => none
  | .record callback coreid => some (event coreid callback)
  | .driven _ callback => callback.map (event served.request.coreid)

/-- The closures of `drive_loop`, which count. -/
def CppCallback.isDriven : CppCallback π → Bool
  | .driven _ _ => true
  | _ => false

namespace PyMemorySystem

variable {engine : Engine (CppCallback π)}

theorem complete_eq (sys : PyMemorySystem engine)
    (served : Served (CppCallback π)) :
    sys.complete served = { sys with
      completed := sys.completed ++ served.recorded.toList
      completedCount := sys.completedCount +
        if served.request.callback.isDriven then 1 else 0 } := by
  unfold complete Served.recorded
  rcases served.request.callback with _ | _ | ⟨_, _ | _⟩ <;>
    simp [CppCallback.isDriven]

theorem foldl_complete (sys : PyMemorySystem engine)
    (called : List (Served (CppCallback π))) :
    called.foldl complete sys = { sys with
      completed := sys.completed ++ called.filterMap Served.recorded
      completedCount := sys.completedCount +
        called.countP fun served => served.request.callback.isDriven } := by
  induction called generalizing sys with
  | nil => simp
  | cons served rest induction =>
      rw [List.foldl_cons, induction, complete_eq]
      cases event : served.recorded <;>
        by_cases driven : served.request.callback.isDriven <;>
          simp [event, driven]
      all_goals omega

theorem tick_eq (sys : PyMemorySystem engine) :
    sys.tick = { sys with
      mem := (engine.tick sys.mem).2
      wire := sys.wire ++ [.ticked (engine.tick sys.mem).1]
      completed := sys.completed ++
        (engine.tick sys.mem).1.filterMap Served.recorded
      completedCount := sys.completedCount + (engine.tick sys.mem).1.countP
        fun served => served.request.callback.isDriven } := by
  simp only [tick]
  rw [foldl_complete]

/-- The wrapper came from one state to another, and `segment` passed. -/
structure Effect (ledger : engine.Ledger) (before after : PyMemorySystem engine)
    (segment : List (Wire (CppCallback π))) : Prop where
  wire : after.wire = before.wire ++ segment
  completed : after.completed = before.completed ++
    (Wire.served segment).filterMap Served.recorded
  count : after.completedCount = before.completedCount +
    (Wire.served segment).countP fun served => served.request.callback.isDriven
  drives : after.drives = before.drives
  reads : ledger.reads before.mem +
      ((Wire.accepted segment).filter fun request => request.type = .read :
        Multiset (Request (CppCallback π))) =
    ((Wire.served segment).map Served.request : Multiset (Request (CppCallback π)))
      + ledger.reads after.mem

namespace Effect

variable {ledger : engine.Ledger} {before middle after : PyMemorySystem engine}
  {first second : List (Wire (CppCallback π))}

theorem refl (sys : PyMemorySystem engine) : Effect ledger sys sys [] where
  wire := by simp
  completed := by simp
  count := by simp
  drives := rfl
  reads := by simp

theorem trans (one : Effect ledger before middle first)
    (other : Effect ledger middle after second) :
    Effect ledger before after (first ++ second) where
  wire := by rw [other.wire, one.wire, List.append_assoc]
  completed := by rw [other.completed, one.completed]; simp
  count := by rw [other.count, one.count]; simp; omega
  drives := other.drives.trans one.drives
  reads := by
    rw [Wire.accepted_append, Wire.served_append, List.filter_append,
      List.map_append, ← Multiset.coe_add, ← Multiset.coe_add, ← add_assoc,
      one.reads, add_assoc, add_assoc, ← other.reads]

end Effect

theorem tick_effect (ledger : engine.Ledger) (sys : PyMemorySystem engine) :
    Effect ledger sys sys.tick [.ticked (engine.tick sys.mem).1] where
  wire := by rw [tick_eq]
  completed := by rw [tick_eq, Wire.served_ticked]
  count := by rw [tick_eq, Wire.served_ticked]
  drives := by rw [tick_eq]
  reads := by
    rw [tick_eq, Wire.served_ticked, Wire.accepted_ticked]
    simpa using ledger.tick sys.mem

theorem sendRequest_effect (ledger : engine.Ledger) (sys : PyMemorySystem engine)
    (request : Request (CppCallback π)) :
    Effect ledger sys (sys.sendRequest request).2
      [.sent request (sys.sendRequest request).1] where
  wire := rfl
  completed := by simp [sendRequest]
  count := by simp [sendRequest]
  drives := rfl
  reads := by
    simp only [sendRequest, Wire.accepted_sent, Wire.served_sent]
    by_cases sent : (engine.send sys.mem request).1 = true
    · by_cases read : request.type = .read
      · rw [ledger.accepted _ _ read sent]
        simp [sent, read]
        rw [add_comm, Multiset.singleton_add]
      · rw [ledger.other _ _ (.inl read)]
        simp [sent, read]
    · rw [ledger.other _ _ (.inr (by simpa using sent))]
      simp [sent]

end PyMemorySystem

end Pyramulator
