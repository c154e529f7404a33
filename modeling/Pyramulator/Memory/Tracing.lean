import Pyramulator.Memory.Balance

namespace Pyramulator

/-! What passed between the wrapper and the engine tells what the engine did. -/

section

variable {c : Type}

def Request.changed (callback : Request c → c) (request : Request c) : Request c :=
  { request with callback := callback request }

def Served.changed (callback : Request c → c) (served : Served c) : Served c :=
  { served with request := served.request.changed callback }

def Wire.changed (callback : Request c → c) : Wire c → Wire c
  | .sent request accepted => .sent (request.changed callback) accepted
  | .ticked served => .ticked (served.map (Served.changed callback))

namespace Engine

variable {engine : Engine c}

/-- The engine calls the callbacks of its requests and does nothing else with them: when
they are changed, it does the same with the changed ones. -/
structure Blind (engine : Engine c) (callback : Request c → c) where
  state : engine.State → engine.State
  fresh : state engine.fresh = engine.fresh
  send : ∀ before request, engine.send (state before) (request.changed callback) =
    ((engine.send before request).1, state (engine.send before request).2)
  tick : ∀ before, engine.tick (state before) =
    ((engine.tick before).1.map (Served.changed callback), state (engine.tick before).2)
  pending :
    ∀ before, engine.pendingRequests (state before) = engine.pendingRequests before

inductive Traced (engine : Engine c) : engine.State → List (Wire c) → engine.State → Prop
  | nil (state : engine.State) : Traced engine state [] state
  | sent {state final : engine.State} {rest : List (Wire c)} (request : Request c)
      (later : Traced engine (engine.send state request).2 rest final) :
      Traced engine state (.sent request (engine.send state request).1 :: rest) final
  | ticked {state final : engine.State} {rest : List (Wire c)}
      (later : Traced engine (engine.tick state).2 rest final) :
      Traced engine state (.ticked (engine.tick state).1 :: rest) final

namespace Traced

variable {state middle final : engine.State} {first second : List (Wire c)}

theorem trans (one : Traced engine state first middle)
    (other : Traced engine middle second final) :
    Traced engine state (first ++ second) final := by
  induction one with
  | nil state => exact other
  | sent request later induction => exact .sent request (induction other)
  | ticked later induction => exact .ticked (induction other)

theorem unique {other : engine.State} (one : Traced engine state first final)
    (again : Traced engine state first other) : final = other := by
  induction one with
  | nil state =>
      cases again
      rfl
  | sent request later induction =>
      cases again with
      | sent _ again => exact induction again
  | ticked later induction =>
      cases again with
      | ticked again => exact induction again

theorem uncons {passed : Wire c} (traced : Traced engine state (passed :: first) final) :
    ∃ middle, Traced engine state [passed] middle ∧ Traced engine middle first final := by
  cases traced with
  | sent request later => exact ⟨_, .sent request (.nil _), later⟩
  | ticked later => exact ⟨_, .ticked (.nil _), later⟩

theorem changed {callback : Request c → c} (blind : engine.Blind callback)
    (traced : Traced engine state first final) :
    Traced engine (blind.state state) (first.map (Wire.changed callback))
      (blind.state final) := by
  induction traced with
  | nil state => exact .nil _
  | @sent state final rest request later induction =>
      have answer := blind.send state request
      have step : Traced engine (blind.state state)
          (.sent (request.changed callback)
            (engine.send (blind.state state) (request.changed callback)).1 :: rest.map
              (Wire.changed callback)) (blind.state final) := by
        refine .sent _ ?_
        rw [answer]
        exact induction
      rw [answer] at step
      exact step
  | @ticked state final rest later induction =>
      have answer := blind.tick state
      have step : Traced engine (blind.state state)
          (.ticked (engine.tick (blind.state state)).1 ::
            rest.map (Wire.changed callback))
            (blind.state final) := by
        refine .ticked ?_
        rw [answer]
        exact induction
      rw [answer] at step
      exact step

end Traced

def fixedLatencyBlind (latency : Int) (slots : Nat) (callback : Request c → c) :
    (fixedLatency c latency slots).Blind callback where
  state before :=
    { before with queue := before.queue.map fun entry =>
      (entry.1, entry.2.changed callback) }
  fresh := rfl
  send before request := by
    simp only [fixedLatency, List.length_map]
    split
    · simp
    · rfl
  tick before := by
    simp only [fixedLatency, List.filter_map, List.map_map]
    rfl
  pending before := List.length_map _

end Engine

end

section

variable {π : Type}

def CppCallback.undriven (coreid : Int) : CppCallback π → CppCallback π
  | .driven _ callback => callback.elim .ignore fun callback => .record callback coreid
  | callback => callback

def Request.undriven (request : Request (CppCallback π)) : CppCallback π :=
  request.callback.undriven request.coreid

theorem Served.recorded_undriven (served : Served (CppCallback π)) :
    (served.changed Request.undriven).recorded = served.recorded := by
  rcases served with ⟨⟨addr, type, coreid, _ | _ | ⟨_, _ | _⟩⟩, arrive, depart⟩ <;> rfl

namespace PyMemorySystem

variable {engine : Engine (CppCallback π)}

/-- The engine and the wrapper went from one state to another, and `segment` passed. -/
structure Covers (before after : PyMemorySystem engine)
    (segment : List (Wire (CppCallback π))) : Prop where
  trace : engine.Traced before.mem segment after.mem
  wire : after.wire = before.wire ++ segment
  completed : after.completed =
    before.completed ++ (Wire.served segment).filterMap Served.recorded

namespace Covers

variable {before middle after : PyMemorySystem engine}
  {first second : List (Wire (CppCallback π))}

theorem refl (sys : PyMemorySystem engine) : Covers sys sys [] where
  trace := .nil _
  wire := (List.append_nil _).symm
  completed := (List.append_nil _).symm

theorem trans (one : Covers before middle first) (other : Covers middle after second) :
    Covers before after (first ++ second) where
  trace := one.trace.trans other.trace
  wire := by rw [other.wire, one.wire, List.append_assoc]
  completed := by
    rw [other.completed, one.completed, Wire.served_append, List.filterMap_append,
      List.append_assoc]

theorem sent (sys : PyMemorySystem engine) (request : Request (CppCallback π)) :
    Covers sys (sys.sendRequest request).2
      [.sent request (sys.sendRequest request).1] where
  trace := .sent request (.nil _)
  wire := rfl
  completed := (List.append_nil _).symm

theorem ticked (sys : PyMemorySystem engine) :
    Covers sys sys.tick [.ticked (engine.tick sys.mem).1] where
  trace := by
    rw [tick_eq]
    exact .ticked (.nil _)
  wire := by rw [tick_eq]
  completed := by rw [tick_eq, Wire.served_ticked]

end Covers

theorem ticks_eq (sys : PyMemorySystem engine) : sys.ticks = Wire.ticks sys.wire := by
  apply List.countP_congr
  intro passed _
  cases passed <;> rfl

theorem Passes.covers {asks : Request (CppCallback π) → Prop}
    {before after : PyMemorySystem engine} (passes : Passes asks before after) :
    ∃ segment, Covers before after segment ∧
      ∀ request accepted, .sent request accepted ∈ segment → asks request := by
  induction passes with
  | refl sys => exact ⟨[], .refl sys, by simp⟩
  | sent sys request asked =>
      refine ⟨_, .sent sys request, fun other accepted member => ?_⟩
      obtain ⟨rfl, -⟩ := Wire.sent.inj (List.mem_singleton.mp member)
      exact asked
  | ticked sys => exact ⟨_, .ticked sys, by simp⟩
  | trans _ _ one other =>
      obtain ⟨first, begun, mine⟩ := one
      obtain ⟨second, ended, yours⟩ := other
      refine ⟨_, begun.trans ended, fun request accepted member => ?_⟩
      rcases List.mem_append.mp member with older | newer
      · exact mine request accepted older
      · exact yours request accepted newer

end PyMemorySystem

namespace Drive

variable {engine : Engine (CppCallback π)}

/-- A drive sends requests of its own, and it counts those that are accepted. -/
structure Issues (request : Nat → Request (CppCallback π)) (total : Int)
    (drive after : Drive engine) (segment : List (Wire (CppCallback π))) : Prop where
  covers : drive.sys.Covers after.sys segment
  issued : drive.issued + (Wire.accepted segment).length = after.issued
  own : ∀ sent accepted, .sent sent accepted ∈ segment →
    ∃ index : Nat, (index : Int) < total ∧ sent = request index

section

variable {request : Nat → Request (CppCallback π)} {total : Int}
  {drive middle after : Drive engine} {first second : List (Wire (CppCallback π))}

namespace Issues

theorem refl (drive : Drive engine) : Issues request total drive drive [] where
  covers := .refl _
  issued := rfl
  own := by simp

theorem trans (one : Issues request total drive middle first)
    (other : Issues request total middle after second) :
    Issues request total drive after (first ++ second) where
  covers := one.covers.trans other.covers
  issued := by
    have begun := one.issued
    have ended := other.issued
    rw [Wire.accepted_append, List.length_append]
    omega
  own sent accepted member := by
    rcases List.mem_append.mp member with older | newer
    · exact one.own sent accepted older
    · exact other.own sent accepted newer

theorem tick (drive : Drive engine) :
    Issues request total drive drive.tick [.ticked (engine.tick drive.sys.mem).1] where
  covers := .ticked drive.sys
  issued := rfl
  own := by simp

theorem sent (request : Nat → Request (CppCallback π)) (drive : Drive engine)
    (more : drive.issued < total) :
    let answer := drive.sys.sendRequest (request drive.issued)
    Issues request total drive
      { drive with
        sys := answer.2
        issued := if answer.1 then drive.issued + 1 else drive.issued }
      [.sent (request drive.issued) answer.1] where
  covers := .sent drive.sys _
  issued := by
    rw [Wire.accepted_sent]
    split <;> rfl
  own sent accepted member := by
    obtain ⟨rfl, -⟩ := Wire.sent.inj (List.mem_singleton.mp member)
    exact ⟨_, more, rfl⟩

end Issues

end

variable (request : Nat → Request (CppCallback π)) (total : Int)

theorem fill_issues (queueDepth : Int) (left : Nat) (drive : Drive engine)
    (more : drive.issued + left ≤ total) :
    ∃ segment,
      Issues request total drive (drive.fill request queueDepth left) segment := by
  induction left generalizing drive with
  | zero => exact ⟨_, .refl drive⟩
  | succ left induction =>
      unfold fill
      split
      · have below : (drive.issued : Int) < total := by omega
        have sent := Issues.sent request drive below
        generalize drive.sys.sendRequest (request drive.issued) = answer at sent
        rcases answer with ⟨accepted, sys⟩
        cases accepted with
        | true =>
            obtain ⟨segment, filled⟩ := induction
              { drive with sys, issued := drive.issued + 1 } (by push_cast at *; omega)
            exact ⟨_, sent.trans filled⟩
        | false => exact ⟨_, sent⟩
      · exact ⟨_, .refl drive⟩

theorem tickBatch_issues (maxCycles : Int) (left : Nat) (drive : Drive engine) :
    ∃ segment,
      Issues request total drive (drive.tickBatch total maxCycles left) segment := by
  induction left generalizing drive with
  | zero => exact ⟨_, .refl drive⟩
  | succ left induction =>
      unfold tickBatch
      split
      · obtain ⟨segment, batched⟩ := induction drive.tick
        exact ⟨_, (Issues.tick drive).trans batched⟩
      · exact ⟨_, .refl drive⟩

theorem rounds_issues (queueDepth batch maxCycles : Int) (positive : 1 ≤ batch)
    (drive : Drive engine) :
    ∃ segment, Issues request total drive
      (drive.rounds request total queueDepth batch maxCycles positive) segment := by
  fun_induction Drive.rounds with
  | case1 drive guard induction =>
      obtain ⟨filled, begun⟩ := fill_issues request total queueDepth
        (total - drive.issued).toNat drive (by omega)
      obtain ⟨batched, ran⟩ := tickBatch_issues request total maxCycles
        batch.toNat (drive.fill request queueDepth (total - drive.issued).toNat)
      obtain ⟨segment, ended⟩ := induction
      exact ⟨_, (begun.trans ran).trans ended⟩
  | case2 drive guard => exact ⟨_, .refl drive⟩

theorem drain_issues (left : Nat) (drive : Drive engine) :
    ∃ segment, Issues request total drive (drive.drain left) segment := by
  induction left generalizing drive with
  | zero => exact ⟨_, .refl drive⟩
  | succ left induction =>
      unfold drain
      split
      · obtain ⟨segment, drained⟩ := induction drive.tick
        exact ⟨_, (Issues.tick drive).trans drained⟩
      · exact ⟨_, .refl drive⟩

end Drive

theorem PyMemorySystem.driveLoops_issues {engine : Engine (CppCallback π)}
    (sys : PyMemorySystem engine) (addr : Nat → Int)
    (total queueDepth batch maxCycles : Int)
    (positive : 1 ≤ batch) (callback : Option π) :
    ∃ segment, Drive.Issues (sys.driveRequest addr callback) total sys.driveStart
      (sys.driveLoops addr total queueDepth batch maxCycles positive callback)
        segment := by
  obtain ⟨issuing, begun⟩ := Drive.rounds_issues (sys.driveRequest addr callback) total
    queueDepth batch maxCycles positive sys.driveStart
  obtain ⟨draining, ended⟩ :=
    Drive.drain_issues (sys.driveRequest addr callback) total _ _
  exact ⟨_, begun.trans ended⟩

end

end Pyramulator
