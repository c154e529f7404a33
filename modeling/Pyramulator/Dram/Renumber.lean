import Pyramulator.Dram.Requests
import Pyramulator.Sim.Renumber

namespace Pyramulator

/-! The components do not depend on the numbers of the events. -/

/-- Components that differ in the number of the idle event and in the notes of their
calls only. -/
inductive Dram.Alike {γ : Type} {engine : Engine (DramCallback γ)}
    (ids : Nat → Nat → Prop) (dram : Dram engine) : Dram engine → Prop
  | intro (idleEventId : Option Nat) (submitted : List (Submission γ))
      (idle : Option.Rel ids dram.idleEventId idleEventId) :
      Alike ids dram { dram with
        idleEventId := idleEventId
        submitted := submitted }

theorem optionRel_mono {α β : Type} {R S : α → β → Prop} {one : Option α}
    {other : Option β}
    (related : Option.Rel R one other) (weaker : R ≤ S) : Option.Rel S one other := by
  cases related with
  | none => exact .none
  | some known => exact .some (weaker _ _ known)

namespace Dram.Alike

variable {γ : Type} {engine : Engine (DramCallback γ)} {ids more : Nat → Nat → Prop}
  {dram other : Dram engine}

theorem mono (alike : Alike ids dram other) (grows : ids ≤ more) :
    Alike more dram other := by
  cases alike with
  | intro idleEventId submitted idle =>
      exact .intro idleEventId submitted (optionRel_mono idle grows)

end Dram.Alike

structure Device.Alike {κ γ : Type} {engine : Engine (DramCallback γ)}
    (ids : Nat → Nat → Prop) (first second : Device κ engine) : Prop where
  sim : Simulator.Alike ids first.sim second.sim
  dram : Dram.Alike ids first.dram second.dram

namespace Device

variable {κ γ : Type} {engine : Engine (DramCallback γ)}

abbrev InStep {α : Type} (ids : Nat → Nat → Prop) (V : (Nat → Nat → Prop) → α → α → Prop)
    (method other : Call κ engine α) : Prop :=
  Method.Simulates Alike ids V method other

namespace InStep

variable {α : Type} {ids : Nat → Nat → Prop}

theorem onSim {V : (Nat → Nat → Prop) → α → α → Prop}
    {call other : Simulator κ → Except PyError α × Simulator κ}
    (inStep : Simulator.InStep ids V call other) :
    InStep ids V (Device.onSim call : Call κ engine α) (Device.onSim other) := by
  intro world known first second alike
  obtain ⟨later, grows, after, agree⟩ := inStep world known _ _ alike.sim
  exact ⟨later, grows, ⟨after, alike.dram.mono grows⟩, agree⟩

theorem assign {change other : Dram engine → Dram engine}
    (keeps : ∀ world, ids ≤ world → ∀ first second, Dram.Alike world first second →
      Dram.Alike world (change first) (other second)) :
    InStep ids (fun _ => Eq) (Device.assign change : Call κ engine Unit)
      (Device.assign other) :=
  fun world known _ _ alike =>
    ⟨world, le_refl _, ⟨alike.sim, keeps world known _ _ alike.dram⟩, rfl⟩

theorem blind {change : Dram engine → Dram engine}
    (commutes : ∀ dram idleEventId submitted,
      change { dram with
        idleEventId := idleEventId
        submitted := submitted } =
      { change dram with
        idleEventId := idleEventId
        submitted := submitted })
    (keeps : ∀ dram, (change dram).idleEventId = dram.idleEventId) :
    InStep ids (fun _ => Eq) (Device.assign change : Call κ engine Unit)
      (Device.assign change) := by
  apply assign
  rintro world - first second ⟨idleEventId, submitted, idle⟩
  have same := commutes first idleEventId submitted
  rw [same]
  exact .intro _ _ (keeps first ▸ idle)

theorem onMem [DecidableEq γ] (op : MemoryOp (Collector γ)) :
    InStep ids (fun _ => Eq) (Device.onMem op : Call κ engine MemoryValue)
      (Device.onMem op) := by
  rintro world - ⟨sim, dram⟩ ⟨target, other⟩ ⟨sims, drams⟩
  cases drams with
  | intro idleEventId submitted idle =>
      refine ⟨world, le_refl _, ?_⟩
      simp only [Device.onMem]
      rcases op.begin dram.mem with ⟨error | value | ⟨events, ending⟩ | _, mem⟩
      · exact ⟨⟨sims, .intro _ _ idle⟩, rfl⟩
      · exact ⟨⟨sims, .intro _ _ idle⟩, rfl⟩
      · exact ⟨⟨sims, .intro _ _ idle⟩, rfl⟩
      · exact ⟨⟨sims, .intro _ _ idle⟩, rfl⟩

end InStep

end Device

namespace Dram

open Device
open Method.Simulates (pure bind get raise ite)

variable {κ γ : Type} {engine : Engine (DramCallback γ)} (closure : DramEvent γ → κ)
  (ids : Nat → Nat → Prop)

theorem scheduleCycles_inStep (count : Int) (event : DramEvent γ) :
    InStep ids (fun ids => ids) (scheduleCycles closure count event : Call κ engine Nat)
      (scheduleCycles closure count event) := by
  refine bind get fun world known first second alike => ?_
  rcases second with ⟨target, other⟩
  cases alike.dram with
  | intro idleEventId submitted idle =>
      apply InStep.onSim
      simp only [Component.scheduleCycles]
      split
      · exact raise _
      · exact Simulator.schedule_inStep _ _ _ _ _

theorem deliverEach_inStep (completed : List (RequestInfo × Option γ)) :
    InStep ids (fun _ => Eq) (deliverEach closure completed : Call κ engine Unit)
      (deliverEach closure completed) := by
  induction completed generalizing ids with
  | nil => exact pure fun _ _ => rfl
  | cons completion rest induction =>
      refine bind get fun world known first second alike => ?_
      rcases second with ⟨target, other⟩
      have now : first.sim.now = target.now := alike.sim.now
      cases alike.dram with
      | intro idleEventId submitted idle =>
          simp only [now]
          refine bind (InStep.blind (fun _ _ _ => rfl) fun _ => rfl)
            fun world known _ _ _ => ?_
          obtain ⟨info, _ | callback⟩ := completion
          · exact induction world
          · exact bind (InStep.onSim (Simulator.schedule_inStep _ _ _ _ _))
              fun world known _ _ _ => induction world

theorem deliverCompleted_inStep :
    InStep ids (fun _ => Eq) (deliverCompleted closure : Call κ engine Unit)
      (deliverCompleted closure) := by
  refine bind get fun world known first second alike => ?_
  rcases second with ⟨target, other⟩
  cases alike.dram with
  | intro idleEventId submitted idle => exact deliverEach_inStep closure world _

theorem startTicking_inStep :
    InStep ids (fun _ => Eq) (startTicking closure : Call κ engine Unit)
      (startTicking closure) := by
  have begin_ (now : Int) (ids : Nat → Nat → Prop) :
      InStep ids (fun _ => Eq) (do
        assign fun dram : Dram engine => { dram with
          ticking := true
          stretches := dram.stretches ++ [(now, dram.cycles)] }
        let _ ← scheduleCycles closure 1 .tick
        Pure.pure () : Call κ engine Unit) (do
        assign fun dram : Dram engine => { dram with
          ticking := true
          stretches := dram.stretches ++ [(now, dram.cycles)] }
        let _ ← scheduleCycles closure 1 .tick
        Pure.pure () : Call κ engine Unit) :=
    bind (InStep.blind (fun _ _ _ => rfl) fun _ => rfl) fun world _ _ _ _ =>
      bind (scheduleCycles_inStep closure world _ _) fun _ _ _ _ _ => pure fun _ _ => rfl
  refine bind get fun world known first second alike => ?_
  rcases second with ⟨target, other⟩
  have now : first.sim.now = target.now := alike.sim.now
  cases alike.dram with
  | intro idleEventId submitted idle =>
      simp only [now]
      refine ite Iff.rfl (pure fun _ _ => rfl) (ite Iff.rfl ?_ (begin_ _ _))
      refine bind (InStep.blind (fun _ _ _ => rfl) fun _ => rfl) fun later grows _ _ _ =>
        ?_
      generalize first.dram.idleEventId = eventId at idle ⊢
      cases idle with
      | none => exact bind (V := fun _ => Eq) (raise _) fun world _ _ _ _ =>
          begin_ _ world
      | some match_ =>
          exact bind (InStep.onSim (Simulator.cancel_inStep _ (grows _ _ match_)))
            fun world _ _ _ _ => begin_ _ world

omit closure ids in
theorem assign_idleEventId {ids : Nat → Nat → Prop} {one other : Nat}
    (match_ : ids one other) :
    InStep ids (fun _ => Eq)
      (assign fun dram => { dram with idleEventId := some one } : Call κ engine Unit)
      (assign fun dram => { dram with idleEventId := some other }) := by
  apply InStep.assign
  rintro world grows first second ⟨idleEventId, submitted, idle⟩
  have related : Option.Rel world (some one) (some other) := .some (grows _ _ match_)
  exact @Alike.intro _ _ _ { first with idleEventId := some one } _ submitted related

theorem startIdleTicking_inStep :
    InStep ids (fun _ => Eq) (startIdleTicking closure : Call κ engine Unit)
      (startIdleTicking closure) := by
  refine bind get fun world known first second alike => ?_
  rcases second with ⟨target, other⟩
  cases alike.dram with
  | intro idleEventId submitted idle =>
      refine ite Iff.rfl (pure fun _ _ => rfl) ?_
      refine bind (InStep.blind (fun _ _ _ => rfl) fun _ => rfl) fun world _ _ _ _ => ?_
      exact bind (scheduleCycles_inStep closure world _ _)
        fun world _ one other match_ => assign_idleEventId match_

theorem afterTick_inStep :
    InStep ids (fun _ => Eq) (afterTick closure : Call κ engine Unit)
      (afterTick closure) := by
  refine bind (deliverCompleted_inStep closure ids) fun world _ _ _ _ => ?_
  refine bind get fun world known first second alike => ?_
  rcases second with ⟨target, other⟩
  cases alike.dram with
  | intro idleEventId submitted idle =>
      refine ite Iff.rfl ?_ (bind (InStep.blind (fun _ _ _ => rfl) fun _ => rfl)
        fun world _ _ _ _ => ite Iff.rfl (startIdleTicking_inStep closure world)
          (pure fun _ _ => rfl))
      exact bind (scheduleCycles_inStep closure world _ _) fun _ _ _ _ _ =>
        pure fun _ _ => rfl

variable [DecidableEq γ]

omit closure ids in
theorem collector_blind (dram : Dram engine) (callback : Option γ)
    (idleEventId : Option Nat) (submitted : List (Submission γ)) :
    ({ dram with
        idleEventId := idleEventId
        submitted := submitted } : Dram engine).collector callback =
      ((dram.collector callback).1, { (dram.collector callback).2 with
        idleEventId := idleEventId
        submitted := submitted }) := by
  unfold collector
  simp only
  split
  · split <;> rfl
  · rfl

theorem request_inStep (op : Collector γ → MemoryOp (Collector γ)) (deliver : Bool)
    (callback : Option γ) :
    InStep ids (fun _ => Eq)
      (request closure op deliver callback : Call κ engine MemoryValue)
      (request closure op deliver callback) := by
  have begin_ (value : MemoryValue) (ids : Nat → Nat → Prop) :
      InStep ids (fun _ => Eq)
        (do startTicking closure; Pure.pure value : Call κ engine MemoryValue)
        (do startTicking closure; Pure.pure value : Call κ engine MemoryValue) :=
    bind (startTicking_inStep closure ids) fun _ _ _ _ _ => pure fun _ _ => rfl
  refine bind get fun world known first second alike => ?_
  rcases second with ⟨target, other⟩
  cases alike.dram with
  | intro idleEventId submitted idle =>
      refine bind (InStep.blind (fun dram idleEventId submitted => ?_) fun dram => ?_)
        fun world _ _ _ _ => ?_
      · rw [collector_blind]
      · obtain ⟨src, wrap, count, same⟩ := collector_eq dram callback
        rw [same]
      · have same := collector_blind first.dram callback idleEventId submitted
        simp only [same]
        refine bind (InStep.onMem _) fun world _ value other same => ?_
        subst same
        exact ite Iff.rfl (ite Iff.rfl (bind (deliverCompleted_inStep closure world)
          fun world _ _ _ _ => begin_ value world) (begin_ value world))
            (pure fun _ _ => rfl)

omit [DecidableEq γ] in
theorem maxTickBurst_inStep :
    InStep ids (fun _ => Eq) (maxTickBurst : Call κ engine Int) maxTickBurst := by
  refine bind get fun world known first second alike => ?_
  rcases second with ⟨target, other⟩
  have now : first.sim.now = target.now := alike.sim.now
  have runUntil : first.sim.runUntil = target.runUntil := alike.sim.runUntil
  cases alike.dram with
  | intro idleEventId submitted idle =>
      refine bind (InStep.onSim (Simulator.nextTime_inStep world))
        fun world _ one other same => ?_
      exact pure fun _ _ => by rw [now, runUntil, same]

theorem tick_inStep :
    InStep ids (fun _ => Eq) (tick closure : Call κ engine Unit) (tick closure) := by
  refine bind (maxTickBurst_inStep ids) fun world _ burst other same => ?_
  subst same
  refine bind (InStep.onMem _) fun world _ value other same => ?_
  subst same
  refine bind get fun world known first second alike => ?_
  rcases second with ⟨target, other⟩
  have now : first.sim.now = target.now := alike.sim.now
  cases alike.dram with
  | intro idleEventId submitted idle =>
      simp only [now]
      split
      · exact ite Iff.rfl (bind (InStep.onSim (Simulator.advanceTo_inStep world _))
          fun world _ _ _ _ => afterTick_inStep closure world)
            (afterTick_inStep closure world)
      · exact afterTick_inStep closure world

theorem tickOnce_inStep :
    InStep ids (fun _ => Eq) (tickOnce closure : Call κ engine Unit) (tickOnce closure) :=
  bind (InStep.onMem _) fun world _ _ _ _ => afterTick_inStep closure world

theorem idleTick_inStep :
    InStep ids (fun _ => Eq) (idleTick closure : Call κ engine Unit)
      (idleTick closure) := by
  refine bind get fun world known first second alike => ?_
  rcases second with ⟨target, other⟩
  cases alike.dram with
  | intro idleEventId submitted idle =>
      refine bind (InStep.onMem _) fun world _ _ _ _ => ?_
      refine bind get fun world known first second alike => ?_
      rcases second with ⟨target, other⟩
      cases alike.dram with
      | intro idleEventId submitted idle =>
          refine ite Iff.rfl (bind (InStep.blind (fun _ _ _ => rfl) fun _ => rfl)
            fun world _ _ _ _ => startTicking_inStep closure world)
              (bind (InStep.blind (fun _ _ _ => rfl) fun _ => rfl) fun world _ _ _ _ =>
                ?_)
          refine bind get fun world known first second alike => ?_
          rcases second with ⟨target, other⟩
          cases alike.dram with
          | intro idleEventId submitted idle =>
              exact bind (scheduleCycles_inStep closure world _ _)
                fun world _ one other match_ => assign_idleEventId match_

theorem method_inStep (request : DramRequest γ) :
    InStep ids (fun _ => Eq) (method closure request : Call κ engine MemoryValue)
      (method closure request) := by
  rw [DramRequest.method_eq]
  exact request_inStep closure ids _ _ _

theorem submit_inStep (request : DramRequest γ) :
    InStep ids (fun _ => Eq) (submit closure request : Call κ engine MemoryValue)
      (submit closure request) := by
  intro world known first second alike
  obtain ⟨later, grows, ⟨sims, drams⟩, agree⟩ :=
    method_inStep closure ids request world known first second alike
  refine ⟨later, grows, ⟨sims, ?_⟩, agree⟩
  simp only [submit]
  generalize (method closure request first).2.dram = before at drams
  generalize (method closure request second).2.dram = after at drams
  cases drams with
  | intro idleEventId submitted idle =>
      exact @Alike.intro _ _ _ { before with submitted := _ } _ _ idle

omit [DecidableEq γ] in
theorem create_inStep (setup : DramSetup γ) {first second : Simulator κ}
    (alike : Simulator.Alike ids first second) :
    ∃ later, ids ≤ later ∧
      Simulator.Alike later (create closure setup first).2
        (create closure setup second).2 ∧
        Method.Agree (Dram.Alike later) (create closure setup first).1
          (create closure setup second).1 := by
  have new (clk : Clock) (base_pos : 1 ≤ setup.idleBatchCycles) (now : Int) :
      Dram.Alike ids (fresh setup clk base_pos now) (fresh setup clk base_pos now) :=
    @Alike.intro _ _ _ (fresh setup clk base_pos now) none [] .none
  unfold create
  rw [alike.now]
  split
  · exact ⟨ids, le_refl _, alike, rfl⟩
  · rename_i clk _
    split
    · rename_i base_pos
      have started := startIdleTicking_inStep closure ids ids (le_refl _)
        ⟨first, fresh setup clk base_pos second.now⟩
        ⟨second, fresh setup clk base_pos second.now⟩ ⟨alike, new clk base_pos _⟩
      simp only
      split
      · obtain ⟨later, grows, ⟨sims, drams⟩, agree⟩ := started
        refine ⟨later, grows, ?_⟩
        generalize startIdleTicking closure
          ⟨first, fresh setup clk base_pos second.now⟩ = result at sims drams agree ⊢
        generalize startIdleTicking closure
          ⟨second, fresh setup clk base_pos second.now⟩ = answer at sims drams agree ⊢
        rcases result with ⟨_ | _, _⟩ <;> rcases answer with ⟨_ | _, _⟩
        · exact ⟨sims, agree⟩
        · exact agree.elim
        · exact agree.elim
        · exact ⟨sims, drams⟩
      · exact ⟨ids, le_refl _, alike, new clk base_pos _⟩
    · exact ⟨ids, le_refl _, alike, rfl⟩

end Dram

namespace DramWorld

variable {ℓ γ η : Type} {setups : ℓ → DramSetup γ} {ids : Nat → Nat → Prop}

/-- Worlds whose components are alike, with the same events of user code. -/
structure Alike (ids : Nat → Nat → Prop) (world other : DramWorld setups) : Prop where
  drams : ∀ label, Option.Rel (Dram.Alike ids) (world.drams label) (other.drams label)
  hostIds : List.Forall₂ ids world.hostIds other.hostIds

inductive Leaves (ids : Nat → Nat → Prop) :
    Outcome (DramCode ℓ γ η) (DramWorld setups) →
      Outcome (DramCode ℓ γ η) (DramWorld setups) → Prop
  | done {sim target : Simulator (DramCode ℓ γ η)} {world other : DramWorld setups}
      (sims : Simulator.Alike ids sim target) (worlds : Alike ids world other) :
      Leaves ids (.done sim world) (.done target other)
  | user (code : DramCode ℓ γ η) {sim target : Simulator (DramCode ℓ γ η)}
      {world other : DramWorld setups} (sims : Simulator.Alike ids sim target)
      (worlds : Alike ids world other) :
      Leaves ids (.user code sim world) (.user code target other)
  | raised (error : PyError) {sim target : Simulator (DramCode ℓ γ η)}
      {world other : DramWorld setups} (sims : Simulator.Alike ids sim target)
      (worlds : Alike ids world other) :
      Leaves ids (.raised error sim world) (.raised error target other)

namespace Alike

variable {world other : DramWorld setups}

theorem mono (alike : Alike ids world other) {more : Nat → Nat → Prop}
    (grows : ids ≤ more) :
    Alike more world other where
  drams label := optionRel_mono (alike.drams label) fun _ _ same => same.mono grows
  hostIds := alike.hostIds.imp grows

theorem put [DecidableEq ℓ] (alike : Alike ids world other) {label : ℓ}
    {dram changed : Dram (setups label).engine} (same : Dram.Alike ids dram changed) :
    Alike ids (world.put label dram) (other.put label changed) where
  drams name := by
    by_cases here : name = label
    · subst here
      rw [put_self, put_self]
      exact .some same
    · rw [put_other _ here, put_other _ here]
      exact alike.drams name
  hostIds := alike.hostIds

theorem read (alike : Alike ids world other) (label : ℓ) {α : Type}
    (value : Dram (setups label).engine → α)
    (blind : ∀ dram idleEventId submitted, value { dram with
      idleEventId := idleEventId
      submitted := submitted } = value dram) :
    (other.drams label).map value = (world.drams label).map value := by
  have same := alike.drams label
  generalize world.drams label = dram at same
  generalize other.drams label = changed at same
  cases same with
  | none => rfl
  | some same =>
      cases same with
      | intro idleEventId submitted idle => exact congrArg some (blind _ _ _)

theorem waiting (alike : Alike ids world other) (target : ℓ) :
    DramWorld.waiting target other = DramWorld.waiting target world := by
  have same := alike.read target (fun dram => decide (0 < dram.pending)) fun _ _ _ => rfl
  have each := congrArg (Option.any id) same
  simpa [DramWorld.waiting, Option.any_map] using each

theorem handle (worlds : Alike ids world other) (handle : Nat) :
    Option.Rel ids world.hostIds[handle]? other.hostIds[handle]? := by
  have each := worlds.hostIds
  generalize world.hostIds = numbers at each
  generalize other.hostIds = others at each
  induction each generalizing handle with
  | nil => exact .none
  | cons match_ rest induction =>
      cases handle with
      | zero => exact .some match_
      | succ handle => exact induction handle

end Alike

variable [DecidableEq ℓ] {sim target : Simulator (DramCode ℓ γ η)}
  {world other : DramWorld setups}

theorem onDram_inStep {α : Type} (label : ℓ)
    {method : Device.Call (DramCode ℓ γ η) (setups label).engine α}
    (inStep : Device.InStep ids (fun _ => Eq) method method)
    (sims : Simulator.Alike ids sim target) (worlds : Alike ids world other) :
    ∃ later, ids ≤ later ∧
      (onDram label method sim world).1 = (onDram label method target other).1 ∧
      Simulator.Alike later (onDram label method sim world).2.1
        (onDram label method target other).2.1 ∧
      Alike later (onDram label method sim world).2.2
        (onDram label method target other).2.2 := by
  have same := worlds.drams label
  unfold onDram
  generalize world.drams label = dram at same
  generalize other.drams label = changed at same
  cases same with
  | none => exact ⟨ids, le_refl _, rfl, sims, worlds⟩
  | @some dram changed same =>
      obtain ⟨later, grows, ⟨simsLater, dramsLater⟩, agree⟩ :=
        inStep ids (le_refl _) ⟨sim, dram⟩ ⟨target, changed⟩ ⟨sims, same⟩
      exact ⟨later, grows, congrArg (Except.map some) agree.eq, simsLater,
        (worlds.mono grows).put dramsLater⟩

omit [DecidableEq ℓ] in
theorem scheduled_inStep {call : Simulator (DramCode ℓ γ η) →
      Except PyError Nat × Simulator (DramCode ℓ γ η)}
    (inStep : Simulator.InStep ids (fun ids => ids) call call)
    (sims : Simulator.Alike ids sim target) (worlds : Alike ids world other) :
    ∃ later, ids ≤ later ∧
      (world.scheduled (call sim)).1 = (other.scheduled (call target)).1 ∧
      Simulator.Alike later (world.scheduled (call sim)).2.1
        (other.scheduled (call target)).2.1 ∧
      Alike later (world.scheduled (call sim)).2.2
        (other.scheduled (call target)).2.2 := by
  obtain ⟨later, grows, after, agree⟩ := inStep ids (le_refl _) sim target sims
  refine ⟨later, grows, ?_⟩
  generalize call sim = result at after agree ⊢
  generalize call target = answer at after agree ⊢
  rcases result with ⟨error | eventId, sim⟩ <;>
    rcases answer with ⟨error | otherId, target⟩
  · exact ⟨congrArg Except.error agree, after, worlds.mono grows⟩
  · exact agree.elim
  · exact agree.elim
  · have hosts := worlds.mono grows
    refine ⟨?_, after, hosts.drams, ?_⟩
    · simp only [scheduled, worlds.hostIds.length_eq]
    · exact List.rel_append hosts.hostIds (.cons agree .nil)

variable [DecidableEq γ]

theorem exec_inStep (op : DramOp ℓ γ η) (sims : Simulator.Alike ids sim target)
    (worlds : Alike ids world other) :
    ∃ later, ids ≤ later ∧ (exec op sim world).1 = (exec op target other).1 ∧
      Simulator.Alike later (exec op sim world).2.1 (exec op target other).2.1 ∧
      Alike later (exec op sim world).2.2 (exec op target other).2.2 := by
  cases op with
  | build label =>
      have same := worlds.drams label
      simp only [exec]
      generalize world.drams label = dram at same
      generalize other.drams label = changed at same
      cases same with
      | some same => exact ⟨ids, le_refl _, rfl, sims, worlds⟩
      | none =>
          obtain ⟨later, grows, after, agree⟩ :=
            Dram.create_inStep (DramCode.dram label) ids (setups label) sims
          simp only
          generalize Dram.create (DramCode.dram label) (setups label) sim =
            result at after agree ⊢
          generalize Dram.create (DramCode.dram label) (setups label) target = answer
            at after agree ⊢
          rcases result with ⟨error | dram, sim⟩ <;>
            rcases answer with ⟨error' | changed, target⟩
          · exact ⟨later, grows, congrArg Except.error agree, after, worlds.mono grows⟩
          · exact agree.elim
          · exact agree.elim
          · exact ⟨later, grows, rfl, after, (worlds.mono grows).put agree⟩
  | request label request =>
      have submits : Device.InStep ids (fun _ => Eq)
          (Dram.submit (DramCode.dram label) request :
            Device.Call (DramCode ℓ γ η) (setups label).engine MemoryValue)
          (Dram.submit (DramCode.dram label) request) :=
        Dram.submit_inStep _ ids request
      obtain ⟨later, grows, same, after, puts⟩ := onDram_inStep label submits sims worlds
      exact ⟨later, grows, congrArg (Except.map _) same, after, puts⟩
  | pending label =>
      refine ⟨ids, le_refl _, ?_, sims, worlds⟩
      have same := worlds.read label Dram.pending fun _ _ _ => rfl
      simp only [exec]
      generalize world.drams label = dram at same
      generalize other.drams label = changed at same
      rcases dram with _ | dram <;> rcases changed with _ | changed <;> simp_all
  | cycles label =>
      refine ⟨ids, le_refl _, ?_, sims, worlds⟩
      have same := worlds.read label Dram.cycles fun _ _ _ => rfl
      simp only [exec]
      generalize world.drams label = dram at same
      generalize other.drams label = changed at same
      rcases dram with _ | dram <;> rcases changed with _ | changed <;> simp_all
  | schedule delay tag priority =>
      exact scheduled_inStep (Simulator.schedule_inStep _ _ _ _ _) sims worlds
  | at_ time tag priority =>
      exact scheduled_inStep (Simulator.at_inStep _ _ _ _ _) sims worlds
  | cancel handle =>
      have named := worlds.handle handle
      simp only [exec]
      generalize world.hostIds[handle]? = eventId at named
      generalize other.hostIds[handle]? = otherId at named
      cases named with
      | none => exact ⟨ids, le_refl _, rfl, sims, worlds⟩
      | some match_ =>
          obtain ⟨same, after⟩ := sims.cancel match_
          have answers :=
            congrArg (fun result => Except.ok (ε := PyError) (DramValue.flag result)) same
          exact ⟨ids, le_refl _, answers, after, worlds⟩
  | now =>
      exact ⟨ids, le_refl _,
        congrArg (fun now => Except.ok (DramValue.number now)) sims.now, sims, worlds⟩
  | nextTime =>
      refine ⟨ids, le_refl _, ?_, sims.peek, worlds⟩
      have same := sims.nextTime
      rw [← Simulator.peek_fst, ← Simulator.peek_fst] at same
      exact congrArg (fun result => Except.ok (DramValue.time result)) same
  | live =>
      exact ⟨ids, le_refl _,
        congrArg (fun live => Except.ok (DramValue.number live)) sims.live, sims, worlds⟩

omit [DecidableEq γ] [DecidableEq ℓ] in
theorem settled_leaves
    {result answer : Except PyError (Option Unit) × Simulator (DramCode ℓ γ η) ×
      DramWorld setups}
    (same : result.1 = answer.1) (sims : Simulator.Alike ids result.2.1 answer.2.1)
    (worlds : Alike ids result.2.2 answer.2.2) :
    Leaves ids (settled result) (settled answer) := by
  rcases result with ⟨error | value, sim, world⟩ <;>
    rcases answer with ⟨error' | value', target, other⟩
  · cases same
    exact .raised _ sims worlds
  · cases same
  · cases same
  · exact .done sims worlds

theorem enter_inStep (policy policy' : TickPolicy) (code : DramCode ℓ γ η)
    (same : policy = policy' ∨ ∀ label, code ≠ .dram label .tick)
    (sims : Simulator.Alike ids sim target) (worlds : Alike ids world other) :
    ∃ later, ids ≤ later ∧
      Leaves later (enter policy code sim world) (enter policy' code target other) := by
  have onDram_leaves (label : ℓ)
      {method : Device.Call (DramCode ℓ γ η) (setups label).engine Unit}
      (inStep : Device.InStep ids (fun _ => Eq) method method) :
      ∃ later, ids ≤ later ∧ Leaves later (settled (onDram label method sim world))
        (settled (onDram label method target other)) := by
    obtain ⟨later, grows, same, after, puts⟩ := onDram_inStep label inStep sims worlds
    exact ⟨later, grows, settled_leaves same after puts⟩
  cases code with
  | host tag => exact ⟨ids, le_refl _, .user _ sims worlds⟩
  | dram label event =>
      cases event with
      | completion callback info => exact ⟨ids, le_refl _, .user _ sims worlds⟩
      | idleTick => exact onDram_leaves label (Dram.idleTick_inStep _ ids)
      | tick =>
          obtain rfl | other := same
          · cases policy with
            | coalesced => exact onDram_leaves label (Dram.tick_inStep _ ids)
            | plain => exact onDram_leaves label (Dram.tickOnce_inStep _ ids)
          · exact absurd rfl (other label)

end DramWorld

end Pyramulator
