import Pyramulator.Dram.Chain

namespace Pyramulator

variable {ℓ γ η : Type} [DecidableEq ℓ] [DecidableEq γ] {setups : ℓ → DramSetup γ}

namespace DramWorld

open Simulator (Local)
open Dram (Running)

/-! What holds of the components in every state, and what a step does to each. -/

/-- What holds in every state, whatever the calls: user code's own events are
told from those of the components, and each component is between two events. -/
structure Standing (lossy : Prop) (sim : Simulator (DramCode ℓ γ η))
    (world : DramWorld setups) : Prop where
  hosts : ∀ eventId ∈ world.hostIds, eventId < sim.seq ∧
    ∀ event ∈ sim.liveEvents, event.seq = eventId → event.callback.Hosted
  running : ∀ label dram, world.drams label = some dram →
    Running lossy (setups label).cacheline label sim dram
  unbuilt : ∀ label, world.drams label = none →
    ∀ event ∈ sim.liveEvents, ¬ event.callback.Owned label

omit [DecidableEq ℓ] [DecidableEq γ] in
theorem not_owned {label other : ℓ} (different : other ≠ label) {closure : DramEvent γ} :
    ¬ (.dram other closure : DramCode ℓ γ η).Owned label := by
  rintro ⟨_, named⟩
  exact different (DramCode.dram.inj named).1

namespace Standing

variable {lossy : Prop} {sim after : Simulator (DramCode ℓ γ η)}
  {world : DramWorld setups}

theorem create : Standing lossy Simulator.init (create setups) (η := η) where
  hosts := by simp [DramWorld.create]
  running label dram built := by simp [DramWorld.create] at built
  unbuilt label _ event member := by
    simp [Simulator.init, Simulator.liveEvents] at member

theorem congr (standing : Standing lossy sim world)
    (live : after.liveEvents = sim.liveEvents)
    (seq : after.seq = sim.seq) : Standing lossy after world where
  hosts eventId member := by
    rw [live, seq]
    exact standing.hosts eventId member
  running label dram built :=
    let running := standing.running label dram built
    { running with
      clocked := running.clocked.agenda (Simulator.queued_of_liveEvents live)
        (Simulator.queued_of_liveEvents live) seq.ge fun _ member _ => live ▸ member }
  unbuilt label absent := by
    rw [live]
    exact standing.unbuilt label absent

theorem hosts_local (standing : Standing lossy sim world) {kind : DramCode ℓ γ η → Prop}
    (local_ : Local kind sim after) {eventId : Nat} (member : eventId ∈ world.hostIds) :
    eventId < after.seq ∧
      ∀ event ∈ after.liveEvents, event.seq = eventId → event.callback.Hosted := by
  obtain ⟨known, hosted⟩ := standing.hosts eventId member
  exact ⟨known.trans_le local_.seq, fun event live same =>
    hosted event (local_.older live (same ▸ known)) same⟩

theorem host (standing : Standing lossy sim world)
    (local_ : Local DramCode.Hosted sim after) {hostIds : List Nat}
    (hosts : ∀ eventId ∈ hostIds, eventId ∈ world.hostIds ∨ eventId < after.seq ∧
      ∀ event ∈ after.liveEvents, event.seq = eventId → event.callback.Hosted) :
    Standing lossy after { world with hostIds } where
  hosts eventId member := (hosts eventId member).elim
    (fun old => standing.hosts_local local_ old) id
  running label dram built :=
    let running := standing.running label dram built
    { running with
      clocked := running.clocked.foreign local_ (by simp [DramCode.Hosted])
        (by simp [DramCode.Hosted]) }
  unbuilt label absent event member owned := by
    refine standing.unbuilt label absent event (local_.known member ?_) owned
    rintro ⟨tag, hosted⟩
    obtain ⟨closure, named⟩ := owned
    rw [hosted] at named
    cases named

theorem own (standing : Standing lossy sim world) {label : ℓ}
    (local_ : Local (DramCode.Owned label) sim after)
    {dram : Dram (setups label).engine}
    (running : Running lossy (setups label).cacheline label after dram) :
    Standing lossy after (world.put label dram) where
  hosts eventId member := standing.hosts_local local_ member
  running other dram built := by
    by_cases same : other = label
    · subst same
      rw [put_self] at built
      obtain rfl := Option.some.inj built
      exact running
    · rw [put_other _ same] at built
      have running := standing.running other dram built
      exact { running with
        clocked := running.clocked.foreign local_ (not_owned same) (not_owned same) }
  unbuilt other absent event member owned := by
    by_cases same : other = label
    · subst same
      rw [put_self] at absent
      cases absent
    · rw [put_other _ same] at absent
      refine standing.unbuilt other absent event (local_.known member ?_) owned
      obtain ⟨closure, named⟩ := owned
      rw [named]
      exact not_owned same

theorem cancel (standing : Standing lossy sim world) (wellFormed : sim.WellFormed)
    {handle eventId : Nat} (known : world.hostIds[handle]? = some eventId) :
    Local DramCode.Hosted sim (sim.cancel eventId).2 :=
  .cancel wellFormed (standing.hosts eventId (List.mem_of_getElem? known)).2

/-- An event of a component that does nothing but call user code is fired, or one
of user code. -/
theorem fired (standing : Standing lossy sim world) (wellFormed : sim.WellFormed)
    {event : Event (DramCode ℓ γ η)} (next : sim.peek.1 = some event)
    (silent : event.callback.Hosted ∨ ∃ label, event.callback.Completion label) :
    Standing lossy (sim.fireNext event) world := by
  have local_ : Local (fun code => code = event.callback) sim (sim.fireNext event) :=
    .fired wellFormed next rfl
  refine ⟨fun eventId member => standing.hosts_local local_ member,
    fun label dram built => ?_, fun label absent other member => ?_⟩
  · have running := standing.running label dram built
    refine { running with clocked := running.clocked.foreign local_ ?_ ?_ }
    all_goals
      rintro same
      rcases silent with ⟨tag, hosted⟩ | ⟨label, callback, info, named⟩
      · simp [hosted] at same
      · simp [named] at same
  · refine standing.unbuilt label absent other ?_
    rw [Simulator.fireNext_liveEvents next]
    exact List.mem_cons_of_mem _ member

end Standing

section

variable {sim : Simulator (DramCode ℓ γ η)} {world : DramWorld setups}

omit [DecidableEq γ] in
theorem onDram_built {α : Type} {label : ℓ} {dram : Dram (setups label).engine}
    (built : world.drams label = some dram)
    (method : Device.Call (DramCode ℓ γ η) (setups label).engine α) :
    onDram label method sim world =
      ((method ⟨sim, dram⟩).1.map some, (method ⟨sim, dram⟩).2.sim,
        world.put label (method ⟨sim, dram⟩).2.dram) := by
  simp only [onDram, built]

theorem enter_tick (policy : TickPolicy) (label : ℓ) :
    DramWorld.enter policy (.dram label .tick : DramCode ℓ γ η) sim world =
      settled (onDram label (policy.tick (.dram label)) sim world) := by
  cases policy <;> rfl

theorem enter_idleTick (policy : TickPolicy) (label : ℓ) :
    DramWorld.enter policy (.dram label .idleTick : DramCode ℓ γ η) sim world =
      settled (onDram label (Dram.idleTick (.dram label)) sim world) := rfl

section

variable {label : ℓ} {dram : Dram (setups label).engine}
  {after : Device (DramCode ℓ γ η) (setups label).engine}

theorem enter_ticked {policy : TickPolicy} (built : world.drams label = some dram)
    (ticked : policy.tick (.dram label) ⟨sim, dram⟩ = (.ok (), after)) :
    DramWorld.enter policy (.dram label .tick : DramCode ℓ γ η) sim world =
      .done after.sim (world.put label after.dram) := by
  rw [enter_tick, onDram_built built, ticked]
  rfl

theorem exec_request {request : DramRequest γ} {result : Except PyError MemoryValue}
    (built : world.drams label = some dram)
    (submitted : Dram.submit (.dram label) request ⟨sim, dram⟩ = (result, after)) :
    DramWorld.exec (.request label request : DramOp ℓ γ η) sim world =
      (result.map .memory, after.sim, world.put label after.dram) := by
  simp only [DramWorld.exec, onDram_built built, submitted]
  cases result <;> rfl

end

end

/-- A call of user code as a component sees it: it touches events that are not its
own, builds it or is a request to it. -/
inductive Called (lossy : Prop) (label : ℓ) (op : DramOp ℓ γ η)
    (sim : Simulator (DramCode ℓ γ η)) (before : Option (Dram (setups label).engine)) :
    Simulator (DramCode ℓ γ η) → Option (Dram (setups label).engine) → Prop
  | foreign {after} (kind : DramCode ℓ γ η → Prop) (local_ : Local kind sim after)
      (apart : ∀ closure, ¬ kind (.dram label closure)) :
      Called lossy label op sim before after before
  | created {made after} (unbuilt : before = none)
      (created : Dram.Created lossy label (setups label) sim made after) :
      Called lossy label op sim before after.sim (some after.dram)
  | requested {request dram} (named : op = .request label request)
      (built : before = some dram)
      (running : Running lossy (setups label).cacheline label sim dram) :
      Called lossy label op sim before
        (Dram.submit (.dram label) request ⟨sim, dram⟩).2.sim
        (some (Dram.submit (.dram label : DramEvent γ → DramCode ℓ γ η) request
          ⟨sim, dram⟩).2.dram)

section Calls

variable {lossy : Prop} {sim : Simulator (DramCode ℓ γ η)} {world : DramWorld setups}
  (standing : Standing lossy sim world) (wellFormed : sim.WellFormed)
include standing wellFormed

theorem scheduled_called (tag : η) (op : DramOp ℓ γ η)
    {result : Except PyError Nat × Simulator (DramCode ℓ γ η)}
    (cases_ : (∃ time priority, sim.now ≤ time ∧
        result = (.ok sim.seq, (sim.push time (.host tag) priority none).2)) ∨
      ∃ error, result = (.error error, sim)) :
    Standing lossy (world.scheduled result).2.1 (world.scheduled result).2.2 ∧
      ∀ label, Called lossy label op sim (world.drams label) (world.scheduled result).2.1
        ((world.scheduled result).2.2.drams label) := by
  have apart (label : ℓ) (closure : DramEvent γ) :
      ¬ DramCode.Hosted (.dram label closure : DramCode ℓ γ η) := by
    simp [DramCode.Hosted]
  rcases cases_ with ⟨time, priority, future, rfl⟩ | ⟨error, rfl⟩
  · have local_ : Local DramCode.Hosted sim
        (sim.push time (.host tag) priority none).2 :=
      .push wellFormed future ⟨tag, rfl⟩ priority none
    refine ⟨standing.host local_ fun eventId member => ?_,
      fun label => .foreign _ local_ (apart label)⟩
    rcases List.mem_append.mp member with old | new
    · exact .inl old
    · obtain rfl := List.mem_singleton.mp new
      refine .inr ⟨Nat.lt_succ_self _, fun event live same => ?_⟩
      rw [Simulator.push_liveEvents wellFormed] at live
      rcases Queue.mem_insert.mp live with rfl | older
      · exact ⟨tag, rfl⟩
      · exact absurd same (wellFormed.live_fresh event older).ne
  · exact ⟨standing, fun label =>
      .foreign _ (.refl _ wellFormed) (apart label)⟩

omit wellFormed in
theorem own_called {label : ℓ} {op : DramOp ℓ γ η} {after : Simulator (DramCode ℓ γ η)}
    (local_ : Local (DramCode.Owned label) sim after)
    {dram : Dram (setups label).engine}
    (running : Running lossy (setups label).cacheline label after dram)
    (called : Called lossy label op sim (world.drams label) after (some dram)) :
    Standing lossy after (world.put label dram) ∧
      ∀ other, Called lossy other op sim (world.drams other) after
        ((world.put label dram).drams other) := by
  refine ⟨standing.own local_ running, fun other => ?_⟩
  by_cases same : other = label
  · subst same
    rw [put_self]
    exact called
  · rw [put_other _ same]
    exact .foreign _ local_ fun closure => not_owned same

theorem exec_called (op : DramOp ℓ γ η) :
    let result := DramWorld.exec op sim world
    Standing lossy result.2.1 result.2.2 ∧
      ∀ label, Called lossy label op sim (world.drams label) result.2.1
        (result.2.2.drams label) := by
  intro result
  have silent : Standing lossy sim world ∧
      ∀ label, Called lossy label op sim (world.drams label) sim (world.drams label) :=
    ⟨standing, fun _ => .foreign _ (.refl (fun _ => False) wellFormed) fun _ => id⟩
  cases op with
  | build label =>
      simp only [result, DramWorld.exec]
      cases unbuilt : world.drams label with
      | some dram => exact silent
      | none =>
          simp only
          have unqueued (closure : DramEvent γ) : sim.queued label closure = [] :=
            List.eq_nil_iff_forall_not_mem.mpr fun event member => by
              obtain ⟨live, named⟩ := Simulator.mem_queued.mp member
              exact standing.unbuilt label unbuilt event live ⟨closure, named⟩
          cases success : (Dram.create (.dram label) (setups label) sim).1 with
          | error error =>
              have same := Dram.create_refused success
              generalize Dram.create (.dram label) (setups label) sim = created
                at success same
              rcases created with ⟨result, after⟩
              obtain rfl : result = .error error := success
              obtain rfl : after = sim := same
              exact silent
          | ok dram =>
              obtain ⟨made, new⟩ : ∃ made, Dram.Created lossy label (setups label)
                  sim made _ :=
                Dram.created wellFormed (unqueued .tick) (unqueued .idleTick) success
              have called : Called lossy label (.build label) sim (world.drams label) _
                  (some dram) := .created unbuilt new
              have all := own_called standing
                (new.clock.mono fun _ => DramCode.Clock.owned) new.running called
              generalize Dram.create (.dram label) (setups label) sim = created
                at success all
              rcases created with ⟨result, after⟩
              obtain rfl : result = .ok dram := success
              exact all
  | request label request =>
      simp only [result, DramWorld.exec, onDram]
      cases built : world.drams label with
      | none => exact silent
      | some dram =>
          have running := standing.running label dram built
          obtain ⟨mem, sends, submission, -, sent, requested⟩ :=
            running.requested wellFormed request
          obtain ⟨local_, after⟩ :=
            requested.running wellFormed (running.collector request.callback) sent
          exact own_called standing local_ after (.requested rfl built running)
  | pending label => exact silent
  | cycles label => exact silent
  | schedule delay tag priority =>
      refine scheduled_called standing wellFormed tag _ ?_
      unfold Simulator.schedule
      split
      · exact .inr ⟨_, rfl⟩
      · exact .inl ⟨_, _, by omega, rfl⟩
  | at_ time tag priority =>
      refine scheduled_called standing wellFormed tag _ ?_
      unfold Simulator.at_
      split
      · exact .inr ⟨_, rfl⟩
      · exact .inl ⟨_, _, by omega, rfl⟩
  | cancel handle =>
      simp only [result, DramWorld.exec]
      split
      · rename_i eventId known
        have local_ := standing.cancel wellFormed known
        exact ⟨standing.host local_ fun _ member => .inl member, fun label =>
          .foreign _ local_ (by simp [DramCode.Hosted])⟩
      · exact silent
  | now => exact silent
  | nextTime =>
      have peeked : Local (fun _ => False) sim sim.peek.2 :=
        .jumped wellFormed.peek_jumped (le_refl _)
      exact ⟨standing.congr (Simulator.peek_liveEvents _) rfl, fun label =>
        .foreign _ peeked fun _ => id⟩
  | live => exact silent

end Calls

/-- A fired event as a component sees it: it is not its own, or is one of its
completions, ticks or idle ticks. -/
inductive Entered (lossy : Prop) (label : ℓ) (event : Event (DramCode ℓ γ η))
    (sim : Simulator (DramCode ℓ γ η)) (before : Option (Dram (setups label).engine)) :
    Simulator (DramCode ℓ γ η) → Option (Dram (setups label).engine) → Prop
  | foreign {after} (kind : DramCode ℓ γ η → Prop) (local_ : Local kind sim after)
      (apart : ∀ closure, ¬ kind (.dram label closure))
      (other : ¬ event.callback.Owned label) :
      Entered lossy label event sim before after before
  | completion (completion : event.callback.Completion label) :
      Entered lossy label event sim before (sim.fireNext event) before
  | ticked {dram count last ended} (named : event.callback = .dram label .tick)
      (built : before = some dram)
      (running : Running lossy (setups label).cacheline label sim dram)
      (ticked : Dram.Ticked lossy (setups label).cacheline label sim event dram count last
        ended) :
      Entered lossy label event sim before ended.sim (some ended.dram)
  | idleTicked {dram ended} (named : event.callback = .dram label .idleTick)
      (built : before = some dram)
      (running : Running lossy (setups label).cacheline label sim dram)
      (ticked : Dram.IdleTicked lossy (setups label).cacheline label sim
        event dram ended) :
      Entered lossy label event sim before ended.2.sim (some ended.2.dram)

section Events

variable {lossy : Prop} {sim : Simulator (DramCode ℓ γ η)} {world : DramWorld setups}
  (standing : Standing lossy sim world) (wellFormed : sim.WellFormed)
  {event : Event (DramCode ℓ γ η)}
include standing wellFormed

omit wellFormed in
theorem own_entered {label : ℓ} {after : Simulator (DramCode ℓ γ η)}
    (owned : event.callback.Owned label)
    (local_ : Local (DramCode.Owned label) sim after)
    {dram : Dram (setups label).engine}
    (running : Running lossy (setups label).cacheline label after dram)
    (entered : Entered lossy label event sim (world.drams label) after (some dram)) :
    Standing lossy after (world.put label dram) ∧
      ∀ other, Entered lossy other event sim (world.drams other) after
        ((world.put label dram).drams other) := by
  refine ⟨standing.own local_ running, fun other => ?_⟩
  by_cases same : other = label
  · subst same
    rw [put_self]
    exact entered
  · rw [put_other _ same]
    refine .foreign _ local_ (fun closure => not_owned same) ?_
    obtain ⟨closure, named⟩ := owned
    rintro ⟨_, others⟩
    rw [named] at others
    exact same (DramCode.dram.inj others).1.symm

theorem enter_entered (policy : TickPolicy) (next : sim.peek.1 = some event)
    (may : ∀ label dram, event.callback = .dram label .idleTick →
      world.drams label = some dram → ¬ FitsInt dram.batch.current → lossy) :
    let outcome : Outcome _ _ :=
      DramWorld.enter policy event.callback (sim.fireNext event) world
    Standing lossy outcome.sim outcome.world ∧
      ∀ label, Entered lossy label event sim (world.drams label) outcome.sim
        (outcome.world.drams label) := by
  intro outcome
  have live := Simulator.fireNext_liveEvents next
  cases callback : event.callback with
  | host tag =>
      have fireLocal : Local DramCode.Hosted sim (sim.fireNext event) :=
        .fired wellFormed next ⟨tag, callback⟩
      have same : outcome = .user (.host tag) (sim.fireNext event) world := by
        simp only [outcome, callback, DramWorld.enter]
      rw [same]
      refine ⟨standing.fired wellFormed next (.inl ⟨tag, callback⟩), fun label =>
        .foreign _ fireLocal (by simp [DramCode.Hosted]) ?_⟩
      rintro ⟨closure, owned⟩
      rw [callback] at owned
      cases owned
  | dram label closure =>
      have fireLocal : Local (DramCode.Owned label) sim (sim.fireNext event) :=
        .fired wellFormed next ⟨closure, callback⟩
      have built : ∃ dram, world.drams label = some dram := by
        cases unbuilt : world.drams label with
        | none =>
            exact absurd ⟨closure, callback⟩
              (standing.unbuilt label unbuilt event (by simp [live]))
        | some dram => exact ⟨dram, rfl⟩
      obtain ⟨dram, built⟩ := built
      have running := standing.running label dram built
      cases closure with
      | completion user info =>
          have same : outcome = .user (.dram label (.completion user info))
              (sim.fireNext event) world := by
            simp only [outcome, callback, DramWorld.enter]
          rw [same]
          refine ⟨standing.fired wellFormed next (.inr ⟨label, user, info, callback⟩),
            fun other => ?_⟩
          by_cases own : other = label
          · subst own
            exact .completion ⟨user, info, callback⟩
          · refine .foreign _ fireLocal (fun closure => not_owned own) ?_
            rw [callback]
            exact not_owned (Ne.symm own)
      | tick =>
          obtain ⟨count, last, ended, result, ticked⟩ :=
            running.ticked wellFormed next callback policy
          have same : outcome = .done ended.sim (world.put label ended.dram) := by
            simp only [outcome, callback, enter_tick, onDram_built built, result]
            rfl
          rw [same]
          exact own_entered standing ⟨.tick, callback⟩ ticked.local_ ticked.running
            (.ticked callback built running ticked)
      | idleTick =>
          have ticked := running.idleTicked wellFormed next callback
            (may label dram callback built)
          have all := own_entered standing ⟨.idleTick, callback⟩ ticked.local_
            ticked.running (.idleTicked callback built running ticked)
          have same : outcome = settled
              ((Dram.idleTick (.dram label) ⟨sim.fireNext event, dram⟩).1.map some,
                (Dram.idleTick (.dram label) ⟨sim.fireNext event, dram⟩).2.sim,
                world.put label
                  (Dram.idleTick (.dram label) ⟨sim.fireNext event, dram⟩).2.dram) := by
            simp only [outcome, callback, enter_idleTick, onDram_built built]
          rw [same]
          generalize Dram.idleTick (.dram label) ⟨sim.fireNext event, dram⟩ = ended at all
          rcases ended with ⟨error | _, ended⟩
          · exact all
          · exact all

end Events

end DramWorld

end Pyramulator
