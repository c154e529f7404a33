import Pyramulator.Dram.Delivery

namespace Pyramulator

/-! The completion events of a component: those that fired and those that are
still queued are its deliveries, in order. -/

variable {ℓ γ η : Type}

structure Invocation (γ : Type) where
  callback : γ
  info : RequestInfo
  now : Int
  deriving DecidableEq

def Delivery.invocation (delivery : Delivery γ) : Option (Invocation γ) :=
  delivery.callback.map fun callback => ⟨callback, delivery.info, delivery.now⟩

def completionOf [DecidableEq ℓ] (label : ℓ) (event : Event (DramCode ℓ γ η)) :
    Option (Invocation γ) :=
  match event.callback with
  | .dram other (.completion callback info) =>
      if other = label then some ⟨callback, info, event.time⟩ else none
  | _ => none

section CompletionOf

variable [DecidableEq ℓ] {label : ℓ} {event : Event (DramCode ℓ γ η)}

theorem completionOf_none (other : ¬ event.callback.Completion label) :
    completionOf label event = none := by
  unfold completionOf
  split
  · rename_i owner callback info named
    rw [if_neg]
    rintro rfl
    exact other ⟨callback, info, named⟩
  · rfl

theorem completionOf_of_completion (completion : event.callback.Completion label) :
    ∃ invocation, completionOf label event = some invocation := by
  obtain ⟨callback, info, named⟩ := completion
  exact ⟨⟨callback, info, event.time⟩, by simp [completionOf, named]⟩

end CompletionOf

namespace Dram

open Simulator (Local)

variable [DecidableEq ℓ] {engine : Engine (DramCallback γ)}

def Immediate (label : ℓ) (priority : Int) (sim : Simulator (DramCode ℓ γ η)) : Prop :=
  ∀ event ∈ sim.liveEvents, event.callback.Completion label →
    event.time ≤ sim.now ∧ event.priority = priority

omit [DecidableEq ℓ] in
theorem Immediate.foreign {label : ℓ} {priority : Int}
    {sim after : Simulator (DramCode ℓ γ η)} (immediate : Immediate label priority sim)
    {kind : DramCode ℓ γ η → Prop} (local_ : Local kind sim after)
    (apart : ∀ code, kind code → ¬ code.Completion label) :
    Immediate label priority after := by
  intro event member completion
  have known := local_.known member fun named => apart _ named completion
  obtain ⟨due, same⟩ := immediate event known completion
  exact ⟨due.trans local_.now, same⟩

theorem handOver_queued {label : ℓ} {priority : Int} {sim : Simulator (DramCode ℓ γ η)}
    (wellFormed : sim.WellFormed) (immediate : Immediate label priority sim)
    (completed : List (RequestInfo × Option γ)) :
    let after := handOver (.dram label) priority sim completed
    after.liveEvents.filterMap (completionOf label) =
        sim.liveEvents.filterMap (completionOf label) ++
          (deliveries sim.now completed).filterMap Delivery.invocation ∧
      Immediate label priority after := by
  induction completed generalizing sim with
  | nil => exact ⟨by simp [handOver, deliveries], immediate⟩
  | cons completion rest induction =>
      obtain ⟨info, _ | callback⟩ := completion
      · exact induction wellFormed immediate
      · have live := Simulator.push_liveEvents wellFormed (sim.now + 0)
          (.dram label (.completion callback info) : DramCode ℓ γ η) priority none
        have next : Immediate label priority (sim.push (sim.now + 0)
            (.dram label (.completion callback info)) priority none).2 := by
          intro event member completion
          rw [live] at member
          rcases Queue.mem_insert.mp member with rfl | older
          · exact ⟨(add_zero sim.now).le, rfl⟩
          · exact immediate event older completion
        have selected : completionOf label (sim.pushed (sim.now + 0)
            (.dram label (.completion callback info) : DramCode ℓ γ η) priority) =
              some ⟨callback, info, sim.now⟩ := by
          simp [completionOf, Simulator.pushed]
        have last := Queue.filterMap_insert_last wellFormed.live_sorted selected
          fun other member seen => by
            have completion : other.callback.Completion label := by
              by_contra different
              exact seen (completionOf_none different)
            obtain ⟨due, same⟩ := immediate other member completion
            have future := wellFormed.future other member
            refine Event.key_lt_iff.mpr (.inr ⟨?_, .inr ⟨same, ?_⟩⟩)
            · change other.time = sim.now + 0
              omega
            · exact wellFormed.live_fresh other member
        rw [← live] at last
        obtain ⟨queued, after⟩ := induction
          (wellFormed.push (by omega) _ _ _) next
        refine ⟨queued.trans ?_, after⟩
        rw [last, List.append_assoc]
        rfl

end Dram

namespace DramWorld

open Simulator (Local)
open Dram (Immediate)

variable [DecidableEq ℓ] [DecidableEq γ] {setups : ℓ → DramSetup γ}

structure Announced (label : ℓ) (sim : Simulator (DramCode ℓ γ η)) (priority : Int)
    (delivered : List (Delivery γ)) (fired : List (Event (DramCode ℓ γ η))) :
    Prop where
  order : (fired ++ sim.liveEvents).filterMap (completionOf label) =
    delivered.filterMap Delivery.invocation
  immediate : Immediate label priority sim

omit [DecidableEq ℓ] [DecidableEq γ] in
theorem clock_apart (label : ℓ) (code : DramCode ℓ γ η) (clock : code.Clock label) :
    ¬ code.Completion label := by
  rintro ⟨callback, info, named⟩
  rcases clock with tick | idle
  · rw [tick] at named
    cases named
  · rw [idle] at named
    cases named

namespace Announced

variable {label : ℓ} {sim after : Simulator (DramCode ℓ γ η)} {priority : Int}
  {delivered : List (Delivery γ)} {fired : List (Event (DramCode ℓ γ η))}

omit [DecidableEq γ] in
theorem foreign (announced : Announced label sim priority delivered fired)
    {kind : DramCode ℓ γ η → Prop} (local_ : Local kind sim after)
    (apart : ∀ code, kind code → ¬ code.Completion label) :
    Announced label after priority delivered fired where
  order := by
    rw [← announced.order, List.filterMap_append, List.filterMap_append,
      local_.others _ fun event named => completionOf_none (apart _ named)]
  immediate := announced.immediate.foreign local_ apart

omit [DecidableEq γ] in
theorem passed (announced : Announced label sim priority delivered fired)
    {event : Event (DramCode ℓ γ η)} (other : ¬ event.callback.Completion label) :
    Announced label sim priority delivered (fired ++ [event]) where
  order := by
    rw [← announced.order]
    simp [completionOf_none other]
  immediate := announced.immediate

omit [DecidableEq γ] in
theorem fires (announced : Announced label sim priority delivered fired)
    (wellFormed : sim.WellFormed) {event : Event (DramCode ℓ γ η)}
    (next : sim.peek.1 = some event) :
    Announced label (sim.fireNext event) priority delivered (fired ++ [event]) where
  order := by
    rw [← announced.order, Simulator.fireNext_liveEvents next, List.append_assoc]
    rfl
  immediate other member completion := by
    obtain ⟨due, same⟩ := announced.immediate other
      (by rw [Simulator.fireNext_liveEvents next]; exact List.mem_cons_of_mem _ member)
      completion
    exact ⟨due.trans (wellFormed.next_least next).2.1, same⟩

omit [DecidableEq γ] in
theorem handOver (announced : Announced label sim priority delivered fired)
    (wellFormed : sim.WellFormed) (completed : List (RequestInfo × Option γ)) :
    Announced label (Dram.handOver (.dram label) priority sim completed) priority
      (delivered ++ Dram.deliveries sim.now completed) fired := by
  obtain ⟨queued, immediate⟩ :=
    Dram.handOver_queued wellFormed announced.immediate completed
  refine ⟨?_, immediate⟩
  rw [List.filterMap_append, queued, ← List.append_assoc, ← List.filterMap_append,
    announced.order, List.filterMap_append]

/-! The calls of the component. -/

section Calls

variable {engine : Engine (DramCallback γ)} {lossy : Prop} {cacheline : Int}
  {dram base : Dram engine} {event : Event (DramCode ℓ γ η)}

theorem requested
    (announced : Announced label sim base.completionPriority base.delivered fired)
    (wellFormed : sim.WellFormed) {request : DramRequest γ} {mem : MemorySystem engine}
    {sends : List (Int × Bool)} {submission : Submission γ}
    {called : Except PyError MemoryValue × Device (DramCode ℓ γ η) engine}
    (requested : Dram.Requested lossy label sim base request mem sends submission
      called) :
    Announced label called.2.sim called.2.dram.completionPriority
      called.2.dram.delivered fired := by
  cases requested with
  | raised error => exact announced
  | rejected value accepts all allRefused => exact announced
  | accepted value accepts all someTaken handed rest answered after clock
      clocked started =>
      have moved := (announced.handOver wellFormed handed).foreign clock
        (clock_apart label)
      rcases started with ⟨-, same⟩ | ⟨-, same⟩ <;> simp only [same] <;> exact moved

omit [DecidableEq γ] in
theorem tick_fired (announced : Announced label sim priority delivered fired)
    (wellFormed : sim.WellFormed) (clock : event.callback.Clock label)
    (next : sim.peek.1 = some event) :
    Announced label (sim.fireNext event) priority delivered (fired ++ [event]) :=
  (announced.foreign (.fired wellFormed next clock) (clock_apart label)).passed
    (clock_apart label _ clock)

theorem ticked
    (announced : Announced label sim dram.completionPriority dram.delivered fired)
    (wellFormed : sim.WellFormed) (named : event.callback = .dram label .tick)
    (next : sim.peek.1 = some event) {count : Nat} {last : Simulator (DramCode ℓ γ η)}
    {ended : Device (DramCode ℓ γ η) engine}
    (ticked : Dram.Ticked lossy cacheline label sim event dram count last ended) :
    Announced label ended.sim ended.dram.completionPriority ended.dram.delivered
      (fired ++ [event]) := by
  have before := announced.tick_fired wellFormed (.inl named) next
  have later : (sim.fireNext event).now ≤ dram.due count := by
    have cycles : (dram.cycles + 1) * dram.clk.periodPs ≤
        (dram.cycles + count) * dram.clk.periodPs :=
      Int.mul_le_mul_of_nonneg_right (by have := ticked.positive; omega)
        dram.clk.positive.le
    rw [Simulator.fireNext_now, ticked.time, Dram.due, Dram.due]
    omega
  have jump : Local (DramCode.Clock label) (sim.fireNext event) last :=
    .jumped ticked.jumped later
  have jumped := before.foreign jump (clock_apart label)
  have moved :=
    (jumped.handOver ticked.jumped.wellFormed (dram.ran count).completed).foreign
    ticked.clock (clock_apart label)
  cases ticked.ends <;> exact moved

theorem idleTicked
    (announced : Announced label sim dram.completionPriority dram.delivered fired)
    (wellFormed : sim.WellFormed) (named : event.callback = .dram label .idleTick)
    (next : sim.peek.1 = some event)
    {ended : Except PyError Unit × Device (DramCode ℓ γ η) engine}
    (ticked : Dram.IdleTicked lossy cacheline label sim event dram ended) :
    Announced label ended.2.sim ended.2.dram.completionPriority ended.2.dram.delivered
      (fired ++ [event]) := by
  have moved := (announced.tick_fired wellFormed (.inr named) next).foreign ticked.clock
    (clock_apart label)
  cases ticked.ends <;> exact moved

end Calls

end Announced

/-- The announced deliveries of a component, which has none before it is built. -/
def announcing : Trait η setups := fun label sim dram fired =>
  match dram with
  | none => Announced label sim 0 [] fired
  | some dram => Announced label sim dram.completionPriority dram.delivered fired

theorem announcing_keeps {policy : TickPolicy}
    {allowed : Config (dramSystem η setups policy) →
      Decision (dramSystem η setups policy) → Prop} :
    Keeps True policy allowed (announcing : Trait η setups) where
  may _ _ _ _ _ := trivial
  congr {label sim dram fired} after announced live _ now := by
    have move {priority : Int} {delivered : List (Delivery γ)}
        (announced : Announced label sim priority delivered fired) :
        Announced label after priority delivered fired :=
      ⟨by rw [live]; exact announced.order, fun event member completion => by
        rw [live] at member
        rw [now]
        exact announced.immediate event member completion⟩
    cases dram with
    | none => exact move announced
    | some dram => exact move announced
  foreign {label sim after dram fired kind} local_ apart announced := by
    have away : ∀ code, kind code → ¬ code.Completion label := by
      rintro code named ⟨callback, info, rfl⟩
      exact apart _ named
    cases dram with
    | none => exact Announced.foreign announced local_ away
    | some dram => exact Announced.foreign announced local_ away
  passed {label sim dram fired} event other announced := by
    have away : ¬ event.callback.Completion label := fun completion =>
      other completion.owned
    cases dram with
    | none => exact Announced.passed announced away
    | some dram => exact Announced.passed announced away
  completion {label sim dram fired event} wellFormed next _ announced := by
    cases dram with
    | none => exact Announced.fires announced wellFormed next
    | some dram => exact Announced.fires announced wellFormed next
  created {label sim made after fired} _ created announced := by
    have moved := Announced.foreign announced created.clock (clock_apart label)
    have nothing : after.dram.delivered = [] := by
      obtain ⟨clk, base_pos, rfl⟩ := created.initial
      rcases created.dram with ⟨-, same⟩ | ⟨-, same⟩ <;> rw [same] <;> rfl
    refine ⟨nothing ▸ moved.order, fun event member completion => ?_⟩
    obtain ⟨invocation, told⟩ := completionOf_of_completion completion
    have queued : invocation ∈ (fired ++ after.sim.liveEvents).filterMap
        (completionOf label) :=
      List.mem_filterMap.mpr ⟨event, List.mem_append_right _ member, told⟩
    rw [moved.order] at queued
    cases queued
  requested {config label request dram fired} wellFormed _ _ running announced := by
    obtain ⟨mem, sends, submission, -, sent, requested⟩ :=
      running.requested wellFormed request
    obtain ⟨src, cache, count, same⟩ := Dram.collector_eq dram request.callback
    have base : Announced label config.sim
        (dram.collector request.callback).2.completionPriority
          (dram.collector request.callback).2.delivered fired := by
      rw [same]
      exact announced
    exact base.requested wellFormed requested
  ticked {config decision label event dram count last ended fired} wellFormed _ _ named
      next _ _ ticked announced :=
    Announced.ticked announced wellFormed named next ticked
  idleTicked {config decision label event dram ended fired} wellFormed _ _ named next _ _
      ticked announced :=
    Announced.idleTicked announced wellFormed named next ticked

end DramWorld

end Pyramulator
