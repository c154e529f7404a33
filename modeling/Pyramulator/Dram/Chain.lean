import Mathlib.Tactic.Ring
import Pyramulator.Dram.Clocks

namespace Pyramulator

variable {ℓ γ η : Type}

def TickPolicy.tick [DecidableEq γ] {κ : Type} {engine : Engine (DramCallback γ)} :
    TickPolicy → (DramEvent γ → κ) → Device.Call κ engine Unit
  | .coalesced, closure => Dram.tick closure
  | .plain, closure => Dram.tickOnce closure

namespace Dram

open Simulator (Local)

variable {engine : Engine (DramCallback γ)}

/-! ## What the calls do to the agenda -/

section Agenda

variable {sim : Simulator (DramCode ℓ γ η)} (wellFormed : sim.WellFormed) (label : ℓ)
include wellFormed

theorem pushCycles_local (component : Component) {count : Int} (nonneg : 0 ≤ count)
    {kind : DramCode ℓ γ η → Prop} {code : DramCode ℓ γ η} (named : kind code)
    (priority : Int) : Local kind sim (component.pushCycles sim count code priority) :=
  .push wellFormed (by
    have := Int.mul_nonneg nonneg component.clk.positive.le
    omega) named priority _

theorem handOver_local (priority : Int) (completed : List (RequestInfo × Option γ)) :
    Local (DramCode.Completion label) sim
      (handOver (.dram label : DramEvent γ → DramCode ℓ γ η) priority sim completed) := by
  induction completed generalizing sim with
  | nil => exact .refl _ wellFormed
  | cons completion rest induction =>
      obtain ⟨info, _ | callback⟩ := completion
      · exact induction wellFormed
      · have pushed : Local (DramCode.Completion label) sim (sim.push (sim.now + 0)
            (.dram label (.completion callback info)) priority none).2 :=
          .push wellFormed (by omega) ⟨callback, info, rfl⟩ priority none
        exact pushed.trans (induction pushed.wellFormed)

end Agenda

/-! ## The clock -/

/-- The time at which cycle number zero would have been, had the clock never
been away. -/
def origin (dram : Dram engine) : Int :=
  match dram.stretches.getLast? with
  | none => dram.builtAt
  | some (start, cycles) => start - cycles * dram.clk.periodPs

def due (dram : Dram engine) (count : Int) : Int :=
  dram.origin + (dram.cycles + count) * dram.clk.periodPs

theorem origin_busyFrom (dram : Dram engine) (now : Int) :
    (dram.busyFrom now).origin = now - dram.cycles * dram.clk.periodPs := by
  simp [origin, busyFrom]

theorem due_busyFrom (dram : Dram engine) (now : Int) :
    (dram.busyFrom now).due 1 = now + 1 * dram.clk.periodPs := by
  rw [due, origin_busyFrom]
  change now - dram.cycles * dram.clk.periodPs +
    (dram.cycles + 1) * dram.clk.periodPs = _
  ring

variable [DecidableEq ℓ] [DecidableEq γ]

/-- The clock of a component between two events: it runs, it runs idly, it is
stopped, or an idle tick that raised was the last one, if such ticks are at all
possible. -/
inductive Clocked (lossy : Prop) (label : ℓ) (sim : Simulator (DramCode ℓ γ η))
    (dram : Dram engine) : Prop
  | busy (event : Event (DramCode ℓ γ η)) (ticking : dram.ticking = true)
      (noIdle : dram.idleTicking = false) (ticks : sim.queued label .tick = [event])
      (idles : sim.queued label .idleTick = []) (time : event.time = dram.due 1)
  | idle (event : Event (DramCode ℓ γ η)) (stopped : dram.ticking = false)
      (idle : dram.idleTicking = true) (refresh : dram.idleRefresh = true)
      (ticks : sim.queued label .tick = []) (idles : sim.queued label .idleTick = [event])
      (scheduled : dram.idleEventId = some event.seq)
      (time : event.time = dram.due dram.batch.current)
  | stopped (stopped : dram.ticking = false) (noIdle : dram.idleTicking = false)
      (noRefresh : dram.idleRefresh = false) (ticks : sim.queued label .tick = [])
      (idles : sim.queued label .idleTick = [])
  | lost (eventId : Nat) (stopped : dram.ticking = false)
      (idle : dram.idleTicking = true) (refresh : dram.idleRefresh = true)
      (ticks : sim.queued label .tick = []) (idles : sim.queued label .idleTick = [])
      (scheduled : dram.idleEventId = some eventId) (old : eventId < sim.seq)
      (gone : ∀ event ∈ sim.liveEvents, event.seq ≠ eventId)
      (refused : lossy)

structure Running (lossy : Prop) (cacheline : Int) (label : ℓ)
    (sim : Simulator (DramCode ℓ γ η)) (dram : Dram engine) : Prop where
  clocked : Clocked lossy label sim dram
  drained : dram.mem.impl.completed = []
  stable : dram.mem.Stable cacheline
  cached : dram.Cached

variable {lossy : Prop} {label : ℓ} {sim after : Simulator (DramCode ℓ γ η)}
  {dram : Dram engine}

theorem Clocked.agenda (clocked : Clocked lossy label sim dram)
    (sameTicks : after.queued label .tick = sim.queued label .tick)
    (sameIdles : after.queued label .idleTick = sim.queued label .idleTick)
    (seq : sim.seq ≤ after.seq)
    (older : ∀ event ∈ after.liveEvents, event.seq < sim.seq → event ∈ sim.liveEvents) :
    Clocked lossy label after dram := by
  cases clocked with
  | busy event ticking noIdle ticks idles time =>
      exact .busy event ticking noIdle (sameTicks.trans ticks) (sameIdles.trans idles)
        time
  | idle event stopped idle refresh ticks idles scheduled time =>
      exact .idle event stopped idle refresh (sameTicks.trans ticks)
        (sameIdles.trans idles) scheduled time
  | stopped stopped noIdle noRefresh ticks idles =>
      exact .stopped stopped noIdle noRefresh (sameTicks.trans ticks)
        (sameIdles.trans idles)
  | lost eventId stopped idle refresh ticks idles scheduled old gone refused =>
      refine .lost eventId stopped idle refresh (sameTicks.trans ticks)
        (sameIdles.trans idles) scheduled (old.trans_le seq) ?_ refused
      intro event member same
      exact gone event (older event member (same ▸ old)) same

theorem Clocked.foreign (clocked : Clocked lossy label sim dram)
    {kind : DramCode ℓ γ η → Prop} (local_ : Local kind sim after)
    (tick : ¬ kind (.dram label .tick)) (idleTick : ¬ kind (.dram label .idleTick)) :
    Clocked lossy label after dram :=
  clocked.agenda (local_.queued tick) (local_.queued idleTick) local_.seq
    fun _ member old => local_.older member old

theorem Clocked.congr (clocked : Clocked lossy label sim dram) {changed : Dram engine}
    (ticking : changed.ticking = dram.ticking)
    (idleTicking : changed.idleTicking = dram.idleTicking)
    (refresh : changed.idleRefresh = dram.idleRefresh)
    (idleEventId : changed.idleEventId = dram.idleEventId)
    (batch : changed.batch = dram.batch) (due : changed.due = dram.due) :
    Clocked lossy label sim changed := by
  cases clocked with
  | busy event isTicking noIdle ticks idles time =>
      exact .busy event (by rw [ticking, isTicking]) (by rw [idleTicking, noIdle]) ticks
        idles (by rw [due, time])
  | idle event stopped idle isRefresh ticks idles scheduled time =>
      exact .idle event (by rw [ticking, stopped]) (by rw [idleTicking, idle])
        (by rw [refresh, isRefresh]) ticks idles (by rw [idleEventId, scheduled])
        (by rw [due, batch, time])
  | stopped stopped noIdle noRefresh ticks idles =>
      exact .stopped (by rw [ticking, stopped]) (by rw [idleTicking, noIdle])
        (by rw [refresh, noRefresh]) ticks idles
  | lost eventId stopped idle isRefresh ticks idles scheduled old gone refused =>
      exact .lost eventId (by rw [ticking, stopped]) (by rw [idleTicking, idle])
        (by rw [refresh, isRefresh]) ticks idles (by rw [idleEventId, scheduled]) old
        gone refused

/-! ## Steps of the clock -/

section Steps

variable (wellFormed : sim.WellFormed)
include wellFormed

theorem Clocked.started (ticks : sim.queued label .tick = [])
    (idles : sim.queued label .idleTick = []) :
    Clocked lossy label (dram.pushCycles sim 1 (.dram label .tick) 0)
      (dram.busyFrom sim.now) :=
  .busy _ rfl rfl (Simulator.push_queued wellFormed _ ticks)
    ((Simulator.push_queued_other wellFormed _ (by simp)).trans idles)
    (due_busyFrom dram sim.now).symm

theorem startTicking_clocked (clocked : Clocked lossy label sim dram) :
    ∃ after : Device (DramCode ℓ γ η) engine,
      startTicking (.dram label) ⟨sim, dram⟩ = (.ok (), after) ∧
        Local (DramCode.Clock label) sim after.sim ∧
          Clocked lossy label after.sim after.dram ∧
            (dram.ticking = true ∧ after.dram = dram ∨
              dram.ticking = false ∧ after.dram = dram.busyFrom sim.now) := by
  have tick : DramCode.Clock label (.dram label .tick : DramCode ℓ γ η) := .inl rfl
  cases clocked with
  | busy event ticking noIdle ticks idles time =>
      exact ⟨_, startTicking_busy _ sim dram ticking, .refl _ wellFormed,
        .busy event ticking noIdle ticks idles time, .inl ⟨ticking, rfl⟩⟩
  | idle event stopped idle refresh ticks idles scheduled time =>
      have cancelled : Local (DramCode.Clock label) sim (sim.cancel event.seq).2 := by
        refine .cancel wellFormed fun other member same => .inr ?_
        obtain ⟨live, named⟩ :=
          Simulator.mem_queued.mp (idles ▸ List.mem_singleton_self event)
        obtain rfl := wellFormed.eq_of_seq (Simulator.mem_liveEvents.mp member).1
          (Simulator.mem_liveEvents.mp live).1 same
        exact named
      have now := Simulator.cancel_now sim event.seq
      have noTick : (sim.cancel event.seq).2.queued label .tick = [] := by
        refine List.eq_nil_iff_forall_not_mem.mpr fun other member => ?_
        obtain ⟨live, named⟩ := Simulator.mem_queued.mp member
        rw [Simulator.cancel_liveEvents wellFormed, List.mem_filter] at live
        have before := Simulator.mem_queued.mpr ⟨live.1, named⟩
        rw [ticks] at before
        cases before
      have started : Clocked lossy label
          (dram.pushCycles (sim.cancel event.seq).2 1 (.dram label .tick) 0)
          (dram.busyFrom (sim.cancel event.seq).2.now) :=
        .started cancelled.wellFormed noTick
          (Simulator.queued_cancel wellFormed idles)
      refine ⟨_, startTicking_idle _ sim dram stopped idle scheduled,
        cancelled.trans (pushCycles_local cancelled.wellFormed _ (by decide) tick 0),
        ?_, .inr ⟨stopped, rfl⟩⟩
      rwa [now] at started
  | stopped stopped noIdle noRefresh ticks idles =>
      exact ⟨_, startTicking_stopped _ sim dram stopped noIdle,
        pushCycles_local wellFormed _ (by decide) tick 0,
        .started wellFormed ticks idles, .inr ⟨stopped, rfl⟩⟩
  | lost eventId stopped idle refresh ticks idles scheduled old gone refused =>
      have refused : (sim.cancel eventId).1 ≠ true := by
        rw [ne_eq, Simulator.cancel_fst wellFormed]
        rintro ⟨event, member, same⟩
        exact gone event member same
      refine ⟨_, startTicking_idle _ sim dram stopped idle scheduled, ?_, ?_,
        .inr ⟨stopped, rfl⟩⟩
      · rw [Simulator.cancel_refused refused]
        exact pushCycles_local wellFormed _ (by decide) tick 0
      · rw [Simulator.cancel_refused refused]
        exact .started wellFormed ticks idles

/-- The kernel after `_deliver_completed`. -/
abbrev handed (label : ℓ) (sim : Simulator (DramCode ℓ γ η)) (dram : Dram engine) :
    Simulator (DramCode ℓ γ η) :=
  handOver (.dram label) dram.completionPriority sim dram.completed

inductive TickEnds (label : ℓ) (sim : Simulator (DramCode ℓ γ η)) (dram : Dram engine) :
    Device (DramCode ℓ γ η) engine → Prop
  | pending (busy : dram.pending ≠ 0) :
      TickEnds label sim dram
        ⟨dram.pushCycles (dram.handed label sim) 1 (.dram label .tick) 0,
          dram.handedOver sim.now⟩
  | idle (serviced : dram.pending = 0) (refresh : dram.idleRefresh = true) :
      TickEnds label sim dram
        ⟨dram.pushCycles (dram.handed label sim) dram.batch.base
            (.dram label .idleTick) 0,
          (dram.handedOver sim.now).stopped.idleFrom (dram.handed label sim).seq⟩
  | stopped (serviced : dram.pending = 0) (noRefresh : dram.idleRefresh = false) :
      TickEnds label sim dram
        ⟨dram.handed label sim, (dram.handedOver sim.now).stopped⟩

omit [DecidableEq ℓ] [DecidableEq γ] wellFormed in
theorem afterTick_ends (label : ℓ) (sim : Simulator (DramCode ℓ γ η))
    (dram : Dram engine) (noIdle : dram.idleTicking = false) :
    ∃ after, afterTick (.dram label) ⟨sim, dram⟩ = (.ok (), after) ∧
      TickEnds label sim dram after := by
  by_cases pending : dram.pending = 0
  · cases refresh : dram.idleRefresh with
    | true =>
        rw [afterTick_idle _ sim dram pending refresh]
        exact ⟨_, startIdleTicking_stopped _ _ (dram.handedOver sim.now).stopped noIdle,
          .idle pending refresh⟩
    | false => exact ⟨_, afterTick_stopped _ sim dram pending refresh,
        .stopped pending refresh⟩
  · exact ⟨_, afterTick_pending _ sim dram pending, .pending pending⟩

theorem TickEnds.clocked {after : Device (DramCode ℓ γ η) engine}
    (ends : TickEnds label sim dram after) (ticking : dram.ticking = true)
    (noIdle : dram.idleTicking = false) (ticks : sim.queued label .tick = [])
    (idles : sim.queued label .idleTick = []) (time : sim.now = dram.due 0) :
    Local (DramCode.Clock label) (dram.handed label sim) after.sim ∧
      Clocked lossy label after.sim after.dram := by
  have handed := handOver_local wellFormed label dram.completionPriority dram.completed
  have noTicks := (handed.queued (by simp [DramCode.Completion])).trans ticks
  have noIdles := (handed.queued (by simp [DramCode.Completion])).trans idles
  have later (count : Int) :
      (dram.handed label sim).now + count * dram.clk.periodPs = dram.due count := by
    rw [handOver_now, time, due, due]
    ring
  cases ends with
  | pending busy =>
      refine ⟨pushCycles_local handed.wellFormed _ (by decide) (.inl rfl) 0, ?_⟩
      exact .busy _ ticking noIdle (Simulator.push_queued handed.wellFormed _ noTicks)
        ((Simulator.push_queued_other handed.wellFormed _ (by simp)).trans noIdles)
        (later 1)
  | idle serviced refresh =>
      have nonneg : 0 ≤ dram.batch.base := by have := dram.batch.base_pos; omega
      refine ⟨pushCycles_local handed.wellFormed _ nonneg (.inr rfl) 0, ?_⟩
      exact .idle _ rfl rfl refresh
        ((Simulator.push_queued_other handed.wellFormed _ (by simp)).trans noTicks)
        (Simulator.push_queued handed.wellFormed _ noIdles) rfl (later _)
  | stopped serviced noRefresh =>
      exact ⟨.refl _ handed.wellFormed, .stopped rfl noIdle noRefresh noTicks noIdles⟩

/-- How an idle tick ends: its batch is refused, a request appeared, or there is
nothing to do. -/
inductive IdleEnds (label : ℓ) (sim : Simulator (DramCode ℓ γ η)) (dram : Dram engine) :
    Except PyError Unit × Device (DramCode ℓ γ η) engine → Prop
  | refused (large : ¬ FitsInt dram.batch.current) :
      IdleEnds label sim dram (.error .typeError, ⟨sim, dram⟩)
  | pending (fits : FitsInt dram.batch.current)
      (busy : (dram.ran dram.batch.current.toNat).pending ≠ 0) :
      IdleEnds label sim dram (.ok (), ⟨dram.pushCycles sim 1 (.dram label .tick) 0,
        (dram.ran dram.batch.current.toNat).idleOff.busyFrom sim.now⟩)
  | idle (fits : FitsInt dram.batch.current)
      (serviced : (dram.ran dram.batch.current.toNat).pending = 0) :
      IdleEnds label sim dram (.ok (),
        ⟨dram.pushCycles sim dram.batch.grow.current (.dram label .idleTick) 0,
          (dram.ran dram.batch.current.toNat).idleOn sim.seq⟩)

omit [DecidableEq ℓ] wellFormed in
theorem idleTick_ends (label : ℓ) (sim : Simulator (DramCode ℓ γ η))
    (dram : Dram engine) (stopped : dram.ticking = false) :
    IdleEnds label sim dram (idleTick (.dram label) ⟨sim, dram⟩) := by
  by_cases fits : FitsInt dram.batch.current
  · by_cases pending : (dram.ran dram.batch.current.toNat).pending = 0
    · rw [idleTick_idle _ sim dram fits pending]
      exact .idle fits pending
    · rw [idleTick_pending _ sim dram fits pending,
        startTicking_stopped _ sim (dram.ran _).idleOff stopped rfl]
      exact .pending fits pending
  · rw [idleTick_refused _ sim dram fits]
    exact .refused fits

omit [DecidableEq ℓ] [DecidableEq γ] wellFormed in
theorem due_ran (count : Nat) (later : Int) :
    (dram.ran count).due later = dram.due (count + later) := by
  change dram.origin + (dram.cycles + count + later) * dram.clk.periodPs = _
  rw [due, add_assoc dram.cycles]

theorem IdleEnds.clocked {result : Except PyError Unit}
    {after : Device (DramCode ℓ γ η) engine} {eventId : Nat}
    (ends : IdleEnds label sim dram (result, after)) (stopped : dram.ticking = false)
    (idle : dram.idleTicking = true) (refresh : dram.idleRefresh = true)
    (ticks : sim.queued label .tick = []) (idles : sim.queued label .idleTick = [])
    (scheduled : dram.idleEventId = some eventId) (old : eventId < sim.seq)
    (gone : ∀ event ∈ sim.liveEvents, event.seq ≠ eventId)
    (time : sim.now = dram.due dram.batch.current)
    (may : ¬ FitsInt dram.batch.current → lossy) :
    Local (DramCode.Clock label) sim after.sim ∧
      Clocked lossy label after.sim after.dram := by
  have positive : 1 ≤ dram.batch.current := dram.batch.current_pos
  cases ends with
  | refused large =>
      exact ⟨.refl _ wellFormed,
        .lost eventId stopped idle refresh ticks idles scheduled old gone (may large)⟩
  | pending fits busy =>
      have started : Clocked lossy label (dram.pushCycles sim 1 (.dram label .tick) 0)
          ((dram.ran dram.batch.current.toNat).idleOff.busyFrom sim.now) :=
        @Clocked.started _ _ _ _ _ _ lossy label sim
          (dram.ran dram.batch.current.toNat).idleOff wellFormed ticks idles
      exact ⟨pushCycles_local wellFormed _ (by decide) (.inl rfl) 0, started⟩
  | idle fits serviced =>
      have nonneg : 0 ≤ dram.batch.grow.current := by
        have := dram.batch.grow.current_pos; omega
      refine ⟨pushCycles_local wellFormed _ nonneg (.inr rfl) 0, ?_⟩
      refine .idle _ stopped idle refresh
        ((Simulator.push_queued_other wellFormed _ (by simp)).trans ticks)
        (Simulator.push_queued wellFormed _ idles) rfl ?_
      change sim.now + dram.batch.grow.current * dram.clk.periodPs =
        (dram.ran _).due dram.batch.grow.current
      rw [due_ran, time, due, due, Int.toNat_of_nonneg (by omega)]
      ring

end Steps

/-! ## Firing -/

section Fired

variable {event : Event (DramCode ℓ γ η)} (next : sim.peek.1 = some event)
include next

theorem Clocked.tick_fired (clocked : Clocked lossy label sim dram)
    (named : event.callback = .dram label .tick) :
    dram.ticking = true ∧ dram.idleTicking = false ∧
      (sim.fireNext event).queued label .tick = [] ∧
        (sim.fireNext event).queued label .idleTick = [] ∧ event.time = dram.due 1 := by
  have before := Simulator.queued_fired next named
  have others : (sim.fireNext event).queued label .idleTick =
      sim.queued label .idleTick :=
    Simulator.queued_fired_other next (by rw [named]; simp)
  cases clocked with
  | busy only ticking noIdle ticks idles time =>
      rw [ticks] at before
      obtain ⟨rfl, rest⟩ := List.cons.inj before
      exact ⟨ticking, noIdle, rest.symm, others.trans idles, time⟩
  | idle _ _ _ _ ticks => rw [ticks] at before; cases before
  | stopped _ _ _ ticks => rw [ticks] at before; cases before
  | lost _ _ _ _ ticks => rw [ticks] at before; cases before

theorem Clocked.idleTick_fired (clocked : Clocked lossy label sim dram)
    (named : event.callback = .dram label .idleTick) :
    dram.ticking = false ∧ dram.idleTicking = true ∧ dram.idleRefresh = true ∧
      (sim.fireNext event).queued label .tick = [] ∧
        (sim.fireNext event).queued label .idleTick = [] ∧
          dram.idleEventId = some event.seq ∧
            event.time = dram.due dram.batch.current := by
  have before := Simulator.queued_fired next named
  have others : (sim.fireNext event).queued label .tick = sim.queued label .tick :=
    Simulator.queued_fired_other next (by rw [named]; simp)
  cases clocked with
  | idle only stopped idle refresh ticks idles scheduled time =>
      rw [idles] at before
      obtain ⟨rfl, rest⟩ := List.cons.inj before
      exact ⟨stopped, idle, refresh, others.trans ticks, rest.symm, scheduled, time⟩
  | busy _ _ _ _ idles => rw [idles] at before; cases before
  | stopped _ _ _ _ idles => rw [idles] at before; cases before
  | lost _ _ _ _ _ idles => rw [idles] at before; cases before

end Fired

/-! ## Requests -/

def answered (mem : MemorySystem engine) (now : Int)
    (handed rest : List (RequestInfo × Option γ)) (dram : Dram engine) : Dram engine :=
  { dram with
    mem
    completed := rest
    delivered := dram.delivered ++ deliveries now handed }

/-- How a call of a request method ends in a component between two events. -/
inductive Requested (lossy : Prop) (label : ℓ) (sim : Simulator (DramCode ℓ γ η))
    (base : Dram engine)
    (request : DramRequest γ) (mem : MemorySystem engine) (sends : List (Int × Bool))
    (submission : Submission γ) :
    Except PyError MemoryValue × Device (DramCode ℓ γ η) engine → Prop
  | raised (error : PyError) :
      Requested lossy label sim base request mem sends submission
        (.error error, ⟨sim, { base with mem }.noted submission⟩)
  | rejected (value : MemoryValue) (accepts : value.accepts = sends.map Prod.snd)
      (all : sends.map Prod.fst = request.addrs)
      (allRefused : ∀ send ∈ sends, send.2 = false) :
      Requested lossy label sim base request mem sends submission
        (.ok value, ⟨sim, { base with mem }.noted submission⟩)
  | accepted (value : MemoryValue) (accepts : value.accepts = sends.map Prod.snd)
      (all : sends.map Prod.fst = request.addrs)
        (someTaken : ∃ send ∈ sends, send.2 = true)
      (handed rest : List (RequestInfo × Option γ))
      (answered : base.completed = [] → rest = [] ∧
        handed = request.answers base.mem.clk request.callback sends)
      (after : Device (DramCode ℓ γ η) engine)
      (clock : Local (DramCode.Clock label)
        (handOver (.dram label) base.completionPriority sim handed) after.sim)
      (clocked : Clocked lossy label after.sim after.dram)
      (started :
        base.ticking = true ∧ after.dram = base.answered mem sim.now handed rest ∨
        base.ticking = false ∧
          after.dram = (base.answered mem sim.now handed rest).busyFrom sim.now) :
      Requested lossy label sim base request mem sends submission
        (.ok value, ⟨after.sim, after.dram.noted submission⟩)

section Requests

variable {cacheline : Int}

omit [DecidableEq γ] in
theorem due_eq {changed : Dram engine} (clk : changed.clk = dram.clk)
    (stretches : changed.stretches = dram.stretches)
    (builtAt : changed.builtAt = dram.builtAt) (cycles : changed.cycles = dram.cycles) :
    changed.due = dram.due := by
  funext count
  simp only [due, origin, clk, stretches, builtAt, cycles]

theorem Running.collector (running : Running lossy cacheline label sim dram)
    (callback : Option γ) :
    Running lossy cacheline label sim (dram.collector callback).2 := by
  have cached := collector_cached running.cached callback
  obtain ⟨src, cache, count, same⟩ := collector_eq dram callback
  rw [same] at cached ⊢
  exact ⟨running.clocked.congr rfl rfl rfl rfl rfl rfl, running.drained, running.stable,
    cached⟩

theorem Running.requested (wellFormed : sim.WellFormed)
    (running : Running lossy cacheline label sim dram) (request : DramRequest γ) :
    let wrap := (dram.collector request.callback).1
    let base := (dram.collector request.callback).2
    let called := submit (.dram label) request ⟨sim, dram⟩
    ∃ mem sends submission,
      submission = ⟨sim.now, dram.cycles, request, called.1,
        (DramRequest.taken sends).map (request.sent wrap)⟩ ∧
      Sent cacheline sim base request wrap mem sends ∧
      Requested lossy label sim base request mem sends submission called := by
  intro wrap base called
  obtain ⟨mem, sends, sent, submits⟩ :=
    submit_submits (.dram label : DramEvent γ → DramCode ℓ γ η) sim running.stable
      running.cached request
  refine ⟨mem, sends, _, rfl, sent, ?_⟩
  have clocked : Clocked lossy label sim base :=
    (running.collector request.callback).clocked
  have called_eq : called = submit (.dram label) request ⟨sim, dram⟩ := rfl
  rw [← called_eq] at submits
  generalize (⟨sim.now, dram.cycles, request, called.1, _⟩ : Submission γ) = submission
    at submits ⊢
  clear_value called
  clear called_eq
  cases submits with
  | raised error => exact .raised error
  | rejected value accepts all allRefused => exact .rejected value accepts all allRefused
  | accepted value accepts all someTaken handed rest answered started ticking =>
      have given := handOver_local wellFormed label base.completionPriority handed
      have answering : Clocked lossy label
          (handOver (.dram label) base.completionPriority sim handed)
            (base.answered mem sim.now handed rest) := by
        refine (clocked.foreign given ?_ ?_).congr rfl rfl rfl rfl rfl ?_
        · simp [DramCode.Completion]
        · simp [DramCode.Completion]
        · exact due_eq rfl rfl rfl sent.clk
      obtain ⟨after, begun, local_, running, cases_⟩ :=
        startTicking_clocked given.wellFormed answering
      have same : started = (.ok (), after) := ticking.symm.trans begun
      subst same
      refine .accepted value accepts all someTaken handed rest answered after
        local_ running ?_
      rwa [handOver_now] at cases_

theorem Requested.running (wellFormed : sim.WellFormed)
    {base : Dram engine} (running : Running lossy cacheline label sim base)
    {request : DramRequest γ} {wrap : Collector γ} {mem : MemorySystem engine}
    {sends : List (Int × Bool)}
    (sent : Sent cacheline sim base request wrap mem sends)
    {submission : Submission γ}
    {called : Except PyError MemoryValue × Device (DramCode ℓ γ η) engine}
    (requested : Requested lossy label sim base request mem sends submission called) :
    Local (DramCode.Owned label) sim called.2.sim ∧
      Running lossy cacheline label called.2.sim called.2.dram := by
  have drained : mem.impl.completed = [] := by
    rw [sent.sending.completed, running.drained]
  have unanswered :
      Running lossy cacheline label sim ({ base with mem }.noted submission) :=
    { clocked :=
        running.clocked.congr rfl rfl rfl rfl rfl (due_eq rfl rfl rfl sent.clk)
      drained
      stable := sent.stable
      cached := running.cached }
  cases requested with
  | raised error => exact ⟨.refl _ wellFormed, unanswered⟩
  | rejected value accepts all allRefused => exact ⟨.refl _ wellFormed, unanswered⟩
  | accepted value accepts all someTaken handed rest answered after clock
      clocked started =>
      have given := handOver_local wellFormed label base.completionPriority handed
      refine ⟨(given.mono fun _ => DramCode.Completion.owned).trans
        (clock.mono fun _ => DramCode.Clock.owned), ?_⟩
      refine ⟨clocked.congr rfl rfl rfl rfl rfl rfl, ?_, ?_, ?_⟩
      all_goals
        rcases started with ⟨-, same⟩ | ⟨-, same⟩
        all_goals simp only [same]
      · exact drained
      · exact drained
      · exact sent.stable
      · exact sent.stable
      · exact running.cached
      · exact running.cached

end Requests

/-! ## Ticks and idle ticks -/

section Ticks

variable {cacheline : Int}

structure Ticked (lossy : Prop) (cacheline : Int) (label : ℓ)
    (sim : Simulator (DramCode ℓ γ η))
    (event : Event (DramCode ℓ γ η)) (dram : Dram engine) (count : Nat)
    (last : Simulator (DramCode ℓ γ η)) (ended : Device (DramCode ℓ γ η) engine) :
    Prop where
  ticking : dram.ticking = true
  noIdle : dram.idleTicking = false
  time : event.time = dram.due 1
  positive : 1 ≤ count
  quiet : ∀ earlier, 1 ≤ earlier → earlier < count →
    (PyMemorySystem.tick^[earlier] dram.mem.impl).progressed = false
  jumped : (sim.fireNext event).Jumped last (dram.due count)
  ends : TickEnds label last (dram.ran count) ended
  clock : Local (DramCode.Clock label) ((dram.ran count).handed label last) ended.sim
  local_ : Local (DramCode.Owned label) sim ended.sim
  running : Running lossy cacheline label ended.sim ended.dram

structure IdleTicked (lossy : Prop) (cacheline : Int) (label : ℓ)
    (sim : Simulator (DramCode ℓ γ η))
    (event : Event (DramCode ℓ γ η)) (dram : Dram engine)
    (ended : Except PyError Unit × Device (DramCode ℓ γ η) engine) : Prop where
  stopped : dram.ticking = false
  idle : dram.idleTicking = true
  refresh : dram.idleRefresh = true
  time : event.time = dram.due dram.batch.current
  ends : IdleEnds label (sim.fireNext event) dram ended
  clock : Local (DramCode.Clock label) (sim.fireNext event) ended.2.sim
  local_ : Local (DramCode.Owned label) sim ended.2.sim
  running : Running lossy cacheline label ended.2.sim ended.2.dram

omit [DecidableEq ℓ] in
/-- Both ways to tick run some cycles of the engine, in none of which but the last
anything happens, and go on from there. -/
theorem tick_policy (label : ℓ) (dram : Dram engine) (policy : TickPolicy)
    (wellFormed : sim.WellFormed) :
    ∃ count after, 1 ≤ count ∧
      (∀ earlier, 1 ≤ earlier → earlier < count →
        (PyMemorySystem.tick^[earlier] dram.mem.impl).progressed = false) ∧
      sim.Jumped after (sim.now + ((count : Int) - 1) * dram.clk.periodPs) ∧
      policy.tick (.dram label) ⟨sim, dram⟩ =
        afterTick (.dram label) ⟨after, dram.ran count⟩ := by
  cases policy with
  | coalesced =>
      obtain ⟨after, jumped, ticked⟩ :=
        tick_eq (.dram label : DramEvent γ → DramCode ℓ γ η) sim dram wellFormed
      have spec := burst_spec sim dram
      exact ⟨_, after, spec.positive, spec.quiet, jumped, ticked⟩
  | plain =>
      refine ⟨1, sim, le_refl _, fun earlier => ?_, ?_, tickOnce_eq _ sim dram⟩
      · omega
      · exact ⟨wellFormed, rfl, rfl, rfl, rfl, by simp⟩

variable (wellFormed : sim.WellFormed) {event : Event (DramCode ℓ γ η)}
  (next : sim.peek.1 = some event)
include wellFormed next

theorem Running.ticked (running : Running lossy cacheline label sim dram)
    (named : event.callback = .dram label .tick) (policy : TickPolicy) :
    ∃ count jumped ended,
      policy.tick (.dram label) ⟨sim.fireNext event, dram⟩ = (.ok (), ended) ∧
        Ticked lossy cacheline label sim event dram count jumped ended := by
  obtain ⟨ticking, noIdle, ticks, idles, time⟩ := running.clocked.tick_fired next named
  have fired : Local (DramCode.Owned label) sim (sim.fireNext event) :=
    .fired wellFormed next ⟨_, named⟩
  obtain ⟨count, jumped, positive, quiet, jump, ticked⟩ :=
    tick_policy label dram policy fired.wellFormed
  obtain ⟨ended, after, ends⟩ := afterTick_ends label jumped (dram.ran count) noIdle
  have when_ : (sim.fireNext event).now + ((count : Int) - 1) * dram.clk.periodPs =
      dram.due count := by
    rw [Simulator.fireNext_now, time, due, due]
    ring
  rw [when_] at jump
  have moved : Local (DramCode.Owned label) (sim.fireNext event) jumped :=
    .jumped jump (by
      rw [← when_]
      have := Int.mul_nonneg (show 0 ≤ (count : Int) - 1 by omega) dram.clk.positive.le
      omega)
  have given := handOver_local moved.wellFormed label dram.completionPriority
    (dram.ran count).completed
  obtain ⟨clock, clocked⟩ := ends.clocked moved.wellFormed ticking noIdle
    ((Simulator.queued_of_liveEvents jump.liveEvents).trans ticks)
    ((Simulator.queued_of_liveEvents jump.liveEvents).trans idles)
    (by rw [jump.now, due_ran, add_zero])
  refine ⟨count, jumped, ended, ticked.trans after, ticking, noIdle, time, positive,
    quiet, jump, ends, clock, ?_, clocked, ?_, ?_, ?_⟩
  · exact fired.trans (moved.trans ((given.mono fun _ => DramCode.Completion.owned).trans
      (clock.mono fun _ => DramCode.Clock.owned)))
  all_goals cases ends
  all_goals first
    | exact running.stable.moved _ _
    | exact running.cached
    | rfl

theorem Running.idleTicked (running : Running lossy cacheline label sim dram)
    (named : event.callback = .dram label .idleTick)
    (may : ¬ FitsInt dram.batch.current → lossy) :
    IdleTicked lossy cacheline label sim event dram
      (idleTick (.dram label) ⟨sim.fireNext event, dram⟩) := by
  obtain ⟨stopped, idle, refresh, ticks, idles, scheduled, time⟩ :=
    running.clocked.idleTick_fired next named
  have fired : Local (DramCode.Owned label) sim (sim.fireNext event) :=
    .fired wellFormed next ⟨_, named⟩
  have live := Simulator.fireNext_liveEvents next
  have gone : ∀ other ∈ (sim.fireNext event).liveEvents, other.seq ≠ event.seq := by
    have distinct := wellFormed.live_distinct
    rw [live, List.map_cons, List.nodup_cons] at distinct
    exact fun other member same => distinct.1 (same ▸ List.mem_map_of_mem member)
  have ends := idleTick_ends label (sim.fireNext event) dram stopped
  generalize idleTick (.dram label) ⟨sim.fireNext event, dram⟩ = ended at ends
  obtain ⟨clock, clocked⟩ := IdleEnds.clocked fired.wellFormed ends stopped idle refresh
    ticks idles scheduled (wellFormed.live_fresh event (by simp [live])) gone time may
  refine ⟨stopped, idle, refresh, time, ends, clock,
    fired.trans (clock.mono fun _ => DramCode.Clock.owned), clocked, ?_, ?_, ?_⟩
  all_goals cases ends
  all_goals first
    | exact running.stable
    | exact running.stable.moved _ _
    | exact running.cached
    | exact running.drained
    | rfl

end Ticks

/-! ## Construction -/

section Create

variable {setup : DramSetup γ}

omit [DecidableEq ℓ] [DecidableEq γ] in
theorem create_refused {error : PyError}
    (refused : (create (.dram label) setup sim).1 = .error error) :
    (create (.dram label) setup sim).2 = sim := by
  unfold create at refused ⊢
  split at refused
  · rfl
  · rename_i clk _
    split at refused
    · rename_i base_pos
      rw [dif_pos base_pos]
      have started :=
        startIdleTicking_stopped (.dram label : DramEvent γ → DramCode ℓ γ η)
        sim (fresh setup clk base_pos sim.now) rfl
      simp only at refused ⊢
      split at refused
      · rw [started] at refused
        cases refused
      · cases refused
    · rename_i small
      rw [dif_neg small]

structure Created (lossy : Prop) (label : ℓ) (setup : DramSetup γ)
    (sim : Simulator (DramCode ℓ γ η))
    (made : Dram setup.engine) (after : Device (DramCode ℓ γ η) setup.engine) :
    Prop where
  clock : Local (DramCode.Clock label) sim after.sim
  running : Running lossy setup.cacheline label after.sim after.dram
  now : after.sim.now = sim.now
  initial : ∃ clk base_pos, made = fresh setup clk base_pos sim.now
  dram : setup.idleRefresh = true ∧ after.dram = made.idleFrom sim.seq ∨
    setup.idleRefresh = false ∧ after.dram = made

theorem created (wellFormed : sim.WellFormed) (ticks : sim.queued label .tick = [])
    (idles : sim.queued label .idleTick = []) {dram : Dram setup.engine}
    (success : (create (.dram label) setup sim).1 = .ok dram) :
    ∃ made, Created lossy label setup sim made
      ⟨(create (.dram label) setup sim).2, dram⟩ := by
  obtain ⟨clk, base_pos, cases_⟩ := create_ok _ sim success
  refine ⟨fresh setup clk base_pos sim.now, ?_⟩
  have stable : (fresh setup clk base_pos sim.now).mem.Stable setup.cacheline :=
    ⟨rfl, rfl⟩
  have cached : (fresh setup clk base_pos sim.now).Cached := fun wrap known => by
    cases known
  by_cases refresh : setup.idleRefresh = true
  · simp only [if_pos refresh] at cases_
    obtain ⟨after, rfl⟩ := cases_
    rw [after]
    have nonneg : 0 ≤ setup.idleBatchCycles := by omega
    refine ⟨pushCycles_local wellFormed _ nonneg (.inr rfl) 0,
      ⟨.idle (sim.pushed (sim.now + setup.idleBatchCycles * clk.periodPs)
        (.dram label .idleTick) 0) rfl rfl refresh ?_ ?_ rfl ?_, rfl, stable, cached⟩,
      rfl, ⟨clk, base_pos, rfl⟩, .inl ⟨refresh, rfl⟩⟩
    · exact (Simulator.push_queued_other wellFormed _ (by simp)).trans ticks
    · exact Simulator.push_queued wellFormed _ idles
    · change sim.now + setup.idleBatchCycles * clk.periodPs =
        sim.now + (0 + setup.idleBatchCycles) * clk.periodPs
      rw [zero_add]
  · simp only [if_neg refresh] at cases_
    obtain ⟨after, rfl⟩ := cases_
    rw [after]
    have off : setup.idleRefresh = false := by simpa using refresh
    exact ⟨.refl _ wellFormed, ⟨.stopped rfl rfl off ticks idles, rfl, stable, cached⟩,
      rfl, ⟨clk, base_pos, rfl⟩, .inr ⟨off, rfl⟩⟩

end Create

end Dram

end Pyramulator
