import Pyramulator.Dram.System

namespace Pyramulator

/-! What each method of `Dram` does, as an equation. -/

namespace PyMemorySystem

variable {π : Type} {engine : Engine (CppCallback π)}

theorem progressLoop_spec (sys : PyMemorySystem engine) {left : Nat}
    (positive : 1 ≤ left) :
    ∃ count, 1 ≤ count ∧ count ≤ left ∧
      sys.progressLoop left = (count, tick^[count] sys) ∧
      (∀ earlier, 1 ≤ earlier → earlier < count →
        (tick^[earlier] sys).progressed = false) ∧
      (count < left → (tick^[count] sys).progressed = true) := by
  induction left generalizing sys with
  | zero => omega
  | succ left induction =>
      unfold progressLoop
      by_cases stop : sys.tick.progressed = true
      · refine ⟨1, le_refl _, by omega, by simp [stop], fun earlier => ?_,
          fun _ => stop⟩
        omega
      · cases left with
        | zero =>
            refine ⟨1, le_refl _, le_refl _, by simp [stop, progressLoop], ?_, ?_⟩
            · omega
            · omega
        | succ left =>
            obtain ⟨count, one, bound, loop, quiet, last⟩ :=
              induction sys.tick (by omega)
            refine ⟨count + 1, by omega, by omega, ?_, ?_, ?_⟩
            · simp only [stop, loop]
              rfl
            · intro earlier positive before
              cases earlier with
              | zero => omega
              | succ earlier =>
                  cases earlier with
                  | zero => simpa using stop
                  | succ earlier => exact quiet _ (by omega) (by omega)
            · exact fun more => last (by omega)

end PyMemorySystem

namespace Device

variable {κ γ α : Type} {engine : Engine (DramCallback γ)}

@[simp] theorem onSim_apply (call : Simulator κ → Except PyError α × Simulator κ)
    (device : Device κ engine) :
    onSim call device =
      ((call device.sim).1, { device with sim := (call device.sim).2 }) := rfl

@[simp] theorem assign_apply (change : Dram engine → Dram engine)
    (device : Device κ engine) :
    (assign change : Call κ engine Unit) device =
      (.ok (), { device with dram := change device.dram }) := rfl

end Device

namespace Dram

variable {γ κ : Type} {engine : Engine (DramCallback γ)}

/-! ## The memory -/

def collected (event : CompletionEvent (ReadWrap (Collector γ))) :
    RequestInfo × Option γ :=
  (event.info, event.callback.userCb.callback)

def ran (dram : Dram engine) (count : Nat) : Dram engine :=
  let impl := PyMemorySystem.tick^[count] dram.mem.impl
  { dram with
    mem := { dram.mem with
      impl := { impl with completed := [] }
      clk := dram.mem.clk + count }
    completed := dram.completed ++ impl.completed.map collected }

section Ran

variable (dram : Dram engine) (count : Nat)

@[simp] theorem ran_toComponent : (dram.ran count).toComponent = dram.toComponent :=
  rfl

@[simp] theorem ran_ticking : (dram.ran count).ticking = dram.ticking := rfl

@[simp] theorem ran_idleTicking : (dram.ran count).idleTicking = dram.idleTicking :=
  rfl

@[simp] theorem ran_idleRefresh : (dram.ran count).idleRefresh = dram.idleRefresh :=
  rfl

@[simp] theorem ran_idleEventId : (dram.ran count).idleEventId = dram.idleEventId :=
  rfl

@[simp] theorem ran_batch : (dram.ran count).batch = dram.batch := rfl

@[simp] theorem ran_stretches : (dram.ran count).stretches = dram.stretches := rfl

@[simp] theorem ran_builtAt : (dram.ran count).builtAt = dram.builtAt := rfl

@[simp] theorem ran_cycles : (dram.ran count).cycles = dram.cycles + count := rfl

theorem ran_pending : (dram.ran count).pending =
    (PyMemorySystem.tick^[count] dram.mem.impl).pending := rfl

end Ran

section Memory

variable [DecidableEq γ] (sim : Simulator κ) (dram : Dram engine)

theorem onMem_tickUntilProgress {burst : Int} (positive : 1 ≤ burst)
    (small : burst ≤ 1000000) :
    Device.onMem (.tickUntilProgress burst) (⟨sim, dram⟩ : Device κ engine) =
      (.ok (.count (dram.mem.impl.progressLoop burst.toNat).1),
        ⟨sim, dram.ran (dram.mem.impl.progressLoop burst.toNat).1⟩) := by
  obtain ⟨count, -, -, loop, -, -⟩ :=
    dram.mem.impl.progressLoop_spec (show 1 ≤ burst.toNat by omega)
  have fits : FitsLong burst := ⟨by omega, by omega⟩
  simp only [Device.onMem, MemoryOp.begin, MemorySystem.tickUntilProgress,
    if_neg (not_lt.mpr positive), PyMemorySystem.runUntilProgress, if_pos fits, loop]
  rfl

theorem onMem_tick :
    Device.onMem .tick (⟨sim, dram⟩ : Device κ engine) =
      (.ok (.count 1), ⟨sim, dram.ran 1⟩) := rfl

theorem onMem_run {cycles : Int} (nonneg : 0 ≤ cycles) (fits : FitsInt cycles) :
    Device.onMem (.run cycles) (⟨sim, dram⟩ : Device κ engine) =
      (.ok (.count cycles), ⟨sim, dram.ran cycles.toNat⟩) := by
  simp only [Device.onMem, MemoryOp.begin, MemorySystem.run, PyMemorySystem.run,
    if_pos fits, ran, Int.toNat_of_nonneg nonneg]
  rfl

theorem onMem_run_refused {cycles : Int} (large : ¬ FitsInt cycles) :
    Device.onMem (.run cycles) (⟨sim, dram⟩ : Device κ engine) =
      (.error .typeError, ⟨sim, dram⟩) := by
  simp only [Device.onMem, MemoryOp.begin, MemorySystem.run, PyMemorySystem.run,
    if_neg large]
  rfl

end Memory

section

variable (closure : DramEvent γ → κ) (sim : Simulator κ) (dram : Dram engine)

theorem scheduleCycles_eq {count : Int} (nonneg : 0 ≤ count) (event : DramEvent γ) :
    scheduleCycles closure count event (⟨sim, dram⟩ : Device κ engine) =
      (.ok sim.seq, ⟨dram.pushCycles sim count (closure event) 0, dram⟩) := by
  simp only [scheduleCycles]
  rw [Method.bind_ok _ (Method.get_apply _), Device.onSim_apply,
    Component.scheduleCycles_of_nonneg _ _ nonneg]

/-! ## Deliveries -/

/-- The simulator after `_deliver_completed`. -/
def handOver (priority : Int) (sim : Simulator κ) :
    List (RequestInfo × Option γ) → Simulator κ
  | [] => sim
  | (_, none) :: rest => handOver priority sim rest
  | (info, some callback) :: rest =>
      handOver priority
        (sim.push (sim.now + 0) (closure (.completion callback info)) priority none).2
        rest

@[simp] theorem handOver_now (priority : Int)
    (completed : List (RequestInfo × Option γ)) :
    (handOver closure priority sim completed).now = sim.now := by
  induction completed generalizing sim with
  | nil => rfl
  | cons completion rest induction =>
      obtain ⟨info, _ | callback⟩ := completion
      · exact induction sim
      · exact induction _

def deliveries (now : Int) (completed : List (RequestInfo × Option γ)) :
    List (Delivery γ) :=
  completed.map fun (info, callback) => ⟨now, info, callback⟩

theorem deliverEach_eq (completed : List (RequestInfo × Option γ))
    (all : dram.completed = completed) :
    deliverEach closure completed (⟨sim, dram⟩ : Device κ engine) =
      (.ok (), ⟨handOver closure dram.completionPriority sim completed,
        { dram with
          completed := []
          delivered := dram.delivered ++ deliveries sim.now completed }⟩) := by
  induction completed generalizing sim dram with
  | nil =>
      have same : { dram with
          completed := []
          delivered := dram.delivered ++ deliveries sim.now [] } = dram := by
        rw [deliveries, List.map_nil, List.append_nil, ← all]
      rw [same]
      rfl
  | cons completion rest induction =>
      obtain ⟨info, _ | callback⟩ := completion
      · simp only [deliverEach, Method.bind_apply, Method.get_apply,
          Device.assign_apply]
        rw [induction _ _ rfl]
        simp [handOver, deliveries]
      · simp only [deliverEach, Method.bind_apply, Method.get_apply,
          Device.assign_apply, Device.onSim_apply,
          Simulator.schedule, lt_irrefl, if_false]
        rw [induction _ _ rfl]
        simp [handOver, deliveries]

/-- The component after `_deliver_completed`. -/
def handedOver (now : Int) (dram : Dram engine) : Dram engine :=
  { dram with
    completed := []
    delivered := dram.delivered ++ deliveries now dram.completed }

theorem deliverCompleted_eq :
    deliverCompleted closure (⟨sim, dram⟩ : Device κ engine) =
      (.ok (), ⟨handOver closure dram.completionPriority sim dram.completed,
        dram.handedOver sim.now⟩) := by
  simp only [deliverCompleted, Method.bind_apply, Method.get_apply]
  exact deliverEach_eq closure sim dram _ rfl

/-! ## Clocks -/

def busyFrom (now : Int) (dram : Dram engine) : Dram engine :=
  { dram with
    ticking := true
    idleTicking := false
    stretches := dram.stretches ++ [(now, dram.cycles)] }

theorem startTicking_busy (busy : dram.ticking = true) :
    startTicking closure (⟨sim, dram⟩ : Device κ engine) = (.ok (), ⟨sim, dram⟩) := by
  simp [startTicking, Method.bind_apply, busy]

theorem startTicking_stopped (stopped : dram.ticking = false)
    (noIdle : dram.idleTicking = false) :
    startTicking closure (⟨sim, dram⟩ : Device κ engine) =
      (.ok (), ⟨dram.pushCycles sim 1 (closure .tick) 0, dram.busyFrom sim.now⟩) := by
  simp [startTicking, Method.bind_apply, stopped, noIdle, scheduleCycles_eq, busyFrom]

theorem startTicking_idle (stopped : dram.ticking = false)
    (idle : dram.idleTicking = true) {eventId : Nat}
    (scheduled : dram.idleEventId = some eventId) :
    startTicking closure (⟨sim, dram⟩ : Device κ engine) =
      (.ok (), ⟨dram.pushCycles (sim.cancel eventId).2 1 (closure .tick) 0,
        dram.busyFrom sim.now⟩) := by
  simp [startTicking, Method.bind_apply, stopped, idle, scheduled, scheduleCycles_eq,
    busyFrom, cycles]

theorem startTicking_lost (stopped : dram.ticking = false)
    (idle : dram.idleTicking = true) (lost : dram.idleEventId = none) :
    startTicking closure (⟨sim, dram⟩ : Device κ engine) =
      (.error (.runtimeError "idle ticking without an event id"),
        ⟨sim, { dram with idleTicking := false }⟩) := by
  simp [startTicking, Method.bind_apply, stopped, idle, lost]

def idleFrom (eventId : Nat) (dram : Dram engine) : Dram engine :=
  { dram with
    idleTicking := true
    batch := dram.batch.reset
    idleEventId := some eventId }

theorem startIdleTicking_stopped (noIdle : dram.idleTicking = false) :
    startIdleTicking closure (⟨sim, dram⟩ : Device κ engine) =
      (.ok (), ⟨dram.pushCycles sim dram.batch.base (closure .idleTick) 0,
        dram.idleFrom sim.seq⟩) := by
  have nonneg : 0 ≤ dram.batch.base := by have := dram.batch.base_pos; omega
  simp [startIdleTicking, Method.bind_apply, noIdle, scheduleCycles_eq, nonneg,
    idleFrom]

/-- A component is built: its clock is positive, and its idle clock runs if it
is to. -/
theorem create_ok {setup : DramSetup γ} {dram : Dram setup.engine}
    (created : (create closure setup sim).1 = .ok dram) :
    ∃ clk base_pos, let made := fresh setup clk base_pos sim.now
      if setup.idleRefresh then
        (create closure setup sim).2 =
            made.pushCycles sim made.batch.base (closure .idleTick) 0 ∧
          dram = made.idleFrom sim.seq
      else (create closure setup sim).2 = sim ∧ dram = made := by
  unfold create at created ⊢
  split at created
  · cases created
  · rename_i clk _
    split at created
    · rename_i base_pos
      refine ⟨clk, base_pos, ?_⟩
      simp only [dif_pos base_pos] at created ⊢
      by_cases refresh : setup.idleRefresh = true
      · have started := startIdleTicking_stopped closure sim
          (fresh setup clk base_pos sim.now) rfl
        simp only [refresh, if_true, started] at created ⊢
        exact ⟨trivial, (Except.ok.inj created).symm⟩
      · simp only [refresh] at created ⊢
        exact ⟨rfl, (Except.ok.inj created).symm⟩
    · cases created

/-! ## Ticks -/

def stopped (dram : Dram engine) : Dram engine := { dram with ticking := false }

theorem afterTick_pending (pending : dram.pending ≠ 0) :
    afterTick closure (⟨sim, dram⟩ : Device κ engine) =
      (.ok (), ⟨dram.pushCycles
        (handOver closure dram.completionPriority sim dram.completed) 1
          (closure .tick) 0, dram.handedOver sim.now⟩) := by
  have same : (dram.handedOver sim.now).pending ≠ 0 := pending
  simp only [afterTick, Method.bind_apply, Method.get_apply, deliverCompleted_eq,
    if_pos same, scheduleCycles_eq closure _ _ Int.one_nonneg]
  rfl

theorem afterTick_idle (serviced : dram.pending = 0)
    (refresh : dram.idleRefresh = true) :
    afterTick closure (⟨sim, dram⟩ : Device κ engine) =
      startIdleTicking closure
        ⟨handOver closure dram.completionPriority sim dram.completed,
          (dram.handedOver sim.now).stopped⟩ := by
  have same : ¬ (dram.handedOver sim.now).pending ≠ 0 := not_not.mpr serviced
  simp only [afterTick, Method.bind_apply, Method.get_apply, deliverCompleted_eq,
    if_neg same, Device.assign_apply]
  rw [if_pos (show (dram.handedOver sim.now).idleRefresh = true from refresh)]
  rfl

theorem afterTick_stopped (serviced : dram.pending = 0)
    (noRefresh : dram.idleRefresh = false) :
    afterTick closure (⟨sim, dram⟩ : Device κ engine) =
      (.ok (), ⟨handOver closure dram.completionPriority sim dram.completed,
        (dram.handedOver sim.now).stopped⟩) := by
  have same : ¬ (dram.handedOver sim.now).pending ≠ 0 := not_not.mpr serviced
  have off : ¬ (dram.handedOver sim.now).idleRefresh = true := by
    simp [handedOver, noRefresh]
  simp only [afterTick, Method.bind_apply, Method.get_apply, deliverCompleted_eq,
    if_neg same, Device.assign_apply, if_neg off]
  rfl

/-! ### Bursts -/

section Burst

variable {period now : Int} {next until_ : Option Int}

theorem eventBound_spec (now : Int) (next : Option Int) (positive : 0 < period) :
    1 ≤ eventBound period now next ∧ eventBound period now next ≤ 1000000 ∧
      ∀ time, next = some time → eventBound period now next = 1 ∨
        now < time ∧ now + (eventBound period now next - 1) * period < time := by
  cases next with
  | none => simp [eventBound]
  | some time =>
      simp only [eventBound]
      split
      · exact ⟨le_refl _, by decide, fun _ _ => .inl rfl⟩
      · have nonneg : 0 ≤ (time - now - 1) / period :=
          Int.ediv_nonneg (by omega) positive.le
        refine ⟨by omega, min_le_left _ _, ?_⟩
        rintro _ ⟨⟩
        refine .inr ⟨by omega, ?_⟩
        have cycles : min 1000000 ((time - now - 1) / period + 1) - 1 ≤
            (time - now - 1) / period := by omega
        have span := Int.mul_le_mul_of_nonneg_right cycles positive.le
        have whole := Int.ediv_mul_le (time - now - 1) positive.ne'
        omega

/-- A burst of more than one cycle ends before the next event and not after the
horizon. -/
theorem burstBound_spec (now : Int) (next until_ : Option Int)
    (positive : 0 < period) :
    1 ≤ burstBound period now next until_ ∧ burstBound period now next until_ ≤ 1000000 ∧
      (∀ time, next = some time → burstBound period now next until_ = 1 ∨
        now < time ∧ now + (burstBound period now next until_ - 1) * period < time) ∧
      ∀ horizon, until_ = some horizon → burstBound period now next until_ = 1 ∨
        now + (burstBound period now next until_ - 1) * period ≤ horizon := by
  obtain ⟨one, small, before⟩ := eventBound_spec now next positive
  cases until_ with
  | none => exact ⟨one, small, before, by simp⟩
  | some horizon =>
      simp only [burstBound]
      split
      · exact ⟨le_refl _, by decide, fun _ _ => .inl rfl, fun _ _ => .inl rfl⟩
      · have nonneg : 0 ≤ (horizon - now) / period :=
          Int.ediv_nonneg (by omega) positive.le
        refine ⟨by omega, by omega, fun time known => ?_, ?_⟩
        · rcases before time known with single | ⟨later, within⟩
          · exact .inl (by omega)
          · refine .inr ⟨later, ?_⟩
            have span := Int.mul_le_mul_of_nonneg_right
              (show min (eventBound period now next) ((horizon - now) / period + 1) - 1 ≤
                eventBound period now next - 1 by omega) positive.le
            omega
        · rintro _ ⟨⟩
          refine .inr ?_
          have span := Int.mul_le_mul_of_nonneg_right
            (show min (eventBound period now next) ((horizon - now) / period + 1) - 1 ≤
              (horizon - now) / period by omega) positive.le
          have whole := Int.ediv_mul_le (horizon - now) positive.ne'
          omega

end Burst

theorem maxTickBurst_eq :
    maxTickBurst (⟨sim, dram⟩ : Device κ engine) =
      (.ok (burstBound dram.clk.periodPs sim.now
        (sim.liveEvents.head?.map Event.time) sim.runUntil), ⟨sim.peek.2, dram⟩) := by
  simp only [maxTickBurst, Method.bind_apply, Method.get_apply, Device.onSim_apply,
    Simulator.nextTime, Simulator.peek_fst]
  rfl

def burst (dram : Dram engine) (sim : Simulator κ) : Nat :=
  (dram.mem.impl.progressLoop (burstBound dram.clk.periodPs sim.now
    (sim.liveEvents.head?.map Event.time) sim.runUntil).toNat).1

structure Burst (dram : Dram engine) (sim : Simulator κ) (count : Nat) : Prop where
  positive : 1 ≤ count
  quiet : ∀ earlier, 1 ≤ earlier → earlier < count →
    (PyMemorySystem.tick^[earlier] dram.mem.impl).progressed = false
  /-- A burst of more than one cycle ends before the next event. -/
  before : ∀ event ∈ sim.liveEvents.head?, count = 1 ∨ sim.now < event.time ∧
    sim.now + (count - 1) * dram.clk.periodPs < event.time
  within : ∀ horizon ∈ sim.runUntil, count = 1 ∨
    sim.now + (count - 1) * dram.clk.periodPs ≤ horizon

theorem burst_spec : Burst dram sim (dram.burst sim) := by
  obtain ⟨one, -, before, within⟩ := burstBound_spec sim.now
    (sim.liveEvents.head?.map Event.time) sim.runUntil dram.clk.positive
  obtain ⟨count, positive, bound, loop, quiet, -⟩ :=
    dram.mem.impl.progressLoop_spec (show 1 ≤ (burstBound dram.clk.periodPs sim.now
      (sim.liveEvents.head?.map Event.time) sim.runUntil).toNat by omega)
  have same : dram.burst sim = count := by rw [burst, loop]
  rw [same]
  have span := Int.mul_le_mul_of_nonneg_right (show (count : Int) - 1 ≤
    burstBound dram.clk.periodPs sim.now (sim.liveEvents.head?.map Event.time)
      sim.runUntil - 1 by omega) dram.clk.positive.le
  refine ⟨positive, quiet, fun event next => ?_, fun horizon until_ => ?_⟩
  · rcases before event.time (Option.mem_def.mp next ▸ rfl) with single | ⟨later, end_⟩
    · exact .inl (by omega)
    · exact .inr ⟨later, by omega⟩
  · rcases within horizon until_ with single | end_
    · exact .inl (by omega)
    · exact .inr (by omega)

section

variable [DecidableEq γ]

/-- A tick runs the engine, jumps to the time of the last cycle and goes on from
there. -/
theorem tick_eq (wellFormed : sim.WellFormed) :
    ∃ after, sim.Jumped after
        (sim.now + ((dram.burst sim : Int) - 1) * dram.clk.periodPs) ∧
      tick closure (⟨sim, dram⟩ : Device κ engine) =
        afterTick closure ⟨after, dram.ran (dram.burst sim)⟩ := by
  obtain ⟨one, small, -, -⟩ := burstBound_spec sim.now
    (sim.liveEvents.head?.map Event.time) sim.runUntil dram.clk.positive
  have spec := burst_spec sim dram
  have ticked : Device.onMem (.tickUntilProgress (burstBound dram.clk.periodPs sim.now
      (sim.liveEvents.head?.map Event.time) sim.runUntil))
        (⟨sim.peek.2, dram⟩ : Device κ engine) =
      (.ok (.count (dram.burst sim)), ⟨sim.peek.2, dram.ran (dram.burst sim)⟩) :=
    onMem_tickUntilProgress sim.peek.2 dram one small
  have fits : sim.now ≤ sim.now + ((dram.burst sim : Int) - 1) * dram.clk.periodPs := by
    have := Int.mul_nonneg (show 0 ≤ (dram.burst sim : Int) - 1 by
      have := spec.positive; omega) dram.clk.positive.le
    omega
  simp only [tick, Method.bind_apply, maxTickBurst_eq, ticked, Method.get_apply]
  by_cases single : dram.burst sim = 1
  · refine ⟨sim.peek.2, ?_, ?_⟩
    · have jumped := wellFormed.peek_jumped
      simpa [single] using jumped
    · simp [single]
  · have more : (1 : Int) < dram.burst sim := by have := spec.positive; omega
    obtain ⟨accepted, jumped⟩ := wellFormed.peek.advanceTo_jumped fits
      (fun event next => by
        rw [Simulator.peek_liveEvents] at next
        rcases spec.before event next with one | ⟨-, before⟩
        · exact absurd one single
        · exact before.le)
      (fun horizon until_ => by
        rcases spec.within horizon until_ with one | within
        · exact absurd one single
        · exact within)
    refine ⟨(sim.peek.2.advanceTo (sim.now +
      ((dram.burst sim : Int) - 1) * dram.clk.periodPs)).2, ?_, ?_⟩
    · exact
        { wellFormed := jumped.wellFormed
          liveEvents := jumped.liveEvents.trans (Simulator.peek_liveEvents sim)
          seq := jumped.seq
          processed := jumped.processed
          runUntil := jumped.runUntil
          now := jumped.now }
    · rw [if_pos more, Method.bind_apply, Device.onSim_apply]
      simp only [ran_toComponent, Simulator.peek_now]
      rw [accepted]

theorem tickOnce_eq :
    tickOnce closure (⟨sim, dram⟩ : Device κ engine) =
      afterTick closure ⟨sim, dram.ran 1⟩ := by
  simp only [tickOnce, Method.bind_apply, onMem_tick]

def idleOn (eventId : Nat) (dram : Dram engine) : Dram engine :=
  { dram with batch := dram.batch.grow, idleEventId := some eventId }

def idleOff (dram : Dram engine) : Dram engine :=
  { dram with idleTicking := false, batch := dram.batch.reset }

theorem idleTick_refused (large : ¬ FitsInt dram.batch.current) :
    idleTick closure (⟨sim, dram⟩ : Device κ engine) =
      (.error .typeError, ⟨sim, dram⟩) := by
  simp only [idleTick, Method.bind_apply, Method.get_apply,
    onMem_run_refused sim dram large]

theorem idleTick_pending (fits : FitsInt dram.batch.current)
    (pending : (dram.ran dram.batch.current.toNat).pending ≠ 0) :
    idleTick closure (⟨sim, dram⟩ : Device κ engine) =
      startTicking closure ⟨sim, (dram.ran dram.batch.current.toNat).idleOff⟩ := by
  have nonneg : 0 ≤ dram.batch.current := by have := dram.batch.current_pos; omega
  simp only [idleTick, Method.bind_apply, Method.get_apply,
    onMem_run sim dram nonneg fits, if_pos pending, Device.assign_apply]
  rfl

theorem idleTick_idle (fits : FitsInt dram.batch.current)
    (idle : (dram.ran dram.batch.current.toNat).pending = 0) :
    idleTick closure (⟨sim, dram⟩ : Device κ engine) =
      (.ok (), ⟨dram.pushCycles sim dram.batch.grow.current (closure .idleTick) 0,
        (dram.ran dram.batch.current.toNat).idleOn sim.seq⟩) := by
  have nonneg : 0 ≤ dram.batch.current := by have := dram.batch.current_pos; omega
  have later : 0 ≤ dram.batch.grow.current := by
    have := dram.batch.grow.current_pos; omega
  simp only [idleTick, Method.bind_apply, Method.get_apply,
    onMem_run sim dram nonneg fits, if_neg (not_not.mpr idle), Device.assign_apply,
    ran_batch, scheduleCycles_eq closure _ _ later]
  rfl

end

end

end Dram

end Pyramulator
