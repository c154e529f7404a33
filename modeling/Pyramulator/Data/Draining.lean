import Mathlib.Algebra.Order.Group.Multiset
import Mathlib.Data.Prod.Lex
import Mathlib.Order.WellFounded
import Pyramulator.Data.Backpressure

namespace Pyramulator.Clockwork

/-! Machines that come to rest: a driver of such a machine ends, and it gets one answer to
each of its requests. -/

variable {R A : Type} {machine : Clockwork R A} {asks : A → R}

/-- A machine that answers what it accepted, and that accepts what it is offered at rest.
The cycles that are left get fewer with each cycle that does not bring it to rest, and a
rejection does not make them more. -/
structure Service (machine : Clockwork R A) (asks : A → R) where
  Inv : machine.State → Prop
  cycles : machine.State → Nat
  held : machine.State → Multiset R
  inv_start : Inv machine.start
  inv_offer : ∀ {state request}, Inv state → machine.valid request = true →
    Inv (machine.offer state request).2
  inv_tick : ∀ {state}, Inv state → Inv (machine.tick state)
  start_idle : machine.busy machine.start = false
  held_start : held machine.start = 0
  accepts : ∀ {state request}, Inv state → machine.busy state = false →
    machine.valid request = true → (machine.offer state request).1 = true
  accepted : ∀ {state request}, Inv state → machine.valid request = true →
    (machine.offer state request).1 = true →
      held (machine.offer state request).2 = request ::ₘ held state
  rejected : ∀ {state request}, Inv state → machine.valid request = true →
    (machine.offer state request).1 = false →
      held (machine.offer state request).2 = held state ∧
        cycles (machine.offer state request).2 ≤ cycles state
  tick_cycles : ∀ {state}, Inv state → machine.busy (machine.tick state) = true →
    cycles (machine.tick state) < cycles state
  tick_held : ∀ {state}, Inv state →
    held state = ((machine.answers state).map asks : Multiset R) +
      held (machine.tick state)
  idle : ∀ {state}, Inv state → machine.busy state = false → held state = 0

namespace Service

variable (service : Service machine asks)

theorem burst_spec {cap : Nat} (nonzero : cap ≠ 0) {state : machine.State}
    (inv : service.Inv state) :
    service.Inv (machine.burst cap state).2 ∧
      (machine.busy (machine.burst cap state).2 = true →
        service.cycles (machine.burst cap state).2 < service.cycles state) ∧
      service.held state = ((machine.burst cap state).1.map asks : Multiset R) +
        service.held (machine.burst cap state).2 := by
  induction cap generalizing state with
  | zero => exact absurd rfl nonzero
  | succ cap induction =>
      have next := service.inv_tick inv
      have held := service.tick_held inv
      by_cases progress : machine.progresses state = true
      · rw [machine.burst_progress cap state progress]
        exact ⟨next, service.tick_cycles inv, held⟩
      · have quiet : machine.progresses state = false := by simpa using progress
        have fewer := service.tick_cycles inv (machine.quiet_busy state quiet)
        rw [machine.quiet_answers state quiet, List.map_nil, Multiset.coe_nil,
          zero_add] at held
        rw [machine.burst_quiet cap state quiet]
        by_cases last : cap = 0
        · subst last
          refine ⟨next, fun _ => fewer, ?_⟩
          rw [held, burst, List.map_nil, Multiset.coe_nil, zero_add]
        · obtain ⟨reached, closer, answered⟩ := induction last next
          exact ⟨reached, fun busy => (closer busy).trans fewer, held.trans answered⟩

structure Serves (requests : Multiset R) (driver : machine.Driver) : Prop where
  inv : service.Inv driver.state
  stopped : driver.ticking = false → machine.busy driver.state = false
  valid : ∀ request ∈ driver.left, machine.valid request = true
  served : ((driver.answered ++ driver.queue).map asks : Multiset R) +
    service.held driver.state + driver.left = requests

def rank (driver : machine.Driver) : ℕ ×ₗ ℕ ×ₗ ℕ :=
  toLex (driver.left.length,
    toLex (if driver.ticking then service.cycles driver.state + 1 else 0,
      driver.queue.length))

variable {service} {requests : Multiset R} {driver : machine.Driver} {cap : Nat}

theorem rank_event {after : machine.Driver}
    (left : after.left.length = driver.left.length)
    (closer : (if after.ticking then service.cycles after.state + 1 else 0) <
        (if driver.ticking then service.cycles driver.state + 1 else 0) ∨
      (if after.ticking then service.cycles after.state + 1 else 0) =
          (if driver.ticking then service.cycles driver.state + 1 else 0) ∧
        after.queue.length < driver.queue.length) :
    service.rank after < service.rank driver := by
  refine Prod.Lex.toLex_lt_toLex.mpr (.inr ⟨left, Prod.Lex.toLex_lt_toLex.mpr ?_⟩)
  exact closer

theorem Serves.event (serves : service.Serves requests driver) (nonzero : cap ≠ 0)
    (happens : driver.queue ≠ [] ∨ driver.ticking = true) :
    service.Serves requests (driver.event cap) ∧
      service.rank (driver.event cap) < service.rank driver := by
  rcases queue : driver.queue with _ | ⟨answer, rest⟩
  · have ticking : driver.ticking = true := happens.resolve_left fun more => more queue
    obtain ⟨inv, closer, held⟩ := service.burst_spec nonzero serves.inv
    have same : driver.event cap =
        { driver with
          state := (machine.burst cap driver.state).2
          ticking := machine.busy (machine.burst cap driver.state).2
          queue := (machine.burst cap driver.state).1 } := by
      simp [Driver.event, queue, ticking]
    rw [same]
    refine ⟨⟨inv, fun stopped => stopped, serves.valid, ?_⟩, rank_event rfl (.inl ?_)⟩
    · have served := serves.served
      rw [queue, List.append_nil, held] at served
      rw [← served]
      dsimp only
      rw [List.map_append, ← Multiset.coe_add]
      ac_rfl
    · simp only [ticking, if_true]
      split
      · exact Nat.succ_lt_succ (closer (by assumption))
      · exact Nat.succ_pos _
  · have same : driver.event cap =
        { driver with queue := rest, answered := driver.answered ++ [answer] } := by
      simp [Driver.event, queue]
    rw [same]
    refine ⟨⟨serves.inv, serves.stopped, serves.valid, ?_⟩,
      rank_event rfl (.inr ⟨rfl, ?_⟩)⟩
    · rw [← serves.served, queue]
      simp
    · rw [queue]
      exact Nat.lt_succ_self _

theorem Serves.step (serves : service.Serves requests driver) (nonzero : cap ≠ 0)
    (goes_on : ¬ driver.Finished) :
    service.Serves requests (driver.step cap) ∧
      service.rank (driver.step cap) < service.rank driver := by
  rcases left : driver.left with _ | ⟨request, rest⟩
  · rw [Driver.step_drain cap left]
    refine serves.event nonzero ?_
    by_contra otherwise
    push Not at otherwise
    exact goes_on ⟨left, otherwise.1, by simpa using otherwise.2⟩
  · have valid := serves.valid request (by rw [left]; exact List.mem_cons_self)
    rcases offered : machine.offer driver.state request with ⟨_ | _, state⟩
    · have refused : (machine.offer driver.state request).1 = false := by rw [offered]
      have reached : (machine.offer driver.state request).2 = state := by rw [offered]
      obtain ⟨held, fewer⟩ := service.rejected serves.inv valid refused
      have inv := service.inv_offer serves.inv valid
      rw [reached] at held fewer inv
      have ticking : driver.ticking = true := by
        by_contra stopped
        have idle := serves.stopped (by simpa using stopped)
        rw [service.accepts serves.inv idle valid] at refused
        cases refused
      have waits : service.Serves requests { driver with state } :=
        { inv
          stopped := fun stopped => by
            change driver.ticking = false at stopped
            rw [ticking] at stopped
            cases stopped
          valid := serves.valid
          served := by
            rw [← serves.served]
            simp only [held] }
      have same :
          driver.step cap = ({ driver with state } : machine.Driver).event cap := by
        simp only [Driver.step, left, valid, if_true, offered]
      rw [same]
      obtain ⟨serves, closer⟩ := waits.event nonzero (.inr ticking)
      refine ⟨serves, lt_of_lt_of_le closer ?_⟩
      refine Prod.Lex.toLex_le_toLex.mpr (.inr ⟨rfl, ?_⟩)
      simp only [ticking, if_true]
      rcases Nat.lt_or_eq_of_le fewer with less | equal
      · exact Prod.Lex.toLex_le_toLex.mpr (.inl (Nat.succ_lt_succ less))
      · exact Prod.Lex.toLex_le_toLex.mpr (.inr ⟨congrArg Nat.succ equal, le_refl _⟩)
    · have taken : (machine.offer driver.state request).1 = true := by rw [offered]
      have reached : (machine.offer driver.state request).2 = state := by rw [offered]
      have held := service.accepted serves.inv valid taken
      have inv := service.inv_offer serves.inv valid
      rw [reached] at held inv
      have same : driver.step cap =
          { driver with state, ticking := true, left := rest } := by
        simp only [Driver.step, left, valid, if_true, offered]
      rw [same]
      refine ⟨⟨inv, fun stopped => (by cases stopped), fun other member => ?_, ?_⟩, ?_⟩
      · exact serves.valid other (by rw [left]; exact List.mem_cons_of_mem _ member)
      · rw [← serves.served, left]
        simp only [held]
        rw [← Multiset.cons_coe, Multiset.add_cons, Multiset.add_cons, Multiset.cons_add]
      · refine Prod.Lex.toLex_lt_toLex.mpr (.inl ?_)
        rw [left]
        exact Nat.lt_succ_self _

theorem Serves.ends (serves : service.Serves requests driver) (nonzero : cap ≠ 0) :
    ∃ rounds, ((Driver.step cap)^[rounds] driver).Finished ∧
      service.Serves requests ((Driver.step cap)^[rounds] driver) := by
  generalize ranked : service.rank driver = rank
  induction rank using WellFoundedLT.induction generalizing driver with
  | ind rank induction =>
      by_cases finished : driver.Finished
      · exact ⟨0, finished, serves⟩
      · obtain ⟨next, closer⟩ := serves.step nonzero finished
        obtain ⟨rounds, reached⟩ := induction _ (ranked ▸ closer) next rfl
        exact ⟨rounds + 1, reached⟩

theorem returns (service : Service machine asks) (nonzero : cap ≠ 0) {requests : List R}
    (valid : ∀ request ∈ requests, machine.valid request = true) :
    ∃ answers, Driver.Returns machine cap requests answers ∧
      (answers.map asks).Perm requests := by
  have start : service.Serves (requests : Multiset R) (Driver.init requests) :=
    { inv := service.inv_start
      stopped := fun _ => service.start_idle
      valid
      served := by
        change ((([] : List A).map asks : List R) : Multiset R) +
          service.held machine.start + requests = requests
        rw [service.held_start, List.map_nil, Multiset.coe_nil, zero_add, zero_add] }
  obtain ⟨rounds, finished, serves⟩ := start.ends nonzero
  refine ⟨_, ⟨rounds, finished, rfl⟩, Multiset.coe_eq_coe.mp ?_⟩
  have served := serves.served
  rw [finished.1, finished.2.1, service.idle serves.inv (serves.stopped finished.2.2),
    List.append_nil, add_zero, Multiset.coe_nil, add_zero] at served
  exact served

end Service

end Pyramulator.Clockwork
