import Pyramulator.Memory.Cycles
import Pyramulator.Memory.SessionRule

namespace Pyramulator

namespace MemoryFrame

variable {γ : Type} {engine : Engine (CppCallback (ReadWrap γ))}

/-- `tick`, in the middle of its dispatch. -/
def isTick : MemoryFrame engine → Bool
  | .dispatch _ _ _ _ .tick => true
  | _ => false

/-- The cycle that a `tick` in progress will count, unless it raises. -/
def owes : MemoryFrame engine → Int
  | .dispatch _ _ _ firstExc ending => if firstExc = none then ending.owes else 0
  | _ => 0

theorem owes_nonneg (frame : MemoryFrame engine) : 0 ≤ frame.owes := by
  rcases frame with ⟨call, sent, rest, firstExc, _ | value⟩ | _ | _
  · simp only [owes, Ending.owes]
    split <;> decide
  · simp [owes, Ending.owes]
  · exact le_refl _
  · exact le_refl _

theorem owes_of_not_tick {frame : MemoryFrame engine}
    (other : frame.isTick = false) : frame.owes = 0 := by
  rcases frame with ⟨call, sent, rest, firstExc, _ | value⟩ | _ | _
  · cases other
  · simp [owes, Ending.owes]
  · rfl
  · rfl

end MemoryFrame

namespace Session

variable {γ : Type} {engine : Engine (CppCallback (ReadWrap γ))}

/-- The cycles by which the counter is behind, not counting those that the `tick`
calls in progress will still add. -/
def drift (session : Session engine) : Int :=
  session.mem.impl.ticks - session.mem.clk -
    (session.stack.map MemoryFrame.owes).sum

def slip (session : Session engine) (decision : MemoryDecision γ) : Int :=
  match session.stack, decision with
  | [], .call op => op.backward
  | .user _ _ :: _, .call op => op.backward
  | .user _ _ :: frame :: _, .raise _ => frame.owes
  | _, _ => 0

theorem slip_nonneg (session : Session engine) (decision : MemoryDecision γ) :
    0 ≤ session.slip decision := by
  unfold slip
  split
  · exact MemoryOp.backward_nonneg _
  · exact MemoryOp.backward_nonneg _
  · exact MemoryFrame.owes_nonneg _
  · exact le_refl _

theorem call_drift [DecidableEq γ] (session : Session engine) (op : MemoryOp γ) :
    (session.call op).drift = session.drift + op.backward := by
  have counted := (op.counts session.mem).drift
  unfold call
  generalize op.begin session.mem = result at counted
  rcases result with ⟨begun, mem⟩
  simp only at counted
  cases begun with
  | raised error =>
      simp only [Begun.owes] at counted
      simp only [drift, finish]
      omega
  | returned value =>
      simp only [Begun.owes] at counted
      simp only [drift, finish]
      omega
  | dispatch events ending =>
      simp only [Begun.owes] at counted
      simp only [drift, List.map_cons, List.sum_cons, MemoryFrame.owes, if_true]
      omega
  | writes addrs coreId callback value =>
      simp only [Begun.owes] at counted
      simp only [drift, List.map_cons, List.sum_cons, MemoryFrame.owes]
      omega

theorem throw_drift (session : Session engine) (error : PyError)
    (frame : MemoryFrame engine) (below : List (MemoryFrame engine)) :
    (session.throw error (frame :: below)).drift =
      session.mem.impl.ticks - session.mem.clk -
        (below.map MemoryFrame.owes).sum := by
  rcases frame with ⟨call, sent, rest, _ | first, ending⟩ | _ | _ <;>
    simp [throw, drift, finish, MemoryFrame.owes]

theorem advance_drift [DecidableEq γ] (session : Session engine)
    (decision : MemoryDecision γ) :
    (session.advance decision).drift = session.drift + session.slip decision := by
  unfold advance
  split
  · rename_i shape
    simp [drift, invoke, slip, shape, MemoryFrame.owes]
  · rename_i ending below shape
    cases ending with
    | tick =>
        simp only [drift, conclude, finish, slip, shape, List.map_cons,
          List.sum_cons, MemoryFrame.owes, Ending.owes, if_true]
        omega
    | value value =>
        simp [drift, conclude, finish, slip, shape, MemoryFrame.owes, Ending.owes]
  · rename_i shape
    simp [drift, finish, slip, shape, MemoryFrame.owes]
  · rename_i shape
    simp [drift, invoke, slip, shape, MemoryFrame.owes]
  · rename_i shape
    simp [drift, finish, slip, shape, MemoryFrame.owes]
  · rename_i below shape
    cases decision with
    | call op => simp only [call_drift, slip, shape]
    | return_ => simp [drift, slip, shape, MemoryFrame.owes]
    | raise error =>
        cases below with
        | nil => simp [throw, drift, slip, shape, MemoryFrame.owes]
        | cons frame below =>
            simp only [slip, shape]
            rw [throw_drift, drift, shape]
            simp only [List.map_cons, List.sum_cons, MemoryFrame.owes]
            omega
  · rename_i shape
    cases decision with
    | call op => simp only [call_drift, slip, shape]
    | return_ => simp [drift, slip, shape]
    | raise error => simp [drift, slip, shape]

/-- No `tick` is in the middle of its dispatch. -/
def Settled (session : Session engine) : Prop :=
  ∀ frame ∈ session.stack, frame.isTick = false

/-- The counter tells the ticks of the engine, and so does every call that
advanced it. -/
def Faithful (session : Session engine) : Prop :=
  session.mem.clk = session.mem.impl.ticks ∧
    ∀ call sent value, (call, sent, .ok value) ∈ session.ended →
      call.op.advances = true → value = .count call.ticks

/-- No callback that `tick` dispatches raises, and `run` gets no negative
count. -/
def Careful (session : Session engine) (decision : MemoryDecision γ) : Prop :=
  match session.stack, decision with
  | [], .call (.run cycles) => ¬ (FitsInt cycles ∧ cycles < 0)
  | .user _ _ :: _, .call (.run cycles) => ¬ (FitsInt cycles ∧ cycles < 0)
  | .user _ _ :: .dispatch _ _ _ none .tick :: _, .raise _ => False
  | _, _ => True

theorem backward_eq_zero (op : MemoryOp γ) :
    op.backward = 0 ↔ ∀ cycles, op = .run cycles →
      ¬ (FitsInt cycles ∧ cycles < 0) := by
  cases op with
  | run cycles =>
      simp only [MemoryOp.backward, MemoryOp.run.injEq, forall_eq']
      by_cases both : FitsInt cycles ∧ cycles < 0
      · have negative := both.2
        rw [if_pos both]
        exact ⟨fun zero => absurd zero (by omega), fun not => absurd both not⟩
      · simp [both]
  | _ => simp [MemoryOp.backward]

theorem careful_iff (session : Session engine) (decision : MemoryDecision γ) :
    session.Careful decision ↔ session.slip decision = 0 := by
  unfold Careful slip
  rcases decision with op | _ | error
  · rcases session.stack with _ | ⟨_ | _ | _, rest⟩
    · simp only [backward_eq_zero]
      cases op <;> simp
    · simp
    · simp
    · simp only [backward_eq_zero]
      cases op <;> simp
  · rcases session.stack with _ | ⟨_ | _ | _, rest⟩ <;> simp
  · rcases session.stack with _ |
      ⟨_ | _ | _, _ | ⟨⟨call, sent, more, _ | first, _ | value⟩ | _ | _, rest⟩⟩ <;>
      simp [MemoryFrame.owes, Ending.owes]

theorem settled_drift {session : Session engine} (settled : session.Settled) :
    session.drift = session.mem.impl.ticks - session.mem.clk := by
  have nothingOwed : (session.stack.map MemoryFrame.owes).sum = 0 := by
    have each := settled
    unfold Settled at each
    generalize session.stack = stack at each
    induction stack with
    | nil => rfl
    | cons frame rest induction =>
        obtain ⟨head, below⟩ := List.forall_mem_cons.mp each
        rw [List.map_cons, List.sum_cons, MemoryFrame.owes_of_not_tick head,
          induction below]
        rfl
  rw [drift, nothingOwed, Int.sub_zero]

def Reports (call : MemoryCall engine) (value : MemoryValue) : Prop :=
  call.op.advances = true → value = .count call.ticks

def ReportsFrame (_ : Past γ) : MemoryFrame engine → Prop
  | .dispatch call _ _ _ ending => Reports call ending.result
  | .writes call _ _ _ value => Reports call value
  | .user _ _ => True

def ReportsEntry (_ : Past γ) (entry : Ended engine) : Prop :=
  ∀ value, entry.2.2 = .ok value → Reports entry.1 value

variable [DecidableEq γ]

theorem reports_rule :
    Rule ReportsFrame (ReportsEntry : Past γ → Ended engine → Prop) Careful where
  laterFrame _ _ kept := kept
  laterEntry _ _ kept := kept
  call session op control careful := by
    have forward : op.backward = 0 := by
      have noSlip := (careful_iff session _).mp careful
      unfold asked at control
      unfold slip at noSlip
      split at control <;> simp_all
    have reports := (op.counts session.mem).reports
    unfold Begins newCall
    generalize op.begin session.mem = result at reports
    rcases result with ⟨begun, mem⟩
    cases begun with
    | raised error => exact fun value impossible => by cases impossible
    | returned value => exact fun _ _ advances => (reports advances forward).elim
    | dispatch events ending => exact fun advances => reports advances forward
    | writes addrs coreId callback value =>
        exact fun advances => (reports advances forward).elim
  user _ _ _ := trivial
  send kept := kept
  catch_ _ kept := kept
  done kept := ⟨fun value same => by cases same; exact kept,
    fun error value impossible => by cases impossible⟩
  write kept := kept
  wrote kept := ⟨fun value same => by cases same; exact kept,
    fun error value impossible => by cases impossible⟩

theorem run_drift_le (session : Session engine)
    (decisions : List (MemoryDecision γ)) :
    session.drift ≤ (Transition.run advance session decisions).drift := by
  induction decisions generalizing session with
  | nil => exact le_refl _
  | cons decision rest induction =>
      have moved := session.advance_drift decision
      have slip := session.slip_nonneg decision
      have later := induction (session.advance decision)
      rw [Transition.run_cons]
      omega

theorem run_drift_eq {session : Session engine} {decisions : List (MemoryDecision γ)}
    (careful : Transition.Follows advance Careful session decisions) :
    (Transition.run advance session decisions).drift = session.drift := by
  induction decisions generalizing session with
  | nil => rfl
  | cons decision rest induction =>
      rw [Transition.run_cons, induction careful.2, advance_drift,
        (careful_iff session decision).mp careful.1, Int.add_zero]

/-- Along a run the counter is faithful, whenever no `tick` is in progress, if
all decisions are careful; and in a run that ends so it is only then. -/
theorem clk_faithful (cacheline numCores : Int)
    (decisions : List (MemoryDecision γ)) :
    let start := Session.create (MemorySystem.create engine cacheline numCores)
    let faithful := ∀ initial, initial <+: decisions →
      (Transition.run advance start initial).Settled →
        (Transition.run advance start initial).Faithful
    (Transition.Follows advance Careful start decisions → faithful) ∧
      ((Transition.run advance start decisions).Settled → faithful →
        Transition.Follows advance Careful start decisions) := by
  intro start faithful
  have zero : start.drift = 0 := by
    simp [start, create, drift, MemorySystem.create]
  constructor
  · intro careful initial begun settled
    have still := run_drift_eq (careful.begun begun)
    rw [settled_drift settled, zero] at still
    have kept := reports_rule.run _ (careful.begun begun)
    exact ⟨by omega, fun call sent value member advances =>
      kept.entries _ member value rfl advances⟩
  · intro settled all
    refine Transition.follows_iff.mpr fun first decision rest split => ?_
    have final := (all decisions (List.prefix_refl _) settled).1
    have before := run_drift_le start first
    have moved := (Transition.run advance start first).advance_drift decision
    have slip := (Transition.run advance start first).slip_nonneg decision
    have later := run_drift_le
      ((Transition.run advance start first).advance decision) rest
    have noDrift := settled_drift settled
    rw [split, Transition.run_append, Transition.run_cons] at final noDrift
    refine (careful_iff _ decision).mpr ?_
    omega

def raisingTick : List (MemoryDecision Nat) :=
  [.call (.send 0 .read 0 (some 7)), .call .tick, .return_, .raise (.user 0),
    .return_]

/-- A cycle in which a callback raises is not counted. -/
theorem raisingTick_drifts :
    let session := Transition.run advance
      (create (MemorySystem.create
        (Engine.fixedLatency (CppCallback (ReadWrap Nat)) 1 4) 64 1)) raisingTick
    session.stack = [] ∧ session.mem.impl.ticks = 1 ∧ session.mem.clk = 0 ∧
      ¬ session.Faithful := by
  refine ⟨rfl, by decide, by decide, fun faithful => ?_⟩
  exact absurd faithful.1 (by decide)

end Session

end Pyramulator
