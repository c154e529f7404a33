import Mathlib.Order.Basic

namespace Pyramulator

/-! Method bodies: a method changes a state, and returns a value or raises. What
it changed before it raised stays. -/

/-- The body of a method on a state `σ`. -/
def Method (ε σ α : Type) := σ → Except ε α × σ

namespace Method

variable {ε σ τ α β δ : Type}

instance : Monad (Method ε σ) where
  pure value := fun state => (.ok value, state)
  bind method next := fun state =>
    match method state with
    | (.ok value, state) => next value state
    | (.error error, state) => (.error error, state)

def get : Method ε σ σ := fun state => (.ok state, state)

def modify (change : σ → σ) : Method ε σ Unit := fun state => (.ok (), change state)

def raise (error : ε) : Method ε σ α := fun state => (.error error, state)

section

variable (state : σ)

@[simp] theorem pure_apply (value : α) :
    (pure value : Method ε σ α) state = (.ok value, state) := rfl

theorem bind_apply (method : Method ε σ α) (next : α → Method ε σ β) :
    (method >>= next) state =
      match method state with
      | (.ok value, state) => next value state
      | (.error error, state) => (.error error, state) := rfl

@[simp] theorem get_apply : (get : Method ε σ σ) state = (.ok state, state) := rfl

@[simp] theorem modify_apply (change : σ → σ) :
    (modify change : Method ε σ Unit) state = (.ok (), change state) := rfl

@[simp] theorem raise_apply (error : ε) :
    (raise error : Method ε σ α) state = (.error error, state) := rfl

theorem bind_ok {method : Method ε σ α} {next : α → Method ε σ β} {value : α}
    {after : σ} (returned : method state = (.ok value, after)) :
    (method >>= next) state = next value after := by
  rw [bind_apply, returned]

end

def Moves (R : σ → σ → Prop) (method : Method ε σ α) : Prop :=
  ∀ state, R state (method state).2

section Moves

variable {R : σ → σ → Prop}

theorem Moves.pure (refl : ∀ state, R state state) (value : α) :
    Moves R (pure value : Method ε σ α) := fun state => refl state

theorem Moves.get (refl : ∀ state, R state state) :
    Moves R (get : Method ε σ σ) := fun state => refl state

theorem Moves.raise (refl : ∀ state, R state state) (error : ε) :
    Moves R (raise error : Method ε σ α) := fun state => refl state

theorem Moves.bind (trans : ∀ {first second third}, R first second →
    R second third → R first third) {method : Method ε σ α}
    {next : α → Method ε σ β} (moves : Moves R method)
    (later : ∀ value, Moves R (next value)) : Moves R (method >>= next) := by
  intro state
  have first := moves state
  rw [bind_apply]
  generalize method state = result at first
  rcases result with ⟨_ | value, after⟩
  · exact first
  · exact trans first (later value after)

end Moves

/-- The results of two methods agree: both return, and the values are related,
or both raise the same. -/
def Agree (V : α → β → Prop) : Except ε α → Except ε β → Prop
  | .ok value, .ok other => V value other
  | .error error, .error other => error = other
  | _, _ => False

theorem Agree.eq {first second : Except ε α} (agree : Agree Eq first second) :
    first = second := by
  cases first with
  | error error =>
      cases second with
      | error other => exact congrArg Except.error agree
      | ok other => exact agree.elim
  | ok value =>
      cases second with
      | error other => exact agree.elim
      | ok other => exact congrArg Except.ok agree

section Simulates

variable {World : Type} [Preorder World] {R : World → σ → τ → Prop}

/-- From related states the methods come to related states and agree. What relates
the states may grow. -/
def Simulates (R : World → σ → τ → Prop) (start : World) (V : World → α → β → Prop)
    (method : Method ε σ α) (other : Method ε τ β) : Prop :=
  ∀ world, start ≤ world → ∀ state target, R world state target →
    ∃ later, world ≤ later ∧ R later (method state).2 (other target).2 ∧
      Agree (V later) (method state).1 (other target).1

namespace Simulates

variable {start : World} {V : World → α → β → Prop}

theorem pure {value : α} {other : β}
    (related : ∀ world, start ≤ world → V world value other) :
    Simulates R start V (pure value : Method ε σ α) (pure other : Method ε τ β) :=
  fun world known _ _ states => ⟨world, le_refl world, states, related world known⟩

theorem raise (error : ε) :
    Simulates R start V (raise error : Method ε σ α) (raise error : Method ε τ β) :=
  fun world _ _ _ states => ⟨world, le_refl world, states, rfl⟩

theorem get : Simulates R start R (get : Method ε σ σ) (get : Method ε τ τ) :=
  fun world _ _ _ states => ⟨world, le_refl world, states, states⟩

theorem ite {first second : Method ε σ α} {third fourth : Method ε τ β} {p q : Prop}
    [Decidable p] [Decidable q] (same : p ↔ q) (one : Simulates R start V first third)
    (other : Simulates R start V second fourth) :
    Simulates R start V (if p then first else second) (if q then third else fourth) := by
  by_cases holds : p
  · rw [if_pos holds, if_pos (same.mp holds)]
    exact one
  · rw [if_neg holds, if_neg (mt same.mpr holds)]
    exact other

theorem bind {W : World → δ → δ → Prop} {method : Method ε σ α}
    {other : Method ε τ β} {next : α → Method ε σ δ} {following : β → Method ε τ δ}
    (simulates : Simulates R start V method other)
    (later : ∀ world, start ≤ world → ∀ value result, V world value result →
      Simulates R world W (next value) (following result)) :
    Simulates R start W (method >>= next) (other >>= following) := by
  intro world known state target states
  obtain ⟨between, grows, moved, agree⟩ := simulates world known state target states
  rw [bind_apply, bind_apply]
  generalize method state = result at moved agree
  generalize other target = answer at moved agree
  rcases result with ⟨_ | value, after⟩ <;> rcases answer with ⟨_ | result, matched⟩
  · exact ⟨between, grows, moved, agree⟩
  · exact agree.elim
  · exact agree.elim
  · obtain ⟨last, more, ended, same⟩ :=
      later between (known.trans grows) value result agree
      between (le_refl between) after matched moved
    exact ⟨last, grows.trans more, ended, same⟩

end Simulates

end Simulates

end Method

end Pyramulator
