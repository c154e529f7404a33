import Pyramulator.Data.Method

namespace Pyramulator.Method

/-! What a method ends with: a postcondition for the value it returns, and one for
when it raises. -/

variable {ε σ α β : Type}

/-- From the state the method returns with `Q`, or it raises and leaves `E`. -/
def Ends (method : Method ε σ α) (state : σ) (Q : α → σ → Prop) (E : σ → Prop) : Prop :=
  match method state with
  | (.ok value, after) => Q value after
  | (.error _, after) => E after

variable {state : σ} {Q Q' : α → σ → Prop} {E E' : σ → Prop}

theorem Ends.mono {method : Method ε σ α} (ends : method.Ends state Q E)
    (returns : ∀ value after, Q value after → Q' value after)
    (raises : ∀ after, E after → E' after) : method.Ends state Q' E' := by
  unfold Ends at ends ⊢
  generalize method state = result at ends
  rcases result with ⟨error | value, after⟩
  · exact raises after ends
  · exact returns value after ends

theorem Ends.of_ok {method : Method ε σ α} (value : α) (after : σ)
    (returned : method state = (.ok value, after)) (holds : Q value after) :
    method.Ends state Q E := by
  simp only [Ends, returned]
  exact holds

theorem Ends.pure {value : α} (holds : Q value state) :
    (pure value : Method ε σ α).Ends state Q E := holds

theorem Ends.raise {error : ε} (holds : E state) :
    (raise error : Method ε σ α).Ends state Q E := holds

theorem Ends.get {next : σ → Method ε σ α} (later : (next state).Ends state Q E) :
    (get >>= next).Ends state Q E := later

theorem Ends.modify {change : σ → σ} {next : Unit → Method ε σ α}
    (later : (next ()).Ends (change state) Q E) :
    (modify change >>= next).Ends state Q E := later

theorem Ends.bind {method : Method ε σ β} {next : β → Method ε σ α} {R : β → σ → Prop}
    (first : method.Ends state R E)
    (later : ∀ value after, R value after → (next value).Ends after Q E) :
    (method >>= next).Ends state Q E := by
  unfold Ends at first ⊢
  rw [bind_apply]
  generalize method state = result at first
  rcases result with ⟨error | value, after⟩
  · exact first
  · exact later value after first

theorem Ends.ite {condition : Prop} [Decidable condition] {first second : Method ε σ α}
    (yes : condition → first.Ends state Q E) (no : ¬ condition → second.Ends state Q E) :
    (if condition then first else second).Ends state Q E := by
  split
  · exact yes ‹_›
  · exact no ‹_›

end Pyramulator.Method
