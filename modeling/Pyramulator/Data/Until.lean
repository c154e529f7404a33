import Mathlib.Tactic.TypeStar

namespace Pyramulator

/-! A step that is repeated until a condition holds. -/

variable {State : Type*} {step : State → State}

/-- The step is repeated from the first state on, and the second is the first of them in
which the condition holds. -/
inductive Until (step : State → State) (stops : State → Prop) : State → State → Prop
  | stop {state : State} (here : stops state) : Until step stops state state
  | next {state final : State} (goes_on : ¬ stops state)
      (rest : Until step stops (step state) final) : Until step stops state final

namespace Until

variable {early late holds : State → Prop} {state final other : State}

theorem stops (until_ : Until step holds state final) : holds final := by
  induction until_ with
  | stop here => exact here
  | next _ _ induction => exact induction

theorem eq_of_stops (here : holds state) (until_ : Until step holds state final) :
    final = state := by
  cases until_ with
  | stop => rfl
  | next goes_on => exact absurd here goes_on

/-- On the way to a condition one comes by every weaker one, and goes on from there. -/
theorem through (weaker : ∀ state, late state → early state) :
    Until step late state final ↔
      ∃ middle, Until step early state middle ∧ Until step late middle final := by
  constructor
  · intro until_
    induction until_ with
    | @stop state here => exact ⟨state, .stop (weaker state here), .stop here⟩
    | @next state final goes_on rest induction =>
        by_cases soon : early state
        · exact ⟨state, .stop soon, .next goes_on rest⟩
        · obtain ⟨middle, before, after⟩ := induction
          exact ⟨middle, .next soon before, after⟩
  · rintro ⟨middle, before, after⟩
    induction before with
    | stop => exact after
    | next goes_on _ induction =>
        exact .next (fun here => goes_on (weaker _ here)) (induction after)

theorem stays (weaker : ∀ state, late state → early state) :
    Until step late state final ↔
      ∃ middle, Until step late state middle ∧ Until step early middle final := by
  constructor
  · intro until_
    exact ⟨final, until_, .stop (weaker final until_.stops)⟩
  · rintro ⟨middle, before, after⟩
    rwa [eq_of_stops (weaker middle before.stops) after]

end Until

end Pyramulator
