import Mathlib.Logic.Function.Iterate

namespace Pyramulator.Transition

/-! Systems whose every step is chosen by a decision of the environment. The
step is a total function, so that a run is given by its list of decisions and
can be computed. -/

variable {State Decision : Type*}

def run (step : State → Decision → State) (start : State)
    (decisions : List Decision) : State :=
  decisions.foldl step start

@[simp] theorem run_nil (step : State → Decision → State) (start : State) :
    run step start [] = start := rfl

@[simp] theorem run_cons (step : State → Decision → State) (start : State)
    (decision : Decision) (rest : List Decision) :
    run step start (decision :: rest) = run step (step start decision) rest :=
  rfl

theorem run_append (step : State → Decision → State) (start : State)
    (first second : List Decision) :
    run step start (first ++ second) = run step (run step start first) second :=
  List.foldl_append

theorem run_invariant {step : State → Decision → State} (Inv : State → Prop)
    (preserved : ∀ state decision, Inv state → Inv (step state decision))
    {start : State} (initial : Inv start) (decisions : List Decision) :
    Inv (run step start decisions) := by
  induction decisions generalizing start with
  | nil => exact initial
  | cons decision rest induction =>
      exact induction (preserved start decision initial)

/-- The states a run can reach when each decision is taken only in a state that
allows it. -/
inductive Reach (step : State → Decision → State)
    (allowed : State → Decision → Prop) (start : State) : State → Prop
  | refl : Reach step allowed start start
  | next {state : State} (decision : Decision)
      (reached : Reach step allowed start state)
      (permitted : allowed state decision) :
      Reach step allowed start (step state decision)

namespace Reach

variable {step : State → Decision → State} {allowed : State → Decision → Prop}
  {start state : State}

theorem invariant (Inv : State → Prop) (initial : Inv start)
    (preserved : ∀ state decision, Inv state → allowed state decision →
      Inv (step state decision))
    (reached : Reach step allowed start state) : Inv state := by
  induction reached with
  | refl => exact initial
  | next decision _ permitted induction =>
      exact preserved _ decision induction permitted

theorem trans {final : State} (first : Reach step allowed start state)
    (second : Reach step allowed state final) : Reach step allowed start final := by
  induction second with
  | refl => exact first
  | next decision _ permitted induction => exact .next decision induction permitted

theorem exists_run (reached : Reach step allowed start state) :
    ∃ decisions, state = run step start decisions := by
  induction reached with
  | refl => exact ⟨[], rfl⟩
  | next decision _ _ induction =>
      obtain ⟨decisions, rfl⟩ := induction
      exact ⟨decisions ++ [decision], by rw [run_append]; rfl⟩

end Reach

def Follows (step : State → Decision → State)
    (allowed : State → Decision → Prop) : State → List Decision → Prop
  | _, [] => True
  | state, decision :: rest =>
      allowed state decision ∧ Follows step allowed (step state decision) rest

theorem Follows.reach {step : State → Decision → State}
    {allowed : State → Decision → Prop} {start : State}
    {decisions : List Decision} (follows : Follows step allowed start decisions) :
    Reach step allowed start (run step start decisions) := by
  suffices extend : ∀ state, Reach step allowed start state →
      Follows step allowed state decisions →
      Reach step allowed start (run step state decisions) from
    extend start .refl follows
  clear follows
  induction decisions with
  | nil => exact fun _ reached _ => reached
  | cons decision rest induction =>
      intro state reached follows
      exact induction _ (.next decision reached follows.1) follows.2

theorem follows_iff {step : State → Decision → State}
    {allowed : State → Decision → Prop} {start : State}
    {decisions : List Decision} :
    Follows step allowed start decisions ↔
      ∀ first decision rest, decisions = first ++ decision :: rest →
        allowed (run step start first) decision := by
  induction decisions generalizing start with
  | nil => simp [Follows]
  | cons head tail induction =>
      simp only [Follows, induction]
      constructor
      · rintro ⟨now, later⟩ first decision rest split
        cases first with
        | nil =>
            obtain ⟨rfl, rfl⟩ := List.cons.inj split
            exact now
        | cons other first =>
            obtain ⟨rfl, shorter⟩ := List.cons.inj split
            exact later first decision rest shorter
      · intro each
        refine ⟨each [] head tail rfl, fun first decision rest split => ?_⟩
        exact each (head :: first) decision rest (by rw [split]; rfl)

section

variable {step : State → Decision → State}
  {first second : State → Decision → Prop} {start : State}
  {initial decisions : List Decision}

theorem Follows.begun (follows : Follows step first start decisions)
    (begun : initial <+: decisions) : Follows step first start initial := by
  obtain ⟨more, rfl⟩ := begun
  refine follows_iff.mpr fun before decision rest split => ?_
  exact follows_iff.mp follows before decision (rest ++ more) (by simp [split])

theorem Follows.and (one : Follows step first start decisions)
    (other : Follows step second start decisions) :
    Follows step (fun state decision => first state decision ∧ second state decision)
      start decisions :=
  follows_iff.mpr fun before decision rest split =>
    ⟨follows_iff.mp one before decision rest split,
      follows_iff.mp other before decision rest split⟩

end

theorem follows_true (step : State → Decision → State) (start : State)
    (decisions : List Decision) : Follows step (fun _ _ => True) start decisions :=
  follows_iff.mpr fun _ _ _ _ => trivial

theorem reach_run (step : State → Decision → State) (start : State)
    (decisions : List Decision) :
    Reach step (fun _ _ => True) start (run step start decisions) :=
  (follows_true step start decisions).reach

/-- When each step that may be taken keeps a property exactly if it is allowed, the
states of a run all have it exactly if the run follows the rules. -/
theorem holds_iff_follows {step : State → Decision → State}
    {may allowed : State → Decision → Prop} (Inv Holds : State → Prop)
    (keeps : ∀ state decision, Inv state → may state decision → allowed state decision →
      Inv (step state decision))
    (exact_ : ∀ state decision, Inv state → Holds state → may state decision →
      (Holds (step state decision) ↔ allowed state decision))
    {start : State} (inv : Inv start) (holds : Holds start) {decisions : List Decision}
    (follows : Follows step may start decisions) :
    (∀ initial, initial <+: decisions → Holds (run step start initial)) ↔
      Follows step allowed start decisions := by
  induction decisions generalizing start with
  | nil =>
      refine ⟨fun _ => trivial, fun _ initial begun => ?_⟩
      rw [List.prefix_nil.mp begun]
      exact holds
  | cons decision rest induction =>
      obtain ⟨possible, follows⟩ := follows
      have now := exact_ start decision inv holds possible
      constructor
      · intro each
        have next := each [decision] (List.prefix_append [decision] rest)
        have permitted := now.mp next
        have after := keeps start decision inv possible permitted
        refine ⟨permitted, (induction after next follows).mp fun initial begun => ?_⟩
        exact each (decision :: initial) ((List.prefix_cons_inj decision).mpr begun)
      · rintro ⟨permitted, obeys⟩ initial begun
        cases initial with
        | nil => exact holds
        | cons first initial =>
            obtain ⟨rfl, later⟩ := List.cons_prefix_cons.mp begun
            have after := keeps start first inv possible permitted
            exact (induction after (now.mpr permitted) follows).mpr obeys initial later

/-! Two deterministic systems in step with one another: each step of the first
is matched by at least one step of the second. -/

section Stutter

variable {First Second : Type*} {first : First → First} {second : Second → Second}
  {Related : First → Second → Prop}

/-- Every step of the first system is matched by one or more steps of the
second. -/
def Covers (first : First → First) (second : Second → Second)
    (Related : First → Second → Prop) : Prop :=
  ∀ source target, Related source target →
    ∃ steps, 0 < steps ∧ Related (first source) (second^[steps] target)

/-- Each state of the first run has a counterpart in the second run, at least
as far on. -/
theorem Covers.forward (covers : Covers first second Related)
    {source : First} {target : Second} (related : Related source target)
    (steps : Nat) :
    ∃ matched, steps ≤ matched ∧
      Related (first^[steps] source) (second^[matched] target) := by
  induction steps with
  | zero => exact ⟨0, Nat.le_refl 0, related⟩
  | succ steps induction =>
      obtain ⟨matched, bound, relatedNow⟩ := induction
      obtain ⟨extra, positive, relatedNext⟩ := covers _ _ relatedNow
      refine ⟨extra + matched, by omega, ?_⟩
      rw [Function.iterate_succ_apply', Function.iterate_add_apply]
      exact relatedNext

/-- Every step of the first system is matched by steps of the second that are silent
until the last of them is taken. -/
def CoversSilently (first : First → First) (second : Second → Second)
    (Related : First → Second → Prop) (silent : Second → Prop) : Prop :=
  ∀ source target, Related source target →
    ∃ steps, 0 < steps ∧ Related (first source) (second^[steps] target) ∧
      ∀ earlier, 0 < earlier → earlier < steps → silent (second^[earlier] target)

variable {silent : Second → Prop}

theorem CoversSilently.covers (covers : CoversSilently first second Related silent) :
    Covers first second Related := by
  intro source target related
  obtain ⟨steps, positive, relatedNext, -⟩ := covers source target related
  exact ⟨steps, positive, relatedNext⟩

/-- Each state of the second run is overtaken by one that has a counterpart in the first
run. It has a counterpart itself if it is not silent. -/
theorem CoversSilently.backward (covers : CoversSilently first second Related silent)
    {source : First} {target : Second} (related : Related source target) (steps : Nat) :
    ∃ matched later, steps ≤ later ∧
      Related (first^[matched] source) (second^[later] target) ∧
        (¬ silent (second^[steps] target) → later = steps) := by
  induction steps using Nat.strongRecOn generalizing source target with
  | ind steps induction =>
      by_cases start : steps = 0
      · subst start
        exact ⟨0, 0, Nat.le_refl 0, related, fun _ => rfl⟩
      · obtain ⟨extra, positive, relatedNext, quiet⟩ := covers source target related
        by_cases within : steps < extra
        · refine ⟨1, extra, Nat.le_of_lt within, relatedNext, fun shows => ?_⟩
          exact absurd (quiet steps (Nat.pos_of_ne_zero start) within) shows
        · obtain ⟨left, rfl⟩ : ∃ left, steps = left + extra := ⟨steps - extra, by omega⟩
          obtain ⟨matched, later, bound, relatedLater, shows⟩ :=
            induction left (by omega) relatedNext
          refine ⟨matched + 1, later + extra, by omega, ?_, fun loud => ?_⟩
          · rw [Function.iterate_succ_apply, Function.iterate_add_apply]
            exact relatedLater
          · rw [Function.iterate_add_apply] at loud
            rw [shows loud]

end Stutter

end Pyramulator.Transition
