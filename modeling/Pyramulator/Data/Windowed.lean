import Pyramulator.Data.Backpressure

namespace Pyramulator.Clockwork

/-! A driver that keeps a window of requests open: it offers one after the other until
one is rejected or the window is full, and then lets one event happen. -/

variable {R A : Type*}

def Driver.happens {machine : Clockwork R A} (driver : machine.Driver) : Bool :=
  !driver.queue.isEmpty || driver.ticking

theorem Driver.happens_iff {machine : Clockwork R A} {driver : machine.Driver} :
    driver.happens = true ↔ driver.queue ≠ [] ∨ driver.ticking = true := by
  simp [happens]

structure Window (machine : Clockwork R A) where
  driver : machine.Driver
  issued : Int
  events : Nat
  stuck : Bool

namespace Window

variable {machine : Clockwork R A}

def init : machine.Window where
  driver := .init []
  issued := 0
  events := 0
  stuck := false

section

variable (request : Int → R) (total depth : Int)

def fillLoop : Nat → machine.Window → machine.Window
  | 0, window => window
  | left + 1, window =>
      if window.issued - window.driver.answered.length < depth then
        if machine.valid (request window.issued) then
          match machine.offer window.driver.state (request window.issued) with
          | (true, state) => fillLoop left { window with
              driver := { window.driver with state, ticking := true }
              issued := window.issued + 1 }
          | (false, state) => { window with driver := { window.driver with state } }
        else { window with stuck := true }
      else window

def fill (window : machine.Window) : machine.Window :=
  window.fillLoop request depth (total - window.issued).toNat

def turn (cap : Nat) (window : machine.Window) : machine.Window :=
  let filled := window.fill request total depth
  if filled.stuck then filled
  else { filled with
    driver := filled.driver.event cap
    events := filled.events + if filled.driver.happens then 1 else 0 }

def schedule (machine : Clockwork R A) (cap turns : Nat) : machine.Window :=
  (turn request total depth cap)^[turns] init

def Done (limit : Int) (window : machine.Window) : Prop :=
  total ≤ window.driver.answered.length ∨ limit ≤ window.events

instance (limit : Int) (window : machine.Window) : Decidable (window.Done total limit) :=
  inferInstanceAs (Decidable (_ ∨ _))

structure Ends (machine : Clockwork R A) (cap : Nat) (limit : Int) (turns : Nat) :
    Prop where
  done : (schedule request total depth machine cap turns).Done total limit
  first : ∀ earlier < turns,
    ¬ (schedule request total depth machine cap earlier).Done total limit

def Room (window : machine.Window) : Prop :=
  window.issued - window.driver.answered.length < depth ∧ window.issued < total

end

variable {request : Int → R} {total depth : Int} {window : machine.Window}

theorem Ends.unique {cap turns others : Nat} {limit : Int}
    (one : Ends request total depth machine cap limit turns)
    (other : Ends request total depth machine cap limit others) : turns = others := by
  rcases lt_trichotomy turns others with less | same | more
  · exact absurd one.done (other.first turns less)
  · exact same
  · exact absurd other.done (one.first others more)

theorem schedule_succ (cap turns : Nat) :
    schedule request total depth machine cap (turns + 1) =
      (schedule request total depth machine cap turns).turn request total depth cap :=
  Function.iterate_succ_apply' _ _ _

theorem fill_full (full : ¬ window.Room total depth) :
    window.fill request total depth = window := by
  unfold fill
  cases left : (total - window.issued).toNat with
  | zero => rfl
  | succ left =>
      refine if_neg fun room => full ⟨room, ?_⟩
      omega

theorem fill_room (room : window.Room total depth) :
    window.fill request total depth =
      if machine.valid (request window.issued) then
        match machine.offer window.driver.state (request window.issued) with
        | (true, state) => ({ window with
            driver := { window.driver with state, ticking := true }
            issued := window.issued + 1 } : machine.Window).fill request total depth
        | (false, state) => { window with driver := { window.driver with state } }
      else { window with stuck := true } := by
  have left :
      (total - window.issued).toNat = (total - (window.issued + 1)).toNat + 1 := by
    have more := room.2
    omega
  rw [fill, left, fillLoop, if_pos room.1]
  rfl

theorem fill_accepted (room : window.Room total depth)
    (valid : machine.valid (request window.issued) = true) {state : machine.State}
    (accepted : machine.offer window.driver.state (request window.issued) =
      (true, state)) :
    window.fill request total depth = ({ window with
      driver := { window.driver with state, ticking := true }
      issued := window.issued + 1 } : machine.Window).fill request total depth := by
  rw [fill_room room, if_pos valid, accepted]

theorem fill_rejected (room : window.Room total depth)
    (valid : machine.valid (request window.issued) = true) {state : machine.State}
    (rejected : machine.offer window.driver.state (request window.issued) =
      (false, state)) :
    window.fill request total depth =
      { window with driver := { window.driver with state } } := by
  rw [fill_room room, if_pos valid, rejected]

theorem fill_stuck (room : window.Room total depth)
    (invalid : machine.valid (request window.issued) = false) :
    window.fill request total depth = { window with stuck := true } := by
  rw [fill_room room, invalid]
  rfl

theorem turn_free {filled : machine.Window} (cap : Nat)
    (filling : window.fill request total depth = filled) (free : filled.stuck = false) :
    window.turn request total depth cap =
      { filled with
        driver := filled.driver.event cap
        events := filled.events + if filled.driver.happens then 1 else 0 } := by
  unfold turn
  rw [filling]
  exact if_neg (Bool.eq_false_iff.mp free)

theorem turn_stuck (cap : Nat) (stuck : (window.fill request total depth).stuck = true) :
    (window.turn request total depth cap).stuck = true := by
  unfold turn
  rw [if_pos stuck]
  exact stuck

theorem fillLoop_stuck (left : Nat) (stuck : window.stuck = true) :
    (window.fillLoop request depth left).stuck = true := by
  induction left generalizing window with
  | zero => exact stuck
  | succ left induction =>
      unfold fillLoop
      split
      · split
        · split
          · exact induction stuck
          · exact stuck
        · rfl
      · exact stuck

theorem schedule_stuck {cap turns : Nat} (more : Nat)
    (stuck : (schedule request total depth machine cap turns).stuck = true) :
    (schedule request total depth machine cap (turns + more)).stuck = true := by
  induction more with
  | zero => exact stuck
  | succ more induction =>
      rw [← Nat.add_assoc, schedule_succ]
      exact turn_stuck cap (fillLoop_stuck _ induction)

theorem fillLoop_free
    (valid : ∀ index : Int, 0 ≤ index → index < total →
      machine.valid (request index) = true)
    (left : Nat) (start : 0 ≤ window.issued) (more : window.issued + left ≤ total) :
    (window.fillLoop request depth left).stuck = window.stuck ∧
      0 ≤ (window.fillLoop request depth left).issued := by
  induction left generalizing window with
  | zero => exact ⟨rfl, start⟩
  | succ left induction =>
      unfold fillLoop
      split
      · rw [if_pos (valid window.issued start (by omega))]
        split
        · refine induction ?_ ?_
          · change 0 ≤ window.issued + 1
            omega
          · change window.issued + 1 + left ≤ total
            omega
        · exact ⟨rfl, start⟩
      · exact ⟨rfl, start⟩

theorem schedule_free
    (valid : ∀ index : Int, 0 ≤ index → index < total →
      machine.valid (request index) = true)
    (cap turns : Nat) :
    (schedule request total depth machine cap turns).stuck = false := by
  have free : (schedule request total depth machine cap turns).stuck = false ∧
      0 ≤ (schedule request total depth machine cap turns).issued := by
    induction turns with
    | zero => exact ⟨rfl, le_refl 0⟩
    | succ turns induction =>
        obtain ⟨free, start⟩ := induction
        rw [schedule_succ]
        generalize schedule request total depth machine cap turns = window at free start
        have filled : (window.fill request total depth).stuck = false ∧
            0 ≤ (window.fill request total depth).issued := by
          unfold fill
          by_cases more : window.issued ≤ total
          · rw [← free]
            exact fillLoop_free valid _ start (by omega)
          · have nothing : (total - window.issued).toNat = 0 := by omega
            rw [nothing]
            exact ⟨free, start⟩
        rw [turn_free cap rfl filled.1]
        exact filled
  exact free.1

end Window

end Pyramulator.Clockwork
