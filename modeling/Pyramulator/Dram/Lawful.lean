import Pyramulator.Dram.Effects

namespace Pyramulator

/-! The components keep to the calls of the kernel. -/

namespace Device

variable {κ γ : Type} {engine : Engine (DramCallback γ)}

def CallsTo (device after : Device κ engine) : Prop :=
  Simulator.Calls device.sim after.sim

theorem CallsTo.refl (device : Device κ engine) : CallsTo device device :=
  Relation.ReflTransGen.refl

theorem CallsTo.trans {first second third : Device κ engine}
    (one : CallsTo first second) (other : CallsTo second third) :
    CallsTo first third := Relation.ReflTransGen.trans one other

abbrev Lawful {α : Type} (method : Call κ engine α) : Prop := method.Moves CallsTo

namespace Lawful

variable {α β : Type}

theorem pure (value : α) : Lawful (pure value : Call κ engine α) :=
  Method.Moves.pure CallsTo.refl value

theorem get : Lawful (.get : Call κ engine (Device κ engine)) :=
  Method.Moves.get CallsTo.refl

theorem raise (error : PyError) : Lawful (.raise error : Call κ engine α) :=
  Method.Moves.raise CallsTo.refl error

theorem bind {method : Call κ engine α} {next : α → Call κ engine β}
    (moves : Lawful method) (later : ∀ value, Lawful (next value)) :
    Lawful (method >>= next) :=
  Method.Moves.bind (fun {_ _ _} one other => one.trans other) moves later

theorem ite {condition : Prop} [Decidable condition] {first second : Call κ engine α}
    (one : Lawful first) (other : Lawful second) :
    Lawful (if condition then first else second) := by
  split
  · exact one
  · exact other

theorem assign (change : Dram engine → Dram engine) :
    Lawful (Device.assign change : Call κ engine Unit) := fun _ => CallsTo.refl _

theorem onSim {call : Simulator κ → Except PyError α × Simulator κ}
    (calls : ∀ sim, Simulator.Calls sim (call sim).2) :
    Lawful (Device.onSim call : Call κ engine α) := fun device => calls device.sim

theorem onMem [DecidableEq γ] (op : MemoryOp (Collector γ)) :
    Lawful (Device.onMem op : Call κ engine MemoryValue) := by
  intro device
  unfold Device.onMem
  simp only
  split <;> exact CallsTo.refl _

end Lawful

end Device

namespace Dram

open Device

variable {κ γ : Type} {engine : Engine (DramCallback γ)} (closure : DramEvent γ → κ)

theorem scheduleCycles_lawful (count : Int) (event : DramEvent γ) :
    Lawful (scheduleCycles closure count event : Call κ engine Nat) :=
  .bind .get fun device => .onSim fun sim =>
    device.dram.toComponent.scheduleCycles_calls sim count (closure event) 0

theorem deliverEach_lawful (completed : List (RequestInfo × Option γ)) :
    Lawful (deliverEach closure completed : Call κ engine Unit) := by
  induction completed with
  | nil => exact .pure ()
  | cons completion rest induction =>
      obtain ⟨info, _ | callback⟩ := completion
      · exact .bind .get fun device => .bind (.assign _) fun _ => induction
      · exact .bind .get fun device => .bind (.assign _) fun _ =>
          .bind (.onSim fun sim => sim.schedule_calls _ _ _ _) fun _ => induction

theorem deliverCompleted_lawful :
    Lawful (deliverCompleted closure : Call κ engine Unit) :=
  .bind .get fun _ => deliverEach_lawful closure _

theorem startTicking_lawful : Lawful (startTicking closure : Call κ engine Unit) := by
  have begin_ (now : Int) : Lawful (do
      assign fun dram : Dram engine => { dram with
        ticking := true
        stretches := dram.stretches ++ [(now, dram.cycles)] }
      let _ ← scheduleCycles closure 1 .tick
      pure () : Call κ engine Unit) :=
    .bind (.assign _) fun _ => .bind (scheduleCycles_lawful closure _ _) fun _ =>
      .pure ()
  refine .bind .get fun device => .ite (.pure ()) (.ite ?_ (begin_ _))
  refine .bind (.assign _) fun _ => ?_
  split
  · exact .bind (.raise _) fun _ => begin_ _
  · exact .bind (.onSim fun sim => .single (.cancel _)) fun _ => begin_ _

theorem startIdleTicking_lawful :
    Lawful (startIdleTicking closure : Call κ engine Unit) :=
  .bind .get fun _ => .ite (.pure ()) (.bind (.assign _) fun _ =>
    .bind (scheduleCycles_lawful closure _ _) fun _ => .assign _)

theorem afterTick_lawful : Lawful (afterTick closure : Call κ engine Unit) :=
  .bind (deliverCompleted_lawful closure) fun _ => .bind .get fun _ =>
    .ite (.bind (scheduleCycles_lawful closure _ _) fun _ => .pure ())
      (.bind (.assign _) fun _ => .ite (startIdleTicking_lawful closure) (.pure ()))

theorem create_calls (setup : DramSetup γ) (sim : Simulator κ) :
    Simulator.Calls sim (create closure setup sim).2 := by
  unfold create
  split
  · exact .refl
  · rename_i clk _
    split
    · rename_i base_pos
      have calls := startIdleTicking_lawful closure
        ⟨sim, fresh setup clk base_pos sim.now⟩
      simp only
      split
      · split <;> rename_i started <;> rw [started] at calls <;> exact calls
      · exact .refl
    · exact .refl

variable [DecidableEq γ]

theorem submit_lawful (request : DramRequest γ) :
    Lawful (submit closure request : Call κ engine MemoryValue) := by
  have each (op : Collector γ → MemoryOp (Collector γ)) (deliver : Bool)
      (callback : Option γ) :
      Lawful (Dram.request closure op deliver callback : Call κ engine MemoryValue) := by
    have begin_ (value : MemoryValue) :
        Lawful (do startTicking closure; pure value : Call κ engine MemoryValue) :=
      .bind (startTicking_lawful closure) fun _ => .pure _
    refine .bind .get fun _ => .bind (.assign _) fun _ => .bind (.onMem _) fun _ =>
      .ite (.ite (.bind (deliverCompleted_lawful closure) fun _ => begin_ _) (begin_ _))
        (.pure _)
  intro device
  change Simulator.Calls device.sim (method closure request device).2.sim
  cases request with
  | read => exact each _ _ _ device
  | write => exact each _ _ _ device
  | reads => exact each _ _ _ device
  | writes => exact each _ _ _ device

theorem tick_lawful : Lawful (tick closure : Call κ engine Unit) := by
  refine .bind (.bind .get fun _ => .bind (.onSim fun sim => ?_) fun _ => .pure _)
    fun _ => .bind (.onMem _) fun value => .bind .get fun _ => ?_
  · exact .single .peek
  · split
    · exact .ite (.bind (.onSim fun sim => sim.advanceTo_calls _) fun _ =>
        afterTick_lawful closure) (afterTick_lawful closure)
    · exact afterTick_lawful closure

theorem tickOnce_lawful : Lawful (tickOnce closure : Call κ engine Unit) :=
  .bind (.onMem _) fun _ => afterTick_lawful closure

theorem idleTick_lawful : Lawful (idleTick closure : Call κ engine Unit) :=
  .bind .get fun _ => .bind (.onMem _) fun _ => .bind .get fun _ =>
    .ite (.bind (.assign _) fun _ => startTicking_lawful closure)
      (.bind (.assign _) fun _ => .bind .get fun _ =>
        .bind (scheduleCycles_lawful closure _ _) fun _ => .assign _)

end Dram

namespace DramWorld

variable {ℓ γ η : Type} [DecidableEq ℓ] {setups : ℓ → DramSetup γ}

theorem onDram_calls {α : Type} (label : ℓ)
    {method : Device.Call (DramCode ℓ γ η) (setups label).engine α}
    (lawful : Device.Lawful method) (sim : Simulator (DramCode ℓ γ η))
    (world : DramWorld setups) :
    Simulator.Calls sim (onDram label method sim world).2.1 := by
  unfold onDram
  split
  · exact .refl
  · exact lawful ⟨sim, _⟩

omit [DecidableEq ℓ] in
theorem settled_sim
    (result : Except PyError (Option Unit) × Simulator (DramCode ℓ γ η) ×
      DramWorld setups) : (settled result).sim = result.2.1 := by
  rcases result with ⟨_ | _, _, _⟩ <;> rfl

variable [DecidableEq γ]

theorem exec_calls (op : DramOp ℓ γ η) (sim : Simulator (DramCode ℓ γ η))
    (world : DramWorld setups) : Simulator.Calls sim (exec op sim world).2.1 := by
  cases op with
  | build label =>
      have calls := Dram.create_calls (.dram label : DramEvent γ → DramCode ℓ γ η)
        (setups label) sim
      simp only [exec]
      split
      · exact .refl
      · split <;> rename_i result <;> rw [result] at calls <;> exact calls
  | request label request =>
      exact onDram_calls label (Dram.submit_lawful _ request) sim world
  | schedule delay tag priority =>
      have calls := sim.schedule_calls delay (.host tag : DramCode ℓ γ η) priority none
      simp only [exec, scheduled]
      split <;> rename_i result <;> rw [result] at calls <;> exact calls
  | at_ time tag priority =>
      have calls := sim.at_calls time (.host tag : DramCode ℓ γ η) priority none
      simp only [exec, scheduled]
      split <;> rename_i result <;> rw [result] at calls <;> exact calls
  | cancel handle =>
      simp only [exec]
      split
      · exact .single (.cancel _)
      · exact .refl
  | nextTime => exact .single .peek
  | pending => exact .refl
  | cycles => exact .refl
  | now => exact .refl
  | live => exact .refl

theorem lawful (policy : TickPolicy) : (dramSystem η setups policy).Lawful where
  exec := exec_calls
  enter code sim world := by
    rcases code with ⟨label, _ | _ | _⟩ | tag
    · cases policy with
      | coalesced =>
          simp only [enter, settled_sim]
          exact onDram_calls label (Dram.tick_lawful _) sim world
      | plain =>
          simp only [enter, settled_sim]
          exact onDram_calls label (Dram.tickOnce_lawful _) sim world
    · simp only [enter, settled_sim]
      exact onDram_calls label (Dram.idleTick_lawful _) sim world
    · exact .refl
    · exact .refl
  resume _ _ _ _ := .refl

end DramWorld

end Pyramulator
