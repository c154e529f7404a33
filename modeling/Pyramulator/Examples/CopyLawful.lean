import Pyramulator.Dram.BoardRuns
import Pyramulator.Examples.CopyEngine

namespace Pyramulator

/-! The copy engine keeps to the calls of the kernel. -/

namespace Pipe

variable {ι κ : Type} (closure : PipeEvent ι → κ) (pipe : Pipe ι) (sim : Simulator κ)

theorem put_calls (item : ι) : Simulator.Calls sim (pipe.put closure sim item).2.1 := by
  by_cases full : pipe.full = true
  · rw [put_full _ _ _ full]
  · rw [put_accepted _ _ _ (by simpa using full)]
    refine .single (.push _ ?_ _ _ _)
    have nonneg : 0 ≤ pipe.latencyCycles := by
      have := pipe.latency_pos
      omega
    have := Int.mul_nonneg nonneg pipe.clk.positive.le
    omega

theorem scheduleRetry_calls :
    Simulator.Calls sim (pipe.scheduleRetry closure sim).2.1 := by
  rw [scheduleRetry_eq]
  refine .single (.push _ ?_ _ _ _)
  have := pipe.clk.positive
  omega

theorem deliver_calls (item : ι) (answer : Consumed) :
    Simulator.Calls sim (pipe.deliver closure sim item answer).2.1 := by
  cases answer with
  | accepted => exact .refl
  | refused =>
      simp only [deliver]
      split
      · exact scheduleRetry_calls closure _ sim
      · exact .refl

theorem retryAnswer_calls (answer : Consumed) :
    Simulator.Calls sim (pipe.retryAnswer closure sim answer).2.1 := by
  cases answer with
  | refused => exact scheduleRetry_calls closure pipe sim
  | accepted =>
      simp only [retryAnswer]
      split <;> exact .refl

end Pipe

namespace CopyDevice

variable {setup : DramSetup CopyCallback} {α β ι : Type}

open Board (Lawful)

theorem onPipe_lawful {stage : Stage ι}
    {call : Pipe ι → Simulator CopyCode → Except PyError α × Simulator CopyCode × Pipe ι}
    (calls : ∀ pipe sim, Simulator.Calls sim (call pipe sim).2.1) :
    Lawful (onPipe stage call : Call setup α) := fun device =>
  calls (stage.pipe device.component) device.sim

theorem put_lawful (stage : Stage ι) (item : ι) :
    Lawful (put stage item : Call setup Bool) :=
  onPipe_lawful fun pipe sim => pipe.put_calls _ sim item

section Stage

variable {stage : Stage ι} {consumer : ι → Call setup Consumed}
  (lawful : ∀ item, Lawful (consumer item))
include lawful

theorem deliver_lawful (item : ι) : Lawful (deliver stage consumer item) :=
  .bind (lawful item) fun answer =>
    onPipe_lawful fun pipe sim => pipe.deliver_calls _ sim item answer

theorem retryLoop_lawful (items : List ι) : Lawful (retryLoop stage consumer items) := by
  induction items with
  | nil => exact .pure ()
  | cons item rest induction =>
      refine .bind (lawful item) fun answer =>
        .bind (onPipe_lawful fun pipe sim => pipe.retryAnswer_calls _ sim answer) fun _ =>
          ?_
      cases answer with
      | refused => exact .pure ()
      | accepted => exact induction

theorem retry_lawful : Lawful (retry stage consumer) :=
  .bind (.assign _) fun _ => .bind .get fun _ => retryLoop_lawful lawful _

end Stage

theorem send_lawful (method : Nat → CopyCallback)
    (request : Option CopyCallback → DramRequest CopyCallback) :
    Lawful (send method request : Call setup Bool) :=
  .bind .get fun _ => .bind (.assign _) fun _ =>
    .bind (.onDram (Dram.submit_lawful _ _)) fun _ => .pure _

theorem fillLoop_lawful (left : Nat) : Lawful (fillLoop left : Call setup Unit) := by
  induction left with
  | zero => exact .pure ()
  | succ left induction =>
      exact .bind .get fun device => .ite
        (.bind (put_lawful _ _) fun _ => .bind (.assign _) fun _ => induction) (.pure ())

theorem fillIssue_lawful : Lawful (fillIssue : Call setup Unit) :=
  .bind .get fun _ => fillLoop_lawful _

theorem drainLoop_lawful (held : List (Int × Int)) :
    Lawful (drainLoop held : Call setup Unit) := by
  induction held with
  | nil => exact .pure ()
  | cons item rest induction =>
      exact .bind (put_lawful _ _) fun accepted =>
        .ite (.bind (.assign _) fun _ => induction) (.pure ())

theorem getIssueQ_lawful : Lawful (getIssueQ : Call setup Int) :=
  fun _ => Board.CallsTo.refl _

theorem putIssueQ_lawful (addr : Int) : Lawful (putIssueQ addr : Call setup Bool) :=
  fun _ => Board.CallsTo.refl _

theorem pumpLoop_lawful (left : Nat) : Lawful (pumpLoop left : Call setup Unit) := by
  induction left with
  | zero => exact .pure ()
  | succ left induction =>
      unfold pumpLoop
      refine .bind .get fun device => ?_
      dsimp only
      split
      · exact .pure ()
      · exact .ite (.bind (send_lawful _ _) fun accepted =>
          .ite (.bind getIssueQ_lawful fun _ => .bind (.assign _) fun _ => induction)
            (.pure ())) (.pure ())

theorem pumpReads_lawful : Lawful (pumpReads : Call setup Unit) :=
  .bind (.bind .get fun _ => drainLoop_lawful _) fun _ => .bind .get fun _ =>
    pumpLoop_lawful _

theorem onIssue_lawful (addr : Int) : Lawful (onIssue addr : Call setup Consumed) := by
  have scheduled : Lawful (onIssue.scheduleFill : Call setup Unit) := fun device =>
    device.sim.schedule_calls 0 (.host .fillIssue) 0 (some device.component.name)
  exact .bind (putIssueQ_lawful addr) fun room =>
    .ite (.bind (.assign _) fun _ => .bind pumpReads_lawful fun _ =>
      .bind scheduled fun _ => .pure _) (.bind (.assign _) fun _ => .pure _)

theorem onLoad_lawful (info : RequestInfo) : Lawful (onLoad info : Call setup Unit) :=
  .bind (.assign _) fun _ => .bind (.bind .get fun _ => drainLoop_lawful _) fun _ =>
    .bind (put_lawful _ _) fun _ =>
      .ite pumpReads_lawful (.bind (.assign _) fun _ => pumpReads_lawful)

theorem tryStore_lawful (item : Int × Int) :
    Lawful (tryStore item : Call setup Consumed) :=
  .bind (send_lawful _ _) fun _ => .ite (.pure _) (.bind (.assign _) fun _ => .pure _)

theorem host_lawful (event : CopyEvent) : Lawful (host event : Call setup Unit) := by
  cases event with
  | issue closed =>
      cases closed with
      | deliver addr => exact deliver_lawful onIssue_lawful addr
      | retry => exact retry_lawful onIssue_lawful
  | compute closed =>
      cases closed with
      | deliver item => exact deliver_lawful tryStore_lawful item
      | retry => exact retry_lawful tryStore_lawful
  | fillIssue => exact fillIssue_lawful

end CopyDevice

theorem CopyEngine.firmware_lawful {setup : DramSetup CopyCallback} (copy : CopyEngine) :
    (copy.firmware setup).Lawful where
  call _ := CopyDevice.fillIssue_lawful
  completion callback info := by
    cases callback with
    | onLoad object => exact CopyDevice.onLoad_lawful info
    | onStoreAccepted object => exact .bind (.assign _) fun _ =>
        CopyDevice.pumpReads_lawful
  host := CopyDevice.host_lawful

end Pyramulator
