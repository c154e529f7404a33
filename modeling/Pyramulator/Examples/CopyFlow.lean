import Pyramulator.Dram.BoardRuns
import Pyramulator.Dram.Client
import Pyramulator.Examples.CopyEngine

namespace Pyramulator

/-! Where the lines of a copy are, and what each method of the engine does to them. -/

def PipeEvent.item? {ι : Type} : PipeEvent ι → Option ι
  | .deliver item => some item
  | .retry => none

def PipeEvent.again? {ι : Type} : PipeEvent ι → Option Unit
  | .deliver _ => none
  | .retry => some ()

namespace CopyCode

def filling : CopyCode → Option Unit
  | .host .fillIssue => some ()
  | _ => none

def Unpiped (code : CopyCode) : Prop := code.Owned () ∨ code = .host .fillIssue

end CopyCode

def CopyCallback.client : Client CopyCallback Int where
  loaded
    | .onLoad _, addr => some addr
    | .onStoreAccepted _, _ => none
  stored
    | .onLoad _, _ => none
    | .onStoreAccepted _, addr => some addr
  addr := id
  loaded_addr {callback _ _} loaded := by
    cases callback <;> cases loaded
    rfl
  stored_addr {callback _ _} stored := by
    cases callback <;> cases stored
    rfl

open CopyCallback (client)

section

variable {setup : DramSetup CopyCallback} {tally : setup.engine.Tally}
  {before after : Device CopyCode setup.engine} {reads writes : Multiset Int}
  (took : client.Took tally before after reads writes)
include took

theorem lines_read :
    (after.dram.taken .read : Multiset Int) = reads + before.dram.taken .read := by
  have taken := took.takenReads
  rw [show client.addr = id from rfl, Multiset.map_id] at taken
  exact taken

theorem lines_written :
    (after.dram.taken .write : Multiset Int) = writes + before.dram.taken .write := by
  have taken := took.takenWrites
  rw [show client.addr = id from rfl, Multiset.map_id] at taken
  exact taken

end

structure StageView (ι : Type) extends Stage ι where
  event : CopyCode → Option (PipeEvent ι)
  event_closure : ∀ closed, event (.host (closure closed)) = some closed
  event_unpiped : ∀ code, code.Unpiped → event code = none
  closure_dram : ∀ closed, client.loads (.host (closure closed)) = none ∧
    client.stores (.host (closure closed)) = none ∧
      CopyCode.filling (.host (closure closed)) = none
  pipe_replace : ∀ copy replaced, pipe (replace copy replaced) = replaced
  pipe_congr : ∀ {first second : CopyEngine}, first.issuePipe = second.issuePipe →
    first.computePipe = second.computePipe → pipe first = pipe second

namespace StageView

variable {ι : Type}

def issue : StageView Int where
  toStage := .issue
  event
    | .host (.issue event) => some event
    | _ => none
  event_closure _ := rfl
  event_unpiped code unpiped := by
    rcases unpiped with ⟨closure, rfl⟩ | rfl <;> rfl
  closure_dram _ := ⟨rfl, rfl, rfl⟩
  pipe_replace _ _ := rfl
  pipe_congr issuePipe _ := issuePipe

def compute : StageView (Int × Int) where
  toStage := .compute
  event
    | .host (.compute event) => some event
    | _ => none
  event_closure _ := rfl
  event_unpiped code unpiped := by
    rcases unpiped with ⟨closure, rfl⟩ | rfl <;> rfl
  closure_dram _ := ⟨rfl, rfl, rfl⟩
  pipe_replace _ _ := rfl
  pipe_congr _ computePipe := computePipe

variable (view : StageView ι)

def delivery (code : CopyCode) : Option ι := (view.event code).bind PipeEvent.item?

def again (code : CopyCode) : Option Unit := (view.event code).bind PipeEvent.again?

def Own (code : CopyCode) : Prop := ∃ closed, code = .host (view.closure closed)

end StageView

open CopyCode (filling)
open Simulator (Local)

variable {setup : DramSetup CopyCallback}

namespace CopyDevice

/-- The items that wait in a pipe: those with a delivery in the agenda, and those that
are stalled. -/
def items {ι : Type} (view : StageView ι) (device : CopyDevice setup) : Multiset ι :=
  device.sim.due view.delivery + (view.pipe device.component).stalled

def linesTo (count : Int) : Multiset Int :=
  (List.range count.toNat).map fun line : Nat =>
    CopyEngine.srcBase + (line : Int) * CopyEngine.cacheline

theorem linesTo_succ {count : Int} (nonneg : 0 ≤ count) :
    linesTo (count + 1) =
      (CopyEngine.srcBase + count * CopyEngine.cacheline) ::ₘ linesTo count := by
  have next : (count + 1).toNat = count.toNat + 1 := by omega
  have same : ((count.toNat : Nat) : Int) = count := Int.toNat_of_nonneg nonneg
  rw [linesTo, linesTo, next, List.range_succ, List.map_append, ← Multiset.coe_add,
    List.map_singleton, same, add_comm]
  rfl

structure Core (tally : setup.engine.Tally) (args : CopyArgs)
    (device : CopyDevice setup) :
    Prop where
  wellFormed : device.sim.WellFormed
  attended : client.Attended tally device.memory
  inflight : device.component.readsInflight = (client.reading tally device.memory).card
  reserved : device.component.readsInflight + device.component.computePipe.inFlight ≤
    device.component.computePipe.slots
  held : device.component.heldCompute = []
  nLines : device.component.nLines = args.nLines
  maxOutstanding : device.component.maxOutstanding = args.maxOutstanding

/-- Every line that was produced is at one place on its way, and so is every line that
was read. -/
structure Flow (tally : setup.engine.Tally) (device : CopyDevice setup)
    (issuing : Multiset Int) (computing : Multiset (Int × Int)) : Prop where
  nonneg : 0 ≤ device.component.produced
  le : 0 ≤ device.component.nLines → device.component.produced ≤ device.component.nLines
  lines : linesTo device.component.produced =
    issuing + device.component.issueQ.items + device.dram.taken .read
  stores : (device.dram.taken .read : Multiset Int).map CopyEngine.dst =
    (client.reading tally device.memory).map CopyEngine.dst + computing.map Prod.snd +
      device.dram.taken .write
  accepted : device.component.writesAccepted + (device.sim.due client.stores).card =
    (device.dram.taken .write).length

/-- A line that is queued is asked for in the end: something is on its way that will
look at the queue. -/
def Fed (args : CopyArgs) (device : CopyDevice setup) : Prop :=
  0 < args.maxOutstanding → device.component.issueQ.items ≠ [] →
    0 < device.component.readsInflight ∨ 0 < device.component.computePipe.inFlight ∨
      device.sim.due client.stores ≠ 0

/-- A line that is not produced will be: the issue pipe is full, or a refill is due. -/
def Filled (args : CopyArgs) (started : Prop) (device : CopyDevice setup) : Prop :=
  started → device.component.produced < args.nLines →
    device.component.issuePipe.full = true ∨ device.sim.due filling ≠ 0

/-- The count of a pipe is right, and while it waits for a retry one is due. -/
structure Counted {ι : Type} (view : StageView ι) (device : CopyDevice setup)
    (hand : Multiset ι) : Prop where
  count : (view.pipe device.component).inFlight = (hand + items view device).card
  armed : (view.pipe device.component).retryEid ≠ none → device.sim.due view.again ≠ 0

structure Standing {ι : Type} (view : StageView ι) (device : CopyDevice setup) : Prop
    extends Counted view device 0 where
  wakes : (view.pipe device.component).stalled ≠ [] →
    (view.pipe device.component).retryEid ≠ none

/-! ## Requests -/

structure Sent (tally : setup.engine.Tally) (before after : CopyDevice setup)
    (reads writes : Multiset Int) : Prop where
  took : client.Took tally before.memory after.memory reads writes
  local_ : Local (DramCode.Owned ()) before.sim after.sim
  copy : after.component =
    { before.component with boundMethods := before.component.boundMethods + 1 }

section Send

variable {tally : setup.engine.Tally} {device : CopyDevice setup}
  (attended : client.Attended tally device.memory) (wellFormed : device.sim.WellFormed)
include attended wellFormed

theorem read_ends
    (rejects : ∀ {state request}, setup.engine.Reaches (fun _ => True) state →
      request.type = .read → (setup.engine.send state request).1 = false →
        tally.reads state ≠ 0) (addr : Int) :
    (read addr).Ends device
      (fun accepted after =>
        Sent tally device after (if accepted = true then {addr} else 0) 0 ∧
          (accepted = false → client.reading tally device.memory ≠ 0))
      fun after => Sent tally device after 0 0 := by
  have sent := Client.Attended.read_ends { device with component :=
      { device.component with boundMethods := device.component.boundMethods + 1 } }
    attended wellFormed rejects (.onLoad device.component.boundMethods) addr rfl rfl
  refine .get (.modify (.bind (sent.mono (fun _ _ both => both) ?_) ?_))
  · rintro after sent
    exact ⟨sent.took, sent.local_, sent.component⟩
  · rintro value after ⟨sent, refused⟩
    exact .pure ⟨⟨sent.took, sent.local_, sent.component⟩, refused⟩

theorem write_ends (dst : Int) :
    (write dst).Ends device
      (fun accepted after =>
        Sent tally device after 0 (if accepted = true then {dst} else 0))
      fun after => Sent tally device after 0 0 := by
  have sent := Client.Attended.write_ends { device with component :=
      { device.component with boundMethods := device.component.boundMethods + 1 } }
    attended wellFormed (.onStoreAccepted device.component.boundMethods) dst rfl rfl
  refine .get (.modify (.bind (sent.mono (fun _ _ sent => sent) ?_) ?_))
  · rintro after sent
    exact ⟨sent.took, sent.local_, sent.component⟩
  · rintro value after sent
    exact .pure ⟨sent.took, sent.local_, sent.component⟩

end Send

/-! ## The pump -/

variable {tally : setup.engine.Tally} {args : CopyArgs}

structure Framed (tally : setup.engine.Tally) (args : CopyArgs)
    (before after : CopyDevice setup) : Prop where
  core : Core tally args after
  local_ : Local CopyCode.Unpiped before.sim after.sim
  filling : before.sim.due filling ≠ 0 → after.sim.due filling ≠ 0
  issuePipe : after.component.issuePipe = before.component.issuePipe
  computePipe : after.component.computePipe = before.component.computePipe
  produced : after.component.produced = before.component.produced

structure Carried (tally : setup.engine.Tally) (args : CopyArgs)
    (before after : CopyDevice setup) : Prop extends Framed tally args before after where
  flow : ∀ issuing computing, Flow tally before issuing computing →
    Flow tally after issuing computing

section Framed

variable {first second third : CopyDevice setup}

theorem Framed.trans (one : Framed tally args first second)
    (other : Framed tally args second third) : Framed tally args first third where
  core := other.core
  local_ := one.local_.trans other.local_
  filling := other.filling ∘ one.filling
  issuePipe := other.issuePipe.trans one.issuePipe
  computePipe := other.computePipe.trans one.computePipe
  produced := other.produced.trans one.produced

theorem Carried.refl (core : Core tally args first) : Carried tally args first first where
  core
  local_ := .refl _ core.wellFormed
  filling := id
  issuePipe := rfl
  computePipe := rfl
  produced := rfl
  flow _ _ := id

theorem Carried.trans (one : Carried tally args first second)
    (other : Carried tally args second third) : Carried tally args first third where
  toFramed := one.toFramed.trans other.toFramed
  flow issuing computing := other.flow issuing computing ∘ one.flow issuing computing

end Framed

theorem filling_owned (code : CopyCode) (owned : code.Owned ()) :
    filling code = none := by
  obtain ⟨closure, rfl⟩ := owned
  rfl

section Took

variable {before after : CopyDevice setup} {reads writes : Multiset Int}
  (took : client.Took tally before.memory after.memory reads writes)
include took

theorem Core.asked (core : Core tally args before)
    (counted : after.component.readsInflight = before.component.readsInflight +
      reads.card)
    (reserved : after.component.readsInflight + after.component.computePipe.inFlight ≤
      after.component.computePipe.slots)
    (held : after.component.heldCompute = before.component.heldCompute)
    (nLines : after.component.nLines = before.component.nLines)
    (maxOutstanding : after.component.maxOutstanding = before.component.maxOutstanding) :
    Core tally args after where
  wellFormed := took.wellFormed
  attended := took.attended
  inflight := by
    rw [counted, core.inflight, took.reading, Multiset.card_add, add_comm, Nat.cast_add]
  reserved
  held := held.trans core.held
  nLines := nLines.trans core.nLines
  maxOutstanding := maxOutstanding.trans core.maxOutstanding

theorem Flow.asked {issuing remaining : Multiset Int}
    {computing left : Multiset (Int × Int)} (flow : Flow tally before issuing computing)
    (produced : after.component.produced = before.component.produced)
    (nLines : after.component.nLines = before.component.nLines)
    (counted : after.component.writesAccepted = before.component.writesAccepted)
    (queued : issuing + before.component.issueQ.items =
      remaining + after.component.issueQ.items + reads)
    (computed : computing.map Prod.snd = left.map Prod.snd + writes) :
    Flow tally after remaining left where
  nonneg := produced ▸ flow.nonneg
  le := by
    rw [produced, nLines]
    exact flow.le
  lines := by
    have taken : (after.dram.taken .read : Multiset Int) = reads +
        before.dram.taken .read :=
      lines_read took
    rw [produced, flow.lines, queued, taken, add_assoc]
  stores := by
    have taken : (after.dram.taken .read : Multiset Int) = reads +
        before.dram.taken .read :=
      lines_read took
    have given : (after.dram.taken .write : Multiset Int) =
      writes + before.dram.taken .write := lines_written took
    rw [taken, given, took.reading, Multiset.map_add, Multiset.map_add,
      flow.stores, computed]
    ac_rfl
  accepted := by
    have given : (after.dram.taken .write : Multiset Int) =
      writes + before.dram.taken .write := lines_written took
    have answers : after.sim.due client.stores = writes + before.sim.due client.stores :=
      took.stored
    have cards := congrArg Multiset.card given
    rw [Multiset.card_add, Multiset.coe_card, Multiset.coe_card] at cards
    have accepted := flow.accepted
    rw [counted, answers, cards, Multiset.card_add]
    omega

end Took

theorem Sent.carried {before after : CopyDevice setup}
    (sent : Sent tally before after 0 0)
    (core : Core tally args before) : Carried tally args before after := by
  obtain ⟨took, local_, copy⟩ := sent
  exact
    { core := core.asked took (by simp [copy]) (by rw [copy]; exact core.reserved)
        (by rw [copy]) (by rw [copy]) (by rw [copy])
      local_ := local_.mono fun _ => .inl
      filling := by
        rw [show after.sim.due filling = before.sim.due filling from
          local_.due filling_owned]
        exact id
      issuePipe := by rw [copy]
      computePipe := by rw [copy]
      produced := by rw [copy]
      flow := fun issuing computing flow =>
        flow.asked took (by rw [copy]) (by rw [copy]) (by rw [copy])
          (by rw [copy, add_zero])
          (add_zero _).symm }

theorem Core.nonneg {device : CopyDevice setup} (core : Core tally args device) :
    0 ≤ device.component.readsInflight := by
  rw [core.inflight]
  exact Int.natCast_nonneg _

def popped (device : CopyDevice setup) : CopyDevice setup :=
  { device with component := { device.component with
      issueQ := device.component.issueQ.tail
      readsInflight := device.component.readsInflight + 1 } }

theorem Sent.pumped {before after : CopyDevice setup} {addr : Int} {rest : List Int}
    (core : Core tally args before) (sent : Sent tally before after {addr} 0)
    (items : before.component.issueQ.items = addr :: rest)
    (room : before.component.readsInflight + before.component.computePipe.inFlight <
      before.component.computePipe.slots) :
    Carried tally args before after.popped := by
  obtain ⟨took, local_, copy⟩ := sent
  have took : client.Took tally before.memory after.popped.memory {addr} 0 := took
  have tail : after.popped.component.issueQ.items = rest := by
    simp only [popped, copy]
    exact (Fifo.get_cons items).2
  exact
    { core := core.asked took (by simp [popped, copy])
        (by
          simp only [popped, copy]
          omega)
        (by simp only [popped, copy]) (by simp only [popped, copy])
        (by simp only [popped, copy])
      local_ := local_.mono fun _ => .inl
      filling := by
        rw [show after.popped.sim.due filling = before.sim.due filling from
          local_.due filling_owned]
        exact id
      issuePipe := by simp only [popped, copy]
      computePipe := by simp only [popped, copy]
      produced := by simp only [popped, copy]
      flow := fun issuing computing flow =>
        flow.asked took (by simp only [popped, copy]) (by simp only [popped, copy])
          (by simp only [popped, copy])
          (by
            rw [items, tail, ← Multiset.cons_coe, ← Multiset.singleton_add]
            ac_rfl)
          (add_zero _).symm }

theorem drainHeldCompute_ends {device : CopyDevice setup} {E : CopyDevice setup → Prop}
    (held : device.component.heldCompute = []) :
    drainHeldCompute.Ends device (fun _ after => after = device) E := by
  refine .get ?_
  rw [held]
  exact .pure rfl

section Pump

variable (rejects : ∀ {state request}, setup.engine.Reaches (fun _ => True) state →
  request.type = .read → (setup.engine.send state request).1 = false →
    tally.reads state ≠ 0)
include rejects

theorem pumpLoop_ends (left : Nat) {device : CopyDevice setup}
    (core : Core tally args device)
    (short : device.component.issueQ.items.length ≤ left) :
    (pumpLoop left).Ends device
      (fun _ after => Carried tally args device after ∧ Fed args after)
      (Carried tally args device) := by
  induction left generalizing device with
  | zero =>
      have empty : device.component.issueQ.items = [] :=
        List.length_eq_zero_iff.mp (by omega)
      exact .pure ⟨.refl core, fun _ queued => absurd empty queued⟩
  | succ left induction =>
      unfold pumpLoop
      refine .get ?_
      cases items : device.component.issueQ.items with
      | nil =>
          simp only [Fifo.peek, items, List.head?_nil]
          exact .pure ⟨.refl core, fun _ queued => absurd items queued⟩
      | cons addr rest =>
          simp only [Fifo.peek, items, List.head?_cons]
          have reserved : device.component.computeReserved =
              device.component.readsInflight + device.component.computePipe.inFlight := by
            rw [CopyEngine.computeReserved, core.held]
            simp
          refine .ite (fun room => ?_) fun full => ?_
          · refine .bind ((read_ends core.attended core.wellFormed rejects addr).mono
              (fun _ _ both => both) fun after sent => sent.carried core) ?_
            rintro (_ | _) after ⟨sent, busy⟩
            · -- The read was rejected: another one is in flight.
              have sent : Sent tally device after 0 0 := sent
              refine .pure ⟨sent.carried core, fun _ _ => .inl ?_⟩
              have same := (sent.carried core).core.inflight
              rw [same, sent.took.reading, zero_add]
              exact Int.natCast_pos.mpr (Multiset.card_pos.mpr (busy rfl))
            · have sent : Sent tally device after {addr} 0 := sent
              have pumped := sent.pumped core items (reserved ▸ room.2)
              have queued : after.component.issueQ.items = addr :: rest := by
                rw [sent.copy]
                exact items
              have got := (Fifo.get_cons queued).1
              simp only [if_true]
              refine .bind (R := fun _ between => between =
                { after with
                  component :=
                    { after.component with issueQ := after.component.issueQ.tail } })
                (.of_ok addr _ ?_ rfl) ?_
              · simp only [getIssueQ, got]
              · rintro _ _ rfl
                refine .modify
                  ((induction pumped.core ?_).mono (fun _ last both => ?_) ?_)
                · change after.component.issueQ.tail.items.length ≤ left
                  rw [items, List.length_cons] at short
                  rw [(Fifo.get_cons queued).2]
                  omega
                · exact ⟨pumped.trans both.1, both.2⟩
                · exact fun last carried => pumped.trans carried
          · refine .pure ⟨.refl core, fun positive _ => ?_⟩
            have slots := device.component.computePipe.slots_pos
            rw [reserved, core.maxOutstanding] at full
            omega

theorem pumpReads_ends {device : CopyDevice setup} (core : Core tally args device) :
    pumpReads.Ends device
      (fun _ after => Carried tally args device after ∧ Fed args after)
      (Carried tally args device) := by
  unfold pumpReads
  refine .bind (drainHeldCompute_ends core.held) ?_
  rintro _ _ rfl
  exact .get (pumpLoop_ends rejects _ core le_rfl)

end Pump

end CopyDevice

end Pyramulator
