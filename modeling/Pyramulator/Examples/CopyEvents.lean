import Pyramulator.Examples.CopyStages

namespace Pyramulator.CopyDevice

open CopyCallback (client)
open CopyCode (filling)
open Simulator (Local)

/-! What the callbacks of the engine keep. `fine` is that nothing was raised so far. -/

variable {setup : DramSetup CopyCallback} {tally : setup.engine.Tally} {args : CopyArgs}
  {fine started : Prop} {device : CopyDevice setup}

structure Sound (fine started : Prop) (tally : setup.engine.Tally) (args : CopyArgs)
    (device : CopyDevice setup) (issuing : Multiset Int)
    (computing : Multiset (Int × Int)) :
    Prop where
  core : Core tally args device
  flow : fine → Flow tally device issuing computing
  fed : fine → Fed args device
  filled : fine → Filled args started device

structure Between (fine started : Prop) (tally : setup.engine.Tally) (args : CopyArgs)
    (device : CopyDevice setup) : Prop where
  sound : Sound fine started tally args device (items .issue device)
    (items .compute device)
  issue : fine → Standing .issue device
  compute : fine → Standing .compute device

theorem Framed.filled {after : CopyDevice setup} (framed : Framed tally args device after)
    (filled : Filled args started device) : Filled args started after := by
  intro begun short
  rw [framed.produced] at short
  rw [framed.issuePipe]
  exact (filled begun short).imp id framed.filling

section Own

variable {ι : Type} {view : StageView ι} {after : CopyDevice setup}
  (local_ : Local view.Own device.sim after.sim)
include local_

theorem own_due {Part : Type} {part : CopyCode → Option Part}
    (apart : ∀ closed, part (.host (view.closure closed)) = none) :
    after.sim.due part = device.sim.due part := by
  apply local_.due
  rintro code ⟨closed, rfl⟩
  exact apart closed

theorem own_took (core : Core tally args device) (dram : after.dram = device.dram) :
    client.Took tally device.memory after.memory 0 0 := by
  have hosted := core.attended.hosted (local_.mono fun code ⟨closed, named⟩ => ⟨_, named⟩)
  have same : after.memory = ⟨after.sim, device.dram⟩ := by
    rw [Board.memory, dram]
  rw [same]
  exact hosted

theorem own_standing {κ : Type} (other : StageView κ)
    (apart : ∀ closed, other.event (.host (view.closure closed)) = none)
    (same : other.pipe after.component = other.pipe device.component) :
    items other after = items other device ∧
      (Standing other device → Standing other after) := by
  have delivery : after.sim.due other.delivery = device.sim.due other.delivery :=
    own_due local_ fun closed => by
      rw [StageView.delivery, apart]
      rfl
  have again : after.sim.due other.again = device.sim.due other.again :=
    own_due local_ fun closed => by
      rw [StageView.again, apart]
      rfl
  exact Standing.congr same delivery again

end Own

theorem Core.reported (core : Core tally args device) (copy : CopyEngine)
    (same : copy = { device.component with
      issueStalls := copy.issueStalls
      storeStalls := copy.storeStalls
      fifoHighWater := copy.fifoHighWater }) :
    Carried tally args device { device with component := copy } := by
  have took : client.Took tally device.memory
      ({ device with component := copy } : CopyDevice setup).memory 0 0 :=
    .refl core.attended core.wellFormed
  exact
    { core := core.asked took (by rw [same]; simp) (by rw [same]; exact core.reserved)
        (by rw [same]) (by rw [same]) (by rw [same])
      local_ := .refl _ core.wellFormed
      filling := id
      issuePipe := by rw [same]
      computePipe := by rw [same]
      produced := by rw [same]
      flow := fun issuing computing flow =>
        flow.asked took (by rw [same]) (by rw [same]) (by rw [same])
          (by rw [same, add_zero]) (add_zero _).symm }

def Issues (fine started : Prop) (tally : setup.engine.Tally) (args : CopyArgs)
    (issuing : Multiset Int) (device : CopyDevice setup) : Prop :=
  Sound fine started tally args device issuing (items .compute device) ∧
    (fine → Standing .compute device)

def Computes (fine started : Prop) (tally : setup.engine.Tally) (args : CopyArgs)
    (computing : Multiset (Int × Int)) (device : CopyDevice setup) : Prop :=
  Sound fine started tally args device (items .issue device) computing ∧
    (fine → Standing .issue device)

theorem compute_issue (closed : PipeEvent Int) :
    StageView.compute.event (.host (StageView.issue.closure closed)) = none := rfl

theorem issue_compute (closed : PipeEvent (Int × Int)) :
    StageView.issue.event (.host (StageView.compute.closure closed)) = none := rfl

theorem scheduleFill_ends (core : Core tally args device) :
    Method.Ends onIssue.scheduleFill device
      (fun _ after => Carried tally args device after ∧
        (Fed args device → Fed args after) ∧ after.sim.due filling ≠ 0)
          (Core tally args) := by
  have scheduled :
      device.sim.schedule 0 (.host .fillIssue) 0 (some device.component.name) =
      (.ok device.sim.seq,
        (device.sim.push (device.sim.now + 0)
          (.host .fillIssue) 0 (some device.component.name)).2) :=
    rfl
  have later : device.sim.now ≤ device.sim.now + 0 := Int.le_add_of_nonneg_right le_rfl
  have pushed : Local (fun code : CopyCode => code = .host .fillIssue) device.sim
      (device.sim.push (device.sim.now + 0)
        (.host .fillIssue) 0 (some device.component.name)).2 := by
    refine .push core.wellFormed later ?_ 0 _
    rfl
  have due : (device.sim.push (device.sim.now + 0) (.host .fillIssue) 0
      (some device.component.name)).2.due filling = () ::ₘ device.sim.due filling :=
    Simulator.due_push_some core.wellFormed _ rfl
  have answers : (device.sim.push (device.sim.now + 0) (.host .fillIssue) 0
      (some device.component.name)).2.due client.stores = device.sim.due client.stores :=
    Simulator.due_push_none core.wellFormed _ rfl
  generalize (device.sim.push (device.sim.now + 0) (.host .fillIssue) 0
    (some device.component.name)).2 = sim at scheduled pushed due answers
  have took : client.Took tally device.memory
      ({ device with sim } : CopyDevice setup).memory 0 0 :=
    core.attended.hosted (pushed.mono fun code named => ⟨_, named⟩)
  have armed : sim.due filling ≠ 0 := by
    rw [due]
    exact Multiset.cons_ne_zero
  refine .of_ok () { device with sim } ?_ ⟨?_, ?_, armed⟩
  · simp only [onIssue.scheduleFill, scheduled]
    rfl
  · exact
      { core := core.asked took (by simp) core.reserved rfl rfl rfl
        local_ := pushed.mono fun _ => .inr
        filling := fun _ => armed
        issuePipe := rfl
        computePipe := rfl
        produced := rfl
        flow := fun issuing computing flow =>
          flow.asked took rfl rfl rfl (add_zero _).symm (add_zero _).symm }
  · rw [Fed, Fed, answers]
    exact id

section Issue

variable (rejects : ∀ {state request}, setup.engine.Reaches (fun _ => True) state →
  request.type = .read → (setup.engine.send state request).1 = false →
    tally.reads state ≠ 0)

theorem Core.queued (core : Core tally args device) (addr : Int) (copy : CopyEngine)
    (items : copy.issueQ.items = device.component.issueQ.items ++ [addr])
    (same : copy = { device.component with
      issueQ := copy.issueQ, fifoHighWater := copy.fifoHighWater }) :
    Framed tally args device { device with component := copy } ∧
      ∀ issuing computing, Flow tally device (addr ::ₘ issuing) computing →
        Flow tally { device with component := copy } issuing computing := by
  have took : client.Took tally device.memory
      ({ device with component := copy } : CopyDevice setup).memory 0 0 :=
    .refl core.attended core.wellFormed
  refine
    ⟨{ core := core.asked took (by rw [same]; simp) (by rw [same]; exact core.reserved)
          (by rw [same]) (by rw [same]) (by rw [same])
       local_ := .refl _ core.wellFormed
       filling := id
       issuePipe := by rw [same]
       computePipe := by rw [same]
       produced := by rw [same] }, fun issuing computing flow => ?_⟩
  refine flow.asked took (by rw [same]) (by rw [same]) (by rw [same]) ?_ (add_zero _).symm
  rw [items, ← Multiset.coe_add, Multiset.coe_singleton,
    ← Multiset.singleton_add, add_zero]
  ac_rfl

include rejects

theorem onIssue_serves :
    Serves tally args .issue onIssue
      (Issues fine started tally args : Multiset Int → CopyDevice setup → Prop)
      (fun device => device.sim.due filling ≠ 0) where
  core holds := holds.1.core
  consume := by
    rintro addr rest device ⟨sound, standing⟩
    have core := sound.core
    unfold onIssue
    cases full : device.component.issueQ.full with
    | true =>
        have carried := core.reported { device.component with
          issueStalls := device.component.issueStalls + 1 } rfl
        refine .bind (R := fun room between => room = false ∧ between = device)
          (.of_ok false device ?_ ⟨rfl, rfl⟩) ?_
        · simp only [putIssueQ, Fifo.put_full addr full]
        · rintro _ _ ⟨rfl, rfl⟩
          refine .modify
            (.pure ⟨carried.toFramed, fun _ => ⟨?_, ?_⟩, fun impossible => ?_⟩)
          · exact
              { core := carried.core
                flow := fun fine => carried.flow _ _ (sound.flow fine)
                fed := sound.fed
                filled := sound.filled }
          · exact fun fine => carried.standing (standing fine)
          · cases impossible
    | false =>
        obtain ⟨accepted, queued⟩ := Fifo.put_accepted addr full
        refine .bind (R := fun room between => room = true ∧ between =
            { device with component := { device.component with
                issueQ := (device.component.issueQ.put addr).2 } })
          (.of_ok true _ ?_ ⟨rfl, rfl⟩) ?_
        · simp only [putIssueQ, accepted]
        · rintro _ _ ⟨rfl, rfl⟩
          refine .modify ?_
          obtain ⟨first, flows⟩ := core.queued addr { device.component with
            issueQ := (device.component.issueQ.put addr).2
            fifoHighWater :=
              max device.component.fifoHighWater
                (device.component.issueQ.put addr).2.level } queued rfl
          refine .bind ((pumpReads_ends rejects first.core).mono (fun _ _ both => both)
            fun _ carried => carried.core) ?_
          rintro _ pumped ⟨second, fed⟩
          refine .bind (scheduleFill_ends second.core) ?_
          rintro _ last ⟨third, feeds, filling⟩
          have framed := first.trans (second.trans third).toFramed
          refine .pure ⟨framed, fun impossible => ?_, fun _ => ⟨⟨?_, ?_⟩, filling⟩⟩
          · cases impossible
          · rw [framed.items]
            exact
              { core := third.core
                flow := fun fine =>
                  third.flow _ _ (second.flow _ _ (flows _ _ (sound.flow fine)))
                fed := fun _ => feeds fed
                filled := fun _ _ _ => .inr filling }
          · exact fun fine => framed.standing (standing fine)
  turned := by
    rintro issuing before after ⟨sound, standing⟩ turned woken
    obtain ⟨items, stands⟩ := own_standing turned.local_ .compute compute_issue (by
      rw [turned.copy]
      rfl)
    have took := own_took turned.local_ sound.core turned.dram
    refine ⟨?_, fun fine => stands (standing fine)⟩
    rw [items]
    exact
      { core := sound.core.asked took
          (by rw [turned.copy]; simp [StageView.issue, Stage.issue])
          (by rw [turned.copy]; exact sound.core.reserved) (by rw [turned.copy]; rfl)
          (by rw [turned.copy]; rfl) (by rw [turned.copy]; rfl)
        flow := fun fine => (sound.flow fine).asked took (by rw [turned.copy]; rfl)
          (by rw [turned.copy]; rfl) (by rw [turned.copy]; rfl)
          (by rw [turned.copy, add_zero]; rfl) (add_zero _).symm
        fed := fun fine => by
          have fed := sound.fed fine
          rw [Fed, own_due turned.local_ fun _ => rfl, turned.copy]
          exact fed
        filled := fun fine begun short => by
          rw [own_due turned.local_ fun _ => rfl]
          rcases woken with waking | same
          · exact .inr waking
          · have filled := sound.filled fine begun (by
              rw [turned.copy] at short
              exact short)
            refine filled.imp (fun full => ?_) id
            rw [Pipe.full] at full ⊢
            rw [show after.component.issuePipe.slots =
              before.component.issuePipe.slots from
                turned.slots,
              show after.component.issuePipe.inFlight =
                  before.component.issuePipe.inFlight from
                same]
            exact full }

end Issue

theorem Sent.moved {after : CopyDevice setup} {item : Int × Int}
    (sent : Sent tally device after 0 {item.2}) (core : Core tally args device) :
    Framed tally args device after ∧
      ∀ issuing computing, Flow tally device issuing (item ::ₘ computing) →
        Flow tally after issuing computing := by
  obtain ⟨took, local_, copy⟩ := sent
  refine
    ⟨{ core := core.asked took (by simp [copy]) (by rw [copy]; exact core.reserved)
          (by rw [copy]) (by rw [copy]) (by rw [copy])
       local_ := local_.mono fun _ => .inl
       filling := by
        rw [show after.sim.due filling = device.sim.due filling from
          local_.due filling_owned]
        exact id
       issuePipe := by rw [copy]
       computePipe := by rw [copy]
       produced := by rw [copy] }, fun issuing computing flow => ?_⟩
  refine flow.asked took (by rw [copy]) (by rw [copy]) (by rw [copy])
    (by rw [copy, add_zero]) ?_
  rw [Multiset.map_cons, ← Multiset.singleton_add, add_comm]

theorem Sent.fed {after : CopyDevice setup} {writes : Multiset Int}
    (sent : Sent tally device after 0 writes) (fed : Fed args device) :
    Fed args after := by
  have stored : after.sim.due client.stores = writes + device.sim.due client.stores :=
    sent.took.stored
  intro positive queued
  rw [sent.copy] at queued ⊢
  refine (fed positive queued).imp id fun others => others.imp id fun storing => ?_
  rw [stored]
  exact fun unstored =>
    storing (Multiset.le_zero.mp ((Multiset.le_add_left _ _).trans unstored.le))

theorem tryStore_serves :
    Serves tally args .compute tryStore
      (Computes fine started tally args : Multiset (Int × Int) → CopyDevice setup → Prop)
      (fun device => device.sim.due client.stores ≠ 0) where
  core holds := holds.1.core
  consume := by
    rintro item rest device ⟨sound, standing⟩
    have core := sound.core
    unfold tryStore
    refine .bind ((write_ends core.attended core.wellFormed item.2).mono
      (fun _ _ sent => sent) fun _ sent => (sent.carried core).core) ?_
    rintro (_ | _) after sent
    · have sent : Sent tally device after 0 0 := sent
      have first := sent.carried core
      have second := first.core.reported { after.component with
        storeStalls := after.component.storeStalls + 1 } rfl
      have carried := first.trans second
      have fed (fine : fine) : Fed args after := sent.fed (sound.fed fine)
      refine .modify (.pure ⟨carried.toFramed, fun _ => ⟨?_, ?_⟩, fun impossible => ?_⟩)
      · rw [carried.items]
        exact
          { core := carried.core
            flow := fun fine => carried.flow _ _ (sound.flow fine)
            fed
            filled := fun fine => carried.filled (sound.filled fine) }
      · exact fun fine => carried.standing (standing fine)
      · cases impossible
    · have sent : Sent tally device after 0 {item.2} := sent
      obtain ⟨framed, flows⟩ := sent.moved core
      refine .pure ⟨framed, fun impossible => ?_, fun _ => ⟨⟨?_, ?_⟩, ?_⟩⟩
      · cases impossible
      · rw [framed.items]
        exact
          { core := framed.core
            flow := fun fine => flows _ _ (sound.flow fine)
            fed := fun fine => sent.fed (sound.fed fine)
            filled := fun fine => framed.filled (sound.filled fine) }
      · exact fun fine => framed.standing (standing fine)
      · have answered : after.sim.due client.stores = {item.2} +
            device.sim.due client.stores :=
          sent.took.stored
        rw [answered, Multiset.singleton_add]
        exact Multiset.cons_ne_zero
  turned := by
    rintro computing before after ⟨sound, standing⟩ turned woken
    obtain ⟨items, stands⟩ := own_standing turned.local_ .issue issue_compute (by
      rw [turned.copy]
      rfl)
    have took := own_took turned.local_ sound.core turned.dram
    have slots : after.component.computePipe.slots = before.component.computePipe.slots :=
      turned.slots
    have inFlight :
        after.component.computePipe.inFlight ≤ before.component.computePipe.inFlight :=
      turned.inFlight
    have reads : after.component.readsInflight = before.component.readsInflight := by
      rw [turned.copy]
      rfl
    refine ⟨?_, fun fine => stands (standing fine)⟩
    rw [items]
    exact
      { core := sound.core.asked took (by rw [reads]; simp)
          (by
            have := sound.core.reserved
            omega)
          (by rw [turned.copy]; rfl) (by rw [turned.copy]; rfl) (by rw [turned.copy]; rfl)
        flow := fun fine => (sound.flow fine).asked took (by rw [turned.copy]; rfl)
          (by rw [turned.copy]; rfl) (by rw [turned.copy]; rfl)
          (by rw [turned.copy, add_zero]; rfl) (add_zero _).symm
        fed := fun fine positive queued => by
          rw [own_due turned.local_ fun _ => rfl]
          rcases woken with waking | same
          · exact .inr (.inr waking)
          · have same : after.component.computePipe.inFlight =
                before.component.computePipe.inFlight :=
              same
            rw [reads, same]
            refine sound.fed fine positive ?_
            rw [turned.copy] at queued
            exact queued
        filled := fun fine begun short => by
          rw [own_due turned.local_ fun _ => rfl, turned.copy]
          refine sound.filled fine begun ?_
          rw [turned.copy] at short
          exact short }

end Pyramulator.CopyDevice
