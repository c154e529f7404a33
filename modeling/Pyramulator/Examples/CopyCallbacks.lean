import Pyramulator.Examples.CopyEvents

namespace Pyramulator.CopyDevice

open CopyCallback (client)
open CopyCode (filling)
open Simulator (Local)

/-! The engine from one event to the next. -/

variable {setup : DramSetup CopyCallback} {tally : setup.engine.Tally} {args : CopyArgs}
  {fine started : Prop} {device : CopyDevice setup}

/-! ## The refill -/

theorem Flow.produced {issuing : Multiset Int} {computing : Multiset (Int × Int)}
    (flow : Flow tally device issuing computing)
    (more : device.component.produced < device.component.nLines)
    {after : CopyDevice setup} (took : client.Took tally device.memory after.memory 0 0)
    (nLines : after.component.nLines = device.component.nLines)
    (writes : after.component.writesAccepted = device.component.writesAccepted)
    (items : after.component.issueQ.items = device.component.issueQ.items)
    (next : after.component.produced = device.component.produced + 1) :
    Flow tally after
      ((CopyEngine.srcBase + device.component.produced * CopyEngine.cacheline) ::ₘ
        issuing)
        computing where
  nonneg := by
    have := flow.nonneg
    omega
  le nonneg := by omega
  lines := by
    have taken : (after.dram.taken .read : Multiset Int) = 0 + device.dram.taken .read :=
      lines_read took
    rw [next, linesTo_succ flow.nonneg, flow.lines, items, taken, zero_add,
      Multiset.cons_add, Multiset.cons_add]
  stores := by
    have taken : (after.dram.taken .read : Multiset Int) = 0 + device.dram.taken .read :=
      lines_read took
    have given : (after.dram.taken .write : Multiset Int) = 0 +
        device.dram.taken .write :=
      lines_written took
    rw [taken, given, took.reading, zero_add, zero_add, zero_add]
    exact flow.stores
  accepted := by
    have given : (after.dram.taken .write : Multiset Int) = 0 +
        device.dram.taken .write :=
      lines_written took
    have answers : after.sim.due client.stores = 0 + device.sim.due client.stores :=
      took.stored
    have cards := congrArg Multiset.card given
    rw [zero_add] at answers cards
    rw [Multiset.coe_card, Multiset.coe_card] at cards
    rw [writes, answers, cards]
    exact flow.accepted

structure Filling (fine : Prop) (tally : setup.engine.Tally) (args : CopyArgs)
    (device : CopyDevice setup) : Prop where
  core : Core tally args device
  flow : fine → Flow tally device (items .issue device) (items .compute device)
  fed : fine → Fed args device
  issue : fine → Standing .issue device
  compute : fine → Standing .compute device

theorem Filling.between (filling : Filling fine tally args device)
    (done : device.component.produced < args.nLines →
      device.component.issuePipe.full = true) :
    Between fine started tally args device where
  sound :=
    { core := filling.core
      flow := filling.flow
      fed := filling.fed
      filled := fun _ _ short => .inl (done short) }
  issue := filling.issue
  compute := filling.compute

def supplied (device : CopyDevice setup) (sim : Simulator CopyCode) : CopyDevice setup :=
  let after := withPipe .issue device sim { device.component.issuePipe with
    inFlight := device.component.issuePipe.inFlight + 1 }
  { after with component := { after.component with produced := after.component.produced +
    1 } }

theorem Filling.supplied (filling : Filling fine tally args device)
    (more : device.component.produced < device.component.nLines)
    {sim : Simulator CopyCode} (local_ : Local StageView.issue.Own device.sim sim)
    (delivery : sim.due StageView.issue.delivery =
      (CopyEngine.srcBase + device.component.produced * CopyEngine.cacheline) ::ₘ
        device.sim.due StageView.issue.delivery)
    (again : sim.due StageView.issue.again = device.sim.due StageView.issue.again) :
    Filling fine tally args (device.supplied sim) := by
  have local_ : Local StageView.issue.Own device.sim (device.supplied sim).sim := local_
  have took : client.Took tally device.memory (device.supplied sim).memory 0 0 :=
    own_took local_ filling.core rfl
  obtain ⟨others, stands⟩ := own_standing local_ .compute compute_issue rfl
  have items : (device.supplied sim).items .issue =
      (CopyEngine.srcBase + device.component.produced * CopyEngine.cacheline) ::ₘ
        items .issue device := by
    change sim.due StageView.issue.delivery +
      (device.component.issuePipe.stalled : Multiset Int) = _
    rw [delivery, Multiset.cons_add]
    rfl
  exact
    { core := filling.core.asked took
        (by simp [CopyDevice.supplied, withPipe, StageView.issue,
          Stage.issue]) filling.core.reserved rfl rfl rfl
      flow := fun fine => by
        rw [items, others]
        exact (filling.flow fine).produced more took rfl rfl rfl rfl
      fed := fun fine => by
        rw [Fed, own_due local_ fun _ => rfl]
        exact filling.fed fine
      issue := fun fine =>
        have next := ((filling.issue fine).put delivery again).2
        { count := next.count
          armed := next.armed
          wakes := next.wakes }
      compute := fun fine => stands (filling.compute fine) }

theorem fillLoop_ends (left : Nat) (filling : Filling fine tally args device)
    (enough : device.component.nLines - device.component.produced ≤ left) :
    (fillLoop left).Ends device (fun _ after => Between fine started tally args after)
      (Core tally args) := by
  induction left generalizing device with
  | zero =>
      refine .pure (filling.between fun short => ?_)
      rw [← filling.core.nLines] at short
      omega
  | succ left induction =>
      unfold fillLoop
      refine .get (.ite (fun room => ?_) fun done => ?_)
      · refine .bind (R := fun _ middle => ∃ sim, middle = withPipe .issue device sim
            { device.component.issuePipe with inFlight :=
              device.component.issuePipe.inFlight + 1 } ∧
              Filling fine tally args (device.supplied sim))
          (put_ends .issue filling.core.wellFormed _ room.2
            fun sim local_ delivery again =>
            ⟨sim, rfl, filling.supplied room.1 local_ delivery again⟩) ?_
        rintro _ _ ⟨sim, rfl, supplied⟩
        refine .modify (induction supplied ?_)
        change device.component.nLines - (device.component.produced + 1) ≤ left
        omega
      · refine .pure (filling.between fun short => ?_)
        rw [← filling.core.nLines] at short
        cases full : device.component.issuePipe.full with
        | true => rfl
        | false => exact absurd ⟨short, full⟩ done

theorem fillIssue_ends (filling : Filling fine tally args device) :
    fillIssue.Ends device (fun _ after => Between fine started tally args after)
      (Core tally args) :=
  .get (fillLoop_ends _ filling (Int.self_le_toNat _))

/-! ## The answers of the DRAM -/

/-- The engine between two events, but for lines in its queue that wait for no event. -/
structure Unfed (fine started : Prop) (tally : setup.engine.Tally) (args : CopyArgs)
    (device : CopyDevice setup) : Prop where
  core : Core tally args device
  flow : fine → Flow tally device (items .issue device) (items .compute device)
  filled : fine → Filled args started device
  issue : fine → Standing .issue device
  compute : fine → Standing .compute device

section Answers

variable (rejects : ∀ {state request}, setup.engine.Reaches (fun _ => True) state →
  request.type = .read → (setup.engine.send state request).1 = false →
    tally.reads state ≠ 0)
include rejects

theorem Unfed.pumped (unfed : Unfed fine started tally args device) :
    pumpReads.Ends device (fun _ after => Between fine started tally args after)
      (Core tally args) := by
  refine (pumpReads_ends rejects unfed.core).mono ?_ fun _ carried => carried.core
  rintro _ after ⟨carried, fed⟩
  exact
    { sound :=
        { core := carried.core
          flow := fun fine => by
            rw [carried.items, carried.items]
            exact carried.flow _ _ (unfed.flow fine)
          fed := fun _ => fed
          filled := fun fine => carried.filled (unfed.filled fine) }
      issue := fun fine => carried.standing (unfed.issue fine)
      compute := fun fine => carried.standing (unfed.compute fine) }

def landed (device : CopyDevice setup) : CopyDevice setup :=
  { device with component := { device.component with
      readsInflight := device.component.readsInflight - 1 } }

theorem onLoad_ends (info : RequestInfo) (core : Core tally args device.landed)
    (room : device.landed.component.readsInflight +
      device.component.computePipe.inFlight <
      device.component.computePipe.slots)
    (flow : fine → Flow tally device.landed (items .issue device)
      ((info.addr, CopyEngine.dst info.addr) ::ₘ items .compute device))
    (filled : fine → Filled args started device.landed)
    (issue : fine → Standing .issue device.landed)
    (compute : fine → Standing .compute device.landed) :
    (onLoad info).Ends device (fun _ after => Between fine started tally args after)
      (Core tally args) := by
  unfold onLoad
  refine .modify (.bind (drainHeldCompute_ends core.held) ?_)
  rintro _ _ rfl
  have notFull : device.landed.component.computePipe.full = false := by
    have := core.nonneg
    rw [Pipe.full, decide_eq_false_iff_not]
    change ¬ device.component.computePipe.slots ≤ device.component.computePipe.inFlight
    omega
  refine .bind (R := fun accepted middle => accepted = true ∧
    Unfed fine started tally args middle) (put_ends .compute core.wellFormed _ notFull
      fun sim local_ delivery again => ⟨rfl, ?_⟩) ?_
  · have local_ : Local StageView.compute.Own device.landed.sim
        (withPipe .compute device.landed sim
          { StageView.compute.pipe device.landed.component with
          inFlight :=
            (StageView.compute.pipe device.landed.component).inFlight + 1 }).sim := local_
    have took := own_took local_ core rfl
    obtain ⟨others, stands⟩ := own_standing local_ .issue issue_compute rfl
    exact
      { core := core.asked took (by simp [withPipe, StageView.compute, Stage.compute])
          (by
            change device.landed.component.readsInflight +
              (device.component.computePipe.inFlight + 1) ≤
                device.component.computePipe.slots
            omega) rfl rfl rfl
        flow := fun fine => by
          rw [others, ((compute fine).put delivery again).1]
          exact (flow fine).asked took rfl rfl rfl (add_zero _).symm (add_zero _).symm
        filled := fun fine => by
          rw [Filled, own_due local_ fun _ => rfl]
          exact filled fine
        issue := fun fine => stands (issue fine)
        compute := fun fine => ((compute fine).put delivery again).2 }
  · rintro _ middle ⟨rfl, unfed⟩
    exact unfed.pumped rejects

def credited (device : CopyDevice setup) : CopyDevice setup :=
  { device with component := { device.component with
      writesAccepted := device.component.writesAccepted + 1 } }

theorem onStoreAccepted_ends (unfed : Unfed fine started tally args device.credited) :
    onStoreAccepted.Ends device (fun _ after => Between fine started tally args after)
      (Core tally args) :=
  .modify (unfed.pumped rejects)

end Answers

/-! ## Events -/

theorem Between.went (between : Between fine started tally args device)
    {after : CopyDevice setup} (took : client.Took tally device.memory after.memory 0 0)
    (local_ : Local (DramCode.Owned ()) device.sim after.sim)
    (copy : after.component = device.component) :
    Between fine started tally args after := by
  have carried : Carried tally args device after :=
    { core := between.sound.core.asked took (by simp [copy])
        (by rw [copy]; exact between.sound.core.reserved)
        (by rw [copy]) (by rw [copy]) (by rw [copy])
      local_ := local_.mono fun _ => .inl
      filling := by
        rw [show after.sim.due filling = device.sim.due filling from
          local_.due filling_owned]
        exact id
      issuePipe := by rw [copy]
      computePipe := by rw [copy]
      produced := by rw [copy]
      flow := fun issuing computing flow =>
        flow.asked took (by rw [copy]) (by rw [copy]) (by rw [copy])
          (by rw [copy, add_zero])
          (add_zero _).symm }
  have answers : after.sim.due client.stores = 0 + device.sim.due client.stores :=
    took.stored
  rw [zero_add] at answers
  exact
    { sound :=
        { core := carried.core
          flow := fun fine => by
            rw [carried.items, carried.items]
            exact carried.flow _ _ (between.sound.flow fine)
          fed := fun fine => by
            rw [Fed, answers, copy]
            exact between.sound.fed fine
          filled := fun fine => carried.filled (between.sound.filled fine) }
      issue := fun fine => carried.standing (between.issue fine)
      compute := fun fine => carried.standing (between.compute fine) }

section Fired

variable {event : Event CopyCode} (next : device.sim.peek.1 = some event)
include next

theorem Sound.fired {issuing : Multiset Int} {computing : Multiset (Int × Int)}
    (sound : Sound fine started tally args device issuing computing)
    {tag : CopyEvent} (named : event.callback = .host tag)
    (other : tag ≠ .fillIssue) :
    Sound fine started tally args (device.fired event) issuing computing := by
  have took : client.Took tally device.memory (device.fired event).memory 0 0 :=
    sound.core.attended.hosted (.fired sound.core.wellFormed next ⟨tag, named⟩)
  have answers :
      (device.fired event).sim.due client.stores = device.sim.due client.stores :=
    Simulator.due_fired_none next (by rw [named]; rfl)
  have refills : (device.fired event).sim.due filling = device.sim.due filling :=
    Simulator.due_fired_none next (by
      rw [named]
      cases tag <;> first | rfl | exact absurd rfl other)
  exact
    { core := sound.core.asked took (by simp [Board.fired])
        sound.core.reserved rfl rfl rfl
      flow := fun fine =>
        (sound.flow fine).asked took rfl rfl rfl (add_zero _).symm (add_zero _).symm
      fed := fun fine => by
        rw [Fed, answers]
        exact sound.fed fine
      filled := fun fine => by
        rw [Filled, refills]
        exact sound.filled fine }

theorem Standing.fired {ι : Type} (view : StageView ι)
    (other : view.event event.callback = none) (after : CopyDevice setup)
    (sim : after.sim = device.sim.fireNext event)
    (pipe : view.pipe after.component = view.pipe device.component) :
    items view after = items view device ∧
      (Standing view device → Standing view after) := by
  refine Standing.congr pipe ?_ ?_
  all_goals rw [sim]
  · exact Simulator.due_fired_none next (by rw [StageView.delivery, other]; rfl)
  · exact Simulator.due_fired_none next (by rw [StageView.again, other]; rfl)

theorem Standing.delivering {ι : Type} (view : StageView ι) {item : ι}
    (named : event.callback = .host (view.closure (.deliver item))) :
    items view device = item ::ₘ items view (device.fired event) ∧
      (Standing view device → Counted view (device.fired event) {item}) := by
  have delivery : view.delivery event.callback = some item := by
    rw [StageView.delivery, named, view.event_closure]
    rfl
  have again : view.again event.callback = none := by
    rw [StageView.again, named, view.event_closure]
    rfl
  have items : items view device = item ::ₘ items view (device.fired event) := by
    rw [items, Simulator.due_fired_some next delivery, Multiset.cons_add]
    rfl
  refine ⟨items, fun standing => ?_⟩
  have count := standing.count
  rw [zero_add, items, ← Multiset.singleton_add] at count
  exact
    { count
      armed := by
        rw [show (device.fired event).sim.due view.again = device.sim.due view.again from
          Simulator.due_fired_none next again]
        exact standing.armed }

theorem Standing.retrying {ι : Type} (view : StageView ι)
    (named : event.callback = .host (view.closure .retry)) :
    items view (device.fired event) = items view device := by
  have delivery : view.delivery event.callback = none := by
    rw [StageView.delivery, named, view.event_closure]
    rfl
  rw [items, items, show (device.fired event).sim.due view.delivery =
    device.sim.due view.delivery from Simulator.due_fired_none next delivery]
  rfl

theorem Between.completion (between : Between fine started tally args device)
    {answered : CopyCallback} {info : RequestInfo}
    (named : event.callback = .dram () (.completion answered info)) :
    client.Attended tally (device.fired event).memory ∧
      (∀ {ι : Type} {view : StageView ι}, view.event event.callback = none) ∧
      (device.fired event).sim.due filling = device.sim.due filling := by
  have core := between.sound.core
  have unpiped : event.callback.Unpiped := .inl ⟨_, named⟩
  refine ⟨?_, fun {_ view} => view.event_unpiped _ unpiped, ?_⟩
  · refine core.attended.moved (Local.fired core.wellFormed next rfl) ?_ ?_
    · rw [named]
      rintro ⟨⟩
    · rw [named]
      rintro ⟨⟩
  · exact Simulator.due_fired_none next (by rw [named]; rfl)

section Answers

variable (rejects : ∀ {state request}, setup.engine.Reaches (fun _ => True) state →
  request.type = .read → (setup.engine.send state request).1 = false →
    tally.reads state ≠ 0)
include rejects

theorem Between.load (between : Between fine started tally args device) {object : Nat}
    {info : RequestInfo}
    (named : event.callback = .dram () (.completion (.onLoad object) info)) :
    (onLoad info).Ends (device.fired event)
      (fun _ after => Between fine started tally args after) (Core tally args) := by
  have core := between.sound.core
  obtain ⟨attended, unpiped, refills⟩ := between.completion next named
  obtain ⟨issuing, issue⟩ := Standing.fired next .issue unpiped
    (landed (device.fired event)) rfl rfl
  obtain ⟨computing, compute⟩ := Standing.fired next .compute unpiped
    (landed (device.fired event)) rfl rfl
  have loads : device.sim.due client.loads =
      info.addr ::ₘ (device.fired event).sim.due client.loads :=
    Simulator.due_fired_some next (by rw [named]; rfl)
  have answers :
      (device.fired event).sim.due client.stores = device.sim.due client.stores :=
    Simulator.due_fired_none next (by rw [named]; rfl)
  have reads : client.reading tally device.memory =
      info.addr ::ₘ client.reading tally (device.fired event).memory := by
    rw [Client.reading, Client.reading, ← Multiset.add_cons]
    exact congrArg _ loads
  have inflight := core.inflight
  rw [reads, Multiset.card_cons] at inflight
  have reserved := core.reserved
  have arrived : Core tally args (landed (device.fired event)) :=
    { wellFormed := core.wellFormed.fireNext next
      attended
      inflight := by
        change device.component.readsInflight - 1 =
          (client.reading tally (device.fired event).memory).card
        omega
      reserved := by
        change device.component.readsInflight - 1 +
          device.component.computePipe.inFlight ≤
          device.component.computePipe.slots
        omega
      held := core.held
      nLines := core.nLines
      maxOutstanding := core.maxOutstanding }
  refine onLoad_ends rejects info arrived ?_ (fun fine => ?_) (fun fine => ?_)
    (fun fine => issue (between.issue fine)) (fun fine => compute (between.compute fine))
  · change device.component.readsInflight - 1 + device.component.computePipe.inFlight <
      device.component.computePipe.slots
    omega
  · have flow := between.sound.flow fine
    rw [← issuing, ← computing] at flow
    exact
      { nonneg := flow.nonneg
        le := flow.le
        lines := flow.lines
        stores := by
          have stores := flow.stores
          rw [reads, Multiset.map_cons] at stores
          rw [Multiset.map_cons, Multiset.add_cons, ← Multiset.cons_add]
          exact stores
        accepted := by
          rw [show (landed (device.fired event)).sim.due client.stores =
            device.sim.due client.stores from answers]
          exact flow.accepted }
  · rw [Filled, show (landed (device.fired event)).sim.due filling =
      device.sim.due filling from
      refills]
    exact between.sound.filled fine

theorem Between.store (between : Between fine started tally args device) {object : Nat}
    {info : RequestInfo}
    (named : event.callback = .dram () (.completion (.onStoreAccepted object) info)) :
    onStoreAccepted.Ends (device.fired event)
      (fun _ after => Between fine started tally args after) (Core tally args) := by
  have core := between.sound.core
  obtain ⟨attended, unpiped, refills⟩ := between.completion next named
  obtain ⟨issuing, issue⟩ := Standing.fired next .issue unpiped
    (credited (device.fired event)) rfl rfl
  obtain ⟨computing, compute⟩ := Standing.fired next .compute unpiped
    (credited (device.fired event)) rfl rfl
  have loads : (device.fired event).sim.due client.loads = device.sim.due client.loads :=
    Simulator.due_fired_none next (by rw [named]; rfl)
  have answers : device.sim.due client.stores =
      info.addr ::ₘ (device.fired event).sim.due client.stores :=
    Simulator.due_fired_some next (by rw [named]; rfl)
  have reads : client.reading tally (credited (device.fired event)).memory =
      client.reading tally device.memory := by
    rw [Client.reading, Client.reading]
    exact congrArg _ loads
  refine onStoreAccepted_ends rejects ?_
  exact
    { core :=
        { wellFormed := core.wellFormed.fireNext next
          attended
          inflight := by
            rw [reads]
            exact core.inflight
          reserved := core.reserved
          held := core.held
          nLines := core.nLines
          maxOutstanding := core.maxOutstanding }
      flow := fun fine => by
        have flow := between.sound.flow fine
        rw [← issuing, ← computing] at flow
        exact
          { nonneg := flow.nonneg
            le := flow.le
            lines := flow.lines
            stores := by
              rw [reads]
              exact flow.stores
            accepted := by
              have accepted := flow.accepted
              rw [answers, Multiset.card_cons] at accepted
              change device.component.writesAccepted + 1 +
                ((device.fired event).sim.due client.stores).card =
                  (device.dram.taken .write).length
              omega }
      filled := fun fine => by
        rw [Filled, show (credited (device.fired event)).sim.due filling =
          device.sim.due filling from refills]
        exact between.sound.filled fine
      issue := fun fine => issue (between.issue fine)
      compute := fun fine => compute (between.compute fine) }

/-! ### Pipes -/

theorem Between.issueEvent (between : Between fine started tally args device)
    {closed : PipeEvent Int} (named : event.callback = .host (.issue closed)) :
    (host (.issue closed)).Ends (device.fired event)
      (fun _ after => Between fine started tally args after) (Core tally args) := by
  have sound := between.sound.fired next named (fun impossible => by cases impossible)
  obtain ⟨computing, compute⟩ := Standing.fired next .compute
    (by rw [named]; rfl) (device.fired event) rfl rfl
  rw [← computing] at sound
  cases closed with
  | deliver addr =>
      obtain ⟨items, counted⟩ := Standing.delivering next .issue named
      rw [items] at sound
      refine ((onIssue_serves rejects).deliver_ends
        ⟨sound, fun fine => compute (between.compute fine)⟩
        (fun fine => counted (between.issue fine)) fun fine =>
          (between.issue fine).wakes).mono
        ?_ fun _ core => core
      rintro _ after ⟨⟨sound, compute⟩, issue⟩
      exact ⟨sound, issue, compute⟩
  | retry =>
      have items := Standing.retrying next .issue named
      rw [← items] at sound
      refine ((onIssue_serves rejects).retry_ends (F := fine)
        ⟨sound, fun fine => compute (between.compute fine)⟩ fun fine => ?_).mono
        ?_ fun _ core => core
      · rw [items]
        have count := (between.issue fine).count
        rw [zero_add] at count
        exact count
      · rintro _ after ⟨⟨sound, compute⟩, issue⟩
        exact ⟨sound, issue, compute⟩

end Answers

theorem Between.computeEvent (between : Between fine started tally args device)
    {closed : PipeEvent (Int × Int)} (named : event.callback = .host (.compute closed)) :
    (host (.compute closed)).Ends (device.fired event)
      (fun _ after => Between fine started tally args after) (Core tally args) := by
  have sound := between.sound.fired next named (fun impossible => by cases impossible)
  obtain ⟨issuing, issue⟩ := Standing.fired next .issue
    (by rw [named]; rfl) (device.fired event) rfl rfl
  rw [← issuing] at sound
  cases closed with
  | deliver item =>
      obtain ⟨items, counted⟩ := Standing.delivering next .compute named
      rw [items] at sound
      refine (tryStore_serves.deliver_ends ⟨sound, fun fine => issue (between.issue fine)⟩
        (fun fine => counted (between.compute fine))
        fun fine => (between.compute fine).wakes).mono ?_ fun _ core => core
      rintro _ after ⟨⟨sound, issue⟩, compute⟩
      exact ⟨sound, issue, compute⟩
  | retry =>
      have items := Standing.retrying next .compute named
      rw [← items] at sound
      refine (tryStore_serves.retry_ends (F := fine)
        ⟨sound, fun fine => issue (between.issue fine)⟩ fun fine => ?_).mono
        ?_ fun _ core => core
      · rw [items]
        have count := (between.compute fine).count
        rw [zero_add] at count
        exact count
      · rintro _ after ⟨⟨sound, issue⟩, compute⟩
        exact ⟨sound, issue, compute⟩

theorem Between.refill (between : Between fine started tally args device)
    (named : event.callback = .host .fillIssue) :
    (host .fillIssue).Ends (device.fired event)
      (fun _ after => Between fine started tally args after) (Core tally args) := by
  have core := between.sound.core
  have took : client.Took tally device.memory (device.fired event).memory 0 0 :=
    core.attended.hosted (.fired core.wellFormed next ⟨_, named⟩)
  have answers :
      (device.fired event).sim.due client.stores = device.sim.due client.stores :=
    Simulator.due_fired_none next (by rw [named]; rfl)
  have unpiped : event.callback.Unpiped := .inr named
  obtain ⟨issuing, issue⟩ := Standing.fired next .issue
    (StageView.event_unpiped _ _ unpiped) (device.fired event) rfl rfl
  obtain ⟨computing, compute⟩ := Standing.fired next .compute
    (StageView.event_unpiped _ _ unpiped) (device.fired event) rfl rfl
  refine fillIssue_ends ?_
  exact
    { core := core.asked took (by simp [Board.fired]) core.reserved rfl rfl rfl
      flow := fun fine => by
        rw [issuing, computing]
        exact (between.sound.flow fine).asked took rfl rfl rfl (add_zero _).symm
          (add_zero _).symm
      fed := fun fine => by
        rw [Fed, answers]
        exact between.sound.fed fine
      issue := fun fine => issue (between.issue fine)
      compute := fun fine => compute (between.compute fine) }

end Fired

theorem Between.begin_ends {begun : Prop}
    (between : Between fine begun tally args device) :
    fillIssue.Ends device (fun _ after => Between fine started tally args after)
      (Core tally args) :=
  fillIssue_ends
    { core := between.sound.core
      flow := between.sound.flow
      fed := between.sound.fed
      issue := between.issue
      compute := between.compute }

end Pyramulator.CopyDevice
