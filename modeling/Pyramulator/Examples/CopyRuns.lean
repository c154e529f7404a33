import Pyramulator.Examples.CopyCallbacks
import Pyramulator.Examples.CopyLawful

namespace Pyramulator

open CopyCallback (client)
open CopyCode (filling)
open CopyDevice (Between Core Flow Standing Fed Filled linesTo)
open Simulator (Local)

/-! The runs of a copy engine that is alone on its DRAM. -/

variable {setup : DramSetup CopyCallback} {tally : setup.engine.Tally} {args : CopyArgs}

section Congr

variable {sim after : Simulator CopyCode} {dram : Dram setup.engine} {copy : CopyEngine}
  (live : after.liveEvents = sim.liveEvents) (seq : after.seq = sim.seq)
include live seq

namespace CopyDevice

theorem Between.congr {fine started : Prop}
    (between : Between fine started tally args ⟨sim, dram, copy⟩)
    (wellFormed : after.WellFormed) :
    Between fine started tally args ⟨after, dram, copy⟩ := by
  have due {Part : Type} (part : CopyCode → Option Part) :
      after.due part = sim.due part :=
    Simulator.due_congr live
  have reads : client.reading tally (Board.memory ⟨after, dram, copy⟩) =
      client.reading tally (Board.memory ⟨sim, dram, copy⟩) := by
    rw [Client.reading, Client.reading]
    exact congrArg _ (due client.loads)
  have core := between.sound.core
  have pipe {ι : Type} (view : StageView ι) :
      items view ⟨after, dram, copy⟩ = items view ⟨sim, dram, copy⟩ ∧
        (Standing view ⟨sim, dram, copy⟩ → Standing view ⟨after, dram, copy⟩) :=
    Standing.congr rfl (due _) (due _)
  exact
    { sound :=
        { core :=
            { wellFormed
              attended := core.attended.congr live seq
              inflight := by
                rw [reads]
                exact core.inflight
              reserved := core.reserved
              held := core.held
              nLines := core.nLines
              maxOutstanding := core.maxOutstanding }
          flow := fun fine => by
            have flow := between.sound.flow fine
            rw [(pipe .issue).1, (pipe .compute).1]
            exact
              { nonneg := flow.nonneg
                le := flow.le
                lines := flow.lines
                stores := by
                  rw [reads]
                  exact flow.stores
                accepted := by
                  change _ + ((after.due client.stores).card : Int) = _
                  rw [due client.stores]
                  exact flow.accepted }
          fed := fun fine => by
            have fed := between.sound.fed fine
            rw [Fed] at fed ⊢
            change _ → _ → _ ∨ _ ∨ after.due client.stores ≠ 0
            rw [due client.stores]
            exact fed
          filled := fun fine => by
            have filled := between.sound.filled fine
            rw [Filled] at filled ⊢
            change _ → _ → _ ∨ after.due filling ≠ 0
            rw [due filling]
            exact filled }
      issue := fun fine => (pipe .issue).2 (between.issue fine)
      compute := fun fine => (pipe .compute).2 (between.compute fine) }

end CopyDevice

end Congr

structure CopyEngine.Fresh (args : CopyArgs) (copy : CopyEngine) : Prop where
  nLines : copy.nLines = args.nLines
  maxOutstanding : copy.maxOutstanding = args.maxOutstanding
  counters : copy.produced = 0 ∧ copy.readsInflight = 0 ∧ copy.writesAccepted = 0
  held : copy.heldCompute = []
  queue : copy.issueQ.items = []
  issue : copy.issuePipe.inFlight = 0 ∧ copy.issuePipe.stalled = [] ∧
    copy.issuePipe.retryEid = none
  compute : copy.computePipe.inFlight = 0 ∧ copy.computePipe.stalled = [] ∧
    copy.computePipe.retryEid = none

theorem Fifo.create_ok {ι : Type} {component : Component} {capacity : Int} {fifo : Fifo ι}
    (created : create component capacity = .ok fifo) : fifo.items = [] := by
  simp only [create] at created
  split at created
  · rw [← Except.ok.inj created]
  · cases created

theorem Pipe.create_ok {ι : Type} {component : Component} {latencyCycles slots : Int}
    {pipe : Pipe ι} (created : create component latencyCycles slots = .ok pipe) :
    pipe.inFlight = 0 ∧ pipe.stalled = [] ∧ pipe.retryEid = none := by
  simp only [create] at created
  split at created
  · split at created
    · rw [← Except.ok.inj created]
      exact ⟨rfl, rfl, rfl⟩
    · cases created
  · cases created

theorem CopyEngine.create_fresh {copy : CopyEngine} (created : create args = .ok copy) :
    copy.Fresh args := by
  simp only [create, bind, Except.bind] at created
  split at created
  · cases created
  · rename_i queue queued
    split at created
    · cases created
    · rename_i issue issued
      split at created
      · cases created
      · rename_i compute computed
        obtain rfl := Except.ok.inj created
        exact ⟨rfl, rfl, ⟨rfl, rfl, rfl⟩, rfl, Fifo.create_ok queued,
          Pipe.create_ok issued, Pipe.create_ok computed⟩

theorem CopyEngine.create_positive
    (issue : 1 ≤ args.issueLatency ∧ 1 ≤ args.issueSlots)
    (compute : 1 ≤ args.computeLatency ∧ 1 ≤ args.computeSlots)
    (queue : 1 ≤ args.queueDepth) : ∃ copy, create args = .ok copy := by
  simp only [create, Fifo.create, Pipe.create, dif_pos queue, dif_pos issue.1,
    dif_pos issue.2, dif_pos compute.1, dif_pos compute.2, bind, Except.bind]
  exact ⟨_, rfl⟩

namespace CopyDevice

theorem Between.created {sim : Simulator CopyCode} {made : Dram setup.engine}
    {device : Device CopyCode setup.engine} {copy : CopyEngine} {fine started : Prop}
    (created : Dram.Created True () setup sim made device) (empty : sim.liveEvents = [])
    (fresh : copy.Fresh args) (unstarted : ¬ started) :
    Between fine started tally args ⟨device.sim, device.dram, copy⟩ := by
  have due {Part : Type} {part : CopyCode → Option Part}
      (apart : ∀ code : CopyCode, code.Clock () → part code = none) :
      device.sim.due part = 0 := by
    rw [created.clock.due apart, Simulator.due_of_empty empty]
  obtain ⟨mem, wire⟩ := created.untouched
  have taken (type : RequestType) : device.dram.taken type = [] := by
    rw [Dram.taken, wire]
    rfl
  have reads : client.reading tally device = 0 := by
    rw [Client.reading, mem, tally.fresh, due client.loads_clock]
    rfl
  have unpiped (code : CopyCode) (clock : code.Clock ()) : code.Unpiped :=
    .inl clock.owned
  have pipe {ι : Type} (view : StageView ι) (stalled : (view.pipe copy).stalled = [])
      (inFlight : (view.pipe copy).inFlight = 0)
        (retryEid : (view.pipe copy).retryEid = none) :
      items view ⟨device.sim, device.dram, copy⟩ = 0 ∧
        Standing view ⟨device.sim, device.dram, copy⟩ := by
    have delivery : device.sim.due view.delivery = 0 := by
      apply due
      intro code clock
      rw [StageView.delivery, view.event_unpiped code (unpiped code clock)]
      rfl
    have noItems : items view ⟨device.sim, device.dram, copy⟩ = 0 := by
      rw [items, delivery, stalled]
      rfl
    refine ⟨noItems, ?_⟩
    exact
      { count := by
          rw [noItems, inFlight]
          rfl
        armed := fun set => absurd retryEid set
        wakes := fun nonempty => absurd stalled nonempty }
  obtain ⟨issuing, issue⟩ := pipe .issue fresh.issue.2.1 fresh.issue.1 fresh.issue.2.2
  obtain ⟨computing, compute⟩ :=
    pipe .compute fresh.compute.2.1 fresh.compute.1 fresh.compute.2.2
  have slots := copy.computePipe.slots_pos
  exact
    { sound :=
        { core :=
            { wellFormed := created.clock.wellFormed
              attended := .created client tally created
              inflight := by
                rw [fresh.counters.2.1]
                exact (congrArg (fun lines : Multiset Int => (lines.card : Int))
                  reads).symm
              reserved := by
                rw [fresh.counters.2.1, fresh.compute.1]
                change (0 : Int) + 0 ≤ copy.computePipe.slots
                omega
              held := fresh.held
              nLines := fresh.nLines
              maxOutstanding := fresh.maxOutstanding }
          flow := fun _ =>
            { nonneg := fresh.counters.1.ge
              le := fun nonneg => by
                rw [fresh.counters.1]
                exact nonneg
              lines := by
                rw [issuing, fresh.queue, taken, fresh.counters.1]
                rfl
              stores := by
                rw [computing, taken, taken]
                exact (congrArg (Multiset.map CopyEngine.dst) reads).symm ▸ rfl
              accepted := by
                rw [fresh.counters.2.2, due client.stores_clock, taken]
                rfl }
          fed := fun _ _ queued => absurd fresh.queue queued
          filled := fun _ begun => absurd begun unstarted }
      issue := fun _ => issue
      compute := fun _ => compute }

end CopyDevice

namespace CopyDevice

theorem Core.between {fine started : Prop} {device : CopyDevice setup}
    (core : Core tally args device) (failed : ¬ fine) :
    Between fine started tally args device where
  sound :=
    { core
      flow := fun fine => absurd fine failed
      fed := fun fine => absurd fine failed
      filled := fun fine => absurd fine failed }
  issue := fun fine => absurd fine failed
  compute := fun fine => absurd fine failed

theorem keeps {copy : CopyEngine} (fresh : copy.Fresh args)
    (rejects : ∀ {state request}, setup.engine.Reaches (fun _ => True) state →
      request.type = .read → (setup.engine.send state request).1 = false →
        tally.reads state ≠ 0) :
    (copy.firmware setup).Keeps client tally (fun _ _ => True)
      (fun fine calls device => Between fine (calls ≠ []) tally args device)
      (Core tally args) where
  core between := between.sound.core
  failed failed core := core.between failed
  wellFormed core := core.wellFormed
  attended core := core.attended
  created created empty := .created created empty fresh fun started => started rfl
  congr between live seq wellFormed := Between.congr live seq between wellFormed
  went between took local_ := between.went took local_ rfl
  call _ between := between.begin_ends
  completion {_ _ _ _ callback _} between next named := by
    cases callback with
    | onLoad object => exact between.load next rejects named
    | onStoreAccepted object => exact between.store next rejects named
  host {_ _ _ _ tag} between next named := by
    cases tag with
    | issue closed => exact between.issueEvent next rejects named
    | compute closed => exact between.computeEvent next named
    | fillIssue => exact between.refill next named

end CopyDevice

namespace CopyDevice

theorem Standing.none {ι : Type} {view : StageView ι} {device : CopyDevice setup}
    (standing : Standing view device) (empty : device.sim.liveEvents = []) :
    items view device = 0 ∧ (view.pipe device.component).inFlight = 0 ∧
      (view.pipe device.component).stalled = [] := by
  have stalled : (view.pipe device.component).stalled = [] := by
    by_contra nonempty
    exact standing.armed (standing.wakes nonempty) (Simulator.due_of_empty empty)
  have noItems : items view device = 0 := by
    rw [items, Simulator.due_of_empty empty, stalled]
    rfl
  refine ⟨noItems, ?_, stalled⟩
  rw [standing.count, noItems]
  rfl

structure Copied (args : CopyArgs) (device : CopyDevice setup) : Prop where
  produced : device.component.produced = args.nLines
  writesAccepted : device.component.writesAccepted = args.nLines
  reads : (device.dram.taken .read : Multiset Int) = linesTo args.nLines
  writes : (device.dram.taken .write : Multiset Int) =
    (linesTo args.nLines).map CopyEngine.dst
  queue : device.component.issueQ.items = []
  issue : device.component.issuePipe.inFlight = 0 ∧
    device.component.issuePipe.stalled = []
  compute : device.component.computePipe.inFlight = 0 ∧
    device.component.computePipe.stalled = []
  pending : device.dram.pending = 0

theorem Core.slots {device : CopyDevice setup} (core : Core tally args device) :
    device.component.computeReserved ≤ device.component.computePipe.slots := by
  rw [CopyEngine.computeReserved, core.held]
  simpa using core.reserved

theorem Between.copied {fine started : Prop} {device : CopyDevice setup}
    (between : Between fine started tally args device) (fine_ : fine) (begun : started)
    (nonneg : 0 ≤ args.nLines) (slots : 0 < args.maxOutstanding)
    (empty : device.sim.liveEvents = []) : Copied args device := by
  have core := between.sound.core
  have flow := between.sound.flow fine_
  obtain ⟨issuing, issued, unstalled⟩ := (between.issue fine_).none empty
  obtain ⟨computing, computed, computedAll⟩ := (between.compute fine_).none empty
  obtain ⟨reads, pending⟩ := core.attended.idle empty
  have inflight : device.component.readsInflight = 0 := by
    rw [core.inflight, reads]
    rfl
  have answered : device.sim.due client.stores = 0 := Simulator.due_of_empty empty
  have queue : device.component.issueQ.items = [] := by
    by_contra queued
    rcases between.sound.fed fine_ slots queued with busy | busy | busy
    · omega
    · exact absurd computed busy.ne'
    · exact busy answered
  have produced : device.component.produced = args.nLines := by
    have least := flow.le (core.nLines ▸ nonneg)
    rw [core.nLines] at least
    by_contra other
    rcases between.sound.filled fine_ begun (lt_of_le_of_ne least other) with full | due
    · have full :
          device.component.issuePipe.slots ≤ device.component.issuePipe.inFlight := by
        simpa [Pipe.full] using full
      have positive := device.component.issuePipe.slots_pos
      have noneIssued : device.component.issuePipe.inFlight = 0 := issued
      omega
    · exact due (Simulator.due_of_empty empty)
  have read : (device.dram.taken .read : Multiset Int) = linesTo args.nLines := by
    have lines := flow.lines
    rw [issuing, queue, produced] at lines
    simpa using lines.symm
  have written : (device.dram.taken .write : Multiset Int) =
      (linesTo args.nLines).map CopyEngine.dst := by
    have stores := flow.stores
    rw [reads, computing, read] at stores
    simpa using stores.symm
  have accepted : device.component.writesAccepted = args.nLines := by
    have count := flow.accepted
    have length : (device.dram.taken .write).length = args.nLines.toNat := by
      have card := congrArg Multiset.card written
      simpa [linesTo] using card
    rw [answered, length] at count
    simp only [Multiset.card_zero] at count
    omega
  exact
    { produced
      writesAccepted := accepted
      reads := read
      writes := written
      queue
      issue := ⟨issued, unstalled⟩
      compute := ⟨computed, computedAll⟩
      pending }

end CopyDevice

namespace CopyDevice

section Results

variable {copy : CopyEngine} (created : CopyEngine.create args = .ok copy)
  (rejects : ∀ {state request}, setup.engine.Reaches (fun _ => True) state →
    request.type = .read → (setup.engine.send state request).1 = false →
      tally.reads state ≠ 0)
  {config : Config (boardSystem (copy.firmware setup))}
  (reached : Transition.Reach Config.advance (fun _ _ => True) (Config.init none) config)
  {world : BoardWorld setup CopyEngine CopyOp} (built : config.world = some world)
include created rejects reached built

theorem between_events :
    Between (world.failed = false)
      (world.calls ≠ []) tally args (world.board config.sim) :=
  (keeps (CopyEngine.create_fresh created) rejects).reach (fun _ _ _ => trivial)
    copy.firmware_lawful reached built

/-- Every load that is in flight has a slot of the compute pipe, also after a method
raised. -/
theorem slots_reserved :
    world.component.computeReserved ≤ world.component.computePipe.slots ∧
      world.component.heldCompute = [] := by
  have core := (between_events created rejects reached built).sound.core
  exact ⟨core.slots, core.held⟩

/-- Unless a method raised, no line is lost or copied twice on its way. -/
theorem lines_conserved (fine : world.failed = false) :
    let device : CopyDevice setup := world.board config.sim
    linesTo world.component.produced =
        items .issue device + world.component.issueQ.items + world.dram.taken .read ∧
      (world.dram.taken .read : Multiset Int).map CopyEngine.dst =
        (client.reading tally device.memory).map CopyEngine.dst +
          (items .compute device).map Prod.snd + world.dram.taken .write ∧
      world.component.readsInflight = (client.reading tally device.memory).card ∧
      world.component.issuePipe.inFlight = (items .issue device).card ∧
      world.component.computePipe.inFlight = (items .compute device).card := by
  intro device
  have between := between_events created rejects reached built
  have flow := between.sound.flow fine
  have issue := (between.issue fine).count
  have compute := (between.compute fine).count
  rw [zero_add] at issue compute
  exact ⟨flow.lines, flow.stores, between.sound.core.inflight, issue, compute⟩

/-- When `run` was called, nothing raised, and no event is left, the copy is complete. -/
theorem copy_complete (fine : world.failed = false) (begun : world.calls ≠ [])
    (nonneg : 0 ≤ args.nLines) (slots : 0 < args.maxOutstanding)
    (idle : config.sim.nextTime.1 = none) : Copied args (world.board config.sim) :=
  (between_events created rejects reached built).copied fine begun nonneg slots
    (Simulator.liveEvents_of_idle idle)

end Results

/-- The engine may reject writes as it likes, and a read while another one is in
flight. That `run` returned is that it was called and nothing raised. -/
theorem neither_drops_nor_duplicates
    (issue : 1 ≤ args.issueLatency ∧ 1 ≤ args.issueSlots)
    (compute : 1 ≤ args.computeLatency ∧ 1 ≤ args.computeSlots)
    (queue : 1 ≤ args.queueDepth) (window : 1 ≤ args.maxOutstanding)
    (nonneg : 0 ≤ args.nLines)
    (rejects : ∀ {state request}, setup.engine.Reaches (fun _ => True) state →
      request.type = .read → (setup.engine.send state request).1 = false →
        tally.reads state ≠ 0) :
    ∃ copy, CopyEngine.create args = .ok copy ∧
      ∀ {config : Config (boardSystem (copy.firmware setup))},
        Transition.Reach Config.advance (fun _ _ => True) (Config.init none) config →
          ∀ {world : BoardWorld setup CopyEngine CopyOp}, config.world = some world →
            (world.component.computeReserved ≤ world.component.computePipe.slots ∧
              world.component.heldCompute = []) ∧
            (world.calls ≠ [] → world.failed = false →
              config.sim.nextTime.1 = none → Copied args (world.board config.sim)) := by
  obtain ⟨copy, created⟩ := CopyEngine.create_positive issue compute queue
  refine ⟨copy, created, fun reached world built => ?_⟩
  have between := between_events created rejects reached built
  have core := between.sound.core
  refine ⟨⟨core.slots, core.held⟩, fun begun fine idle => ?_⟩
  exact between.copied fine begun nonneg (by omega) (Simulator.liveEvents_of_idle idle)

def narrowSetup : DramSetup CopyCallback where
  engine := .twoQueues _ 2 1
  periodPs := 500
  cacheline := 64
  numCores := 1
  completionPriority := 0
  idleRefresh := false
  idleBatchCycles := 1000
  name := "dram"

def threeLines : CopyArgs where
  nLines := 3
  issueLatency := 1
  computeLatency := 1
  issueSlots := 1
  computeSlots := 1
  queueDepth := 1
  maxOutstanding := 1

def threeLinesAfter (events : Nat) (copy : CopyEngine) :
    Config (boardSystem (copy.firmware narrowSetup)) :=
  Transition.run Config.advance (Config.init none)
    ([.call .build, .call (.call .run)] ++ List.replicate events .step)

theorem threeLines_reach (events : Nat) (copy : CopyEngine) :
    Transition.Reach Config.advance (fun _ _ => True) (Config.init none)
      (threeLinesAfter events copy) :=
  Transition.reach_run _ _ _

theorem narrow_rejects {state : narrowSetup.engine.State}
    {request : Request (DramCallback CopyCallback)} (read : request.type = .read)
    (rejected : (narrowSetup.engine.send state request).1 = false) :
    (Engine.twoQueuesTally _ 2 1).reads state ≠ 0 :=
  Engine.twoQueues_rejects Nat.one_pos read rejected

/-- The second line stalls in front of the queue while the first one is stored. -/
theorem slots_reserved_threeLines : ∃ copy, CopyEngine.create threeLines = .ok copy ∧
    ∃ world, (threeLinesAfter 8 copy).world = some world ∧
      world.component.computeReserved ≤ world.component.computePipe.slots ∧
        world.component.heldCompute = [] := by
  refine ⟨_, rfl, exists_checked (fun world => world.component.issueStalls = 1) ?_
    fun built _ => slots_reserved (rfl : CopyEngine.create threeLines = _)
      (fun _ => narrow_rejects) (threeLines_reach 8 _) built⟩
  decide +kernel

theorem lines_conserved_threeLines : ∃ copy, CopyEngine.create threeLines = .ok copy ∧
    ∃ world, (threeLinesAfter 8 copy).world = some world ∧
      let device : CopyDevice narrowSetup :=
        world.board (threeLinesAfter 8 copy).sim
      linesTo world.component.produced =
          items .issue device + world.component.issueQ.items + world.dram.taken .read ∧
        (world.dram.taken .read : Multiset Int).map CopyEngine.dst =
          (client.reading (Engine.twoQueuesTally _ 2 1) device.memory).map
            CopyEngine.dst +
            (items .compute device).map Prod.snd + world.dram.taken .write ∧
        world.component.readsInflight =
          (client.reading (Engine.twoQueuesTally _ 2 1) device.memory).card ∧
        world.component.issuePipe.inFlight = (items .issue device).card ∧
        world.component.computePipe.inFlight = (items .compute device).card := by
  refine ⟨_, rfl, exists_checked (fun world => !world.failed) ?_
    fun built fine => lines_conserved (rfl : CopyEngine.create threeLines = _)
      (fun _ => narrow_rejects) (threeLines_reach 8 _) built (by simpa using fine)⟩
  decide +kernel

theorem copy_complete_threeLines : ∃ copy, CopyEngine.create threeLines = .ok copy ∧
    ∃ world, (threeLinesAfter 22 copy).world = some world ∧
      Copied threeLines (world.board (threeLinesAfter 22 copy).sim) := by
  refine ⟨_, rfl,
    exists_checked (fun world => !world.failed && decide (world.calls ≠ [])) ?_
    fun built passed => ?_⟩
  · decide +kernel
  · obtain ⟨fine, begun⟩ := Bool.and_eq_true_iff.mp passed
    exact copy_complete rfl (fun _ => narrow_rejects) (threeLines_reach 22 _) built
      (by simpa using fine) (of_decide_eq_true begun) (by decide) (by decide)
        (by decide +kernel)

theorem neither_drops_nor_duplicates_threeLines :
    ∃ copy, CopyEngine.create threeLines = .ok copy ∧
      ∃ world, (threeLinesAfter 22 copy).world = some world ∧
        (world.component.computeReserved ≤ world.component.computePipe.slots ∧
          world.component.heldCompute = []) ∧
          Copied threeLines (world.board (threeLinesAfter 22 copy).sim) := by
  obtain ⟨copy, created, holds⟩ := @neither_drops_nor_duplicates narrowSetup
    (Engine.twoQueuesTally _ 2 1) threeLines (by decide) (by decide) (by decide)
    (by decide) (by decide) fun _ => narrow_rejects
  refine ⟨copy, created, ?_⟩
  obtain rfl := Except.ok.inj created
  refine exists_checked (fun world => !world.failed && decide (world.calls ≠ [])) ?_
    fun built passed => ?_
  · decide +kernel
  · obtain ⟨fine, begun⟩ := Bool.and_eq_true_iff.mp passed
    obtain ⟨safe, complete⟩ := holds (threeLines_reach 22 _) built
    exact ⟨safe, complete (of_decide_eq_true begun) (by simpa using fine)
      (by decide +kernel)⟩

end CopyDevice

end Pyramulator
