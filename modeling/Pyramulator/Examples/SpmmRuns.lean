import Pyramulator.Dram.BoardRuns
import Pyramulator.Examples.SpmmSums

namespace Pyramulator

/-! The runs of the accelerator that is alone on its DRAM. -/

variable {R : Type} [DecidableEq R] [Zero R] [Add R] [Mul R]

def SpmmCallback.client {R : Type} : Client (SpmmCallback R) (SpmmItem R × Int) where
  loaded callback addr := some (callback.item, addr)
  stored _ _ := none
  addr := Prod.snd
  loaded_addr loaded := by
    cases loaded
    rfl
  stored_addr stored := by cases stored

open SpmmCallback (client)

variable {setup : DramSetup (SpmmCallback R)} {tally : setup.engine.Tally}

namespace SpmmBoard

structure Core (tally : setup.engine.Tally) (board : SpmmBoard setup) : Prop where
  wellFormed : board.sim.WellFormed
  attended : client.Attended tally board.memory
  inflight : board.component.inflight = (client.reading tally board.memory).card
  window : board.component.inflight ≤ Spmm.maxInflight
  sent : board.component.sent = (board.dram.taken .read).length

def line (task : SpmmTask R) (item : SpmmItem R) : Int := Spmm.addrOf task.k item.j item.t

/-- Every block of the task is pending, or it is being read, or it was added to the
accumulators. -/
structure Flow (tally : setup.engine.Tally) (tasks : List (SpmmTask R))
    (task : SpmmTask R) (board : SpmmBoard setup) : Prop where
  k : board.component.k = task.k
  image : board.component.image = Spmm.flatten task.dense
  reads : ∀ part ∈ client.reading tally board.memory, part.2 = line task part.1
  places : ∃ done : List (SpmmItem R),
    (Spmm.items task : Multiset (SpmmItem R)) = board.component.pending +
        (client.reading tally board.memory).map Prod.fst + done ∧
      ∀ i c, board.component.acc i c = task.accumulated done i c
  lines : (board.dram.taken .read : Multiset Int) +
      (board.component.pending : Multiset (SpmmItem R)).map (line task) =
    (tasks.flatMap fun task => (Spmm.items task).map (line task) : List Int)

def Fed (board : SpmmBoard setup) : Prop :=
  board.component.pending ≠ [] → 0 < board.component.inflight

def Between (tally : setup.engine.Tally) (fine : Prop) (tasks : List (SpmmTask R))
    (board : SpmmBoard setup) : Prop :=
  Core tally board ∧ (fine → Fed board ∧
    (tasks = [] → board.component.pending = [] ∧ board.dram.taken .read = [] ∧
      client.reading tally board.memory = 0) ∧
      ∀ task, tasks.getLast? = some task → Flow tally tasks task board)

section Asked

variable {board after : SpmmBoard setup} {reads : Multiset (SpmmItem R × Int)}
  (took : client.Took tally board.memory after.memory reads 0)
include took

omit [Zero R] [Add R] [Mul R] in
theorem Core.asked (core : Core tally board)
    (inflight : after.component.inflight = board.component.inflight + reads.card)
    (window : after.component.inflight ≤ Spmm.maxInflight)
    (sent : after.component.sent = board.component.sent + reads.card) :
    Core tally after where
  wellFormed := took.wellFormed
  attended := took.attended
  inflight := by
    rw [inflight, core.inflight, took.reading, Multiset.card_add, add_comm, Nat.cast_add]
  window
  sent := by
    have taken := congrArg Multiset.card took.takenReads
    rw [Multiset.card_add, Multiset.card_map, Multiset.coe_card,
      Multiset.coe_card] at taken
    change after.component.sent = ((after.memory.dram.taken .read).length : Int)
    rw [sent, core.sent, taken]
    push_cast
    exact add_comm _ _

theorem Flow.asked {tasks : List (SpmmTask R)} {task : SpmmTask R}
    (flow : Flow tally tasks task board) (k : after.component.k = board.component.k)
    (image : after.component.image = board.component.image)
    (acc : after.component.acc = board.component.acc)
    (pending : (board.component.pending : Multiset (SpmmItem R)) =
      reads.map Prod.fst + after.component.pending)
    (addrs : ∀ part ∈ reads, part.2 = line task part.1) :
    Flow tally tasks task after where
  k := k.trans flow.k
  image := image.trans flow.image
  reads part member := by
    rw [took.reading] at member
    rcases Multiset.mem_add.mp member with new | old
    · exact addrs part new
    · exact flow.reads part old
  places := by
    obtain ⟨done, places, sums⟩ := flow.places
    refine ⟨done, ?_, by rw [acc]; exact sums⟩
    rw [places, pending, took.reading, Multiset.map_add]
    ac_rfl
  lines := by
    have taken : (after.dram.taken .read : Multiset Int) =
      reads.map Prod.snd + board.dram.taken .read := took.takenReads
    have same : reads.map Prod.snd = (reads.map Prod.fst).map (line task) := by
      rw [Multiset.map_map]
      exact Multiset.map_congr rfl addrs
    rw [← flow.lines, pending, Multiset.map_add, taken, same]
    ac_rfl

end Asked

/-! ## Reads -/

variable {board : SpmmBoard setup} {tasks : List (SpmmTask R)} {fine : Prop}

structure Sent (tally : setup.engine.Tally) (before after : SpmmBoard setup)
    (reads : Multiset (SpmmItem R × Int)) : Prop where
  took : client.Took tally before.memory after.memory reads 0
  component : after.component =
    { before.component with lambdas := before.component.lambdas + 1 }

def issued (rest : List (SpmmItem R)) (board : SpmmBoard setup) : SpmmBoard setup :=
  { board with component := { board.component with
      pending := rest
      inflight := board.component.inflight + 1
      sent := board.component.sent + 1 } }

section Rejects

variable (rejects : ∀ {state request}, setup.engine.Reaches (fun _ => True) state →
  request.type = .read → (setup.engine.send state request).1 = false →
    tally.reads state ≠ 0)
include rejects

omit [Zero R] [Add R] [Mul R] in
theorem read_ends (core : Core tally board) (item : SpmmItem R) :
    (read item).Ends board
      (fun accepted after =>
        Sent tally board after (if accepted = true then
          {(item, Spmm.addrOf board.component.k item.j item.t)} else 0) ∧
          (accepted = false → 0 < board.component.inflight))
      fun after => Sent tally board after 0 := by
  have sent := Client.Attended.read_ends { board with component :=
      { board.component with lambdas := board.component.lambdas + 1 } }
    core.attended core.wellFormed rejects ⟨board.component.lambdas, item⟩
    (Spmm.addrOf board.component.k item.j item.t) rfl rfl
  refine .get (.modify (.bind (sent.mono (fun _ _ both => both) ?_) ?_))
  · rintro after sent
    exact ⟨sent.took, sent.component⟩
  · rintro value after ⟨sent, refused⟩
    refine .pure ⟨⟨sent.took, sent.component⟩, fun rejected => ?_⟩
    rw [core.inflight]
    exact Int.natCast_pos.mpr (Multiset.card_pos.mpr (refused rejected))

theorem issueLoop_ends (pending : List (SpmmItem R))
    (same : board.component.pending = pending) (core : Core tally board)
    (flow : fine → ∀ task, tasks.getLast? = some task → Flow tally tasks task board) :
    (issueLoop pending).Ends board
      (fun _ after => Core tally after ∧ (fine → Fed after ∧
        ∀ task, tasks.getLast? = some task → Flow tally tasks task after))
      (Core tally) := by
  induction pending generalizing board with
  | nil => exact .pure ⟨core, fun holds =>
      ⟨fun nonempty => absurd same nonempty, flow holds⟩⟩
  | cons item rest induction =>
      refine .get (.ite (fun room => ?_) fun full => ?_)
      · refine .bind ((read_ends rejects core item).mono (fun _ _ both => both) ?_) ?_
        · rintro after sent
          exact core.asked sent.took (by simp [sent.component])
            (by rw [sent.component]; exact core.window) (by simp [sent.component])
        · rintro accepted middle ⟨sent, refused⟩
          have fields := sent.component
          cases accepted with
          | true =>
              have one : client.Took tally board.memory (issued rest middle).memory
                {(item, Spmm.addrOf board.component.k item.j item.t)} 0 := sent.took
              refine .ite (fun _ => .modify (induction rfl ?_ fun holds task last => ?_))
                fun impossible => absurd rfl impossible
              · refine core.asked one (by simp [fields]) ?_ (by simp [fields])
                simp only [fields]
                omega
              · have before := flow holds task last
                refine before.asked one (by simp [issued, fields])
                  (by simp [issued, fields])
                  (by simp [issued, fields]) ?_ ?_
                · rw [same, Multiset.map_singleton, Multiset.singleton_add]
                  rfl
                · rintro part member
                  obtain rfl := Multiset.mem_singleton.mp member
                  simp only [line, before.k]
          | false =>
              refine .ite (fun impossible => by cases impossible) fun _ => .pure ⟨?_, ?_⟩
              · exact core.asked sent.took (by simp [fields])
                  (by rw [fields]; exact core.window) (by simp [fields])
              · refine fun holds => ⟨fun _ => ?_, fun task last => ?_⟩
                · rw [fields]
                  exact refused rfl
                · exact (flow holds task last).asked sent.took (by simp [fields])
                    (by simp [fields]) (by simp [fields]) (by simp [fields])
                    fun _ impossible => by cases impossible
      · refine .pure ⟨core, fun holds => ⟨fun _ => ?_, flow holds⟩⟩
        simp only [Spmm.maxInflight] at full
        omega

theorem issue_ends (begun : fine → tasks ≠ []) (core : Core tally board)
    (flow : fine → ∀ task, tasks.getLast? = some task → Flow tally tasks task board) :
    issue.Ends board (fun _ after => Between tally fine tasks after) (Core tally) := by
  refine .get ((issueLoop_ends rejects _ rfl core flow).mono ?_ fun _ core => core)
  rintro _ after ⟨core, kept⟩
  exact ⟨core, fun holds =>
    ⟨(kept holds).1, fun unbegun => absurd unbegun (begun holds), (kept holds).2⟩⟩

theorem onComplete_ends (between : Between tally fine tasks board)
    {event : Event (DramCode Unit (SpmmCallback R) Empty)}
    (next : board.sim.peek.1 = some event)
    {callback : SpmmCallback R} {info : RequestInfo}
    (named : event.callback = .dram () (.completion callback info)) :
    (onComplete callback.item info).Ends (board.fired event)
      (fun _ after => Between tally fine tasks after) (Core tally) := by
  obtain ⟨core, kept⟩ := between
  have reads : client.reading tally board.memory =
      (callback.item, info.addr) ::ₘ client.reading tally (board.fired event).memory :=
    Client.reading_fired next (by rw [named]; rfl)
  have inflight := core.inflight
  rw [reads, Multiset.card_cons] at inflight
  have window := core.window
  have landed (spmm : Spmm R) (left : spmm.inflight = board.component.inflight - 1)
      (sent : spmm.sent = board.component.sent) :
      Core tally { board.fired event with component := spmm } :=
    { wellFormed := core.wellFormed.fireNext next
      attended := core.attended.completed core.wellFormed next named
      inflight := by
        change spmm.inflight =
          ((client.reading tally (board.fired event).memory).card : Int)
        omega
      window := by
        change spmm.inflight ≤ _
        omega
      sent := sent.trans core.sent }
  refine .modify (.get ?_)
  cases taken : Spmm.broadcast
      (block info { board.component with inflight := board.component.inflight - 1 })
      (Spmm.width board.component.k callback.item.t) with
  | error error =>
      simp only [Board.fired, taken]
      exact .raise (landed _ rfl rfl)
  | ok blk =>
      simp only [Board.fired, taken]
      refine .modify (issue_ends rejects (fun holds unbegun => ?_) (landed _ rfl rfl) ?_)
      · have unread := ((kept holds).2.1 unbegun).2.2
        rw [reads] at unread
        exact absurd unread (Multiset.cons_ne_zero)
      · intro holds task last
        have flow := (kept holds).2.2 task last
        obtain ⟨done, places, sums⟩ := flow.places
        rw [reads, Multiset.map_cons] at places
        have listed : callback.item ∈ Spmm.items task := by
          have member : callback.item ∈ (Spmm.items task : Multiset (SpmmItem R)) := by
            rw [places]
            simp
          exact member
        have addr : info.addr = line task callback.item :=
          flow.reads _ (by rw [reads]; exact Multiset.mem_cons_self _ _)
        rw [flow.k] at taken
        exact
          { k := flow.k
            image := flow.image
            reads := fun part member => flow.reads part (by
              rw [reads]
              exact Multiset.mem_cons_of_mem member)
            places := by
              refine ⟨done ++ [callback.item], ?_, fun i c => ?_⟩
              · have more : ((done ++ [callback.item] : List _) : Multiset (SpmmItem R)) =
                    callback.item ::ₘ done :=
                  Multiset.coe_eq_coe.mpr (List.perm_append_singleton _ _)
                rw [places, more]
                change _ = (board.component.pending : Multiset (SpmmItem R)) +
                  (client.reading tally (board.fired event).memory).map Prod.fst +
                    callback.item ::ₘ done
                simp only [Multiset.add_cons, Multiset.cons_add]
              · rw [SpmmTask.accumulated_snoc, ← sums]
                exact SpmmTask.accumulate_acc (task.valid_of_mem listed) flow.image
                  addr taken i c
            lines := flow.lines }

theorem run_ends (between : Between tally fine tasks board)
    (permitted : fine → board.sim.nextTime.1 = none) (task : SpmmTask R) :
    (run task).Ends board (fun _ after => Between tally fine (tasks ++ [task]) after)
      (Core tally) := by
  obtain ⟨core, kept⟩ := between
  refine .modify (issue_ends rejects (fun _ => by simp) ?_ fun holds other last => ?_)
  · exact
      { wellFormed := core.wellFormed
        attended := core.attended
        inflight := core.inflight
        window := core.window
        sent := core.sent }
  · obtain ⟨fed, nothing, flows⟩ := kept holds
    have unread : client.reading tally board.memory = 0 :=
      (core.attended.idle (Simulator.liveEvents_of_idle (permitted holds))).1
    have inflight := core.inflight
    rw [unread, Multiset.card_zero] at inflight
    have empty : board.component.pending = [] := by
      by_contra nonempty
      have positive := fed nonempty
      rw [inflight] at positive
      cases positive
    have earlier : (board.dram.taken .read : Multiset Int) =
        (tasks.flatMap fun task => (Spmm.items task).map (line task) : List Int) := by
      rcases List.eq_nil_or_concat tasks with rfl | ⟨before, latest, rfl⟩
      · rw [(nothing rfl).2.1]
        rfl
      · have lines := (flows latest (by simp)).lines
        rw [empty] at lines
        simpa using lines
    obtain rfl : other = task := by simpa using last.symm
    exact
      { k := rfl
        image := rfl
        reads := fun part member => by
          change part ∈ client.reading tally board.memory at member
          rw [unread] at member
          cases member
        places := by
          refine ⟨[], ?_, fun i c => rfl⟩
          change _ = ((board.component.pending ++ Spmm.items other :
              List (SpmmItem R)) : Multiset (SpmmItem R)) +
            (client.reading tally board.memory).map Prod.fst + 0
          rw [unread, empty]
          simp
        lines := by
          change (board.dram.taken .read : Multiset Int) +
            ((board.component.pending ++ Spmm.items other :
              List (SpmmItem R)) : Multiset (SpmmItem R)).map (line other) = _
          rw [earlier, empty, List.flatMap_append]
          simp }

end Rejects

/-! ## Runs -/

theorem keeps (rejects : ∀ {state request}, setup.engine.Reaches (fun _ => True) state →
      request.type = .read → (setup.engine.send state request).1 = false →
        tally.reads state ≠ 0) :
    (Spmm.firmware setup).Keeps client tally (fun board _ => board.sim.nextTime.1 = none)
      (Between tally) (Core tally) where
  core between := between.1
  failed failed core := ⟨core, fun fine => absurd fine failed⟩
  wellFormed core := core.wellFormed
  attended core := core.attended
  created created empty := by
    have unread := Client.reading_created client tally created empty
    have untaken := created.taken .read
    refine ⟨?_, fun _ =>
      ⟨fun nonempty => absurd rfl nonempty, fun _ => ⟨rfl, untaken, unread⟩, ?_⟩⟩
    · exact
        { wellFormed := created.clock.wellFormed
          attended := .created client tally created
          inflight := (congrArg (fun reads => (Multiset.card reads : Int)) unread).symm
          window := by
            change (0 : Int) ≤ 16
            decide
          sent := by
            simp only [untaken]
            rfl }
    · intro task impossible
      cases impossible
  congr {_ _ board after} between live seq wellFormed := by
    obtain ⟨core, kept⟩ := between
    have reads :
        client.reading tally ({ board with sim := after } : SpmmBoard setup).memory =
        client.reading tally board.memory := Client.reading_congr board.memory live
    refine ⟨?_, fun holds => ?_⟩
    · exact
        { wellFormed
          attended := core.attended.congr live seq
          inflight := by
            rw [reads]
            exact core.inflight
          window := core.window
          sent := core.sent }
    · obtain ⟨fed, nothing, flows⟩ := kept holds
      refine ⟨fed, ?_, fun task last => ?_⟩
      · rw [reads]
        exact nothing
      · have flow := flows task last
        exact
          { k := flow.k
            image := flow.image
            reads := by
              rw [reads]
              exact flow.reads
            places := by
              rw [reads]
              exact flow.places
            lines := flow.lines }
  went {_ _ board after} between took _ := by
    obtain ⟨core, kept⟩ := between
    have took : client.Took tally board.memory
      (⟨after.sim, after.dram, board.component⟩ : SpmmBoard setup).memory 0 0 := took
    refine ⟨core.asked took (add_zero _).symm core.window (add_zero _).symm,
      fun holds => ?_⟩
    obtain ⟨fed, nothing, flows⟩ := kept holds
    refine ⟨fed, fun unbegun => ?_, fun task last => ?_⟩
    · obtain ⟨pending, untaken, unread⟩ := nothing unbegun
      refine ⟨pending, ?_, ?_⟩
      · have taken := took.takenReads
        change ((after.dram.taken .read : List Int) : Multiset Int) =
          0 + (board.dram.taken .read : List Int) at taken
        rw [untaken] at taken
        exact Multiset.coe_eq_zero _ |>.mp taken
      · rw [took.reading, unread]
        rfl
    · refine (flows task last).asked took rfl rfl rfl (zero_add _).symm
        fun part impossible => ?_
      cases impossible
  call {_ _ _ task} permitted between := run_ends rejects between permitted task
  completion between next named := onComplete_ends rejects between next named
  host {_ _ _ _ tag} := tag.elim

omit [Zero R] [Add R] [Mul R] in
theorem read_lawful (item : SpmmItem R) : Board.Lawful (read item : Call setup Bool) :=
  .bind .get fun _ => .bind (.assign _) fun _ =>
    .bind (.onDram (Dram.submit_lawful _ _)) fun _ => .pure _

omit [Zero R] [Add R] [Mul R] in
theorem issueLoop_lawful (pending : List (SpmmItem R)) :
    Board.Lawful (issueLoop pending : Call setup Unit) := by
  induction pending with
  | nil => exact .pure ()
  | cons item rest induction =>
      exact .bind .get fun _ => .ite (.bind (read_lawful item) fun _ =>
        .ite (.bind (.assign _) fun _ => induction) (.pure ())) (.pure ())

omit [Zero R] [Add R] [Mul R] in
theorem issue_lawful : Board.Lawful (issue : Call setup Unit) :=
  .bind .get fun _ => issueLoop_lawful _

theorem onComplete_lawful (item : SpmmItem R) (info : RequestInfo) :
    Board.Lawful (onComplete item info : Call setup Unit) := by
  refine .bind (.assign _) fun _ => .bind .get fun board => ?_
  simp only
  split
  · exact .raise _
  · exact .bind (.assign _) fun _ => issue_lawful

theorem firmware_lawful : (Spmm.firmware setup).Lawful where
  call _ := .bind (.assign _) fun _ => issue_lawful
  completion _ _ := onComplete_lawful _ _
  host tag := tag.elim

/-- `run` returns when no event is left, and so it is not called before. -/
def Blocking (config : Config (boardSystem (Spmm.firmware setup)))
    (decision : Decision (boardSystem (Spmm.firmware setup))) : Prop :=
  ∀ task world, decision = .call (.call task) → config.world = some world →
    world.failed = false → config.sim.nextTime.1 = none

section Results

variable (rejects : ∀ {state request}, setup.engine.Reaches (fun _ => True) state →
    request.type = .read → (setup.engine.send state request).1 = false →
      tally.reads state ≠ 0)
  {config : Config (boardSystem (Spmm.firmware setup))}
  (reached : Transition.Reach Config.advance Blocking (Config.init none) config)
  {world : BoardWorld setup (Spmm R) (SpmmTask R)} (built : config.world = some world)
include rejects reached built

theorem between_events :
    Between tally (world.failed = false) world.calls (world.board config.sim) :=
  (keeps rejects).reach (fun blocking built fine => blocking _ _ rfl built fine)
    firmware_lawful reached built

/-- The window counts the reads that are going on, and it is never exceeded. -/
theorem window_kept :
    world.component.inflight =
        (client.reading tally ⟨config.sim, world.dram⟩).card ∧
      world.component.inflight ≤ 16 ∧
      world.component.sent = (world.dram.taken .read).length := by
  have core := (between_events rejects reached built).1
  exact ⟨core.inflight, core.window, core.sent⟩

/-- The completed blocks were added to the accumulators one after the other, whatever the
sum and the product of the numbers are. If they can be added in any order, the
accumulators hold what every order of the completed blocks comes to. -/
theorem acc_partial (fine : world.failed = false) {task : SpmmTask R}
    (last : world.calls.getLast? = some task) :
    ∃ done : List (SpmmItem R),
      (Spmm.items task : Multiset (SpmmItem R)) = world.component.pending +
          (client.reading tally ⟨config.sim, world.dram⟩).map Prod.fst + done ∧
        (∀ i c, world.component.acc i c = task.accumulated done i c) ∧
          ((∀ a b c : R, a + b + c = a + c + b) → ∀ order, done.Perm order →
            ∀ i c, world.component.acc i c = task.accumulated order i c) := by
  obtain ⟨-, -, flows⟩ := (between_events rejects reached built).2 fine
  obtain ⟨done, places, sums⟩ := (flows task last).places
  exact ⟨done, places, sums, fun swap order perm i c =>
    (sums i c).trans (task.accumulated_perm swap perm i c)⟩

end Results

/-! ## Exact numbers -/

section Exact

variable {R : Type} [DecidableEq R] [CommSemiring R] {setup : DramSetup (SpmmCallback R)}
  {tally : setup.engine.Tally}
  (rejects : ∀ {state request}, setup.engine.Reaches (fun _ => True) state →
    request.type = .read → (setup.engine.send state request).1 = false →
      tally.reads state ≠ 0)
  {config : Config (boardSystem (Spmm.firmware setup))}
  (reached : Transition.Reach Config.advance Blocking (Config.init none) config)
  {world : BoardWorld setup (Spmm R) (SpmmTask R)} (built : config.world = some world)
include rejects reached built

/-- When no event is left, the product is complete. -/
theorem product_complete (fine : world.failed = false) {task : SpmmTask R}
    (last : world.calls.getLast? = some task) (idle : config.sim.nextTime.1 = none) :
    world.component.pending = [] ∧ world.component.inflight = 0 ∧ world.dram.pending = 0 ∧
      Matrix.of (fun (i : Fin task.sparse.rows) (c : Fin task.k) =>
        world.component.acc i c) =
        task.sparse.toMatrix * Matrix.of task.dense ∧
      (world.dram.taken .read).Perm
        (world.calls.flatMap fun task => (Spmm.items task).map (line task)) := by
  obtain ⟨core, kept⟩ := between_events rejects reached built
  obtain ⟨fed, -, flows⟩ := kept fine
  obtain ⟨unread, drained⟩ := core.attended.idle (Simulator.liveEvents_of_idle idle)
  have inflight := core.inflight
  rw [unread, Multiset.card_zero] at inflight
  have pending : world.component.pending = [] := by
    by_contra nonempty
    have positive := fed nonempty
    rw [inflight] at positive
    cases positive
  have flow := flows task last
  have empty : (world.board config.sim).component.pending = [] := pending
  refine ⟨pending, inflight, drained, ?_, ?_⟩
  · obtain ⟨done, places, sums⟩ := flow.places
    rw [unread, empty, Multiset.map_zero, Multiset.coe_nil, zero_add, zero_add] at places
    have perm : done.Perm (Spmm.items task) := (Multiset.coe_eq_coe.mp places).symm
    rw [← SpmmTask.product_eq]
    ext i c
    change (world.board config.sim).component.acc i c = task.product i c
    rw [sums, task.accumulated_perm add_right_comm perm, task.accumulated_eq_sum,
      task.sum_items]
  · have lines := flow.lines
    rw [empty, Multiset.coe_nil, Multiset.map_zero, add_zero] at lines
    exact Multiset.coe_eq_coe.mp lines

end Exact

/-! ### A run -/

def smallSetup : DramSetup (SpmmCallback Int) where
  engine := .twoQueues _ 2 2
  periodPs := 500
  cacheline := 64
  numCores := 1
  completionPriority := 0
  idleRefresh := false
  idleBatchCycles := 1000
  name := "dram"

theorem ptrs_within : ∀ ptr ∈ [0, 1, 3], ptr ≤ 3 := by decide

/-- Three entries in two rows, and one cacheline in each row of the dense matrix. -/
def threeBlocks : SpmmTask Int where
  inner := 2
  k := 16
  sparse :=
    { rowsPtr := [0, 1, 3]
      cols := [1, 0, 1]
      vals := [2, 3, 5]
      some_row := List.cons_ne_nil 0 [1, 3]
      within := ptrs_within
      paired := rfl }
  dense j c := j * 16 + c

def threeBlocksAfter (events : Nat) :
    Config (boardSystem (Spmm.firmware smallSetup)) :=
  Transition.run Config.advance (Config.init none)
    ([.call .build, .call (.call threeBlocks)] ++ List.replicate events .step)

theorem threeBlocks_reach (events : Nat) :
    Transition.Reach Config.advance Blocking (Config.init none)
      (threeBlocksAfter events) := by
  refine Transition.Follows.reach ⟨fun _ _ call => ?_, fun _ _ _ _ _ => rfl, ?_⟩
  · cases call
  · refine Transition.follows_iff.mpr fun first decision rest split task world call => ?_
    have member : decision ∈ List.replicate events .step := by
      change decision ∈ [].append (List.replicate events .step)
      rw [split]
      simp
    rw [List.eq_of_mem_replicate member] at call
    cases call

theorem small_rejects {state : smallSetup.engine.State}
    {request : Request (DramCallback (SpmmCallback Int))} (read : request.type = .read)
    (rejected : (smallSetup.engine.send state request).1 = false) :
    (Engine.twoQueuesTally _ 2 2).reads state ≠ 0 :=
  Engine.twoQueues_rejects Nat.two_pos read rejected

theorem window_kept_threeBlocks : ∃ world, (threeBlocksAfter 1).world = some world ∧
    world.component.inflight =
        (client.reading (Engine.twoQueuesTally _ 2 2)
          ⟨(threeBlocksAfter 1).sim, world.dram⟩).card ∧
      world.component.inflight ≤ 16 ∧
      world.component.sent = (world.dram.taken .read).length := by
  refine exists_checked (fun world => world.component.inflight = 2) ?_
    fun built _ => window_kept (fun _ => small_rejects) (threeBlocks_reach 1) built
  decide +kernel

theorem acc_partial_threeBlocks : ∃ world, (threeBlocksAfter 3).world = some world ∧
    ∃ task, world.calls.getLast? = some task ∧ ∃ done : List (SpmmItem Int),
      (Spmm.items task : Multiset (SpmmItem Int)) = world.component.pending +
          (client.reading (Engine.twoQueuesTally _ 2 2)
            ⟨(threeBlocksAfter 3).sim, world.dram⟩).map Prod.fst + done ∧
        (∀ i c, world.component.acc i c = task.accumulated done i c) ∧
          ∀ order, done.Perm order → ∀ i c,
            world.component.acc i c = task.accumulated order i c := by
  refine exists_checked (fun world => !world.failed && world.calls.getLast?.isSome) ?_
    fun built passed => ?_
  · decide +kernel
  · obtain ⟨fine, called⟩ := Bool.and_eq_true_iff.mp passed
    obtain ⟨task, last⟩ := Option.isSome_iff_exists.mp called
    obtain ⟨done, places, sums, any⟩ := acc_partial (fun _ => small_rejects)
      (threeBlocks_reach 3) built (by simpa using fine) last
    exact ⟨task, last, done, places, sums, any Int.add_right_comm⟩

theorem product_complete_threeBlocks :
    ∃ world, (threeBlocksAfter 5).world = some world ∧
      ∃ task, world.calls.getLast? = some task ∧
        world.component.pending = [] ∧ world.component.inflight = 0 ∧
          world.dram.pending = 0 ∧
        Matrix.of (fun (i : Fin task.sparse.rows) (c : Fin task.k) =>
            world.component.acc i c) = task.sparse.toMatrix * Matrix.of task.dense ∧
        (world.dram.taken .read).Perm
          (world.calls.flatMap fun task => (Spmm.items task).map (line task)) := by
  refine exists_checked (fun world => !world.failed && world.calls.getLast?.isSome) ?_
    fun built passed => ?_
  · decide +kernel
  · obtain ⟨fine, called⟩ := Bool.and_eq_true_iff.mp passed
    obtain ⟨task, last⟩ := Option.isSome_iff_exists.mp called
    exact ⟨task, last, product_complete (fun _ => small_rejects)
      (threeBlocks_reach 5) built
      (by simpa using fine) last (by decide +kernel)⟩

end SpmmBoard

end Pyramulator
