import Mathlib.Data.List.Induction
import Pyramulator.Sim.Accounting
import Pyramulator.Sim.Rule

namespace Pyramulator.Kernel

open Config (firedEvents firedEvents_append)

variable {κ : Type}

/-! Time and the order of events. -/

theorem invariant {P : Simulator κ → List (Event κ) → Prop}
    (congr : ∀ {sim fired} after, P sim fired →
      after.liveEvents = sim.liveEvents → after.seq = sim.seq →
        after.now = sim.now → P after fired)
    (calls : ∀ {sim after fired}, sim.WellFormed → Simulator.Calls sim after →
      P sim fired → P after fired)
    (fire : ∀ {sim fired event}, sim.WellFormed → P sim fired →
      sim.peek.1 = some event → P (sim.fireNext event) (fired ++ [event])) :
    Config.Invariant (S := kernel κ) (fun _ _ => True) (fun _ => True)
      fun sim _ _ fired => P sim fired where
  congr after holds live seq now := congr after holds live seq now
  exec op coherent holds _ :=
    calls coherent.wellFormed (op.exec_calls _) holds
  enter wellFormed _ _ _ _ holds next := fire wellFormed holds next
  resume _ _ _ _ holds := holds
  raise _ _ _ holds := holds
  step _ := trivial
  run _ := trivial
  wait _ := trivial

theorem invariant_after {P : Simulator κ → List (Event κ) → Prop}
    (rule : Config.Invariant (S := kernel κ) (fun _ _ => True) (fun _ => True)
      fun sim _ _ fired => P sim fired)
    (decisions more : List (Decision (kernel κ)))
    (holds : P (after decisions).sim (firedEvents (after decisions).log)) :
    P (after (decisions ++ more)).sim
      (firedEvents (after (decisions ++ more)).log) := by
  have orderly : ∀ stack : List (Frame (kernel κ)),
      Config.Orderly (fun _ => True) stack := by
    intro stack
    induction stack with
    | nil => trivial
    | cons frame rest induction =>
        cases frame with
        | callback event code => exact induction
        | step => exact ⟨trivial, induction⟩
        | run until_ maxEvents start prevUntil => exact ⟨trivial, induction⟩
        | wait target => exact target.elim
  rw [after, Transition.run_append]
  exact (rule.reach (kernel_lawful κ) (after_coherent decisions)
    ⟨holds, orderly _⟩ (Transition.reach_run _ _ more)).2.1

/-! ## `now` -/

theorem now_le_after (decisions more : List (Decision (kernel κ))) :
    (after decisions).sim.now ≤ (after (decisions ++ more)).sim.now := by
  refine invariant_after
    (P := fun sim _ => (after decisions).sim.now ≤ sim.now) ?_ decisions more
    (le_refl _)
  refine invariant ?_ ?_ ?_
  · intro sim fired after holds _ _ now
    rw [now]
    exact holds
  · intro sim after fired _ calls holds
    exact holds.trans calls.now_le
  · intro sim fired event wellFormed holds next
    exact holds.trans (wellFormed.next_least next).2.1

/-! ## Insertion order -/

/-- The first event may fire before the second: it is earlier or, at the same
time and priority, was scheduled first. -/
def Precedes (first second : Event κ) : Prop :=
  first.time < second.time ∨ first.time = second.time ∧
    (first.priority = second.priority → first.seq < second.seq)

theorem precedes_of_key_lt {first second : Event κ}
    (before : first.key < second.key) : Precedes first second := by
  rcases Event.key_lt_iff.mp before with earlier | ⟨sameTime, rest⟩
  · exact .inl earlier
  · refine .inr ⟨sameTime, fun samePriority => ?_⟩
    omega

/-- What has fired precedes what has fired since and what is still to fire. -/
structure InOrder (sim : Simulator κ) (fired : List (Event κ)) : Prop where
  pairwise : fired.Pairwise Precedes
  live : ∀ first ∈ fired, ∀ second ∈ sim.liveEvents, Precedes first second
  past : ∀ event ∈ fired, event.seq < sim.seq ∧ event.time ≤ sim.now

theorem inOrder_rule :
    Config.Invariant (S := kernel κ) (fun _ _ => True) (fun _ => True)
      fun sim _ _ fired => InOrder sim fired := by
  refine invariant ?_ ?_ ?_
  · intro sim fired after holds live seq now
    refine ⟨holds.pairwise, ?_, ?_⟩
    · rw [live]; exact holds.live
    · rw [seq, now]; exact holds.past
  · intro sim after fired wellFormed calls holds
    refine ⟨holds.pairwise, ?_, ?_⟩
    · intro first firedFirst second member
      rcases calls.live_cases wellFormed member with older | ⟨newer, later⟩
      · exact holds.live first firedFirst second older
      · have := holds.past first firedFirst
        by_cases sameTime : first.time = second.time
        · exact .inr ⟨sameTime, fun _ => by omega⟩
        · exact .inl (by omega)
    · intro event member
      have := holds.past event member
      have := calls.now_le
      have := calls.seq_le
      omega
  · intro sim fired event wellFormed holds next
    have least := wellFormed.next_least next
    have liveBefore := Simulator.fireNext_liveEvents next
    have sorted := wellFormed.live_sorted
    rw [liveBefore] at sorted
    refine ⟨?_, ?_, ?_⟩
    · refine List.pairwise_append.mpr
        ⟨holds.pairwise, List.pairwise_singleton _ _, ?_⟩
      intro first firedFirst second same
      rw [List.mem_singleton.mp same]
      exact holds.live first firedFirst event least.1
    · intro first member second live
      rcases List.mem_append.mp member with older | same
      · exact holds.live first older second (by rw [liveBefore]; simp [live])
      · rw [List.mem_singleton.mp same]
        exact precedes_of_key_lt (sorted.head_least live)
    · intro other member
      rw [Simulator.fireNext_seq, Simulator.fireNext_now]
      rcases List.mem_append.mp member with older | same
      · have := holds.past other older
        omega
      · rw [List.mem_singleton.mp same]
        exact ⟨wellFormed.live_fresh event least.1, le_refl _⟩

theorem after_inOrder (decisions : List (Decision (kernel κ))) :
    InOrder (after decisions).sim (firedEvents (after decisions).log) := by
  have initial : InOrder (after ([] : List (Decision (kernel κ)))).sim
      (firedEvents (after ([] : List (Decision (kernel κ)))).log) :=
    ⟨List.Pairwise.nil, fun _ member => (List.not_mem_nil member).elim,
      fun _ member => (List.not_mem_nil member).elim⟩
  exact invariant_after inOrder_rule [] decisions initial

/-! ## Events that wait for one another -/

structure Owns (event : Event κ) (sim : Simulator κ) (fired : List (Event κ)) :
    Prop where
  known : event.seq < sim.seq
  live : ∀ other ∈ sim.liveEvents, other.seq = event.seq → other = event
  fired : ∀ other ∈ fired, other.seq = event.seq → other = event

theorem owns_rule (owner : Event κ) :
    Config.Invariant (S := kernel κ) (fun _ _ => True) (fun _ => True)
      fun sim _ _ fired => Owns owner sim fired := by
  refine invariant ?_ ?_ ?_
  · intro sim fired after holds live seq _
    exact ⟨seq ▸ holds.known, live ▸ holds.live, holds.fired⟩
  · intro sim after fired wellFormed calls holds
    refine ⟨lt_of_lt_of_le holds.known calls.seq_le, ?_, holds.fired⟩
    intro other member same
    rcases calls.live_cases wellFormed member with older | ⟨newer, _⟩
    · exact holds.live other older same
    · have := holds.known
      omega
  · intro sim fired event wellFormed holds next
    have liveBefore := Simulator.fireNext_liveEvents next
    refine ⟨holds.known, ?_, ?_⟩
    · intro other member
      exact holds.live other (by rw [liveBefore]; simp [member])
    · intro other member
      rcases List.mem_append.mp member with older | same
      · exact holds.fired other older
      · rw [List.mem_singleton.mp same]
        exact holds.live event (by rw [liveBefore]; simp)

/-- Once the later event has fired, the earlier one is no longer live and does
not fire any more. -/
structure Passed (earlier later : Event κ) (sim : Simulator κ)
    (fired : List (Event κ)) : Prop where
  known : earlier.seq < sim.seq
  gone : ∀ before since, fired = before ++ later :: since →
    earlier ∉ sim.liveEvents ∧ earlier ∉ since

theorem passed_rule {earlier later : Event κ}
    (order : earlier.key < later.key) :
    Config.Invariant (S := kernel κ) (fun _ _ => True) (fun _ => True)
      fun sim _ _ fired => Passed earlier later sim fired := by
  refine invariant ?_ ?_ ?_
  · intro sim fired after holds live seq _
    exact ⟨seq ▸ holds.known, live ▸ holds.gone⟩
  · intro sim after fired wellFormed calls holds
    refine ⟨lt_of_lt_of_le holds.known calls.seq_le, ?_⟩
    intro before since split
    obtain ⟨notLive, notSince⟩ := holds.gone before since split
    refine ⟨fun member => ?_, notSince⟩
    rcases calls.live_cases wellFormed member with older | ⟨newer, _⟩
    · exact notLive older
    · have := holds.known
      omega
  · intro sim fired event wellFormed holds next
    have liveBefore := Simulator.fireNext_liveEvents next
    have least := wellFormed.next_least next
    refine ⟨holds.known, ?_⟩
    intro before since split
    rcases List.eq_nil_or_concat since with rfl | ⟨initial, last, rfl⟩
    · -- the later event fires now, so no earlier one can be live
      have same : event = later := by
        have := congrArg List.getLast? split
        simpa using this
      subst same
      refine ⟨fun member => ?_, List.not_mem_nil⟩
      have live : earlier ∈ sim.liveEvents := by rw [liveBefore]; simp [member]
      have different : earlier ≠ event := fun same =>
        lt_irrefl _ (same ▸ order)
      exact lt_asymm order (least.2.2 earlier live different)
    · have shape : fired ++ [event] =
          (before ++ later :: initial) ++ [last] := by simpa using split
      obtain ⟨firedBefore, lastSame⟩ := List.append_inj' shape rfl
      have same : event = last := by simpa using lastSame
      obtain ⟨notLive, notSince⟩ := holds.gone before initial firedBefore
      rw [liveBefore] at notLive
      refine ⟨fun member => notLive (by simp [member]), fun member => ?_⟩
      have cases : earlier ∈ initial ∨ earlier = last := by simpa using member
      rcases cases with older | latest
      · exact notSince older
      · exact notLive (by rw [latest, ← same]; simp)

/-! ## One step -/

def UserTurn : List (Frame (kernel κ)) → Prop
  | .run _ _ _ _ :: _ | .wait _ _ _ :: _ => False
  | _ => True

theorem advance_userTurn {config : Config (kernel κ)}
    (turn : UserTurn config.stack) (decision : Decision (kernel κ)) :
    config.advance decision = config.act decision := by
  unfold Config.advance
  split
  · rename_i shape
    rw [shape] at turn
    exact turn.elim
  · rename_i shape
    rw [shape] at turn
    exact turn.elim
  · rfl

def Fires (config : Config (kernel κ)) (event : Event κ) : Prop :=
  event ∈ config.sim.liveEvents ∧ config.sim.now ≤ event.time ∧
    ∀ other ∈ config.sim.liveEvents, other ≠ event → event.key < other.key

theorem advance_log (config : Config (kernel κ)) (coherent : config.Coherent)
    (decision : Decision (kernel κ)) :
    ∃ entries, (config.advance decision).log = config.log ++ entries ∧
      ∀ event now, Entry.fired event now ∈ entries →
        now = event.time ∧ (config.advance decision).sim.now = event.time ∧
          Fires config event := by
  have quiet (after : Config (kernel κ)) (entries : List (Entry (kernel κ)))
      (log : after.log = config.log ++ entries)
      (noneFired : firedEvents entries = []) :
      ∃ entries, after.log = config.log ++ entries ∧
        ∀ event now, Entry.fired event now ∈ entries →
          now = event.time ∧ after.sim.now = event.time ∧
            Fires config event := by
    refine ⟨entries, log, fun event now member => ?_⟩
    have absent : event ∈ firedEvents entries :=
      List.mem_filterMap.mpr ⟨_, member, rfl⟩
    rw [noneFired] at absent
    exact (List.not_mem_nil absent).elim
  have fired (event : Event κ) (rest : List (Frame (kernel κ)))
      (next : config.sim.peek.1 = some event) :
      ∃ entries, (config.fire event rest).log = config.log ++ entries ∧
        ∀ other now, Entry.fired other now ∈ entries →
          now = other.time ∧ (config.fire event rest).sim.now = other.time ∧
            Fires config other := by
    refine ⟨[.fired event event.time], rfl, fun other now member => ?_⟩
    obtain ⟨rfl, rfl⟩ : other = event ∧ now = event.time := by
      simpa using member
    exact ⟨rfl, rfl, coherent.wellFormed.next_least next⟩
  unfold Config.advance
  split
  · rename_i until_ maxEvents start prevUntil rest shape
    simp only [Config.runLoop]
    split
    · exact quiet _ [.ran _] rfl rfl
    · split
      · exact quiet _ [.ran _] rfl rfl
      · rename_i event sim peeked
        split
        · exact quiet _ [.ran _] rfl rfl
        · exact fired event _ (by rw [peeked])
  · rename_i target processed maxEvents rest shape
    exact target.elim
  · cases decision with
    | call op => exact quiet _ [.called op _] rfl rfl
    | step =>
        simp only [Config.act]
        split
        · exact quiet _ [.stepped false] rfl rfl
        · rename_i event sim peeked
          exact fired event _ (by rw [peeked])
    | run until_ maxEvents => exact quiet _ [] (by simp [Config.act]) rfl
    | wait target => exact target.elim
    | answer value =>
        simp only [Config.act]
        split
        · rename_i event code rest shape
          cases rest with
          | nil => exact quiet _ [.returned event] rfl rfl
          | cons frame rest =>
              cases frame with
              | callback other code => exact quiet _ [.returned event] rfl rfl
              | step =>
                  exact quiet _ [.returned event, .stepped true]
                    (List.append_assoc _ _ _) rfl
              | run until_ maxEvents start prevUntil =>
                  exact quiet _ [.returned event] rfl rfl
              | wait target => exact target.elim
        · exact quiet _ [] (by simp) rfl
    | raise error =>
        simp only [Config.act]
        split
        · exact quiet _ [.raised error] rfl rfl
        · exact quiet _ [] (by simp) rfl

/-! ## What was scheduled -/

def Asked (now : Int) (event : Event κ) : KernelOp κ → Prop
  | .schedule delay callback priority _ =>
      event.time = now + delay ∧ event.priority = priority ∧
        event.callback = callback
  | .at_ time callback priority _ =>
      event.time = time ∧ event.priority = priority ∧ event.callback = callback
  | _ => False

/-- User code made this call after `before`, and was given the id. -/
structure Returned (before : List (Decision (kernel κ))) (op : KernelOp κ)
    (eventId : Nat) : Prop where
  turn : UserTurn (after before).stack
  logged : (after (before ++ [.call op])).log =
    (after before).log ++ [.called op (.ok (.eventId eventId))]

theorem after_snoc (decisions : List (Decision (kernel κ)))
    (decision : Decision (kernel κ)) :
    after (decisions ++ [decision]) = (after decisions).advance decision := by
  rw [after, Transition.run_append]
  rfl

theorem after_call {decisions : List (Decision (kernel κ))}
    (turn : UserTurn (after decisions).stack) (op : KernelOp κ) :
    after (decisions ++ [.call op]) = (after decisions).act (.call op) := by
  rw [after_snoc]
  exact advance_userTurn turn _

theorem returned_iff {before : List (Decision (kernel κ))} {op : KernelOp κ}
    {eventId : Nat} : Returned before op eventId ↔
      UserTurn (after before).stack ∧
        (op.exec (after before).sim).1 = .ok (.eventId eventId) := by
  have logged (turn : UserTurn (after before).stack) :
      (after (before ++ [.call op])).log =
        (after before).log ++ [.called op (op.exec (after before).sim).1] := by
    rw [after_call turn]
    rfl
  constructor
  · intro returned
    have same := (logged returned.turn).symm.trans returned.logged
    have entry := List.append_cancel_left same
    refine ⟨returned.turn, ?_⟩
    simpa using entry
  · rintro ⟨turn, result⟩
    exact ⟨turn, result ▸ logged turn⟩

/-- What is live after a call was live before, or the call asked for it and
returned its id. -/
theorem exec_live {sim : Simulator κ} (wellFormed : sim.WellFormed)
    (op : KernelOp κ) {event : Event κ}
    (live : event ∈ (op.exec sim).2.liveEvents) :
    event ∈ sim.liveEvents ∨
      (op.exec sim).1 = .ok (.eventId event.seq) ∧ Asked sim.now event op := by
  cases op with
  | schedule delay callback priority source =>
      simp only [KernelOp.exec, Simulator.schedule] at live ⊢
      split at live
      · exact .inl live
      · rename_i future
        rw [Simulator.push_liveEvents wellFormed, Queue.mem_insert] at live
        rcases live with rfl | older
        · rw [if_neg future]
          exact .inr ⟨rfl, rfl, rfl, rfl⟩
        · exact .inl older
  | at_ time callback priority source =>
      simp only [KernelOp.exec, Simulator.at_] at live ⊢
      split at live
      · exact .inl live
      · rename_i future
        rw [Simulator.push_liveEvents wellFormed, Queue.mem_insert] at live
        rcases live with rfl | older
        · rw [if_neg future]
          exact .inr ⟨rfl, rfl, rfl, rfl⟩
        · exact .inl older
  | cancel eventId =>
      change event ∈ (sim.cancel eventId).2.liveEvents at live
      rw [Simulator.cancel_liveEvents wellFormed] at live
      exact .inl (List.mem_filter.mp live).1
  | nextTime =>
      change event ∈ sim.peek.2.liveEvents at live
      rw [Simulator.peek_liveEvents] at live
      exact .inl live
  | advanceTo time =>
      change event ∈ (sim.advanceTo time).2.liveEvents at live
      rw [Simulator.advanceTo_liveEvents] at live
      exact .inl live

theorem exec_eventId {sim : Simulator κ} (wellFormed : sim.WellFormed)
    {op : KernelOp κ} {eventId : Nat}
    (returned : (op.exec sim).1 = .ok (.eventId eventId)) :
    ∃ event ∈ (op.exec sim).2.liveEvents,
      event.seq = eventId ∧ Asked sim.now event op := by
  have pushed (time : Int) (callback : κ) (priority : Int)
      (source : Option String) : sim.pushed time callback priority ∈
        (sim.push time callback priority source).2.liveEvents := by
    rw [Simulator.push_liveEvents wellFormed]
    exact Queue.mem_insert.mpr (.inl rfl)
  cases op with
  | schedule delay callback priority source =>
      simp only [KernelOp.exec, Simulator.schedule] at returned ⊢
      split at returned
      · cases returned
      · rename_i future
        cases returned
        rw [if_neg future]
        exact ⟨_, pushed _ callback priority source, rfl, rfl, rfl, rfl⟩
  | at_ time callback priority source =>
      simp only [KernelOp.exec, Simulator.at_] at returned ⊢
      split at returned
      · cases returned
      · rename_i future
        cases returned
        rw [if_neg future]
        exact ⟨_, pushed _ callback priority source, rfl, rfl, rfl, rfl⟩
  | cancel eventId => cases returned
  | nextTime => cases returned
  | advanceTo time =>
      change (sim.advanceTo time).1.map _ = _ at returned
      cases result : (sim.advanceTo time).1 with
      | error error =>
          rw [result] at returned
          cases returned
      | ok =>
          rw [result] at returned
          cases returned

theorem advance_live {config : Config (kernel κ)} (coherent : config.Coherent)
    (decision : Decision (kernel κ)) {event : Event κ}
    (live : event ∈ (config.advance decision).sim.liveEvents) :
    event ∈ config.sim.liveEvents ∨
      ∃ op, decision = .call op ∧ UserTurn config.stack ∧
        (op.exec config.sim).1 = .ok (.eventId event.seq) ∧
          Asked config.sim.now event op := by
  have others (other : Decision (kernel κ)) (noCall : ∀ op, other ≠ .call op)
      (live : event ∈ (config.advance other).sim.liveEvents) :
      event ∈ config.sim.liveEvents := by
    obtain ⟨sim, world, effect, shown⟩ := Config.advance_effect config other
    rw [shown.live] at live
    cases effect with
    | silent => exact live
    | called op named => exact absurd named (noCall op)
    | resumed code answer => exact live
    | entered fired fires next =>
        rw [Simulator.fireNext_liveEvents next]
        exact List.mem_cons_of_mem _ live
  by_cases turn : UserTurn config.stack
  · cases decision with
    | call op =>
        rw [advance_userTurn turn] at live
        rcases exec_live coherent.wellFormed op live with older | asked
        · exact .inl older
        · exact .inr ⟨op, rfl, turn, asked⟩
    | step => exact .inl (others _ (fun _ named => by cases named) live)
    | run until_ maxEvents => exact .inl (others _ (fun _ named => by cases named) live)
    | wait target => exact target.elim
    | answer value => exact .inl (others _ (fun _ named => by cases named) live)
    | raise error => exact .inl (others _ (fun _ named => by cases named) live)
  · -- a loop of the kernel goes on, whatever user code would do
    have loop : config.advance decision = config.advance .step := by
      unfold Config.advance
      split
      · rfl
      · rename_i target processed maxEvents rest shape
        exact target.elim
      · rename_i noRun noWait
        refine absurd ?_ turn
        unfold UserTurn
        split
        · rename_i shape
          exact noRun _ _ _ _ _ shape
        · rename_i shape
          exact noWait _ _ _ _ shape
        · trivial
    rw [loop] at live
    exact .inl (others _ (fun _ named => by cases named) live)

theorem advance_fired {config : Config (kernel κ)} (decision : Decision (kernel κ))
    {event : Event κ} (fired : event ∈ firedEvents (config.advance decision).log) :
    event ∈ firedEvents config.log ∨ event ∈ config.sim.liveEvents := by
  rcases Config.advance_cases config decision with ⟨other, rest, next, step⟩ | unfired
  · rw [step, Config.fire_fired] at fired
    rcases List.mem_append.mp fired with older | latest
    · exact .inl older
    · rw [List.mem_singleton.mp latest, Simulator.fireNext_liveEvents next]
      exact .inr List.mem_cons_self
  · rw [unfired] at fired
    exact .inl fired

/-- Every event that fires or is live was asked for by a call that returned its id. -/
theorem scheduled_as (decisions : List (Decision (kernel κ))) {event : Event κ}
    (known : event ∈ firedEvents (after decisions).log ∨
      event ∈ (after decisions).sim.liveEvents) :
    ∃ before op more, decisions = before ++ .call op :: more ∧
      Returned before op event.seq ∧ Asked (after before).sim.now event op := by
  induction decisions using List.reverseRecOn with
  | nil =>
      rcases known with fired | live
      · exact (List.not_mem_nil fired).elim
      · exact (List.not_mem_nil live).elim
  | append_singleton earlier decision induction =>
      have older (known : event ∈ firedEvents (after earlier).log ∨
          event ∈ (after earlier).sim.liveEvents) :
          ∃ before op more, earlier ++ [decision] = before ++ .call op :: more ∧
            Returned before op event.seq ∧ Asked (after before).sim.now event op := by
        obtain ⟨before, op, more, split, returned, asked⟩ := induction known
        refine ⟨before, op, more ++ [decision], ?_, returned, asked⟩
        rw [split, List.append_assoc, List.cons_append]
      rw [after_snoc] at known
      rcases known with fired | live
      · exact older (advance_fired decision fired)
      · rcases advance_live (after_coherent earlier) decision live with
          before | ⟨op, rfl, turn, result, asked⟩
        · exact older (.inr before)
        · exact ⟨earlier, op, [], rfl, returned_iff.mpr ⟨turn, result⟩, asked⟩

theorem fired_ne_live {decisions : List (Decision (kernel κ))} {first second : Event κ}
    (fired : first ∈ firedEvents (after decisions).log)
    (live : second ∈ (after decisions).sim.liveEvents) : first.seq ≠ second.seq := by
  intro same
  have balance := (after_accounted decisions).accounted.nodup_iff.mpr List.nodup_range
  have apart := (List.nodup_append'.mp balance).2.2
  have firedId : first.seq ∈ firedIds (after decisions).log :=
    List.mem_map_of_mem fired
  have liveId : second.seq ∈ liveIds (after decisions).sim :=
    List.mem_map_of_mem live
  exact apart (List.mem_append_left _ firedId) (same ▸ liveId)

theorem owns_live (decisions : List (Decision (kernel κ))) {event : Event κ}
    (live : event ∈ (after decisions).sim.liveEvents) :
    Owns event (after decisions).sim (firedEvents (after decisions).log) := by
  have wellFormed := (after_coherent decisions).wellFormed
  refine ⟨wellFormed.live_fresh event live, ?_, ?_⟩
  · intro other member same
    exact wellFormed.eq_of_seq (Simulator.mem_liveEvents.mp member).1
      (Simulator.mem_liveEvents.mp live).1 same
  · intro other member same
    exact absurd same (fired_ne_live member live)

theorem returned_asked {before more : List (Decision (kernel κ))} {op : KernelOp κ}
    {event : Event κ} (returned : Returned before op event.seq)
    (known : event ∈ firedEvents (after (before ++ .call op :: more)).log ∨
      event ∈ (after (before ++ .call op :: more)).sim.liveEvents) :
    Asked (after before).sim.now event op := by
  obtain ⟨turn, result⟩ := returned_iff.mp returned
  obtain ⟨asked, live, same, told⟩ :=
    exec_eventId (after_coherent before).wellFormed result
  have held : asked ∈ (after (before ++ [.call op])).sim.liveEvents := by
    rw [after_call turn]
    exact live
  have owns := owns_live (before ++ [.call op]) held
  have shape : before ++ .call op :: more = (before ++ [.call op]) ++ more := by simp
  have owned := invariant_after (owns_rule asked) _ more owns
  rw [shape] at known
  rcases known with fired | live
  · rw [owned.fired event fired same.symm]
    exact told
  · rw [owned.live event live same.symm]
    exact told

/-! ## Time and order safety -/

/-- Time and order in the configuration after `decisions`, and in what can
follow it. -/
structure TimeOrder (decisions : List (Decision (kernel κ))) : Prop where
  now_monotone : ∀ more,
    (after decisions).sim.now ≤ (after (decisions ++ more)).sim.now
  nothing_overdue : ∀ event ∈ (after decisions).sim.liveEvents,
    (after decisions).sim.now ≤ event.time
  fires_least : ∀ decision, ∃ entries,
    ((after decisions).advance decision).log = (after decisions).log ++ entries ∧
      ∀ event now, Entry.fired event now ∈ entries →
        now = event.time ∧
          ((after decisions).advance decision).sim.now = event.time ∧
            Fires (after decisions) event
  scheduled_as : ∀ event, event ∈ firedEvents (after decisions).log ∨
      event ∈ (after decisions).sim.liveEvents →
    ∃ before op more, decisions = before ++ .call op :: more ∧
      Returned before op event.seq ∧ Asked (after before).sim.now event op
  returned_asked : ∀ before op more event, decisions = before ++ .call op :: more →
    Returned before op event.seq →
      event ∈ firedEvents (after decisions).log ∨
          event ∈ (after decisions).sim.liveEvents →
        Asked (after before).sim.now event op
  insertion_order : (firedEvents (after decisions).log).Pairwise
    fun first second => first.time = second.time →
      first.priority = second.priority → first.seq < second.seq
  delta_last : UserTurn (after decisions).stack →
    ∀ callback priority source more, ∀ before event since,
      firedEvents (after (decisions ++
        .call (.schedule 0 callback priority source) :: more)).log =
          before ++ event :: since →
      event.seq = (after decisions).sim.seq →
        ∀ other ∈ (after decisions).sim.liveEvents,
          other.time = (after decisions).sim.now → other.priority ≤ priority →
            other ∈ before ∨ other.seq ∈ cancelledIds (after (decisions ++
              .call (.schedule 0 callback priority source) :: more)).log

/-- The first of two events that wait fires, or is cancelled, before the second fires. -/
theorem fires_before {decisions more : List (Decision (kernel κ))}
    {earlier later : Event κ} (order : earlier.key < later.key)
    (earlierLive : earlier ∈ (after decisions).sim.liveEvents)
    (laterLive : later ∈ (after decisions).sim.liveEvents)
    {before since : List (Event κ)}
    (split : firedEvents (after (decisions ++ more)).log = before ++ later :: since) :
    earlier ∈ before ∨ earlier.seq ∈ cancelledIds (after (decisions ++ more)).log := by
  have ownsEarlier := owns_live decisions earlierLive
  have ownsLater := owns_live decisions laterLive
  have passed : Passed earlier later (after decisions).sim
      (firedEvents (after decisions).log) := by
    refine ⟨ownsEarlier.known, fun first last shape => ?_⟩
    have member : later ∈ firedEvents (after decisions).log := by rw [shape]; simp
    exact absurd rfl (fired_ne_live member laterLive)
  have ownsEarlierEnd := invariant_after (owns_rule earlier) _ more ownsEarlier
  have passedEnd := invariant_after (passed_rule order) _ more passed
  obtain ⟨notLive, notSince⟩ := passedEnd.gone before since split
  have known := (after_accounted (decisions ++ more)).accounted.mem_iff.mpr
    (List.mem_range.mpr ownsEarlierEnd.known)
  rw [List.mem_append, List.mem_append] at known
  rcases known with (firedId | cancelledId) | liveId
  · left
    obtain ⟨entry, member, same⟩ := List.mem_map.mp firedId
    obtain rfl := ownsEarlierEnd.fired entry member same
    rw [split] at member
    rcases List.mem_append.mp member with first | later
    · exact first
    · rcases List.mem_cons.mp later with same | last
      · exact absurd (same ▸ order) (lt_irrefl _)
      · exact absurd last notSince
  · exact .inr cancelledId
  · obtain ⟨entry, member, same⟩ := List.mem_map.mp liveId
    obtain rfl := ownsEarlierEnd.live entry member same
    exact absurd member notLive

theorem delta_last (decisions : List (Decision (kernel κ)))
    (turn : UserTurn (after decisions).stack) (callback : κ) (priority : Int)
    (source : Option String) (more : List (Decision (kernel κ)))
    {before since : List (Event κ)} {event other : Event κ}
    (split : firedEvents (after (decisions ++
      .call (.schedule 0 callback priority source) :: more)).log =
        before ++ event :: since)
    (fresh : event.seq = (after decisions).sim.seq)
    (live : other ∈ (after decisions).sim.liveEvents)
    (sameTime : other.time = (after decisions).sim.now)
    (notBehind : other.priority ≤ priority) :
    other ∈ before ∨ other.seq ∈ cancelledIds (after (decisions ++
      .call (.schedule 0 callback priority source) :: more)).log := by
  let request : Decision (kernel κ) :=
    .call (.schedule 0 callback priority source)
  let start := (after decisions).sim
  let delta : Event κ := start.pushed start.now callback priority
  have wellFormed : start.WellFormed := (after_coherent decisions).wellFormed
  have older : other.seq < start.seq := wellFormed.live_fresh other live
  have sim : (after (decisions ++ [request])).sim =
      (start.push start.now callback priority source).2 := by
    rw [after_call turn]
    simp [Config.act, Config.record, KernelOp.exec, Simulator.schedule, start]
  have liveAfter : ∀ entry,
      entry ∈ (after (decisions ++ [request])).sim.liveEvents ↔
        entry = delta ∨ entry ∈ start.liveEvents := by
    intro entry
    rw [sim, Simulator.push_liveEvents wellFormed, Queue.mem_insert]
  have deltaLive := (liveAfter delta).mpr (.inl rfl)
  have order : other.key < delta.key := by
    refine Event.key_lt_iff.mpr (.inr ⟨sameTime, ?_⟩)
    change other.priority < priority ∨
      other.priority = priority ∧ other.seq < start.seq
    omega
  have shape : decisions ++ request :: more = (decisions ++ [request]) ++ more := by
    simp
  change firedEvents (after (decisions ++ request :: more)).log = _ at split
  change _ ∨ _ ∈ cancelledIds (after (decisions ++ request :: more)).log
  rw [shape] at split ⊢
  have owned := invariant_after (owns_rule delta) _ more (owns_live _ deltaLive)
  have isDelta : event = delta := owned.fired event (by rw [split]; simp) fresh
  subst isDelta
  exact fires_before order ((liveAfter other).mpr (.inr live)) deltaLive split

/-- Time never runs back or past a live event, and events fire in the order of
time, priority and insertion, whatever user code does and however deep its
callbacks nest. -/
theorem time_order (decisions : List (Decision (kernel κ))) :
    TimeOrder decisions where
  now_monotone := now_le_after decisions
  nothing_overdue := (after_coherent decisions).wellFormed.future
  fires_least := advance_log _ (after_coherent decisions)
  scheduled_as := fun _ => scheduled_as decisions
  returned_asked := by
    rintro before op more event rfl returned known
    exact returned_asked returned known
  insertion_order := by
    refine (after_inOrder decisions).pairwise.imp ?_
    intro first second precedes sameTime samePriority
    rcases precedes with earlier | ⟨_, inserted⟩
    · omega
    · exact inserted samePriority
  delta_last := by
    intro turn callback priority source more before event since split fresh
      other live sameTime notBehind
    exact delta_last decisions turn callback priority source more split fresh
      live sameTime notBehind

end Pyramulator.Kernel
