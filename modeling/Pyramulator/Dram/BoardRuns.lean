import Pyramulator.Data.Postcondition
import Pyramulator.Dram.Board
import Pyramulator.Dram.Client

namespace Pyramulator

/-! The runs of a component that is alone on its DRAM: what each of its methods keeps,
every run keeps. -/

open Simulator (Local)

variable {γ η C Op Part α β : Type}

namespace Board

variable {setup : DramSetup γ}

def CallsTo (before after : Board η setup C) : Prop :=
  Simulator.Calls before.sim after.sim

theorem CallsTo.refl (board : Board η setup C) : CallsTo board board :=
  Relation.ReflTransGen.refl

theorem CallsTo.trans {first second third : Board η setup C} (one : CallsTo first second)
    (other : CallsTo second third) : CallsTo first third :=
    Relation.ReflTransGen.trans one other

abbrev Lawful (method : Call η setup C α) : Prop := method.Moves CallsTo

namespace Lawful

theorem pure (value : α) : Lawful (pure value : Call η setup C α) :=
  Method.Moves.pure CallsTo.refl value

theorem get : Lawful (.get : Call η setup C (Board η setup C)) :=
  Method.Moves.get CallsTo.refl

theorem raise (error : PyError) : Lawful (.raise error : Call η setup C α) :=
  Method.Moves.raise CallsTo.refl error

theorem bind {method : Call η setup C α} {next : α → Call η setup C β}
    (moves : Lawful method)
    (later : ∀ value, Lawful (next value)) : Lawful (method >>= next) :=
  Method.Moves.bind (fun {_ _ _} one other => one.trans other) moves later

theorem ite {condition : Prop} [Decidable condition] {first second : Call η setup C α}
    (one : Lawful first) (other : Lawful second) :
    Lawful (if condition then first else second) := by
  split
  · exact one
  · exact other

theorem assign (change : C → C) : Lawful (Board.assign change : Call η setup C Unit) :=
  fun _ => CallsTo.refl _

theorem onDram {call : Device.Call (DramCode Unit γ η) setup.engine α}
    (lawful : Device.Lawful call) : Lawful (Board.onDram call : Call η setup C α) :=
  fun board => lawful board.memory

end Lawful

end Board

variable [DecidableEq γ] {setup : DramSetup γ}

structure Firmware.Lawful (firmware : Firmware η setup C Op) : Prop where
  call : ∀ op, Board.Lawful (firmware.call op)
  completion : ∀ callback info, Board.Lawful (firmware.completion callback info)
  host : ∀ tag, Board.Lawful (firmware.host tag)

theorem Firmware.Lawful.callback {firmware : Firmware η setup C Op}
    (lawful : firmware.Lawful)
    (code : DramCode Unit γ η) : Board.Lawful (firmware.callback code) := by
  rcases code with ⟨⟨⟩, closure⟩ | tag
  · cases closure with
    | tick => exact .onDram (Dram.tick_lawful _)
    | idleTick => exact .onDram (Dram.idleTick_lawful _)
    | completion callback info => exact lawful.completion callback info
  · exact lawful.host tag

theorem BoardWorld.lawful {firmware : Firmware η setup C Op} (lawful : firmware.Lawful) :
    (boardSystem firmware).Lawful where
  exec op sim world := by
    cases op with
    | build =>
        have calls :=
          Dram.create_calls (.dram () : DramEvent γ → DramCode Unit γ η) setup sim
        cases world with
        | some world => exact .refl
        | none =>
            simp only [exec]
            split <;> rename_i result <;> rw [result] at calls <;> exact calls
    | call op =>
        cases world with
        | none => exact .refl
        | some world => exact lawful.call op (world.board sim)
  enter code sim world := by
    cases world with
    | none => exact .refl
    | some world =>
        have calls := lawful.callback code (world.board sim)
        change Simulator.Calls sim
          (world.perform (firmware.callback code) sim).2.1 at calls
        simp only [enter]
        split <;> rename_i result <;> rw [result] at calls <;> exact calls
  resume code answer sim world := answer.elim

omit [DecidableEq γ] in
theorem Board.onDram_ends (board : Board η setup C)
    {call : Device.Call (DramCode Unit γ η) setup.engine α} {P : Board η setup C → Prop}
    {called : Except PyError α × Device (DramCode Unit γ η) setup.engine}
    (result : call board.memory = called)
    (holds : P { board with sim := called.2.sim, dram := called.2.dram }) :
    (onDram call).Ends board (fun _ after => P after) P := by
  unfold Method.Ends onDram
  simp only [result]
  obtain ⟨error | value, after⟩ := called <;> exact holds

structure Client.Sent (client : Client γ Part) (tally : setup.engine.Tally)
    (before after : Board η setup C) (reads writes : Multiset Part) : Prop where
  took : client.Took tally before.memory after.memory reads writes
  local_ : Local (DramCode.Owned ()) before.sim after.sim
  component : after.component = before.component

section Requests

variable {client : Client γ Part} {tally : setup.engine.Tally} (board : Board η setup C)
  (attended : client.Attended tally board.memory) (wellFormed : board.sim.WellFormed)
include attended wellFormed

theorem Client.Attended.read_ends (rejects : ∀ {state request},
      setup.engine.Reaches (fun _ => True) state → request.type = .read →
        (setup.engine.send state request).1 = false → tally.reads state ≠ 0)
    (callback : γ) (addr : Int) {part : Part}
    (loaded : client.loaded callback addr = some part)
    (unstored : client.stored callback addr = none) :
    (Board.onDram (Dram.submit (.dram ()) (.read addr (some callback) 0))).Ends board
      (fun value after =>
        client.Sent tally board after
          (if Dram.anyAccepted value = true then {part} else 0) 0 ∧
          (Dram.anyAccepted value = false → client.reading tally board.memory ≠ 0))
      fun after => client.Sent tally board after 0 0 := by
  obtain ⟨answer, ends, took⟩ := attended.read wellFormed callback addr loaded unstored
  unfold Method.Ends Board.onDram
  generalize Dram.submit (.dram ()) (.read addr (some callback) 0) board.memory = called
    at ends took ⊢
  obtain ⟨result, after⟩ := called
  rcases answer with _ | accepted
  · obtain ⟨error, rfl⟩ := ends.raised rfl
    exact ⟨took, ends.local_, rfl⟩
  · obtain ⟨value, rfl, same⟩ := ends.returned accepted rfl
    simp only [same]
    simp only [Option.some.injEq] at took
    refine ⟨⟨took, ends.local_, rfl⟩, fun refused => ?_⟩
    rw [refused] at ends
    exact attended.rejected rejects ends

theorem Client.Attended.write_ends (callback : γ) (addr : Int) {part : Part}
    (stored : client.stored callback addr = some part)
    (unloaded : client.loaded callback addr = none) :
    (Board.onDram (Dram.submit (.dram ()) (.write addr (some callback) 0))).Ends board
      (fun value after =>
        client.Sent tally board after 0
          (if Dram.anyAccepted value = true then {part} else 0))
      fun after => client.Sent tally board after 0 0 := by
  obtain ⟨answer, ends, took⟩ := attended.write wellFormed callback addr stored unloaded
  unfold Method.Ends Board.onDram
  generalize Dram.submit (.dram ()) (.write addr (some callback) 0) board.memory = called
    at ends took ⊢
  obtain ⟨result, after⟩ := called
  rcases answer with _ | accepted
  · obtain ⟨error, rfl⟩ := ends.raised rfl
    exact ⟨took, ends.local_, rfl⟩
  · obtain ⟨value, rfl, same⟩ := ends.returned accepted rfl
    simp only [same]
    simp only [Option.some.injEq] at took
    exact ⟨took, ends.local_, rfl⟩

end Requests

/-- The obligations of an invariant. `P` says what holds between two events, of the calls
made so far and of the board, if nothing was raised; `E` is what holds in any case. -/
structure Firmware.Keeps (firmware : Firmware η setup C Op) (client : Client γ Part)
    (tally : setup.engine.Tally) (permits : Board η setup C → Op → Prop)
    (P : Prop → List Op → Board η setup C → Prop) (E : Board η setup C → Prop) :
    Prop where
  core : ∀ {fine calls board}, P fine calls board → E board
  failed : ∀ {fine calls board}, ¬ fine → E board → P fine calls board
  wellFormed : ∀ {board}, E board → board.sim.WellFormed
  attended : ∀ {board}, E board → client.Attended tally board.memory
  created : ∀ {fine} {sim : Simulator (DramCode Unit γ η)} {made device},
    Dram.Created True () setup sim made device → sim.liveEvents = [] →
      P fine [] ⟨device.sim, device.dram, firmware.initial⟩
  congr : ∀ {fine calls board} {after : Simulator (DramCode Unit γ η)},
    P fine calls board →
    after.liveEvents = board.sim.liveEvents → after.seq = board.sim.seq →
      after.WellFormed →
      P fine calls { board with sim := after }
  went : ∀ {fine calls board after}, P fine calls board →
    client.Took tally board.memory after 0 0 →
      Local (DramCode.Owned ()) board.sim after.sim →
      P fine calls ⟨after.sim, after.dram, board.component⟩
  call : ∀ {fine calls board op}, (fine → permits board op) → P fine calls board →
    (firmware.call op).Ends board (fun _ after => P fine (calls ++ [op]) after) E
  completion : ∀ {fine calls board event callback info}, P fine calls board →
    board.sim.peek.1 = some event →
      event.callback = .dram () (.completion callback info) →
      (firmware.completion callback info).Ends (board.fired event)
        (fun _ after => P fine calls after) E
  host : ∀ {fine calls board event tag}, P fine calls board →
    board.sim.peek.1 = some event → event.callback = .host tag →
      (firmware.host tag).Ends (board.fired event) (fun _ after => P fine calls after) E

namespace Firmware.Keeps

variable {firmware : Firmware η setup C Op} {client : Client γ Part}
  {tally : setup.engine.Tally} {permits : Board η setup C → Op → Prop}
  {P : Prop → List Op → Board η setup C → Prop} {E : Board η setup C → Prop}
  (keeps : firmware.Keeps client tally permits P E)
include keeps

theorem callback {fine : Prop} {calls : List Op} {board : Board η setup C}
    {event : Event (DramCode Unit γ η)} (holds : P fine calls board)
    (next : board.sim.peek.1 = some event) :
    (firmware.callback event.callback).Ends (board.fired event)
      (fun _ after => P fine calls after) E := by
  have core := keeps.core holds
  have attended := keeps.attended core
  have wellFormed := keeps.wellFormed core
  rcases named : event.callback with ⟨⟨⟩, closure⟩ | tag
  · cases closure with
    | tick =>
        obtain ⟨count, jumped, ended, returned, ticked⟩ :=
          attended.running.ticked wellFormed next named .coalesced
        change (Board.onDram (TickPolicy.tick .coalesced (.dram ()))).Ends _ _ _
        refine (Board.onDram_ends (board.fired event) (P := P fine calls) returned
          ?_).mono (fun _ _ holds => holds) fun _ holds => keeps.core holds
        have went := keeps.went holds (attended.ticked next named ticked) ticked.local_
        exact went
    | idleTick =>
        have ticked := attended.running.idleTicked wellFormed next named fun _ => trivial
        change (Board.onDram (Dram.idleTick (.dram ()))).Ends _ _ _
        refine (Board.onDram_ends (board.fired event) (P := P fine calls) rfl
          ?_).mono (fun _ _ holds => holds) fun _ holds => keeps.core holds
        have went :=
          keeps.went holds (attended.idleTicked next named ticked) ticked.local_
        exact went
    | completion callback info => exact keeps.completion holds next named
  · exact keeps.host holds next named

theorem perform (world : BoardWorld setup C Op) {method : Board.Call η setup C Unit}
    {sim : Simulator (DramCode Unit γ η)} {calls : List Op}
    (ends : method.Ends (world.board sim)
      (fun _ after => P (world.failed = false) calls after) E) :
    P ((world.perform method sim).2.2.failed = false) calls
      ((world.perform method sim).2.2.board (world.perform method sim).2.1) := by
  unfold Method.Ends at ends
  unfold BoardWorld.perform
  generalize method (world.board sim) = result at ends
  obtain ⟨error | value, after⟩ := result
  · exact keeps.failed (by simp [Except.isOk, Except.toBool]) ends
  · have same : (world.failed || !(Except.ok value : Except PyError Unit).isOk) =
        world.failed := by
      simp [Except.isOk, Except.toBool]
    simp only [same]
    exact ends

omit keeps in
/-- The invariant as a property of the machine; nothing but the component and its DRAM is
on the simulator. -/
def property (firmware : Firmware η setup C Op)
    (P : Prop → List Op → Board η setup C → Prop) : (boardSystem firmware).Property :=
  fun sim world _ _ =>
    match world with
    | none => sim.liveEvents = []
    | some world => ∃ shown : Simulator (DramCode Unit γ η),
        sim.liveEvents = shown.liveEvents ∧ sim.seq = shown.seq ∧
          P (world.failed = false) world.calls (world.board shown)

theorem build {sim : Simulator (DramCode Unit γ η)} (wellFormed : sim.WellFormed)
    (empty : sim.liveEvents = []) {dram : Dram setup.engine}
    (success : (Dram.create (.dram ()) setup sim).1 = .ok dram) :
    P (false = false) []
      ⟨(Dram.create (.dram ()) setup sim).2, dram, firmware.initial⟩ := by
  have silent (closure : DramEvent γ) : sim.queued () closure = [] := by
    refine List.eq_nil_iff_forall_not_mem.mpr fun event member => ?_
    have live := (Simulator.mem_queued.mp member).1
    rw [empty] at live
    cases live
  obtain ⟨made, created⟩ :=
    Dram.created wellFormed (silent .tick) (silent .idleTick) success
  exact keeps.created created empty

variable {allowed : Config (boardSystem firmware) →
  Decision (boardSystem firmware) → Prop}
  (permitted : ∀ {config op world}, allowed config (.call (.call op)) →
    config.world = some world → world.failed = false →
      permits (world.board config.sim) op)
include permitted

theorem rule :
    Config.Invariant (S := boardSystem firmware) allowed (fun _ => True)
      (property firmware P) where
  congr := by
    intro sim world codes fired after holds live seq _
    cases world with
    | none => exact live.trans holds
    | some world =>
        obtain ⟨shown, same, number, kept⟩ := holds
        exact ⟨shown, live.trans same, seq.trans number, kept⟩
  exec := by
    intro config op coherent holds may
    obtain ⟨sim, world, stack, log⟩ := config
    cases world with
    | none =>
        cases op with
        | build =>
            have kept {dram : Dram setup.engine}
                (success : (Dram.create (.dram ()) setup sim).1 = .ok dram) :
                P (false = false) []
                  ⟨(Dram.create (.dram ()) setup sim).2, dram, firmware.initial⟩ :=
              keeps.build coherent.wellFormed holds success
            have refused {error : PyError}
                (raised : (Dram.create (.dram ()) setup sim).1 = .error error) :
                (Dram.create (.dram ()) setup sim).2 = sim :=
              Dram.create_refused raised
            simp only [BoardWorld.exec]
            split <;> rename_i result <;> rw [result] at kept refused
            · exact ⟨_, rfl, rfl, kept rfl⟩
            · exact (congrArg Simulator.liveEvents (refused rfl)).trans holds
        | call op => exact holds
    | some world =>
        obtain ⟨shown, live, seq, kept⟩ := holds
        cases op with
        | build => exact ⟨shown, live, seq, kept⟩
        | call op =>
            have here : P (world.failed = false) world.calls (world.board sim) :=
              keeps.congr kept live seq coherent.wellFormed
            have after :=
              keeps.perform world (keeps.call (fun fine => permitted may rfl fine) here)
            exact ⟨_, rfl, rfl, after⟩
  enter := by
    intro config decision codes event wellFormed _ fires _ _ holds next
    obtain ⟨sim, world, stack, log⟩ := config
    cases world with
    | none => exact absurd next (by
        rw [Simulator.peek_fst, show sim.liveEvents = [] from holds]
        exact fun impossible => by cases impossible)
    | some world =>
        obtain ⟨shown, live, seq, kept⟩ := holds
        have here : P (world.failed = false) world.calls (world.board sim) :=
          keeps.congr kept live seq wellFormed
        have called :
            (firmware.callback event.callback).Ends (world.board (sim.fireNext event))
            (fun _ after => P (world.failed = false) world.calls after) E :=
          keeps.callback here next
        have after := keeps.perform world called
        have same : (world.perform (firmware.callback event.callback)
            (sim.fireNext event)).2.2.calls = world.calls := rfl
        change Outcome.Leaves (S := boardSystem firmware) _ _ _
          (BoardWorld.enter firmware event.callback (sim.fireNext event) (some world))
        simp only [BoardWorld.enter]
        split <;> rename_i result <;> rw [result] at after same
        · exact ⟨_, rfl, rfl, same ▸ after⟩
        · exact ⟨_, rfl, rfl, same ▸ after⟩
  resume answer _ _ _ _ := answer.elim
  raise _ _ _ holds := holds
  step _ := trivial
  run _ := trivial
  wait _ := trivial

theorem reach (lawful : firmware.Lawful) {config : Config (boardSystem firmware)}
    (reached : Transition.Reach Config.advance allowed (Config.init none) config)
    {world : BoardWorld setup C Op} (built : config.world = some world) :
    P (world.failed = false) world.calls (world.board config.sim) := by
  have start : Config.Invariant.Kept (fun _ => True) (property firmware P)
      (Config.init none) := ⟨rfl, trivial⟩
  obtain ⟨coherent, holds, -⟩ := (keeps.rule permitted).reach (BoardWorld.lawful lawful)
    (Config.init_coherent _) start reached
  unfold Config.Holds at holds
  rw [built] at holds
  obtain ⟨shown, live, seq, kept⟩ := holds
  exact keeps.congr kept live seq coherent.wellFormed

end Firmware.Keeps

theorem exists_checked {World : Type} {world : Option World} (check : World → Bool)
    {P : World → Prop} (checked : world.any check = true)
    (implies : ∀ {built}, world = some built → check built = true → P built) :
    ∃ built, world = some built ∧ P built := by
  obtain ⟨built, same, passed⟩ := (Option.any_eq_true check world).mp checked
  exact ⟨built, same, implies same passed⟩

end Pyramulator
