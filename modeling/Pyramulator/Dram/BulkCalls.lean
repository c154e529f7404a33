import Pyramulator.Sim.Barrier
import Pyramulator.Dram.CoreIds
import Pyramulator.Dram.Bulk

namespace Pyramulator

/-! User code calls a component with many addresses, or once for each address. -/

variable {ℓ γ η : Type} [DecidableEq ℓ] [DecidableEq γ] {setups : ℓ → DramSetup γ}
  {policy : TickPolicy}

namespace Dram

variable {engine : Engine (DramCallback γ)} {lossy : Prop} {label : ℓ}
  {sim : Simulator (DramCode ℓ γ η)} {dram : Dram engine}

def bare (dram : Dram engine) : Dram engine :=
  { dram with
    mem := dram.mem.uncached
    collectorSrc := none
    collectorWrap := none
    collectors := 0
    submitted := [] }

theorem prepared_bare (type : RequestType) (callback : Option γ) (dram : Dram engine) :
    (dram.prepared type callback).bare = dram.bare := by
  obtain ⟨src, cache, count, eq⟩ := collector_eq dram callback
  unfold prepared
  by_cases write : type = .write
  · simp only [if_pos write, eq]
    rfl
  · simp only [if_neg write, eq]
    have same := MemorySystem.readCb_uncached dram.mem (some (dram.collector callback).1)
    simp only [bare, same]

theorem Clocked.numbered (clocked : Clocked lossy label sim dram)
    (wellFormed : sim.WellFormed) (idle : dram.idleTicking = true) :
    dram.idleEventId ≠ none ∧ ∀ eventId, dram.idleEventId = some eventId →
      eventId < sim.seq := by
  cases clocked with
  | busy _ _ noIdle => rw [noIdle] at idle; cases idle
  | stopped _ noIdle => rw [noIdle] at idle; cases idle
  | idle event _ _ _ _ idles scheduled =>
      have queued : event ∈ sim.queued label
          .idleTick := by rw [idles]; exact List.mem_singleton_self _
      refine ⟨by simp [scheduled], fun eventId named => ?_⟩
      obtain rfl := Option.some.inj (scheduled.symm.trans named)
      exact wellFormed.live_fresh event (Simulator.mem_queued.mp queued).1
  | lost eventId _ _ _ _ _ scheduled old =>
      refine ⟨by simp [scheduled], fun other named => ?_⟩
      obtain rfl := Option.some.inj (scheduled.symm.trans named)
      exact old

end Dram

namespace DramWorld

def numbered : Trait η setups := fun _ sim dram _ =>
  ∀ built eventId, dram = some built → built.idleEventId = some eventId →
    eventId < sim.seq

theorem numbered_keeps {allowed : Config (dramSystem η setups policy) →
      Decision (dramSystem η setups policy) → Prop} :
    Keeps True policy allowed (numbered : Trait η setups) where
  may _ _ _ _ _ := trivial
  congr after holds _ seq _ built eventId here named :=
    seq ▸ holds built eventId here named
  foreign local_ _ holds built eventId here named :=
    (holds built eventId here named).trans_le local_.seq
  passed _ _ holds := holds
  completion _ _ _ holds := holds
  created {label sim made after fired} wellFormed created _ built eventId here named := by
    obtain rfl := Option.some.inj here
    obtain ⟨clk, base_pos, rfl⟩ := created.initial
    rcases created.dram with ⟨-, same⟩ | ⟨-, same⟩
    · have idle : after.dram.idleTicking = true := by rw [same]; rfl
      exact (created.running.clocked.numbered created.clock.wellFormed idle).2 eventId
        named
    · rw [same] at named
      cases named
  requested {config label request dram fired} wellFormed _ _ running holds
    built eventId here
      named := by
    obtain rfl := Option.some.inj here
    obtain ⟨mem, sends, submission, -, sent, requested⟩ :=
      running.requested wellFormed request
    obtain ⟨local_, -⟩ := requested.running wellFormed
      (running.collector request.callback) sent
    have kept : (Dram.submit (.dram label : DramEvent γ → DramCode ℓ γ η) request
        ⟨config.sim, dram⟩).2.dram.idleEventId = dram.idleEventId := by
      obtain ⟨src, cache, count, eq⟩ := Dram.collector_eq dram request.callback
      rw [eq] at requested
      generalize Dram.submit (.dram label : DramEvent γ → DramCode ℓ γ η) request
        ⟨config.sim, dram⟩ = called at requested
      cases requested with
      | raised error => rfl
      | rejected value accepts all allRefused => rfl
      | accepted value accepts all someTaken handed rest answered after clock
          clocked started =>
          have same : after.dram.idleEventId = dram.idleEventId := by
            rcases started with ⟨-, same⟩ | ⟨-, same⟩ <;> rw [same] <;> rfl
          exact same
    exact (holds dram eventId rfl (kept ▸ named)).trans_le local_.seq
  ticked {config decision label event dram count last ended fired} wellFormed _ _
    _ _ _ _ ticked
      holds built eventId here named := by
    obtain rfl := Option.some.inj here
    obtain ⟨ended, last⟩ := ended
    cases ticked.ends with
    | pending busy => exact (holds dram eventId rfl named).trans_le ticked.local_.seq
    | idle serviced refresh =>
        exact (ticked.running.clocked.numbered ticked.local_.wellFormed rfl).2 eventId
          named
    | stopped serviced noRefresh =>
        exact (holds dram eventId rfl named).trans_le ticked.local_.seq
  idleTicked {config decision label event dram ended fired} wellFormed _ _ _ _ _
    _ ticked holds
      built eventId here named := by
    obtain rfl := Option.some.inj here
    have idle := ticked.idle
    obtain ⟨result, ended⟩ := ended
    cases ticked.ends with
    | refused large => exact (holds dram eventId rfl named).trans_le ticked.local_.seq
    | pending fits busy => exact (holds dram eventId rfl named).trans_le ticked.local_.seq
    | idle fits serviced =>
        exact (ticked.running.clocked.numbered ticked.local_.wellFormed idle).2 eventId
          named

theorem Alike.refl {sim : Simulator (DramCode ℓ γ η)} {world : DramWorld setups}
    {ids : Nat → Nat → Prop} (standing : Standing True sim world)
    (numbers : ∀ label, numbered label sim (world.drams label) [])
    (grows : (fun left right => left = right ∧ left < sim.seq) ≤ ids) :
    Alike ids world world where
  drams label := by
    rcases here : world.drams label with _ | dram
    · exact .none
    · apply Option.Rel.some
      have known : Option.Rel ids dram.idleEventId dram.idleEventId := by
        rcases named : dram.idleEventId with _ | eventId
        · exact .none
        · exact .some (grows _ _ ⟨rfl, numbers label dram eventId here named⟩)
      exact .intro _ _ known
  hostIds := List.forall₂_same.mpr fun eventId member =>
    grows _ _ ⟨rfl, (standing.hosts eventId member).1⟩

end DramWorld

namespace Config

open Dram (Prepared serveEach served)

section Calls

variable {config : Config (dramSystem η setups policy)} {label : ℓ}
  {dram : Dram (setups label).engine}

theorem advance_request (control : config.InUserCode)
    (built : config.world.drams label = some dram) {request : DramRequest γ}
    {result : Except PyError MemoryValue}
    {after : Device (DramCode ℓ γ η) (setups label).engine}
    (submitted : Dram.submit (.dram label) request ⟨config.sim, dram⟩ = (result, after)) :
    config.advance (.call (.request label request)) =
      { config with
        sim := after.sim
        world := config.world.put label after.dram
        log := config.log ++
          [.called (.request label request) (result.map .memory)] } := by
  have called := DramWorld.exec_request (η := η) built submitted
  rw [control.advance]
  simp only [act, called]
  rfl

variable {cacheline numCores : Int} {type : RequestType} {callback : Option γ}
  {coreId : Int} {wrap : Collector γ} (control : config.InUserCode)
  (built : config.world.drams label = some dram)
  (prepared : Prepared cacheline numCores type callback wrap dram)
  (valid : 0 ≤ coreId ∧ coreId < numCores) (int : FitsInt coreId)
  (known : type = .read ∨ type = .write)
include control built prepared valid int known

theorem advance_all {addrs : List Int} (fits : ∀ addr ∈ addrs, FitsLong addr) :
    ∃ notes, let after := served (.dram label) type coreId wrap ⟨config.sim, dram⟩ addrs
      config.advance (.call (.request label (.all type callback coreId addrs))) =
        { config with
          sim := after.sim
          world := config.world.put label { after.dram with submitted := notes }
          log := config.log ++ [.called (.request label (.all type callback coreId addrs))
            (.ok (.memory (.flags (dram.flags type coreId wrap addrs))))] } := by
  have called :=
    Dram.all_served (.dram label : DramEvent γ → DramCode ℓ γ η) config.sim prepared
    valid int known fits
  have submitted := Dram.submit_eq (.dram label : DramEvent γ → DramCode ℓ γ η) config.sim
    (.all type callback coreId addrs) dram
  rw [called] at submitted
  exact ⟨_, advance_request control built submitted⟩

theorem run_ones {addrs : List Int} (fits : ∀ addr ∈ addrs, FitsLong addr) :
    ∃ notes, let after :=
      serveEach (.dram label) type coreId wrap ⟨config.sim, dram⟩ addrs
      Transition.run advance config (addrs.map fun addr =>
          .call (.request label (.one type callback coreId addr))) =
        { config with
          sim := after.sim
          world := config.world.put label { after.dram with submitted := notes }
          log := config.log ++
            (addrs.zip (dram.flags type coreId wrap addrs)).map fun sent =>
            .called (.request label (.one type callback coreId sent.1))
              (.ok (.memory (.flag sent.2))) } := by
  induction addrs generalizing config dram with
  | nil =>
      refine ⟨dram.submitted, ?_⟩
      have same : config.world.put label
          { (serveEach (.dram label) type coreId wrap ⟨config.sim, dram⟩ []).dram with
            submitted := dram.submitted } = config.world := DramWorld.put_same built
      simp only [same, List.zip_nil_left, List.map_nil, List.append_nil]
      rfl
  | cons addr rest induction =>
      obtain ⟨first, later⟩ := List.forall_mem_cons.mp fits
      obtain ⟨flag, answer, called⟩ := Dram.one_served
        (.dram label : DramEvent γ → DramCode ℓ γ η) config.sim prepared valid
          int known first
      have submitted :=
        Dram.submit_eq (.dram label : DramEvent γ → DramCode ℓ γ η) config.sim
        (.one type callback coreId addr) dram
      rw [called] at submitted
      have step := advance_request control built submitted
      have ready :=
        prepared.served (.dram label : DramEvent γ → DramCode ℓ γ η) coreId config.sim
        [addr]
      have sent :=
        prepared.served_flags (.dram label : DramEvent γ → DramCode ℓ γ η) coreId
        config.sim [addr] rest
      have every : dram.flags type coreId wrap (addr :: rest) =
          flag :: (dram.issued type coreId wrap [addr]).flags type coreId wrap rest := by
        rw [Dram.flags_cons, answer]
        rfl
      have opening :
          serveEach (.dram label) type coreId wrap ⟨config.sim, dram⟩ (addr :: rest) =
          serveEach (.dram label) type coreId wrap
            (served (.dram label : DramEvent γ → DramCode ℓ γ η) type coreId wrap
              ⟨config.sim, dram⟩ [addr]) rest := rfl
      rw [List.map_cons, Transition.run_cons, step, every, opening, ← sent]
      clear step every opening sent submitted
      generalize (⟨config.sim.now, dram.cycles, _, _, _⟩ : Submission γ) = submission
      generalize served (.dram label : DramEvent γ → DramCode ℓ γ η) type coreId wrap
        ⟨config.sim, dram⟩ [addr] = after at ready ⊢
      obtain ⟨sim, between⟩ := after
      obtain ⟨notes, run⟩ := @induction
        { config with
          sim
          world := config.world.put label (between.noted submission)
          log := config.log ++ [.called (.request label (.one type callback coreId addr))
            ((.ok (.flag flag) : Except PyError MemoryValue).map .memory)] }
        (between.noted submission) control (DramWorld.put_self _ _ _)
          (ready.noted submission) later
      refine ⟨notes, run.trans ?_⟩
      have noted :=
        Dram.serveEach_noted (.dram label : DramEvent γ → DramCode ℓ γ η) type coreId
        wrap sim between (between.submitted ++ [submission]) rest
      simp only [Dram.noted, noted, DramWorld.put_put, List.append_assoc]
      rfl

end Calls

def OneChain (label : ℓ) (config : Config (dramSystem η setups policy)) : Prop :=
  ∀ dram, config.world.drams label = some dram →
    (config.sim.queued label .tick).length = if dram.ticking then 1 else 0

theorem oneChain {config : Config (dramSystem η setups policy)}
    (reached : Transition.Reach advance (fun _ _ => True)
      (init (DramWorld.create setups)) config)
    (label : ℓ) : OneChain label config := by
  intro dram built
  obtain ⟨-, standing, -⟩ := DramWorld.numbered_keeps.reach
    (fun _ _ _ impossible => by cases impossible) reached
  cases (standing.running label dram built).clocked with
  | busy event ticking _ ticks => rw [ticks, ticking]; rfl
  | idle event stopped _ _ ticks => rw [ticks, stopped]; rfl
  | stopped stopped _ _ ticks => rw [ticks, stopped]; rfl
  | lost eventId stopped _ _ ticks => rw [ticks, stopped]; rfl

/-- One call with all the addresses did what a call for each of them did. -/
structure BulkAgrees (label : ℓ) (type : RequestType) (callback : Option γ) (coreId : Int)
    (addrs : List Int) (config many one : Config (dramSystem η setups policy)) :
    Prop where
  flags : ∃ flags : List Bool, flags.length = addrs.length ∧
    many.log = config.log ++ [.called (.request label (.all type callback coreId addrs))
      (.ok (.memory (.flags flags)))] ∧
    one.log = config.log ++ (addrs.zip flags).map fun sent =>
      .called (.request label (.one type callback coreId sent.1))
        (.ok (.memory (.flag sent.2)))
  stack : many.stack = one.stack
  now : many.sim.now = one.sim.now
  agenda : List.Forall₂ Event.Same one.sim.liveEvents many.sim.liveEvents
  hostIds : many.world.hostIds = one.world.hostIds
  others : ∀ other, other ≠ label → many.world.drams other = one.world.drams other
  dram : (many.world.drams label).map Dram.bare = (one.world.drams label).map Dram.bare
  chain : OneChain label many ∧ OneChain label one
  later : addrs ≠ [] → ∀ decisions, ∃ ids, InStep True ids one many
    (Transition.run advance one decisions) (Transition.run advance many decisions)

section Agrees

variable {config : Config (dramSystem η setups policy)} {label : ℓ}
  {dram : Dram (setups label).engine} {cacheline numCores : Int} {type : RequestType}
  {callback : Option γ} {coreId : Int}

def filled (config : Config (dramSystem η setups policy)) (type : RequestType)
    (callback : Option γ) (label : ℓ) (dram : Dram (setups label).engine) :
    Config (dramSystem η setups policy) :=
  { config with world := config.world.put label (dram.prepared type callback) }

theorem advance_filled (control : config.InUserCode)
    (built : config.world.drams label = some dram)
    (checked : dram.mem.checkCoreId coreId = .ok ())
    (prepared : Prepared cacheline numCores type callback (dram.collector callback).1
      (dram.prepared type callback)) {request : DramRequest γ}
    (of : request.Of type callback coreId) :
    config.advance (.call (.request label request)) =
      (config.filled type callback label dram).advance
        (.call (.request label request)) := by
  have submitted := Dram.submit_prepared type (.dram label : DramEvent γ → DramCode ℓ γ η)
    config.sim of checked prepared
  rcases shape : Dram.submit (.dram label : DramEvent γ → DramCode ℓ γ η) request
    ⟨config.sim, dram⟩ with ⟨result, after⟩
  have turn : (config.filled type callback label dram).InUserCode := control
  have there : (config.filled type callback label dram).world.drams label =
      some (dram.prepared type callback) := DramWorld.put_self _ _ _
  rw [advance_request control built shape, advance_request turn there (submitted ▸ shape)]
  simp only [Config.filled, DramWorld.put_put]

variable (wellFormed : config.sim.WellFormed)
  (standing : DramWorld.Standing True config.sim config.world)
  (numbers : ∀ label, DramWorld.numbered label config.sim (config.world.drams label) [])
  (built : config.world.drams label = some dram) (closure : DramEvent γ → DramCode ℓ γ η)
include wellFormed standing numbers built

theorem served_alike (type : RequestType) (coreId : Int) (wrap : Collector γ)
    {base : Dram (setups label).engine}
    (startable : base.ticking = false → base.idleTicking = true → base.idleEventId ≠ none)
    (same : base.idleEventId = dram.idleEventId) (addrs : List Int)
    (notes others : List (Submission γ))
    (log log' : List (Entry (dramSystem η setups policy))) :
    let one := serveEach closure type coreId wrap (⟨config.sim, base⟩ : Device _ _) addrs
    let many := served closure type coreId wrap (⟨config.sim, base⟩ : Device _ _) addrs
    one.dram = many.dram ∧ ∃ ids, Alike True ids
      { config with
        sim := one.sim
        world := config.world.put label { one.dram with submitted := notes }
        log := log }
      { config with
        sim := many.sim
        world := config.world.put label { many.dram with submitted := others }
        log := log' } := by
  intro one many
  have old : ∀ eventId, base.idleEventId = some eventId → eventId < config.sim.seq :=
    fun eventId named => numbers label dram eventId built (same ▸ named)
  obtain ⟨drams, ids, grows, sims⟩ :=
    Dram.serveEach_served closure type coreId wrap wellFormed base startable old addrs
  have kept : many.dram.idleEventId = base.idleEventId := by
    obtain ⟨completed, delivered, after | after⟩ :=
      Dram.served_dram closure type coreId wrap config.sim base startable addrs
    · have moved := congrArg Dram.idleEventId after
      exact moved
    · have moved := congrArg Dram.idleEventId after
      exact moved
  have known : Option.Rel ids many.dram.idleEventId many.dram.idleEventId := by
    rcases named : many.dram.idleEventId with _ | eventId
    · exact .none
    · exact .some (grows _ _ ⟨rfl, old eventId (kept.symm.trans named)⟩)
  have calls :=
    Dram.serveEach_calls closure type coreId wrap (⟨config.sim, base⟩ : Device _ _)
    addrs
  have callsMany :=
    Dram.served_calls closure type coreId wrap (⟨config.sim, base⟩ : Device _ _)
    addrs
  refine ⟨drams, ids, sims, ?_, ?_, fun _ => ?_⟩
  · apply (DramWorld.Alike.refl standing numbers grows).put
    have unchanged : one.dram = many.dram := drams
    rw [unchanged]
    exact @Dram.Alike.intro _ _ _ { many.dram with submitted := notes } _ _ known
  · exact List.forall₂_same.mpr fun frame _ => Frame.Alike.refl True (.inl trivial)
  · exact (Simulator.Calls.processed_eq calls).trans
      (Simulator.Calls.processed_eq callsMany).symm

end Agrees

theorem bulk_agrees {config : Config (dramSystem η setups policy)}
    (reached : Transition.Reach advance (fun _ _ => True)
      (init (DramWorld.create setups)) config)
    (control : config.InUserCode) {label : ℓ} {dram : Dram (setups label).engine}
    (built : config.world.drams label = some dram) {type : RequestType} {coreId : Int}
    (valid : 0 ≤ coreId ∧ coreId < (setups label).numCores)
    (int : FitsInt (setups label).numCores) (known : type = .read ∨ type = .write)
    (callback : Option γ) {addrs : List Int} (fits : ∀ addr ∈ addrs, FitsLong addr) :
    BulkAgrees label type callback coreId addrs config
      (config.advance (.call (.request label (.all type callback coreId addrs))))
      (Transition.run advance config (addrs.map fun addr =>
        .call (.request label (.one type callback coreId addr)))) := by
  obtain ⟨coherent, standing, numbers⟩ := DramWorld.numbered_keeps.reach
    (fun _ _ _ impossible => by cases impossible) reached
  obtain ⟨-, -, checked⟩ := DramWorld.checked_keeps.reach
    (fun _ _ impossible => by cases impossible) reached
  have cores : dram.mem.numCores = (setups label).numCores :=
    (checked label dram built (by omega)).stays
  have running := standing.running label dram built
  have startable : dram.ticking = false → dram.idleTicking = true →
      dram.idleEventId ≠ none :=
    fun _ idle => (running.clocked.numbered coherent.wellFormed idle).1
  have small : FitsInt coreId := by
    obtain ⟨low, high⟩ := int
    exact ⟨by omega, by omega⟩
  have valid' := MemorySystem.checkCoreId_valid (cores.symm ▸ valid)
  have prepared : Prepared (setups label).cacheline (setups label).numCores type callback
      (dram.collector callback).1 (dram.prepared type callback) :=
    Dram.prepared_prepared type running.cached running.stable cores startable
  have reachedMany :=
    reached.next (.call (.request label (.all type callback coreId addrs))) trivial
  have reachedOne :=
    reached.trans (Transition.reach_run advance config (addrs.map fun addr =>
    .call (.request label (.one type callback coreId addr))))
  have chain := And.intro (oneChain reachedMany label) (oneChain reachedOne label)
  have opening := advance_filled control built valid' prepared
    (DramRequest.all_of callback coreId known addrs)
  have turn : (config.filled type callback label dram).InUserCode := control
  have there : (config.filled type callback label dram).world.drams label =
      some (dram.prepared type callback) := DramWorld.put_self _ _ _
  obtain ⟨notes, many⟩ := advance_all turn there prepared valid small known fits
  obtain ⟨others, one⟩ := run_ones turn there prepared valid small known fits
  rw [opening, many] at chain ⊢
  cases addrs with
  | nil =>
      have told :=
        Dram.served_nil (.dram label : DramEvent γ → DramCode ℓ γ η) type coreId
        (dram.collector callback).1 config.sim (dram.prepared type callback)
      have sims : (config.filled type callback label dram).sim = config.sim := rfl
      rw [sims, told] at chain ⊢
      exact
        { flags := ⟨[], rfl, rfl, (List.append_nil _).symm⟩
          stack := rfl
          now := rfl
          agenda := List.forall₂_same.mpr fun event _ => .refl event
          hostIds := rfl
          others := fun other apart => by
            simp only [filled, DramWorld.put_put]
            exact DramWorld.put_other _ apart _
          dram := by
            have bare := Dram.prepared_bare type callback dram
            simp only [DramWorld.put_self, Option.map_some]
            rw [List.map_nil, Transition.run_nil, built, Option.map_some, ← bare]
            rfl
          chain
          later := fun nonempty => absurd rfl nonempty }
  | cons addr rest =>
      have begun : Transition.run advance config ((addr :: rest).map fun addr =>
          .call (.request label (.one type callback coreId addr))) =
            Transition.run advance (config.filled type callback label dram)
              ((addr :: rest).map fun addr =>
                .call (.request label (.one type callback coreId addr))) := by
        rw [List.map_cons, Transition.run_cons, Transition.run_cons,
          advance_filled control built
          valid' prepared (DramRequest.one_of callback coreId known addr)]
      rw [begun, one] at chain ⊢
      have same : (dram.prepared type callback).idleEventId = dram.idleEventId := by
        have bare := congrArg Dram.idleEventId (Dram.prepared_bare type callback dram)
        exact bare
      obtain ⟨drams, ids, alike⟩ :=
        served_alike coherent.wellFormed standing numbers built
        (.dram label) type coreId (dram.collector callback).1 prepared.startable same
          (addr :: rest) others notes
            (config.log ++
              ((addr :: rest).zip ((dram.prepared type callback).flags type coreId
              (dram.collector callback).1 (addr :: rest))).map fun sent =>
                .called (.request label (.one type callback coreId sent.1))
                  (.ok (.memory (.flag sent.2))))
            (config.log ++
              [.called (.request label (.all type callback coreId (addr :: rest)))
              (.ok (.memory (.flags ((dram.prepared type callback).flags type coreId
                (dram.collector callback).1 (addr :: rest)))))])
      simp only [filled, DramWorld.put_put] at chain ⊢
      exact
        { flags := ⟨_, Dram.length_flags _ _, rfl, rfl⟩
          stack := rfl
          now := alike.sim.now.symm
          agenda := alike.sim.events.imp fun _ _ same => same.toSame
          hostIds := rfl
          others := fun other apart => by
            rw [DramWorld.put_other _ apart, DramWorld.put_other _ apart]
          dram := by
            simp only [DramWorld.put_self, Option.map_some, ← drams]
            rfl
          chain
          later := fun _ decisions => ⟨ids, run_inStep alike decisions⟩ }

end Config

end Pyramulator
