import Pyramulator.Dram.Standing

namespace Pyramulator

variable {ℓ γ η : Type} [DecidableEq ℓ] [DecidableEq γ] {setups : ℓ → DramSetup γ}

namespace DramWorld

open Simulator (Local)
open Dram (Running)

/-! One induction over the runs of a system, for the invariants of its
components. -/

/-- A property of a component, which may not be built yet, on its simulator, after
the events that were fired. -/
abbrev Trait (η : Type) (setups : ℓ → DramSetup γ) :=
  (label : ℓ) → Simulator (DramCode ℓ γ η) → Option (Dram (setups label).engine) →
    List (Event (DramCode ℓ γ η)) → Prop

/-- The proof obligations of a property that every component keeps in the runs in
which user code keeps to `allowed`. -/
structure Keeps (lossy : Prop) (policy : TickPolicy)
    (allowed : Config (dramSystem η setups policy) →
      Decision (dramSystem η setups policy) → Prop) (P : Trait η setups) : Prop where
  may : ∀ {config : Config (dramSystem η setups policy)} {decision label event dram},
    allowed config decision → config.Fires decision event →
      event.callback = .dram label .idleTick → config.world.drams label = some dram →
        ¬ FitsInt dram.batch.current → lossy
  congr : ∀ {label sim dram fired} after, P label sim dram fired →
    after.liveEvents = sim.liveEvents → after.seq = sim.seq → after.now = sim.now →
      P label after dram fired
  foreign : ∀ {label sim after dram fired} {kind : DramCode ℓ γ η → Prop},
    Local kind sim after → (∀ closure, ¬ kind (.dram label closure)) →
      P label sim dram fired → P label after dram fired
  /-- An event of another component or of user code is fired. -/
  passed : ∀ {label sim dram fired} event, ¬ event.callback.Owned label →
    P label sim dram fired → P label sim dram (fired ++ [event])
  completion : ∀ {label sim dram fired event}, sim.WellFormed →
    sim.peek.1 = some event → event.callback.Completion label →
      P label sim dram fired → P label (sim.fireNext event) dram (fired ++ [event])
  created : ∀ {label sim made after fired}, sim.WellFormed →
    Dram.Created lossy label (setups label) sim made after → P label sim none fired →
      P label after.sim (some after.dram) fired
  requested : ∀ {config : Config (dramSystem η setups policy)} {label request dram fired},
    config.sim.WellFormed → allowed config (.call (.request label request)) →
      config.world.drams label = some dram →
        Running lossy (setups label).cacheline label config.sim dram →
          P label config.sim (some dram) fired →
            let called := Dram.submit (.dram label) request ⟨config.sim, dram⟩
            P label called.2.sim (some called.2.dram) fired
  ticked : ∀ {config : Config (dramSystem η setups policy)}
    {decision label event dram count last ended fired}, config.sim.WellFormed →
      allowed config decision → config.Fires decision event →
        event.callback = .dram label .tick → config.sim.peek.1 = some event →
        config.world.drams label = some dram →
          Running lossy (setups label).cacheline label config.sim dram →
            Dram.Ticked lossy (setups label).cacheline label config.sim event
              dram count last
              ended → P label config.sim (some dram) fired →
                P label ended.sim (some ended.dram) (fired ++ [event])
  idleTicked : ∀ {config : Config (dramSystem η setups policy)}
    {decision label event dram ended fired}, config.sim.WellFormed →
      allowed config decision → config.Fires decision event →
        event.callback = .dram label .idleTick → config.sim.peek.1 = some event →
        config.world.drams label = some dram →
          Running lossy (setups label).cacheline label config.sim dram →
            Dram.IdleTicked lossy (setups label).cacheline label config.sim
              event dram ended →
              P label config.sim (some dram) fired →
                P label ended.2.sim (some ended.2.dram) (fired ++ [event])

namespace Keeps

variable {lossy : Prop} {policy : TickPolicy}
  {allowed : Config (dramSystem η setups policy) →
    Decision (dramSystem η setups policy) → Prop} {P : Trait η setups}
  {after : Simulator (DramCode ℓ γ η)} {fired : List (Event (DramCode ℓ γ η))}

def All (policy : TickPolicy) (lossy : Prop) (P : Trait η setups) :
    (dramSystem η setups policy).Property :=
  fun sim world _ fired =>
    Standing lossy sim world ∧ ∀ label, P label sim (world.drams label) fired

theorem called (keeps : Keeps lossy policy allowed P)
    {config : Config (dramSystem η setups policy)} {op : DramOp ℓ γ η} {label : ℓ}
    {dram : Option (Dram (setups label).engine)} (wellFormed : config.sim.WellFormed)
    (permitted : allowed config (.call op)) (here : config.world.drams label = dram)
    (holds : P label config.sim dram fired)
    {changed : Option (Dram (setups label).engine)}
    (called : Called lossy label op config.sim dram after changed) :
    P label after changed fired := by
  cases called with
  | foreign kind local_ apart => exact keeps.foreign local_ apart holds
  | created unbuilt new => exact keeps.created wellFormed new (unbuilt ▸ holds)
  | requested named built running =>
      subst named built
      exact keeps.requested wellFormed permitted here running holds

theorem entered (keeps : Keeps lossy policy allowed P)
    {config : Config (dramSystem η setups policy)}
    {decision : Decision (dramSystem η setups policy)}
    {event : Event (DramCode ℓ γ η)} {label : ℓ}
    {dram : Option (Dram (setups label).engine)} (wellFormed : config.sim.WellFormed)
    (permitted : allowed config decision) (fires : config.Fires decision event)
    (next : config.sim.peek.1 = some event) (here : config.world.drams label = dram)
    (holds : P label config.sim dram fired)
    {changed : Option (Dram (setups label).engine)}
    (entered : Entered lossy label event config.sim dram after changed) :
    P label after changed (fired ++ [event]) := by
  cases entered with
  | foreign kind local_ apart other =>
      exact keeps.passed event other (keeps.foreign local_ apart holds)
  | completion completion => exact keeps.completion wellFormed next completion holds
  | ticked named built running ticked =>
      subst built
      exact keeps.ticked wellFormed permitted fires named next here running ticked holds
  | idleTicked named built running ticked =>
      subst built
      exact keeps.idleTicked wellFormed permitted fires named next here
        running ticked holds

theorem exec (keeps : Keeps lossy policy allowed P)
    {config : Config (dramSystem η setups policy)} (op : DramOp ℓ γ η)
    (wellFormed : config.sim.WellFormed) (permitted : allowed config (.call op))
    (all : All policy lossy P config.sim config.world [] fired) :
    let result := DramWorld.exec op config.sim config.world
    All policy lossy P result.2.1 result.2.2 [] fired := by
  obtain ⟨standing, each⟩ := all
  obtain ⟨stands, calls⟩ := exec_called standing wellFormed op
  exact ⟨stands, fun label =>
    keeps.called wellFormed permitted rfl (each label) (calls label)⟩

theorem enter (keeps : Keeps lossy policy allowed P)
    {config : Config (dramSystem η setups policy)}
    {decision : Decision (dramSystem η setups policy)}
    {codes : List (DramCode ℓ γ η)} {event : Event (DramCode ℓ γ η)}
    (wellFormed : config.sim.WellFormed) (permitted : allowed config decision)
    (fires : config.Fires decision event)
    (all : All policy lossy P config.sim config.world codes fired)
    (next : config.sim.peek.1 = some event) :
    (DramWorld.enter policy event.callback (config.sim.fireNext event)
      config.world : Outcome _ _).Leaves (S := dramSystem η setups policy)
        (All policy lossy P) codes (fired ++ [event]) := by
  obtain ⟨standing, each⟩ := all
  obtain ⟨stands, entered⟩ := enter_entered standing wellFormed policy next
    fun label dram named built => keeps.may permitted fires named built
  have all (label : ℓ) := keeps.entered wellFormed permitted fires next rfl (each label)
    (entered label)
  generalize DramWorld.enter policy event.callback (config.sim.fireNext event)
    config.world = outcome at stands all ⊢
  cases outcome <;> exact ⟨stands, all⟩

theorem invariant (keeps : Keeps lossy policy allowed P) :
    Config.Invariant allowed (fun _ => True) (All policy lossy P) where
  congr after all live seq now :=
    ⟨all.1.congr live seq, fun label => keeps.congr after (all.2 label) live seq now⟩
  exec op coherent all permitted := keeps.exec op coherent.wellFormed permitted all
  enter wellFormed permitted fires _ _ all next :=
    keeps.enter wellFormed permitted fires all next
  resume _ _ _ _ all := all
  raise _ _ _ all := all
  step _ := trivial
  run _ := trivial
  wait _ := trivial

theorem start (initial : ∀ label, P label Simulator.init none []) :
    All policy lossy P Simulator.init (DramWorld.create setups) [] [] :=
  ⟨.create, initial⟩

theorem reach (keeps : Keeps lossy policy allowed P)
    (initial : ∀ label, P label Simulator.init none [])
    {config : Config (dramSystem η setups policy)}
    (reached : Transition.Reach Config.advance allowed
      (Config.init (DramWorld.create setups)) config) :
    config.Coherent ∧ Standing lossy config.sim config.world ∧ ∀ label,
      P label config.sim (config.world.drams label) (Config.firedEvents config.log) := by
  obtain ⟨coherent, ⟨standing, each⟩, -⟩ := keeps.invariant.reach (lawful policy)
    (Config.init_coherent _) ⟨start initial, trivial⟩ reached
  exact ⟨coherent, standing, each⟩

end Keeps

def Each (η : Type) (Q : (label : ℓ) → Dram (setups label).engine → Prop) :
    Trait η setups := fun label _ dram _ => ∀ built, dram = some built → Q label built

theorem Keeps.each {lossy : Prop} {policy : TickPolicy}
    {allowed : Config (dramSystem η setups policy) →
      Decision (dramSystem η setups policy) → Prop}
    {Q : (label : ℓ) → Dram (setups label).engine → Prop}
    (may : ∀ {config : Config (dramSystem η setups policy)} {decision label event dram},
      allowed config decision → config.Fires decision event →
        event.callback = .dram label .idleTick → config.world.drams label = some dram →
          ¬ FitsInt dram.batch.current → lossy)
    (created : ∀ {label} {sim : Simulator (DramCode ℓ γ η)} {made after},
      Dram.Created lossy label (setups label) sim made after → Q label after.dram)
    (requested : ∀ {config : Config (dramSystem η setups policy)} {label request dram},
      config.sim.WellFormed → allowed config (.call (.request label request)) →
        config.world.drams label = some dram →
          Running lossy (setups label).cacheline label config.sim dram → Q label dram →
            Q label (Dram.submit (.dram label : DramEvent γ → DramCode ℓ γ η) request
              ⟨config.sim, dram⟩).2.dram)
    (ticked : ∀ {label} {sim : Simulator (DramCode ℓ γ η)} {event dram count last ended},
      Dram.Ticked lossy (setups label).cacheline label sim event dram count last ended →
        Q label dram → Q label ended.dram)
    (idleTicked : ∀ {config : Config (dramSystem η setups policy)}
      {decision label event dram ended}, allowed config decision →
        config.Fires decision event → event.callback = .dram label .idleTick →
          config.world.drams label = some dram →
            Running lossy (setups label).cacheline label config.sim dram →
              Dram.IdleTicked lossy (setups label).cacheline label config.sim
                event dram ended →
                Q label dram → Q label ended.2.dram) :
    Keeps lossy policy allowed (Each η Q) where
  may := may
  congr _ holds _ _ _ := holds
  foreign _ _ holds := holds
  passed _ _ holds := holds
  completion _ _ _ holds := holds
  created _ new _ built same := Option.some.inj same ▸ created new
  requested wellFormed permitted built running holds after same := by
    obtain rfl := Option.some.inj same
    exact requested wellFormed permitted built running (holds _ rfl)
  ticked _ _ _ _ _ _ _ tick holds built same := by
    obtain rfl := Option.some.inj same
    exact ticked tick (holds _ rfl)
  idleTicked _ permitted fires named _ built running tick holds after same := by
    obtain rfl := Option.some.inj same
    exact idleTicked permitted fires named built running tick (holds _ rfl)

end DramWorld

end Pyramulator
