import Pyramulator.Dram.BatchFailure
import Pyramulator.Memory.Configuration

namespace Pyramulator

variable {ℓ γ η : Type} [DecidableEq ℓ] [DecidableEq γ]

/-! The core ids of the requests of a component. -/

namespace Dram

variable {engine : Engine (DramCallback γ)} {cacheline : Int} {label : ℓ}

structure Checked (numCores : Int) (dram : Dram engine) : Prop where
  stays : dram.mem.numCores = numCores
  inRange : dram.mem.impl.InRange numCores

omit [DecidableEq γ] in
theorem Checked.ran {numCores : Int} {dram : Dram engine}
    (checked : dram.Checked numCores)
    (count : Nat) : (dram.ran count).Checked numCores where
  stays := checked.stays
  inRange := by
    obtain ⟨segment, wire, silent⟩ :=
      (PyMemorySystem.iterate_passes (fun _ => False) dram.mem.impl count).wire
    intro request accepted sent
    change _ ∈ (PyMemorySystem.tick^[count] dram.mem.impl).wire at sent
    rw [wire] at sent
    rcases List.mem_append.mp sent with old | new
    · exact checked.inRange request accepted old
    · exact (silent request accepted new).elim

omit [DecidableEq γ] in
theorem Checked.congr {numCores : Int} {dram changed : Dram engine}
    (checked : dram.Checked numCores) (mem : changed.mem = dram.mem) :
    changed.Checked numCores :=
  ⟨by rw [mem]; exact checked.stays, by rw [mem]; exact checked.inRange⟩

end Dram

namespace DramWorld

variable {setups : ℓ → DramSetup γ} {policy : TickPolicy}

theorem checked_keeps {allowed : Config (dramSystem η setups policy) →
      Decision (dramSystem η setups policy) → Prop} :
    Keeps True policy allowed (Each η fun label (dram : Dram (setups label).engine) =>
      1 ≤ (setups label).numCores → dram.Checked (setups label).numCores) := by
  refine Keeps.each (fun _ _ _ _ _ => trivial) ?_ ?_ ?_ ?_
  · intro label sim made after created positive
    obtain ⟨clk, base_pos, rfl⟩ := created.initial
    have fresh : (Dram.fresh (setups label) clk base_pos sim.now).Checked
        (setups label).numCores := ⟨rfl, fun request accepted sent => by cases sent⟩
    rcases created.dram with ⟨-, same⟩ | ⟨-, same⟩
    · rw [same]
      exact fresh.congr rfl
    · rw [same]
      exact fresh
  · intro config label request dram wellFormed _ _ running checked positive
    obtain ⟨numCores, inRange⟩ := checked positive
    obtain ⟨src, cache, count, same⟩ := Dram.collector_eq dram request.callback
    have kept : (dram.collector request.callback).2.mem = dram.mem := by rw [same]
    obtain ⟨impl, cores⟩ := Dram.submit_impl (.dram label : DramEvent γ → DramCode ℓ γ η)
      request config.sim dram
    rw [kept] at impl cores
    have bounded := inRange
    rw [← numCores] at bounded positive
    have sent := MemoryOp.begin_inRange running.stable positive bounded
      (request.op (dram.collector request.callback).1)
    rw [← impl, numCores] at sent
    refine ⟨?_, sent⟩
    rw [cores, MemorySystem.begin_numCores]
    exact numCores
  · intro label sim event dram count last ended ticked checked positive
    have ran := (checked positive).ran count
    cases ticked.ends with
    | pending busy => exact ran.congr rfl
    | idle serviced refresh => exact ran.congr rfl
    | stopped serviced noRefresh => exact ran.congr rfl
  · intro config decision label event dram ended _ _ _ _ _ ticked checked positive
    have ran := (checked positive).ran dram.batch.current.toNat
    cases ticked.ends with
    | refused large => exact checked positive
    | pending fits busy => exact ran.congr rfl
    | idle fits serviced => exact ran.congr rfl

end DramWorld

def DramSetup.Configured (ram : Ramulator) (configuration : Configuration ram)
    (numCores : Int) (setup : DramSetup γ) : Prop :=
  setup.numCores = numCores ∧ setup.engine =
    ram.createMemory (DramCallback γ) configuration.toConfig setup.cacheline numCores

namespace DramWorld

open Session (advance)

/-- The runs of a memory, and of components, that are made from a configuration ask
for none but the cores that the engine was created with if and only if the
configuration does not set fewer cores than `num_cores`. A dict never does. -/
theorem coreIds_inRange {ram : Ramulator} (lawful : ram.Lawful) (policy : TickPolicy)
    {configuration : Configuration ram} {cacheline numCores : Int}
    (positive : 1 ≤ numCores)
    {mem : MemorySystem
      (ram.createMemory (CppCallback (ReadWrap γ)) configuration.toConfig
      cacheline numCores)}
    (made : MemorySystem.init ram configuration cacheline numCores = .ok mem) :
    (((∀ decisions,
      (Transition.run advance (Session.create mem) decisions).mem.impl.InRange
          (ram.coreCount configuration.toConfig numCores)) ∧
        ∀ (setups : ℓ → DramSetup γ) (config : Config (dramSystem η setups policy))
            label dram,
          Transition.Reach Config.advance (fun _ _ => True)
            (Config.init (create setups)) config →
            (setups label).Configured ram configuration numCores →
              config.world.drams label = some dram →
                dram.mem.impl.InRange (ram.coreCount configuration.toConfig numCores)) ↔
      ram.getCoreNum configuration.toConfig = 0 ∨
        numCores ≤ ram.getCoreNum configuration.toConfig) ∧
    ∀ options, configuration = .dict none options →
      ram.getCoreNum configuration.toConfig = 0 := by
  obtain ⟨rfl, fits⟩ := MemorySystem.init_ok made
  refine ⟨?_, fun options named => named ▸ Configuration.dict_getCoreNum lawful options⟩
  rw [← lawful.le_coreCount]
  constructor
  · intro inRange
    obtain ⟨request, accepted, last, sent⟩ := Session.send_last
      (ram.createMemory (CppCallback (ReadWrap γ)) configuration.toConfig
        cacheline numCores)
      cacheline positive fits
    have below := (inRange.1 _ request accepted sent).2
    omega
  · intro enough
    constructor
    · intro decisions
      exact (Session.run_inRange cacheline positive decisions).mono enough
    · intro setups config label dram reached configured built
      obtain ⟨-, -, each⟩ :=
        checked_keeps.reach (fun _ _ impossible => by cases impossible)
        reached
      have checked : 1 ≤ (setups label).numCores → dram.Checked (setups label).numCores :=
        each label dram built
      rw [configured.1] at checked
      exact (checked positive).inRange.mono enough

/-- A library with one memory, of fixed latency, whose configurations are the core
number and the options that were added. -/
def fixedLatencyLibrary : Ramulator where
  Config := Int × List (String × String)
  new := (0, [])
  load _ := (0, [])
  add config name value := (config.1, (name, value) :: config.2)
  contains config name := (config.2.lookup name).isSome
  getItem config name := (config.2.lookup name).getD ""
  setCoreNum config num := (num, config.2)
  getCoreNum := Prod.fst
  create c _ _ _ := .fixedLatency c 2 4

theorem fixedLatencyLibrary_lawful : fixedLatencyLibrary.Lawful where
  get_new := rfl
  get_add _ _ _ := rfl
  get_set _ _ := rfl

/-- `Config(standard="DDR4")`, then `set_core_num(cores)`. -/
def withCoreNum (cores : Int) : Configuration fixedLatencyLibrary :=
  .made (cores, [("standard", "DDR4")])

/-- `Config(standard="DDR4")` as a dict. -/
def asDict : Configuration fixedLatencyLibrary :=
  .dict none [("standard", "DDR4")]

theorem coreIds_inRange_dict :
    ∃ mem, MemorySystem.init (γ := Nat) fixedLatencyLibrary asDict 64 4 = .ok mem ∧
      fixedLatencyLibrary.coreCount asDict.toConfig 4 = 4 ∧
        (Transition.run advance (Session.create mem)
          [.call (.send 0 .read 3 none)]).mem.impl.InRange 4 := by
  have fine :
      (MemorySystem.init (γ := Nat) fixedLatencyLibrary asDict 64 4).isOk = true := by
    decide +kernel
  have count : fixedLatencyLibrary.coreCount asDict.toConfig 4 = 4 := by decide +kernel
  rcases made : MemorySystem.init (γ := Nat) fixedLatencyLibrary asDict 64 4 with error |
    mem
  · rw [made] at fine
    cases fine
  · obtain ⟨exactly, dict⟩ := coreIds_inRange (ℓ := Unit) (η := Unit)
      fixedLatencyLibrary_lawful .coalesced (by decide) made
    refine ⟨mem, rfl, count, ?_⟩
    have runs := (exactly.mpr (.inl (dict _ rfl))).1 [.call (.send 0 .read 3 none)]
    rw [count] at runs
    exact runs

/-- With `set_core_num(1)` and four cores, core 3 is let through to statistics of one
core. -/
theorem coreNum_outOfRange :
    ∃ mem, MemorySystem.init (γ := Nat) fixedLatencyLibrary (withCoreNum 1) 64 4 =
      .ok mem ∧
      fixedLatencyLibrary.coreCount (withCoreNum 1).toConfig 4 = 1 ∧
        ¬ (Transition.run advance (Session.create mem)
          [.call (.send 0 .read 3 none)]).mem.impl.InRange
            (fixedLatencyLibrary.coreCount (withCoreNum 1).toConfig 4) := by
  have fine : (MemorySystem.init (γ := Nat) fixedLatencyLibrary
      (withCoreNum 1) 64 4).isOk = true := by
    decide +kernel
  have count : fixedLatencyLibrary.coreCount (withCoreNum 1).toConfig 4 = 1 := by
    decide +kernel
  rcases made : MemorySystem.init (γ := Nat) fixedLatencyLibrary
    (withCoreNum 1) 64 4 with error | mem
  · rw [made] at fine
    cases fine
  · obtain ⟨rfl, fits⟩ := MemorySystem.init_ok made
    refine ⟨_, rfl, count, fun inRange => ?_⟩
    obtain ⟨request, accepted, last, sent⟩ := Session.send_last
      (fixedLatencyLibrary.createMemory (CppCallback (ReadWrap Nat))
        (withCoreNum 1).toConfig 64 4)
      64 (by decide) fits
    obtain ⟨-, below⟩ := inRange request accepted sent
    rw [count, last] at below
    omega

end DramWorld

end Pyramulator
