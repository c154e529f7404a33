import Pyramulator.Memory.BatchFailure

namespace Pyramulator

/-! How a memory is made from a configuration, and the core ids of its requests. -/

/-- What the wrapper uses of the Ramulator library: its `Config`, and
`MemoryFactory<T>::create` for each standard. -/
structure Ramulator where
  Config : Type
  new : Config
  load : String → Config
  add : Config → String → String → Config
  contains : Config → String → Bool
  getItem : Config → String → String
  setCoreNum : Config → Int → Config
  getCoreNum : Config → Int
  create : (c : Type) → String → Config → Int → Engine c

structure Ramulator.Lawful (ram : Ramulator) : Prop where
  get_new : ram.getCoreNum ram.new = 0
  get_add : ∀ config name value,
    ram.getCoreNum (ram.add config name value) = ram.getCoreNum config
  get_set : ∀ config num, ram.getCoreNum (ram.setCoreNum config num) = num

/-- The `config` argument: the keyword arguments of a `Config`, or one that was made
before. -/
inductive Configuration (ram : Ramulator) where
  | dict (configFile : Option String) (options : List (String × String))
  | made (config : ram.Config)

namespace Configuration

variable {ram : Ramulator}

/-- `Config._DEFAULTS`. -/
def defaults : List (String × String) := [("channels", "1"), ("ranks", "1")]

/-- `Config.__init__`. -/
def make (ram : Ramulator) (configFile : Option String)
    (options : List (String × String)) :
    ram.Config :=
  let config := match configFile with
    | some path => ram.load path
    | none => ram.new
  let config :=
    options.foldl (fun config option => ram.add config option.1 option.2) config
  defaults.foldl
    (fun config option =>
      if ram.contains config option.1 then config
      else ram.add config option.1 option.2)
    config

/-- The `Config` that `MemorySystem.__init__` goes on with. -/
def toConfig : Configuration ram → ram.Config
  | .dict configFile options => make ram configFile options
  | .made config => config

theorem dict_getCoreNum (lawful : ram.Lawful) (options : List (String × String)) :
    ram.getCoreNum (Configuration.dict none options : Configuration ram).toConfig =
      0 := by
  have added (config : ram.Config) (zero : ram.getCoreNum config = 0) :
      ram.getCoreNum (options.foldl (fun config option =>
        ram.add config option.1 option.2) config) = 0 := by
    induction options generalizing config with
    | nil => exact zero
    | cons option rest induction => exact induction _ ((lawful.get_add ..).trans zero)
  have defaulted (config : ram.Config) (option : String × String)
      (zero : ram.getCoreNum config = 0) :
      ram.getCoreNum (if ram.contains config option.1 then config
        else ram.add config option.1 option.2) = 0 := by
    split
    · exact zero
    · exact (lawful.get_add ..).trans zero
  exact defaulted _ ("ranks", "1")
    (defaulted _ ("channels", "1") (added _ lawful.get_new))

end Configuration

/-- `_standard_key`. -/
def standardKey (standard : String) : String :=
  if standard.startsWith "SALP" then "SALP" else standard

/-- `MIN_CACHELINE`. -/
def minCacheline : List (String × Int) :=
  [("DDR3", 64), ("DDR4", 64), ("LPDDR3", 32), ("LPDDR4", 32), ("GDDR5", 32),
    ("WideIO", 64), ("WideIO2", 64), ("HBM", 64), ("SALP", 64)]

/-- The keys of `name_to_func`. -/
def supportedStandards : List String :=
  ["DDR3", "DDR4", "LPDDR3", "LPDDR4", "GDDR5", "WideIO", "WideIO2", "HBM",
    "SALP-1", "SALP-2", "SALP-MASA"]

/-- `cacheline <= 0 or (cacheline & (cacheline - 1)) != 0`. -/
def notPowerOfTwo (cacheline : Int) : Bool :=
  cacheline ≤ 0 || cacheline.toNat &&& (cacheline - 1).toNat != 0

namespace Ramulator

variable (ram : Ramulator)

def withCores (config : ram.Config) (numCores : Int) : ram.Config :=
  if ram.getCoreNum config = 0 then ram.setCoreNum config numCores else config

/-- `create_memory`. -/
def createMemory (c : Type) (config : ram.Config) (cacheline numCores : Int) : Engine c :=
  ram.create c (ram.getItem (ram.withCores config numCores) "standard")
    (ram.withCores config numCores) cacheline

def coreCount (config : ram.Config) (numCores : Int) : Int :=
  ram.getCoreNum (ram.withCores config numCores)

variable {ram}

/-- `num_cores` is enough for the check of core ids exactly if the configuration does
not set fewer. -/
theorem Lawful.le_coreCount (lawful : ram.Lawful) (config : ram.Config) (numCores : Int) :
    numCores ≤ ram.coreCount config numCores ↔
      ram.getCoreNum config = 0 ∨ numCores ≤ ram.getCoreNum config := by
  rw [coreCount, withCores]
  split
  · rename_i zero
    exact iff_of_true (lawful.get_set config numCores).ge (.inl zero)
  · rename_i set
    exact (or_iff_right set).symm

end Ramulator

namespace MemorySystem

variable {γ : Type}

/-- `MemorySystem.__init__`, with the constructor of the wrapper. -/
def init (ram : Ramulator) (configuration : Configuration ram)
    (cacheline numCores : Int) :
    Except PyError (MemorySystem (ram.createMemory (CppCallback (ReadWrap γ))
      configuration.toConfig cacheline numCores)) :=
  let config := configuration.toConfig
  let standard := ram.getItem config "standard"
  let created := ram.getItem (ram.withCores config numCores) "standard"
  let min := (minCacheline.lookup (standardKey standard)).getD 8
  if notPowerOfTwo cacheline then
    .error (.valueError s!"cacheline must be a power of two, got {cacheline}")
  else if cacheline < min ∨ cacheline % min ≠ 0 then
    .error (.valueError (s!"cacheline {cacheline} is not a multiple of the {standard} " ++
      s!"minimum channel unit ({min} bytes)"))
  else if ¬ (FitsInt cacheline ∧ FitsInt numCores) then .error .typeError
  else if created ∉ supportedStandards then
    .error (.valueError
      s!"unsupported standard: {created}")
  else .ok (.create _ cacheline numCores)

theorem init_ok {ram : Ramulator} {configuration : Configuration ram}
    {cacheline numCores : Int}
    {mem : MemorySystem
      (ram.createMemory (CppCallback (ReadWrap γ)) configuration.toConfig
      cacheline numCores)}
    (made : MemorySystem.init ram configuration cacheline numCores = .ok mem) :
    mem = .create _ cacheline numCores ∧ FitsInt numCores := by
  simp only [init] at made
  split at made
  · cases made
  · split at made
    · cases made
    · split at made
      · cases made
      · rename_i fits
        split at made
        · cases made
        · exact ⟨(Except.ok.inj made).symm, (not_not.mp fits).2⟩

end MemorySystem

variable {γ : Type} {engine : Engine (CppCallback (ReadWrap γ))}

def PyMemorySystem.InRange {π : Type} {engine : Engine (CppCallback π)} (cores : Int)
    (sys : PyMemorySystem engine) : Prop :=
  ∀ request accepted, .sent request accepted ∈ sys.wire →
    0 ≤ request.coreid ∧ request.coreid < cores

theorem PyMemorySystem.InRange.mono {π : Type} {engine : Engine (CppCallback π)}
    {sys : PyMemorySystem engine} {few many : Int} (inRange : sys.InRange few)
    (le : few ≤ many) : sys.InRange many :=
  fun request accepted sent =>
    ⟨(inRange request accepted sent).1,
      lt_of_lt_of_le (inRange request accepted sent).2 le⟩

theorem MemoryOp.Asks.inRange {op : MemoryOp γ} {numCores : Int} (positive : 1 ≤ numCores)
    {drives : Nat} {request : Request (CppCallback (ReadWrap γ))}
    (asked : op.Asks numCores drives request) :
    0 ≤ request.coreid ∧ request.coreid < numCores := by
  have driven (zero : request.coreid = 0) :
      0 ≤ request.coreid ∧ request.coreid < numCores := by omega
  cases op with
  | send => exact asked.2.2.1 ▸ asked.1
  | sendBatch => exact asked.2.2.1 ▸ asked.1
  | sendRange => exact asked.2.2.1 ▸ asked.1
  | drive => exact driven asked.2.1
  | driveRange => exact driven asked.2.1
  | _ => exact asked.elim

theorem MemoryOp.begin_inRange [DecidableEq γ] {cacheline : Int}
    {mem : MemorySystem engine}
    (stable : mem.Stable cacheline) (positive : 1 ≤ mem.numCores)
    (inRange : mem.impl.InRange mem.numCores) (op : MemoryOp γ) :
    (op.begin mem).2.impl.InRange mem.numCores := by
  obtain ⟨start, done, -, begun, -, passes, -, ended, -⟩ := op.handles stable
  obtain ⟨segment, wire, asked⟩ := passes.wire
  intro request accepted sent
  rw [ended, wire, begun] at sent
  rcases List.mem_append.mp sent with old | new
  · exact inRange request accepted old
  · exact (asked request accepted new).inRange positive

namespace Session

variable [DecidableEq γ]

theorem run_inRange (cacheline : Int) {numCores : Int} (positive : 1 ≤ numCores)
    (decisions : List (MemoryDecision γ)) :
    (Transition.run advance (create (MemorySystem.create engine cacheline numCores))
      decisions).mem.impl.InRange numCores := by
  refine (Transition.run_invariant
    (fun session : Session engine =>
      session.Steady cacheline numCores ∧ session.mem.impl.InRange numCores)
    (fun session decision both => ?_) ?_ decisions).2
  · obtain ⟨steady, inRange⟩ := both
    refine ⟨advance_steady steady decision, ?_⟩
    rcases session.advance_mem decision with ⟨clk, same⟩ | ⟨op, -, same⟩
    · rw [same]
      exact inRange
    · rw [same]
      have bounded := inRange
      rw [← steady.numCores] at bounded positive ⊢
      exact op.begin_inRange steady.stable positive bounded
  · exact ⟨⟨⟨rfl, rfl⟩, rfl⟩, fun request accepted sent => by cases sent⟩

theorem send_last (engine : Engine (CppCallback (ReadWrap γ))) (cacheline : Int)
    {numCores : Int} (positive : 1 ≤ numCores) (fits : FitsInt numCores) :
    ∃ request accepted, request.coreid = numCores - 1 ∧ .sent request accepted ∈
      (Transition.run advance (create (MemorySystem.create engine cacheline numCores))
        [.call (.send 0 .read (numCores - 1) none)]).mem.impl.wire := by
  let mem := MemorySystem.create engine cacheline numCores
  have stable : mem.Stable cacheline := ⟨rfl, rfl⟩
  obtain ⟨sends, issues⟩ := MemorySystem.send_issues stable 0 .read (numCores - 1) none
  have small : FitsInt (numCores - 1) := by
    unfold FitsInt at fits ⊢
    omega
  have checked : (0 ≤ numCores - 1 ∧ numCores - 1 < mem.numCores) ∧
      FitsInt (numCores - 1) := by
    refine ⟨⟨by omega, ?_⟩, small⟩
    change numCores - 1 < numCores
    omega
  have reached := issues.reached
  rw [if_pos checked] at reached
  have one : PyMemorySystem.reaching [0] = [0] := by decide
  rw [one] at reached
  obtain ⟨⟨addr, accepted⟩, rest, same⟩ : ∃ send rest, sends = send :: rest := by
    cases sends with
    | nil => cases reached
    | cons send rest => exact ⟨send, rest, rfl⟩
  refine ⟨⟨addr, .read, numCores - 1,
    PyMemorySystem.makeCallback .read (Option.map ReadWrap.mk none) (numCores - 1)⟩,
      accepted, rfl, ?_⟩
  change _ ∈ ((create mem).call (.send 0 .read (numCores - 1) none)).mem.impl.wire
  rw [call_mem]
  change _ ∈ (mem.send 0 .read (numCores - 1) none).2.impl.wire
  rw [issues.sending.wire, same]
  exact List.mem_append_right _ List.mem_cons_self

end Session

end Pyramulator
