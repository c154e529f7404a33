import Mathlib.Data.Nat.Bits
import Mathlib.Data.Rat.Defs
import Pyramulator.Memory.ConfigFile

namespace Pyramulator.Configuration

/-! Which configurations are valid, and what is estimated from them. -/

open Text

namespace Tables

/-- `SUPPORTED_STANDARDS`. -/
def supportedStandards : List String :=
  [ "DDR3", "DDR4", "LPDDR3", "LPDDR4", "GDDR5", "WideIO", "WideIO2", "HBM",
    "SALP-1", "SALP-2", "SALP-MASA"]

/-- `SPEED_GRADES`. -/
def speedGrades : List (String × List String) :=
  [ ("DDR3", [
      "DDR3_800D", "DDR3_800E", "DDR3_1066E", "DDR3_1066F", "DDR3_1066G", "DDR3_1333G",
      "DDR3_1333H", "DDR3_1600H", "DDR3_1600J", "DDR3_1600K", "DDR3_1866K", "DDR3_1866L",
      "DDR3_2133L", "DDR3_2133M"]),
    ("DDR4", [
      "DDR4_1600K", "DDR4_1600L", "DDR4_1866M", "DDR4_1866N", "DDR4_2133P", "DDR4_2133R",
      "DDR4_2400R", "DDR4_2400U", "DDR4_3200", "DDR4_3200AA"]),
    ("LPDDR3", ["LPDDR3_1333", "LPDDR3_1600", "LPDDR3_1866", "LPDDR3_2133"]),
    ("LPDDR4", ["LPDDR4_1600", "LPDDR4_2400", "LPDDR4_3200"]),
    ("GDDR5", [
      "GDDR5_4000", "GDDR5_4500", "GDDR5_5000", "GDDR5_5500", "GDDR5_6000", "GDDR5_6500",
      "GDDR5_7000"]),
    ("WideIO", ["WideIO_200", "WideIO_266"]),
    ("WideIO2", ["WideIO2_800", "WideIO2_1066"]),
    ("HBM", ["HBM_1Gbps"]),
    ("SALP", [
      "SALP_800D", "SALP_800E", "SALP_1066E", "SALP_1066F", "SALP_1066G", "SALP_1333G",
      "SALP_1333H", "SALP_1600H", "SALP_1600J", "SALP_1600K", "SALP_1866K", "SALP_1866L",
      "SALP_2133L", "SALP_2133M"])]

/-- `ORGANIZATIONS`. -/
def organizations : List (String × List String) :=
  [ ("DDR3", [
      "DDR3_512Mb_x4", "DDR3_512Mb_x8", "DDR3_512Mb_x16", "DDR3_1Gb_x4", "DDR3_1Gb_x8",
      "DDR3_1Gb_x16", "DDR3_2Gb_x4", "DDR3_2Gb_x8", "DDR3_2Gb_x16", "DDR3_4Gb_x4",
      "DDR3_4Gb_x8", "DDR3_4Gb_x16", "DDR3_8Gb_x4", "DDR3_8Gb_x8", "DDR3_8Gb_x16"]),
    ("DDR4", [
      "DDR4_2Gb_x4", "DDR4_2Gb_x8", "DDR4_2Gb_x16", "DDR4_4Gb_x4", "DDR4_4Gb_x8",
      "DDR4_4Gb_x16", "DDR4_8Gb_x4", "DDR4_8Gb_x8", "DDR4_8Gb_x16"]),
    ("LPDDR3", [
      "LPDDR3_4Gb_x16", "LPDDR3_4Gb_x32", "LPDDR3_6Gb_x16", "LPDDR3_6Gb_x32",
      "LPDDR3_8Gb_x16", "LPDDR3_8Gb_x32", "LPDDR3_12Gb_x16", "LPDDR3_12Gb_x32",
      "LPDDR3_16Gb_x16", "LPDDR3_16Gb_x32"]),
    ("LPDDR4", ["LPDDR4_4Gb_x16", "LPDDR4_6Gb_x16", "LPDDR4_8Gb_x16"]),
    ("GDDR5", [
      "GDDR5_512Mb_x16", "GDDR5_512Mb_x32", "GDDR5_1Gb_x16", "GDDR5_1Gb_x32",
      "GDDR5_2Gb_x16",
      "GDDR5_2Gb_x32", "GDDR5_4Gb_x16", "GDDR5_4Gb_x32", "GDDR5_8Gb_x16",
      "GDDR5_8Gb_x32"]),
    ("WideIO", ["WideIO_1Gb", "WideIO_2Gb", "WideIO_4Gb", "WideIO_8Gb"]),
    ("WideIO2", ["WideIO2_8Gb"]),
    ("HBM", ["HBM_1Gb", "HBM_2Gb", "HBM_4Gb"]),
    ("SALP", [
      "SALP_512Mb_x4", "SALP_512Mb_x8", "SALP_512Mb_x16", "SALP_1Gb_x4", "SALP_1Gb_x8",
      "SALP_1Gb_x16", "SALP_2Gb_x4", "SALP_2Gb_x8", "SALP_2Gb_x16", "SALP_4Gb_x4",
      "SALP_4Gb_x8", "SALP_4Gb_x16", "SALP_8Gb_x4", "SALP_8Gb_x8", "SALP_8Gb_x16"])]

/-- `SUPPORTED_MAPPINGS`. -/
def supportedMappings : List String :=
  [ "defaultmapping", "row_interleaving", "cacheline_interleaving",
    "row_interleaving_randomized", "cacheline_interleaving_randomized"]

/-- `_CHANNEL_WIDTHS`. -/
def channelWidths : List (String × Int) :=
  [ ("DDR3", 64), ("DDR4", 64), ("LPDDR3", 32), ("LPDDR4", 16), ("GDDR5", 32),
    ("WideIO", 128), ("WideIO2", 128), ("HBM", 128), ("SALP", 64)]

/-- `_DATA_RATES`. -/
def dataRates : List (String × Int) :=
  [ ("DDR3_800", 800), ("DDR3_1066", 1066), ("DDR3_1333", 1333), ("DDR3_1600", 1600),
    ("DDR3_1866", 1866), ("DDR3_2133", 2133), ("DDR4_1600", 1600), ("DDR4_1866", 1866),
    ("DDR4_2133", 2133), ("DDR4_2400", 2400), ("DDR4_3200", 3200), ("LPDDR3_1333", 1333),
    ("LPDDR3_1600", 1600), ("LPDDR3_1866", 1866), ("LPDDR3_2133", 2133),
      ("LPDDR4_1600", 1600),
    ("LPDDR4_2400", 2400), ("LPDDR4_3200", 3200), ("GDDR5_4000", 4000),
      ("GDDR5_4500", 4500),
    ("GDDR5_5000", 5000), ("GDDR5_5500", 5500), ("GDDR5_6000", 6000),
      ("GDDR5_6500", 6500),
    ("GDDR5_7000", 7000), ("WideIO_200", 200), ("WideIO_266", 266), ("WideIO2_800", 800),
    ("WideIO2_1066", 1066), ("HBM_1Gbps", 1000), ("SALP_800", 800), ("SALP_1066", 1066),
    ("SALP_1333", 1333), ("SALP_1600", 1600), ("SALP_1866", 1866), ("SALP_2133", 2133)]

/-- `_UNIT_MULTIPLIERS`. -/
def unitMultipliers : List (String × Int) :=
  [ ("", 1), ("K", 1024), ("M", 1048576), ("G", 1073741824), ("T", 1099511627776)]

end Tables

/-- The spaces that `int` skips: it does not take the separators 28 to 31 for spaces. -/
def skipped (char : Char) : Bool := isSpace char && !(28 ≤ char.toNat && char.toNat ≤ 31)

/-- The number at the start of a text, how many digits it has, and the rest of the text.
An underscore may stand between two digits. -/
def digits (value count : Nat) (afterDigit : Bool) : List Char →
    Option (Nat × Nat × List Char)
  | [] => if afterDigit then some (value, count, []) else none
  | first :: rest =>
      if first = '_' then
        if afterDigit then digits value count false rest else none
      else
        match decimal first with
        | some digit => digits (10 * value + digit) (count + 1) true rest
        | none => if afterDigit then some (value, count, first :: rest) else none

/-- `sys.int_info.default_max_str_digits`. -/
def maxStrDigits : Nat := 4300

/-- `int`. The interpreter cuts the text that the error shows after 200 characters. -/
def int (text : String) : Except PyError Int :=
  let invalid := .error (.valueErrorOf "invalid literal for int() with base 10: " text "")
  let (sign, unsigned) : Int × List Char := match strip skipped text.toList with
    | '-' :: rest => (-1, rest)
    | '+' :: rest => (1, rest)
    | unsigned => (1, unsigned)
  match digits 0 0 false unsigned with
  | none => invalid
  | some (value, count, rest) =>
      if maxStrDigits < count then
        .error (.valueError (s!"Exceeds the limit ({maxStrDigits} digits) for integer " ++
          s!"string conversion: value has {count} digits; " ++
          "use sys.set_int_max_str_digits() to increase the limit"))
      else if rest = [] then .ok (sign * value) else invalid

/-- `int.bit_count`. -/
def bitCount (value : Int) : Nat := value.natAbs.bits.count true

/-- `str` of a list of texts that have no quotes in them. -/
def shown (items : List String) : String :=
  "[" ++ ", ".intercalate (items.map fun item => "'" ++ item ++ "'") ++ "]"

/-- `if failed: raise ValueError(message)`. -/
def raiseIf (failed : Prop) [Decidable failed] (message : String) : Except PyError Unit :=
  if failed then .error (.valueError message) else .ok ()

/-- `table.get(key, [])`. -/
def choices (table : List (String × List String)) (key : String) : List String :=
  (table.lookup key).getD []

section

variable (ram : Ramulator) (config : ram.Config)

/-- `Config.validate`. -/
def validate : Except PyError Unit := do
  let standard := ram.getItem config "standard"
  raiseIf (standard = "") "missing required field: standard"
  let standards := shown Tables.supportedStandards
  raiseIf (standard ∉ Tables.supportedStandards)
    s!"unsupported standard '{standard}', choose from: {standards}"
  let key := standardKey standard
  let speed := ram.getItem config "speed"
  let speeds := choices Tables.speedGrades key
  let shownSpeeds := shown speeds
  raiseIf (speed ≠ "" ∧ speed ∉ speeds)
    s!"invalid speed '{speed}' for {standard}, choose from: {shownSpeeds}"
  let org := ram.getItem config "org"
  let orgs := choices Tables.organizations key
  let shownOrgs := shown orgs
  raiseIf (org ≠ "" ∧ org ∉ orgs)
    s!"invalid org '{org}' for {standard}, choose from: {shownOrgs}"
  let mapping := ram.getItem config "mapping"
  let mappings := shown Tables.supportedMappings
  raiseIf (mapping ≠ "" ∧ mapping ∉ Tables.supportedMappings)
    s!"invalid mapping '{mapping}', choose from: {mappings}"
  let channels ← int (ram.getItem config "channels")
  let ranks ← int (ram.getItem config "ranks")
  raiseIf (channels < 1 ∨ bitCount channels ≠ 1)
    s!"channels must be a power of 2, got {channels}"
  raiseIf (ranks < 1 ∨ bitCount ranks ≠ 1) s!"ranks must be a power of 2, got {ranks}"

/-- `text.split("_")`. -/
def parts (text : String) : List (List Char) := text.toList.splitOn '_'

/-- `_parse_org`. The second part is missing from a text without an underscore. -/
def parseOrg (org : String) : Except PyError (Int × Option Int) := do
  let some second := (parts org)[1]? | .error .indexError
  let density := second.rdropWhile fun char => char = 'b' ∨ char = 'B'
  let unit := density.getLast?
  let bits ←
    if unit.any isDigit then int (String.ofList density)
    else do
      let value ← int (String.ofList density.dropLast)
      let suffix := String.ofList (unit.toList.map Char.toUpper)
      .ok (value * (Tables.unitMultipliers.lookup suffix).getD 1)
  let chipWidth ← match (parts org)[2]? with
    | some ('x' :: width) => (int (String.ofList width)).map some
    | _ => .ok none
  return (bits, chipWidth)

/-- `estimate_capacity`. -/
def estimateCapacity (standard org : String) (channels ranks : Int) :
    Except PyError Int := do
  let (densityBits, chipWidth) ← parseOrg org
  let channelWidth := (Tables.channelWidths.lookup (standardKey standard)).getD 64
  let chipsPerRank := match chipWidth with
    | some width => if width = 0 then 1 else channelWidth.fdiv width
    | none => 1
  return densityBits.fdiv 8 * chipsPerRank * ranks * channels

/-- `MemorySystem.capacity`. -/
def capacity : Except PyError Int := do
  let channels ← int (ram.getItem config "channels")
  let ranks ← int (ram.getItem config "ranks")
  estimateCapacity (ram.getItem config "standard")
    (ram.getItem config "org") channels ranks

def ratePrefix (speed : String) : Except PyError String := do
  let some second := (parts speed)[1]? | .error .indexError
  return String.ofList ((parts speed).headD [] ++
    '_' :: second.rdropWhile fun char => char.isUpper)

def floatLimit : Nat := 2 ^ 1024 - 2 ^ 970

def toFloat (value : Int) : Except PyError ℚ :=
  if value.natAbs < floatLimit then .ok value
  else .error (.overflowError "int too large to convert to float")

/-- `theoretical_bandwidth`, in exact numbers. The code rounds, and what exceeds the
largest float is infinite to it. -/
def theoreticalBandwidth (configuration : Configuration ram) : Except PyError ℚ := do
  let config := configuration.toConfig
  let standard := ram.getItem config "standard"
  let speed := ram.getItem config "speed"
  let channels ← int (ram.getItem config "channels")
  let widthBits := (Tables.channelWidths.lookup (standardKey standard)).getD 64
  let rate ← ratePrefix speed
  let dataRate := (Tables.dataRates.lookup rate).getD 0
  raiseIf (dataRate = 0) s!"unknown data rate for speed '{speed}'"
  let transfersPerSec : ℚ := dataRate * 1000000
  let bytesPerTransfer : Int := widthBits.fdiv 8
  let factor ← toFloat channels
  return transfersPerSec * bytesPerTransfer * factor / 1000000000

end

end Pyramulator.Configuration
