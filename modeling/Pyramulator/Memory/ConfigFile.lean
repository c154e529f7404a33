import Pyramulator.Data.Dict
import Pyramulator.Data.Text
import Pyramulator.Memory.Configuration
import Pyramulator.Memory.Engine

namespace Pyramulator

/-! Configurations that are read from a file. -/

open Text

namespace Configuration

/-- `str.isspace`, of one character. -/
def isSpace (char : Char) : Bool :=
  let code := char.toNat
  (9 ≤ code && code ≤ 13) || (28 ≤ code && code ≤ 32) || code == 0x85 || code == 0xa0 ||
    code == 0x1680 || (0x2000 ≤ code && code ≤ 0x200a) || code == 0x2028 ||
      code == 0x2029 ||
    code == 0x202f || code == 0x205f || code == 0x3000

def parseLine (raw : List Char) : Option (String × String) :=
  let line := strip isSpace (before '#' raw)
  if line = [] ∨ '=' ∉ line then none
  else some (String.ofList (strip isSpace (before '=' line)),
    String.ofList (strip isSpace (after '=' line)))

def parse (text : String) : Dict String String :=
  (lines (newlines text.toList)).foldl
    (fun options raw =>
      match parseLine raw with
      | some option => options.set option.1 option.2
      | none => options) []

/-- `Config.from_file`. An override may be called as a parameter of `from_file`, and an
option as one of `__init__`. -/
def fromFile (ram : Ramulator) (text : String) (overrides : Dict String String) :
    Except PyError ram.Config :=
  let options := (parse text).update overrides
  if "cls" ∈ overrides.map Prod.fst ∨ "path" ∈ overrides.map Prod.fst then
    .error .typeError
  else if "self" ∈ options.map Prod.fst then .error .typeError
  else .ok (make ram (options.lookup "config_file")
    (options.filter fun option => option.1 ≠ "config_file"))

def assignments (text : String) : List (String × String) :=
  (lines (newlines text.toList)).filterMap parseLine

theorem parse_eq (text : String) : parse text = Dict.update [] (assignments text) := by
  rw [parse, assignments, Dict.update, List.foldl_filterMap]
  congr 1
  funext options raw
  cases parseLine raw <;> rfl

def assignment (option : String × String) : List Char :=
  option.1.toList ++ ' ' :: '=' :: ' ' :: option.2.toList ++ ['\n']

def cfgText (options : Dict String String) : String :=
  String.ofList (options.flatMap assignment)

structure Plain (option : String × String) : Prop where
  key : strip isSpace option.1.toList = option.1.toList
  value : strip isSpace option.2.toList = option.2.toList
  keyMarks : ∀ mark ∈ ['#', '\n', '\r', '='], mark ∉ option.1.toList
  valueMarks : ∀ mark ∈ ['#', '\n', '\r'], mark ∉ option.2.toList

structure WellFormed (options : Dict String String) : Prop where
  distinct : (options.map Prod.fst).Nodup
  plain : ∀ option ∈ options, Plain option

theorem equals_dark : isSpace '=' = false := by decide

theorem parseLine_equals {left right : List Char} (once : '=' ∉ left)
    (noComment : '#' ∉ left ++ '=' :: right) :
    parseLine (left ++ '=' :: right) =
      some (String.ofList (strip isSpace left), String.ofList (strip isSpace right)) := by
  have unstripped : '=' ∉ left.dropWhile isSpace := fun member =>
    once ((List.dropWhile_sublist _).subset member)
  simp only [parseLine, before_of_not_mem noComment, strip_append_cons equals_dark,
    before_append unstripped, after_append unstripped, strip_dropWhile, strip_rdropWhile]
  rw [if_neg (by simp)]

theorem parseLine_assignment {option : String × String} (plain : Plain option) :
    parseLine (assignment option) = some option := by
  have space : isSpace ' ' = true := by decide
  have ending : isSpace '\n' = true := by decide
  have shape : assignment option =
      (option.1.toList ++ [' ']) ++ '=' :: (' ' :: (option.2.toList ++ ['\n'])) := by
    simp [assignment]
  have keyed := plain.keyMarks
  have valued := plain.valueMarks
  rw [shape, parseLine_equals, strip_concat space, strip_cons space, strip_concat ending,
    plain.key, plain.value, String.ofList_toList, String.ofList_toList]
  · simp [keyed '=' (by simp)]
  · simp [keyed '#' (by simp), valued '#' (by simp)]

theorem plain_of_parseLine {text : List Char} {raw : List Char}
    (listed : raw ∈ lines (newlines text)) {option : String × String}
    (parsed : parseLine raw = some option) : Plain option := by
  obtain ⟨content, one, within, shape⟩ := of_mem_lines listed
  have ending : isSpace '\n' = true := by decide
  -- The end of the line goes, be it in a comment or not.
  have cut : ∀ mark ∈ strip isSpace (before '#' raw), mark ∈ content ∧ mark ≠ '#' := by
    intro mark member
    refine ⟨?_, ?_⟩
    · rcases shape with rfl | rfl
      · by_cases comment : '#' ∈ content
        · have split := before_mark_after comment
          have absent := not_mem_before '#' content
          have same : before '#' (content ++ ['\n']) = before '#' content := by
            conv_lhs => rw [← split, List.append_assoc, List.cons_append]
            exact before_append absent _
          rw [same] at member
          exact mem_of_mem_before (mem_of_mem_strip member)
        · rw [before_of_not_mem (by simp [comment]), strip_concat ending] at member
          exact mem_of_mem_strip member
      · exact mem_of_mem_before (mem_of_mem_strip member)
    · rintro rfl
      exact not_mem_before '#' raw (mem_of_mem_strip member)
  have clean : ∀ mark ∈ ['#', '\n', '\r'], mark ∉ strip isSpace (before '#' raw) := by
    intro mark marks member
    obtain ⟨inside, other⟩ := cut mark member
    simp only [List.mem_cons, List.not_mem_nil, or_false] at marks
    rcases marks with rfl | rfl | rfl
    · exact other rfl
    · exact one inside
    · exact not_mem_newlines text (within _ inside)
  simp only [parseLine] at parsed
  split at parsed
  · cases parsed
  · rename_i assigns
    rw [not_or, not_not] at assigns
    have split := before_mark_after assigns.2
    cases parsed
    refine ⟨?_, ?_, ?_, ?_⟩
    · simp only [String.toList_ofList, strip_strip]
    · simp only [String.toList_ofList, strip_strip]
    · intro mark marks member
      rw [String.toList_ofList] at member
      have inside := mem_of_mem_before (mem_of_mem_strip member)
      rcases List.mem_append.mp (show mark ∈ ['#', '\n', '\r'] ++ ['='] from marks) with
        early | equals
      · exact clean mark early inside
      · obtain rfl := List.mem_singleton.mp equals
        exact not_mem_before '=' _ (mem_of_mem_strip member)
    · intro mark marks member
      rw [String.toList_ofList] at member
      refine clean mark marks ?_
      rw [← split]
      exact List.mem_append_right _ (List.mem_cons_of_mem _ (mem_of_mem_strip member))

theorem parse_wellFormed (text : String) : WellFormed (parse text) := by
  rw [parse_eq]
  suffices extend : ∀ (given : List (String × String)) (options : Dict String String),
      (∀ option ∈ given, Plain option) → WellFormed options →
      WellFormed (options.update given) from
    extend (assignments text) []
      (fun option member => by
        obtain ⟨raw, listed, parsed⟩ := List.mem_filterMap.mp member
        exact plain_of_parseLine listed parsed)
      ⟨List.nodup_nil, fun _ impossible => by cases impossible⟩
  intro given
  induction given with
  | nil => exact fun _ _ wellFormed => wellFormed
  | cons first rest induction =>
      intro options plain wellFormed
      refine induction (options.set first.1 first.2)
        (fun option member => plain option (List.mem_cons_of_mem _ member))
        ⟨Dict.nodup_set wellFormed.distinct _ _, fun option member => ?_⟩
      rcases Dict.mem_of_mem_set member with rfl | old
      · exact plain _ List.mem_cons_self
      · exact wellFormed.plain option old

theorem assignments_cfgText {options : Dict String String}
    (plain : ∀ option ∈ options, Plain option) :
    assignments (cfgText options) = options := by
  have breakless (option : String × String) (member : option ∈ options) :
      '\r' ∉ assignment option := by
    have keyed := (plain option member).keyMarks '\r' (by simp)
    have valued := (plain option member).valueMarks '\r' (by simp)
    simp [assignment, keyed, valued]
  have whole : '\r' ∉ options.flatMap assignment := by
    intro member
    obtain ⟨option, listed, inside⟩ := List.mem_flatMap.mp member
    exact breakless option listed inside
  rw [assignments, cfgText, String.toList_ofList, newlines_of_not_mem whole]
  clear whole breakless
  induction options with
  | nil => rfl
  | cons option rest induction =>
      have first := plain option List.mem_cons_self
      have keyed := first.keyMarks '\n' (by simp)
      have valued := first.valueMarks '\n' (by simp)
      have shape : (option :: rest).flatMap assignment =
          (option.1.toList ++ ' ' :: '=' :: ' ' :: option.2.toList) ++
            '\n' :: rest.flatMap assignment := by
        simp [assignment]
      have ended : (option.1.toList ++ ' ' :: '=' :: ' ' :: option.2.toList) ++ ['\n'] =
          assignment option := by
        simp [assignment]
      rw [shape, lines_append (by simp [keyed, valued]), ended, List.filterMap_cons,
        parseLine_assignment first,
        induction fun other member => plain other (List.mem_cons_of_mem _ member)]

theorem parse_cfgText {options : Dict String String} (wellFormed : WellFormed options) :
    parse (cfgText options) = options := by
  rw [parse_eq, assignments_cfgText wellFormed.plain]
  exact Dict.update_of_nodup wellFormed.distinct

/-- The options that come back from a file are the ones that a file can have, and a file
gives nothing else. -/
theorem parse_cfgText_iff :
    (∀ options : Dict String String,
      parse (cfgText options) = options ↔ WellFormed options) ∧
    ∀ text, WellFormed (parse text) := by
  refine ⟨fun options => ⟨fun same => ?_, parse_cfgText⟩, parse_wellFormed⟩
  rw [← same]
  exact parse_wellFormed _

end Configuration

/-- `Config::add` overwrites nothing, and an option that is not there reads as the empty
string. -/
structure Ramulator.Options (ram : Ramulator) : Prop where
  contains_new : ∀ name, ram.contains ram.new name = false
  get_new : ∀ name, ram.getItem ram.new name = ""
  contains_add : ∀ config name value other,
    ram.contains (ram.add config name value) other =
      (other == name || ram.contains config other)
  get_add : ∀ config name value other, ram.getItem (ram.add config name value) other =
    if other = name ∧
      ram.contains config name = false then value else ram.getItem config other

namespace Configuration

variable {ram : Ramulator} {config : ram.Config} {options : Dict String String}

structure Holds (config : ram.Config) (options : Dict String String) : Prop where
  contains : ∀ name, ram.contains config name = (options.lookup name).isSome
  getItem : ∀ name, ram.getItem config name = (options.lookup name).getD ""

theorem Holds.add (laws : ram.Options) (holds : Holds config options)
    (name value : String) :
    Holds (ram.add config name value) (options ++ [(name, value)]) where
  contains other := by
    rw [laws.contains_add, holds.contains, List.lookup_append, Dict.lookup_cons,
      List.lookup_nil]
    by_cases same : other = name
    · simp [same]
    · simp [same]
  getItem other := by
    rw [laws.get_add, holds.contains, holds.getItem, List.lookup_append, Dict.lookup_cons,
      List.lookup_nil]
    by_cases same : other = name
    · subst same
      cases options.lookup other <;> simp
    · simp [same]

theorem Holds.addAll (laws : ram.Options) (holds : Holds config options)
    (more : List (String × String)) :
    Holds (more.foldl (fun config option => ram.add config option.1 option.2) config)
      (options ++ more) := by
  induction more generalizing config options with
  | nil =>
      rw [List.append_nil]
      exact holds
  | cons option rest induction =>
      have next := induction (holds.add laws option.1 option.2)
      rw [List.append_assoc] at next
      exact next

theorem Holds.addDefault (laws : ram.Options) (holds : Holds config options)
    (option : String × String) :
    Holds (if ram.contains config option.1 then config
      else ram.add config option.1 option.2) (options ++ [option]) := by
  split
  · rename_i there
    have same (name : String) :
        (options ++ [option]).lookup name = options.lookup name := by
      rw [holds.contains] at there
      rw [List.lookup_append, Dict.lookup_cons, List.lookup_nil]
      by_cases here : name = option.1
      · subst here
        obtain ⟨value, found⟩ := Option.isSome_iff_exists.mp there
        rw [found, Option.some_or]
      · rw [if_neg here, Option.or_none]
    exact ⟨fun
      name => by rw [same, holds.contains], fun name => by rw [same, holds.getItem]⟩
  · exact holds.add laws option.1 option.2

theorem holds_make (laws : ram.Options) (options : Dict String String) :
    Holds (make ram none options) (options ++ defaults) := by
  have new : Holds ram.new [] := ⟨laws.contains_new, laws.get_new⟩
  have added := new.addAll laws options
  rw [List.nil_append] at added
  have both := (added.addDefault laws ("channels", "1")).addDefault laws ("ranks", "1")
  rw [List.append_assoc] at both
  exact both

/-- An override comes before the file, the last line of the file before the ones above it,
and the file before the defaults. -/
theorem fromFile_getItem (laws : ram.Options) {text : String}
    {overrides : Dict String String} (made : fromFile ram text overrides = .ok config)
    (noFile : (assignments text ++ overrides).lookup "config_file" = none)
    (name : String) :
    ram.getItem config name =
      (((overrides.reverse.lookup name).or ((assignments text).reverse.lookup name)).or
        (defaults.lookup name)).getD "" := by
  have looked (name : String) : ((parse text).update overrides).lookup name =
      (overrides.reverse.lookup name).or ((assignments text).reverse.lookup name) := by
    rw [Dict.lookup_update, parse_eq, Dict.lookup_update, List.lookup_nil, Option.or_none]
  have unnamed : "config_file" ∉ ((parse text).update overrides).map Prod.fst := by
    rw [← Dict.lookup_isNone_iff, looked, Option.or_eq_none_iff]
    rw [List.lookup_append, Option.or_eq_none_iff] at noFile
    simp only [List.lookup_eq_none_iff, List.mem_reverse] at noFile ⊢
    exact noFile.symm
  have kept :
      ((parse text).update overrides).filter (fun option => option.1 ≠ "config_file") =
      (parse text).update overrides := by
    refine List.filter_eq_self.mpr fun option member => decide_eq_true fun same => ?_
    exact unnamed (same ▸ List.mem_map_of_mem member)
  simp only [fromFile] at made
  split at made
  · cases made
  split at made
  · cases made
  · rw [kept, Dict.lookup_isNone_iff.mpr unnamed] at made
    cases made
    rw [(holds_make laws _).getItem, List.lookup_append, looked]

end Configuration

def listRamulator : Ramulator where
  Config := Dict String String × Int
  new := ([], 0)
  load _ := ([], 0)
  add config name value := (config.1.setDefault name value, config.2)
  contains config name := (config.1.lookup name).isSome
  getItem config name := (config.1.lookup name).getD ""
  setCoreNum config num := (config.1, num)
  getCoreNum config := config.2
  create c _ _ _ := .twoQueues c 2 1

theorem listRamulator_options : listRamulator.Options where
  contains_new _ := rfl
  get_new _ := rfl
  contains_add config name value other := by
    change ((Dict.setDefault config.1 name value).lookup other).isSome = _
    rw [Dict.lookup_setDefault]
    by_cases same : other = name
    · simp [same]
    · simp [same, listRamulator]
  get_add config name value other := by
    change ((Dict.setDefault config.1 name value).lookup other).getD "" =
      if other = name ∧ (List.lookup name config.1).isSome = false then value
      else (List.lookup other config.1).getD ""
    rw [Dict.lookup_setDefault]
    by_cases same : other = name
    · subst same
      cases List.lookup other config.1 <;> simp
    · simp [same]

namespace Configuration

/-- The standard is set twice, and the speed is overridden. -/
def twiceSet : String := "standard = DDR3 # old\n\tstandard=DDR4\r\nspeed = DDR4_1600K\n"

theorem fromFile_getItem_ddr4 :
    ∃ config, fromFile listRamulator twiceSet [("speed", "DDR4_2400R")] = .ok config ∧
      ∀ name, listRamulator.getItem config name =
        (((List.reverse [("speed", "DDR4_2400R")]).lookup name).or
          ((assignments twiceSet).reverse.lookup name) |>.or
            (defaults.lookup name)).getD "" := by
  cases made : fromFile listRamulator twiceSet [("speed", "DDR4_2400R")] with
  | ok config =>
      exact ⟨config, rfl, fromFile_getItem listRamulator_options made (by decide +kernel)⟩
  | error error =>
      have fine : (fromFile listRamulator twiceSet
        [("speed", "DDR4_2400R")]).isOk = true := by decide +kernel
      rw [made] at fine
      cases fine

end Configuration

end Pyramulator
