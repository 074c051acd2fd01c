import Dataspace.Proofs.CommandLine.Spelling
import Dataspace.Proofs.Settings.Setting
import Mathlib.Data.List.Nodup

/-!
# Rendered command lines

A command line says for each option whether it is given, and with which values. To
render it is to spread the values of each option over occurrences of it and to spell
these in any order (`CommandLine.Rendered`). Whatever the order, the occurrences pass
the check and give back each field, so the command line is parsed as it was
(`CommandLine.parse_rendered`).
-/

namespace Dataspace

def SettingKind.values? : (kind : SettingKind) → kind.Value → Option (List String)
  | .list, values => if values = [] then none else some values
  | .optionalList, values => values
  | .text, value => value.map fun text => [text]
  | .switch, on => if on then some [] else none

/-- The value lists that the occurrences of an option may have: one in all unless
it is a list. -/
def Arity.Spreads (arity : Arity) : Option (List String) → List (List String) → Prop
  | none, groups => groups = []
  | some values, groups =>
    match arity with
    | .list => groups ≠ [] ∧ groups.flatten = values
    | .single | .switch => groups = [values]

instance : (arity : Arity) → (given : Option (List String)) → (groups : List (List String)) →
    Decidable (arity.Spreads given groups)
  | _, none, groups => inferInstanceAs (Decidable (groups = []))
  | .list, some values, groups =>
    inferInstanceAs (Decidable (groups ≠ [] ∧ groups.flatten = values))
  | .single, some values, groups | .switch, some values, groups =>
    inferInstanceAs (Decidable (groups = [values]))

theorem Arity.spreads_some {arity : Arity} (unlisted : arity ≠ .list) :
    arity.Spreads (some values) groups ↔ groups = [values] := by
  cases arity with
  | list => exact absurd rfl unlisted
  | _ => exact Iff.rfl

namespace CommandLine

def values? (line : CommandLine) : Opt → Option (List String)
  | .file => some [line.file]
  | .config => line.config.map fun path => [path]
  | option =>
    (Setting.all.find? fun setting => setting.option == option).bind fun setting =>
      setting.kind.values? (line.given.get setting)

def groupsOf (option : Opt) (seen : List Occurrence) : List (List String) :=
  (seen.filter fun occurrence => occurrence.option == option).map Occurrence.values

/-- The occurrences give each option what the command line says, no matter how those
of different options are mixed. -/
def GivenBy (line : CommandLine) (seen : List Occurrence) : Prop :=
  ∀ option : Opt, option.arity.Spreads (line.values? option) (groupsOf option seen)

def Rendered (line : CommandLine) (arguments : List String) : Prop :=
  ∃ seen, line.GivenBy seen ∧ SpelledOut seen arguments

/-- Paths are not empty, and no list is given without an element. -/
structure Renderable (line : CommandLine) : Prop where
  file : line.file ≠ ""
  config : line.config ≠ some ""
  lists : ∀ option : Opt, option.arity = .list → line.values? option ≠ some []

-- ---------------------------------------------------------------------------
-- Groups
-- ---------------------------------------------------------------------------

section
variable {option : Opt} {seen : List Occurrence}

theorem groupsOf_append (before after : List Occurrence) :
    groupsOf option (before ++ after) = groupsOf option before ++ groupsOf option after := by
  rw [groupsOf, List.filter_append, List.map_append]
  rfl

theorem groupsOf_cons (occurrence : Occurrence) (after : List Occurrence) :
    groupsOf occurrence.option (occurrence :: after) =
      occurrence.values :: groupsOf occurrence.option after := by
  simp [groupsOf]

theorem flatten_groupsOf : (groupsOf option seen).flatten = valuesOf option seen :=
  List.flatMap_def.symm

theorem groupsOf_eq_nil : groupsOf option seen = [] ↔ occursIn option seen = false := by
  rw [groupsOf, List.map_eq_nil_iff, List.filter_eq_nil_iff, occursIn, List.any_eq_false]

end

theorem values?_option (line : CommandLine) (setting : Setting) :
    line.values? setting.option = setting.kind.values? (line.given.get setting) := by
  cases setting <;> rfl

-- ---------------------------------------------------------------------------
-- The check
-- ---------------------------------------------------------------------------

theorem fault?_eq_none {option : Opt} (given : option ≠ .help ∧ option ≠ .version)
    (takes : option.arity.Takes values.length)
    (once : option.arity ≠ .list → occursIn option seen = false)
    (path : option.isPath = true → "" ∉ values) : fault? seen ⟨option, values⟩ = none := by
  obtain ⟨help, version⟩ := given
  cases arity : option.arity with
  | switch => simp [fault?, arity, once (by simp [arity])]
  | single =>
    rw [arity] at takes
    have some : values ≠ [] := List.ne_nil_of_length_pos (takes ▸ Nat.one_pos)
    simpa [fault?, arity, help, version, once (by simp [arity]), some] using path
  | list =>
    rw [arity] at takes
    have some : values ≠ [] := List.ne_nil_of_length_pos takes
    simp [fault?, arity, some]

theorem check_occurrences {more : List Occurrence}
    (faultless : ∀ before occurrence after, more = before ++ occurrence :: after →
      fault? (seen ++ before) occurrence = none) :
    check seen (more.map .occurrence) = .ok (seen ++ more) := by
  induction more generalizing seen with
  | nil => rw [List.append_nil]; rfl
  | cons first rest ih =>
    have none : fault? seen first = none := by
      simpa using faultless [] first rest rfl
    have later : ∀ before occurrence after, rest = before ++ occurrence :: after →
        fault? (seen ++ [first] ++ before) occurrence = Option.none := by
      rintro before occurrence after rfl
      simpa using faultless (first :: before) occurrence after rfl
    rw [List.map_cons, check, none, ih later, List.append_assoc]
    rfl

variable {line : CommandLine}

theorem GivenBy.values?_ne_none (given : line.GivenBy (before ++ occurrence :: after)) :
    line.values? occurrence.option ≠ none := by
  intro absent
  have spread := given occurrence.option
  rw [absent, groupsOf_append, groupsOf_cons] at spread
  exact List.cons_ne_nil _ _ (List.append_eq_nil_iff.mp spread).2

theorem GivenBy.once (given : line.GivenBy (before ++ occurrence :: after))
    (unlisted : occurrence.option.arity ≠ .list) :
    line.values? occurrence.option = some occurrence.values ∧
      occursIn occurrence.option before = false := by
  obtain ⟨values, said⟩ := Option.ne_none_iff_exists'.mp given.values?_ne_none
  have spread := given occurrence.option
  rw [said, Arity.spreads_some unlisted, groupsOf_append, groupsOf_cons] at spread
  have alone : groupsOf occurrence.option before = [] := by
    have length := congrArg List.length spread
    rw [List.length_append, List.length_cons, List.length_singleton] at length
    exact List.length_eq_zero_iff.mp (by omega)
  rw [alone, List.nil_append] at spread
  exact ⟨by rw [said, (List.cons.inj spread).1], groupsOf_eq_nil.mp alone⟩

theorem Renderable.values?_path (renderable : line.Renderable) {option : Opt}
    (path : option.isPath = true) (given : line.values? option = some values) : "" ∉ values := by
  cases option with
  | file =>
    cases given
    simpa using renderable.file.symm
  | config =>
    obtain ⟨config, some, rfl⟩ := Option.map_eq_some_iff.mp given
    have nonempty : config ≠ "" := fun empty => renderable.config (empty ▸ some)
    simpa using nonempty.symm
  | _ => cases path

theorem check_given (renderable : line.Renderable) (given : line.GivenBy seen)
    (takes : ∀ occurrence ∈ seen, occurrence.option.arity.Takes occurrence.values.length) :
    check [] (seen.map .occurrence) = .ok seen := by
  refine check_occurrences fun before occurrence after split => ?_
  rw [split] at given
  refine fault?_eq_none ⟨?_, ?_⟩ (takes occurrence (split ▸ by simp)) (fun unlisted => ?_)
    fun path => ?_
  · intro help
    exact given.values?_ne_none (help ▸ rfl)
  · intro version
    exact given.values?_ne_none (version ▸ rfl)
  · exact (given.once unlisted).2
  · have unlisted : occurrence.option.arity ≠ .list := by
      intro list
      cases option : occurrence.option <;> simp [option, Opt.isPath, Opt.arity] at path list
    exact renderable.values?_path path (given.once unlisted).1

-- ---------------------------------------------------------------------------
-- The fields
-- ---------------------------------------------------------------------------

end CommandLine

def SettingKind.arity : SettingKind → Arity
  | .list | .optionalList => .list
  | .text => .single
  | .switch => .switch

theorem Setting.arity_eq (setting : Setting) : setting.option.arity = setting.kind.arity := by
  cases setting <;> rfl

theorem SettingKind.field_spreads (kind : SettingKind) {value : kind.Value} {occurs : Bool}
    (spread : kind.arity.Spreads (kind.values? value) groups)
    (absent : groups = [] ↔ occurs = false) : kind.field occurs groups.flatten = value := by
  -- An empty list is not given at all, an optional one that is given is not empty.
  cases kind with
  | list =>
    by_cases none : value = []
    · rw [values?, if_pos none] at spread
      rw [none]
      exact congrArg List.flatten spread
    · rw [values?, if_neg none] at spread
      exact spread.2
  | optionalList =>
    cases value with
    | none =>
      rw [field, absent.mp spread]
      rfl
    | some values =>
      have given : occurs = true := by simpa [spread.1] using absent
      rw [field, given, spread.2]
      rfl
  | text =>
    cases value with
    | none =>
      have none : groups = [] := spread
      rw [none]
      rfl
    | some text =>
      have alone : groups = [[text]] := spread
      rw [alone]
      rfl
  | switch =>
    cases value with
    | false => exact absent.mp spread
    | true =>
      have alone : groups = [[]] := spread
      have given : occurs = true := by simpa [alone] using absent
      exact given

theorem SettingKind.values?_takes (kind : SettingKind) {value : kind.Value}
    (said : kind.values? value = some values) (unlisted : kind.arity ≠ .list) :
    kind.arity.Takes values.length := by
  cases kind with
  | list | optionalList => exact absurd rfl unlisted
  | text =>
    obtain ⟨_, -, rfl⟩ := Option.map_eq_some_iff.mp said
    rfl
  | switch =>
    obtain ⟨-, rfl⟩ : value = true ∧ [] = values := by simpa [values?] using said
    rfl

namespace CommandLine

variable {line : CommandLine}

theorem settings_given (given : line.GivenBy seen) : settings seen = line.given := by
  have fields : (settings seen).get = line.given.get := by
    funext setting
    have spread := given setting.option
    rw [values?_option, setting.arity_eq] at spread
    rw [get_settings, ← flatten_groupsOf]
    exact setting.kind.field_spreads spread groupsOf_eq_nil
  exact congrArg Settings.ofValues fields

theorem ofOccurrences_given (given : line.GivenBy seen) : ofOccurrences seen = .ok line := by
  have file : groupsOf .file seen = [[line.file]] := given .file
  have config : text? .config seen = line.config := by
    have spread : Arity.single.Spreads (SettingKind.text.values? line.config) _ := given .config
    rw [text?, ← flatten_groupsOf]
    exact SettingKind.text.field_spreads spread groupsOf_eq_nil
  rw [ofOccurrences, text?, ← flatten_groupsOf, file, config, settings_given given]
  rfl

-- ---------------------------------------------------------------------------
-- Command lines
-- ---------------------------------------------------------------------------

theorem parse_spelledOut (renderable : line.Renderable) (given : line.GivenBy seen)
    (spelled : SpelledOut seen arguments) : parse arguments = .ok line := by
  have items : Scan.items none arguments = seen.map .occurrence :=
    Scan.items_spelledOut none spelled
  rw [parse, items, check_given renderable given spelled.takes]
  exact ofOccurrences_given given

def occurrencesOf (option : Opt) : Option (List String) → List Occurrence
  | none => []
  | some values =>
    match option.arity with
    | .list => values.map fun value => ⟨option, [value]⟩
    | _ => [⟨option, values⟩]

def inTurn (line : CommandLine) (options : List Opt) : List Occurrence :=
  options.flatMap fun option => occurrencesOf option (line.values? option)

theorem option_of_mem {option : Opt} (h : occurrence ∈ occurrencesOf option said) :
    occurrence.option = option := by
  cases said with
  | none => cases h
  | some values =>
    rw [occurrencesOf] at h
    split at h
    · obtain ⟨_, -, rfl⟩ := List.mem_map.mp h
      rfl
    · rw [List.mem_singleton.mp h]

theorem spreads_occurrencesOf {option : Opt}
    (nonempty : option.arity = .list → said ≠ some []) :
    option.arity.Spreads said (groupsOf option (occurrencesOf option said)) := by
  have own : groupsOf option (occurrencesOf option said) =
      (occurrencesOf option said).map Occurrence.values := by
    rw [groupsOf, List.filter_eq_self.mpr fun _ hm => beq_iff_eq.mpr (option_of_mem hm)]
  rw [own]
  cases said with
  | none => rfl
  | some values =>
    cases arity : option.arity with
    | list =>
      have some : values ≠ [] := fun none => nonempty arity (congrArg _ none)
      have groups : (occurrencesOf option (.some values)).map Occurrence.values =
          values.map fun value => [value] := by
        simp [occurrencesOf, arity, Function.comp_def]
      rw [groups]
      exact ⟨mt List.map_eq_nil_iff.mp some,
        List.flatMap_def.symm.trans (List.flatMap_singleton' values)⟩
    | _ => simp [occurrencesOf, arity, Arity.Spreads]

theorem groupsOf_inTurn {option : Opt} {options : List Opt} (other : option ∉ options) :
    groupsOf option (line.inTurn options) = [] := by
  refine groupsOf_eq_nil.mpr (Bool.eq_false_iff.mpr fun occurs => ?_)
  obtain ⟨occurrence, hm, rfl⟩ := occursIn_iff.mp occurs
  obtain ⟨option, turn, hm⟩ := List.mem_flatMap.mp hm
  exact other (option_of_mem hm ▸ turn)

theorem givenBy_inTurn (renderable : line.Renderable) : line.GivenBy (line.inTurn Opt.all) := by
  intro option
  obtain ⟨before, after, split⟩ := List.append_of_mem (Opt.mem_all option)
  have nodup : (before ++ option :: after).Nodup := split ▸ (by decide : Opt.all.Nodup)
  have others := (List.nodup_middle.mp nodup).notMem
  rw [List.mem_append, not_or] at others
  have turns : line.inTurn Opt.all = line.inTurn before ++
      (occurrencesOf option (line.values? option) ++ line.inTurn after) := by
    rw [split, inTurn, List.flatMap_append, List.flatMap_cons]
    rfl
  rw [turns, groupsOf_append, groupsOf_append, groupsOf_inTurn others.1, groupsOf_inTurn others.2,
    List.nil_append, List.append_nil]
  exact spreads_occurrencesOf (renderable.lists option)

theorem values?_takes {option : Opt} (said : line.values? option = some values)
    (unlisted : option.arity ≠ .list) : option.arity.Takes values.length := by
  unfold values? at said
  split at said
  · cases said
    rfl
  · obtain ⟨_, -, rfl⟩ := Option.map_eq_some_iff.mp said
    rfl
  · obtain ⟨setting, found, value⟩ := Option.bind_eq_some_iff.mp said
    obtain rfl : setting.option = option := by simpa using List.find?_some found
    rw [setting.arity_eq] at unlisted ⊢
    exact setting.kind.values?_takes value unlisted

theorem takes_occurrencesOf {option : Opt}
    (h : occurrence ∈ occurrencesOf option (line.values? option)) :
    occurrence.option.arity.Takes occurrence.values.length ∧ occurrence.values.length ≤ 1 := by
  cases said : line.values? option with
  | none =>
    rw [said] at h
    cases h
  | some values =>
    rw [said] at h
    cases arity : option.arity with
    | list =>
      simp only [occurrencesOf, arity] at h
      obtain ⟨value, -, rfl⟩ := List.mem_map.mp h
      rw [arity]
      exact ⟨Nat.one_pos, Nat.le_refl 1⟩
    | _ =>
      have takes := values?_takes said (by simp [arity])
      simp only [occurrencesOf, arity] at h
      rw [List.mem_singleton.mp h]
      refine ⟨takes, ?_⟩
      rw [arity, Arity.Takes] at takes
      simp [takes]

theorem Renderable.exists_rendered (renderable : line.Renderable) :
    ∃ arguments, line.Rendered arguments := by
  have takes : ∀ occurrence ∈ line.inTurn Opt.all,
      occurrence.option.arity.Takes occurrence.values.length ∧ occurrence.values.length ≤ 1 := by
    intro occurrence hm
    obtain ⟨option, -, hm⟩ := List.mem_flatMap.mp hm
    exact takes_occurrencesOf hm
  obtain ⟨arguments, spelled⟩ := exists_spelledOut (fun occurrence hm => (takes occurrence hm).1)
    fun occurrence hm => (takes occurrence hm).2
  exact ⟨arguments, _, givenBy_inTurn renderable, spelled⟩

/-- However a command line is rendered, it is parsed as it was: neither the order of
the occurrences of different options nor their spellings matter. -/
theorem parse_rendered (renderable : line.Renderable) :
    (∃ arguments, line.Rendered arguments) ∧
      ∀ arguments, line.Rendered arguments → parse arguments = .ok line :=
  ⟨renderable.exists_rendered, fun _ ⟨_, given, spelled⟩ =>
    parse_spelledOut renderable given spelled⟩

end CommandLine

namespace Sample

def commandLine : CommandLine where
  file := "parts.json"
  config := none
  given := { connectorUrls := ["a", "b"], ess := true, essUrl := some "c" }

theorem commandLine_renderable : commandLine.Renderable where
  file := by decide
  config := by decide
  lists option := by cases option <;> decide

end Sample

/-- Other options stand between the two parts of a list. -/
theorem CommandLine.parse_rendered_sample :
    parse ["--edc", "a", "-fparts.json", "--essURL=c", "--edc=b", "--ess"] =
      .ok Sample.commandLine := by
  have given : Sample.commandLine.GivenBy [⟨.edc, ["a"]⟩, ⟨.file, ["parts.json"]⟩, ⟨.essUrl, ["c"]⟩,
      ⟨.edc, ["b"]⟩, ⟨.ess, []⟩] := by
    intro option
    cases option <;> decide
  have edc : Opt.edc.Spelled ["a"] ["--edc", "a"] :=
    .apart (.long "edc" (.head _)) (by decide) (by decide)
  have file : Opt.file.Spelled ["parts.json"] [String.ofList ['-', 'f'] ++ "parts.json"] :=
    .glued rfl (by decide) (by decide) (by decide) (by decide)
  have url : Opt.essUrl.Spelled ["c"] ["--essURL=c"] :=
    .attached (.long "essURL" (.tail _ (.head _))) (by decide) "c"
  have more : Opt.edc.Spelled ["b"] ["--edc=b"] :=
    .attached (.long "edc" (.head _)) (by decide) "b"
  have ess : Opt.ess.Spelled [] ["--ess"] :=
    .apart (.long "ess" (.head _)) (by decide) (by decide)
  exact (parse_rendered Sample.commandLine_renderable).2 _
    ⟨_, given, .cons edc (.cons file (.cons url (.cons more (.cons ess .nil))))⟩

end Dataspace
