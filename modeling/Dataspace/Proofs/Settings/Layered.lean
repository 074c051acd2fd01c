import Dataspace.Proofs.Members
import Dataspace.Proofs.Settings.Merging

/-!
# Flags over environment over file

Settings are loaded if, for each of them, the value converts that wins among
environment and file; what the command line gives wins over that
(`load_layered`). Names that reach into a setting are left out: they change a
part of a list that another layer gave (`load_layered_path`).
-/

namespace Dataspace

-- ---------------------------------------------------------------------------
-- The environment as a layer
-- ---------------------------------------------------------------------------

namespace Environment

def keys (assignments : List (String × String)) : List String :=
  assignments.filterMap fun assignment => settingName? assignment.1

def value? (setting : Setting) : List (String × String) → Option SettingValue
  | [] => none
  | (name, text) :: rest =>
    if settingName? name = some setting.name then some (value setting.name text)
    else value? setting rest

def held (assignments : List (String × String)) : Layer :=
  assignments.filterMap fun (name, text) =>
    (settingName? name).map fun setting => (setting, value setting text)

variable {assignments : List (String × String)}

theorem map_fst_held (assignments : List (String × String)) :
    (held assignments).map Prod.fst = keys assignments := by
  rw [held, keys, List.map_filterMap]
  refine congrArg (List.filterMap · assignments) (funext fun assignment => ?_)
  rw [Option.map_map]
  exact Option.map_id'

theorem layer_eq (one : (keys assignments).Nodup) : layer assignments = held assignments :=
  Members.entries_ofList (by rw [← map_fst_held] at one; exact one)

theorem lower_settingName? (h : settingName? name = some key) : Text.lower key = key := by
  simp only [settingName?] at h
  split at h
  · rw [← Option.some.inj h]
    unfold Text.lower
    rw [String.toList_ofList, String.toList_ofList, List.map_drop, List.map_map]
    refine congrArg (fun chars => String.ofList (List.drop nameStart.length chars)) ?_
    exact List.map_congr_left fun c _ => Text.lowerChar_lowerChar c
  · cases h

theorem lower_of_mem_keys (h : key ∈ keys assignments) : Text.lower key = key := by
  obtain ⟨_, -, hkey⟩ := List.mem_filterMap.mp h
  exact lower_settingName? hkey

theorem names_held (assignments : List (String × String)) :
    Layer.names (held assignments) = keys assignments := by
  have hnames : Layer.names (held assignments) =
      ((held assignments).map Prod.fst).map Text.lower := by
    rw [Layer.names, List.map_map]
    rfl
  rw [hnames, map_fst_held]
  exact (List.map_congr_left fun key hmem => lower_of_mem_keys hmem).trans (List.map_id _)

theorem value?_held (setting : Setting) (assignments : List (String × String)) :
    Layer.value? setting (held assignments) = value? setting assignments := by
  induction assignments with
  | nil => rfl
  | cons assignment rest ih =>
    obtain ⟨name, text⟩ := assignment
    rw [value?]
    cases hkey : settingName? name with
    | none =>
      rw [if_neg (by simp), ← ih, held, List.filterMap_cons_none (by simp [hkey])]
      rfl
    | some key =>
      rw [held, List.filterMap_cons_some (by simp [hkey]; rfl), Layer.value?,
        lower_settingName? hkey]
      by_cases h : key = setting.name
      · rw [if_pos h, if_pos (congrArg some h), h]
      · rw [if_neg h, if_neg (fun hs => h (Option.some.inj hs))]
        exact ih

theorem layer_flat (one : (keys assignments).Nodup)
    (whole : ∀ key ∈ keys assignments, SettingStep.Whole key) : (layer assignments).Flat := by
  rw [layer_eq one]
  refine ⟨fun entry hmem => whole entry.1 ?_, fun setting => ?_⟩
  · rw [← map_fst_held]
    exact List.mem_map_of_mem hmem
  · rw [names_held]
    exact List.nodup_iff_count.mp one setting.name

theorem value_ne_table (name text : String) (entries : List (String × SettingValue)) :
    value name text ≠ .table entries := by
  unfold value
  split
  · exact fun h => nomatch h
  · exact fun h => nomatch h
  · exact fun h => nomatch h
  · split
    · exact fun h => nomatch h
    · exact fun h => nomatch h

theorem value?_ne_table {setting : Setting} (h : value? setting assignments = some found)
    (entries : List (String × SettingValue)) : found ≠ .table entries := by
  induction assignments with
  | nil => cases h
  | cons assignment rest ih =>
    obtain ⟨name, text⟩ := assignment
    rw [value?] at h
    split at h
    · cases h
      exact value_ne_table _ _ entries
    · exact ih h

end Environment

-- ---------------------------------------------------------------------------
-- What wins
-- ---------------------------------------------------------------------------

def Layers.winning (file : Layer) (assignments : List (String × String)) (setting : Setting) :
    Option SettingValue :=
  (Environment.value? setting assignments).or (file.value? setting)

namespace Sources

open Layers

variable {sources : Sources} {file : Layer} {assignments : List (String × String)}

/-- For each setting the merged table holds what wins, in whatever order entries are met. -/
theorem convert?_merged (flat : file.Flat) (one : (Environment.keys assignments).Nodup)
    (whole : ∀ key ∈ Environment.keys assignments, SettingStep.Whole key)
    (merged : sources.merged? file assignments = some table) (setting : Setting) :
    setting.kind.convert? (Members.find? setting.name table.entries) =
      setting.kind.convert? (winning file assignments setting) := by
  have environmentFlat := Environment.layer_flat one whole
  rw [merged?, merge?_append] at merged
  obtain ⟨root, hfile, henvironment⟩ := Option.bind_eq_some_iff.mp merged
  obtain ⟨entries, rfl, hentries⟩ := merge_layer (flat.perm (sources.perm _)) hfile
  obtain ⟨later, rfl, hlater⟩ := merge_layer (environmentFlat.perm (sources.perm _)) henvironment
  have hfound := hlater setting
  rw [environmentFlat.value?_perm (sources.perm _), Environment.layer_eq one,
    Environment.value?_held, hentries setting, flat.value?_perm (sources.perm _)] at hfound
  change setting.kind.convert? (Members.find? setting.name later) = _
  rw [hfound, winning]
  -- No variable holds a table, so what the file holds is replaced and not entered.
  cases hvalue : Environment.value? setting assignments with
  | some value =>
    have plain := Environment.value?_ne_table hvalue
    simp only [Option.map_some, Option.some_or, SettingValue.place_eq plain]
  | none =>
    cases file.value? setting with
    | none => rfl
    | some value => exact setting.kind.read?_place value

-- ---------------------------------------------------------------------------
-- Loading
-- ---------------------------------------------------------------------------

/-- No index lies outside its list when the layers are merged. -/
def InRange (sources : Sources) (file : Layer) (assignments : List (String × String)) : Prop :=
  (sources.merged? file assignments).isSome

variable {given settings : Settings} {path : Option String}

theorem load_eq (read : sources.file path = .ok file) :
    sources.load given path assignments =
      match sources.merged? file assignments with
      | none => .error .outOfRange
      | some merged => match settings? fun name => Members.find? name merged.entries with
        | some lower => .ok (given.above lower)
        | none => .error .unconvertible := by
  rw [load, read]
  rfl

theorem load_ok (read : sources.file path = .ok file) (flat : file.Flat)
    (one : (Environment.keys assignments).Nodup)
    (whole : ∀ key ∈ Environment.keys assignments, SettingStep.Whole key) :
    sources.load given path assignments = .ok settings ↔
      sources.InRange file assignments ∧ ∃ lower : Settings, settings = given.above lower ∧
        ∀ setting : Setting, setting.kind.convert? (winning file assignments setting) =
          some (lower.get setting) := by
  rw [load_eq read, InRange]
  cases merged : sources.merged? file assignments with
  | none => simp
  | some table =>
    have hconverts : ∀ lower : Settings,
        (settings? fun name => Members.find? name table.entries) = some lower ↔
          ∀ setting : Setting, setting.kind.convert? (winning file assignments setting) =
            some (lower.get setting) := by
      intro lower
      simp only [settings?_eq_some, convert?_merged flat one whole merged]
    simp only [Option.isSome_some, true_and, ← hconverts]
    cases settings? fun name => Members.find? name table.entries with
    | none => simp
    | some lower => simp [eq_comm]

theorem inRange_of_forward (one : (Environment.keys assignments).Nodup)
    (forward : ∀ name ∈ file.map Prod.fst ++ Environment.keys assignments,
      ∀ step ∈ SettingStep.ofName name, step.Forward) : sources.InRange file assignments := by
  apply mergeInto?_isSome
  intro entry hmem
  apply forward entry.1
  rw [← Environment.map_fst_held, ← Environment.layer_eq one, ← List.map_append]
  apply List.mem_map_of_mem
  rwa [List.mem_append, (sources.perm _).mem_iff, (sources.perm _).mem_iff,
    ← List.mem_append] at hmem

theorem exists_load (read : sources.file path = .ok file) (flat : file.Flat)
    (one : (Environment.keys assignments).Nodup)
    (whole : ∀ key ∈ Environment.keys assignments, SettingStep.Whole key) :
    (∃ settings, sources.load given path assignments = .ok settings) ↔
      sources.InRange file assignments ∧ ∀ setting : Setting, ∃ value,
        setting.kind.convert? (winning file assignments setting) = some value := by
  constructor
  · rintro ⟨settings, hload⟩
    obtain ⟨inRange, lower, -, hlower⟩ := (load_ok read flat one whole).mp hload
    exact ⟨inRange, fun setting => ⟨_, hlower setting⟩⟩
  · rintro ⟨inRange, hconverts⟩
    obtain ⟨lower, hlower⟩ := exists_settings hconverts
    exact ⟨_, (load_ok read flat one whole).mpr ⟨inRange, lower, rfl, hlower⟩⟩

theorem get_of_load (parsed : CommandLine.parse arguments = .ok line)
    (read : sources.file line.config = .ok file) (flat : file.Flat)
    (one : (Environment.keys assignments).Nodup)
    (whole : ∀ key ∈ Environment.keys assignments, SettingStep.Whole key)
    (h : sources.load line.given line.config assignments = .ok settings) (setting : Setting) :
    ∃ value, setting.kind.convert? (winning file assignments setting) = some value ∧
      settings.get setting =
        (setting.given? (CommandLine.occurrences arguments)).getD value := by
  obtain ⟨hgiven, filled⟩ := CommandLine.parse_ok parsed
  obtain ⟨-, lower, rfl, hlower⟩ := (load_ok read flat one whole).mp h
  refine ⟨lower.get setting, hlower setting, ?_⟩
  rw [Settings.get_above, hgiven, setting.above_given filled]

/-- Each setting comes from one layer as a whole, however files are read and whatever the
order in which entries are met. All settings have to convert as they win, also those that
the command line gives. -/
theorem load_layered (sources : Sources) (parsed : CommandLine.parse arguments = .ok line)
    (read : sources.file line.config = .ok file) (flat : file.Flat)
    (one : (Environment.keys assignments).Nodup)
    (whole : ∀ key ∈ Environment.keys assignments, SettingStep.Whole key) :
    ((∃ settings, sources.load line.given line.config assignments = .ok settings) ↔
      sources.InRange file assignments ∧ ∀ setting : Setting, ∃ value,
        setting.kind.convert? (winning file assignments setting) = some value) ∧
    (∀ settings, sources.load line.given line.config assignments = .ok settings →
      ∀ setting : Setting, ∃ value,
        setting.kind.convert? (winning file assignments setting) = some value ∧
        settings.get setting =
          (setting.given? (CommandLine.occurrences arguments)).getD value) ∧
    ((∀ name ∈ file.map Prod.fst ++ Environment.keys assignments,
      ∀ step ∈ SettingStep.ofName name, step.Forward) → sources.InRange file assignments) :=
  ⟨exists_load read flat one whole,
    fun _ => get_of_load parsed read flat one whole,
    inRange_of_forward one⟩

end Sources

theorem Layers.load_ofTexts {file : Layer} (read : Layers.file path text? = .ok file) :
    Layers.load given path text? assignments =
      match merge? (file ++ Environment.layer assignments) with
      | none => .error .outOfRange
      | some merged => match settings? fun name => Members.find? name merged.entries with
        | some lower => .ok (given.above lower)
        | none => .error .unconvertible :=
  Sources.load_eq read

-- ---------------------------------------------------------------------------
-- Three small layers
-- ---------------------------------------------------------------------------

namespace Sample

/-- Of the file with the lines `bpns: [BPNL1, BPNL2]`, `api_key: file`, `policy: 7` and
`"x.y[0]": 1`. -/
def layeredFile : Layer :=
  [("bpns", .list [.text "BPNL1", .text "BPNL2"]), ("api_key", .text "file"),
    ("policy", .integer 7), ("x.y[0]", .integer 1)]

/-- Entries are met from the last to the first. -/
def layeredSources : Sources where
  read? path := if path = "settings.yaml" then some layeredFile else none
  order := List.reverse
  perm := List.reverse_perm

def layeredVariables : List (String × String) :=
  [("HOME", "/root"), ("TWIN_SEED_API_KEY", "environment")]

def layeredArguments : List String :=
  ["-f", "parts.json", "-c", "settings.yaml", "--ess", "--bpns", "BPNL3"]

def layeredLine : CommandLine where
  file := "parts.json"
  config := some "settings.yaml"
  given := { ess := true, bpns := ["BPNL3"] }

theorem layeredFile_flat : layeredFile.Flat :=
  ⟨by decide, by decide⟩

end Sample

/-- The list and the switch are given, the key is in the environment, and the
policy in the file, as a number. -/
theorem Sources.load_layered_sample : ∃ settings,
    Sample.layeredSources.load Sample.layeredLine.given Sample.layeredLine.config
      Sample.layeredVariables = .ok settings ∧
    settings.bpns = ["BPNL3"] ∧ settings.ess = true ∧ settings.apiKey = some "environment" ∧
    settings.policy = some "7" ∧ settings.registryUrl = none := by
  obtain ⟨loaded, values, forward⟩ := load_layered Sample.layeredSources
    (rfl : CommandLine.parse Sample.layeredArguments = .ok Sample.layeredLine)
    (rfl : Sample.layeredSources.file Sample.layeredLine.config = .ok Sample.layeredFile)
    Sample.layeredFile_flat
    (by decide : (Environment.keys Sample.layeredVariables).Nodup) (by decide)
  have converts : ∀ setting : Setting, ∃ value, setting.kind.convert?
      (Layers.winning Sample.layeredFile Sample.layeredVariables setting) = some value := by
    have some : ∀ setting : Setting, (setting.kind.convert?
        (Layers.winning Sample.layeredFile Sample.layeredVariables setting)).isSome := by decide
    intro setting
    exact Option.isSome_iff_exists.mp (some setting)
  obtain ⟨settings, hload⟩ := loaded.mpr ⟨forward (by decide), converts⟩
  have get : ∀ (setting : Setting) (value : setting.kind.Value), setting.kind.convert?
      (Layers.winning Sample.layeredFile Sample.layeredVariables setting) = some value →
      settings.get setting =
        (setting.given? (CommandLine.occurrences Sample.layeredArguments)).getD value := by
    intro setting value hvalue
    obtain ⟨found, hfound, hget⟩ := values settings hload setting
    obtain rfl := Option.some.inj (hvalue.symm.trans hfound)
    exact hget
  exact ⟨settings, hload, get .bpns ["BPNL1", "BPNL2"] rfl, get .ess false rfl,
    get .apiKey (some "environment") rfl, get .policy (some "7") rfl, get .registryUrl none rfl⟩

namespace Sample

def pathText : String := "\x7b\"bpns\":[\"a\",\"b\",\"c\"]\x7d"

def pathFile : Layer := [("bpns", .list [.text "a", .text "b", .text "c"])]

def pathArguments : List String := ["-f", "x", "-c", "settings.json"]

def pathLine : CommandLine := ⟨"x", some "settings.json", {}⟩

theorem extension?_settings : Layers.extension? "settings.json" = some "json" := rfl

theorem pathFile_read : Layers.file pathLine.config (fun _ => some pathText) = .ok pathFile := by
  have parsed : Json.parse? pathText =
      some (.object [("bpns", .array [.string "a", .string "b", .string "c"])]) := rfl
  have layer : Layers.jsonLayer? pathText = some pathFile := by
    simp only [Layers.jsonLayer?, parsed]
    rfl
  simp only [Layers.file, Sources.ofTexts, Sources.file, pathLine, Layers.fileLayer?,
    extension?_settings, Option.bind_some, layer]

end Sample

/-- A variable that reaches into a list: no variable names the list, and yet it is
not the one of the file. -/
theorem Layers.load_layered_path : ∃ settings,
    CommandLine.parse Sample.pathArguments = .ok Sample.pathLine ∧
    Layers.file Sample.pathLine.config (fun _ => some Sample.pathText) = .ok Sample.pathFile ∧
    Sample.pathFile.Flat ∧
    Environment.keys [("TWIN_SEED_BPNS[1]", "z")] = ["bpns[1]"] ∧
    Setting.bpns.kind.convert? (winning Sample.pathFile [("TWIN_SEED_BPNS[1]", "z")] .bpns) =
      some ["a", "b", "c"] ∧
    Setting.bpns.given? (CommandLine.occurrences Sample.pathArguments) = none ∧
    load Sample.pathLine.given Sample.pathLine.config (fun _ => some Sample.pathText)
      [("TWIN_SEED_BPNS[1]", "z")] = .ok settings ∧
    settings.bpns = ["a", "z", "c"] := by
  refine ⟨{ bpns := ["a", "z", "c"] }, rfl, Sample.pathFile_read, ⟨by decide, by decide⟩,
    by decide, rfl, rfl, ?_, rfl⟩
  have layer : Environment.layer [("TWIN_SEED_BPNS[1]", "z")] = [("bpns[1]", .text "z")] := rfl
  have list : SettingStep.ofName "bpns" = [.entry "bpns"] := rfl
  have item : SettingStep.ofName "bpns[1]" = [.entry "bpns", .item 1] := rfl
  have merged : merge? (Sample.pathFile ++ [("bpns[1]", .text "z")]) =
      some (.table [("bpns", .list [.text "a", .text "z", .text "c"])]) := by
    simp only [merge?, Sample.pathFile, List.cons_append, List.nil_append, List.foldlM_cons, list,
      item]
    rfl
  rw [load_ofTexts Sample.pathFile_read, layer, merged]
  rfl

end Dataspace
