import Dataspace.Proofs.Settings.Arrival

/-!
# Lists from the environment

Cutting a text at its commas undoes joining pieces that have none
(`split_intercalate`), and since no switch and no number has a comma, two pieces or
more are never read as anything but a list. So a list arrives as it was joined,
whatever the file holds, if no other variable touches it (`load_list`). A variable
that reaches into the list does (`load_list_path`).
-/

namespace Dataspace

-- ---------------------------------------------------------------------------
-- Cutting what was joined
-- ---------------------------------------------------------------------------

namespace Text

variable {mark : Char} {piece : List Char}

theorem split_free (free : mark ∉ piece) : split mark piece = [piece] := by
  induction piece with
  | nil => rfl
  | cons c piece ih =>
    rw [List.mem_cons, not_or] at free
    rw [split, if_neg (Ne.symm free.1), ih free.2]

theorem split_append (free : mark ∉ piece) (rest : List Char) :
    split mark (piece ++ mark :: rest) = piece :: split mark rest := by
  induction piece with
  | nil => exact if_pos rfl
  | cons c piece ih =>
    rw [List.mem_cons, not_or] at free
    rw [List.cons_append, split, if_neg (Ne.symm free.1), ih free.2]

/-- There is always a piece, so the empty list cannot come back. -/
theorem split_intercalate {pieces : List (List Char)} (some_piece : pieces ≠ [])
    (free : ∀ piece ∈ pieces, mark ∉ piece) :
    split mark ([mark].intercalate pieces) = pieces := by
  induction pieces with
  | nil => exact absurd rfl some_piece
  | cons first rest ih =>
    obtain ⟨firstFree, restFree⟩ := List.forall_mem_cons.mp free
    cases rest with
    | nil =>
      rw [List.intercalate_singleton]
      exact split_free firstFree
    | cons second rest =>
      have joined : [mark].intercalate (first :: second :: rest) =
          first ++ mark :: [mark].intercalate (second :: rest) := by simp
      rw [joined, split_append firstFree, ih (List.cons_ne_nil _ _) restFree]

theorem toList_joinWith (separator : String) (items : List String) :
    (joinWith separator items).toList =
      separator.toList.intercalate (items.map String.toList) := by
  induction items with
  | nil => rfl
  | cons first rest ih =>
    cases rest with
    | nil => simp [joinWith]
    | cons second rest => simp [joinWith, ih]

end Text

-- ---------------------------------------------------------------------------
-- What a variable with a list becomes
-- ---------------------------------------------------------------------------

namespace SettingKind

def IsList (kind : SettingKind) : Prop := kind = .list ∨ kind = .optionalList

instance : DecidablePred IsList := fun _ => inferInstanceAs (Decidable (_ ∨ _))

end SettingKind

theorem Setting.name_mem_listNames (setting : Setting) :
    setting.name ∈ Environment.listNames ↔ setting.kind.IsList := by
  cases setting <;> decide

namespace Environment

theorem foreign_comma : Foreign ',' := by decide

theorem pieces_joinWith {items : List String} (some_item : items ≠ [])
    (free : ∀ item ∈ items, ',' ∉ item.toList) :
    pieces (Text.joinWith "," items) = items := by
  have freeChars : ∀ piece ∈ items.map String.toList, ',' ∉ piece := by
    intro piece hpiece
    obtain ⟨item, hitem, rfl⟩ := List.mem_map.mp hpiece
    exact free item hitem
  calc pieces (Text.joinWith "," items)
    _ = (Text.split ',' ([','].intercalate (items.map String.toList))).map String.ofList := by
      rw [pieces, Text.toList_joinWith]
      rfl
    _ = (items.map String.toList).map String.ofList := by
      rw [Text.split_intercalate (by simpa using some_item) freeChars]
    _ = items := by
      rw [List.map_map]
      exact (List.map_congr_left fun item _ => String.ofList_toList).trans (List.map_id _)

theorem unread_joinWith {items : List String}
    (single : ∀ item, items = [item] → Unread item) (some_item : items ≠ []) :
    Unread (Text.joinWith "," items) := by
  match items with
  | [] => exact absurd rfl some_item
  | [item] => exact single item rfl
  | first :: second :: rest =>
    refine unread_of_foreign foreign_comma ?_
    rw [Text.toList_joinWith]
    simp

theorem value_unread (unread : Unread text) (name : String) :
    value name text =
      if name ∈ listNames then .list ((pieces text).map .text) else .text text := by
  simp only [value, unread.switch, unread.integer, unread.real]

end Environment

theorem SettingValue.list?_texts (items : List String) :
    (SettingValue.list (items.map .text)).list? = some items := by
  induction items with
  | nil => rfl
  | cons item rest ih =>
    have texts : (rest.map SettingValue.text).mapM SettingValue.text? = some rest := ih
    simp only [list?, List.map_cons, List.mapM_cons, text?, texts]
    rfl

theorem SettingKind.convert?_list {kind : SettingKind} (h : kind.IsList) (items : List String) :
    kind.convert? (some (.list (items.map .text))) = some (kind.given items) := by
  rcases h with rfl | rfl
  · exact SettingValue.list?_texts items
  · simp only [convert?, read?, SettingValue.list?_texts]
    rfl

-- ---------------------------------------------------------------------------
-- Merging leaves alone what is not named
-- ---------------------------------------------------------------------------

namespace SettingValue

variable {new : SettingValue} {entries : List (String × SettingValue)} {setting : Setting}

theorem put?_table (h : new.put? (SettingStep.ofName name) old = some root) :
    ∃ later, root = .table later := by
  obtain ⟨n, rest, hsteps⟩ := SettingStep.ofName_entry name
  rw [hsteps] at h
  cases rest with
  | nil =>
    cases h
    exact ⟨_, rfl⟩
  | cons step rest =>
    obtain ⟨inner, -, hroot⟩ := Option.bind_eq_some_iff.mp h
    cases hroot
    exact ⟨_, rfl⟩

theorem put?_apart (apart : SettingStep.root? name ≠ some setting.name)
    (h : new.put? (SettingStep.ofName name) (.table entries) = some (.table later)) :
    Members.find? setting.name later = Members.find? setting.name entries := by
  obtain ⟨n, rest, hsteps⟩ := SettingStep.ofName_entry name
  have lowered : setting.name ≠ Text.lower n := by
    rintro same
    exact apart (by simp [SettingStep.root?, hsteps, SettingStep.key?, same])
  have written : setting.name ≠ n := by
    rintro rfl
    exact lowered setting.lower_name.symm
  rw [hsteps] at h
  cases rest with
  | nil =>
    cases h
    rw [Members.find?_assign, if_neg lowered]
    rfl
  | cons step rest =>
    obtain ⟨inner, -, hroot⟩ := Option.bind_eq_some_iff.mp h
    cases hroot
    rw [Members.find?_assign, if_neg written]
    rfl

theorem put?_setting (plain : ∀ table, new ≠ .table table)
    (h : new.put? (SettingStep.ofName setting.name) (.table entries) = some (.table later)) :
    Members.find? setting.name later = some new := by
  rw [SettingStep.ofName_setting setting.lower_name] at h
  cases h
  rw [Members.find?_assign, setting.lower_name, if_pos rfl, place_eq plain]

end SettingValue

namespace Layers

variable {setting : Setting}

theorem mergeInto?_table {layer : Layer} {entries : List (String × SettingValue)}
    (h : mergeInto? (.table entries) layer = some root) : ∃ later, root = .table later := by
  induction layer generalizing entries with
  | nil =>
    cases h
    exact ⟨entries, rfl⟩
  | cons entry rest ih =>
    rw [mergeInto?_cons] at h
    obtain ⟨middle, hput, hrest⟩ := Option.bind_eq_some_iff.mp h
    obtain ⟨held, rfl⟩ := SettingValue.put?_table hput
    exact ih hrest

/-- What nothing else touches is there in the end, whether it was there or is put. -/
theorem mergeInto?_alone {layer : Layer} {entries : List (String × SettingValue)}
    (plain : ∀ table, value ≠ .table table)
    (alone : ∀ entry ∈ layer, SettingStep.root? entry.1 = some setting.name →
      entry = (setting.name, value))
    (h : mergeInto? (.table entries) layer = some (.table later))
    (held : Members.find? setting.name entries = some value ∨ (setting.name, value) ∈ layer) :
    Members.find? setting.name later = some value := by
  induction layer generalizing entries with
  | nil =>
    cases h
    exact held.resolve_right List.not_mem_nil
  | cons entry rest ih =>
    rw [mergeInto?_cons] at h
    obtain ⟨middle, hput, hrest⟩ := Option.bind_eq_some_iff.mp h
    obtain ⟨between, rfl⟩ := SettingValue.put?_table hput
    obtain ⟨first, others⟩ := List.forall_mem_cons.mp alone
    refine ih others hrest ?_
    by_cases root : SettingStep.root? entry.1 = some setting.name
    · obtain rfl := first root
      exact .inl (SettingValue.put?_setting plain hput)
    · rw [SettingValue.put?_apart root hput]
      refine held.imp_right fun hmem => (List.mem_cons.mp hmem).resolve_left ?_
      rintro rfl
      exact root (SettingStep.root?_name setting)

end Layers

-- ---------------------------------------------------------------------------
-- The variable of a setting
-- ---------------------------------------------------------------------------

namespace Environment

variable {assignments : List (String × String)} {setting : Setting}

/-- A variable holds the text for the setting, and no other touches it: all that name
the setting, or reach into it, agree. -/
structure Sets (assignments : List (String × String)) (setting : Setting) (text : String) :
    Prop where
  counts : (setting.name, text) ∈ counted assignments
  alone : ∀ entry ∈ counted assignments, SettingStep.root? entry.1 = some setting.name →
    entry = (setting.name, text)

theorem mem_layer (h : entry ∈ layer assignments) :
    ∃ counts ∈ counted assignments, entry = (counts.1, value counts.1 counts.2) := by
  have hheld : entry ∈ held assignments := Members.mem_of_mem_ofList h
  rw [held_eq] at hheld
  obtain ⟨counts, hcounts, rfl⟩ := List.mem_map.mp hheld
  exact ⟨counts, hcounts, rfl⟩

theorem Sets.alone_layer (sets : Sets assignments setting text) :
    ∀ entry ∈ layer assignments, SettingStep.root? entry.1 = some setting.name →
      entry = (setting.name, value setting.name text) := by
  intro entry hentry root
  obtain ⟨counts, hcounts, rfl⟩ := mem_layer hentry
  rw [sets.alone counts hcounts root]

theorem Sets.mem_layer (sets : Sets assignments setting text) :
    (setting.name, value setting.name text) ∈ layer assignments := by
  have named : setting.name ∈ (held assignments).map Prod.fst := by
    rw [held_eq, List.map_map]
    exact List.mem_map.mpr ⟨_, sets.counts, rfl⟩
  obtain ⟨entry, hentry, hname⟩ := List.mem_map.mp (Members.mem_names_ofList.mpr named)
  have root : SettingStep.root? entry.1 = some setting.name := by
    rw [hname]
    exact SettingStep.root?_name setting
  rw [← sets.alone_layer entry hentry root]
  exact hentry

end Environment

-- ---------------------------------------------------------------------------
-- Loading
-- ---------------------------------------------------------------------------

namespace Sources

open Layers

variable {sources : Sources} {file : Layer} {assignments : List (String × String)}
  {setting : Setting}

/-- Merging meets no index outside its list, and every other setting converts. -/
def OthersConvert (sources : Sources) (file : Layer) (assignments : List (String × String))
    (setting : Setting) : Prop :=
  ∃ table, sources.merged? file assignments = some table ∧
    ∀ other ≠ setting, ∃ value,
      other.kind.convert? (Members.find? other.name table.entries) = some value

/-- Where no name reaches into a setting and no index counts from the end, others convert
if they do so as they win. -/
theorem othersConvert_of_winning (flat : file.Flat) (one : (Environment.keys assignments).Nodup)
    (whole : ∀ key ∈ Environment.keys assignments, SettingStep.Whole key)
    (forward : ∀ name ∈ file.map Prod.fst ++ Environment.keys assignments,
      ∀ step ∈ SettingStep.ofName name, step.Forward)
    (converts : ∀ other ≠ setting, ∃ value,
      other.kind.convert? (winning file assignments other) = some value) :
    sources.OthersConvert file assignments setting := by
  have inRange : sources.InRange file assignments := inRange_of_forward one forward
  obtain ⟨table, merged⟩ := Option.isSome_iff_exists.mp inRange
  refine ⟨table, merged, fun other differs => ?_⟩
  rw [convert?_merged flat one whole merged]
  exact converts other differs

theorem find?_merged (sets : Environment.Sets assignments setting text)
    (merged : sources.merged? file assignments = some table) :
    Members.find? setting.name table.entries =
      some (Environment.value setting.name text) := by
  rw [merged?, merge?_append] at merged
  obtain ⟨root, hfile, henvironment⟩ := Option.bind_eq_some_iff.mp merged
  obtain ⟨entries, rfl⟩ := mergeInto?_table hfile
  obtain ⟨later, rfl⟩ := mergeInto?_table henvironment
  -- The variable is met somewhere, and whatever comes after it leaves it alone.
  have met : ∀ entry, entry ∈ sources.order (Environment.layer assignments) ↔
      entry ∈ Environment.layer assignments := fun _ => (sources.perm _).mem_iff
  apply mergeInto?_alone (Environment.value_ne_table _ _) _ henvironment
  · right
    exact (met _).mpr sets.mem_layer
  · intro entry hmem
    exact sets.alone_layer entry ((met _).mp hmem)

theorem load_merged (parsed : CommandLine.parse arguments = .ok line)
    (read : sources.file line.config = .ok file)
    (merged : sources.merged? file assignments = some table)
    (converts : ∀ other : Setting, ∃ value,
      other.kind.convert? (Members.find? other.name table.entries) = some value)
    (absent : setting.given? (CommandLine.occurrences arguments) = none)
    (found : setting.kind.convert? (Members.find? setting.name table.entries) = some value) :
    ∃ settings, sources.load line.given line.config assignments = .ok settings ∧
      settings.get setting = value := by
  obtain ⟨hgiven, filled⟩ := CommandLine.parse_ok parsed
  obtain ⟨lower, hlower⟩ := exists_settings converts
  have below : (settings? fun name => Members.find? name table.entries) = some lower :=
    settings?_eq_some.mpr hlower
  refine ⟨line.given.above lower, ?_, ?_⟩
  · rw [load_eq read, merged]
    simp only [below]
  · rw [Settings.get_above, hgiven, setting.above_given filled, absent, Option.getD_none]
    exact Option.some.inj ((hlower setting).symm.trans found)

theorem load_set (parsed : CommandLine.parse arguments = .ok line)
    (read : sources.file line.config = .ok file)
    (sets : Environment.Sets assignments setting text)
    (absent : setting.given? (CommandLine.occurrences arguments) = none)
    (others : sources.OthersConvert file assignments setting)
    (found : setting.kind.convert? (some (Environment.value setting.name text)) = some value) :
    ∃ settings, sources.load line.given line.config assignments = .ok settings ∧
      settings.get setting = value := by
  obtain ⟨table, merged, converts⟩ := others
  have here := found
  rw [← find?_merged sets merged] at here
  refine load_merged parsed read merged (fun other => ?_) absent here
  by_cases same : other = setting
  · subst same
    exact ⟨_, here⟩
  · exact converts other same

/-- A list arrives as the items that were joined, and a text with a comma in one piece,
whatever a file holds, in any format, and whatever the order in which entries are met. -/
theorem load_list (sources : Sources) (parsed : CommandLine.parse arguments = .ok line)
    (read : sources.file line.config = .ok file)
    (sets : Environment.Sets assignments setting text)
    (absent : setting.given? (CommandLine.occurrences arguments) = none)
    (others : sources.OthersConvert file assignments setting) :
    (∀ items : List String, items ≠ [] → (∀ item ∈ items, ',' ∉ item.toList) →
      (∀ item, items = [item] → Environment.Unread item) →
      text = Text.joinWith "," items → setting.kind.IsList →
      ∃ settings, sources.load line.given line.config assignments = .ok settings ∧
        settings.get setting = setting.kind.given items) ∧
    (',' ∈ text.toList → setting.kind = .text →
      ∃ settings, sources.load line.given line.config assignments = .ok settings ∧
        settings.get setting = setting.kind.given [text]) := by
  refine ⟨fun items some_item free single joined list => ?list, fun comma single => ?text⟩
  case list =>
    subst joined
    refine load_set parsed read sets absent others ?_
    rw [Environment.value_unread (Environment.unread_joinWith single some_item),
      if_pos (setting.name_mem_listNames.mpr list), Environment.pieces_joinWith some_item free]
    exact SettingKind.convert?_list list items
  case text =>
    refine load_set parsed read sets absent others (SettingKind.convert?_text single ?_)
    rw [Environment.value_unread (Environment.unread_of_foreign Environment.foreign_comma comma),
      if_neg (Setting.name_not_list single)]
    rfl

end Sources

namespace Sample

/-- Entries are met from the last to the first. -/
def listSources : Sources :=
  { layeredSources with read? := (Sources.ofTexts fun _ => some pathText).read? }

def listVariables : List (String × String) :=
  [("TWIN_SEED_API_KEY", "7,8"), ("HOME", "/root"), ("Twin_Seed_Bpns", "BPNL1,, 7 ,true")]

end Sample

/-- Above the list of a file; the empty item, the blanks, the number and the switch
stay what they are. -/
theorem Sources.load_list_sample : ∃ settings others,
    Sample.listSources.load Sample.pathLine.given Sample.pathLine.config Sample.listVariables =
      .ok settings ∧
    settings.bpns = ["BPNL1", "", " 7 ", "true"] ∧
    Sample.listSources.load Sample.pathLine.given Sample.pathLine.config Sample.listVariables =
      .ok others ∧
    others.apiKey = some "7,8" := by
  have converts : ∀ setting,
      Sample.listSources.OthersConvert Sample.pathFile Sample.listVariables setting := by
    have some : ∀ setting : Setting, (setting.kind.convert?
        (Layers.winning Sample.pathFile Sample.listVariables setting)).isSome := by decide
    intro setting
    apply othersConvert_of_winning ⟨by decide, by decide⟩ (by decide) (by decide) (by decide)
    intro other _
    exact Option.isSome_iff_exists.mp (some other)
  have parsed : CommandLine.parse Sample.pathArguments = .ok Sample.pathLine := rfl
  have read : Sample.listSources.file Sample.pathLine.config = .ok Sample.pathFile :=
    Sample.pathFile_read
  have list : Environment.Sets Sample.listVariables .bpns "BPNL1,, 7 ,true" :=
    ⟨by decide, by decide⟩
  have key : Environment.Sets Sample.listVariables .apiKey "7,8" := ⟨by decide, by decide⟩
  obtain ⟨settings, loaded, bpns⟩ := (load_list Sample.listSources parsed read list rfl
    (converts .bpns)).1 ["BPNL1", "", " 7 ", "true"] (by decide) (by decide)
    (fun item h => nomatch h) rfl (by decide)
  obtain ⟨others, again, apiKey⟩ := (load_list Sample.listSources parsed read key rfl
    (converts .apiKey)).2 (by decide) rfl
  exact ⟨settings, others, loaded, bpns, again, apiKey⟩

namespace Sample

def pathVariables : List (String × String) :=
  [("TWIN_SEED_BPNS", "a,b,c"), ("TWIN_SEED_BPNS[1]", "z")]

def pathTable : List (String × SettingValue) :=
  [("bpns", .list [.text "a", .text "z", .text "c"])]

theorem pathTable_merged :
    Layers.merge? ([] ++ Environment.layer pathVariables) = some (.table pathTable) := by
  have layer : Environment.layer pathVariables =
      [("bpns", .list [.text "a", .text "b", .text "c"]), ("bpns[1]", .text "z")] := rfl
  have list : SettingStep.ofName "bpns" = [.entry "bpns"] := rfl
  have item : SettingStep.ofName "bpns[1]" = [.entry "bpns", .item 1] := rfl
  simp only [layer, Layers.merge?, List.nil_append, List.foldlM_cons, list, item]
  rfl

theorem pathTable_converts (setting : Setting) : ∃ value,
    setting.kind.convert? (Members.find? setting.name pathTable) = some value := by
  have some : ∀ setting : Setting,
      (setting.kind.convert? (Members.find? setting.name pathTable)).isSome := by decide
  exact Option.isSome_iff_exists.mp (some setting)

end Sample

/-- A second variable reaches into the list: it arrives with that item changed. -/
theorem Layers.load_list_path : ∃ settings,
    CommandLine.parse Sample.variableArguments = .ok Sample.variableLine ∧
    Layers.file Sample.variableLine.config (fun _ => none) = .ok [] ∧
    Environment.counted Sample.pathVariables =
      [(Setting.bpns.name, Text.joinWith "," ["a", "b", "c"]), ("bpns[1]", "z")] ∧
    Setting.bpns.given? (CommandLine.occurrences Sample.variableArguments) = none ∧
    (Sources.ofTexts fun _ => none).OthersConvert [] Sample.pathVariables .bpns ∧
    load Sample.variableLine.given Sample.variableLine.config (fun _ => none)
      Sample.pathVariables = .ok settings ∧
    settings.bpns = ["a", "z", "c"] := by
  refine ⟨{ bpns := ["a", "z", "c"] }, rfl, rfl, by decide, rfl,
    ⟨_, Sample.pathTable_merged, fun other _ => Sample.pathTable_converts other⟩, ?_, rfl⟩
  rw [load_ofTexts (rfl : Layers.file Sample.variableLine.config _ = .ok []),
    Sample.pathTable_merged]
  rfl

end Dataspace
