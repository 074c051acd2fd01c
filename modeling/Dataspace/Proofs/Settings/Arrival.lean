import Dataspace.Proofs.Decimal
import Dataspace.Proofs.Settings.Layered

/-!
# Texts from the environment

A variable is read as a switch or as a number where it looks like one, also if
its setting is a text, and the text is then what the switch or the number is
written as. So a text does not always arrive as it stands (`load_variable`): an
API key of `007` becomes `7`, whereas the same key on the command line stays
(`load_variable_numeral`). What has one foreign character in it does arrive.
-/

namespace Dataspace

namespace Environment

variable {text : String}

-- ---------------------------------------------------------------------------
-- What a text becomes
-- ---------------------------------------------------------------------------

structure Unread (text : String) : Prop where
  switch : bool? text = none
  integer : integer? text = none
  real : Extended.read? text.toList = none

theorem integer?_eq_some (h : integer? text = some i) :
    ∃ n, Numeral.read? text.toList = some n ∧ n.isWhole = true ∧ n.whole ≠ [] ∧
      i = n.integer := by
  obtain ⟨n, read, found⟩ := Option.bind_eq_some_iff.mp h
  have checked : (if n.isWhole && n.whole ≠ [] && SettingValue.isInteger n.integer then
      some n.integer else none) = some i := found
  split at checked
  · rename_i admitted
    cases checked
    obtain ⟨⟨whole, some_digit⟩, -⟩ :=
      (Bool.and_eq_true_iff.mp admitted).imp Bool.and_eq_true_iff.mp id
    exact ⟨n, read, whole, of_decide_eq_true some_digit, rfl⟩
  · cases checked

inductive Arrives (text : String) : String → Prop
  | switch (h : bool? text ≠ none) : Arrives text (Text.lower text)
  | integer {i : Int} (h : bool? text = none) (whole : integer? text = some i) :
    Arrives text (Json.Number.integer i).compact
  | real {r : Extended} (h : bool? text = none) (broken : integer? text = none)
    (read : Extended.read? text.toList = some r) : Arrives text r.text
  | text (h : Unread text) : Arrives text text

theorem lower_of_bool? (h : bool? text = some b) :
    (SettingValue.bool b).text? = some (Text.lower text) := by
  unfold bool? at h
  split at h
  · rename_i on
    cases h
    rw [on]
    rfl
  · split at h
    · rename_i off
      cases h
      rw [off]
      rfl
    · cases h

theorem arrives_value (single : name ∉ listNames) (text : String) :
    ∃ arrived, (value name text).text? = some arrived ∧ Arrives text arrived := by
  unfold value
  split
  · rename_i b hswitch
    exact ⟨_, lower_of_bool? hswitch, .switch (by simp [hswitch])⟩
  · rename_i hswitch hinteger
    exact ⟨_, rfl, .integer hswitch hinteger⟩
  · rename_i hswitch hinteger hreal
    exact ⟨_, rfl, .real hswitch hinteger hreal⟩
  · rename_i hswitch hinteger hreal
    rw [if_neg single]
    exact ⟨_, rfl, .text ⟨hswitch, hinteger, hreal⟩⟩

-- ---------------------------------------------------------------------------
-- What stays as it is
-- ---------------------------------------------------------------------------

/-- A switch in lower case, a whole number in decimal notation, a real written as
reals are, or none of these. -/
structure Unaltered (text : String) : Prop where
  switch : bool? text ≠ none → Text.lower text = text
  integer : bool? text = none → integer? text ≠ none →
    ∀ n, Numeral.read? text.toList = some n → n.Plain
  real : bool? text = none → integer? text = none →
    ∀ r, Extended.read? text.toList = some r → r.text = text

theorem Arrives.eq_iff (h : Arrives text arrived) : arrived = text ↔ Unaltered text := by
  cases h with
  | switch hswitch =>
    exact ⟨fun same => ⟨fun _ => same, fun h => absurd h hswitch, fun h => absurd h hswitch⟩,
      fun unaltered => unaltered.switch hswitch⟩
  | @integer i hswitch hinteger =>
    obtain ⟨n, read, whole, some_digit, rfl⟩ := integer?_eq_some hinteger
    obtain ⟨htext, digits⟩ := Numeral.read?_whole read whole
    have plain : (Json.Number.integer n.integer).compact = text ↔ n.Plain := by
      rw [← Numeral.compact_eq_iff digits some_digit, ← htext, String.toList_inj]
    rw [plain]
    refine ⟨fun plain => ⟨fun h => absurd hswitch h, fun _ _ m hm => ?_, fun _ h => ?_⟩,
      fun unaltered => unaltered.integer hswitch (by simp [hinteger]) n read⟩
    · rw [← Option.some.inj (read.symm.trans hm)]
      exact plain
    · rw [hinteger] at h
      cases h
  | @real r hswitch hinteger hreal =>
    refine ⟨fun same => ⟨fun h => absurd hswitch h, fun _ h => absurd hinteger h,
      fun _ _ found hfound => ?_⟩, fun unaltered => unaltered.real hswitch hinteger r hreal⟩
    rw [← Option.some.inj (hreal.symm.trans hfound)]
    exact same
  | text unread =>
    refine ⟨fun _ => ⟨fun h => absurd unread.switch h, fun _ h => absurd unread.integer h,
      fun _ _ r h => ?_⟩, fun _ => rfl⟩
    rw [unread.real] at h
    cases h

-- ---------------------------------------------------------------------------
-- Foreign characters
-- ---------------------------------------------------------------------------

/-- The words that are read as something else than a text, in lower case. -/
def words : List String := ["true", "false", "inf", "infinity", "nan"]

/-- In no numeral and in none of the words, whether capital or not. -/
def Foreign (c : Char) : Prop :=
  Numeral.isNumeralChar c = false ∧ ∀ word ∈ words, Text.lowerChar c ∉ word.toList

instance : DecidablePred Foreign := fun c =>
  inferInstanceAs (Decidable (_ ∧ ∀ word ∈ words, Text.lowerChar c ∉ word.toList))

theorem toLower_not_mem (foreign : Foreign c) (h : word ∈ words) : c.toLower ∉ word.toList := by
  by_cases kelvin : c = '\u212a'
  · subst kelvin
    revert word
    decide
  · have plain : Text.lowerChar c = c.toLower := if_neg kelvin
    rw [← plain]
    exact foreign.2 word h

theorem bool?_of_foreign (foreign : Foreign c) (h : c ∈ text.toList) : bool? text = none := by
  have hmem : Text.lowerChar c ∈ (Text.lower text).toList := by
    rw [Text.lower, String.toList_ofList]
    exact List.mem_map_of_mem h
  have other : ∀ word ∈ words, Text.lower text ≠ word := fun word hword same =>
    foreign.2 word hword (same ▸ hmem)
  rw [bool?, if_neg (other "true" (by decide)), if_neg (other "false" (by decide))]

theorem numeral_of_foreign (foreign : Foreign c) (h : c ∈ text.toList) :
    Numeral.read? text.toList = none := by
  cases read : Numeral.read? text.toList with
  | none => rfl
  | some n =>
    have numeral := Numeral.read?_chars read c h
    rw [foreign.1] at numeral
    cases numeral

theorem real_of_foreign (foreign : Foreign c) (h : c ∈ text.toList) :
    Extended.read? text.toList = none := by
  have hrest : c ∈ (Numeral.takeSign text.toList).2 := by
    rw [Numeral.takeSign_eq text.toList] at h
    rcases List.mem_append.mp h with h | h
    · have numeral := Numeral.mem_signText h
      rw [foreign.1] at numeral
      cases numeral
    · exact h
  have other : ∀ word ∈ words,
      String.ofList ((Numeral.takeSign text.toList).2.map Char.toLower) ≠ word := by
    rintro word hword rfl
    refine toLower_not_mem foreign hword ?_
    rw [String.toList_ofList]
    exact List.mem_map_of_mem hrest
  simp only [Extended.read?, numeral_of_foreign foreign h, Extended.ofName?,
    other "inf" (by decide), other "infinity" (by decide), other "nan" (by decide),
    decide_false, Bool.or_self, Bool.false_eq_true, if_false]

theorem unread_of_foreign (foreign : Foreign c) (h : c ∈ text.toList) : Unread text := by
  refine ⟨bool?_of_foreign foreign h, ?_, real_of_foreign foreign h⟩
  rw [integer?, numeral_of_foreign foreign h]
  rfl

theorem Unread.unaltered (unread : Unread text) : Unaltered text :=
  (Arrives.text unread).eq_iff.mp rfl

-- ---------------------------------------------------------------------------
-- The variables that count
-- ---------------------------------------------------------------------------

def counted (assignments : List (String × String)) : List (String × String) :=
  assignments.filterMap fun (name, text) => (settingName? name).map fun key => (key, text)

theorem held_eq (assignments : List (String × String)) :
    held assignments = (counted assignments).map fun (key, text) => (key, value key text) := by
  rw [held, counted, List.map_filterMap]
  refine congrArg (List.filterMap · assignments) (funext fun assignment => ?_)
  rw [Option.map_map]
  rfl

variable {assignments : List (String × String)} {setting : Setting}

theorem keys_of_single (only : counted assignments = [(setting.name, text)]) :
    keys assignments = [setting.name] := by
  rw [← map_fst_held, held_eq, only]
  rfl

theorem nodup_of_single (only : counted assignments = [(setting.name, text)]) :
    (keys assignments).Nodup := by
  rw [keys_of_single only]
  exact List.pairwise_singleton ..

theorem whole_of_single (only : counted assignments = [(setting.name, text)]) :
    ∀ key ∈ keys assignments, SettingStep.Whole key := by
  rw [keys_of_single only]
  exact fun key hmem => List.mem_singleton.mp hmem ▸ SettingStep.whole_name setting

theorem value?_of_single (only : counted assignments = [(setting.name, text)])
    (other : Setting) :
    value? other assignments =
      if setting = other then some (value setting.name text) else none := by
  rw [← value?_held, held_eq, only]
  simp only [List.map_cons, List.map_nil, Layer.value?, setting.lower_name]
  by_cases same : setting = other
  · rw [if_pos same, if_pos (same ▸ rfl)]
  · rw [if_neg same, if_neg (fun h => same (Setting.name_injective h))]

end Environment

-- ---------------------------------------------------------------------------
-- Loading one variable
-- ---------------------------------------------------------------------------

namespace SettingKind

variable {kind : SettingKind}

theorem convert?_text (h : kind = .text) {value : SettingValue}
    (found : value.text? = some arrived) :
    kind.convert? (some value) = some (kind.given [arrived]) := by
  subst h
  cases value with
  | null => cases found
  | _ => simp [convert?, read?, found, given]

theorem given_text_inj (h : kind = .text) :
    kind.given [one] = kind.given [other] ↔ one = other := by
  subst h
  simp [given]

end SettingKind

theorem Setting.name_not_list {setting : Setting} (h : setting.kind = .text) :
    setting.name ∉ Environment.listNames := by
  revert setting
  decide

namespace Layers

variable {setting : Setting} {assignments : List (String × String)}

theorem convert?_here (only : Environment.counted assignments = [(setting.name, text)])
    (kind : setting.kind = .text)
    (arrives : (Environment.value setting.name text).text? = some arrived) :
    setting.kind.convert? (winning [] assignments setting) =
      some (setting.kind.given [arrived]) := by
  rw [winning, Environment.value?_of_single only, if_pos rfl]
  exact SettingKind.convert?_text kind arrives

theorem convert?_elsewhere (only : Environment.counted assignments = [(setting.name, text)])
    {other : Setting} (differs : other ≠ setting) :
    other.kind.convert? (winning [] assignments other) = some other.kind.default := by
  rw [winning, Environment.value?_of_single only, if_neg (Ne.symm differs)]
  rfl

theorem inRange_single (sources : Sources)
    (only : Environment.counted assignments = [(setting.name, text)]) :
    sources.InRange [] assignments := by
  have keys := Environment.keys_of_single only
  refine Sources.inRange_of_forward (Environment.nodup_of_single only) fun name hmem => ?_
  rw [keys, List.map_nil, List.nil_append, List.mem_singleton] at hmem
  rw [hmem, SettingStep.ofName_setting setting.lower_name]
  intro step hstep
  rw [List.mem_singleton.mp hstep]
  trivial

/-- One variable for a setting that is a text, and no file. -/
theorem load_variable (parsed : CommandLine.parse arguments = .ok line)
    (read : Layers.file line.config text? = .ok [])
    (only : Environment.counted assignments = [(setting.name, text)])
    (kind : setting.kind = .text)
    (absent : setting.given? (CommandLine.occurrences arguments) = none) :
    ∃ settings arrived,
      load line.given line.config text? assignments = .ok settings ∧
      settings.get setting = setting.kind.given [arrived] ∧
      Environment.Arrives text arrived ∧
      (settings.get setting = setting.kind.given [text] ↔ Environment.Unaltered text) ∧
      ((∃ c ∈ text.toList, Environment.Foreign c) →
        settings.get setting = setting.kind.given [text]) ∧
      ∀ other ≠ setting, settings.get other =
        (other.given? (CommandLine.occurrences arguments)).getD other.kind.default := by
  obtain ⟨arrived, htext, arrives⟩ :=
    Environment.arrives_value (Setting.name_not_list kind) text
  have converted := convert?_here only kind htext
  have converts : ∀ other : Setting, ∃ value,
      other.kind.convert? (winning [] assignments other) = some value := by
    intro other
    by_cases same : other = setting
    · exact ⟨_, same ▸ converted⟩
    · exact ⟨_, convert?_elsewhere only same⟩
  have flat : Layer.Flat [] := ⟨fun _ hmem => (nomatch hmem), fun _ => Nat.zero_le _⟩
  have one := Environment.nodup_of_single only
  have whole := Environment.whole_of_single only
  obtain ⟨settings, loaded⟩ :=
    (Sources.exists_load read flat one whole).mpr ⟨inRange_single _ only, converts⟩
  have get := Sources.get_of_load parsed read flat one whole loaded
  have here : settings.get setting = setting.kind.given [arrived] := by
    obtain ⟨value, hvalue, hget⟩ := get setting
    rw [hget, absent, Option.getD_none]
    exact Option.some.inj (hvalue.symm.trans converted)
  have unchanged : settings.get setting = setting.kind.given [text] ↔
      Environment.Unaltered text := by
    rw [here, SettingKind.given_text_inj kind, arrives.eq_iff]
  refine ⟨settings, arrived, loaded, here, arrives, unchanged, ?foreign, ?others⟩
  case foreign =>
    rintro ⟨c, hmem, foreign⟩
    exact unchanged.mpr (Environment.unread_of_foreign foreign hmem).unaltered
  case others =>
    intro other differs
    obtain ⟨value, hvalue, hget⟩ := get other
    obtain rfl := Option.some.inj (hvalue.symm.trans (convert?_elsewhere only differs))
    exact hget

end Layers

namespace Sample

def variableArguments : List String := ["-f", "parts.json"]

def variableLine : CommandLine := ⟨"parts.json", none, {}⟩

def keyArguments : List String := ["-f", "parts.json", "-k", "007"]

def keyLine : CommandLine := ⟨"parts.json", none, { apiKey := some "007" }⟩

end Sample

theorem Layers.load_variable_sample : ∃ settings,
    load Sample.variableLine.given Sample.variableLine.config (fun _ => none)
      [("HOME", "/root"), ("TWIN_SEED_FAULTY_BPN", "BPNL00000003CRHK")] = .ok settings ∧
    settings.faultyBpn = some "BPNL00000003CRHK" ∧ settings.apiKey = none := by
  have only : Environment.counted
      [("HOME", "/root"), ("TWIN_SEED_FAULTY_BPN", "BPNL00000003CRHK")] =
        [(Setting.faultyBpn.name, "BPNL00000003CRHK")] := by decide
  obtain ⟨settings, _, loaded, -, -, -, foreign, others⟩ := load_variable
    (rfl : CommandLine.parse Sample.variableArguments = .ok Sample.variableLine)
    (rfl : Layers.file none (fun _ => none) = .ok []) only rfl rfl
  exact ⟨settings, loaded, foreign ⟨'B', by decide, by decide⟩, others .apiKey (by decide)⟩

/-- A key with leading zeros loses them on its way through the environment, and
keeps them on the command line. -/
theorem Layers.load_variable_numeral : ∃ settings given,
    CommandLine.parse Sample.variableArguments = .ok Sample.variableLine ∧
    Environment.counted [("TWIN_SEED_API_KEY", "007")] = [(Setting.apiKey.name, "007")] ∧
    load Sample.variableLine.given Sample.variableLine.config (fun _ => none)
      [("TWIN_SEED_API_KEY", "007")] = .ok settings ∧
    settings.apiKey = some "7" ∧
    CommandLine.parse Sample.keyArguments = .ok Sample.keyLine ∧
    load Sample.keyLine.given Sample.keyLine.config (fun _ => none) [] = .ok given ∧
    given.apiKey = some "007" := by
  refine ⟨{ apiKey := some "7" }, { apiKey := some "007" }, rfl, by decide, ?_, rfl, rfl, ?_, rfl⟩
  · have layer : Environment.layer [("TWIN_SEED_API_KEY", "007")] =
        [("api_key", .integer 7)] := rfl
    have path : SettingStep.ofName "api_key" = [.entry "api_key"] := rfl
    have merged : merge? [("api_key", .integer 7)] =
        some (.table [("api_key", .integer 7)]) := by
      simp only [merge?, List.foldlM_cons, path]
      rfl
    rw [load_ofTexts (rfl : Layers.file Sample.variableLine.config _ = .ok []), layer,
      List.nil_append, merged]
    rfl
  · rw [load_ofTexts (rfl : Layers.file Sample.keyLine.config _ = .ok [])]
    rfl

end Dataspace
