import Dataspace.CommandLine.Basic
import Dataspace.Settings.Layers

/-!
# Settings one by one

There are sixteen settings of four kinds. The kind of a setting says what stands
for no value, how values of files and of the environment convert, and what one
layer over another comes to; name, option and field are its own. So what is read
(`settings?_eq_some`), what stands above what (`get_above`) and what the command
line gives (`above_given`) is said once for all settings.
-/

namespace Dataspace

-- ---------------------------------------------------------------------------
-- Kinds
-- ---------------------------------------------------------------------------

inductive SettingKind
  | list | optionalList | text | switch
  deriving DecidableEq, Repr

namespace SettingKind

abbrev Value : SettingKind → Type
  | .list => List String
  | .optionalList => Option (List String)
  | .text => Option String
  | .switch => Bool

def default : (kind : SettingKind) → kind.Value
  | .list => []
  | .optionalList | .text => none
  | .switch => false

/-- Null is a value of what is optional only. -/
def read? : (kind : SettingKind) → SettingValue → Option kind.Value
  | .list, value => value.list?
  | .optionalList, .null | .text, .null => some none
  | .optionalList, value => value.list?.map some
  | .text, value => value.text?.map some
  | .switch, value => value.switch?

/-- What is found is converted; nothing found means the default. -/
def convert? (kind : SettingKind) : Option SettingValue → Option kind.Value
  | none => some kind.default
  | some value => kind.read? value

def above : (kind : SettingKind) → kind.Value → kind.Value → kind.Value
  | .list, upper, lower => if upper = [] then lower else upper
  | .optionalList, upper, lower | .text, upper, lower => upper <|> lower
  | .switch, upper, lower => upper || lower

def given : (kind : SettingKind) → List String → kind.Value
  | .list, values => values
  | .optionalList, values => some values
  | .text, values => values.head?
  | .switch, _ => true

theorem plainSetting_list (found : Option SettingValue) :
    Layers.plainSetting SettingValue.list? [] found = convert? .list found := by
  cases found <;> rfl

theorem plainSetting_switch (found : Option SettingValue) :
    Layers.plainSetting SettingValue.switch? false found = convert? .switch found := by
  cases found <;> rfl

theorem optionalSetting_list (found : Option SettingValue) :
    Layers.optionalSetting SettingValue.list? found = convert? .optionalList found := by
  cases found with
  | none => rfl
  | some value => cases value <;> rfl

theorem optionalSetting_text (found : Option SettingValue) :
    Layers.optionalSetting SettingValue.text? found = convert? .text found := by
  cases found with
  | none => rfl
  | some value => cases value <;> rfl

end SettingKind

-- ---------------------------------------------------------------------------
-- Settings
-- ---------------------------------------------------------------------------

inductive Setting
  | submodelUrls | submodelUploadUrls | registryUrl | registryUploadUrl
  | connectorUrls | connectorUploadUrls | dataPlaneUrls | apiKey | certificateUrl
  | ess | essUrl | faultyBpn | policy | bpns | aas3 | allowedBpns
  deriving DecidableEq, Repr

namespace Setting

def all : List Setting :=
  [.submodelUrls, .submodelUploadUrls, .registryUrl, .registryUploadUrl, .connectorUrls,
    .connectorUploadUrls, .dataPlaneUrls, .apiKey, .certificateUrl, .ess, .essUrl, .faultyBpn,
    .policy, .bpns, .aas3, .allowedBpns]

theorem mem_all (setting : Setting) : setting ∈ all := by
  cases setting <;> decide

instance {p : Setting → Prop} [DecidablePred p] : Decidable (∀ setting, p setting) :=
  decidable_of_iff (∀ setting ∈ all, p setting)
    ⟨fun h setting => h setting setting.mem_all, fun h setting _ => h setting⟩

def kind : Setting → SettingKind
  | .submodelUrls | .connectorUrls | .bpns | .allowedBpns => .list
  | .submodelUploadUrls | .connectorUploadUrls | .dataPlaneUrls => .optionalList
  | .ess | .aas3 => .switch
  | _ => .text

/-- The name in files, and in variables behind their common beginning. -/
def name : Setting → String
  | .submodelUrls => "submodel_urls"
  | .submodelUploadUrls => "submodel_upload_urls"
  | .registryUrl => "registry_url"
  | .registryUploadUrl => "registry_upload_url"
  | .connectorUrls => "connector_urls"
  | .connectorUploadUrls => "connector_upload_urls"
  | .dataPlaneUrls => "dataplane_urls"
  | .apiKey => "api_key"
  | .certificateUrl => "certificate_url"
  | .ess => "ess"
  | .essUrl => "ess_url"
  | .faultyBpn => "faulty_bpn"
  | .policy => "policy"
  | .bpns => "bpns"
  | .aas3 => "aas3"
  | .allowedBpns => "allowed_bpns"

def option : Setting → Opt
  | .submodelUrls => .submodel
  | .submodelUploadUrls => .submodelUpload
  | .registryUrl => .aas
  | .registryUploadUrl => .aasUpload
  | .connectorUrls => .edc
  | .connectorUploadUrls => .edcUpload
  | .dataPlaneUrls => .dataplane
  | .apiKey => .apiKey
  | .certificateUrl => .esr
  | .ess => .ess
  | .essUrl => .essUrl
  | .faultyBpn => .bpn
  | .policy => .policy
  | .bpns => .bpns
  | .aas3 => .aas3
  | .allowedBpns => .allowedBpns

theorem name_injective : ∀ {one other : Setting}, one.name = other.name → one = other := by
  decide

theorem arity_option (setting : Setting) :
    setting.option.arity = .switch ↔ setting.kind = .switch := by
  cases setting <;> decide

end Setting

namespace Settings

def get (settings : Settings) : (setting : Setting) → setting.kind.Value
  | .submodelUrls => settings.submodelUrls
  | .submodelUploadUrls => settings.submodelUploadUrls
  | .registryUrl => settings.registryUrl
  | .registryUploadUrl => settings.registryUploadUrl
  | .connectorUrls => settings.connectorUrls
  | .connectorUploadUrls => settings.connectorUploadUrls
  | .dataPlaneUrls => settings.dataPlaneUrls
  | .apiKey => settings.apiKey
  | .certificateUrl => settings.certificateUrl
  | .ess => settings.ess
  | .essUrl => settings.essUrl
  | .faultyBpn => settings.faultyBpn
  | .policy => settings.policy
  | .bpns => settings.bpns
  | .aas3 => settings.aas3
  | .allowedBpns => settings.allowedBpns

def ofValues (value : (setting : Setting) → setting.kind.Value) : Settings where
  submodelUrls := value .submodelUrls
  submodelUploadUrls := value .submodelUploadUrls
  registryUrl := value .registryUrl
  registryUploadUrl := value .registryUploadUrl
  connectorUrls := value .connectorUrls
  connectorUploadUrls := value .connectorUploadUrls
  dataPlaneUrls := value .dataPlaneUrls
  apiKey := value .apiKey
  certificateUrl := value .certificateUrl
  ess := value .ess
  essUrl := value .essUrl
  faultyBpn := value .faultyBpn
  policy := value .policy
  bpns := value .bpns
  aas3 := value .aas3
  allowedBpns := value .allowedBpns

theorem get_ofValues (value : (setting : Setting) → setting.kind.Value) (setting : Setting) :
    (ofValues value).get setting = value setting := by
  cases setting <;> rfl

theorem get_above (upper lower : Settings) (setting : Setting) :
    (upper.above lower).get setting =
      setting.kind.above (upper.get setting) (lower.get setting) := by
  cases setting <;> rfl

end Settings

namespace Layers

theorem bind_eq_some {x : Option α} {f : α → Option β} :
    (x >>= f) = some b ↔ ∃ a, x = some a ∧ f a = some b := Option.bind_eq_some_iff

open SettingKind in
theorem settings?_eq_some {find : String → Option SettingValue} {settings : Settings} :
    settings? find = some settings ↔
      ∀ setting : Setting, setting.kind.convert? (find setting.name) =
        some (settings.get setting) := by
  unfold settings?
  -- From the outside in, each bind is met once.
  simp only [↓bind_eq_some, plainSetting_list, plainSetting_switch, optionalSetting_list,
    optionalSetting_text, Option.pure_def, Option.some.injEq]
  constructor
  · rintro ⟨_, h1, _, h2, _, h3, _, h4, _, h5, _, h6, _, h7, _, h8, _, h9, _, h10, _, h11, _, h12,
      _, h13, _, h14, _, h15, _, h16, rfl⟩ setting
    match setting with
    | .submodelUrls => exact h1
    | .submodelUploadUrls => exact h2
    | .registryUrl => exact h3
    | .registryUploadUrl => exact h4
    | .connectorUrls => exact h5
    | .connectorUploadUrls => exact h6
    | .dataPlaneUrls => exact h7
    | .apiKey => exact h8
    | .certificateUrl => exact h9
    | .ess => exact h10
    | .essUrl => exact h11
    | .faultyBpn => exact h12
    | .policy => exact h13
    | .bpns => exact h14
    | .aas3 => exact h15
    | .allowedBpns => exact h16
  · intro h
    exact ⟨_, h .submodelUrls, _, h .submodelUploadUrls, _, h .registryUrl, _,
      h .registryUploadUrl, _, h .connectorUrls, _, h .connectorUploadUrls, _, h .dataPlaneUrls, _,
      h .apiKey, _, h .certificateUrl, _, h .ess, _, h .essUrl, _, h .faultyBpn, _, h .policy, _,
      h .bpns, _, h .aas3, _, h .allowedBpns, rfl⟩

theorem exists_settings {found : Setting → Option SettingValue}
    (h : ∀ setting : Setting, ∃ value, setting.kind.convert? (found setting) = some value) :
    ∃ settings : Settings, ∀ setting : Setting,
      setting.kind.convert? (found setting) = some (settings.get setting) := by
  let value (setting : Setting) :=
    (setting.kind.convert? (found setting)).getD setting.kind.default
  refine ⟨.ofValues value, fun setting => ?_⟩
  obtain ⟨converted, hconverted⟩ := h setting
  rw [Settings.get_ofValues, hconverted]
  exact congrArg some (by simp only [value, hconverted, Option.getD_some])

end Layers

-- ---------------------------------------------------------------------------
-- The command line
-- ---------------------------------------------------------------------------

def Item.occurrence? : Item → Option Occurrence
  | .occurrence found => some found
  | .refused _ => none

namespace CommandLine

def occurrences (arguments : List String) : List Occurrence :=
  (Scan.items none arguments).filterMap Item.occurrence?

def Filled (occurrence : Occurrence) : Prop :=
  occurrence.option.arity ≠ .switch → occurrence.values ≠ []

theorem filled_of_fault? {occurrence : Occurrence} (h : fault? seen occurrence = none) :
    Filled occurrence := by
  intro valued empty
  unfold fault? at h
  simp only [empty, List.isEmpty_nil, if_true] at h
  split at h
  · cases h
  · cases h
  · rename_i switch _ _
    exact absurd switch valued
  · cases h
  · cases h

theorem check_ok {items : List Item} (h : check seen items = .ok later) :
    ∃ more : List Occurrence, items = more.map .occurrence ∧ later = seen ++ more ∧
      ∀ occurrence ∈ more, Filled occurrence := by
  induction items generalizing seen with
  | nil =>
    cases h
    exact ⟨[], rfl, (List.append_nil _).symm, fun _ hm => nomatch hm⟩
  | cons item rest ih =>
    cases item with
    | refused usage => cases h
    | occurrence occurrence =>
      simp only [check] at h
      cases hfault : fault? seen occurrence with
      | some usage =>
        rw [hfault] at h
        cases h
      | none =>
        rw [hfault] at h
        obtain ⟨more, rfl, rfl, hfilled⟩ := ih h
        refine ⟨occurrence :: more, rfl, List.append_assoc .., fun o hm => ?_⟩
        rcases List.mem_cons.mp hm with rfl | hm
        · exact filled_of_fault? hfault
        · exact hfilled o hm

theorem parse_ok (h : parse arguments = .ok line) :
    line.given = settings (occurrences arguments) ∧
      ∀ occurrence ∈ occurrences arguments, Filled occurrence := by
  unfold parse at h
  cases hcheck : check [] (Scan.items none arguments) with
  | error usage =>
    rw [hcheck] at h
    cases h
  | ok seen =>
    rw [hcheck] at h
    obtain ⟨more, hitems, hseen, hfilled⟩ := check_ok hcheck
    have hmore : occurrences arguments = seen := by
      rw [occurrences, hitems, hseen, List.nil_append, List.filterMap_map]
      exact List.filterMap_some
    have hline : ofOccurrences seen = .ok line := h
    unfold ofOccurrences at hline
    split at hline
    · cases hline
      rw [hmore]
      rw [List.nil_append] at hseen
      exact ⟨rfl, hseen ▸ hfilled⟩
    · cases hline

variable {seen : List Occurrence} {option : Opt}

theorem occursIn_iff : occursIn option seen = true ↔ ∃ o ∈ seen, o.option = option := by
  simp [occursIn]

theorem valuesOf_eq_nil (h : occursIn option seen = false) : valuesOf option seen = [] := by
  have none : (seen.filter fun occurrence => occurrence.option == option) = [] := by
    rw [List.filter_eq_nil_iff]
    intro o ho same
    exact absurd (occursIn_iff.mpr ⟨o, ho, beq_iff_eq.mp same⟩) (by simp [h])
  rw [valuesOf, none]
  rfl

theorem valuesOf_ne_nil (filled : ∀ occurrence ∈ seen, Filled occurrence)
    (h : occursIn option seen = true) (valued : option.arity ≠ .switch) :
    valuesOf option seen ≠ [] := by
  obtain ⟨o, ho, rfl⟩ := occursIn_iff.mp h
  intro none
  have hmem : o ∈ seen.filter fun occurrence => occurrence.option == o.option :=
    List.mem_filter.mpr ⟨ho, beq_self_eq_true _⟩
  exact filled o ho valued (List.flatMap_eq_nil_iff.mp none o hmem)

end CommandLine

namespace Setting

def given? (setting : Setting) (seen : List Occurrence) : Option setting.kind.Value :=
  if CommandLine.occursIn setting.option seen then
    some (setting.kind.given (CommandLine.valuesOf setting.option seen))
  else none

end Setting

namespace SettingKind

def field : (kind : SettingKind) → Bool → List String → kind.Value
  | .list, _, values => values
  | .optionalList, occurs, values => if occurs then some values else none
  | .text, _, values => values.head?
  | .switch, occurs, _ => occurs

theorem above_field_absent (kind : SettingKind) (lower : kind.Value) :
    kind.above (kind.field false []) lower = lower := by
  cases kind <;> rfl

/-- A list that is given is not empty, so that it wins like any other value. -/
theorem above_field_given (kind : SettingKind) (lower : kind.Value)
    (valued : kind ≠ .switch → values ≠ []) :
    kind.above (kind.field true values) lower = kind.given values := by
  cases kind with
  | list => exact if_neg (valued (by decide))
  | optionalList => rfl
  | text =>
    cases values with
    | nil => exact absurd rfl (valued (by decide))
    | cons value values => rfl
  | switch => rfl

end SettingKind

theorem CommandLine.get_settings (seen : List Occurrence) (setting : Setting) :
    (settings seen).get setting =
      setting.kind.field (occursIn setting.option seen) (valuesOf setting.option seen) := by
  cases setting <;> rfl

theorem Setting.above_given {seen : List Occurrence} (setting : Setting)
    (filled : ∀ occurrence ∈ seen, CommandLine.Filled occurrence) (lower : setting.kind.Value) :
    setting.kind.above ((CommandLine.settings seen).get setting) lower =
      (setting.given? seen).getD lower := by
  rw [CommandLine.get_settings, given?]
  cases occurs : CommandLine.occursIn setting.option seen with
  | false => rw [CommandLine.valuesOf_eq_nil occurs, SettingKind.above_field_absent]; rfl
  | true =>
    refine SettingKind.above_field_given _ lower fun valued => ?_
    exact CommandLine.valuesOf_ne_nil filled occurs (mt setting.arity_option.mp valued)

end Dataspace
