import Dataspace.Proofs.Settings.Parallel

/-!
# Consistent settings

Validation is a scan over ten conditions in a fixed order
(`validate_eq_checkAll`): settings are accepted if they meet all of them, and
refused for the first that they do not meet otherwise
(`validate_conditions`). What accepted settings become is `Accepted`.
-/

namespace Dataspace

namespace Settings

-- ---------------------------------------------------------------------------
-- Conditions
-- ---------------------------------------------------------------------------

inductive Condition
  | submodelServer | connector | registry | apiKey | dataPlanes | notificationService
  | submodelUploads | connectorUploads | connectors | dataPlaneLengths
  deriving DecidableEq, Repr

namespace Condition

def all : List Condition :=
  [.submodelServer, .connector, .registry, .apiKey, .dataPlanes, .notificationService,
    .submodelUploads, .connectorUploads, .connectors, .dataPlaneLengths]

theorem mem_all (condition : Condition) : condition ∈ all := by
  cases condition <;> decide

/-- Upload lists count if they are given, even if they are empty. Data planes
are compared if there are any, and always in the third schema. -/
def Holds (settings : Settings) : Condition → Prop
  | .submodelServer => settings.submodelUrls ≠ []
  | .connector => settings.connectorUrls ≠ []
  | .registry => settings.registryUrl.isSome
  | .apiKey => settings.apiKey.isSome
  | .dataPlanes => settings.aas3 → settings.dataPlaneUrls.isSome
  | .notificationService => settings.ess → settings.essUrl.isSome
  | .submodelUploads =>
    ∀ urls, settings.submodelUploadUrls = some urls → urls.length = settings.submodelUrls.length
  | .connectorUploads =>
    ∀ urls, settings.connectorUploadUrls = some urls →
      urls.length = settings.connectorUrls.length
  | .connectors => settings.connectorUrls.length = settings.submodelUrls.length
  | .dataPlaneLengths =>
    settings.dataPlaneUrls.getD [] ≠ [] ∨ settings.aas3 →
      (settings.dataPlaneUrls.getD []).length = settings.connectorUrls.length

def fault (settings : Settings) : Condition → Invalid
  | .submodelServer => .noSubmodelServer
  | .connector => .noConnector
  | .registry => .noRegistry
  | .apiKey => .noApiKey
  | .dataPlanes => .noDataPlanes
  | .notificationService => .noNotificationService
  | .submodelUploads =>
    .lengths .submodelUpload (settings.submodelUploadUrls.getD settings.submodelUrls)
      .submodel settings.submodelUrls
  | .connectorUploads =>
    .lengths .connectorUpload (settings.connectorUploadUrls.getD settings.connectorUrls)
      .connector settings.connectorUrls
  | .connectors =>
    .lengths .connector settings.connectorUrls .submodel settings.submodelUrls
  | .dataPlaneLengths =>
    .lengths .dataPlane (settings.dataPlaneUrls.getD []) .connector settings.connectorUrls

/-- A list that is given must be as long as the one it stands for; one that is
omitted is that list. -/
theorem getD_length {given : Option (List String)} {urls : List String} :
    (given.getD urls).length = urls.length ↔
      ∀ items, given = some items → items.length = urls.length := by
  cases given with
  | none => simp
  | some items => simp

instance (settings : Settings) : DecidablePred (Holds settings) := fun condition =>
  match condition with
  | .submodelServer => inferInstanceAs (Decidable (settings.submodelUrls ≠ []))
  | .connector => inferInstanceAs (Decidable (settings.connectorUrls ≠ []))
  | .registry => inferInstanceAs (Decidable (settings.registryUrl.isSome = true))
  | .apiKey => inferInstanceAs (Decidable (settings.apiKey.isSome = true))
  | .dataPlanes =>
    inferInstanceAs (Decidable (settings.aas3 = true → settings.dataPlaneUrls.isSome = true))
  | .notificationService =>
    inferInstanceAs (Decidable (settings.ess = true → settings.essUrl.isSome = true))
  | .submodelUploads => decidable_of_iff _ getD_length
  | .connectorUploads => decidable_of_iff _ getD_length
  | .connectors =>
    inferInstanceAs (Decidable (settings.connectorUrls.length = settings.submodelUrls.length))
  | .dataPlaneLengths =>
    inferInstanceAs (Decidable (settings.dataPlaneUrls.getD [] ≠ [] ∨ settings.aas3 = true →
      (settings.dataPlaneUrls.getD []).length = settings.connectorUrls.length))

end Condition

-- ---------------------------------------------------------------------------
-- Scans
-- ---------------------------------------------------------------------------

def check (settings : Settings) (condition : Condition) : Except Invalid Unit :=
  if condition.Holds settings then .ok () else .error (condition.fault settings)

def checkAll (settings : Settings) : List Condition → Except Invalid Unit
  | [] => .ok ()
  | condition :: rest => settings.check condition >>= fun _ => settings.checkAll rest

/-- A condition that does not hold, behind conditions that do. -/
def FirstViolated (settings : Settings) (conditions : List Condition) (condition : Condition) :
    Prop :=
  ∃ met after, conditions = met ++ condition :: after ∧ (∀ c ∈ met, c.Holds settings) ∧
    ¬condition.Holds settings

variable {settings : Settings} {condition : Condition} {conditions : List Condition}

theorem check_holds (h : condition.Holds settings) : settings.check condition = .ok () :=
  if_pos h

theorem check_violated (h : ¬condition.Holds settings) :
    settings.check condition = .error (condition.fault settings) :=
  if_neg h

theorem checkAll_holds (h : condition.Holds settings) :
    settings.checkAll (condition :: conditions) = settings.checkAll conditions := by
  rw [checkAll, check_holds h]
  rfl

theorem checkAll_violated (h : ¬condition.Holds settings) :
    settings.checkAll (condition :: conditions) = .error (condition.fault settings) := by
  rw [checkAll, check_violated h]
  rfl

theorem checkAll_ok :
    settings.checkAll conditions = .ok () ↔ ∀ c ∈ conditions, c.Holds settings := by
  induction conditions with
  | nil => simp [checkAll]
  | cons condition rest ih =>
    by_cases h : condition.Holds settings
    · rw [checkAll_holds h, ih]
      simp [h]
    · rw [checkAll_violated h]
      simp [h]

theorem firstViolated_cons (h : condition.Holds settings) {c : Condition} :
    settings.FirstViolated (condition :: conditions) c ↔ settings.FirstViolated conditions c := by
  constructor
  · rintro ⟨met, after, hsplit, hmet, hc⟩
    cases met with
    | nil =>
      obtain ⟨rfl, -⟩ := List.cons.inj hsplit
      exact absurd h hc
    | cons first met =>
      exact ⟨met, after, (List.cons.inj hsplit).2, fun c hm => hmet c (.tail _ hm), hc⟩
  · rintro ⟨met, after, rfl, hmet, hc⟩
    refine ⟨condition :: met, after, rfl, fun c hm => ?_, hc⟩
    cases hm with
    | head => exact h
    | tail _ hm => exact hmet c hm

theorem firstViolated_head (h : ¬condition.Holds settings) {c : Condition} :
    settings.FirstViolated (condition :: conditions) c ↔ c = condition := by
  constructor
  · rintro ⟨met, after, hsplit, hmet, -⟩
    cases met with
    | nil => exact (List.cons.inj hsplit).1.symm
    | cons first met =>
      obtain ⟨rfl, -⟩ := List.cons.inj hsplit
      exact absurd (hmet _ (.head _)) h
  · rintro rfl
    exact ⟨[], conditions, rfl, fun _ hm => (nomatch hm), h⟩

theorem checkAll_error {invalid : Invalid} :
    settings.checkAll conditions = .error invalid ↔
      ∃ c, settings.FirstViolated conditions c ∧ invalid = c.fault settings := by
  induction conditions with
  | nil => simp [checkAll, FirstViolated]
  | cons condition rest ih =>
    by_cases h : condition.Holds settings
    · simp only [checkAll_holds h, ih, firstViolated_cons h]
    · simp only [checkAll_violated h, firstViolated_head h, exists_eq_left, Except.error.injEq]
      exact eq_comm

-- ---------------------------------------------------------------------------
-- Validation as a scan
-- ---------------------------------------------------------------------------

def accepted (settings : Settings) : Config where
  submodelUrls := settings.submodelUrls
  submodelUploadUrls := settings.submodelUploadUrls.getD settings.submodelUrls
  registryUrl := settings.registryUrl.getD ""
  registryUploadUrl := settings.registryUploadUrl.getD (settings.registryUrl.getD "")
  connectorUrls := settings.connectorUrls
  connectorUploadUrls := settings.connectorUploadUrls.getD settings.connectorUrls
  dataPlaneUrls := if settings.aas3 then settings.dataPlaneUrls.getD [] else []
  apiKey := settings.apiKey.getD ""
  certificateUrl := settings.certificateUrl
  notifications := if settings.ess then settings.essUrl.map (⟨·, settings.faultyBpn⟩) else none
  defaultPolicy := settings.policy.getD defaultPolicyId
  bpnFilter := settings.bpns
  schema := settings.schema
  allowedBpns := settings.allowedBpns

theorem required_eq_check (condition : Condition) {value : Option String} {invalid : Invalid}
    (hHolds : condition.Holds settings ↔ value.isSome)
    (hFault : condition.fault settings = invalid) :
    required value invalid = settings.check condition >>= fun _ => pure (value.getD "") := by
  subst hFault
  cases value with
  | none =>
    rw [check_violated (by simp [hHolds])]
    rfl
  | some a =>
    rw [check_holds (by simp [hHolds])]
    rfl

theorem sameLength_eq_check (condition : Condition) {left right : UrlList}
    {leftUrls rightUrls : List String}
    (hHolds : condition.Holds settings ↔ leftUrls.length = rightUrls.length)
    (hFault : condition.fault settings = .lengths left leftUrls right rightUrls) :
    sameLength left leftUrls right rightUrls = settings.check condition := by
  unfold sameLength check
  rw [hFault]
  simp only [hHolds]

theorem notificationTesting_eq_check :
    settings.notificationTesting = settings.check .notificationService >>= fun _ =>
      pure (if settings.ess then settings.essUrl.map (⟨·, settings.faultyBpn⟩) else none) := by
  unfold notificationTesting
  by_cases ess : settings.ess
  · cases hurl : settings.essUrl with
    | none =>
      rw [check_violated (by simp [Condition.Holds, ess, hurl]), if_pos ess]
      rfl
    | some url =>
      rw [check_holds (by simp [Condition.Holds, hurl]), if_pos ess, if_pos ess]
      rfl
  · rw [check_holds (by simp [Condition.Holds, ess]), if_neg ess, if_neg ess]
    rfl

theorem unless_eq_check (condition : Condition) {p : Prop} [Decidable p]
    (next : Unit → Except Invalid α)
    (hHolds : condition.Holds settings ↔ ¬p) :
    (if p then throw (condition.fault settings) >>= next else next ()) =
      settings.check condition >>= next := by
  by_cases hp : p
  · rw [if_pos hp, check_violated (by simp [hHolds, hp])]
    rfl
  · rw [if_neg hp, check_holds (by simp [hHolds, hp])]
    rfl

/-- Data planes that nothing asks for are not compared, and then there is
nothing to hold. -/
theorem dataPlaneLengths_eq_check {next : Unit → Except Invalid α} :
    (if settings.dataPlaneUrls.getD [] ≠ [] ∨ settings.aas3 = true then
      sameLength .dataPlane (settings.dataPlaneUrls.getD []) .connector settings.connectorUrls >>=
        next
     else next ()) = settings.check .dataPlaneLengths >>= next := by
  by_cases hp : settings.dataPlaneUrls.getD [] ≠ [] ∨ settings.aas3 = true
  · rw [if_pos hp, sameLength_eq_check .dataPlaneLengths _ rfl]
    exact ⟨fun h => h hp, fun h _ => h⟩
  · have holds : Condition.Holds settings .dataPlaneLengths := fun h => absurd h hp
    rw [if_neg hp, check_holds holds]
    rfl

theorem validate_eq_checkAll :
    settings.validate = settings.checkAll Condition.all >>= fun _ => .ok settings.accepted := by
  have registry : required settings.registryUrl .noRegistry =
      settings.check .registry >>= fun _ => pure (settings.registryUrl.getD "") :=
    required_eq_check _ Iff.rfl rfl
  have apiKey : required settings.apiKey .noApiKey =
      settings.check .apiKey >>= fun _ => pure (settings.apiKey.getD "") :=
    required_eq_check _ Iff.rfl rfl
  have submodelUploads : sameLength .submodelUpload
      (settings.submodelUploadUrls.getD settings.submodelUrls) .submodel settings.submodelUrls =
      settings.check .submodelUploads :=
    sameLength_eq_check _ Condition.getD_length.symm rfl
  have connectorUploads : sameLength .connectorUpload
      (settings.connectorUploadUrls.getD settings.connectorUrls) .connector
      settings.connectorUrls = settings.check .connectorUploads :=
    sameLength_eq_check _ Condition.getD_length.symm rfl
  have connectors : sameLength .connector settings.connectorUrls .submodel
      settings.submodelUrls = settings.check .connectors :=
    sameLength_eq_check _ Iff.rfl rfl
  have dataPlanes : Condition.Holds settings .dataPlanes ↔
      ¬(settings.aas3 = true ∧ settings.dataPlaneUrls = none) := by
    simp only [Condition.Holds, Option.isSome_iff_ne_none, not_and, ne_eq]
  simp only [validate, Condition.all, checkAll, registry, apiKey, notificationTesting_eq_check,
    submodelUploads, connectorUploads, connectors, bind_assoc, pure_bind]
  -- Each check of `validate` in turn becomes that of its condition.
  refine (unless_eq_check .submodelServer (fun _ => _) Iff.rfl).trans
    (bind_congr fun _ => ?_)
  refine (unless_eq_check .connector (fun _ => _) Iff.rfl).trans
    (bind_congr fun _ => bind_congr fun _ => bind_congr fun _ => ?_)
  refine (unless_eq_check .dataPlanes (fun _ => _) dataPlanes).trans
    (bind_congr fun _ => bind_congr fun _ => bind_congr fun _ => bind_congr fun _ =>
      bind_congr fun _ => ?_)
  exact dataPlaneLengths_eq_check

theorem validate_ok {config : Config} :
    settings.validate = .ok config ↔
      (∀ c : Condition, c.Holds settings) ∧ config = settings.accepted := by
  rw [validate_eq_checkAll, andThen_ok]
  constructor
  · rintro ⟨⟨⟩, hall, hconfig⟩
    exact ⟨fun c => checkAll_ok.mp hall c c.mem_all, (Except.ok.inj hconfig).symm⟩
  · rintro ⟨hall, rfl⟩
    exact ⟨(), checkAll_ok.mpr fun c _ => hall c, rfl⟩

theorem validate_error {invalid : Invalid} :
    settings.validate = .error invalid ↔
      ∃ c, settings.FirstViolated Condition.all c ∧ invalid = c.fault settings := by
  rw [validate_eq_checkAll, ← checkAll_error]
  cases settings.checkAll Condition.all with
  | error e =>
    exact ⟨fun h => congrArg _ (Except.error.inj h), fun h => congrArg _ (Except.error.inj h)⟩
  | ok u => exact ⟨fun h => (nomatch h), fun h => (nomatch h)⟩

-- ---------------------------------------------------------------------------
-- Accepted settings
-- ---------------------------------------------------------------------------

structure Accepted (settings : Settings) (config : Config) : Prop where
  parallel : config.Parallel settings.submodelUrls.length
  submodel : config.submodelUrls = settings.submodelUrls
  submodelUpload :
    config.submodelUploadUrls = settings.submodelUploadUrls.getD config.submodelUrls
  registry : settings.registryUrl = some config.registryUrl
  registryUpload : config.registryUploadUrl = settings.registryUploadUrl.getD config.registryUrl
  connector : config.connectorUrls = settings.connectorUrls
  connectorUpload :
    config.connectorUploadUrls = settings.connectorUploadUrls.getD config.connectorUrls
  dataPlane : config.schema = .v3 → settings.dataPlaneUrls = some config.dataPlaneUrls
  apiKey : settings.apiKey = some config.apiKey
  certificate : config.certificateUrl = settings.certificateUrl
  tested : config.notifications.isSome ↔ settings.ess = true
  notifications : ∀ testing, config.notifications = some testing →
    settings.essUrl = some testing.baseUrl ∧ testing.faultyBpn = settings.faultyBpn
  faulty : ∀ bpn, config.isFaulty bpn = true ↔ settings.ess = true ∧ settings.faultyBpn = some bpn
  defaultPolicy : config.defaultPolicy = settings.policy.getD defaultPolicyId
  bpns : config.bpnFilter = settings.bpns
  schema : config.schema = .v3 ↔ settings.aas3 = true
  allowedBpns : config.allowedBpns = settings.allowedBpns

theorem eq_some_getD {value : Option α} (h : value.isSome) (default : α) :
    value = some (value.getD default) := by
  cases value with
  | none => exact absurd h Bool.false_ne_true
  | some a => rfl

theorem accepted_notifications (hservice : Condition.Holds settings .notificationService) :
    settings.accepted.notifications =
      if settings.ess then some ⟨settings.essUrl.getD "", settings.faultyBpn⟩ else none := by
  unfold accepted
  by_cases ess : settings.ess
  · simp only [if_pos ess]
    rw [eq_some_getD (hservice ess) ""]
    rfl
  · simp only [if_neg ess]

theorem accepted_isFaulty (hservice : Condition.Holds settings .notificationService)
    (bpn : String) :
    settings.accepted.isFaulty bpn = true ↔
      settings.ess = true ∧ settings.faultyBpn = some bpn := by
  unfold Config.isFaulty
  rw [accepted_notifications hservice]
  by_cases ess : settings.ess
  · simp [ess]
  · simp [ess]

theorem accepted_of_holds (hall : ∀ c : Condition, c.Holds settings) :
    settings.Accepted settings.accepted where
  parallel := validate_parallel (validate_ok.mpr ⟨hall, rfl⟩)
  submodel := rfl
  submodelUpload := rfl
  registry := eq_some_getD (hall .registry) ""
  registryUpload := rfl
  connector := rfl
  connectorUpload := rfl
  dataPlane := by
    intro hschema
    have aas3 : settings.aas3 = true := schema_eq_v3.mp hschema
    simp only [accepted, if_pos aas3]
    exact eq_some_getD (hall .dataPlanes aas3) []
  apiKey := eq_some_getD (hall .apiKey) ""
  certificate := rfl
  tested := by
    rw [accepted_notifications (hall .notificationService)]
    split <;> simp_all
  notifications := by
    intro testing htesting
    rw [accepted_notifications (hall .notificationService)] at htesting
    split at htesting
    · rename_i ess
      cases htesting
      exact ⟨eq_some_getD (hall .notificationService ess) "", rfl⟩
    · cases htesting
  faulty := accepted_isFaulty (hall .notificationService)
  defaultPolicy := rfl
  bpns := rfl
  schema := schema_eq_v3
  allowedBpns := rfl

/-- Validation accepts what meets every condition and nothing else, refuses for
the first condition that is not met, and lines up what it accepts. -/
theorem validate_conditions (settings : Settings) :
    ((∃ config, settings.validate = .ok config) ↔ ∀ c : Condition, c.Holds settings) ∧
      (∀ invalid, settings.validate = .error invalid ↔
        ∃ c, settings.FirstViolated Condition.all c ∧ invalid = c.fault settings) ∧
      ∀ config, settings.validate = .ok config → settings.Accepted config := by
  refine ⟨?_, fun _ => validate_error, ?_⟩
  · constructor
    · rintro ⟨config, hvalid⟩
      exact (validate_ok.mp hvalid).1
    · intro hall
      exact ⟨settings.accepted, validate_ok.mpr ⟨hall, rfl⟩⟩
  · intro config hvalid
    obtain ⟨hall, rfl⟩ := validate_ok.mp hvalid
    exact accepted_of_holds hall

theorem validate_conditions_sample : Sample.settings.Accepted Sample.config :=
  (validate_conditions Sample.settings).2.2 Sample.config Sample.settings_valid

end Settings

/-- A list of upload URLs that is given and empty is not an omitted one. -/
example : ({ Sample.settings with submodelUploadUrls := some [] } : Settings).validate =
    .error (.lengths .submodelUpload [] .submodel Sample.settings.submodelUrls) := rfl

/-- Data planes are compared before it is known that they are dropped. -/
example : ({ Sample.settings with aas3 := false, dataPlaneUrls := some ["http://plane"] } :
    Settings).validate =
    .error (.lengths .dataPlane ["http://plane"] .connector Sample.settings.connectorUrls) := rfl

end Dataspace
