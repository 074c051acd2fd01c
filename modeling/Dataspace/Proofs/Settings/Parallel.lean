import Dataspace.Settings.Config

/-!
# Parallel lists

Settings that are accepted give lists of one length (`validate_parallel`): every
position of one list is a position of all of them, and data planes are among
them in the third schema only. Notifications are tested in ess mode only, and
then at an address that was given (`validate_notifications`). The policy that
offers rely on is the built-in one if none is given (`validate_defaultPolicy`).
-/

namespace Dataspace

/-- What a slot selects from holds `n` entries, and there is at least one. -/
structure Config.Parallel (config : Config) (n : Nat) : Prop where
  pos : 0 < n
  submodel : config.submodelUrls.length = n
  submodelUpload : config.submodelUploadUrls.length = n
  connector : config.connectorUrls.length = n
  connectorUpload : config.connectorUploadUrls.length = n
  dataPlane : config.schema = .v3 → config.dataPlaneUrls.length = n
  noDataPlane : config.schema = .v2 → config.dataPlaneUrls = []

namespace Settings

-- ---------------------------------------------------------------------------
-- Checks that pass
-- ---------------------------------------------------------------------------

theorem andThen_ok {check : Except ε α} {next : α → Except ε β} :
    check >>= next = .ok b ↔ ∃ a, check = .ok a ∧ next a = .ok b := by
  cases check with
  | error e => simp [bind, Except.bind]
  | ok a => simp [bind, Except.bind]

theorem when_ok {p : Prop} [Decidable p] {check : Except ε PUnit} {next : PUnit → Except ε α} :
    (if p then check >>= next else next ⟨⟩) = .ok a ↔
      (p → check = .ok ⟨⟩) ∧ next ⟨⟩ = .ok a := by
  split
  · rename_i hp
    rw [andThen_ok]
    constructor
    · rintro ⟨_, hc, hn⟩
      exact ⟨fun _ => hc, hn⟩
    · rintro ⟨hc, hn⟩
      exact ⟨_, hc hp, hn⟩
  · rename_i hp
    exact ⟨fun h => ⟨fun h' => absurd h' hp, h⟩, fun h => h.2⟩

theorem throw_ok {e : ε} : (throw e : Except ε α) = .ok a ↔ False :=
  ⟨fun h => (nomatch h), fun h => h.elim⟩

theorem sameLength_ok :
    sameLength left leftUrls right rightUrls = .ok u ↔ leftUrls.length = rightUrls.length := by
  unfold sameLength
  split
  · rename_i h
    exact ⟨fun _ => h, fun _ => rfl⟩
  · rename_i h
    exact ⟨fun h' => (nomatch h'), fun h' => absurd h' h⟩

-- ---------------------------------------------------------------------------
-- Accepted settings
-- ---------------------------------------------------------------------------

theorem schema_eq_v3 {settings : Settings} : settings.schema = .v3 ↔ settings.aas3 = true := by
  unfold schema
  split <;> simp_all

theorem validate_parallel {settings : Settings} (h : settings.validate = .ok config) :
    config.Parallel settings.submodelUrls.length := by
  simp only [validate, when_ok, andThen_ok, throw_ok, sameLength_ok, pure, Except.pure,
    Except.ok.injEq] at h
  obtain ⟨hs, -, registryUrl, -, apiKey, -, -, notifications, -, _, hsu, _, hcu, _, hc, hd, rfl⟩ :=
    h
  refine ⟨List.length_pos_iff.mpr hs, rfl, hsu, hc, hcu.trans hc, fun hv => ?_, fun hv => ?_⟩
  · have h3 : settings.aas3 = true := schema_eq_v3.mp hv
    simp only [h3, if_true]
    exact (hd (.inr h3)).trans hc
  · have h3 : ¬settings.aas3 = true := by
      rw [← schema_eq_v3]
      exact fun h => nomatch hv.symm.trans h
    simp [h3]

theorem notificationTesting_ok {settings : Settings}
    (h : settings.notificationTesting = .ok notifications) :
    notifications =
      if settings.ess then settings.essUrl.map (⟨·, settings.faultyBpn⟩) else none := by
  unfold notificationTesting at h
  split at h
  · rename_i ess
    obtain ⟨baseUrl, hrequired, ht⟩ := andThen_ok.mp h
    cases ht
    rw [if_pos ess]
    cases hurl : settings.essUrl with
    | none =>
      rw [hurl] at hrequired
      cases hrequired
    | some url =>
      rw [hurl] at hrequired
      cases hrequired
      rfl
  · rename_i plain
    cases h
    rw [if_neg plain]

theorem validate_notifications {settings : Settings} (h : settings.validate = .ok config) :
    config.notifications =
      if settings.ess then settings.essUrl.map (⟨·, settings.faultyBpn⟩) else none := by
  simp only [validate, when_ok, andThen_ok, throw_ok, sameLength_ok, pure, Except.pure,
    Except.ok.injEq] at h
  obtain ⟨-, -, _, -, _, -, -, notifications, testing, _, -, _, -, _, -, -, rfl⟩ := h
  exact notificationTesting_ok testing

theorem validate_defaultPolicy {settings : Settings} (h : settings.validate = .ok config) :
    config.defaultPolicy = settings.policy.getD defaultPolicyId := by
  simp only [validate, when_ok, andThen_ok, throw_ok, sameLength_ok, pure, Except.pure,
    Except.ok.injEq] at h
  obtain ⟨-, -, _, -, _, -, -, _, -, _, -, _, -, _, -, -, rfl⟩ := h
  rfl

end Settings

-- ---------------------------------------------------------------------------
-- A small dataspace
-- ---------------------------------------------------------------------------

namespace Sample

/-- Two positions, in the third schema. -/
def settings : Settings where
  submodelUrls := ["http://submodels-0", "http://submodels-1"]
  registryUrl := some "http://registry"
  connectorUrls := ["http://connector-0", "http://connector-1"]
  dataPlaneUrls := some ["http://plane-0", "http://plane-1"]
  apiKey := some "key"
  aas3 := true

def config : Config where
  submodelUrls := ["http://submodels-0", "http://submodels-1"]
  submodelUploadUrls := ["http://submodels-0", "http://submodels-1"]
  registryUrl := "http://registry"
  registryUploadUrl := "http://registry"
  connectorUrls := ["http://connector-0", "http://connector-1"]
  connectorUploadUrls := ["http://connector-0", "http://connector-1"]
  dataPlaneUrls := ["http://plane-0", "http://plane-1"]
  apiKey := "key"
  certificateUrl := none
  notifications := none
  defaultPolicy := defaultPolicyId
  bpnFilter := []
  schema := .v3
  allowedBpns := []

theorem settings_valid : settings.validate = .ok config := rfl

end Sample

end Dataspace
