import Dataspace.Proofs.Seeding.InStep
import Dataspace.Proofs.Seeding.Records
import Dataspace.Proofs.Seeding.Services

/-!
# Addresses shown and addresses called

Calls go to upload addresses only, and none but calls of the management
interface of a connector carry its key (`Config.Serves.directed`). Where calls go
does not depend on the addresses that documents show, and what they post does
not depend on the addresses they go to (`seed_addresses`).
-/

namespace Dataspace

open Plan

-- ---------------------------------------------------------------------------
-- Where calls go
-- ---------------------------------------------------------------------------

/-- Paths below a connector. A policy is looked for under its id. -/
inductive ManagementPath (policies : Members Json) : String → Prop
  | policies : ManagementPath policies "/management/v2/policydefinitions"
  | policy {id : String} (named : id ∈ policyIds policies) :
      ManagementPath policies ("/management/v2/policydefinitions/" ++ id)
  | catalog : ManagementPath policies "/management/v2/catalog/request"
  | assets : ManagementPath policies "/management/v2/assets"
  | contractDefinitions : ManagementPath policies "/management/v2/contractdefinitions"

/-- The key goes to connectors. Payloads go to submodel servers and shells to the
registry, both without the key. -/
structure Call.Directed (config : Config) (policies : Members Json) (call : Call) : Prop where
  connector : call.audience = .connector → ∃ connector ∈ config.connectorUploadUrls,
    ∃ path, ManagementPath policies path ∧ call.url = connector ++ path
  everyone : call.audience = .everyone →
    (∃ server ∈ config.submodelUploadUrls, ∃ id, call.url = server ++ "/data/" ++ id) ∨
      call.url = config.registryUploadUrl ++ config.schema.path
  open_iff : call.audience = .everyone ↔
    (∃ server id document, call = .storePayload server id document) ∨
      ∃ registry shell, call = .registerShell registry shell

theorem Config.Serves.directed {config : Config} {policies : Members Json} {request : Call}
    (h : config.Serves policies request) : request.Directed config policies := by
  cases request with
  | findPolicy connector id =>
    refine ⟨fun _ => ⟨connector, h.1, _, .policy h.2, ?_⟩, nofun, by simp [Call.audience]⟩
    simp [Call.url, Endpoint.policyDefinition, Endpoint.policyDefinitions, String.append_assoc]
  | createPolicy connector =>
    exact ⟨fun _ => ⟨connector, h, _, .policies, rfl⟩, nofun, by simp [Call.audience]⟩
  | queryCatalog connector =>
    exact ⟨fun _ => ⟨connector, h, _, .catalog, rfl⟩, nofun, by simp [Call.audience]⟩
  | createAsset connector =>
    exact ⟨fun _ => ⟨connector, h, _, .assets, rfl⟩, nofun, by simp [Call.audience]⟩
  | createDefinition connector =>
    exact ⟨fun _ => ⟨connector, h, _, .contractDefinitions, rfl⟩, nofun,
      by simp [Call.audience]⟩
  | storePayload server id =>
    exact ⟨nofun, fun _ => .inl ⟨server, h, id, rfl⟩, by simp [Call.audience]⟩
  | registerShell registry shell =>
    obtain ⟨rfl, schema⟩ := h
    exact ⟨nofun, fun _ => .inr (congrArg (_ ++ Schema.path ·) schema), by simp [Call.audience]⟩

-- ---------------------------------------------------------------------------
-- Addresses of one kind
-- ---------------------------------------------------------------------------

namespace Config

def SameButShown (config other : Config) : Prop :=
  other = { config with
    submodelUrls := other.submodelUrls
    registryUrl := other.registryUrl
    connectorUrls := other.connectorUrls
    dataPlaneUrls := other.dataPlaneUrls
    certificateUrl := other.certificateUrl } ∧
  config.certificateUrl.isSome = other.certificateUrl.isSome

def SameButCalled (config other : Config) : Prop :=
  other = { config with
    submodelUploadUrls := other.submodelUploadUrls
    registryUploadUrl := other.registryUploadUrl
    connectorUploadUrls := other.connectorUploadUrls }

end Config

namespace Correspondence

def anyShown : Correspondence := ⟨Eq, fun _ _ => True, fun _ _ => True⟩

def anyCalled : Correspondence := ⟨fun _ _ => True, Eq, Eq⟩

end Correspondence

namespace Config

variable {config other : Config}

theorem SameButShown.corresponds (h : config.SameButShown other) (parallel : config.Parallel n)
    (otherParallel : other.Parallel m) : config.Corresponds .anyShown other := by
  obtain ⟨heq, service⟩ := h
  have hconnectors : other.connectorUploadUrls = config.connectorUploadUrls := by rw [heq]
  have hschema : other.schema = config.schema := by rw [heq]
  have hlength : n = m := by
    rw [← parallel.connectorUpload, ← otherParallel.connectorUpload, hconnectors]
  have planes : config.dataPlaneUrls.length = other.dataPlaneUrls.length := by
    cases schema : config.schema with
    | v2 => rw [parallel.noDataPlane schema, otherParallel.noDataPlane (hschema.trans schema)]
    | v3 =>
      rw [parallel.dataPlane schema, otherParallel.dataPlane (hschema.trans schema), hlength]
  refine {
    submodelUrls := forall₂_true (by rw [parallel.submodel, otherParallel.submodel, hlength])
    submodelUploadUrls := forall₂_eq (by rw [heq])
    registryUrl := trivial
    registryUploadUrl := by rw [heq]; rfl
    connectorUrls := forall₂_true (by rw [parallel.connector, otherParallel.connector, hlength])
    connectorUploadUrls := forall₂_eq hconnectors.symm
    dataPlaneUrls := forall₂_true planes
    certificateUrl := ?certificate
    notificationUrl := by rw [heq]
    defaultPolicy := by rw [heq]
    bpnFilter := by rw [heq]
    schema := hschema.symm
    allowedBpns := by rw [heq] }
  case certificate =>
    generalize config.certificateUrl = first at service ⊢
    generalize other.certificateUrl = second at service ⊢
    cases first <;> cases second
    · exact .none
    · cases service
    · cases service
    · exact .some trivial

theorem SameButCalled.corresponds (h : config.SameButCalled other) (parallel : config.Parallel n)
    (otherParallel : other.Parallel m) : config.Corresponds .anyCalled other := by
  have hlength : n = m := by
    rw [← parallel.connector, ← otherParallel.connector, h]
  exact {
    submodelUrls := forall₂_eq (by rw [h])
    submodelUploadUrls :=
      forall₂_true (by rw [parallel.submodelUpload, otherParallel.submodelUpload, hlength])
    registryUrl := by rw [h]; rfl
    registryUploadUrl := trivial
    connectorUrls := forall₂_eq (by rw [h])
    connectorUploadUrls :=
      forall₂_true (by rw [parallel.connectorUpload, otherParallel.connectorUpload, hlength])
    dataPlaneUrls := forall₂_eq (by rw [h])
    certificateUrl := by
      rw [h]
      cases config.certificateUrl with
      | none => exact .none
      | some url => exact .some rfl
    notificationUrl := by rw [h]
    defaultPolicy := by rw [h]
    bpnFilter := by rw [h]
    schema := by rw [h]
    allowedBpns := by rw [h] }

theorem SameButCalled.reaches (h : config.SameButCalled other) (record : Record) :
    Correspondence.anyCalled.Reaches config other record := by
  intro placement otherPlacement placed key submodelId
  have target : other.target record.bpn key = config.target record.bpn key := by rw [h]; rfl
  rw [target]
  exact placed.address_eq (fun _ _ => id) _ _ _

/-- The calls of a run whose answers depend on nothing but how many calls came
before. -/
def callsInOrder (config : Config) (fixture : Fixture) (answers : Nat → Except String Response)
    (identifier : Nat → String) : List Call :=
  ((seed config fixture).run (.inOrder answers identifier) (.start .initial)).2.exchanges.map
    Exchange.call

theorem Corresponds.callsInOrder {addresses : Correspondence}
    (h : config.Corresponds addresses other)
    (reaches : ∀ record, addresses.Reaches config other record) (fixture : Fixture)
    (answers : Nat → Except String Response) (identifier : Nat → String) :
    List.Forall₂ (Call.Corresponds addresses) (config.callsInOrder fixture answers identifier)
      (other.callsInOrder fixture answers identifier) := by
  obtain ⟨calls, others, hrun⟩ :=
    (inStep_seed h reaches fixture).run answers identifier (.refl (.start .initial))
  unfold Config.callsInOrder
  rw [hrun.exchanges, hrun.otherExchanges, List.forall₂_map_left_iff, List.forall₂_map_right_iff]
  exact hrun.related.imp fun _ _ related => related.call

end Config

/-- Whatever the network answers, calls go where upload addresses say; and two
runs that are answered alike make calls to the same places under any addresses
shown, and calls with the same documents under any addresses called. -/
theorem seed_addresses {settings : Settings} {config : Config}
    (valid : settings.validate = .ok config) (fixture : Fixture) :
    (∀ world result later, (seed config fixture).run world (.start .initial) = (result, later) →
      ∀ exchange ∈ later.exchanges, exchange.call.Directed config fixture.policies) ∧
    (∀ otherSettings other, Settings.validate otherSettings = .ok other →
      config.SameButShown other → ∀ answers identifier,
      List.Forall₂ Call.SameService (config.callsInOrder fixture answers identifier)
        (other.callsInOrder fixture answers identifier)) ∧
    (∀ otherSettings other, Settings.validate otherSettings = .ok other →
      config.SameButCalled other → ∀ answers identifier,
      (config.callsInOrder fixture answers identifier).map Call.document? =
        (other.callsInOrder fixture answers identifier).map Call.document?) := by
  have parallel := Settings.validate_parallel valid
  refine ⟨?directed, ?shown, ?called⟩
  case directed =>
    intro world result later run exchange hx
    exact (run_serves parallel run hx).directed
  case shown =>
    intro otherSettings other otherValid same answers identifier
    have corresponds := same.corresponds parallel (Settings.validate_parallel otherValid)
    have reaches : ∀ record, Correspondence.anyShown.Reaches config other record :=
      fun _ _ _ _ _ _ => trivial
    exact (corresponds.callsInOrder reaches fixture answers identifier).imp
      fun _ _ related => related.sameService fun _ _ => id
  case called =>
    intro otherSettings other otherValid same answers identifier
    have corresponds := same.corresponds parallel (Settings.validate_parallel otherValid)
    have related := corresponds.callsInOrder same.reaches fixture answers identifier
    have documents := related.imp fun _ _ pair =>
      pair.document?_eq (fun _ _ => id) fun _ _ => id
    rwa [← List.forall₂_eq_eq_eq, List.forall₂_map_left_iff, List.forall₂_map_right_iff]

namespace Sample

/-- Calls go where those of `settings` go, documents show other addresses. -/
def shownSettings : Settings where
  submodelUrls := ["http://shown-submodels-0", "http://shown-submodels-1"]
  submodelUploadUrls := some settings.submodelUrls
  registryUrl := some "http://shown-registry"
  registryUploadUrl := settings.registryUrl
  connectorUrls := ["http://shown-connector-0", "http://shown-connector-1"]
  connectorUploadUrls := some settings.connectorUrls
  dataPlaneUrls := some ["http://shown-plane-0", "http://shown-plane-1"]
  apiKey := some "key"
  aas3 := true

def shownConfig : Config := { config with
  submodelUrls := ["http://shown-submodels-0", "http://shown-submodels-1"]
  registryUrl := "http://shown-registry"
  connectorUrls := ["http://shown-connector-0", "http://shown-connector-1"]
  dataPlaneUrls := ["http://shown-plane-0", "http://shown-plane-1"] }

/-- Documents show what those of `settings` show, calls go to other addresses. -/
def calledSettings : Settings := { settings with
  submodelUploadUrls := some ["http://upload-submodels-0", "http://upload-submodels-1"]
  registryUploadUrl := some "http://upload-registry"
  connectorUploadUrls := some ["http://upload-connector-0", "http://upload-connector-1"] }

def calledConfig : Config := { config with
  submodelUploadUrls := ["http://upload-submodels-0", "http://upload-submodels-1"]
  registryUploadUrl := "http://upload-registry"
  connectorUploadUrls := ["http://upload-connector-0", "http://upload-connector-1"] }

def fixture : Fixture := ⟨[record], defaultPolicies⟩

def calls (config : Config) : List Call :=
  config.callsInOrder fixture (fun _ => .ok ⟨200, ""⟩) (Identifier.stream 0)

end Sample

/-- Ten calls provision, six upload two submodels and register their shell. -/
theorem seed_addresses_sample : ∃ result later,
    (seed Sample.config Sample.fixture).run Sample.world (.start .initial) = (result, later) ∧
    later.exchanges.length = 16 ∧
    (∀ exchange ∈ later.exchanges, exchange.call.Directed Sample.config defaultPolicies) ∧
    List.Forall₂ Call.SameService (Sample.calls Sample.config) (Sample.calls Sample.shownConfig) ∧
    (Sample.calls Sample.config).map Call.document? =
      (Sample.calls Sample.calledConfig).map Call.document? := by
  obtain ⟨directed, shown, called⟩ := seed_addresses Sample.settings_valid Sample.fixture
  have shownValid : Sample.shownSettings.validate = .ok Sample.shownConfig := rfl
  have calledValid : Sample.calledSettings.validate = .ok Sample.calledConfig := rfl
  obtain ⟨result, later, hrun, hlength⟩ : ∃ result later,
      (seed Sample.config Sample.fixture).run Sample.world (.start .initial) = (result, later) ∧
        later.exchanges.length = 16 := ⟨_, _, rfl, rfl⟩
  exact ⟨result, later, hrun, hlength, directed _ _ _ hrun, shown _ _ shownValid ⟨rfl, rfl⟩ _ _,
    called _ _ calledValid rfl _ _⟩

end Dataspace
