import Dataspace.Plan.Call
import Dataspace.Seeding.Provision
import Dataspace.Seeding.Upload
import Mathlib.Data.List.Forall2

/-!
# Corresponding addresses

Two runs may go by different addresses. A `Correspondence` relates those of one
to those of the other; calls correspond if they are of one kind and differ in
nothing but related addresses. Where addresses called are equal, corresponding
calls go to the same place (`Call.Corresponds.sameService`); where addresses in
documents are equal, they post the same (`Call.Corresponds.document?_eq`).
-/

namespace Dataspace

/-- Which addresses of two runs correspond: those called, those shown in
documents, and those that descriptors send consumers to. -/
structure Correspondence where
  called : String → String → Prop
  shown : String → String → Prop
  reached : String → String → Prop

-- ---------------------------------------------------------------------------
-- Requests
-- ---------------------------------------------------------------------------

inductive AssetRequest.Corresponds (addresses : Correspondence) :
    AssetRequest → AssetRequest → Prop
  | registry (url : addresses.shown registryUrl otherUrl) (id : String) :
      Corresponds addresses (.registry registryUrl id) (.registry otherUrl id)
  | notification (url : String) (kind : NotificationKind) :
      Corresponds addresses (.notification url kind) (.notification url kind)
  | submodel (url : addresses.shown serverUrl otherUrl) (id : String) :
      Corresponds addresses (.submodel serverUrl id) (.submodel otherUrl id)
  | certificate (url : addresses.shown service otherService) (id part : String) :
      Corresponds addresses (.certificate service id part) (.certificate otherService id part)

inductive Descriptor.Corresponds (addresses : Correspondence) :
    Schema → Descriptor → Descriptor → Prop
  | direct (shortName id semanticId : String) (reached : addresses.reached address otherAddress) :
      Corresponds addresses .v2 (.direct shortName id semanticId address)
        (.direct shortName id semanticId otherAddress)
  | proxied (shortName id semanticId assetId : String)
      (reached : addresses.reached address otherAddress)
      (connector : addresses.shown connectorUrl otherUrl) :
      Corresponds addresses .v3 (.proxied shortName id semanticId ⟨address, assetId, connectorUrl⟩)
        (.proxied shortName id semanticId ⟨otherAddress, assetId, otherUrl⟩)

inductive Call.Corresponds (addresses : Correspondence) : Call → Call → Prop
  | findPolicy (called : addresses.called connector other) (id : String) :
      Corresponds addresses (.findPolicy connector id) (.findPolicy other id)
  | createPolicy (called : addresses.called connector other) (policy : Json) :
      Corresponds addresses (.createPolicy connector policy) (.createPolicy other policy)
  | queryCatalog (called : addresses.called connector other)
      (provider : addresses.shown display otherDisplay) (filter : CatalogFilter) :
      Corresponds addresses (.queryCatalog connector ⟨Endpoint.protocol display, filter⟩)
        (.queryCatalog other ⟨Endpoint.protocol otherDisplay, filter⟩)
  | createAsset (called : addresses.called connector other)
      (asset : AssetRequest.Corresponds addresses request otherRequest) :
      Corresponds addresses (.createAsset connector request) (.createAsset other otherRequest)
  | createDefinition (called : addresses.called connector other)
      (definition : ContractDefinition) :
      Corresponds addresses (.createDefinition connector definition)
        (.createDefinition other definition)
  | storePayload (called : addresses.called server other) (id : String) (document : Json) :
      Corresponds addresses (.storePayload server id document) (.storePayload other id document)
  | registerShell (called : addresses.called registry other)
      (schema : Schema) (part shortName id : String) (assetIds : List RegisteredId)
      (descriptors : List.Forall₂ (Descriptor.Corresponds addresses schema) list others) :
      Corresponds addresses
        (.registerShell registry ⟨schema, part, shortName, id, assetIds, list⟩)
        (.registerShell other ⟨schema, part, shortName, id, assetIds, others⟩)

/-- Method, address and audience are what is seen of a call without reading it. -/
structure Call.SameService (call other : Call) : Prop where
  method : call.method = other.method
  url : call.url = other.url
  audience : call.audience = other.audience

section
variable {addresses : Correspondence}

theorem Call.Corresponds.sameService (h : Call.Corresponds addresses call other)
    (called : ∀ a b, addresses.called a b → a = b) : call.SameService other := by
  cases h with
  | registerShell address | findPolicy address | createPolicy address | queryCatalog address
  | createAsset address | createDefinition address | storePayload address =>
    cases called _ _ address
    exact ⟨rfl, rfl, rfl⟩

theorem AssetRequest.Corresponds.eq (h : AssetRequest.Corresponds addresses request other)
    (shown : ∀ a b, addresses.shown a b → a = b) : request = other := by
  cases h with
  | notification => rfl
  | registry url | submodel url | certificate url =>
    cases shown _ _ url
    rfl

theorem Descriptor.Corresponds.eq (h : Descriptor.Corresponds addresses schema descriptor other)
    (shown : ∀ a b, addresses.shown a b → a = b)
    (reached : ∀ a b, addresses.reached a b → a = b) : descriptor = other := by
  cases h with
  | direct _ _ _ address =>
    cases reached _ _ address
    rfl
  | proxied _ _ _ _ address connector =>
    cases reached _ _ address
    cases shown _ _ connector
    rfl

theorem Call.Corresponds.document?_eq (h : Call.Corresponds addresses call other)
    (shown : ∀ a b, addresses.shown a b → a = b)
    (reached : ∀ a b, addresses.reached a b → a = b) : call.document? = other.document? := by
  cases h with
  | findPolicy | createPolicy | createDefinition | storePayload => rfl
  | queryCatalog _ provider filter =>
    cases shown _ _ provider
    rfl
  | createAsset _ asset =>
    cases asset.eq shown
    rfl
  | registerShell _ _ _ _ _ _ descriptors =>
    have heq := descriptors.imp fun _ _ h => h.eq shown reached
    rw [List.forall₂_eq_eq_eq] at heq
    cases heq
    rfl

end

-- ---------------------------------------------------------------------------
-- Configurations
-- ---------------------------------------------------------------------------

/-- Configurations that differ in corresponding addresses and in who is made
unreachable. -/
structure Config.Corresponds (addresses : Correspondence) (config other : Config) : Prop where
  submodelUrls : List.Forall₂ addresses.shown config.submodelUrls other.submodelUrls
  submodelUploadUrls :
    List.Forall₂ addresses.called config.submodelUploadUrls other.submodelUploadUrls
  registryUrl : addresses.shown config.registryUrl other.registryUrl
  registryUploadUrl : addresses.called config.registryUploadUrl other.registryUploadUrl
  connectorUrls : List.Forall₂ addresses.shown config.connectorUrls other.connectorUrls
  connectorUploadUrls :
    List.Forall₂ addresses.called config.connectorUploadUrls other.connectorUploadUrls
  dataPlaneUrls : List.Forall₂ addresses.shown config.dataPlaneUrls other.dataPlaneUrls
  certificateUrl : Option.Rel addresses.shown config.certificateUrl other.certificateUrl
  notificationUrl : config.notifications.map NotificationTesting.baseUrl =
    other.notifications.map NotificationTesting.baseUrl
  defaultPolicy : config.defaultPolicy = other.defaultPolicy
  bpnFilter : config.bpnFilter = other.bpnFilter
  schema : config.schema = other.schema
  allowedBpns : config.allowedBpns = other.allowedBpns

structure Uploader.Corresponds (addresses : Correspondence) (uploader other : Uploader) : Prop where
  config : uploader.config.Corresponds addresses other.config
  assets : uploader.dataPlaneAssets = other.dataPlaneAssets

inductive DataPlane.Corresponds (addresses : Correspondence) :
    Schema → Option DataPlane → Option DataPlane → Prop
  | direct : Corresponds addresses .v2 none none
  | proxied (url : addresses.shown planeUrl otherUrl) (assetId : String) :
      Corresponds addresses .v3 (some ⟨planeUrl, assetId⟩) (some ⟨otherUrl, assetId⟩)

structure Placement.Corresponds (addresses : Correspondence) (schema : Schema)
    (placement other : Placement) : Prop where
  submodelUrl : addresses.shown placement.submodelUrl other.submodelUrl
  submodelUploadUrl : addresses.called placement.submodelUploadUrl other.submodelUploadUrl
  connectorUrl : addresses.shown placement.connectorUrl other.connectorUrl
  connectorUploadUrl : addresses.called placement.connectorUploadUrl other.connectorUploadUrl
  dataPlane : DataPlane.Corresponds addresses schema placement.dataPlane other.dataPlane

-- ---------------------------------------------------------------------------
-- What corresponding positions hold
-- ---------------------------------------------------------------------------

theorem rel_bind {related : α → β → Prop} {alike : γ → δ → Prop} {value : Option α}
    {other : Option β} {next : α → Option γ} {follow : β → Option δ}
    (first : Option.Rel related value other)
    (rest : ∀ a b, related a b → Option.Rel alike (next a) (follow b)) :
    Option.Rel alike (value >>= next) (other >>= follow) := by
  cases first with
  | none => exact .none
  | some h => exact rest _ _ h

theorem rel_getElem? {related : α → β → Prop} (h : List.Forall₂ related items others) (i : Nat) :
    Option.Rel related items[i]? others[i]? := by
  induction h generalizing i with
  | nil => exact .none
  | cons first _ ih =>
    cases i with
    | zero => exact .some first
    | succ i => exact ih i

theorem Slot.rel_pick? {related : α → β → Prop} (slot : Slot)
    (h : List.Forall₂ related items others) :
    Option.Rel related (slot.pick? items) (slot.pick? others) := by
  unfold pick?
  rw [h.length_eq]
  exact rel_getElem? h _

theorem forall₂_zip_zip {first : α → β → Prop} {second : γ → δ → Prop}
    (h : List.Forall₂ first items others) (h' : List.Forall₂ second more otherMore) :
    List.Forall₂ (fun pair other => first pair.1 other.1 ∧ second pair.2 other.2)
      (items.zip more) (others.zip otherMore) := by
  induction h generalizing more otherMore with
  | nil => exact .nil
  | cons head _ ih =>
    cases h' with
    | nil => exact .nil
    | cons head' tail' => exact .cons ⟨head, head'⟩ (ih tail')

section
variable {addresses : Correspondence} {config otherConfig : Config} {uploader other : Uploader}

namespace Uploader.Corresponds

theorem rel_dataPlane? (h : uploader.Corresponds addresses other) (slot : Slot) :
    Option.Rel (DataPlane.Corresponds addresses uploader.config.schema)
      (uploader.dataPlane? slot) (other.dataPlane? slot) := by
  unfold dataPlane?
  rw [← h.config.schema, ← h.assets]
  cases uploader.config.schema with
  | v2 => exact .some .direct
  | v3 =>
    refine rel_bind (slot.rel_pick? h.config.dataPlaneUrls) fun url otherUrl hurl => ?_
    cases slot.pick? uploader.dataPlaneAssets with
    | none => exact .none
    | some assetId => exact .some (.proxied hurl assetId)

theorem rel_placement? (h : uploader.Corresponds addresses other) (slot : Slot) :
    Option.Rel (Placement.Corresponds addresses uploader.config.schema)
      (uploader.placement? slot) (other.placement? slot) := by
  refine rel_bind (slot.rel_pick? h.config.submodelUrls) fun _ _ hs => ?_
  refine rel_bind (slot.rel_pick? h.config.submodelUploadUrls) fun _ _ hsu => ?_
  refine rel_bind (slot.rel_pick? h.config.connectorUrls) fun _ _ hc => ?_
  refine rel_bind (slot.rel_pick? h.config.connectorUploadUrls) fun _ _ hcu => ?_
  exact rel_bind (h.rel_dataPlane? slot) fun _ _ hp => .some ⟨hs, hsu, hc, hcu, hp⟩

end Uploader.Corresponds

namespace Placement.Corresponds

variable {schema : Schema} {placement otherPlacement : Placement}

theorem assetId_eq (h : placement.Corresponds addresses schema otherPlacement)
    (part submodelId : String) :
    placement.assetId part submodelId = otherPlacement.assetId part submodelId := by
  unfold assetId
  have planes := h.dataPlane
  generalize placement.dataPlane = first at planes ⊢
  generalize otherPlacement.dataPlane = second at planes ⊢
  cases planes <;> rfl

theorem address_eq (h : placement.Corresponds addresses schema otherPlacement)
    (shown : ∀ a b, addresses.shown a b → a = b) (target : Target) (part submodelId : String) :
    placement.address target part submodelId = otherPlacement.address target part submodelId := by
  unfold address
  have planes := h.dataPlane
  generalize placement.dataPlane = first at planes ⊢
  generalize otherPlacement.dataPlane = second at planes ⊢
  cases planes with
  | direct => rw [shown _ _ h.connectorUrl]
  | proxied url =>
    rw [shown _ _ url]
    cases target <;> rfl

theorem descriptor (h : placement.Corresponds addresses schema otherPlacement)
    (reached : addresses.reached (placement.address target part submodelId)
      (otherPlacement.address otherTarget part submodelId)) :
    Descriptor.Corresponds addresses schema (placement.descriptor target part key submodelId)
      (otherPlacement.descriptor otherTarget part key submodelId) := by
  unfold Placement.descriptor
  have planes := h.dataPlane
  generalize placement.dataPlane = first at planes ⊢
  generalize otherPlacement.dataPlane = second at planes ⊢
  cases planes with
  | direct => exact .direct _ _ _ reached
  | proxied => exact .proxied _ _ _ _ reached h.connectorUrl

end Placement.Corresponds

namespace Config.Corresponds

theorem connectors (h : config.Corresponds addresses otherConfig) :
    List.Forall₂ (fun connector other =>
      addresses.shown connector.1 other.1 ∧ addresses.called connector.2 other.2)
      config.connectors otherConfig.connectors :=
  forall₂_zip_zip h.connectorUrls h.connectorUploadUrls

theorem certificateService? (h : config.Corresponds addresses otherConfig) (key : String) :
    Option.Rel addresses.shown (config.certificateService? key)
      (otherConfig.certificateService? key) := by
  unfold Config.certificateService?
  split
  · exact h.certificateUrl
  · exact .none

theorem submodelAsset {placement otherPlacement : Placement}
    (h : config.Corresponds addresses otherConfig)
    (placed : placement.Corresponds addresses generation otherPlacement)
    (part key assetId : String) :
    AssetRequest.Corresponds addresses (config.submodelAsset placement part key assetId)
      (otherConfig.submodelAsset otherPlacement part key assetId) := by
  unfold Config.submodelAsset
  have service := h.certificateService? key
  generalize config.certificateService? key = first at service ⊢
  generalize otherConfig.certificateService? key = second at service ⊢
  cases service with
  | none => exact .submodel placed.submodelUrl assetId
  | some url => exact .certificate url assetId part

theorem registeredIds_eq (h : config.Corresponds addresses otherConfig) (identity : Identity) :
    Uploader.registeredIds config identity = Uploader.registeredIds otherConfig identity := by
  unfold Uploader.registeredIds
  rw [h.schema, h.allowedBpns]

theorem admits_eq (h : config.Corresponds addresses otherConfig) (record : Record) :
    config.admits record = otherConfig.admits record := by
  unfold Config.admits
  rw [h.bpnFilter]

end Config.Corresponds

end

end Dataspace
