import Dataspace.Proofs.Plan.InStep
import Dataspace.Proofs.Seeding.Correspondence
import Dataspace.Proofs.Seeding.Placement
import Dataspace.Seeding.Session

/-!
# Runs under corresponding configurations

Runs whose configurations correspond are in step: nothing that a run does, apart
from the addresses it names, depends on what addresses are (`inStep_seed`). For
the addresses that descriptors send consumers to, this needs an argument of its
own, `Correspondence.Reaches`, since they also depend on who is unreachable.
-/

namespace Dataspace

open Plan

variable {addresses : Correspondence}

-- ---------------------------------------------------------------------------
-- Provisioning
-- ---------------------------------------------------------------------------

theorem inStep_ensureNamedPolicy (h : List.Forall₂ addresses.called connectors others)
    (entry : String × Json) :
    InStep (Call.Corresponds addresses) Eq (ensureNamedPolicy connectors entry)
      (ensureNamedPolicy others entry) := by
  unfold ensureNamedPolicy
  split
  · exact .say _ _
  · rename_i id _
    refine .forM (h.imp fun connector other called => ?_)
    refine .bind_eq (.say _ _) fun _ => .bind_eq (.ask (.findPolicy called id)) fun found => ?_
    split
    · exact .say _ _
    · refine .bind_eq (.create _ _ (.createPolicy called _)) fun answer => ?_
      split
      · exact .pure rfl
      · exact .say _ _

structure Offer.Corresponds (addresses : Correspondence) (offer other : Offer) : Prop where
  assetId : offer.assetId = other.assetId
  filter : offer.filter = other.filter
  asset : AssetRequest.Corresponds addresses offer.asset other.asset

theorem inStep_createDefinition (called : addresses.called connector other)
    (policyId assetId : String) :
    InStep (Call.Corresponds addresses) Eq (createDefinition connector policyId assetId)
      (createDefinition other policyId assetId) :=
  .create _ _ (.createDefinition called _)

theorem inStep_ensureOffer {offer otherOffer : Offer} (shown : addresses.shown display otherDisplay)
    (called : addresses.called upload otherUpload) (h : offer.Corresponds addresses otherOffer)
    (policyId : String) :
    InStep (Call.Corresponds addresses) Eq (ensureOffer display upload policyId offer)
      (ensureOffer otherDisplay otherUpload policyId otherOffer) := by
  obtain ⟨assetId, filter, asset⟩ := offer
  obtain ⟨_, _, otherAsset⟩ := otherOffer
  obtain ⟨rfl, rfl, hasset⟩ := h
  refine .bind_eq (.say _ _) fun _ =>
    .bind_eq (.ask (.queryCatalog called shown filter)) fun found => ?_
  split
  · exact .say _ _
  · refine .bind_eq (.create _ _ (.createAsset called hasset)) fun answer => ?_
    split
    · exact .pure rfl
    · exact .bind_eq (.say _ _) fun _ =>
        .bind_eq (inStep_createDefinition called policyId assetId) fun _ => .pure rfl

namespace Config.Corresponds

variable {config other : Config}

theorem inStep_ensureOffers {offers otherOffers : List Offer}
    (h : config.Corresponds addresses other)
    (hoffers : List.Forall₂ (Offer.Corresponds addresses) offers otherOffers) :
    InStep (Call.Corresponds addresses) Eq (config.ensureOffers offers)
      (other.ensureOffers otherOffers) := by
  unfold Config.ensureOffers
  rw [h.defaultPolicy]
  exact .forM (h.connectors.imp fun _ _ connector => .forM
    (hoffers.imp fun _ _ offer => inStep_ensureOffer connector.1 connector.2 offer _))

theorem inStep_provision (h : config.Corresponds addresses other) (policies : Members Json) :
    InStep (Call.Corresponds addresses) Eq (config.provision policies)
      (other.provision policies) := by
  refine .bind_eq (.forM (List.forall₂_same.mpr fun entry _ =>
    inStep_ensureNamedPolicy h.connectorUploadUrls entry)) fun _ =>
    .bind_eq (h.inStep_ensureOffers (.cons ⟨rfl, rfl, .registry h.registryUrl _⟩ .nil)) fun _ => ?_
  have service := h.notificationUrl
  cases hfirst : config.notifications with
  | none =>
    rw [hfirst, eq_comm, Option.map_none, Option.map_eq_none_iff] at service
    rw [service]
    exact .pure rfl
  | some testing =>
    rw [hfirst, eq_comm, Option.map_some, Option.map_eq_some_iff] at service
    obtain ⟨⟨_, _⟩, hsecond, rfl⟩ := service
    rw [hsecond]
    refine h.inStep_ensureOffers (List.forall₂_same.mpr fun offer ho => ?_)
    obtain ⟨kind, -, rfl⟩ := List.mem_map.mp ho
    exact ⟨rfl, rfl, .notification _ kind⟩

theorem certified_eq (h : config.Corresponds addresses other) (record : Record) :
    config.certified record = other.certified record := by
  have service : config.certificateUrl.isSome = other.certificateUrl.isSome := by
    have hrel := h.certificateUrl
    generalize config.certificateUrl = first at hrel ⊢
    generalize other.certificateUrl = second at hrel ⊢
    cases hrel <;> rfl
  unfold certified
  rw [service]

end Config.Corresponds

-- ---------------------------------------------------------------------------
-- Uploads
-- ---------------------------------------------------------------------------

def Correspondence.Reaches (addresses : Correspondence) (config other : Config)
    (record : Record) : Prop :=
  ∀ placement otherPlacement,
    Placement.Corresponds addresses config.schema placement otherPlacement →
    ∀ key submodelId, addresses.reached
      (placement.address (config.target record.bpn key) record.part submodelId)
      (otherPlacement.address (other.target record.bpn key) record.part submodelId)

theorem inStep_storeDocument (called : addresses.called server other) (submodelId : String)
    (entry : String × Json) :
    InStep (Call.Corresponds addresses) Eq (storeDocument server submodelId entry)
      (storeDocument other submodelId entry) := by
  unfold storeDocument
  split
  · rename_i document _
    exact .bind_eq (.say _ _) fun _ =>
      .bind_eq (.create _ _ (.storePayload called submodelId document)) fun _ => .pure rfl
  · exact .pure rfl

theorem inStep_offerSubmodel (called : addresses.called connector other)
    (h : AssetRequest.Corresponds addresses asset otherAsset) (policyId assetId : String) :
    InStep (Call.Corresponds addresses) Eq (offerSubmodel connector policyId assetId asset)
      (offerSubmodel other policyId assetId otherAsset) := by
  refine .bind_eq (.say _ _) fun _ =>
    .bind_eq (.create _ _ (.createAsset called h)) fun answer => ?_
  split
  · exact .say _ _
  · exact .bind_eq (inStep_createDefinition called policyId assetId) fun _ => .pure rfl

theorem inStep_prepare {same : Call → Call → Prop} {config other : Config}
    (h : config.dataPlaneUrls.length = other.dataPlaneUrls.length) :
    InStep same (fun uploader otherUploader => uploader.Equipped config ∧
        otherUploader.Equipped other ∧ uploader.dataPlaneAssets = otherUploader.dataPlaneAssets)
      (Uploader.prepare config) (Uploader.prepare other) := by
  have assets : InStep same
      (fun uploader otherUploader => uploader.dataPlaneAssets = otherUploader.dataPlaneAssets)
      (Uploader.prepare config) (Uploader.prepare other) := by
    refine .bind (.mapM ((forall₂_true h).imp fun _ _ _ => .freshId)) fun ids otherIds heq => ?_
    rw [List.forall₂_eq_eq_eq] at heq
    subst heq
    split
    · exact .pure rfl
    · exact .bind_eq (.say _ _) fun _ => .pure rfl
  refine assets.values.imp fun uploader otherUploader ⟨same, ⟨_, prepared⟩, _, otherPrepared⟩ => ?_
  exact ⟨(Uploader.trace_prepare prepared).1, (Uploader.trace_prepare otherPrepared).1, same⟩

namespace Uploader.Corresponds

variable {uploader other : Uploader} {record : Record}

theorem inStep_uploadSubmodel (h : uploader.Corresponds addresses other)
    (reaches : addresses.Reaches uploader.config other.config record) (entry : String × Json) :
    InStep (Call.Corresponds addresses) (Descriptor.Corresponds addresses uploader.config.schema)
      (uploader.uploadSubmodel record entry) (other.uploadSubmodel record entry) := by
  refine .bind_eq .nextSlot fun slot =>
    .bind (.require (h.rel_placement? slot)) fun placement otherPlacement placed =>
    .bind_eq .freshId fun submodelId => ?_
  have described : Descriptor.Corresponds addresses uploader.config.schema
      (placement.descriptor _ record.part entry.1 submodelId)
      (otherPlacement.descriptor _ record.part entry.1 submodelId) :=
    placed.descriptor (reaches placement otherPlacement placed entry.1 submodelId)
  dsimp only
  rw [h.config.defaultPolicy, placed.assetId_eq]
  exact .bind_eq (inStep_storeDocument placed.submodelUploadUrl submodelId entry) fun _ =>
    .bind_eq (inStep_offerSubmodel placed.connectorUploadUrl
      (h.config.submodelAsset placed _ _ _) _ _) fun _ => .pure described

theorem inStep_announce (uploader other : Uploader) (record : Record) (identity : Identity) :
    InStep (Call.Corresponds addresses) Eq (uploader.announce record identity)
      (other.announce record identity) :=
  .bind_eq (.forM (List.forall₂_same.mpr fun _ _ => .say _ _)) fun _ =>
    .bind_eq (.say _ _) fun _ => .say _ _

theorem inStep_registerShell (h : uploader.Corresponds addresses other) (record : Record)
    (identity : Identity)
    (hdescriptors : List.Forall₂ (Descriptor.Corresponds addresses uploader.config.schema)
      descriptors others) :
    InStep (Call.Corresponds addresses) Eq (uploader.registerShell record identity descriptors)
      (other.registerShell record identity others) := by
  refine .bind_eq (.say _ _) fun _ => .bind_eq .freshId fun id => .create _ _ ?_
  rw [← h.config.schema, ← h.config.registeredIds_eq]
  exact .registerShell h.config.registryUploadUrl _ _ _ _ _ hdescriptors

theorem inStep_finishRecord (h : uploader.Corresponds addresses other) (record : Record)
    (identity : Identity)
    (hdescriptors : List.Forall₂ (Descriptor.Corresponds addresses uploader.config.schema)
      descriptors others) :
    InStep (Call.Corresponds addresses) Eq (uploader.finishRecord record identity descriptors)
      (other.finishRecord record identity others) := by
  have register := h.inStep_registerShell record identity hdescriptors
  unfold finishRecord
  rw [hdescriptors.length_eq]
  cases hdescriptors with
  | nil => exact .pure rfl
  | cons => exact .bind_eq register fun _ => .pure rfl

theorem inStep_uploadRecord (h : uploader.Corresponds addresses other)
    (reaches : addresses.Reaches uploader.config other.config record) :
    InStep (Call.Corresponds addresses) Eq (uploader.uploadRecord record)
      (other.uploadRecord record) :=
  .bind_eq (inStep_announce uploader other record _) fun _ =>
    .bind (.mapM (List.forall₂_same.mpr fun entry _ => h.inStep_uploadSubmodel reaches entry))
      fun _ _ hdescriptors => h.inStep_finishRecord record _ hdescriptors

theorem inStep_uploadAll (h : uploader.Corresponds addresses other)
    (reaches : ∀ record, addresses.Reaches uploader.config other.config record)
    (records : List Record) (totals : Totals) :
    InStep (Call.Corresponds addresses) Eq (uploader.uploadAll records totals)
      (other.uploadAll records totals) := by
  induction records generalizing totals with
  | nil => exact .pure rfl
  | cons record records ih =>
    unfold uploadAll
    rw [h.config.admits_eq, h.config.certified_eq]
    split
    · exact .bind_eq (h.inStep_uploadRecord (reaches _)) fun outcome => ih _
    · exact ih totals

end Uploader.Corresponds

theorem inStep_seed {config other : Config} (h : config.Corresponds addresses other)
    (reaches : ∀ record, addresses.Reaches config other record) (fixture : Fixture) :
    InStep (Call.Corresponds addresses) Eq (seed config fixture) (seed other fixture) := by
  refine .bind_eq (h.inStep_provision fixture.policies) fun _ =>
    .bind (inStep_prepare h.dataPlaneUrls.length_eq) fun uploader otherUploader prepared => ?_
  obtain ⟨equipped, otherEquipped, assets⟩ := prepared
  rw [← equipped.config_eq, ← otherEquipped.config_eq] at h reaches
  exact .bind_eq (Uploader.Corresponds.inStep_uploadAll ⟨h, assets⟩ reaches _ _) fun totals =>
    .bind_eq (.say _ _) fun _ => .pure rfl

end Dataspace
