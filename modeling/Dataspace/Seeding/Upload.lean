import Dataspace.Connector
import Dataspace.Plan.Basic
import Dataspace.Seeding.Provision
import Dataspace.Settings.Config

/-!
# Uploading records

Everything that one slot selects is a placement: it fixes as what a submodel placed
there is published, which is its address, its descriptor, and the asset under which a
connector offers it.

For each eligible submodel of a record, in order: its payload if it carries a
document, its asset, and a contract definition unless the asset was refused.
After them one shell that describes all of them; a record without eligible
submodels makes no call at all.
-/

namespace Dataspace

-- ---------------------------------------------------------------------------
-- Placements
-- ---------------------------------------------------------------------------

structure DataPlane where
  url : String
  assetId : String
  deriving DecidableEq, Repr

/-- Addresses called and addresses shown, all of one position. The third schema
adds a data plane. -/
structure Placement where
  submodelUrl : String
  submodelUploadUrl : String
  connectorUrl : String
  connectorUploadUrl : String
  dataPlane : Option DataPlane
  deriving DecidableEq, Repr

/-- Uploads records one at a time. One asset id per data plane is fixed at the
start. -/
structure Uploader where
  config : Config
  dataPlaneAssets : List String
  deriving DecidableEq, Repr

namespace Uploader

def dataPlane? (uploader : Uploader) (slot : Slot) : Option (Option DataPlane) :=
  match uploader.config.schema with
  | .v2 => some none
  | .v3 => do
    let url ← slot.pick? uploader.config.dataPlaneUrls
    let assetId ← slot.pick? uploader.dataPlaneAssets
    return some ⟨url, assetId⟩

/-- There is no placement if one of the lists is empty. -/
def placement? (uploader : Uploader) (slot : Slot) : Option Placement := do
  let submodelUrl ← slot.pick? uploader.config.submodelUrls
  let submodelUploadUrl ← slot.pick? uploader.config.submodelUploadUrls
  let connectorUrl ← slot.pick? uploader.config.connectorUrls
  let connectorUploadUrl ← slot.pick? uploader.config.connectorUploadUrls
  let dataPlane ← uploader.dataPlane? slot
  return ⟨submodelUrl, submodelUploadUrl, connectorUrl, connectorUploadUrl, dataPlane⟩

end Uploader

inductive Target
  | unreachable
  | certificateService (url : String)
  | placed
  deriving DecidableEq, Repr

namespace Config

/-- The certificate service, for submodels with the name of the certificate. -/
def certificateService? (config : Config) (key : String) : Option String :=
  if Key.submodelName key = Key.certificateName then config.certificateUrl else none

/-- The faulty partner comes before the certificate service. -/
def target (config : Config) (bpn key : String) : Target :=
  if config.isFaulty bpn then .unreachable
  else match config.certificateService? key with
    | some url => .certificateService url
    | none => .placed

def submodelAsset (config : Config) (placement : Placement) (part key assetId : String) :
    AssetRequest :=
  match config.certificateService? key with
  | some url => .certificate url assetId part
  | none => .submodel placement.submodelUrl assetId

end Config

namespace Placement

/-- Data planes serve certificates too; only the connector's own addresses give
way to the certificate service. -/
def address (placement : Placement) (target : Target) (part submodelId : String) : String :=
  match placement.dataPlane, target with
  | none, .unreachable => Endpoint.submodel Endpoint.unreachableHost part submodelId
  | none, .certificateService url => certificateUrl url part
  | none, .placed => Endpoint.submodel placement.connectorUrl part submodelId
  | some _, .unreachable => Endpoint.dataPlane Endpoint.unreachableHost submodelId
  | some plane, _ => Endpoint.dataPlane plane.url submodelId

/-- Behind a data plane all submodels share its asset. -/
def assetId (placement : Placement) (part submodelId : String) : String :=
  match placement.dataPlane with
  | none => part ++ "-" ++ submodelId
  | some plane => plane.assetId

def descriptor (placement : Placement) (target : Target) (part key submodelId : String) :
    Descriptor :=
  let address := placement.address target part submodelId
  match placement.dataPlane with
  | none => .direct (Key.submodelName key) submodelId key address
  | some plane =>
    .proxied (Key.submodelName key) submodelId key
      ⟨address, plane.assetId, placement.connectorUrl⟩

end Placement

-- ---------------------------------------------------------------------------
-- Uploads
-- ---------------------------------------------------------------------------

open Plan

structure RecordOutcome where
  submodels : Nat
  shellUploaded : Bool
  deriving DecidableEq, Repr

def storePayload (server submodelId key : String) (document : Json) : Plan Unit := do
  say (.storingPayload (Key.submodelName key))
  let _ ← create (.payload (Key.submodelName key)) (.storePayload server submodelId document)

def storeDocument (server submodelId : String) (entry : String × Json) : Plan Unit :=
  match entry.2.firstDocument? with
  | some document => storePayload server submodelId entry.1 document
  | none => return ()

/-- A refused asset is not offered. -/
def offerSubmodel (connector policyId assetId : String) (asset : AssetRequest) :
    Plan Unit := do
  say (.creatingAsset connector)
  let answer ← create (.asset assetId) (.createAsset connector asset)
  if answer.isFailure then say .definitionSkipped
  else do
    let _ ← createDefinition connector policyId assetId

def Record.policyOr (record : Record) (default : String) : String := record.policy.getD default

namespace Uploader

def prepare (config : Config) : Plan Uploader := do
  let assets ← config.dataPlaneUrls.mapM fun _ => freshId
  if assets.isEmpty then return ⟨config, assets⟩
  else do
    say (.dataPlaneAssets assets)
    return ⟨config, assets⟩

/-- Takes a slot, then an identifier. -/
def uploadSubmodel (uploader : Uploader) (record : Record) (entry : String × Json) :
    Plan Descriptor := do
  let slot ← nextSlot
  let placement ← require (uploader.placement? slot)
  let id ← freshId
  let config := uploader.config
  let assetId := placement.assetId record.part id
  storeDocument placement.submodelUploadUrl id entry
  offerSubmodel placement.connectorUploadUrl (record.policyOr config.defaultPolicy) assetId
    (config.submodelAsset placement record.part entry.1 assetId)
  return placement.descriptor (config.target record.bpn entry.1) record.part entry.1 id

def registeredIds (config : Config) (identity : Identity) : List RegisteredId :=
  match config.schema with
  | .v2 => RegisteredId.plainAll identity.ids
  | .v3 => RegisteredId.scopedAll identity.ids config.allowedBpns

def registerShell (uploader : Uploader) (record : Record) (identity : Identity)
    (descriptors : List Descriptor) : Plan Response := do
  let config := uploader.config
  say (.creatingShell record.part)
  let id ← freshId
  create .shell (.registerShell config.registryUploadUrl
    ⟨config.schema, record.part, identity.shortName, id, registeredIds config identity,
      descriptors⟩)

def finishRecord (uploader : Uploader) (record : Record) (identity : Identity)
    (descriptors : List Descriptor) : Plan RecordOutcome :=
  if descriptors.isEmpty then return ⟨0, false⟩
  else do
    let answer ← uploader.registerShell record identity descriptors
    return ⟨descriptors.length, !answer.isFailure⟩

def announce (uploader : Uploader) (record : Record) (identity : Identity) : Plan Unit := do
  identity.refused.forM fun refusal =>
    say (.identifierRefused refusal.1 record.part refusal.2)
  say (.uploading record.part identity.shortName)
  say (.underPolicy (record.policyOr uploader.config.defaultPolicy))

def uploadRecord (uploader : Uploader) (record : Record) : Plan RecordOutcome := do
  let identity := Identity.ofRecord record
  uploader.announce record identity
  let descriptors ← record.eligible.mapM (uploader.uploadSubmodel record)
  uploader.finishRecord record identity descriptors

end Uploader

end Dataspace
