import Dataspace.Plan.Basic
import Dataspace.Settings.Config

/-!
# Provisioning

What must be on every connector before parts are uploaded: the policies, the
offer of the registry, and in notification testing the offers of the three
notification endpoints. Each is looked for first and created only if absent. A
creation that is refused is reported and otherwise passed over.
-/

namespace Dataspace

open Plan

def policyId? (policy : Json) : Option String := (policy.member? "@id").bind Json.string?

def createPolicy (connector id : String) (policy : Json) : Plan Unit := do
  let answer ← create (.policy id) (.createPolicy connector policy)
  if answer.isFailure then return ()
  else say (.policyCreated (answer.createdId?.getD id))

def ensurePolicy (connector id : String) (policy : Json) : Plan Unit := do
  say (.ensuringPolicy id connector)
  let found ← ask (.findPolicy connector id)
  if found.showsPolicy then say (.policyExists id)
  else createPolicy connector id policy

/-- An entry without an id of its own cannot be looked for and is passed over. -/
def ensureNamedPolicy (connectors : List String) (entry : String × Json) : Plan Unit :=
  match policyId? entry.2 with
  | none => say (.policyWithoutId entry.1)
  | some id => connectors.forM fun connector => ensurePolicy connector id entry.2

/-- Something a connector is to offer: the asset, and the filter that finds
an offer of it. -/
structure Offer where
  assetId : String
  filter : CatalogFilter
  asset : AssetRequest
  deriving DecidableEq, Repr

namespace Offer

/-- Found by the type of its asset. -/
def registry (registryUrl : String) : Offer where
  assetId := AssetRequest.registryId
  filter := .type AssetRequest.registryType
  asset := AssetRequest.registry registryUrl AssetRequest.registryId

/-- Found by the id of its asset. -/
def notification (baseUrl : String) (kind : NotificationKind) : Offer where
  assetId := kind.assetId
  filter := .id kind.assetId
  asset := AssetRequest.notification (baseUrl ++ kind.path) kind

end Offer

def createDefinition (connector policyId assetId : String) : Plan Response :=
  create (.contractDefinition assetId)
    (.createDefinition connector (ContractDefinition.offer policyId assetId))

/-- An asset that is refused gets no contract definition. -/
def createOffer (upload policyId : String) (offer : Offer) : Plan Unit := do
  let answer ← create (.asset offer.assetId) (.createAsset upload offer.asset)
  if answer.isFailure then return ()
  else do
    say (.assetCreated (answer.createdId?.getD offer.assetId))
    let _ ← createDefinition upload policyId offer.assetId

/-- The provider is known to the catalog by the address shown. -/
def ensureOffer (display upload policyId : String) (offer : Offer) : Plan Unit := do
  say (.ensuringOffer offer.assetId upload)
  let found ← ask (.queryCatalog upload ⟨Endpoint.protocol display, offer.filter⟩)
  if found.listsOffers then say (.offerExists offer.assetId)
  else createOffer upload policyId offer

namespace Config

def connectors (config : Config) : List (String × String) :=
  config.connectorUrls.zip config.connectorUploadUrls

def ensurePolicies (config : Config) (policies : Members Json) : Plan Unit :=
  policies.entries.forM (ensureNamedPolicy config.connectorUploadUrls)

def ensureOffers (config : Config) (offers : List Offer) : Plan Unit :=
  config.connectors.forM fun connector =>
    offers.forM (ensureOffer connector.1 connector.2 config.defaultPolicy)

def ensureRegistry (config : Config) : Plan Unit :=
  config.ensureOffers [.registry config.registryUrl]

def ensureNotifications (config : Config) (baseUrl : String) : Plan Unit :=
  config.ensureOffers (NotificationKind.all.map (.notification baseUrl))

end Config

end Dataspace
