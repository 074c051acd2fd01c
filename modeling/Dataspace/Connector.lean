import Dataspace.Json.Basic

/-!
# Connectors

What a connector is asked for: the addresses of its services, the properties by
which it selects assets, and the documents of catalog requests, contract
definitions and assets. An asset is an entry with properties, and the address from
which the data is fetched. The certificate form is older than the others: it carries
its id as a property and its address as plain booleans. The endpoints that a run
publishes when it tests notifications are fixed.
-/

namespace Dataspace.Endpoint

-- ---------------------------------------------------------------------------
-- Addresses
-- ---------------------------------------------------------------------------

def assets (connector : String) : String := connector ++ "/management/v2/assets"

def policyDefinitions (connector : String) : String :=
  connector ++ "/management/v2/policydefinitions"

def policyDefinition (connector id : String) : String :=
  policyDefinitions connector ++ "/" ++ id

def contractDefinitions (connector : String) : String :=
  connector ++ "/management/v2/contractdefinitions"

def catalog (connector : String) : String := connector ++ "/management/v2/catalog/request"

def protocol (connector : String) : String := connector ++ "/api/v1/dsp"

def payload (server submodelId : String) : String := server ++ "/data/" ++ submodelId

def unreachableHost : String := "http://idonotexist"

def submodel (connector part submodelId : String) : String :=
  connector ++ "/" ++ part ++ "-" ++ submodelId ++ "/submodel?content=value&extent=withBlobValue"

def dataPlane (plane submodelId : String) : String :=
  plane ++ "/api/public/data/" ++ submodelId

end Dataspace.Endpoint

namespace Dataspace.Vocabulary

-- ---------------------------------------------------------------------------
-- Vocabulary
-- ---------------------------------------------------------------------------

def id : String := "https://w3id.org/edc/v0.0.1/ns/id"
def type : String := "https://w3id.org/edc/v0.0.1/ns/type"

def context : Json :=
  .object [
    ("dct", .string "https://purl.org/dc/terms/"),
    ("tx", .string "https://w3id.org/tractusx/v0.0.1/ns/"),
    ("edc", .string "https://w3id.org/edc/v0.0.1/ns/"),
    ("odrl", .string "http://www.w3.org/ns/odrl/2/"),
    ("dcat", .string "https://www.w3.org/ns/dcat/"),
    ("dspace", .string "https://w3id.org/dspace/v0.8/")]

end Dataspace.Vocabulary

namespace Dataspace

-- ---------------------------------------------------------------------------
-- Catalogs
-- ---------------------------------------------------------------------------

inductive CatalogFilter
  | type (name : String)
  | id (assetId : String)
  deriving DecidableEq, Repr

def CatalogFilter.property : CatalogFilter → String
  | .type _ => Vocabulary.type
  | .id _ => Vocabulary.id

def CatalogFilter.value : CatalogFilter → String
  | .type name => name
  | .id assetId => assetId

structure CatalogRequest where
  providerUrl : String
  filter : CatalogFilter
  deriving DecidableEq, Repr

def CatalogRequest.toJson (request : CatalogRequest) : Json :=
  .object [
    ("@context", Vocabulary.context),
    ("edc:protocol", .string "dataspace-protocol-http"),
    ("edc:providerUrl", .string request.providerUrl),
    ("edc:querySpec", .object [
      ("edc:filterExpression", .object [
        ("@type", .string "edc:Criterion"),
        ("edc:operandLeft", .string request.filter.property),
        ("edc:operator", .string "="),
        ("edc:operandRight", .string request.filter.value)])])]

/-- A catalog lists its data sets in an array, a single one also as an object. -/
def Json.hasOffers (catalog : Json) : Bool :=
  match catalog.member? "dcat:dataset" with
  | some (.array items) => !items.isEmpty
  | some (.object members) => !members.isEmpty
  | _ => false

-- ---------------------------------------------------------------------------
-- Contract definitions
-- ---------------------------------------------------------------------------

structure ContractDefinition where
  accessPolicyId : String
  contractPolicyId : String
  selectedId : String
  deriving DecidableEq, Repr

namespace ContractDefinition

def offer (policyId assetId : String) : ContractDefinition := ⟨policyId, policyId, assetId⟩

def toJson (definition : ContractDefinition) : Json :=
  .object [
    ("@context", .object []),
    ("@type", .string "ContractDefinition"),
    ("accessPolicyId", .string definition.accessPolicyId),
    ("contractPolicyId", .string definition.contractPolicyId),
    ("assetsSelector", .object [
      ("@type", .string "CriterionDto"),
      ("operandLeft", .string Vocabulary.id),
      ("operator", .string "="),
      ("operandRight", .string definition.selectedId)])]

end ContractDefinition

-- ---------------------------------------------------------------------------
-- Notification endpoints
-- ---------------------------------------------------------------------------

inductive NotificationKind
  | supplierResponse | supplierRequest | supplierRequestRecursive
  deriving DecidableEq, Repr

namespace NotificationKind

def all : List NotificationKind :=
  [.supplierResponse, .supplierRequest, .supplierRequestRecursive]

theorem mem_all (kind : NotificationKind) : kind ∈ all := by
  cases kind <;> simp [all]

def assetId : NotificationKind → String
  | .supplierResponse => "ess-response-asset"
  | .supplierRequest => "notify-request-asset"
  | .supplierRequestRecursive => "notify-request-asset-recursive"

def typeName : NotificationKind → String
  | .supplierResponse => "ess-supplier-response"
  | .supplierRequest | .supplierRequestRecursive => "ess-supplier-request"

def path : NotificationKind → String
  | .supplierResponse => "/ess/notification/receive"
  | .supplierRequest => "/ess/mock/notification/receive"
  | .supplierRequestRecursive => "/ess/notification/receive-recursive"

end NotificationKind

-- ---------------------------------------------------------------------------
-- Assets
-- ---------------------------------------------------------------------------

/-- Which parts of a request an address passes on; a part may be left out of
the document. -/
structure Proxy where
  path : Option Bool
  body : Bool
  method : Bool
  queryParams : Option Bool
  deriving DecidableEq, Repr

inductive DataAddress
  | http (typed : Bool) (baseUrl : String) (proxy : Proxy)
  | legacy (baseUrl : String)
  deriving DecidableEq, Repr

/-- The id of an entry may stand in `properties` instead of `id`. -/
structure AssetEntry where
  typed : Bool
  id : Option String
  properties : List (String × String)
  deriving DecidableEq, Repr

structure AssetRequest where
  withContext : Bool
  asset : AssetEntry
  dataAddress : DataAddress
  deriving DecidableEq, Repr

def DataAddress.baseUrl : DataAddress → String
  | .http _ url _ => url
  | .legacy url => url

def certificateUrl (service part : String) : String :=
  service ++ "/" ++ part ++ "/asBuilt/ISO14001/submodel"

namespace AssetRequest

def registryId : String := "registry-asset"
def registryType : String := "data.core.digitalTwinRegistry"

def idProperty : String := "asset:prop:id"

/-- Paths pass through to the submodel server, nothing else does. -/
def submodel (serverUrl id : String) : AssetRequest where
  withContext := true
  asset := ⟨true, some id, [("description", "IRS EDC Test Asset")]⟩
  dataAddress := .http true serverUrl ⟨some true, false, false, some false⟩

/-- Every part of a request passes through to the registry. -/
def registry (registryUrl id : String) : AssetRequest where
  withContext := true
  asset := ⟨true, some id, [("type", registryType),
    ("description", "Digital Twin Registry Endpoint of IRS DEV")]⟩
  dataAddress := .http true registryUrl ⟨some true, true, true, some true⟩

def notification (endpointUrl : String) (kind : NotificationKind) : AssetRequest where
  withContext := true
  asset := ⟨false, some kind.assetId, [
    ("description", "ESS notification endpoint"),
    ("contenttype", "application/json"),
    ("notificationtype", kind.typeName),
    ("notificationmethod", "receive")]⟩
  dataAddress := .http false endpointUrl ⟨none, true, true, none⟩

def certificate (serviceUrl id part : String) : AssetRequest where
  withContext := false
  asset := ⟨false, none, [
    (idProperty, id),
    ("asset:prop:description", "product description"),
    ("asset:prop:contenttype", "application/json")]⟩
  dataAddress := .legacy (certificateUrl serviceUrl part)

def assetId? (request : AssetRequest) : Option String :=
  match request.asset.id with
  | some id => some id
  | none => Members.find? idProperty request.asset.properties

def assetType? (request : AssetRequest) : Option String :=
  Members.find? "type" request.asset.properties

end AssetRequest

def proxyText (on : Bool) : Json := .string (if on then "true" else "false")

def optionalMember (name : String) : Option Json → List (String × Json)
  | some value => [(name, value)]
  | none => []

def DataAddress.toJson : DataAddress → Json
  | .http typed baseUrl proxy => .object (
      optionalMember "@type" (if typed then some (.string "DataAddress") else none) ++
      [("type", .string "HttpData"), ("baseUrl", .string baseUrl)] ++
      optionalMember "proxyPath" (proxy.path.map proxyText) ++
      [("proxyBody", proxyText proxy.body), ("proxyMethod", proxyText proxy.method)] ++
      optionalMember "proxyQueryParams" (proxy.queryParams.map proxyText))
  | .legacy baseUrl => .object [("properties", .object [
      ("baseUrl", .string baseUrl),
      ("type", .string "HttpData"),
      ("proxyBody", .bool true),
      ("proxyMethod", .bool true)])]

def AssetEntry.toJson (entry : AssetEntry) : Json :=
  .object (
    optionalMember "@type" (if entry.typed then some (.string "Asset") else none) ++
    optionalMember "@id" (entry.id.map .string) ++
    [("properties", .object (entry.properties.map fun p => (p.1, .string p.2)))])

def AssetRequest.toJson (request : AssetRequest) : Json :=
  .object (
    optionalMember "@context" (if request.withContext then some (.object []) else none) ++
    [("asset", request.asset.toJson), ("dataAddress", request.dataAddress.toJson)])

end Dataspace
