import Dataspace.Connector
import Dataspace.Registry

/-!
# Reading posted documents

A service sees only the document of a call. Here is where a document carries the
ids, policies and addresses that other documents name, and that they are what
the request was made from: no service reads anything else than was meant.
-/

namespace Dataspace

namespace Members

theorem find?_map (f : α → β) (name : String) (entries : List (String × α)) :
    find? name (entries.map fun entry => (entry.1, f entry.2)) = (find? name entries).map f := by
  induction entries with
  | nil => rfl
  | cons entry rest ih =>
    obtain ⟨n, a⟩ := entry
    by_cases h : n = name
    · simp [find?, h]
    · simp [find?, h, ih]

end Members

namespace Json

inductive Step
  | member (name : String)
  | item (index : Nat)

def step? : Step → Json → Option Json
  | .member name, json => json.member? name
  | .item index, json => json.array?.bind fun items => items[index]?

def at? (path : List Step) (json : Json) : Option Json :=
  path.foldlM (fun json step => json.step? step) json

def textAt? (path : List Step) (json : Json) : Option String := (json.at? path).bind string?

@[simp] theorem at?_nil (json : Json) : json.at? [] = some json := rfl

@[simp] theorem at?_member (name : String) (path : List Step) (json : Json) :
    json.at? (.member name :: path) = (json.member? name).bind (at? path) := rfl

@[simp] theorem member?_object (name : String) (members : List (String × Json)) :
    (Json.object members).member? name = Members.find? name members := rfl

@[simp] theorem string?_string (text : String) : (Json.string text).string? = some text := rfl

end Json

namespace Document

open Json (Step)

-- ---------------------------------------------------------------------------
-- Assets
-- ---------------------------------------------------------------------------

def entryIdPath : List Step := [.member "asset", .member "@id"]

def idPropertyPath : List Step := [.member "asset", .member "properties", .member "asset:prop:id"]

def typePropertyPath : List Step := [.member "asset", .member "properties", .member "type"]

/-- The id of an asset stands at the entry, or in the certificate form among the
properties. -/
def assetId? (asset : Json) : Option String :=
  (asset.textAt? entryIdPath).or (asset.textAt? idPropertyPath)

def assetType? (asset : Json) : Option String := asset.textAt? typePropertyPath

def baseUrl? (asset : Json) : Option String :=
  (asset.textAt? [.member "dataAddress", .member "baseUrl"]).or
    (asset.textAt? [.member "dataAddress", .member "properties", .member "baseUrl"])

theorem asset_toJson (request : AssetRequest) :
    request.toJson.member? "asset" = some request.asset.toJson := by
  unfold AssetRequest.toJson
  cases request.withContext <;> rfl

theorem dataAddress_toJson (request : AssetRequest) :
    request.toJson.member? "dataAddress" = some request.dataAddress.toJson := by
  unfold AssetRequest.toJson
  cases request.withContext <;> rfl

theorem properties_toJson (entry : AssetEntry) :
    entry.toJson.member? "properties" =
      some (.object (entry.properties.map fun p => (p.1, .string p.2))) := by
  unfold AssetEntry.toJson
  cases entry.typed <;> cases entry.id <;> rfl

theorem entryId_toJson (request : AssetRequest) :
    request.toJson.textAt? entryIdPath = request.asset.id := by
  have h : request.asset.toJson.member? "@id" = request.asset.id.map .string := by
    unfold AssetEntry.toJson
    cases request.asset.typed <;> cases request.asset.id <;> rfl
  simp only [Json.textAt?, entryIdPath, Json.at?_member, asset_toJson, Option.bind_some, h]
  cases request.asset.id <;> rfl

theorem property_toJson (name : String) (request : AssetRequest) :
    request.toJson.textAt? [.member "asset", .member "properties", .member name] =
      Members.find? name request.asset.properties := by
  simp only [Json.textAt?, Json.at?_member, asset_toJson, Option.bind_some, properties_toJson,
    Json.member?_object, Members.find?_map]
  cases Members.find? name request.asset.properties <;> rfl

@[simp] theorem assetId?_toJson (request : AssetRequest) :
    assetId? request.toJson = request.assetId? := by
  rw [assetId?, entryId_toJson, idPropertyPath, property_toJson]
  unfold AssetRequest.assetId?
  cases request.asset.id <;> rfl

@[simp] theorem assetType?_toJson (request : AssetRequest) :
    assetType? request.toJson = request.assetType? :=
  property_toJson "type" request

@[simp] theorem baseUrl?_toJson (request : AssetRequest) :
    baseUrl? request.toJson = some request.dataAddress.baseUrl := by
  simp only [baseUrl?, Json.textAt?, Json.at?_member, dataAddress_toJson, Option.bind_some]
  cases request.dataAddress with
  | http typed url proxy => cases typed <;> rfl
  | legacy url => rfl

-- ---------------------------------------------------------------------------
-- Contract definitions and catalog requests
-- ---------------------------------------------------------------------------

def accessPolicy? (definition : Json) : Option String :=
  definition.textAt? [.member "accessPolicyId"]

def contractPolicy? (definition : Json) : Option String :=
  definition.textAt? [.member "contractPolicyId"]

/-- Property, operator and value of the criterion by which a definition selects
its asset. -/
def selector? (definition : Json) : Option (String × String × String) := do
  let selector ← definition.member? "assetsSelector"
  let left ← selector.textAt? [.member "operandLeft"]
  let operator ← selector.textAt? [.member "operator"]
  let right ← selector.textAt? [.member "operandRight"]
  return (left, operator, right)

def filter? (query : Json) : Option (String × String × String) := do
  let filter ← query.at? [.member "edc:querySpec", .member "edc:filterExpression"]
  let left ← filter.textAt? [.member "edc:operandLeft"]
  let operator ← filter.textAt? [.member "edc:operator"]
  let right ← filter.textAt? [.member "edc:operandRight"]
  return (left, operator, right)

@[simp] theorem accessPolicy?_toJson (definition : ContractDefinition) :
    accessPolicy? definition.toJson = some definition.accessPolicyId := rfl

@[simp] theorem contractPolicy?_toJson (definition : ContractDefinition) :
    contractPolicy? definition.toJson = some definition.contractPolicyId := rfl

@[simp] theorem selector?_toJson (definition : ContractDefinition) :
    selector? definition.toJson = some (Vocabulary.id, "=", definition.selectedId) := rfl

@[simp] theorem filter?_toJson (request : CatalogRequest) :
    filter? request.toJson = some (request.filter.property, "=", request.filter.value) := rfl

-- ---------------------------------------------------------------------------
-- Shells
-- ---------------------------------------------------------------------------

def descriptors? (shell : Json) : Option (List Json) :=
  (shell.member? "submodelDescriptors").bind Json.array?

def shortName? (descriptor : Json) : Option String := descriptor.textAt? [.member "idShort"]

def submodelId? (schema : Schema) (descriptor : Json) : Option String :=
  match schema with
  | .v2 => descriptor.textAt? [.member "identification"]
  | .v3 => descriptor.textAt? [.member "id"]

def semanticId? (schema : Schema) (descriptor : Json) : Option String :=
  match schema with
  | .v2 => descriptor.textAt? [.member "semanticId", .member "value", .item 0]
  | .v3 => descriptor.textAt? [.member "semanticId", .member "keys", .item 0, .member "value"]

def protocolPath : List Step := [.member "endpoints", .item 0, .member "protocolInformation"]

def address? (schema : Schema) (descriptor : Json) : Option String :=
  match schema with
  | .v2 => descriptor.textAt? (protocolPath ++ [.member "endpointAddress"])
  | .v3 => descriptor.textAt? (protocolPath ++ [.member "href"])

def subprotocolBody? (descriptor : Json) : Option String :=
  descriptor.textAt? (protocolPath ++ [.member "subprotocolBody"])

@[simp] theorem descriptors?_toJson (shell : Shell) :
    descriptors? shell.toJson = some (shell.descriptors.map Descriptor.toJson) := by
  unfold Shell.toJson
  cases shell.schema <;> rfl

section
variable (shortName id semanticId address : String) (access : ProxiedAccess)

@[simp] theorem shortName?_direct :
    shortName? (Descriptor.direct shortName id semanticId address).toJson = some shortName := rfl

@[simp] theorem submodelId?_direct :
    submodelId? .v2 (Descriptor.direct shortName id semanticId address).toJson = some id := rfl

@[simp] theorem semanticId?_direct :
    semanticId? .v2 (Descriptor.direct shortName id semanticId address).toJson =
      some semanticId := rfl

@[simp] theorem address?_direct :
    address? .v2 (Descriptor.direct shortName id semanticId address).toJson = some address := rfl

@[simp] theorem shortName?_proxied :
    shortName? (Descriptor.proxied shortName id semanticId access).toJson = some shortName := rfl

@[simp] theorem submodelId?_proxied :
    submodelId? .v3 (Descriptor.proxied shortName id semanticId access).toJson = some id := rfl

@[simp] theorem semanticId?_proxied :
    semanticId? .v3 (Descriptor.proxied shortName id semanticId access).toJson =
      some semanticId := rfl

@[simp] theorem address?_proxied :
    address? .v3 (Descriptor.proxied shortName id semanticId access).toJson =
      some access.address := rfl

@[simp] theorem subprotocolBody?_proxied :
    subprotocolBody? (Descriptor.proxied shortName id semanticId access).toJson =
      some access.subprotocolBody := rfl

end

end Document

end Dataspace
