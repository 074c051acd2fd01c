import Dataspace.Json.Basic
import Dataspace.Part.Identity

/-!
# The registry

The registry's document for one part, a shell, and the descriptors of its
submodels. External references name values by global keys. Look-up keys of a part
are registered either plain or, with a reference, visible only to some partners. In
the second generation of the registry a descriptor points at the connector; in the
third it points at a data plane and says how to negotiate access there.
-/

namespace Dataspace

-- ---------------------------------------------------------------------------
-- References
-- ---------------------------------------------------------------------------

structure Reference where
  values : List String
  deriving DecidableEq, Repr

def Reference.toJson (reference : Reference) : Json :=
  .object [
    ("type", .string "ExternalReference"),
    ("keys", .array (reference.values.map fun value => .object [
      ("type", .string "GlobalReference"),
      ("value", .string value)]))]

inductive RegisteredId
  | plain (id : AssetId)
  | scoped (id : AssetId) (subject : Reference)
  deriving DecidableEq, Repr

namespace RegisteredId

/-- Readable by all in part, and in full by the partners listed. -/
def visibility (partners : List String) : Reference := ⟨"PUBLIC_READABLE" :: partners⟩

def plainAll (ids : List AssetId) : List RegisteredId := ids.map .plain

def scopedAll (ids : List AssetId) (partners : List String) : List RegisteredId :=
  ids.map fun id => .scoped id (visibility partners)

def toJson : RegisteredId → Json
  | .plain id => .object [("key", .string id.key), ("value", .string id.value)]
  | .scoped id subject => .object [
      ("name", .string id.key),
      ("value", .string id.value),
      ("externalSubjectId", subject.toJson)]

end RegisteredId

-- ---------------------------------------------------------------------------
-- Shells
-- ---------------------------------------------------------------------------

inductive Schema
  | v2 | v3
  deriving DecidableEq, Repr

def Schema.path : Schema → String
  | .v2 => "/registry/shell-descriptors"
  | .v3 => "/shell-descriptors"

/-- Access through a data plane, once the asset has been negotiated with the
connector. -/
structure ProxiedAccess where
  address : String
  assetId : String
  connector : String
  deriving DecidableEq, Repr

/-- Where a submodel is fetched: straight at addresses of the connector, or
through data planes. -/
inductive Endpoints
  | direct (addresses : List String)
  | proxied (accesses : List ProxiedAccess)
  deriving DecidableEq, Repr

namespace Endpoints

def addresses : Endpoints → List String
  | .direct addresses => addresses
  | .proxied accesses => accesses.map ProxiedAccess.address

end Endpoints

structure Descriptor where
  shortName : String
  id : String
  semanticId : String
  endpoints : Endpoints
  deriving DecidableEq, Repr

namespace Descriptor

def direct (shortName id semanticId address : String) : Descriptor :=
  ⟨shortName, id, semanticId, .direct [address]⟩

def proxied (shortName id semanticId : String) (access : ProxiedAccess) : Descriptor :=
  ⟨shortName, id, semanticId, .proxied [access]⟩

def address? (descriptor : Descriptor) : Option String :=
  descriptor.endpoints.addresses.head?

end Descriptor

structure Shell where
  schema : Schema
  part : String
  shortName : String
  id : String
  assetIds : List RegisteredId
  descriptors : List Descriptor
  deriving DecidableEq, Repr

def directJson (address : String) : Json :=
  .object [
    ("interface", .string "HTTP"),
    ("protocolInformation", .object [
      ("endpointAddress", .string address),
      ("endpointProtocol", .string "AAS/IDS"),
      ("endpointProtocolVersion", .string "0.1"),
      ("subprotocol", .string "IDS"),
      ("subprotocolBody", .string "TDB"),
      ("subprotocolBodyEncoding", .string "plain")])]

def ProxiedAccess.subprotocolBody (access : ProxiedAccess) : String :=
  "id=" ++ access.assetId ++ ";dspEndpoint=" ++ access.connector

def ProxiedAccess.toJson (access : ProxiedAccess) : Json :=
  .object [
    ("interface", .string "SUBMODEL-3.0"),
    ("protocolInformation", .object [
      ("href", .string access.address),
      ("endpointProtocol", .string "HTTP"),
      ("endpointProtocolVersion", .array [.string "1.1"]),
      ("subprotocol", .string "DSP"),
      ("subprotocolBody", .string access.subprotocolBody),
      ("subprotocolBodyEncoding", .string "plain"),
      ("securityAttributes", .array [.object [
        ("type", .string "NONE"),
        ("key", .string "NONE"),
        ("value", .string "NONE")]])])]

def valueList (value : String) : Json := .object [("value", .array [.string value])]

def Descriptor.toJson (descriptor : Descriptor) : Json :=
  match descriptor.endpoints with
  | .direct addresses => .object [
      ("description", .array []),
      ("idShort", .string descriptor.shortName),
      ("identification", .string descriptor.id),
      ("semanticId", valueList descriptor.semanticId),
      ("endpoints", .array (addresses.map directJson))]
  | .proxied accesses => .object [
      ("description", .array []),
      ("idShort", .string descriptor.shortName),
      ("id", .string descriptor.id),
      ("semanticId", (Reference.mk [descriptor.semanticId]).toJson),
      ("endpoints", .array (accesses.map ProxiedAccess.toJson))]

def Shell.toJson (shell : Shell) : Json :=
  let assetIds := Json.array (shell.assetIds.map RegisteredId.toJson)
  let descriptors := Json.array (shell.descriptors.map Descriptor.toJson)
  match shell.schema with
  | .v2 => .object [
      ("description", .array []),
      ("globalAssetId", valueList shell.part),
      ("idShort", .string shell.shortName),
      ("identification", .string shell.id),
      ("specificAssetIds", assetIds),
      ("submodelDescriptors", descriptors)]
  | .v3 => .object [
      ("description", .array []),
      ("globalAssetId", .string shell.part),
      ("idShort", .string shell.shortName),
      ("id", .string shell.id),
      ("specificAssetIds", assetIds),
      ("submodelDescriptors", descriptors)]

end Dataspace
