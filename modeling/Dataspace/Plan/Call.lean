import Dataspace.Connector
import Dataspace.Json.Reader
import Dataspace.Part.Identity
import Dataspace.Registry

/-!
# Calls and notices

The seven requests that a run makes, and what comes back. A request says to
which service it goes; method, address, audience and document follow from it. What
a run tells its operator are notices, one line each.
-/

namespace Dataspace

inductive Method
  | get | post
  deriving DecidableEq, Repr

def Method.name : Method → String
  | .get => "GET"
  | .post => "POST"

/-- Calls to connectors carry the key of the management interface, all others
carry none. -/
inductive Audience
  | everyone | connector
  deriving DecidableEq, Repr

inductive Call
  | findPolicy (connector id : String)
  | createPolicy (connector : String) (policy : Json)
  | queryCatalog (connector : String) (request : CatalogRequest)
  | createAsset (connector : String) (request : AssetRequest)
  | createDefinition (connector : String) (definition : ContractDefinition)
  | storePayload (server submodelId : String) (document : Json)
  | registerShell (registry : String) (shell : Shell)

namespace Call

def method : Call → Method
  | .findPolicy .. => .get
  | _ => .post

def url : Call → String
  | .findPolicy connector id => Endpoint.policyDefinition connector id
  | .createPolicy connector _ => Endpoint.policyDefinitions connector
  | .queryCatalog connector _ => Endpoint.catalog connector
  | .createAsset connector _ => Endpoint.assets connector
  | .createDefinition connector _ => Endpoint.contractDefinitions connector
  | .storePayload server submodelId _ => Endpoint.payload server submodelId
  | .registerShell registry shell => registry ++ shell.schema.path

def audience : Call → Audience
  | .storePayload .. | .registerShell .. => .everyone
  | _ => .connector

def document? : Call → Option Json
  | .findPolicy .. => none
  | .createPolicy _ policy => some policy
  | .queryCatalog _ request => some request.toJson
  | .createAsset _ request => some request.toJson
  | .createDefinition _ definition => some definition.toJson
  | .storePayload _ _ document => some document
  | .registerShell _ shell => some shell.toJson

end Call

structure Response where
  status : Nat
  body : String
  deriving DecidableEq, Repr

namespace Response

/-- Statuses up to 205 count as success, those of redirections do not. -/
def isFailure (response : Response) : Bool := 205 < response.status

def json? (response : Response) : Option Json := Json.parse? response.body

def createdId? (response : Response) : Option String :=
  (response.json?.bind (Json.member? "@id")).bind Json.string?

def showsPolicy (response : Response) : Bool :=
  response.status == 200 && response.json?.any Json.isPresent

def listsOffers (response : Response) : Bool :=
  response.status == 200 && response.json?.any Json.hasOffers

end Response

structure Exchange where
  call : Call
  answer : Except String Response

-- ---------------------------------------------------------------------------
-- Notices
-- ---------------------------------------------------------------------------

inductive Level
  | info | warn
  deriving DecidableEq, Repr

def Level.name : Level → String
  | .info => "INFO"
  | .warn => "WARN"

inductive Resource
  | policy (id : String)
  | asset (id : String)
  | contractDefinition (assetId : String)
  | payload (submodel : String)
  | shell
  deriving DecidableEq, Repr

def Resource.describe : Resource → String
  | .policy id => "create policy " ++ id
  | .asset id => "create asset " ++ id
  | .contractDefinition assetId => "create contract definition for " ++ assetId
  | .payload submodel => "upload submodel " ++ submodel
  | .shell => "create shell"

inductive Notice
  | policyWithoutId (name : String)
  | ensuringPolicy (id connector : String)
  | policyExists (id : String)
  | policyCreated (id : String)
  | ensuringOffer (assetId connector : String)
  | offerExists (assetId : String)
  | assetCreated (id : String)
  | answered (resource : Resource) (answer : Response)
  | dataPlaneAssets (ids : List String)
  | identifierRefused (entry : Json) (part : String) (reason : AssetId.Refusal)
  | uploading (part shortName : String)
  | underPolicy (id : String)
  | storingPayload (submodel : String)
  | creatingAsset (connector : String)
  | definitionSkipped
  | creatingShell (part : String)
  | finished (records submodels shells : Nat)

namespace Notice

def level : Notice → Level
  | .policyWithoutId _ | .identifierRefused .. | .definitionSkipped => .warn
  | .answered _ answer => if answer.isFailure then .warn else .info
  | _ => .info

def answeredText (resource : Resource) (answer : Response) : String :=
  if answer.isFailure then
    resource.describe ++ " failed with status " ++ Nat.repr answer.status ++ ": " ++ answer.body
  else resource.describe ++ ": status " ++ Nat.repr answer.status

def text : Notice → String
  | .policyWithoutId name => "policy " ++ Text.quoted name ++ " has no @id; skipping"
  | .ensuringPolicy id connector =>
    "Create policy " ++ id ++ " on connector " ++ Endpoint.policyDefinitions connector
  | .policyExists id => "Policy " ++ id ++ " already exists. Skipping creation."
  | .policyCreated id => "Successfully created policy " ++ id ++ "."
  | .ensuringOffer assetId connector =>
    "Query catalog for asset " ++ assetId ++ " at " ++ Endpoint.catalog connector
  | .offerExists assetId =>
    "Offer for asset " ++ assetId ++ " already exists. Skipping creation."
  | .assetCreated id => "Successfully created asset " ++ id ++ "."
  | .answered resource answer => answeredText resource answer
  | .dataPlaneAssets ids => "Data plane asset ids: " ++ Text.quotedList ids
  | .identifierRefused entry part reason =>
    "Skipping local identifier " ++ entry.compact ++ " of " ++ part ++ ": " ++ reason.message
  | .uploading part shortName => "Uploading " ++ part ++ " (" ++ shortName ++ ")"
  | .underPolicy id => "Policy: " ++ id
  | .storingPayload submodel => "Create submodel " ++ submodel ++ " on submodel server"
  | .creatingAsset connector => "Create connector asset on " ++ Endpoint.assets connector
  | .definitionSkipped =>
    "Asset creation failed. Skipping creation of contract definition."
  | .creatingShell part => "Create shell for " ++ part
  | .finished records submodels shells =>
    "Uploaded " ++ Nat.repr records ++ " records with " ++ Nat.repr submodels ++
      " submodels and " ++ Nat.repr shells ++ " shells"

def line (notice : Notice) : String := notice.level.name ++ " " ++ notice.text

end Notice

end Dataspace
