import Dataspace.Part.Fixture
import Dataspace.Registry
import Dataspace.Settings.Basic
import Dataspace.Text.Quoted

/-!
# Configurations

Settings that have been checked: what must be given is given, and parallel URL
lists are equally long. The first condition that fails is the one reported.
-/

namespace Dataspace

/-- How notifications are tested. Records of the faulty partner are published
at an address that cannot be reached. -/
structure NotificationTesting where
  baseUrl : String
  faultyBpn : Option String
  deriving DecidableEq, Repr

/-- Upload URLs are where calls go; the other URLs are what documents show.
Data plane URLs are present in the third schema only. -/
structure Config where
  submodelUrls : List String
  submodelUploadUrls : List String
  registryUrl : String
  registryUploadUrl : String
  connectorUrls : List String
  connectorUploadUrls : List String
  dataPlaneUrls : List String
  apiKey : String
  certificateUrl : Option String
  notifications : Option NotificationTesting
  defaultPolicy : String
  bpnFilter : List String
  schema : Schema
  allowedBpns : List String
  deriving DecidableEq, Repr

inductive UrlList
  | submodelUpload | submodel | connectorUpload | connector | dataPlane
  deriving DecidableEq, Repr

def UrlList.describe : UrlList → String
  | .submodelUpload => "submodel server upload URLs"
  | .submodel => "submodel server URLs"
  | .connectorUpload => "connector upload URLs"
  | .connector => "connector URLs"
  | .dataPlane => "data plane URLs"

inductive Invalid
  | noSubmodelServer
  | noConnector
  | noRegistry
  | noApiKey
  | noDataPlanes
  | noNotificationService
  | lengths (left : UrlList) (leftUrls : List String) (right : UrlList)
    (rightUrls : List String)
  deriving DecidableEq, Repr

def Invalid.reason : Invalid → String
  | .noSubmodelServer => "at least one submodel server URL is required"
  | .noConnector => "at least one connector URL is required"
  | .noRegistry => "registry URL is required"
  | .noApiKey => "connector API key is required"
  | .noDataPlanes => "data plane URLs have to be specified when targeting shell schema v3"
  | .noNotificationService => "notification service URL has to be specified in ess mode"
  | .lengths left leftUrls right rightUrls =>
    "number and order of " ++ left.describe ++ " " ++ Text.quotedList leftUrls ++
      " has to match number and order of " ++ right.describe ++ " " ++ Text.quotedList rightUrls

def Invalid.message (invalid : Invalid) : String := "invalid arguments: " ++ invalid.reason

namespace Config

def isFaulty (config : Config) (bpn : String) : Bool :=
  match config.notifications with
  | some testing => testing.faultyBpn == some bpn
  | none => false

def admits (config : Config) (record : Record) : Bool := record.belongsTo config.bpnFilter

end Config

namespace Settings

def required (value : Option α) (otherwise : Invalid) : Except Invalid α :=
  match value with
  | some a => .ok a
  | none => .error otherwise

def sameLength (left : UrlList) (leftUrls : List String) (right : UrlList)
    (rightUrls : List String) : Except Invalid Unit :=
  if leftUrls.length = rightUrls.length then .ok ()
  else .error (.lengths left leftUrls right rightUrls)

def schema (settings : Settings) : Schema := if settings.aas3 then .v3 else .v2

def notificationTesting (settings : Settings) : Except Invalid (Option NotificationTesting) :=
  if settings.ess then do
    let baseUrl ← required settings.essUrl .noNotificationService
    return some ⟨baseUrl, settings.faultyBpn⟩
  else .ok none

/-- Omitted upload URLs are the URLs shown. Data plane URLs are checked
whenever any are given, and kept in the third schema only. -/
def validate (settings : Settings) : Except Invalid Config := do
  if settings.submodelUrls = [] then throw .noSubmodelServer
  if settings.connectorUrls = [] then throw .noConnector
  let registryUrl ← required settings.registryUrl .noRegistry
  let apiKey ← required settings.apiKey .noApiKey
  if settings.aas3 ∧ settings.dataPlaneUrls = none then throw .noDataPlanes
  let notifications ← settings.notificationTesting
  let submodelUploadUrls := settings.submodelUploadUrls.getD settings.submodelUrls
  let connectorUploadUrls := settings.connectorUploadUrls.getD settings.connectorUrls
  let dataPlaneUrls := settings.dataPlaneUrls.getD []
  sameLength .submodelUpload submodelUploadUrls .submodel settings.submodelUrls
  sameLength .connectorUpload connectorUploadUrls .connector settings.connectorUrls
  sameLength .connector settings.connectorUrls .submodel settings.submodelUrls
  if dataPlaneUrls ≠ [] ∨ settings.aas3 then
    sameLength .dataPlane dataPlaneUrls .connector settings.connectorUrls
  return {
    submodelUrls := settings.submodelUrls
    submodelUploadUrls
    registryUrl
    registryUploadUrl := settings.registryUploadUrl.getD registryUrl
    connectorUrls := settings.connectorUrls
    connectorUploadUrls
    dataPlaneUrls := if settings.aas3 then dataPlaneUrls else []
    apiKey
    certificateUrl := settings.certificateUrl
    notifications
    defaultPolicy := settings.policy.getD defaultPolicyId
    bpnFilter := settings.bpns
    schema := settings.schema
    allowedBpns := settings.allowedBpns }

end Settings

end Dataspace
