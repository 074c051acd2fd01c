import Dataspace.Json.Basic

/-!
# Settings

What a run is told before anything is checked: lists of parallel URLs, and the
values that may be absent.
-/

namespace Dataspace

structure Settings where
  submodelUrls : List String := []
  submodelUploadUrls : Option (List String) := none
  registryUrl : Option String := none
  registryUploadUrl : Option String := none
  connectorUrls : List String := []
  connectorUploadUrls : Option (List String) := none
  dataPlaneUrls : Option (List String) := none
  apiKey : Option String := none
  certificateUrl : Option String := none
  ess : Bool := false
  essUrl : Option String := none
  faultyBpn : Option String := none
  policy : Option String := none
  bpns : List String := []
  aas3 : Bool := false
  allowedBpns : List String := []
  deriving DecidableEq, Repr

namespace Settings

/-- A field that is absent or null has no value; any other value must be of
the field's type. -/
def optionalField (json : Json) (name : String) (read : Json → Option α) :
    Option (Option α) :=
  match json.member? name with
  | none | some .null => some none
  | some value => (read value).map some

/-- A field that is absent takes its default; null is no value of it. -/
def plainField (json : Json) (name : String) (read : Json → Option α) (default : α) :
    Option α :=
  match json.member? name with
  | none => some default
  | some value => read value

/-- Settings as an object; members of other names are passed over. -/
def ofObject? (json : Json) : Option Settings := do
  return {
    submodelUrls := ← plainField json "submodel_urls" Json.strings? []
    submodelUploadUrls := ← optionalField json "submodel_upload_urls" Json.strings?
    registryUrl := ← optionalField json "registry_url" Json.string?
    registryUploadUrl := ← optionalField json "registry_upload_url" Json.string?
    connectorUrls := ← plainField json "connector_urls" Json.strings? []
    connectorUploadUrls := ← optionalField json "connector_upload_urls" Json.strings?
    dataPlaneUrls := ← optionalField json "dataplane_urls" Json.strings?
    apiKey := ← optionalField json "api_key" Json.string?
    certificateUrl := ← optionalField json "certificate_url" Json.string?
    ess := ← plainField json "ess" Json.bool? false
    essUrl := ← optionalField json "ess_url" Json.string?
    faultyBpn := ← optionalField json "faulty_bpn" Json.string?
    policy := ← optionalField json "policy" Json.string?
    bpns := ← plainField json "bpns" Json.strings? []
    aas3 := ← plainField json "aas3" Json.bool? false
    allowedBpns := ← plainField json "allowed_bpns" Json.strings? [] }

def toJson (settings : Settings) : Json :=
  .object [
    ("submodel_urls", .ofStrings settings.submodelUrls),
    ("submodel_upload_urls", .ofOption .ofStrings settings.submodelUploadUrls),
    ("registry_url", .ofOption .string settings.registryUrl),
    ("registry_upload_url", .ofOption .string settings.registryUploadUrl),
    ("connector_urls", .ofStrings settings.connectorUrls),
    ("connector_upload_urls", .ofOption .ofStrings settings.connectorUploadUrls),
    ("dataplane_urls", .ofOption .ofStrings settings.dataPlaneUrls),
    ("api_key", .ofOption .string settings.apiKey),
    ("certificate_url", .ofOption .string settings.certificateUrl),
    ("ess", .bool settings.ess),
    ("ess_url", .ofOption .string settings.essUrl),
    ("faulty_bpn", .ofOption .string settings.faultyBpn),
    ("policy", .ofOption .string settings.policy),
    ("bpns", .ofStrings settings.bpns),
    ("aas3", .bool settings.aas3),
    ("allowed_bpns", .ofStrings settings.allowedBpns)]

def names : List String :=
  ["submodel_urls", "submodel_upload_urls", "registry_url", "registry_upload_url",
    "connector_urls", "connector_upload_urls", "dataplane_urls", "api_key", "certificate_url",
    "ess", "ess_url", "faulty_bpn", "policy", "bpns", "aas3", "allowed_bpns"]

/-- Settings as an object, or as an array of the first fields in order. -/
def ofJson? (json : Json) : Option Settings :=
  match json with
  | .object members => ofObject? (.object members)
  | .array items =>
    if items.length ≤ names.length then ofObject? (.object (names.zip items)) else none
  | _ => none

/-- What stands above wins: lists that are not empty, values that are present,
and switches that are on. -/
def above (upper lower : Settings) : Settings where
  submodelUrls := if upper.submodelUrls = [] then lower.submodelUrls else upper.submodelUrls
  submodelUploadUrls := upper.submodelUploadUrls <|> lower.submodelUploadUrls
  registryUrl := upper.registryUrl <|> lower.registryUrl
  registryUploadUrl := upper.registryUploadUrl <|> lower.registryUploadUrl
  connectorUrls := if upper.connectorUrls = [] then lower.connectorUrls else upper.connectorUrls
  connectorUploadUrls := upper.connectorUploadUrls <|> lower.connectorUploadUrls
  dataPlaneUrls := upper.dataPlaneUrls <|> lower.dataPlaneUrls
  apiKey := upper.apiKey <|> lower.apiKey
  certificateUrl := upper.certificateUrl <|> lower.certificateUrl
  ess := upper.ess || lower.ess
  essUrl := upper.essUrl <|> lower.essUrl
  faultyBpn := upper.faultyBpn <|> lower.faultyBpn
  policy := upper.policy <|> lower.policy
  bpns := if upper.bpns = [] then lower.bpns else upper.bpns
  aas3 := upper.aas3 || lower.aas3
  allowedBpns := if upper.allowedBpns = [] then lower.allowedBpns else upper.allowedBpns

end Settings

end Dataspace
