import Dataspace.Json.Reader
import Dataspace.Settings.Basic
import Dataspace.Settings.Toml.Document
import Dataspace.Settings.Value

/-!
# Layered settings

Settings come from a file, from the environment above it, and from given
settings above both. File and environment are merged name by name, where a name
may also reach into a value, and must convert as merged; a value that loses is
never converted.

A variable of the environment counts if its name begins, in any case, with the
program's own beginning; the rest in lower case names the setting. Its text is taken
for a switch, a whole number or a real where it reads as one, and is cut at commas
for the settings that are lists.
-/

namespace Dataspace.Environment

-- ---------------------------------------------------------------------------
-- The environment
-- ---------------------------------------------------------------------------

def nameStart : String := "twin_seed_"

def listNames : List String :=
  ["submodel_urls", "submodel_upload_urls", "connector_urls", "connector_upload_urls",
    "dataplane_urls", "bpns", "allowed_bpns"]

def settingName? (name : String) : Option String :=
  let lowered := (Text.lower name).toList
  if nameStart.toList.isPrefixOf lowered then some (String.ofList (lowered.drop nameStart.length))
  else none

def bool? (text : String) : Option Bool :=
  if Text.lower text = "true" then some true
  else if Text.lower text = "false" then some false
  else none

/-- A sign, if any, and digits; leading zeros do not matter. -/
def integer? (text : String) : Option Int := do
  let n ← Numeral.read? text.toList
  let magnitude := Numeral.value n.whole
  let value : Int := if n.isNegative then -magnitude else magnitude
  if n.isWhole && n.whole ≠ [] && SettingValue.isInteger value then some value else none

def pieces (text : String) : List String := (Text.split ',' text.toList).map String.ofList

def value (name text : String) : SettingValue :=
  match bool? text, integer? text, Extended.read? text.toList with
  | some b, _, _ => .bool b
  | none, some i, _ => .integer i
  | none, none, some r => .real r
  | none, none, none =>
    if name ∈ listNames then .list ((pieces text).map .text) else .text text

def layer (assignments : List (String × String)) : Layer :=
  (Members.ofList (assignments.filterMap fun (name, text) =>
    (settingName? name).map fun setting => (setting, value setting text))).entries

end Dataspace.Environment

namespace Dataspace

-- ---------------------------------------------------------------------------
-- Layers
-- ---------------------------------------------------------------------------

inductive LoadFault
  | unreadable
  | unconvertible
  | outOfRange
  deriving DecidableEq, Repr

def LoadFault.message : LoadFault → String
  | .unreadable => "failed to read settings"
  | .unconvertible => "failed to deserialise settings"
  | .outOfRange => "an index lies outside its list"

namespace Layers

/-- All values put into one table in order, so that later ones win. There is no
such table if an index lies outside its list. -/
def merge? (values : Layer) : Option SettingValue :=
  values.foldlM (fun root (name, value) => value.put? (SettingStep.ofName name) root) (.table [])

def optionalSetting (read : SettingValue → Option α) :
    Option SettingValue → Option (Option α)
  | none | some .null => some none
  | some value => (read value).map some

def plainSetting (read : SettingValue → Option α) (default : α) :
    Option SettingValue → Option α
  | none => some default
  | some value => read value

/-- Settings from the winning values; none if one of them does not convert. -/
def settings? (find : String → Option SettingValue) : Option Settings := do
  return {
    submodelUrls := ← plainSetting SettingValue.list? [] (find "submodel_urls")
    submodelUploadUrls :=
      ← optionalSetting SettingValue.list? (find "submodel_upload_urls")
    registryUrl := ← optionalSetting SettingValue.text? (find "registry_url")
    registryUploadUrl := ← optionalSetting SettingValue.text? (find "registry_upload_url")
    connectorUrls := ← plainSetting SettingValue.list? [] (find "connector_urls")
    connectorUploadUrls :=
      ← optionalSetting SettingValue.list? (find "connector_upload_urls")
    dataPlaneUrls := ← optionalSetting SettingValue.list? (find "dataplane_urls")
    apiKey := ← optionalSetting SettingValue.text? (find "api_key")
    certificateUrl := ← optionalSetting SettingValue.text? (find "certificate_url")
    ess := ← plainSetting SettingValue.switch? false (find "ess")
    essUrl := ← optionalSetting SettingValue.text? (find "ess_url")
    faultyBpn := ← optionalSetting SettingValue.text? (find "faulty_bpn")
    policy := ← optionalSetting SettingValue.text? (find "policy")
    bpns := ← plainSetting SettingValue.list? [] (find "bpns")
    aas3 := ← plainSetting SettingValue.switch? false (find "aas3")
    allowedBpns := ← plainSetting SettingValue.list? [] (find "allowed_bpns") }

/-- The part of a file's name after its last point, unless the name has no
other point and begins with it. -/
def extension? (path : String) : Option String :=
  match (Text.split '.' ((Text.split '/' path.toList).getLast?.getD [])).reverse with
  | last :: before :: rest => if before = [] && rest = [] then none else some (String.ofList last)
  | _ => none

def jsonLayer? (text : String) : Option Layer :=
  match Json.parse? text with
  | some (.object members) =>
    some (members.map fun entry => (entry.1, SettingValue.ofJson entry.2))
  | _ => none

/-- The format of a file follows from its name. Other formats than these two are left to
other readers (`Sources.read?`). -/
def fileLayer? (path text : String) : Option Layer :=
  match extension? path with
  | some "json" => jsonLayer? text
  | some "toml" => Toml.read? text
  | _ => none

end Layers

/-- What is left open when settings are gathered: how the file at a path is found and read,
whatever its format, and the order in which the entries of a layer are met, which need not
be the one they stand in. -/
structure Sources where
  read? : String → Option Layer
  order : Layer → Layer
  perm : ∀ layer, (order layer).Perm layer

namespace Sources

variable (sources : Sources)

/-- Files in JSON and TOML whose entries are met as they stand. `text?` is what a file
holds, if it can be read. -/
def ofTexts (text? : String → Option String) : Sources where
  read? path := (text? path).bind (Layers.fileLayer? path)
  order layer := layer
  perm _ := .refl _

def file (path : Option String) : Except LoadFault Layer :=
  match path with
  | none => .ok []
  | some path => match sources.read? path with
    | some layer => .ok layer
    | none => .error .unreadable

def merged? (file : Layer) (assignments : List (String × String)) : Option SettingValue :=
  Layers.merge? (sources.order file ++ sources.order (Environment.layer assignments))

def load (given : Settings) (path : Option String) (assignments : List (String × String)) :
    Except LoadFault Settings := do
  let file ← sources.file path
  match sources.merged? file assignments with
  | none => .error .outOfRange
  | some merged => match Layers.settings? fun name => Members.find? name merged.entries with
    | some lower => .ok (given.above lower)
    | none => .error .unconvertible

end Sources

namespace Layers

def file (path : Option String) (text? : String → Option String) : Except LoadFault Layer :=
  (Sources.ofTexts text?).file path

def load (given : Settings) (path : Option String) (text? : String → Option String)
    (assignments : List (String × String)) : Except LoadFault Settings :=
  (Sources.ofTexts text?).load given path assignments

end Layers

end Dataspace
