import Dataspace.Json.Printer
import Dataspace.Part.Fixture
import Dataspace.Text.Quoted

/-!
# Part identity

The name and the look-up keys of a part, gathered in one walk over the
submodels that describe it. An identifier that cannot be read drops only
itself; why it was dropped is kept for the run's notices.
-/

namespace Dataspace

structure AssetId where
  key : String
  value : String
  deriving DecidableEq, Repr

namespace AssetId

inductive Refusal
  | missing (field : String)
  | notString (found : Json)
  | notIdentifier (found : Json)
  | tooShort (length : Nat)
  | tooLong (length : Nat)

def describe : Json → String
  | .null => "null"
  | .bool true => "boolean `true`"
  | .bool false => "boolean `false`"
  | .number (.integer value) => "integer `" ++ (Json.Number.integer value).compact ++ "`"
  | .number (.real value) => "floating point `" ++ (Json.Number.real value).compact ++ "`"
  | .string value => "string " ++ Text.quoted value
  | .array _ => "sequence"
  | .object _ => "map"

def Refusal.message : Refusal → String
  | .missing field => "missing field `" ++ field ++ "`"
  | .notString found => "invalid type: " ++ describe found ++ ", expected a string"
  | .notIdentifier found =>
    "invalid type: " ++ describe found ++ ", expected struct SpecificAssetId"
  | .tooShort length =>
    "invalid length " ++ Nat.repr length ++ ", expected struct SpecificAssetId with 2 elements"
  | .tooLong length =>
    "invalid length " ++ Nat.repr length ++ ", expected fewer elements in array"

def text (found : Json) : Except Refusal String :=
  match found.string? with
  | some value => .ok value
  | none => .error (.notString found)

/-- Members in order; the first that is not a string is the one refused. -/
def ofMembers (key value : Option String) : List (String × Json) → Except Refusal AssetId
  | [] => match key, value with
    | some key, some value => .ok ⟨key, value⟩
    | none, _ => .error (.missing "key")
    | some _, none => .error (.missing "value")
  | (name, found) :: rest =>
    if name = "key" then do ofMembers (some (← text found)) value rest
    else if name = "value" then do ofMembers key (some (← text found)) rest
    else ofMembers key value rest

def ofJson : Json → Except Refusal AssetId
  | .object members => ofMembers none none members
  | .array [] => .error (.tooShort 0)
  | .array [key] => do
    let _ ← text key
    .error (.tooShort 1)
  | .array (key :: value :: rest) => do
    let key ← text key
    let value ← text value
    if rest.isEmpty then .ok ⟨key, value⟩ else .error (.tooLong (2 + rest.length))
  | found => .error (.notIdentifier found)

end AssetId

/-- The name is absent until a description gives one. -/
structure Identity where
  name : Option String
  ids : List AssetId
  refused : List (Json × AssetId.Refusal)

namespace Identity

def start : Identity := ⟨none, [], []⟩

def partType? (document : Json) : Option Json := document.member? "partTypeInformation"

def typeText? (field : String) (document : Json) : Option String :=
  ((partType? document).bind (Json.member? field)).bind Json.string?

def localIdentifiers (document : Json) : List Json :=
  ((document.member? "localIdentifiers").bind Json.array?).getD []

def withoutSpaces (name : String) : String :=
  String.ofList (name.toList.filter fun c => c ≠ ' ')

def offerName (identity : Identity) (document : Json) : Identity :=
  match identity.name, typeText? "nameAtManufacturer" document with
  | none, some name => { identity with name := some (withoutSpaces name) }
  | _, _ => identity

def addLocal (identity : Identity) (entry : Json) : Identity :=
  match AssetId.ofJson entry with
  | .ok id => { identity with ids := identity.ids ++ [id] }
  | .error reason => { identity with refused := identity.refused ++ [(entry, reason)] }

def addPartNumber (identity : Identity) (document : Json) : Identity :=
  match typeText? "manufacturerPartId" document with
  | some value => { identity with ids := identity.ids ++ [⟨"manufacturerPartId", value⟩] }
  | none => identity

def learn (identity : Identity) (entry : String × Json) : Identity :=
  match Key.aspect? entry.1, entry.2.firstDocument? with
  | some .batchOrSerial, some document =>
    (localIdentifiers document).foldl addLocal (identity.offerName document)
  | some .asPlanned, some document => (identity.offerName document).addPartNumber document
  | _, _ => identity

def addOwner (identity : Identity) (bpn : String) : Identity :=
  if identity.ids.contains ⟨"manufacturerId", bpn⟩ then identity
  else { identity with ids := identity.ids ++ [⟨"manufacturerId", bpn⟩] }

def ofRecord (record : Record) : Identity :=
  (record.submodels.entries.foldl learn start).addOwner record.bpn

def shortName (identity : Identity) : String := identity.name.getD ""

end Identity

end Dataspace
