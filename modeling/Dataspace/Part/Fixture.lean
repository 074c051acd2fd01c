import Dataspace.Json.Basic
import Dataspace.Json.Printer
import Dataspace.Json.Reader
import Dataspace.Text.Basic
import Dataspace.Text.Quoted

/-!
# Fixtures

A part record has an identifier, the business partner it belongs to, the policy it
asks for, and its submodels in the order of the file. That order decides names and
the slots that submodels take. The key of a submodel says by the words it contains
whether its entry is administrative, and whether it describes the part itself; what
follows its first `#` names the submodel.

A fixture holds part records in order and the policies that they and the
built-in offers use. The built-in default policy comes first; a fixture may
replace it under its name.
-/

namespace Dataspace

-- ---------------------------------------------------------------------------
-- Keys
-- ---------------------------------------------------------------------------

inductive KeyRole
  | administrative | submodel
  deriving DecidableEq, Repr

/-- The two ways in which a submodel describes a part: as it was built, or as
it was planned. -/
inductive PartAspect
  | batchOrSerial | asPlanned
  deriving DecidableEq, Repr

namespace Key

def administrativeWords : List String :=
  ["PlainObject", "catenaXId", "bpn", "policy", "urn:bamm:io.catenax.aas:1.0.0#AAS"]

def role (key : String) : KeyRole :=
  if administrativeWords.any (Text.contains key) then .administrative else .submodel

def isEligible (key : String) : Bool := role key == .submodel

/-- A key with the words of both aspects counts as built. -/
def aspect? (key : String) : Option PartAspect :=
  if Text.contains key "Batch" || Text.contains key "SerialPart" then some .batchOrSerial
  else if Text.contains key "PartAsPlanned" then some .asPlanned
  else none

def submodelName (key : String) : String :=
  match Text.after? '#' key.toList with
  | some name => String.ofList name
  | none => key

def bomAsBuilt : String :=
  "urn:bamm:io.catenax.single_level_bom_as_built:1.0.0#SingleLevelBomAsBuilt"

def certificate : String :=
  "urn:bamm:io.catenax.esr_certificates.esr_certificate_state_statistic:1.0.1#" ++
    "EsrCertificateStateStatistic"

def certificateName : String := "EsrCertificateStateStatistic"

end Key

-- ---------------------------------------------------------------------------
-- Records
-- ---------------------------------------------------------------------------

structure Record where
  part : String
  bpn : String
  policy : Option String
  submodels : Members Json

namespace Record

def partName : String := "catenaXId"
def bpnName : String := "bpnl"
def policyName : String := "policy"

def isSubmodelName (name : String) : Bool :=
  name ≠ partName && name ≠ bpnName && name ≠ policyName

def policy? (json : Json) : Option (Option String) :=
  match json.member? policyName with
  | none | some .null => some none
  | some (.string policy) => some (some policy)
  | some _ => none

/-- Everything but the three members of its own is a submodel, whatever its
value. -/
def ofJson? (json : Json) : Option Record :=
  match json with
  | .object members => do
    let part ← (json.member? partName).bind Json.string?
    let bpn ← (json.member? bpnName).bind Json.string?
    let policy ← policy? json
    return ⟨part, bpn, policy, (Members.ofList members).filterNames isSubmodelName⟩
  | _ => none

def belongsTo (record : Record) (partners : List String) : Bool :=
  partners.isEmpty || partners.contains record.bpn

def eligible (record : Record) : List (String × Json) :=
  record.submodels.entries.filter fun entry => Key.isEligible entry.1

def hasChildItems (record : Record) : Bool :=
  match (((record.submodels.get? Key.bomAsBuilt).bind Json.firstDocument?).bind
      (Json.member? "childItems")).bind Json.array? with
  | some (_ :: _) => true
  | _ => false

/-- A part with children is certified: its certificate entry becomes the empty
string, which carries no document. -/
def injectCertificate (record : Record) : Record :=
  if record.hasChildItems then
    { record with submodels := record.submodels.insert Key.certificate (.string "") }
  else record

end Record

-- ---------------------------------------------------------------------------
-- Fixtures
-- ---------------------------------------------------------------------------

structure Fixture where
  records : List Record
  policies : Members Json

def defaultPolicyId : String := "default-policy"

def defaultPolicies : Members Json :=
  Members.empty.insert "default" (.object [
    ("@context", .object [("odrl", .string "http://www.w3.org/ns/odrl/2/")]),
    ("@type", .string "PolicyDefinitionRequestDto"),
    ("@id", .string defaultPolicyId),
    ("policy", .object [
      ("@type", .string "Policy"),
      ("odrl:permission", .array [])])])

namespace Fixture

inductive Fault
  | unreadable
  | json (reason : Json.ReadError)
  | noContainer
  | policiesNotObject (found : Json)

def containerName : String := "https://catenax.io/schema/TestDataContainer/1.0.0"

def Fault.message? : Fault → Option String
  | .noContainer =>
    some ("malformed fixture: missing top-level key " ++ Text.quoted containerName)
  | .policiesNotObject found =>
    some ("malformed fixture: `policies` must be an object, got " ++ found.compact)
  | .unreadable | .json _ => none

def records? (container : Json) : Option (List Record) :=
  container.array?.bind fun items => items.mapM Record.ofJson?

def effectivePolicies (found : Option Json) : Except Fault (Members Json) :=
  match found with
  | none | some .null => .ok defaultPolicies
  | some (.object members) => .ok (defaultPolicies.merge (Members.ofList members))
  | some other => .error (.policiesNotObject other)

/-- The container is looked for first, then its records are read, then the
policies. -/
def ofMembers (members : List (String × Json)) : Except Fault Fixture :=
  match Members.find? containerName members with
  | none => .error .noContainer
  | some container => match records? container with
    | none => .error (.json .shape)
    | some records => do
      let policies ← effectivePolicies (Members.find? "policies" members)
      return ⟨records, policies⟩

def ofText (text : String) : Except Fault Fixture :=
  match Json.parseMembers text with
  | .ok members => ofMembers members
  | .error reason => .error (.json reason)

/-- The bytes of a file, which may be missing. Bytes that are not UTF-8 are no
JSON. -/
def ofBytes (bytes : Option ByteArray) : Except Fault Fixture :=
  match bytes with
  | none => .error .unreadable
  | some bytes => match String.fromUTF8? bytes with
    | some text => ofText text
    | none => .error (.json .malformed)

end Fixture

def Record.ofText (text : String) : Except Json.ReadError Record :=
  match Json.parseMembers text with
  | .error reason => .error reason
  | .ok members => match Record.ofJson? (.object members) with
    | some record => .ok record
    | none => .error .shape

end Dataspace
