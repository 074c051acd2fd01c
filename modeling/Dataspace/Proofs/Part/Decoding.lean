import Dataspace.Part.Fixture
import Dataspace.Proofs.Document
import Dataspace.Proofs.Json.Settled
import Mathlib.Data.List.Forall2

/-!
# Decoding fixtures

`Fixture.Decodes` says which fixture a value stands for, and what is reported of a
value that stands for none, without saying where its members are looked for. It has
exactly one answer for each value that can be read, and that is the one given
(`Fixture.ofBytes_decodes`).
-/

namespace Dataspace

-- ---------------------------------------------------------------------------
-- What a file says
-- ---------------------------------------------------------------------------

namespace Record

def PolicyIn (members : List (String × Json)) : Option String → Prop
  | some policy => ("policy", .string policy) ∈ members
  | none => ∀ value, ("policy", value) ∈ members → value = .null

def IsListed (item : Json) : Prop :=
  ∃ members, item = .object members ∧ (∃ part, ("catenaXId", .string part) ∈ members) ∧
    (∃ bpn, ("bpnl", .string bpn) ∈ members) ∧ ∃ policy, PolicyIn members policy

/-- The record that an item stands for: all members but three are submodels, in
their order. -/
inductive Denoted : Json → Record → Prop
  | mk (part : ("catenaXId", .string record.part) ∈ members)
      (bpn : ("bpnl", .string record.bpn) ∈ members) (policy : PolicyIn members record.policy)
      (submodels : record.submodels.entries =
        members.filter fun member => member.1 ∉ ["catenaXId", "bpnl", "policy"]) :
      Denoted (.object members) record

end Record

namespace Fixture

def IsContainer (container : Json) : Prop :=
  ∃ items, container = .array items ∧ ∀ item ∈ items, Record.IsListed item

inductive Lists (members : List (String × Json)) : List (String × Json) → Prop
  | absent (h : "policies" ∉ members.map Prod.fst) : Lists members []
  | null (h : ("policies", .null) ∈ members) : Lists members []
  | object (h : ("policies", .object given) ∈ members) : Lists members given

def builtIn : Json := (defaultPolicies.entries.head (List.cons_ne_nil _ _)).2

def overlaid (given : List (String × Json)) : List (String × Json) :=
  ("default", (Members.find? "default" given).getD builtIn) ::
    given.filter fun policy => policy.1 ≠ "default"

/-- What a value stands for as a fixture, or the first thing that is wrong with it. -/
inductive Decodes : Json → Except Fault Fixture → Prop
  | other (h : ∀ members, root ≠ .object members) : Decodes root (.error (.json .shape))
  | noContainer (absent : containerName ∉ members.map Prod.fst) :
      Decodes (.object members) (.error .noContainer)
  | noRecords (found : (containerName, container) ∈ members) (bad : ¬IsContainer container) :
      Decodes (.object members) (.error (.json .shape))
  | noPolicies (found : (containerName, container) ∈ members) (good : IsContainer container)
      (policies : ("policies", value) ∈ members) (given : value ≠ .null)
      (bad : ∀ policies, value ≠ .object policies) :
      Decodes (.object members) (.error (.policiesNotObject value))
  | fixture (found : (containerName, .array items) ∈ members)
      (records : List.Forall₂ Record.Denoted items fixture.records)
      (lists : Lists members given) (policies : fixture.policies.entries = overlaid given) :
      Decodes (.object members) (.ok fixture)

end Fixture

-- ---------------------------------------------------------------------------
-- Records
-- ---------------------------------------------------------------------------

namespace Json

variable {members : List (String × Json)} {name : String} {value : Json}

theorem Settled.nodup (h : (Json.object members).Settled) : (members.map Prod.fst).Nodup := by
  cases h with
  | scalar h => exact h.elim
  | object nodup => exact nodup

theorem Settled.of_mem (h : (Json.object members).Settled) (hm : (name, value) ∈ members) :
    value.Settled := by
  cases h with
  | scalar h => exact h.elim
  | object _ values => exact values _ hm

theorem Settled.of_mem_array (h : (Json.array items).Settled) : ∀ item ∈ items, item.Settled := by
  cases h with
  | scalar h => exact h.elim
  | array items => exact items

theorem Settled.find?_eq_some (h : (Json.object members).Settled) :
    Members.find? name members = some value ↔ (name, value) ∈ members :=
  Members.find?_eq_some h.nodup

theorem Settled.string?_eq_some (h : (Json.object members).Settled) :
    ((Json.object members).member? name).bind string? = some text ↔
      (name, .string text) ∈ members := by
  rw [← h.find?_eq_some, member?_object, Option.bind_eq_some_iff]
  constructor
  · rintro ⟨value, found, read⟩
    cases value with
    | string text =>
      cases read
      exact found
    | _ => cases read
  · exact fun found => ⟨_, found, rfl⟩

end Json

namespace Record

variable {members : List (String × Json)}

theorem policy?_eq_some {policy : Option String} (settled : (Json.object members).Settled) :
    policy? (.object members) = some policy ↔ PolicyIn members policy := by
  rw [policy?, Json.member?_object]
  cases policy with
  | some policy =>
    change _ ↔ ("policy", Json.string policy) ∈ members
    rw [← settled.find?_eq_some]
    cases found : Members.find? "policy" members with
    | none => simp [policyName, found]
    | some value => cases value <;> simp [policyName, found]
  | none =>
    change _ ↔ ∀ value, ("policy", value) ∈ members → value = .null
    simp only [← settled.find?_eq_some]
    cases found : Members.find? "policy" members with
    | none => simp [policyName, found]
    | some value => cases value <;> simp [policyName, found]

theorem entries_submodels (settled : (Json.object members).Settled) :
    ((Members.ofList members).filterNames isSubmodelName).entries =
      members.filter fun member => member.1 ∉ ["catenaXId", "bpnl", "policy"] := by
  change (Members.ofList members).entries.filter (fun entry => isSubmodelName entry.1) = _
  rw [Members.entries_ofList settled.nodup]
  refine List.filter_congr fun member _ => ?_
  rw [Bool.eq_iff_iff]
  simp only [isSubmodelName, Bool.and_eq_true, decide_eq_true_eq, and_assoc]
  simp [partName, bpnName, policyName]

theorem ofJson?_eq_some_iff {item : Json} {record : Record} (settled : item.Settled) :
    ofJson? item = some record ↔ Denoted item record := by
  cases item with
  | object members =>
    simp only [ofJson?, Option.bind_eq_bind, Option.bind_eq_some_iff,
      settled.string?_eq_some, policy?_eq_some settled]
    constructor
    · rintro ⟨part, hpart, bpn, hbpn, policy, hpolicy, same⟩
      cases same
      exact .mk hpart hbpn hpolicy (entries_submodels settled)
    · rintro ⟨hpart, hbpn, hpolicy, submodels⟩
      obtain ⟨part, bpn, policy, _⟩ := record
      have same := Members.ext ((entries_submodels settled).trans submodels.symm)
      exact ⟨part, hpart, bpn, hbpn, policy, hpolicy, by rw [same]; rfl⟩
  | _ => exact iff_of_false nofun nofun

theorem isListed_iff {item : Json} (settled : item.Settled) :
    IsListed item ↔ ∃ record, Denoted item record := by
  constructor
  · rintro ⟨members, rfl, ⟨part, hpart⟩, ⟨bpn, hbpn⟩, policy, hpolicy⟩
    let record : Record :=
      ⟨part, bpn, policy, (Members.ofList members).filterNames isSubmodelName⟩
    exact ⟨record, .mk hpart hbpn hpolicy (entries_submodels settled)⟩
  · rintro ⟨record, hpart, hbpn, hpolicy, -⟩
    exact ⟨_, rfl, ⟨_, hpart⟩, ⟨_, hbpn⟩, _, hpolicy⟩

end Record

-- ---------------------------------------------------------------------------
-- Containers
-- ---------------------------------------------------------------------------

theorem Record.mapM_eq_some {items : List Json} {records : List Record}
    (settled : ∀ item ∈ items, item.Settled) :
    items.mapM ofJson? = some records ↔ List.Forall₂ Denoted items records := by
  induction items generalizing records with
  | nil => cases records <;> simp
  | cons item items ih =>
    obtain ⟨first, others⟩ := List.forall_mem_cons.mp settled
    simp only [List.mapM_cons, Option.bind_eq_bind, Option.bind_eq_some_iff,
      ofJson?_eq_some_iff first, ih others]
    constructor
    · rintro ⟨record, denoted, rest, all, same⟩
      cases same
      exact .cons denoted all
    · rintro (_ | ⟨denoted, all⟩)
      exact ⟨_, denoted, _, all, rfl⟩

theorem exists_forall₂_iff {rel : α → β → Prop} {items : List α} :
    (∃ values, List.Forall₂ rel items values) ↔ ∀ item ∈ items, ∃ value, rel item value := by
  induction items with
  | nil => simp
  | cons item items ih =>
    rw [List.forall_mem_cons, ← ih]
    constructor
    · rintro ⟨_, _ | ⟨first, rest⟩⟩
      exact ⟨⟨_, first⟩, _, rest⟩
    · rintro ⟨⟨_, first⟩, _, rest⟩
      exact ⟨_, .cons first rest⟩

namespace Fixture

theorem records?_eq_some {container : Json} {records : List Record} (settled : container.Settled) :
    records? container = some records ↔
      ∃ items, container = .array items ∧ List.Forall₂ Record.Denoted items records := by
  cases container with
  | array items =>
    rw [records?, Json.array?, Option.bind_some, Record.mapM_eq_some settled.of_mem_array]
    exact ⟨fun all => ⟨items, rfl, all⟩, fun ⟨_, same, all⟩ => Json.array.inj same ▸ all⟩
  | _ => exact iff_of_false nofun fun ⟨_, same, _⟩ => nomatch same

theorem isContainer_iff {container : Json} (settled : container.Settled) :
    IsContainer container ↔ ∃ records, records? container = some records := by
  simp only [records?_eq_some settled]
  rw [exists_comm]
  refine exists_congr fun items => ?_
  rw [exists_and_left, exists_forall₂_iff]
  refine and_congr_right fun same => forall₂_congr fun item hm => ?_
  subst same
  exact Record.isListed_iff (settled.of_mem_array item hm)

-- ---------------------------------------------------------------------------
-- Policies
-- ---------------------------------------------------------------------------

theorem entries_merge {given : List (String × Json)} (nodup : (given.map Prod.fst).Nodup) :
    (defaultPolicies.merge (Members.ofList given)).entries = overlaid given := by
  rw [Members.merge, Members.entries_ofList nodup]
  have held : defaultPolicies.entries = ("default", builtIn) :: [] := rfl
  exact Members.entries_foldl_overlay nodup held (List.forall_mem_nil _)

section
variable {members given : List (String × Json)} (settled : (Json.object members).Settled)
include settled

theorem Lists.nodup (h : Lists members given) : (given.map Prod.fst).Nodup := by
  cases h with
  | absent | null => exact .nil
  | object h => exact (settled.of_mem h).nodup

theorem Lists.effectivePolicies_eq (h : Lists members given) :
    effectivePolicies (Members.find? "policies" members) =
      .ok (defaultPolicies.merge (Members.ofList given)) := by
  cases h with
  | absent h => rw [Members.find?_eq_none.mpr h]; rfl
  | null h => rw [settled.find?_eq_some.mpr h]; rfl
  | object h => rw [settled.find?_eq_some.mpr h]; rfl

end

theorem effectivePolicies_eq_error (given : value ≠ .null)
    (bad : ∀ policies, value ≠ .object policies) :
    effectivePolicies (some value) = .error (.policiesNotObject value) := by
  cases value with
  | null => exact absurd rfl given
  | object policies => exact absurd rfl (bad policies)
  | _ => rfl

theorem lists_or (members : List (String × Json)) :
    (∃ given, Lists members given) ∨
      ∃ value, ("policies", value) ∈ members ∧ value ≠ .null ∧
        ∀ policies, value ≠ .object policies := by
  by_cases absent : "policies" ∈ members.map Prod.fst
  · obtain ⟨⟨name, value⟩, hm, rfl⟩ := List.mem_map.mp absent
    cases value with
    | null => exact .inl ⟨[], .null hm⟩
    | object given => exact .inl ⟨given, .object hm⟩
    | _ => exact .inr ⟨_, hm, nofun, nofun⟩
  · exact .inl ⟨[], .absent absent⟩

-- ---------------------------------------------------------------------------
-- Fixtures
-- ---------------------------------------------------------------------------

def ofJson : Json → Except Fault Fixture
  | .object members => ofMembers members
  | _ => .error (.json .shape)

theorem ofBytes_eq_ofJson (utf8 : String.fromUTF8? bytes = some text)
    (read : Json.parse? text = some root) : ofBytes (some bytes) = ofJson root := by
  simp only [ofBytes, utf8, ofText]
  by_cases object : ∃ members, root = .object members
  · obtain ⟨members, rfl⟩ := object
    rw [Json.parseMembers_object read]
    rfl
  · have other : ∀ members, root ≠ .object members := not_exists.mp object
    rw [Json.parseMembers_shape read other]
    cases root with
    | object members => exact absurd rfl (other members)
    | _ => rfl

theorem Decodes.ofJson_eq (settled : root.Settled) (h : Decodes root result) :
    ofJson root = result := by
  cases h with
  | other h =>
    cases root with
    | object members => exact absurd rfl (h members)
    | _ => rfl
  | noContainer absent =>
    rw [ofJson, ofMembers, Members.find?_eq_none.mpr absent]
  | noRecords found bad =>
    have unread : records? _ = none := Option.eq_none_iff_forall_ne_some.mpr fun records read =>
      bad ((isContainer_iff (settled.of_mem found)).mpr ⟨records, read⟩)
    simp only [ofJson, ofMembers, settled.find?_eq_some.mpr found, unread]
  | noPolicies found good policies given bad =>
    obtain ⟨records, read⟩ := (isContainer_iff (settled.of_mem found)).mp good
    simp only [ofJson, ofMembers, settled.find?_eq_some.mpr found, read,
      settled.find?_eq_some.mpr policies, effectivePolicies_eq_error given bad]
    rfl
  | fixture found records lists policies =>
    have read := (records?_eq_some (settled.of_mem found)).mpr ⟨_, rfl, records⟩
    have effective := lists.effectivePolicies_eq settled
    have same := Members.ext ((entries_merge (lists.nodup settled)).trans policies.symm)
    simp only [ofJson, ofMembers, settled.find?_eq_some.mpr found, read, effective, same]
    rfl

theorem exists_decodes (settled : root.Settled) : ∃ result, Decodes root result := by
  by_cases object : ∃ members, root = .object members
  case neg => exact ⟨_, .other (not_exists.mp object)⟩
  obtain ⟨members, rfl⟩ := object
  by_cases absent : containerName ∈ members.map Prod.fst
  case neg => exact ⟨_, .noContainer absent⟩
  obtain ⟨⟨name, container⟩, found, rfl⟩ := List.mem_map.mp absent
  have settledContainer := settled.of_mem found
  by_cases good : IsContainer container
  case neg => exact ⟨_, .noRecords found good⟩
  rcases lists_or members with ⟨given, lists⟩ | ⟨value, policies, given, bad⟩
  · obtain ⟨records, read⟩ := (isContainer_iff settledContainer).mp good
    obtain ⟨items, rfl, all⟩ := (records?_eq_some settledContainer).mp read
    let fixture : Fixture := ⟨records, defaultPolicies.merge (Members.ofList given)⟩
    exact ⟨.ok fixture, .fixture found all lists (entries_merge (lists.nodup settled))⟩
  · exact ⟨_, .noPolicies found good policies given bad⟩

theorem ofJson_iff (settled : root.Settled) : ofJson root = result ↔ Decodes root result := by
  refine ⟨fun same => ?_, Decodes.ofJson_eq settled⟩
  obtain ⟨answer, decodes⟩ := exists_decodes settled
  rwa [← same, decodes.ofJson_eq settled]

theorem ofJson_congr {members others : List (String × Json)}
    (settled : (Json.object members).Settled) (otherSettled : (Json.object others).Settled)
    (same : ∀ name ∈ [containerName, "policies"], ∀ value,
      (name, value) ∈ members ↔ (name, value) ∈ others) :
    ofJson (.object members) = ofJson (.object others) := by
  have found : ∀ name ∈ [containerName, "policies"],
      Members.find? name members = Members.find? name others := by
    intro name hm
    refine Option.ext fun value => ?_
    rw [settled.find?_eq_some, otherSettled.find?_eq_some]
    exact same name hm value
  rw [ofJson, ofJson, ofMembers, ofMembers, found containerName (.head _),
    found "policies" (.tail _ (.head _))]

/-- Each text that can be read has the one answer that its value has. Members other
than the container and the policies, and the places where those two stand, make no
difference. -/
theorem ofBytes_decodes (utf8 : String.fromUTF8? bytes = some text)
    (read : Json.parse? text = some root) :
    (∀ result, ofBytes (some bytes) = result ↔ Decodes root result) ∧
      ∀ otherBytes otherText members others, root = .object members →
        String.fromUTF8? otherBytes = some otherText →
        Json.parse? otherText = some (.object others) →
        (∀ name ∈ [containerName, "policies"], ∀ value,
          (name, value) ∈ members ↔ (name, value) ∈ others) →
        ofBytes (some bytes) = ofBytes (some otherBytes) := by
  have settled := Json.settled_of_parse? read
  rw [ofBytes_eq_ofJson utf8 read]
  refine ⟨fun result => ofJson_iff settled, ?_⟩
  rintro otherBytes otherText members others rfl otherUtf8 otherRead same
  rw [ofBytes_eq_ofJson otherUtf8 otherRead]
  exact ofJson_congr settled (Json.settled_of_parse? otherRead) same

end Fixture

namespace Sample

/-- Policies, container and the members of the record stand in no usual order. -/
def scatteredFile : String :=
  "\x7b\"policies\":\x7b\"own\":\"p\",\"default\":\"q\"\x7d,\"note\":null," ++
  "\"https://catenax.io/schema/TestDataContainer/1.0.0\":" ++
  "[\x7b\"urn:a\":\"\",\"bpnl\":\"BPNL1\",\"catenaXId\":\"urn:part\"\x7d]\x7d"

def orderedFile : String :=
  "\x7b\"https://catenax.io/schema/TestDataContainer/1.0.0\":" ++
  "[\x7b\"urn:a\":\"\",\"bpnl\":\"BPNL1\",\"catenaXId\":\"urn:part\"\x7d]," ++
  "\"policies\":\x7b\"own\":\"p\",\"default\":\"q\"\x7d\x7d"

def scatteredItem : Json :=
  .object [("urn:a", .string ""), ("bpnl", .string "BPNL1"), ("catenaXId", .string "urn:part")]

def scatteredPolicies : Json := .object [("own", .string "p"), ("default", .string "q")]

def scatteredFixture : Fixture where
  records := [⟨"urn:part", "BPNL1", none, .ofList [("urn:a", .string "")]⟩]
  policies := .ofList [("default", .string "q"), ("own", .string "p")]

theorem scatteredFile_parsed : Json.parse? scatteredFile = some (.object
    [("policies", scatteredPolicies), ("note", .null),
      (Fixture.containerName, .array [scatteredItem])]) :=
  Json.parse?_eq (toList_append_eq (toList_append_eq String.toList_ofList String.toList_ofList)
    String.toList_ofList) rfl

theorem orderedFile_parsed : Json.parse? orderedFile = some (.object
    [(Fixture.containerName, .array [scatteredItem]), ("policies", scatteredPolicies)]) :=
  Json.parse?_eq (toList_append_eq (toList_append_eq String.toList_ofList String.toList_ofList)
    String.toList_ofList) rfl

end Sample

theorem Fixture.ofBytes_decodes_sample :
    ofBytes (some Sample.scatteredFile.toUTF8) = .ok Sample.scatteredFixture ∧
    ofBytes (some Sample.scatteredFile.toUTF8) = ofBytes (some Sample.orderedFile.toUTF8) := by
  obtain ⟨decoded, unmoved⟩ :=
    ofBytes_decodes (fromUTF8?_toUTF8 Sample.scatteredFile) Sample.scatteredFile_parsed
  have record : Record.Denoted Sample.scatteredItem
      ⟨"urn:part", "BPNL1", none, .ofList [("urn:a", .string "")]⟩ := by
    refine .mk (by simp) (by simp) ?_ rfl
    intro value hm
    simp at hm
  refine ⟨(decoded _).mpr ?_, ?_⟩
  · exact .fixture (.tail _ (.tail _ (.head _))) (.cons record .nil) (.object (.head _)) rfl
  · refine unmoved _ _ _ _ rfl (fromUTF8?_toUTF8 Sample.orderedFile) Sample.orderedFile_parsed ?_
    simp [containerName, or_comm]

end Dataspace
