import Dataspace.Part.Identity
import Dataspace.Proofs.Part.Decoding

/-!
# What identifies a part

A part goes by the identifiers that its submodels give it, one submodel after the
other, and last by its owner unless the submodels say so already. Its name is the
first that a submodel gives (`ofRecord_gathered`). An entry that is no identifier
is left out, and nothing else is.
-/

namespace Dataspace

-- ---------------------------------------------------------------------------
-- What a submodel gives
-- ---------------------------------------------------------------------------

namespace Key

def describesBuilt (key : String) : Bool := ["Batch", "SerialPart"].any (Text.contains key)

def describesPlanned (key : String) : Bool :=
  !describesBuilt key && Text.contains key "PartAsPlanned"

theorem aspect?_eq (key : String) : aspect? key =
    if describesBuilt key then some .batchOrSerial
    else if describesPlanned key then some .asPlanned else none := by
  have built : describesBuilt key =
      (Text.contains key "Batch" || Text.contains key "SerialPart") := by
    simp [describesBuilt]
  unfold aspect?
  rw [← built]
  split
  · rfl
  · rename_i other
    simp [describesPlanned, other]

end Key

/-- The identifier that an entry writes down: two strings, which are the members
`key` and `value` of an object or the items of an array. -/
def AssetId.written? : Json → Option AssetId
  | .object members =>
    match Members.find? "key" members, Members.find? "value" members with
    | some (.string key), some (.string value) => some ⟨key, value⟩
    | _, _ => none
  | .array [.string key, .string value] => some ⟨key, value⟩
  | _ => none

namespace Identity

def localEntries (document : Json) : List Json :=
  ((document.at? [.member "localIdentifiers"]).bind Json.array?).getD []

def idsGiven (entry : String × Json) : List AssetId :=
  match entry.2.firstDocument? with
  | none => []
  | some document =>
    if Key.describesBuilt entry.1 then (localEntries document).filterMap AssetId.written?
    else if Key.describesPlanned entry.1 then
      ((document.textAt? [.member "partTypeInformation", .member "manufacturerPartId"]).map
        (AssetId.mk "manufacturerPartId")).toList
    else []

def malformedIn (entry : String × Json) : List Json :=
  match entry.2.firstDocument? with
  | none => []
  | some document =>
    if Key.describesBuilt entry.1 then
      (localEntries document).filter fun item => (AssetId.written? item).isNone
    else []

def nameGiven? (entry : String × Json) : Option String :=
  if Key.describesBuilt entry.1 || Key.describesPlanned entry.1 then
    entry.2.firstDocument?.bind
      (Json.textAt? [.member "partTypeInformation", .member "nameAtManufacturer"])
  else none

end Identity

-- ---------------------------------------------------------------------------
-- Identifiers as they are read
-- ---------------------------------------------------------------------------

namespace AssetId

theorem toOption_ofMembers {members : List (String × Json)}
    (nodup : (members.map Prod.fst).Nodup) (key value : Option String) :
    (ofMembers key value members).toOption =
      ((Members.find? "key" members).elim key Json.string?).bind fun key =>
        ((Members.find? "value" members).elim value Json.string?).map (mk key) := by
  induction members generalizing key value with
  | nil => cases key <;> cases value <;> rfl
  | cons member rest ih =>
    obtain ⟨name, found⟩ := member
    rw [List.map_cons, List.nodup_cons] at nodup
    have once := Members.find?_eq_none.mpr nodup.1
    by_cases hkey : name = "key"
    · subst hkey
      cases htext : found.string? with
      | none => simp [ofMembers, Members.find?, text, htext, bind, Except.bind, Except.toOption]
      | some given =>
        have hread := ih nodup.2 (some given) value
        rw [once] at hread
        simpa [ofMembers, Members.find?, text, htext, bind, Except.bind] using hread
    · by_cases hvalue : name = "value"
      · subst hvalue
        cases htext : found.string? with
        | none =>
          simp [ofMembers, Members.find?, text, htext, bind, Except.bind, Except.toOption]
        | some given =>
          have hread := ih nodup.2 key (some given)
          rw [once] at hread
          simpa [ofMembers, Members.find?, text, htext, bind, Except.bind] using hread
      · simpa [ofMembers, Members.find?, hkey, hvalue] using ih nodup.2 key value

theorem toOption_ofJson {entry : Json} (settled : entry.Settled) :
    (ofJson entry).toOption = written? entry := by
  cases entry with
  | object members =>
    rw [ofJson, toOption_ofMembers settled.nodup, written?]
    cases Members.find? "key" members with
    | none => rfl
    | some key =>
      cases key with
      | string key =>
        cases Members.find? "value" members with
        | none => rfl
        | some value => cases value <;> rfl
      | _ => rfl
  | array items =>
    match items with
    | [] => rfl
    | [key] => cases key <;> rfl
    | [key, value] => cases key <;> cases value <;> rfl
    | key :: value :: _ :: _ => cases key <;> cases value <;> rfl
  | _ => rfl

end AssetId

-- ---------------------------------------------------------------------------
-- Steps of the walk
-- ---------------------------------------------------------------------------

theorem Json.Settled.firstDocument {value : Json} (settled : value.Settled)
    (first : value.firstDocument? = some document) : document.Settled := by
  cases value with
  | array items => exact settled.of_mem_array document (List.mem_of_mem_head? first)
  | object members =>
    obtain rfl : Json.object members = document := Option.some.inj first
    exact settled
  | _ => cases first

namespace Identity

variable {identity middle after : Identity} {document item : Json}

theorem typeText?_eq (field : String) (document : Json) :
    typeText? field document =
      document.textAt? [.member "partTypeInformation", .member field] := by
  unfold typeText? partType? Json.textAt?
  rw [Json.at?_member]
  cases document.member? "partTypeInformation" with
  | none => rfl
  | some partType => cases hfield : partType.member? field <;> simp [hfield]

theorem localIdentifiers_eq (document : Json) :
    localIdentifiers document = localEntries document := by
  rw [localIdentifiers, localEntries, Json.at?_member]
  cases document.member? "localIdentifiers" <;> rfl

theorem settled_localEntries (settled : document.Settled) :
    ∀ item ∈ localEntries document, item.Settled := by
  intro item hm
  cases document with
  | object members =>
    rw [localEntries, Json.at?_member, Json.member?_object] at hm
    cases found : Members.find? "localIdentifiers" members with
    | none => simp [found] at hm
    | some value =>
      have inner := settled.of_mem (settled.find?_eq_some.mp found)
      cases value with
      | array items => exact inner.of_mem_array item (by simpa [found, Json.array?] using hm)
      | _ => simp [found, Json.array?] at hm
  | _ => simp [localEntries, Json.member?] at hm

/-- What was known stands, and what comes is put behind it. -/
structure Extends (before after : Identity) (name : Option String) (ids : List AssetId)
    (malformed : List Json) : Prop where
  named : after.name = before.name.or (name.map withoutSpaces)
  listed : after.ids = before.ids ++ ids
  refused : after.refused.map Prod.fst = before.refused.map Prod.fst ++ malformed

theorem Extends.refl (identity : Identity) : identity.Extends identity none [] [] :=
  ⟨by simp, by simp, by simp⟩

theorem Extends.trans (first : identity.Extends middle given more bad)
    (rest : middle.Extends after later others worse) :
    identity.Extends after (given.or later) (more ++ others) (bad ++ worse) where
  named := by
    rw [rest.named, first.named, Option.or_assoc]
    cases given <;> rfl
  listed := by rw [rest.listed, first.listed, List.append_assoc]
  refused := by rw [rest.refused, first.refused, List.append_assoc]

theorem extends_addLocal (identity : Identity) (settled : item.Settled) :
    identity.Extends (identity.addLocal item) none (AssetId.written? item).toList
      ([item].filter fun item => (AssetId.written? item).isNone) := by
  rw [List.filter_singleton, ← AssetId.toOption_ofJson settled, addLocal]
  cases AssetId.ofJson item with
  | ok id => exact ⟨by simp, by simp [Except.toOption], by simp [Except.toOption]⟩
  | error reason => exact ⟨by simp, by simp [Except.toOption], by simp [Except.toOption]⟩

theorem extends_addLocals {items : List Json} (settled : ∀ item ∈ items, item.Settled)
    (identity : Identity) :
    identity.Extends (items.foldl addLocal identity) none (items.filterMap AssetId.written?)
      (items.filter fun item => (AssetId.written? item).isNone) := by
  induction items generalizing identity with
  | nil => exact .refl identity
  | cons item items ih =>
    obtain ⟨hitem, hitems⟩ := List.forall_mem_cons.mp settled
    have h := (extends_addLocal identity hitem).trans (ih hitems (identity.addLocal item))
    have written : (item :: items).filterMap AssetId.written? =
        (AssetId.written? item).toList ++ items.filterMap AssetId.written? := by
      rw [List.filterMap_cons]
      cases AssetId.written? item <;> rfl
    rw [written, ← List.singleton_append, List.filter_append]
    exact h

theorem extends_offerName (identity : Identity) (document : Json) :
    identity.Extends (identity.offerName document)
      (document.textAt? [.member "partTypeInformation", .member "nameAtManufacturer"]) [] [] := by
  rw [← typeText?_eq, offerName]
  cases hname : identity.name with
  | some name => exact ⟨by simp [hname], by simp, by simp⟩
  | none =>
    cases hgiven : typeText? "nameAtManufacturer" document with
    | some name => exact ⟨by simp [hname], by simp, by simp⟩
    | none => exact ⟨by simp [hname], by simp, by simp⟩

theorem extends_addPartNumber (identity : Identity) (document : Json) :
    identity.Extends (identity.addPartNumber document) none
      ((document.textAt? [.member "partTypeInformation", .member "manufacturerPartId"]).map
        (AssetId.mk "manufacturerPartId")).toList [] := by
  rw [← typeText?_eq, addPartNumber]
  cases typeText? "manufacturerPartId" document with
  | some value => exact ⟨by simp, by simp, by simp⟩
  | none => exact .refl identity

theorem extends_learn (identity : Identity) {entry : String × Json}
    (settled : entry.2.Settled) :
    identity.Extends (identity.learn entry) (nameGiven? entry) (idsGiven entry)
      (malformedIn entry) := by
  unfold learn nameGiven? idsGiven malformedIn
  rw [Key.aspect?_eq]
  cases hdocument : entry.2.firstDocument? with
  | none =>
    cases Key.describesBuilt entry.1 <;> cases Key.describesPlanned entry.1 <;>
      exact .refl identity
  | some document =>
    have items := settled_localEntries (settled.firstDocument hdocument)
    by_cases built : Key.describesBuilt entry.1
    · have h := (extends_offerName identity document).trans
        (extends_addLocals items (identity.offerName document))
      simpa [built, localIdentifiers_eq] using h
    · by_cases planned : Key.describesPlanned entry.1
      · have h := (extends_offerName identity document).trans
          (extends_addPartNumber (identity.offerName document) document)
        simpa [built, planned] using h
      · simpa [built, planned] using Extends.refl identity

theorem extends_foldl_learn {entries : List (String × Json)}
    (settled : ∀ entry ∈ entries, entry.2.Settled) (identity : Identity) :
    identity.Extends (entries.foldl learn identity) (entries.findSome? nameGiven?)
      (entries.flatMap idsGiven) (entries.flatMap malformedIn) := by
  induction entries generalizing identity with
  | nil => exact .refl identity
  | cons entry entries ih =>
    obtain ⟨hentry, hentries⟩ := List.forall_mem_cons.mp settled
    have h := (extends_learn identity hentry).trans (ih hentries (identity.learn entry))
    rw [List.findSome?_cons, List.flatMap_cons, List.flatMap_cons]
    cases hname : nameGiven? entry <;> simpa [hname] using h

end Identity

-- ---------------------------------------------------------------------------
-- Records that are read
-- ---------------------------------------------------------------------------

def Record.Settled (record : Record) : Prop :=
  ∀ entry ∈ record.submodels.entries, entry.2.Settled

theorem Record.Denoted.settled {item : Json} (h : Denoted item record) (settled : item.Settled) :
    record.Settled := by
  obtain ⟨-, -, -, submodels⟩ := h
  intro entry hm
  rw [submodels] at hm
  exact settled.of_mem (List.mem_filter.mp hm).1

theorem Record.settled_of_forall₂ {items : List Json} {records : List Record}
    (settled : ∀ item ∈ items, item.Settled) (h : List.Forall₂ Denoted items records) :
    ∀ record ∈ records, record.Settled := by
  induction h with
  | nil => exact List.forall_mem_nil _
  | cons first _ ih =>
    obtain ⟨hitem, hitems⟩ := List.forall_mem_cons.mp settled
    exact List.forall_mem_cons.mpr ⟨first.settled hitem, ih hitems⟩

theorem Fixture.settled_of_ofText (read : ofText text = .ok fixture) :
    ∀ record ∈ fixture.records, record.Settled := by
  unfold ofText at read
  split at read
  · rename_i members hmembers
    have settled := Json.settled_of_parse? (Json.parseMembers_ok hmembers)
    have hjson : ofJson (.object members) = .ok fixture := read
    cases (ofJson_iff settled).mp hjson with
    | fixture found records =>
      exact Record.settled_of_forall₂ (settled.of_mem found).of_mem_array records
  · cases read

theorem Fixture.settled_of_ofBytes (read : ofBytes (some bytes) = .ok fixture) :
    ∀ record ∈ fixture.records, record.Settled := by
  simp only [ofBytes] at read
  split at read
  · exact settled_of_ofText read
  · cases read

-- ---------------------------------------------------------------------------
-- The identity of a part
-- ---------------------------------------------------------------------------

def Record.idsGiven (record : Record) : List AssetId :=
  record.submodels.entries.flatMap Identity.idsGiven

def Record.owner (record : Record) : AssetId := ⟨"manufacturerId", record.bpn⟩

namespace Identity

variable {record : Record}

theorem ids_addOwner (identity : Identity) (bpn : String) :
    (identity.addOwner bpn).ids = identity.ids ++
      if ⟨"manufacturerId", bpn⟩ ∈ identity.ids then [] else [⟨"manufacturerId", bpn⟩] := by
  unfold addOwner
  split
  · rename_i h
    rw [if_pos (List.contains_iff_mem.mp h), List.append_nil]
  · rename_i h
    rw [if_neg fun hm => h (List.contains_iff_mem.mpr hm)]

@[simp] theorem name_addOwner (identity : Identity) (bpn : String) :
    (identity.addOwner bpn).name = identity.name := by
  unfold addOwner
  split <;> rfl

@[simp] theorem refused_addOwner (identity : Identity) (bpn : String) :
    (identity.addOwner bpn).refused = identity.refused := by
  unfold addOwner
  split <;> rfl

theorem count_owned (given : List AssetId) (owner : AssetId) :
    (given ++ if owner ∈ given then [] else [owner]).count owner = max 1 (given.count owner) := by
  split
  · rename_i h
    rw [List.append_nil, Nat.max_eq_right (List.count_pos_iff.mpr h)]
  · rename_i h
    rw [List.count_append, List.count_eq_zero_of_not_mem h, List.count_singleton_self]
    rfl

/-- The owner comes last, and only if no submodel gives him. Entries that are no
identifiers are refused one by one, and all others are kept where they stand. -/
theorem ofRecord_gathered (settled : record.Settled) :
    (ofRecord record).ids =
      record.idsGiven ++ (if record.owner ∈ record.idsGiven then [] else [record.owner]) ∧
    (ofRecord record).ids.count record.owner = max 1 (record.idsGiven.count record.owner) ∧
    (ofRecord record).refused.map Prod.fst = record.submodels.entries.flatMap malformedIn ∧
    (ofRecord record).shortName.toList =
      ((record.submodels.entries.findSome? nameGiven?).getD "").toList.filter (· ≠ ' ') := by
  have gathered := extends_foldl_learn settled start
  have listed : (record.submodels.entries.foldl learn start).ids = record.idsGiven :=
    gathered.listed.trans (List.nil_append _)
  have ids := ids_addOwner (record.submodels.entries.foldl learn start) record.bpn
  rw [listed] at ids
  refine ⟨ids, ?_, ?_, ?_⟩
  · rw [ofRecord, ids]
    exact count_owned _ _
  · have refused := refused_addOwner (record.submodels.entries.foldl learn start) record.bpn
    rw [ofRecord, refused, gathered.refused]
    rfl
  · have named := name_addOwner (record.submodels.entries.foldl learn start) record.bpn
    rw [ofRecord, shortName, named, gathered.named]
    cases record.submodels.entries.findSome? nameGiven? with
    | none => rfl
    | some name => exact String.toList_ofList

end Identity

namespace Sample

def describedFile : String :=
  "\x7b\"https://catenax.io/schema/TestDataContainer/1.0.0\":[\x7b\"catenaXId\":\"urn:part\"," ++
  "\"bpnl\":\"BPNL1\",\"urn:a#Batch\":[\x7b\"localIdentifiers\":[[\"lot\",\"7\"],null," ++
  "\x7b\"value\":\"8\",\"key\":\"lot\"\x7d],\"partTypeInformation\":" ++
  "\x7b\"nameAtManufacturer\":\"A b\"\x7d\x7d],\"urn:b#PartAsPlanned\":" ++
  "\x7b\"partTypeInformation\":\x7b\"nameAtManufacturer\":\"c\"," ++
  "\"manufacturerPartId\":\"9\"\x7d\x7d\x7d]\x7d"

def describedRecord : Record where
  part := "urn:part"
  bpn := "BPNL1"
  policy := none
  submodels := .ofList [
    ("urn:a#Batch", .array [.object [
      ("localIdentifiers", .array [.array [.string "lot", .string "7"], .null,
        .object [("value", .string "8"), ("key", .string "lot")]]),
      ("partTypeInformation", .object [("nameAtManufacturer", .string "A b")])]]),
    ("urn:b#PartAsPlanned", .object [
      ("partTypeInformation", .object [
        ("nameAtManufacturer", .string "c"), ("manufacturerPartId", .string "9")])])]

set_option maxRecDepth 4000 in
theorem describedFile_parsed : Json.parse? describedFile = some (.object
    [(Fixture.containerName, .array [.object (("catenaXId", .string "urn:part") ::
      ("bpnl", .string "BPNL1") :: describedRecord.submodels.entries)])]) :=
  Json.parse?_eq (toList_append_eq (toList_append_eq (toList_append_eq (toList_append_eq
    (toList_append_eq String.toList_ofList String.toList_ofList) String.toList_ofList)
    String.toList_ofList) String.toList_ofList) String.toList_ofList) rfl

theorem describedFile_read : Fixture.ofBytes (some describedFile.toUTF8) =
    .ok ⟨[describedRecord], defaultPolicies⟩ := by
  rw [Fixture.ofBytes_eq_ofJson (fromUTF8?_toUTF8 describedFile) describedFile_parsed]
  rfl

theorem describedRecord_settled : describedRecord.Settled :=
  Fixture.settled_of_ofBytes describedFile_read _ (.head _)

end Sample

theorem Identity.ofRecord_gathered_sample : Sample.describedRecord.Settled ∧
    (ofRecord Sample.describedRecord).ids =
      [⟨"lot", "7"⟩, ⟨"lot", "8"⟩, ⟨"manufacturerPartId", "9"⟩, ⟨"manufacturerId", "BPNL1"⟩] ∧
    (ofRecord Sample.describedRecord).shortName.toList = ['A', 'b'] := by
  obtain ⟨ids, -, -, shortName⟩ := ofRecord_gathered Sample.describedRecord_settled
  exact ⟨Sample.describedRecord_settled, ids.trans (by decide), shortName.trans (by decide)⟩

end Dataspace
