import Dataspace.Part.Identity
import Dataspace.Proofs.Members

/-!
# Certified records

Certifying a record enters one submodel without document, if the part has children,
and changes nothing else: every other submodel stays where it is, and the part keeps
its identity (`injectCertificate_conservative`).
-/

namespace Dataspace

namespace Key

theorem isEligible_bomAsBuilt : isEligible bomAsBuilt = true := by decide +kernel

theorem isEligible_certificate : isEligible certificate = true := by decide +kernel

theorem aspect?_certificate : aspect? certificate = none := by decide +kernel

end Key

namespace Record

variable {record before after : Record}

-- ---------------------------------------------------------------------------
-- Parts with children
-- ---------------------------------------------------------------------------

def ListsChildren (record : Record) : Prop :=
  ∃ value document items, (Key.bomAsBuilt, value) ∈ record.submodels.entries ∧
    value.firstDocument? = some document ∧
    document.member? "childItems" = some (.array items) ∧ items ≠ []

theorem hasChildItems_iff : record.hasChildItems = true ↔ record.ListsChildren := by
  unfold hasChildItems ListsChildren
  constructor
  · intro children
    split at children
    · rename_i first rest found
      obtain ⟨listed, hlisted, hitems⟩ := Option.bind_eq_some_iff.mp found
      obtain ⟨document, hdocument, hmember⟩ := Option.bind_eq_some_iff.mp hlisted
      obtain ⟨value, hvalue, hfirst⟩ := Option.bind_eq_some_iff.mp hdocument
      cases listed with
      | array items =>
        obtain rfl : items = first :: rest := Option.some.inj hitems
        exact ⟨value, document, _, Members.get?_eq_some.mp hvalue, hfirst, hmember,
          List.cons_ne_nil first rest⟩
      | _ => cases hitems
    · cases children
  · rintro ⟨value, document, items, hvalue, hfirst, hmember, nonempty⟩
    rw [Members.get?_eq_some.mpr hvalue, Option.bind_some, hfirst, Option.bind_some, hmember,
      Option.bind_some, Json.array?]
    cases items with
    | nil => exact absurd rfl nonempty
    | cons => rfl

-- ---------------------------------------------------------------------------
-- What certifying leaves
-- ---------------------------------------------------------------------------

def placeholder : String × Json := (Key.certificate, .string "")

/-- The certificate stands where one stood, or else last. -/
inductive Certified (before after : Record) : Prop
  | replaced {i : Nat} {old : Json} :
      before.submodels.entries[i]? = some (Key.certificate, old) →
      after.submodels.entries = before.submodels.entries.set i placeholder →
      Certified before after
  | added : Key.certificate ∉ before.submodels.names →
      after.submodels.entries = before.submodels.entries ++ [placeholder] →
      Certified before after

structure Keeps (before after : Record) : Prop where
  part : after.part = before.part
  bpn : after.bpn = before.bpn
  policy : after.policy = before.policy
  others : ∀ (i : Nat) (name : String) (value : Json), name ≠ Key.certificate →
    (after.submodels.entries[i]? = some (name, value) ↔
      before.submodels.entries[i]? = some (name, value))

theorem certified_insert (record : Record) : record.Certified
    { record with submodels := record.submodels.insert Key.certificate (.string "") } := by
  by_cases present : Key.certificate ∈ record.submodels.names
  · obtain ⟨⟨_, old⟩, held, rfl⟩ := List.mem_map.mp present
    obtain ⟨i, hi⟩ := List.mem_iff_getElem?.mp held
    exact .replaced hi (Members.assign_present record.submodels.nodup hi _)
  · exact .added present (Members.assign_new present _)

/-- An entry of another name is neither the one put in nor the one it takes the place of. -/
theorem Certified.others {i : Nat} {name : String} {value : Json} (h : before.Certified after)
    (other : name ≠ Key.certificate) :
    after.submodels.entries[i]? = some (name, value) ↔
      before.submodels.entries[i]? = some (name, value) := by
  have apart (value' : Json) : some (Key.certificate, value') ≠ some (name, value) := fun same =>
    other (congrArg Prod.fst (Option.some.inj same)).symm
  cases h with
  | @replaced j old held entries =>
    rw [entries]
    by_cases here : j = i
    · subst here
      rw [List.getElem?_set_self (List.getElem?_eq_some_iff.mp held).1, held]
      exact iff_of_false (apart _) (apart old)
    · rw [List.getElem?_set_ne here]
  | added _ entries =>
    rw [entries, List.getElem?_append]
    split
    · exact Iff.rfl
    · rename_i beyond
      rw [List.getElem?_eq_none (Nat.not_lt.mp beyond)]
      refine iff_of_false (fun found => ?_) (fun none => nomatch none)
      exact apart _ (congrArg some (List.mem_singleton.mp (List.mem_of_getElem? found)).symm)

theorem Keeps.refl (record : Record) : record.Keeps record :=
  ⟨rfl, rfl, rfl, fun _ _ _ _ => Iff.rfl⟩

-- ---------------------------------------------------------------------------
-- Certifying once and again
-- ---------------------------------------------------------------------------

theorem hasChildItems_insert (record : Record) (value : Json) :
    hasChildItems { record with submodels := record.submodels.insert Key.certificate value } =
      record.hasChildItems := by
  have other : Key.bomAsBuilt ≠ Key.certificate := by decide
  rw [hasChildItems, Members.get?_insert, if_neg other, hasChildItems]

theorem injectCertificate_of (h : record.hasChildItems = true) : record.injectCertificate =
    { record with submodels := record.submodels.insert Key.certificate (.string "") } :=
  if_pos h

theorem injectCertificate_of_not (h : ¬ record.hasChildItems = true) :
    record.injectCertificate = record :=
  if_neg h

theorem injectCertificate_injectCertificate (record : Record) :
    record.injectCertificate.injectCertificate = record.injectCertificate := by
  by_cases children : record.hasChildItems = true
  · have twice : (record.submodels.insert Key.certificate (.string "")).insert Key.certificate
        (.string "") = record.submodels.insert Key.certificate (.string "") :=
      Members.ext (Members.assign_assign ..)
    rw [injectCertificate_of children,
      injectCertificate_of ((hasChildItems_insert record _).trans children), twice]
  · rw [injectCertificate_of_not children, injectCertificate_of_not children]

def eligibleKeys (record : Record) : List String := record.eligible.map Prod.fst

theorem eligibleKeys_eq (record : Record) :
    record.eligibleKeys = record.submodels.names.filter Key.isEligible := by
  rw [eligibleKeys, eligible, Members.names, List.filter_map]
  rfl

theorem names_injectCertificate (h : record.hasChildItems = true) :
    record.injectCertificate.submodels.names = record.submodels.names ++
      if Key.certificate ∈ record.submodels.names then [] else [Key.certificate] := by
  have entered := Members.names_assign Key.certificate (.string "") record.submodels.entries
  rw [injectCertificate_of h]
  by_cases present : Key.certificate ∈ record.submodels.names
  · rw [if_pos present, List.append_nil]
    exact entered.trans (if_pos present)
  · rw [if_neg present]
    exact entered.trans (if_neg present)

theorem eligibleKeys_injectCertificate (record : Record) :
    record.injectCertificate.eligibleKeys = record.eligibleKeys ++
      if Key.certificate ∈ record.injectCertificate.submodels.names ∧
        Key.certificate ∉ record.submodels.names then [Key.certificate] else [] := by
  rw [eligibleKeys_eq, eligibleKeys_eq]
  by_cases children : record.hasChildItems = true
  · rw [names_injectCertificate children, List.filter_append]
    by_cases present : Key.certificate ∈ record.submodels.names
    · simp [present]
    · simp [present, Key.isEligible_certificate]
  · simp [injectCertificate_of_not children]

theorem ofRecord_injectCertificate (record : Record) :
    Identity.ofRecord record.injectCertificate = Identity.ofRecord record := by
  by_cases children : record.hasChildItems = true
  -- A certificate describes no aspect, so learning from it changes nothing.
  · have silent (identity : Identity) (value : Json) :
        identity.learn (Key.certificate, value) = identity := by
      rw [Identity.learn, Key.aspect?_certificate]
    rw [injectCertificate_of children, Identity.ofRecord, Members.entries_insert,
      Members.foldl_assign silent, Identity.ofRecord]
  · rw [injectCertificate_of_not children]

/-- A part with children is certified where it stands or last, and no other is touched. Nothing
is lost or moved by it, and a second time changes nothing. -/
theorem injectCertificate_conservative (record : Record) :
    record.Keeps record.injectCertificate ∧
    (record.ListsChildren → record.Certified record.injectCertificate) ∧
    (¬ record.ListsChildren → record.injectCertificate = record) ∧
    record.injectCertificate.injectCertificate = record.injectCertificate ∧
    (record.injectCertificate.eligibleKeys = record.eligibleKeys ++
      if Key.certificate ∈ record.injectCertificate.submodels.names ∧
        Key.certificate ∉ record.submodels.names then [Key.certificate] else []) ∧
    Identity.ofRecord record.injectCertificate = Identity.ofRecord record := by
  refine ⟨?_, ?_, ?_, injectCertificate_injectCertificate record,
    eligibleKeys_injectCertificate record, ofRecord_injectCertificate record⟩
  · by_cases children : record.hasChildItems = true
    · rw [injectCertificate_of children]
      exact ⟨rfl, rfl, rfl, fun _ _ _ => (certified_insert record).others⟩
    · rw [injectCertificate_of_not children]
      exact .refl record
  · intro lists
    rw [injectCertificate_of (hasChildItems_iff.mpr lists)]
    exact certified_insert record
  · intro lists
    exact injectCertificate_of_not fun children => lists (hasChildItems_iff.mp children)

end Record

end Dataspace
