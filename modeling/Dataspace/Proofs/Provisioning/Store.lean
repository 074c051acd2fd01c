import Dataspace.Plan.Run
import Dataspace.Proofs.Document
import Dataspace.Seeding.Provision

/-!
# Connectors with a store

A connector keeps the documents it is given. What it shows of a policy, and
which offers it lists, follows from the documents kept (`Store.holds`,
`Store.offers`); both can only become more (`Store.Within`). A network is
faithful if it answers from such stores.
-/

namespace Dataspace

-- ---------------------------------------------------------------------------
-- Matching documents
-- ---------------------------------------------------------------------------

namespace Document

def entryId? (asset : Json) : Option String := asset.textAt? entryIdPath

@[simp] theorem entryId?_toJson (request : AssetRequest) :
    entryId? request.toJson = request.asset.id :=
  entryId_toJson request

def admits (query asset : Json) : Bool :=
  match filter? query with
  | some (property, operator, value) => operator == "=" &&
    ((property == Vocabulary.id && entryId? asset == some value) ||
      (property == Vocabulary.type && assetType? asset == some value))
  | none => false

def selects (definition : Json) (id : String) : Bool :=
  selector? definition == some (Vocabulary.id, "=", id)

@[simp] theorem admits_toJson (request : CatalogRequest) (asset : Json) :
    admits request.toJson asset = match request.filter with
      | .id id => entryId? asset == some id
      | .type type => assetType? asset == some type := by
  have hne : Vocabulary.type ≠ Vocabulary.id := by decide
  unfold admits
  rw [filter?_toJson]
  cases request.filter with
  | id id => simp [CatalogFilter.property, CatalogFilter.value, hne.symm]
  | type name => simp [CatalogFilter.property, CatalogFilter.value, hne]

@[simp] theorem selects_toJson (definition : ContractDefinition) (id : String) :
    selects definition.toJson id = (definition.selectedId == id) := by
  rw [Bool.eq_iff_iff]
  simp [selects]

end Document

-- ---------------------------------------------------------------------------
-- Stores
-- ---------------------------------------------------------------------------

structure Store where
  policies : List Json
  assets : List Json
  definitions : List Json

namespace Store

def empty : Store := ⟨[], [], []⟩

def holds (store : Store) (id : String) : Bool :=
  store.policies.any fun policy => policyId? policy == some id

def offers (store : Store) (query : Json) : Bool :=
  store.assets.any fun asset => Document.admits query asset &&
    (Document.entryId? asset).any fun id =>
      store.definitions.any fun definition => Document.selects definition id

def receive (store : Store) : Call → Store
  | .createPolicy _ policy => { store with policies := store.policies ++ [policy] }
  | .createAsset _ request => { store with assets := store.assets ++ [request.toJson] }
  | .createDefinition _ definition =>
    { store with definitions := store.definitions ++ [definition.toJson] }
  | _ => store

/-- Nothing is lost. -/
structure Within (store later : Store) : Prop where
  policies : store.policies ⊆ later.policies
  assets : store.assets ⊆ later.assets
  definitions : store.definitions ⊆ later.definitions

variable {store later last : Store} {id : String}

theorem Within.refl (store : Store) : store.Within store :=
  ⟨List.Subset.refl _, List.Subset.refl _, List.Subset.refl _⟩

theorem Within.trans (first : store.Within later) (rest : later.Within last) :
    store.Within last :=
  ⟨List.Subset.trans first.policies rest.policies, List.Subset.trans first.assets rest.assets,
    List.Subset.trans first.definitions rest.definitions⟩

theorem within_receive (store : Store) (call : Call) : store.Within (store.receive call) := by
  have h := Within.refl store
  cases call with
  | createPolicy => exact ⟨List.subset_append_left .., h.assets, h.definitions⟩
  | createAsset => exact ⟨h.policies, List.subset_append_left .., h.definitions⟩
  | createDefinition => exact ⟨h.policies, h.assets, List.subset_append_left ..⟩
  | findPolicy | queryCatalog | storePayload | registerShell => exact h

theorem Within.holds (h : store.Within later) (held : store.holds id = true) :
    later.holds id = true := by
  obtain ⟨policy, hp, hid⟩ := List.any_eq_true.mp held
  exact List.any_eq_true.mpr ⟨policy, h.policies hp, hid⟩

theorem offers_iff : store.offers query = true ↔ ∃ asset ∈ store.assets,
    Document.admits query asset = true ∧ ∃ id, Document.entryId? asset = some id ∧
      ∃ definition ∈ store.definitions, Document.selects definition id = true := by
  simp [offers, Option.any_eq_true]

theorem offers_provider (store : Store) (filter : CatalogFilter) (provider other : String) :
    store.offers (CatalogRequest.mk provider filter).toJson =
      store.offers (CatalogRequest.mk other filter).toJson := by
  simp only [Store.offers, Document.admits_toJson]

theorem Within.offers (h : store.Within later) (offered : store.offers query = true) :
    later.offers query = true := by
  obtain ⟨asset, ha, hadmits, id, hid, definition, hd, hselects⟩ := offers_iff.mp offered
  exact offers_iff.mpr
    ⟨asset, h.assets ha, hadmits, id, hid, definition, h.definitions hd, hselects⟩

end Store

-- ---------------------------------------------------------------------------
-- Calls to stores
-- ---------------------------------------------------------------------------

namespace Call

def connector? : Call → Option String
  | .findPolicy connector _ | .createPolicy connector _ | .queryCatalog connector _
  | .createAsset connector _ | .createDefinition connector _ => some connector
  | .storePayload .. | .registerShell .. => none

def isLookUp : Call → Bool
  | .findPolicy .. | .queryCatalog .. => true
  | _ => false

def isCreation : Call → Bool
  | .createPolicy .. | .createAsset .. | .createDefinition .. => true
  | _ => false

def createsPolicy (connector id : String) : Call → Bool
  | .createPolicy target policy => target == connector && policyId? policy == some id
  | _ => false

theorem createsPolicy_lookUp {call : Call} {connector id : String} (h : call.isLookUp = true) :
    call.createsPolicy connector id = false := by
  cases call with
  | createPolicy => cases h
  | _ => rfl

end Call

abbrev Stores := String → Store

namespace Stores

variable {stores : Stores}

def receive (stores : Stores) (call : Call) : Stores := fun connector =>
  if call.connector? = some connector then (stores connector).receive call else stores connector

def after (stores : Stores) (past : List Exchange) : Stores :=
  past.foldl (fun stores exchange => stores.receive exchange.call) stores

theorem after_append (stores : Stores) (past later : List Exchange) :
    stores.after (past ++ later) = (stores.after past).after later :=
  List.foldl_append

theorem within_receive (stores : Stores) (call : Call) (connector : String) :
    (stores connector).Within (stores.receive call connector) := by
  unfold receive
  split
  · exact Store.within_receive _ _
  · exact .refl _

theorem within_after (stores : Stores) (past : List Exchange) (connector : String) :
    (stores connector).Within (stores.after past connector) := by
  induction past generalizing stores with
  | nil => exact .refl _
  | cons exchange past ih => exact (within_receive stores exchange.call connector).trans (ih _)

theorem holds_receive (stores : Stores) (call : Call) (connector id : String) :
    (stores.receive call connector).holds id =
      ((stores connector).holds id || call.createsPolicy connector id) := by
  unfold receive
  cases call with
  | createPolicy target policy =>
    by_cases h : target = connector <;>
      simp [Call.connector?, Call.createsPolicy, Store.receive, Store.holds, h]
  | _ => split <;> simp [Call.createsPolicy, Store.receive, Store.holds]

theorem holds_after (stores : Stores) (past : List Exchange) (connector id : String) :
    (stores.after past connector).holds id = ((stores connector).holds id ||
      past.any fun exchange => exchange.call.createsPolicy connector id) := by
  induction past generalizing stores with
  | nil => simp [after]
  | cons exchange past ih =>
    rw [after, List.foldl_cons, ← after, ih, holds_receive, List.any_cons, Bool.or_assoc]

theorem receive_lookUp (h : call.isLookUp = true) : stores.receive call = stores := by
  funext connector
  unfold receive
  split
  · cases call <;> first | rfl | cases h
  · rfl

theorem after_lookUps (h : ∀ exchange ∈ past, exchange.call.isLookUp = true) :
    stores.after past = stores := by
  induction past with
  | nil => rfl
  | cons exchange past ih =>
    obtain ⟨hx, hp⟩ := List.forall_mem_cons.mp h
    rw [after, List.foldl_cons, receive_lookUp hx]
    exact ih hp

end Stores

-- ---------------------------------------------------------------------------
-- Faithful networks
-- ---------------------------------------------------------------------------

/-- The network answers for connectors that began with `stores`. Of policies
only those of the given `ids` are asked for. -/
structure Network.Faithful (network : Network) (stores : Stores) (ids : List String) : Prop where
  finds : ∀ past connector, ∀ id ∈ ids, (stores.after past connector).holds id = true →
    ∃ answer policy, network past (.findPolicy connector id) = .ok answer ∧
      answer.status = 200 ∧ answer.json? = some policy ∧ policyId? policy = some id
  misses : ∀ past connector, ∀ id ∈ ids, (stores.after past connector).holds id = false →
    ∃ answer, network past (.findPolicy connector id) = .ok answer ∧ answer.status ≠ 200
  lists : ∀ past connector request, ∃ answer catalog items,
    network past (.queryCatalog connector request) = .ok answer ∧ answer.status = 200 ∧
      answer.json? = some catalog ∧ catalog.member? "dcat:dataset" = some (.array items) ∧
      (items ≠ [] ↔ (stores.after past connector).offers request.toJson = true)
  creates : ∀ past call, call.isCreation = true →
    ∃ answer, network past call = .ok answer ∧ answer.status ≤ 205

theorem isPresent_of_policyId? {policy : Json} {id : String} (h : policyId? policy = some id) :
    policy.isPresent = true := by
  cases policy with
  | object members =>
    cases members with
    | nil => cases h
    | cons member members => rfl
  | _ => cases h

namespace Network.Faithful

variable {network : Network} {stores : Stores} {ids : List String} {id : String}

theorem showsPolicy (faithful : network.Faithful stores ids) (past : List Exchange)
    (connector : String) (asked : id ∈ ids) :
    ∃ answer, network past (.findPolicy connector id) = .ok answer ∧
      answer.showsPolicy = (stores.after past connector).holds id := by
  cases hheld : (stores.after past connector).holds id with
  | true =>
    obtain ⟨answer, policy, hanswer, hok, hjson, hid⟩ :=
      faithful.finds past connector id asked hheld
    refine ⟨answer, hanswer, ?_⟩
    simp [Response.showsPolicy, hok, hjson, isPresent_of_policyId? hid]
  | false =>
    obtain ⟨answer, hanswer, hmissing⟩ := faithful.misses past connector id asked hheld
    exact ⟨answer, hanswer, by simp [Response.showsPolicy, hmissing]⟩

theorem listsOffers (faithful : network.Faithful stores ids) (past : List Exchange)
    (connector : String) (request : CatalogRequest) :
    ∃ answer, network past (.queryCatalog connector request) = .ok answer ∧
      answer.listsOffers = (stores.after past connector).offers request.toJson := by
  obtain ⟨answer, catalog, items, hanswer, hok, hjson, hdataset, hitems⟩ :=
    faithful.lists past connector request
  refine ⟨answer, hanswer, ?_⟩
  rw [Bool.eq_iff_iff, ← hitems]
  simp [Response.listsOffers, hok, hjson, Json.hasOffers, hdataset]

theorem created (faithful : network.Faithful stores ids) (past : List Exchange) (call : Call)
    (h : call.isCreation = true) :
    ∃ answer, network past call = .ok answer ∧ answer.isFailure = false := by
  obtain ⟨answer, hanswer, hok⟩ := faithful.creates past call h
  exact ⟨answer, hanswer, by simpa [Response.isFailure] using hok⟩

end Network.Faithful

-- ---------------------------------------------------------------------------
-- A faithful network
-- ---------------------------------------------------------------------------

namespace Stores

def emptyCatalog : String := "\x7b\"dcat:dataset\":[]\x7d"

def someCatalog : String := "\x7b\"dcat:dataset\":[\x7b\x7d]\x7d"

/-- Answers from the stores. Every policy that is held is shown as `text`. -/
def network (stores : Stores) (text : String) : Network := fun past call =>
  match call with
  | .findPolicy connector id =>
    .ok (if (stores.after past connector).holds id then ⟨200, text⟩ else ⟨404, ""⟩)
  | .queryCatalog connector request =>
    .ok ⟨200, if (stores.after past connector).offers request.toJson then someCatalog
      else emptyCatalog⟩
  | _ => .ok ⟨200, ""⟩

theorem parse_emptyCatalog :
    Json.parse? emptyCatalog = some (.object [("dcat:dataset", .array [])]) := rfl

theorem parse_someCatalog :
    Json.parse? someCatalog = some (.object [("dcat:dataset", .array [.object []])]) := rfl

theorem network_faithful (stores : Stores) (shown : Json.parse? text = some policy)
    (named : ∀ id ∈ ids, policyId? policy = some id) :
    (stores.network text).Faithful stores ids := by
  refine ⟨fun past connector id hid held => ?finds, fun past connector id hid missing => ?misses,
    fun past connector request => ?lists, fun past call h => ?creates⟩
  case finds =>
    refine ⟨⟨200, text⟩, policy, ?_, rfl, shown, named id hid⟩
    simp [network, held]
  case misses =>
    refine ⟨⟨404, ""⟩, ?_, by decide⟩
    simp [network, missing]
  case lists =>
    cases offered : (stores.after past connector).offers request.toJson with
    | true =>
      exact ⟨⟨200, someCatalog⟩, _, [.object []], by simp [network, offered], rfl,
        parse_someCatalog, rfl, by simp⟩
    | false =>
      exact ⟨⟨200, emptyCatalog⟩, _, [], by simp [network, offered], rfl, parse_emptyCatalog, rfl,
        by simp⟩
  case creates =>
    refine ⟨⟨200, ""⟩, ?_, by decide⟩
    cases call <;> first | rfl | cases h

end Stores

end Dataspace
