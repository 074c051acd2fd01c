import Dataspace.Proofs.Provisioning.Settling

/-!
# Policies and offers settle

Each step of provisioning meets the need it stands for: the policy that was
asked for is held (`settles_ensurePolicy`), the offer that was queried is listed
(`settles_ensureOffer`). What makes the second work is that the asset of an offer
passes the very filter it is looked for with (`Offer.Consistent`).
-/

namespace Dataspace

open Plan

variable {world : World} {stores : Stores} {ids : List String}

-- ---------------------------------------------------------------------------
-- Policies
-- ---------------------------------------------------------------------------

def policyIds (policies : Members Json) : List String :=
  policies.entries.filterMap fun entry => policyId? entry.2

theorem settled_createPolicy {policy : Json} {id : String} (named : policyId? policy = some id)
    (missing : (stores.after before connector).holds id = false) :
    Settled stores [.policy connector id policy] before
      [⟨.findPolicy connector id, found⟩, ⟨.createPolicy connector policy, created⟩] := by
  refine ⟨?met, fun hmet => ?idle, fun target other => ?once,
    fun exchange hx target document other hcall hid => ?earliest⟩
  case met =>
    simp [Need.Met, Stores.after_append, Stores.holds_after, Call.createsPolicy, named]
  case idle =>
    have h := hmet _ (List.mem_singleton.mpr rfl)
    exact absurd (missing.symm.trans h) Bool.false_ne_true
  case once =>
    by_cases heq : connector = target ∧ id = other
    · obtain ⟨rfl, rfl⟩ := heq
      simp [Call.createsPolicy, missing, named]
    · have hne : Call.createsPolicy target other (.createPolicy connector policy) = false := by
        simpa [Call.createsPolicy, named] using heq
      have hfind : Call.createsPolicy target other (.findPolicy connector id) = false := rfl
      simp [hne, hfind]
  case earliest =>
    rcases List.mem_cons.mp hx with rfl | hx
    · cases hcall
    · rw [List.mem_singleton.mp hx] at hcall
      cases hcall
      obtain rfl := Option.some.inj (named.symm.trans hid)
      simp [Need.isPolicy]

theorem settles_ensurePolicy (faithful : world.network.Faithful stores ids) {id : String}
    (asked : id ∈ ids) (named : policyId? policy = some id) (connector : String) :
    (ensurePolicy connector id policy).Settles world stores [.policy connector id policy] := by
  intro progress
  obtain ⟨found, hfound, hshows⟩ := faithful.showsPolicy progress.exchanges connector asked
  unfold ensurePolicy
  rw [run_say_bind, run_ask_bind _ (by simpa using hfound), hshows]
  cases hheld : (stores.after progress.exchanges connector).holds id with
  | true =>
    refine ⟨[⟨.findPolicy connector id, .ok found⟩], .lookUps ?_ ?_, _, rfl, by simp⟩
    · simpa [Need.Met] using hheld
    · simp [Call.isLookUp]
  | false =>
    obtain ⟨created, hcreated, hok⟩ := faithful.created
      (progress.exchanges ++ [⟨.findPolicy connector id, .ok found⟩])
      (.createPolicy connector policy) rfl
    refine ⟨[⟨.findPolicy connector id, .ok found⟩, ⟨.createPolicy connector policy, .ok created⟩],
      settled_createPolicy named hheld, ?_⟩
    rw [if_neg Bool.false_ne_true, createPolicy, run_create_bind _ (by simpa using hcreated), hok,
      if_neg Bool.false_ne_true]
    exact ⟨_, rfl, by simp⟩

def entryNeeds (connectors : List String) (entry : String × Json) : List Need :=
  (policyId? entry.2).toList.flatMap fun id => connectors.map (.policy · id entry.2)

theorem mem_entryNeeds : need ∈ entryNeeds connectors entry ↔
    ∃ connector ∈ connectors, ∃ id, policyId? entry.2 = some id ∧
      need = .policy connector id entry.2 := by
  simp only [entryNeeds, List.mem_flatMap, List.mem_map, Option.mem_toList]
  constructor
  · rintro ⟨id, hid, connector, hc, rfl⟩
    exact ⟨connector, hc, id, hid, rfl⟩
  · rintro ⟨connector, hc, id, hid, rfl⟩
    exact ⟨id, hid, connector, hc, rfl⟩

theorem find?_entryNeeds {entries : List (String × Json)} {connector id : String}
    (h : (entries.flatMap (entryNeeds connectors)).find? (Need.isPolicy connector id) =
      some (.policy connector id document)) :
    ∃ name, entries.find? (fun entry => policyId? entry.2 == some id) = some (name, document) := by
  induction entries with
  | nil => cases h
  | cons entry entries ih =>
    rw [List.flatMap_cons, List.find?_append] at h
    rw [List.find?_cons]
    cases hfind : (entryNeeds connectors entry).find? (Need.isPolicy connector id) with
    | some need =>
      rw [hfind, Option.some_or] at h
      cases h
      obtain ⟨_, _, _, hid, heq⟩ := mem_entryNeeds.mp (List.mem_of_find?_eq_some hfind)
      cases heq
      exact ⟨entry.1, by simp [hid]⟩
    | none =>
      rw [hfind, Option.none_or] at h
      have hother : policyId? entry.2 ≠ some id := by
        intro hid
        -- The connector that needs the policy would need this one first.
        obtain ⟨_, _, hmem⟩ := List.mem_flatMap.mp (List.mem_of_find?_eq_some h)
        obtain ⟨_, hc, _, _, heq⟩ := mem_entryNeeds.mp hmem
        cases heq
        have hneed := mem_entryNeeds.mpr ⟨connector, hc, id, hid, rfl⟩
        have hnot := List.find?_eq_none.mp hfind _ hneed
        simp [Need.isPolicy] at hnot
      rw [beq_eq_false_iff_ne.mpr hother]
      exact ih h

theorem settles_ensureNamedPolicy {policies : Members Json}
    (faithful : world.network.Faithful stores (policyIds policies))
    (connectors : List String) (hentry : entry ∈ policies.entries) :
    (ensureNamedPolicy connectors entry).Settles world stores
      (entryNeeds connectors entry) := by
  unfold ensureNamedPolicy entryNeeds
  split
  · rename_i hnone
    rw [hnone]
    exact .say _
  · rename_i id hid
    have asked : id ∈ policyIds policies := List.mem_filterMap.mpr ⟨entry, hentry, hid⟩
    rw [hid, Option.toList_some, List.flatMap_singleton, List.map_eq_flatMap]
    exact .forM fun connector _ => settles_ensurePolicy faithful asked hid connector

-- ---------------------------------------------------------------------------
-- Offers
-- ---------------------------------------------------------------------------

namespace Offer

/-- The asset passes the filter, under the id that its definition will select. -/
structure Consistent (offer : Offer) : Prop where
  admitted : ∀ provider,
    Document.admits (CatalogRequest.mk provider offer.filter).toJson offer.asset.toJson = true
  named : Document.entryId? offer.asset.toJson = some offer.assetId

theorem registry_consistent (registryUrl : String) : (registry registryUrl).Consistent := by
  refine ⟨fun provider => ?_, ?_⟩
  · simp [registry, AssetRequest.registry, AssetRequest.assetType?, Members.find?]
  · simp [registry, AssetRequest.registry]

theorem notification_consistent (baseUrl : String) (kind : NotificationKind) :
    (notification baseUrl kind).Consistent := by
  refine ⟨fun provider => ?_, ?_⟩
  · simp [notification, AssetRequest.notification]
  · simp [notification, AssetRequest.notification]

/-- Creating asset and definition is what the offer was missing. -/
theorem Consistent.offers {offer : Offer} (consistent : offer.Consistent) (store : Store)
    (connector policyId provider : String) :
    ((store.receive (.createAsset connector offer.asset)).receive
      (.createDefinition connector (.offer policyId offer.assetId))).offers
        (CatalogRequest.mk provider offer.filter).toJson = true := by
  refine Store.offers_iff.mpr ⟨offer.asset.toJson, ?_, consistent.admitted provider,
    offer.assetId, consistent.named, (ContractDefinition.offer policyId offer.assetId).toJson,
    ?_, ?_⟩
  · simp [Store.receive]
  · simp [Store.receive]
  · simp [ContractDefinition.offer]

end Offer

theorem settled_createOffer {offer : Offer} (consistent : offer.Consistent)
    (missing : (stores.after before upload).offers
      (CatalogRequest.mk provider offer.filter).toJson = false) :
    Settled stores [.offer upload offer.filter] before
      [⟨.queryCatalog upload ⟨provider, offer.filter⟩, found⟩,
        ⟨.createAsset upload offer.asset, created⟩,
        ⟨.createDefinition upload (.offer policyId offer.assetId), defined⟩] := by
  refine ⟨fun need hn => ?met, fun hmet => ?idle, fun target other => ?once,
    fun exchange hx target document other hcall => ?earliest⟩
  case met =>
    obtain rfl := List.mem_singleton.mp hn
    intro other
    rw [Stores.after_append]
    simpa [Stores.after, Stores.receive, Call.connector?, Store.receive] using
      consistent.offers (stores.after before upload) upload policyId other
  case idle =>
    have h := hmet _ (List.mem_singleton.mpr rfl) provider
    exact absurd (missing.symm.trans h) Bool.false_ne_true
  case once => simp [Call.createsPolicy]
  case earliest =>
    simp only [List.mem_cons, List.not_mem_nil, or_false] at hx
    rcases hx with rfl | rfl | rfl <;> cases hcall

theorem settles_ensureOffer (faithful : world.network.Faithful stores ids) {offer : Offer}
    (consistent : offer.Consistent) (display upload policyId : String) :
    (ensureOffer display upload policyId offer).Settles world stores
      [.offer upload offer.filter] := by
  intro progress
  let query : Call := .queryCatalog upload ⟨Endpoint.protocol display, offer.filter⟩
  obtain ⟨found, hfound, hlists⟩ := faithful.listsOffers progress.exchanges upload
    ⟨Endpoint.protocol display, offer.filter⟩
  unfold ensureOffer
  rw [run_say_bind, run_ask_bind _ (by simpa using hfound), hlists]
  cases hoffered : (stores.after progress.exchanges upload).offers
      (CatalogRequest.mk (Endpoint.protocol display) offer.filter).toJson with
  | true =>
    refine ⟨[⟨query, .ok found⟩], .lookUps (fun need hn => ?_) ?_, _, rfl, by simp [query]⟩
    · obtain rfl := List.mem_singleton.mp hn
      intro provider
      rwa [Store.offers_provider _ _ provider (Endpoint.protocol display)]
    · simp [Call.isLookUp, query]
  | false =>
    let asset : Call := .createAsset upload offer.asset
    let definition : Call := .createDefinition upload (.offer policyId offer.assetId)
    obtain ⟨created, hcreated, hok⟩ := faithful.created
      (progress.exchanges ++ [⟨query, .ok found⟩]) asset rfl
    obtain ⟨defined, hdefined, -⟩ := faithful.created
      (progress.exchanges ++ [⟨query, .ok found⟩, ⟨asset, .ok created⟩]) definition rfl
    refine ⟨[⟨query, .ok found⟩, ⟨asset, .ok created⟩, ⟨definition, .ok defined⟩],
      settled_createOffer consistent hoffered, ?_⟩
    rw [if_neg Bool.false_ne_true, createOffer, run_create_bind _ (by simpa using hcreated), hok,
      if_neg Bool.false_ne_true, run_say_bind, createDefinition,
      run_create_bind _ (by simpa using hdefined)]
    exact ⟨_, rfl, by simp [query, asset, definition]⟩

end Dataspace
