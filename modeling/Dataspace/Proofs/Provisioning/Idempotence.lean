import Dataspace.Plan.Run
import Dataspace.Proofs.Provisioning.Ensure
import Dataspace.Proofs.Settings.Parallel

/-!
# Provisioning is idempotent

Against connectors that answer faithfully from their stores, one pass of
provisioning leaves every policy and every offer in place and creates no policy
twice; of policies that share an id, the first of the map is the one created. A
second pass finds everything (`ensureAll_idempotent`).
-/

namespace Dataspace

open Plan

variable {world : World} {stores : Stores} {ids : List String}

-- ---------------------------------------------------------------------------
-- A whole pass
-- ---------------------------------------------------------------------------

/-- Every policy that has an id is there, and every offer is listed whatever
provider is asked for. -/
structure Store.Provisioned (store : Store) (policies : Members Json) : Prop where
  policies : ∀ entry ∈ policies.entries, ∀ id, policyId? entry.2 = some id →
    store.holds id = true
  registry : ∀ provider, store.offers
    (CatalogRequest.mk provider (.type AssetRequest.registryType)).toJson = true
  notifications : ∀ (kind : NotificationKind) provider, store.offers
    (CatalogRequest.mk provider (.id kind.assetId)).toJson = true

namespace Config

def ensureAll (config : Config) (policies : Members Json) (baseUrl : String) : Plan Unit := do
  config.ensurePolicies policies
  config.ensureRegistry
  config.ensureNotifications baseUrl

def offerNeeds (config : Config) (offers : List Offer) : List Need :=
  config.connectors.flatMap fun connector =>
    offers.flatMap fun offer => [.offer connector.2 offer.filter]

def needs (config : Config) (policies : Members Json) (baseUrl : String) : List Need :=
  policies.entries.flatMap (entryNeeds config.connectorUploadUrls) ++
    (config.offerNeeds [.registry config.registryUrl] ++
      config.offerNeeds (NotificationKind.all.map (.notification baseUrl)))

variable {settings : Settings} {config : Config} {policies : Members Json}

theorem settles_ensureOffers (faithful : world.network.Faithful stores ids) {offers : List Offer}
    (consistent : ∀ offer ∈ offers, offer.Consistent) :
    (config.ensureOffers offers).Settles world stores (config.offerNeeds offers) :=
  .forM fun _ _ => .forM fun offer ho => settles_ensureOffer faithful (consistent offer ho) _ _ _

theorem settles_ensureAll (faithful : world.network.Faithful stores (policyIds policies))
    (baseUrl : String) :
    (config.ensureAll policies baseUrl).Settles world stores (config.needs policies baseUrl) := by
  refine .bind ?policies (.bind ?registry ?notifications)
  case policies =>
    exact .forM fun entry he => settles_ensureNamedPolicy faithful config.connectorUploadUrls he
  case registry =>
    refine settles_ensureOffers faithful fun offer ho => ?_
    obtain rfl := List.mem_singleton.mp ho
    exact Offer.registry_consistent _
  case notifications =>
    refine settles_ensureOffers faithful fun offer ho => ?_
    obtain ⟨kind, -, rfl⟩ := List.mem_map.mp ho
    exact Offer.notification_consistent baseUrl kind

theorem offer_met (parallel : config.Parallel n)
    (met : ∀ need ∈ config.offerNeeds offers, need.Met stores)
    (hc : connector ∈ config.connectorUploadUrls) (ho : offer ∈ offers) :
    (Need.offer connector offer.filter).Met stores := by
  have hle : config.connectorUploadUrls.length ≤ config.connectorUrls.length :=
    Nat.le_of_eq (parallel.connectorUpload.trans parallel.connector.symm)
  rw [← List.map_snd_zip hle] at hc
  obtain ⟨pair, hpair, rfl⟩ := List.mem_map.mp hc
  exact met _ (List.mem_flatMap.mpr ⟨pair, hpair, List.mem_flatMap.mpr
    ⟨offer, ho, List.mem_singleton.mpr rfl⟩⟩)

theorem provisioned_of_met (parallel : config.Parallel n)
    (met : ∀ need ∈ config.needs policies baseUrl, need.Met stores)
    (hc : connector ∈ config.connectorUploadUrls) : (stores connector).Provisioned policies := by
  obtain ⟨hpolicies, hoffers⟩ := List.forall_mem_append.mp met
  obtain ⟨hregistry, hnotifications⟩ := List.forall_mem_append.mp hoffers
  refine ⟨fun entry he id hid => ?policy, ?registry, fun kind => ?notification⟩
  case policy =>
    have hneed := mem_entryNeeds.mpr ⟨connector, hc, id, hid, rfl⟩
    exact hpolicies _ (List.mem_flatMap.mpr ⟨entry, he, hneed⟩)
  case registry => exact offer_met parallel hregistry hc (List.mem_singleton.mpr rfl)
  case notification =>
    exact offer_met parallel hnotifications hc (List.mem_map_of_mem kind.mem_all)

theorem find?_needs {connector id : String}
    (h : (config.needs policies baseUrl).find? (Need.isPolicy connector id) =
      some (.policy connector id document)) :
    ∃ name, policies.entries.find? (fun entry => policyId? entry.2 == some id) =
      some (name, document) := by
  have hoffers : ∀ offers,
      (config.offerNeeds offers).find? (Need.isPolicy connector id) = none := by
    intro offers
    refine List.find?_eq_none.mpr fun need hn => ?_
    simp only [offerNeeds, List.mem_flatMap, List.mem_singleton] at hn
    obtain ⟨_, _, _, _, rfl⟩ := hn
    exact Bool.false_ne_true
  rw [needs, List.find?_append, List.find?_append, hoffers, hoffers, Option.or_none,
    Option.or_none] at h
  exact find?_entryNeeds h

-- ---------------------------------------------------------------------------
-- Two passes
-- ---------------------------------------------------------------------------

/-- From whatever the connectors hold before. -/
theorem ensureAll_idempotent (valid : settings.validate = .ok config)
    (faithful : world.network.Faithful stores (policyIds policies)) (baseUrl : String)
    (before : Progress) :
    ∃ first calls second lookUps,
      (config.ensureAll policies baseUrl).run world before = (.ok (), first) ∧
      first.exchanges = before.exchanges ++ calls ∧
      (∀ connector ∈ config.connectorUploadUrls,
        (stores.after first.exchanges connector).Provisioned policies) ∧
      (∀ connector id, calls.countP (fun exchange => exchange.call.createsPolicy connector id) ≤
        if (stores.after before.exchanges connector).holds id then 0 else 1) ∧
      (∀ exchange ∈ calls, ∀ connector policy id,
        exchange.call = .createPolicy connector policy → policyId? policy = some id →
        ∃ name, policies.entries.find? (fun entry => policyId? entry.2 == some id) =
          some (name, policy)) ∧
      (config.ensureAll policies baseUrl).run world first = (.ok (), second) ∧
      second.exchanges = first.exchanges ++ lookUps ∧
      (∀ exchange ∈ lookUps, exchange.call.isLookUp = true) ∧
      stores.after second.exchanges = stores.after first.exchanges := by
  have settles : (config.ensureAll policies baseUrl).Settles world stores _ :=
    settles_ensureAll faithful baseUrl
  obtain ⟨calls, hcalls, first, hfirst, hx⟩ := settles before
  obtain ⟨lookUps, hlookUps, second, hsecond, hx'⟩ := settles first
  have met := hcalls.met
  rw [← hx] at met
  have idle := hlookUps.idle met
  refine ⟨first, calls, second, lookUps, hfirst, hx, fun connector hc => ?_, hcalls.once,
    fun exchange hexchange connector policy id hcall hid => ?_, hsecond, hx', idle, ?_⟩
  · exact provisioned_of_met (Settings.validate_parallel valid) met hc
  · exact find?_needs (hcalls.earliest exchange hexchange connector policy id hcall hid)
  · rw [hx', Stores.after_append, Stores.after_lookUps idle]

end Config

namespace Sample

/-- Two policies of one id, and one without an id. -/
def policies : Members Json :=
  .ofList [("first", .object [("@id", .string "shared")]),
    ("second", .object [("@id", .string "shared"), ("policy", .null)]), ("third", .null)]

def policyText : String := "\x7b\"@id\":\"shared\"\x7d"

def connectors : World where
  network := Stores.network (fun _ => .empty) policyText
  identifier := Identifier.stream 0

theorem connectors_faithful :
    connectors.network.Faithful (fun _ => .empty) (policyIds policies) := by
  have shown : Json.parse? policyText = some (.object [("@id", .string "shared")]) := rfl
  exact Stores.network_faithful _ shown (by decide)

end Sample

theorem Config.ensureAll_idempotent_sample :
    ∃ first calls second lookUps,
      (Sample.config.ensureAll Sample.policies "http://notify").run Sample.connectors
        (.start .initial) = (.ok (), first) ∧
      first.exchanges = calls ∧
      (Stores.after (fun _ => .empty) first.exchanges "http://connector-1").Provisioned
        Sample.policies ∧
      calls.countP (fun exchange =>
        exchange.call.createsPolicy "http://connector-1" "shared") ≤ 1 ∧
      (Sample.config.ensureAll Sample.policies "http://notify").run Sample.connectors first =
        (.ok (), second) ∧
      second.exchanges = first.exchanges ++ lookUps ∧
      (∀ exchange ∈ lookUps, exchange.call.isLookUp = true) := by
  obtain ⟨first, calls, second, lookUps, hfirst, hx, hall, honce, -, hsecond, hx', hidle, -⟩ :=
    ensureAll_idempotent Sample.settings_valid Sample.connectors_faithful "http://notify"
      (.start .initial)
  exact ⟨first, calls, second, lookUps, hfirst, hx, hall _ (by decide), honce _ _, hsecond, hx',
    hidle⟩

end Dataspace
