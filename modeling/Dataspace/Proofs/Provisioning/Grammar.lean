import Dataspace.Proofs.Document
import Dataspace.Proofs.Provisioning.Store
import Dataspace.Proofs.Seeding.Grammar
import Dataspace.Proofs.Seeding.Run

/-!
# The calls of provisioning

Which sequences of calls provisioning can make, as connectors see them: a look-up
for each policy and each offer, and the posts that follow if the answer shows
nothing. `PolicyCalls` and `OfferCalls` are the terminals. Every run against a
network that answers opens with a sequence of this grammar, and goes on with the
calls of its records (`seed_calls`).
-/

namespace Dataspace

open Plan

-- ---------------------------------------------------------------------------
-- Requests and answers
-- ---------------------------------------------------------------------------

structure Request where
  method : Method
  url : String
  audience : Audience
  document : Option Json

namespace Request

def get (url : String) : Request := ⟨.get, url, .connector, none⟩

def post (url : String) (document : Json) : Request := ⟨.post, url, .connector, some document⟩

end Request

def Call.request (call : Call) : Request := ⟨call.method, call.url, call.audience, call.document?⟩

def Exchange.Is (exchange : Exchange) (request : Request) (answer : Response) : Prop :=
  exchange.call.request = request ∧ exchange.answer = .ok answer

inductive Json.Blank : Json → Prop
  | null : Blank .null
  | false : Blank (.bool false)
  | integer : Blank (.number (.integer 0))
  | real (zero : value.mantissa = 0) : Blank (.number (.real value))
  | string : Blank (.string "")
  | array : Blank (.array [])
  | object : Blank (.object [])

/-- Data sets are listed in an array, a single one as an object. -/
inductive Json.Catalog : Json → Prop
  | array (listed : Members.find? "dcat:dataset" members = some (.array (item :: items))) :
      Catalog (.object members)
  | object (listed : Members.find? "dcat:dataset" members = some (.object (member :: more))) :
      Catalog (.object members)

/-- An answer of status 200 whose body is the text of such a value. -/
def Response.Shows (answer : Response) (content : Json → Prop) : Prop :=
  answer.status = 200 ∧ ∃ json, Json.parse? answer.body = some json ∧ content json

theorem Json.isPresent_iff {json : Json} : json.isPresent = true ↔ ¬json.Blank := by
  constructor
  · rintro h (_ | _ | _ | zero | _ | _ | _)
    all_goals first | cases h | simp [isPresent, Number.isZero, Binary64.isZero, zero] at h
  · intro h
    cases json with
    | null => exact absurd .null h
    | bool value =>
      cases value with
      | false => exact absurd .false h
      | true => rfl
    | number number =>
      cases number with
      | integer value =>
        have hne : value ≠ 0 := fun hz => h (hz ▸ .integer)
        simpa [isPresent, Number.isZero] using hne
      | real value =>
        have hne : value.mantissa ≠ 0 := fun hz => h (.real hz)
        simpa [isPresent, Number.isZero, Binary64.isZero] using hne
    | string value =>
      have hne : value ≠ "" := fun hz => h (hz ▸ .string)
      simpa [isPresent] using hne
    | array items =>
      cases items with
      | nil => exact absurd .array h
      | cons item items => rfl
    | object members =>
      cases members with
      | nil => exact absurd .object h
      | cons member members => rfl

theorem Json.hasOffers_iff {json : Json} : json.hasOffers = true ↔ json.Catalog := by
  constructor
  · intro h
    unfold hasOffers at h
    cases json with
    | object members =>
      rw [member?_object] at h
      split at h
      · rename_i items hlisted
        cases items with
        | nil => cases h
        | cons item items => exact .array hlisted
      · rename_i more hlisted
        cases more with
        | nil => cases h
        | cons member more => exact .object hlisted
      · cases h
    | _ => cases h
  · rintro (listed | listed)
    · simp [hasOffers, listed]
    · simp [hasOffers, listed]

namespace Response

variable {answer : Response}

theorem showsPolicy_iff : answer.showsPolicy = true ↔ answer.Shows fun json => ¬json.Blank := by
  simp [showsPolicy, json?, Shows, Option.any_eq_true, Json.isPresent_iff]

theorem listsOffers_iff : answer.listsOffers = true ↔ answer.Shows Json.Catalog := by
  simp [listsOffers, json?, Shows, Option.any_eq_true, Json.hasOffers_iff]

end Response

-- ---------------------------------------------------------------------------
-- The grammar
-- ---------------------------------------------------------------------------

inductive InTurn (calls : α → List Exchange → Prop) : List α → List Exchange → Prop
  | nil : InTurn calls [] []
  | cons (first : calls item exchanges) (rest : InTurn calls items later) :
      InTurn calls (item :: items) (exchanges ++ later)

/-- A policy is looked for under its id, and created as it is if nothing is
shown. -/
inductive PolicyCalls (connector id : String) (policy : Json) : List Exchange → Prop
  | present
      (lookUp : first.Is
        (.get (connector ++ "/management/v2/policydefinitions" ++ "/" ++ id)) found)
      (shown : found.Shows fun json => ¬json.Blank) :
      PolicyCalls connector id policy [first]
  | absent
      (lookUp : first.Is
        (.get (connector ++ "/management/v2/policydefinitions" ++ "/" ++ id)) found)
      (missing : ¬found.Shows fun json => ¬json.Blank)
      (creation : second.Is (.post (connector ++ "/management/v2/policydefinitions") policy)
        created) :
      PolicyCalls connector id policy [first, second]

inductive EntryCalls (connectors : List String) (policy : Json) : List Exchange → Prop
  | unnamed (h : ∀ members id, policy = .object members →
      Members.find? "@id" members ≠ some (.string id)) :
      EntryCalls connectors policy []
  | named {id : String} (object : policy = .object members)
      (named : Members.find? "@id" members = some (.string id))
      (calls : InTurn (PolicyCalls · id policy) connectors exchanges) :
      EntryCalls connectors policy exchanges

/-- Asks the connector `upload` what `display` offers that meets a criterion. -/
structure Exchange.Queries (exchange : Exchange) (display upload : String)
    (criterion : String × String × String) (answer : Response) : Prop where
  request : ∃ document,
    exchange.Is (.post (upload ++ "/management/v2/catalog/request") document) answer ∧
    document.textAt? [.member "edc:providerUrl"] = some (display ++ "/api/v1/dsp") ∧
    Document.filter? document = some criterion

/-- An offer is looked for by a criterion. If none is listed the asset is
posted, and unless it was refused a contract definition that selects it. -/
inductive OfferCalls (display upload policyId : String) (criterion : String × String × String)
    (assetId : String) (asset : Json) : List Exchange → Prop
  | listed (query : first.Queries display upload criterion found)
      (shown : found.Shows Json.Catalog) :
      OfferCalls display upload policyId criterion assetId asset [first]
  | refused (query : first.Queries display upload criterion found)
      (missing : ¬found.Shows Json.Catalog)
      (creation : second.Is (.post (upload ++ "/management/v2/assets") asset) created)
      (refusal : 205 < created.status) :
      OfferCalls display upload policyId criterion assetId asset [first, second]
  | created (query : first.Queries display upload criterion found)
      (missing : ¬found.Shows Json.Catalog)
      (creation : second.Is (.post (upload ++ "/management/v2/assets") asset) created)
      (success : created.status ≤ 205)
      (offer : third.Is (.post (upload ++ "/management/v2/contractdefinitions") definition)
        outcome)
      (access : Document.accessPolicy? definition = some policyId)
      (contract : Document.contractPolicy? definition = some policyId)
      (selector : Document.selector? definition = some (Vocabulary.id, "=", assetId)) :
      OfferCalls display upload policyId criterion assetId asset [first, second, third]

def RegistryCalls (config : Config) (connector : String × String) : List Exchange → Prop :=
  OfferCalls connector.1 connector.2 config.defaultPolicy
    (Vocabulary.type, "=", "data.core.digitalTwinRegistry") "registry-asset"
    (AssetRequest.registry config.registryUrl "registry-asset").toJson

def NotificationCalls (config : Config) (baseUrl : String) (connector : String × String)
    (kind : NotificationKind) : List Exchange → Prop :=
  OfferCalls connector.1 connector.2 config.defaultPolicy (Vocabulary.id, "=", kind.assetId)
    kind.assetId (AssetRequest.notification (baseUrl ++ kind.path) kind).toJson

inductive TestingCalls (config : Config) : Option String → List Exchange → Prop
  | off : TestingCalls config none []
  | on (calls : InTurn
      (fun connector => InTurn (NotificationCalls config baseUrl connector)
        [.supplierResponse, .supplierRequest, .supplierRequestRecursive])
      (config.connectorUrls.zip config.connectorUploadUrls) exchanges) :
      TestingCalls config (some baseUrl) exchanges

inductive ProvisioningCalls (config : Config) (policies : Members Json)
    (service : Option String) : List Exchange → Prop
  | calls
      (entries : InTurn (fun entry => EntryCalls config.connectorUploadUrls entry.2)
        policies.entries first)
      (registry : InTurn (RegistryCalls config)
        (config.connectorUrls.zip config.connectorUploadUrls) second)
      (testing : TestingCalls config service third) :
      ProvisioningCalls config policies service (first ++ second ++ third)

-- ---------------------------------------------------------------------------
-- Traces follow it
-- ---------------------------------------------------------------------------

theorem InTurn.of_traceEach {plan : α → Plan β} {calls : α → List Exchange → Prop}
    (each : ∀ item events value, Trace (plan item) events (some value) →
      calls item (events.filterMap Event.exchange?))
    (h : TraceEach plan items events values) :
    InTurn calls items (events.filterMap Event.exchange?) := by
  induction h with
  | nil => exact .nil
  | cons first _ ih =>
    rw [List.filterMap_append]
    exact .cons (each _ _ _ first) ih

theorem InTurn.of_forM {plan : α → Plan Unit} {calls : α → List Exchange → Prop}
    (each : ∀ item events value, Trace (plan item) events (some value) →
      calls item (events.filterMap Event.exchange?))
    (h : Trace (items.forM plan) events (some u)) :
    InTurn calls items (events.filterMap Event.exchange?) := by
  obtain ⟨_, heach⟩ := trace_forM_some h
  exact .of_traceEach each heach

theorem InTurn.imp {calls other : α → List Exchange → Prop} (h : InTurn calls items exchanges)
    (weaker : ∀ item exchanges, calls item exchanges → other item exchanges) :
    InTurn other items exchanges := by
  induction h with
  | nil => exact .nil
  | cons first _ ih => exact .cons (weaker _ _ first) ih

theorem InTurn.of_map {calls : α → List Exchange → Prop} {f : β → α} {items : List β}
    (h : InTurn calls (items.map f) exchanges) :
    InTurn (fun item => calls (f item)) items exchanges := by
  generalize hm : items.map f = mapped at h
  induction h generalizing items with
  | nil =>
    obtain rfl := List.map_eq_nil_iff.mp hm
    exact .nil
  | cons first _ ih =>
    obtain ⟨item, rest, rfl, rfl, hrest⟩ := List.map_eq_cons_iff.mp hm
    exact .cons first (ih hrest)

theorem InTurn.singleton {calls : α → List Exchange → Prop}
    (h : InTurn calls [item] exchanges) : calls item exchanges := by
  cases h with
  | cons first rest =>
    cases rest
    rwa [List.append_nil]

theorem trace_create_some (h : Trace (create resource request) events (some answer)) :
    events.filterMap Event.exchange? = [⟨request, .ok answer⟩] := by
  rcases trace_create.mp h with ⟨_, rfl, ho⟩ | ⟨_, -, ho⟩
  · cases ho
    rfl
  · cases ho

theorem trace_createPolicy {id : String}
    (h : Trace (createPolicy connector id policy) events (some u)) :
    ∃ answer, events.filterMap Event.exchange? =
      [⟨.createPolicy connector policy, .ok answer⟩] := by
  obtain ⟨answer, first, rest, rfl, hcreate, hrest⟩ := trace_bind_some.mp h
  have hsilent : rest.filterMap Event.exchange? = [] := by
    split at hrest
    · obtain ⟨rfl, -⟩ := trace_pure.mp hrest
      rfl
    · obtain ⟨rfl, -⟩ := trace_say.mp hrest
      rfl
  exact ⟨answer, by rw [List.filterMap_append, trace_create_some hcreate, hsilent]; rfl⟩

theorem trace_ensurePolicy {id : String}
    (h : Trace (ensurePolicy connector id policy) events (some u)) :
    PolicyCalls connector id policy (events.filterMap Event.exchange?) := by
  obtain ⟨_, rfl, hask⟩ := trace_say_bind.mp h
  obtain ⟨found, rest, rfl, hrest⟩ := trace_ask_bind_some.mp hask
  simp only [List.filterMap_cons, Event.exchange?]
  split at hrest
  · rename_i shown
    obtain ⟨rfl, -⟩ := trace_say.mp hrest
    exact .present ⟨rfl, rfl⟩ (Response.showsPolicy_iff.mp shown)
  · rename_i missing
    obtain ⟨answer, hcreate⟩ := trace_createPolicy hrest
    rw [hcreate]
    exact .absent ⟨rfl, rfl⟩ (fun h => missing (Response.showsPolicy_iff.mpr h)) ⟨rfl, rfl⟩

theorem policyId?_eq_some {id : String} : policyId? policy = some id ↔
    ∃ members, policy = .object members ∧ Members.find? "@id" members = some (.string id) := by
  cases policy with
  | object members =>
    simp only [policyId?, Json.member?_object, Option.bind_eq_some_iff, Json.object.injEq,
      exists_eq_left']
    constructor
    · rintro ⟨json, hfind, hid⟩
      cases json with
      | string text =>
        cases hid
        exact hfind
      | _ => cases hid
    · exact fun h => ⟨_, h, rfl⟩
  | _ => simp [policyId?, Json.member?]

theorem trace_ensureNamedPolicy
    (h : Trace (ensureNamedPolicy connectors entry) events (some u)) :
    EntryCalls connectors entry.2 (events.filterMap Event.exchange?) := by
  unfold ensureNamedPolicy at h
  split at h
  · rename_i hnone
    obtain ⟨rfl, -⟩ := trace_say.mp h
    refine .unnamed fun members id hobject hfind => ?_
    cases hnone.symm.trans (policyId?_eq_some.mpr ⟨members, hobject, hfind⟩)
  · rename_i id hid
    obtain ⟨members, hobject, hfind⟩ := policyId?_eq_some.mp hid
    exact .named hobject hfind (.of_forM (fun _ _ _ => trace_ensurePolicy) h)

theorem trace_createOffer (h : Trace (createOffer upload policyId offer) events (some u)) :
    ∃ created rest, events.filterMap Event.exchange? =
      ⟨.createAsset upload offer.asset, .ok created⟩ :: rest ∧
      ((205 < created.status ∧ rest = []) ∨ (created.status ≤ 205 ∧ ∃ outcome, rest =
        [⟨.createDefinition upload (.offer policyId offer.assetId), .ok outcome⟩])) := by
  obtain ⟨created, first, rest, rfl, hcreate, hrest⟩ := trace_bind_some.mp h
  refine ⟨created, rest.filterMap Event.exchange?, ?_, ?_⟩
  · rw [List.filterMap_append, trace_create_some hcreate]
    rfl
  · split at hrest
    · rename_i failed
      obtain ⟨rfl, -⟩ := trace_pure.mp hrest
      exact .inl ⟨by simpa [Response.isFailure] using failed, rfl⟩
    · rename_i succeeded
      obtain ⟨_, rfl, hdefine⟩ := trace_say_bind.mp hrest
      obtain ⟨outcome, _, _, rfl, hdefinition, hend⟩ := trace_bind_some.mp hdefine
      obtain ⟨rfl, -⟩ := trace_pure.mp hend
      refine .inr ⟨by simpa [Response.isFailure] using succeeded, outcome, ?_⟩
      simpa [List.filterMap_cons] using trace_createDefinition hdefinition

theorem trace_ensureOffer
    (h : Trace (ensureOffer display upload policyId offer) events (some u)) :
    OfferCalls display upload policyId (offer.filter.property, "=", offer.filter.value)
      offer.assetId offer.asset.toJson (events.filterMap Event.exchange?) := by
  obtain ⟨_, rfl, hask⟩ := trace_say_bind.mp h
  obtain ⟨found, rest, rfl, hrest⟩ := trace_ask_bind_some.mp hask
  simp only [List.filterMap_cons, Event.exchange?]
  have query : Exchange.Queries
      ⟨.queryCatalog upload ⟨Endpoint.protocol display, offer.filter⟩, .ok found⟩ display upload
      (offer.filter.property, "=", offer.filter.value) found :=
    ⟨_, ⟨rfl, rfl⟩, rfl, Document.filter?_toJson _⟩
  split at hrest
  · rename_i shown
    obtain ⟨rfl, -⟩ := trace_say.mp hrest
    exact .listed query (Response.listsOffers_iff.mp shown)
  · rename_i missing
    have unlisted := fun h => missing (Response.listsOffers_iff.mpr h)
    obtain ⟨created, posts, hposts, ⟨failed, rfl⟩ | ⟨succeeded, outcome, rfl⟩⟩ :=
      trace_createOffer hrest
    · rw [hposts]
      exact .refused query unlisted ⟨rfl, rfl⟩ failed
    · rw [hposts]
      exact .created query unlisted ⟨rfl, rfl⟩ succeeded ⟨rfl, rfl⟩
        (Document.accessPolicy?_toJson _) (Document.contractPolicy?_toJson _)
        (Document.selector?_toJson _)

section

variable {settings : Settings} {config : Config} {world : World}

theorem trace_ensureOffers {offers : List Offer}
    (h : Trace (config.ensureOffers offers) events (some u)) :
    InTurn (fun connector => InTurn (fun offer : Offer =>
        OfferCalls connector.1 connector.2 config.defaultPolicy
          (offer.filter.property, "=", offer.filter.value) offer.assetId offer.asset.toJson)
        offers)
      config.connectors (events.filterMap Event.exchange?) :=
  .of_forM (fun _ _ _ => .of_forM fun _ _ _ => trace_ensureOffer) h

theorem trace_provision (h : Trace (config.provision policies) events (some u)) :
    ProvisioningCalls config policies (config.notifications.map NotificationTesting.baseUrl)
      (events.filterMap Event.exchange?) := by
  obtain ⟨_, first, _, rfl, hpolicies, hrest⟩ := trace_bind_some.mp h
  obtain ⟨_, second, third, rfl, hregistry, htesting⟩ := trace_bind_some.mp hrest
  rw [List.filterMap_append, List.filterMap_append, ← List.append_assoc]
  refine .calls ?entries ?registry ?testing
  case entries => exact .of_forM (fun _ _ _ => trace_ensureNamedPolicy) hpolicies
  case registry => exact (trace_ensureOffers hregistry).imp fun connector _ h => h.singleton
  case testing =>
    cases hservice : config.notifications with
    | none =>
      rw [hservice] at htesting
      obtain ⟨rfl, -⟩ := trace_pure.mp htesting
      exact .off
    | some testing =>
      rw [hservice] at htesting
      refine .on ((trace_ensureOffers htesting).imp fun connector _ h => ?_)
      have hkinds := h.of_map
      exact hkinds

-- ---------------------------------------------------------------------------
-- Runs follow it
-- ---------------------------------------------------------------------------

theorem Uploader.UploadedEach.recordPosts {uploader : Uploader}
    (h : uploader.UploadedEach records events (some outcomes)) :
    InTurn (RecordPosts uploader.config) records (events.filterMap Event.exchange?) := by
  generalize ho : some outcomes = result at h
  induction h generalizing outcomes with
  | nil => exact .nil
  | ended first _ ih =>
    obtain ⟨_, hrest, -⟩ := Option.map_eq_some_iff.mp ho.symm
    rw [List.filterMap_append]
    exact .cons first.recordPosts (ih hrest.symm)
  | aborted => cases ho

/-- First what is provisioned, then what is posted for the records that are due. -/
theorem seed_calls (valid : settings.validate = .ok config) (fixture : Fixture)
    (answers : world.network.AnswersAll) :
    config.connectorUrls.length = config.connectorUploadUrls.length ∧
    ∃ totals later opening rest,
      (seed config fixture).run world (.start .initial) = (.ok totals, later) ∧
      later.exchanges = opening ++ rest ∧
      ProvisioningCalls config fixture.policies
        (if settings.ess then settings.essUrl else none) opening ∧
      InTurn (RecordPosts config) (config.due fixture.records) rest := by
  have parallel := Settings.validate_parallel valid
  refine ⟨parallel.connector.trans parallel.connectorUpload.symm, ?_⟩
  have service : config.notifications.map NotificationTesting.baseUrl =
      if settings.ess then settings.essUrl else none := by
    rw [Settings.validate_notifications valid]
    split
    · cases settings.essUrl <;> rfl
    · rfl
  obtain ⟨totals, later, uploader, first, third, outcomes, hrun, hcalls, provisioned, equipped,
    uploaded⟩ := run_seed parallel fixture answers (.start .initial)
  have opening := trace_provision provisioned
  have records := uploaded.recordPosts
  rw [service] at opening
  rw [equipped.config_eq] at records
  exact ⟨totals, later, first.filterMap Event.exchange?, third.filterMap Event.exchange?, hrun,
    hcalls, opening, records⟩

end

namespace Sample

def testingSettings : Settings := { settings with ess := true, essUrl := some "http://notify" }

def testingConfig : Config := { config with notifications := some ⟨"http://notify", none⟩ }

/-- The first connector shows a policy and an offer, whatever is looked for; the second
holds nothing. -/
def halfStocked : World where
  network _ call :=
    match call with
    | .findPolicy connector _ =>
      .ok (if connector = "http://connector-0" then ⟨200, "\x7b\"@id\":\"held\"\x7d"⟩
        else ⟨404, ""⟩)
    | .queryCatalog connector _ =>
      .ok ⟨200, if connector = "http://connector-0" then Stores.someCatalog
        else Stores.emptyCatalog⟩
    | _ => .ok ⟨200, ""⟩
  identifier := Identifier.stream 0

theorem halfStocked_answers : halfStocked.network.AnswersAll := by
  intro past call
  cases call <;> exact ⟨_, rfl⟩

end Sample

/-- One policy and four offers at two connectors: nothing is created at the first, and
everything at the second. -/
theorem seed_calls_sample : ∃ totals later opening rest,
    (seed Sample.testingConfig ⟨[Sample.record], defaultPolicies⟩).run Sample.halfStocked
      (.start .initial) = (.ok totals, later) ∧
    later.exchanges = opening ++ rest ∧
    ProvisioningCalls Sample.testingConfig defaultPolicies (some "http://notify") opening ∧
    InTurn (RecordPosts Sample.testingConfig) (Sample.testingConfig.due [Sample.record]) rest ∧
    (later.exchanges.take 19).map (fun exchange => exchange.call.isLookUp) =
      [true, true, false, true, true, false, false, true, true, true,
        true, false, false, true, false, false, true, false, false] := by
  have valid : Sample.testingSettings.validate = .ok Sample.testingConfig := rfl
  obtain ⟨totals, later, opening, rest, run, hcalls, provisioned, records⟩ :=
    (seed_calls valid ⟨[Sample.record], defaultPolicies⟩ Sample.halfStocked_answers).2
  refine ⟨totals, later, opening, rest, run, hcalls, provisioned, records, ?_⟩
  obtain ⟨-, rfl⟩ := Prod.mk.inj run.symm
  rfl

end Dataspace
