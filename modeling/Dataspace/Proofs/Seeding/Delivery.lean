import Dataspace.Part.Fixture
import Dataspace.Proofs.Json.Settled
import Dataspace.Proofs.Part.Certification
import Dataspace.Proofs.Provisioning.Grammar

/-!
# What submodel servers receive

A run posts the documents of the file, in the order of the file, for the records
that are admitted (`seed_payloads`). With a certificate service one document
does not arrive: a part with children gets a certificate entry without document,
and if the file has such an entry already, its document is lost
(`seed_payloads_overwritten`).
-/

namespace Dataspace

-- ---------------------------------------------------------------------------
-- Documents of a record
-- ---------------------------------------------------------------------------

def documentsOf (entries : List (String × Json)) : List Json :=
  entries.filterMap fun entry => entry.2.firstDocument?

/-- Whether the entry `key` gives way to an entry without document. -/
def Config.displaces (config : Config) (record : Record) (key : String) : Bool :=
  config.certificateUrl.isSome && record.hasChildItems && key == Key.certificate

theorem documentsOf_injectCertificate {record : Record} (h : record.hasChildItems = true) :
    documentsOf record.injectCertificate.eligible =
      documentsOf (record.eligible.filter fun entry => !entry.1 == Key.certificate) := by
  let document? (entry : String × Json) : Option Json :=
    if Key.isEligible entry.1 then entry.2.firstDocument? else none
  have silent : document? (Key.certificate, .string "") = none := by
    simp [document?, Json.firstDocument?]
  have hassign := Members.filterMap_assign silent record.submodels.nodup
  have hswap : record.eligible.filter (fun entry => !entry.1 == Key.certificate) =
      (record.submodels.entries.filter fun entry => !entry.1 == Key.certificate).filter
        fun entry => Key.isEligible entry.1 := by
    simp only [Record.eligible, List.filter_filter, Bool.and_comm]
  rw [hswap, Record.injectCertificate_of h]
  simpa only [document?, documentsOf, Record.eligible, Members.entries_insert,
    List.filterMap_filter] using hassign

namespace Config

variable {config : Config} {record : Record}

theorem documentsOf_certified :
    documentsOf (config.certified record).eligible =
      documentsOf (record.eligible.filter fun entry => !config.displaces record entry.1) := by
  unfold certified
  split
  · rename_i service
    by_cases children : record.hasChildItems = true
    · rw [documentsOf_injectCertificate children]
      simp only [displaces, service, children, Bool.true_and]
    · rw [Record.injectCertificate_of_not children, List.filter_eq_self.mpr]
      simp [displaces, children]
  · rename_i service
    rw [List.filter_eq_self.mpr]
    simp [displaces, service]

end Config

-- ---------------------------------------------------------------------------
-- Payloads among the calls
-- ---------------------------------------------------------------------------

def Call.payload? : Call → Option Json
  | .storePayload _ _ document => some document
  | _ => none

def payloads (exchanges : List Exchange) : List Json :=
  exchanges.filterMap fun exchange => exchange.call.payload?

theorem payloads_append (exchanges later : List Exchange) :
    payloads (exchanges ++ later) = payloads exchanges ++ payloads later :=
  List.filterMap_append

theorem PayloadPost.payloads_eq (h : PayloadPost server submodelId entry calls) :
    payloads calls = entry.2.firstDocument?.toList := by
  cases h with
  | absent h => rw [h]; rfl
  | stored h answer => rw [h]; rfl

theorem SubmodelPosts.payloads_eq (h : SubmodelPosts policyId entry calls) :
    payloads calls = entry.2.firstDocument?.toList := by
  cases h with
  | posts payload offer =>
    rw [payloads_append, payload.payloads_eq]
    cases offer <;> exact List.append_nil _

theorem EntryPosts.payloads_eq (h : EntryPosts policyId entries calls) :
    payloads calls = documentsOf entries := by
  induction h with
  | nil => rfl
  | @cons entry _ _ _ first _ ih =>
    rw [payloads_append, first.payloads_eq, ih, documentsOf, documentsOf, List.filterMap_cons]
    cases entry.2.firstDocument? <;> rfl

theorem RecordPosts.payloads_eq (h : RecordPosts config record calls) :
    payloads calls = documentsOf record.eligible := by
  cases h with
  | nothing none => rw [none]; rfl
  | shell _ entries _ _ answer =>
    rw [payloads_append, entries.payloads_eq]
    exact List.append_nil _

theorem payloads_inTurn {records : List Record} (h : InTurn (RecordPosts config) records calls) :
    payloads calls = records.flatMap fun record => documentsOf record.eligible := by
  induction h with
  | nil => rfl
  | cons first _ ih => rw [payloads_append, first.payloads_eq, ih, List.flatMap_cons]

theorem Config.Provides.payload?_eq {config : Config} {request : Call}
    (h : config.Provides request) : request.payload? = none := by
  cases request with
  | storePayload => exact h.elim
  | _ => rfl

theorem payloads_provision {config : Config}
    (h : Plan.Trace (config.provision policies) events outcome) :
    payloads (events.filterMap Event.exchange?) = [] :=
  List.filterMap_eq_nil_iff.mpr fun _ hx => Config.Provides.payload?_eq
    (config.emits_provision policies _ _ h _ (Event.mem_exchanges.mp hx))

-- ---------------------------------------------------------------------------
-- Records as they stand in the file
-- ---------------------------------------------------------------------------

def Fixture.items? (bytes : ByteArray) : Option (List Json) := do
  let text ← String.fromUTF8? bytes
  let file ← Json.parse? text
  let container ← file.member? "https://catenax.io/schema/TestDataContainer/1.0.0"
  container.array?

def Json.submodels : Json → List (String × Json)
  | .object members => (Members.ofList members).entries.filter fun entry => Key.isEligible entry.1
  | _ => []

def Json.documents (item : Json) : List Json := documentsOf item.submodels

namespace Config

def admitsItem (config : Config) (item : Json) : Bool :=
  config.bpnFilter.isEmpty ||
    ((item.member? "bpnl").bind Json.string?).any config.bpnFilter.contains

def delivered (config : Config) (item : Json) : List Json :=
  documentsOf (item.submodels.filter fun entry =>
    !(Record.ofJson? item).any fun record => config.displaces record entry.1)

end Config

namespace Fixture

theorem ofMembers_records (h : ofMembers members = .ok fixture) :
    ∃ container, Members.find? containerName members = some container ∧
      records? container = some fixture.records := by
  unfold ofMembers at h
  split at h
  · cases h
  · rename_i container hcontainer
    split at h
    · cases h
    · rename_i records hrecords
      obtain ⟨policies, -, hfixture⟩ := Settings.andThen_ok.mp h
      cases hfixture
      exact ⟨container, hcontainer, hrecords⟩

theorem ofText_ok (h : ofText text = .ok fixture) :
    ∃ members, Json.parse? text = some (.object members) ∧ ofMembers members = .ok fixture := by
  unfold ofText at h
  split at h
  · rename_i members hmembers
    exact ⟨members, Json.parseMembers_ok hmembers, h⟩
  · cases h

theorem ofBytes_ok (h : ofBytes (some bytes) = .ok fixture) :
    ∃ text, String.fromUTF8? bytes = some text ∧ ofText text = .ok fixture := by
  simp only [ofBytes] at h
  split at h
  · rename_i text htext
    exact ⟨text, htext, h⟩
  · cases h

theorem ofBytes_records (h : ofBytes (some bytes) = .ok fixture) :
    ∃ items, items? bytes = some items ∧ items.mapM Record.ofJson? = some fixture.records := by
  obtain ⟨text, htext, h⟩ := ofBytes_ok h
  obtain ⟨members, hparse, h⟩ := ofText_ok h
  obtain ⟨container, hcontainer, hrecords⟩ := ofMembers_records h
  obtain ⟨items, hitems, hall⟩ := Option.bind_eq_some_iff.mp hrecords
  have hmember : (Json.object members).member?
      "https://catenax.io/schema/TestDataContainer/1.0.0" = some container := hcontainer
  exact ⟨items, by simp [items?, htext, hparse, hmember, hitems], hall⟩

end Fixture

namespace Record

variable {item : Json} {record : Record}

theorem ofJson?_eq_some (h : ofJson? item = some record) :
    ∃ members, item = .object members ∧ item.member? bpnName = some (.string record.bpn) ∧
      record.submodels = (Members.ofList members).filterNames isSubmodelName := by
  unfold ofJson? at h
  cases item with
  | object members =>
    obtain ⟨part, -, hrest⟩ := Option.bind_eq_some_iff.mp h
    obtain ⟨bpn, hbpn, hrest⟩ := Option.bind_eq_some_iff.mp hrest
    obtain ⟨policy, -, hrecord⟩ := Option.bind_eq_some_iff.mp hrest
    cases hrecord
    refine ⟨members, rfl, ?_, rfl⟩
    obtain ⟨json, hmember, hstring⟩ := Option.bind_eq_some_iff.mp hbpn
    cases json with
    | string text =>
      cases hstring
      exact hmember
    | _ => cases hstring
  | _ => cases h

theorem isSubmodelName_of_isEligible (h : Key.isEligible name = true) :
    isSubmodelName name = true := by
  have hpart : Key.isEligible partName = false := by decide
  have hbpn : Key.isEligible bpnName = false := by decide
  have hpolicy : Key.isEligible policyName = false := by decide
  have other : ∀ own, Key.isEligible own = false → name ≠ own := by
    rintro own hown rfl
    exact absurd h (by rw [hown]; exact Bool.false_ne_true)
  simp [isSubmodelName, other _ hpart, other _ hbpn, other _ hpolicy]

theorem eligible_ofJson? (h : ofJson? item = some record) : record.eligible = item.submodels := by
  obtain ⟨members, rfl, -, hsubmodels⟩ := ofJson?_eq_some h
  rw [eligible, hsubmodels, Members.filterNames, List.filter_filter, Json.submodels]
  refine List.filter_congr fun entry _ => ?_
  cases heligible : Key.isEligible entry.1 with
  | false => rfl
  | true => rw [isSubmodelName_of_isEligible heligible, Bool.and_true]

theorem admits_ofJson? (config : Config) (h : ofJson? item = some record) :
    config.admits record = config.admitsItem item := by
  obtain ⟨-, -, hbpn, -⟩ := ofJson?_eq_some h
  have hmember : item.member? "bpnl" = some (.string record.bpn) := hbpn
  simp [Config.admits, Config.admitsItem, belongsTo, hmember]

end Record

theorem Config.documentsOf_due (config : Config) {items : List Json}
    (h : items.mapM Record.ofJson? = some records) :
    ((config.due records).flatMap fun record => documentsOf record.eligible) =
      (items.filter config.admitsItem).flatMap config.delivered := by
  induction items generalizing records with
  | nil =>
    obtain rfl : [] = records := by simpa using h
    rfl
  | cons item items ih =>
    rw [List.mapM_cons] at h
    obtain ⟨record, hrecord, hrest⟩ := Option.bind_eq_some_iff.mp h
    obtain ⟨rest, hitems, hcons⟩ := Option.bind_eq_some_iff.mp hrest
    obtain rfl : record :: rest = records := Option.some.inj hcons
    have hdelivered : config.delivered item =
        documentsOf (config.certified record).eligible := by
      rw [documentsOf_certified, Record.eligible_ofJson? hrecord, delivered, hrecord]
      rfl
    unfold due at ih ⊢
    rw [List.filter_cons, List.filter_cons, Record.admits_ofJson? config hrecord]
    split
    · rw [List.map_cons, List.flatMap_cons, List.flatMap_cons, ih hitems, hdelivered]
    · exact ih hitems

theorem Config.delivered_plain {config : Config} (h : config.certificateUrl = none)
    (item : Json) : config.delivered item = item.documents := by
  rw [delivered, List.filter_eq_self.mpr]
  · rfl
  · simp [displaces, h]

-- ---------------------------------------------------------------------------
-- A file with a certificate
-- ---------------------------------------------------------------------------

theorem Json.parseMembers_eq (chars : text.toList = l)
    (first : Token.scanner.scanFirst? .between l = some .openBrace)
    (read : (Token.scanner.scan? .between [] l).bind ofTokens? = some (.object members)) :
    Json.parseMembers text = .ok members := by
  subst chars
  have hfirst : Token.first? text = some .openBrace := first
  have hread : parse? text = some (.object members) := read
  simp [parseMembers, hfirst, hread]

namespace Fixture

theorem ofBytes_toUTF8 (h : Json.parseMembers text = .ok members) :
    ofBytes (some text.toUTF8) = ofMembers members := by
  simp only [ofBytes, fromUTF8?_toUTF8, ofText, h]

theorem items?_toUTF8 (h : Json.parseMembers text = .ok members) :
    items? text.toUTF8 = (Members.find? "https://catenax.io/schema/TestDataContainer/1.0.0"
      members).bind Json.array? := by
  simp only [items?, fromUTF8?_toUTF8, Json.parseMembers_ok h, Option.bind_eq_bind,
    Option.bind_some, Json.member?_object]

end Fixture

namespace Sample

def certifyingSettings : Settings := { settings with certificateUrl := some "http://certificates" }

def certifyingConfig : Config := { config with certificateUrl := some "http://certificates" }

theorem certifyingSettings_valid : certifyingSettings.validate = .ok certifyingConfig := rfl

def file : String :=
  "\x7b\"https://catenax.io/schema/TestDataContainer/1.0.0\":[\x7b\"catenaXId\":\"urn:part\"," ++
  "\"bpnl\":\"BPNL1\",\"urn:bamm:io.catenax.single_level_bom_as_built:1.0.0#" ++
  "SingleLevelBomAsBuilt\":[\x7b\"childItems\":[null]\x7d],\"urn:bamm:io.catenax." ++
  "esr_certificates.esr_certificate_state_statistic:1.0.1#EsrCertificateStateStatistic\":" ++
  "[\x7b\"valid\":true\x7d]\x7d]\x7d"

def bom : Json := .object [("childItems", .array [.null])]

def certificate : Json := .object [("valid", .bool true)]

def certifiedItem : Json :=
  .object [("catenaXId", .string "urn:part"), ("bpnl", .string "BPNL1"),
    (Key.bomAsBuilt, .array [bom]), (Key.certificate, .array [certificate])]

def certifiedRecord : Record where
  part := "urn:part"
  bpn := "BPNL1"
  policy := none
  submodels := .ofList [(Key.bomAsBuilt, .array [bom]), (Key.certificate, .array [certificate])]

def certifiedFixture : Fixture := ⟨[certifiedRecord], defaultPolicies⟩

set_option maxRecDepth 4000 in
theorem file_members : Json.parseMembers file =
    .ok [("https://catenax.io/schema/TestDataContainer/1.0.0", .array [certifiedItem])] := by
  refine Json.parseMembers_eq (toList_append_eq (toList_append_eq (toList_append_eq
    (toList_append_eq String.toList_ofList String.toList_ofList) String.toList_ofList)
    String.toList_ofList) String.toList_ofList) ?first ?read
  case first => rfl
  case read => rfl

theorem file_read : Fixture.ofBytes (some file.toUTF8) = .ok certifiedFixture := by
  rw [Fixture.ofBytes_toUTF8 file_members]
  rfl

theorem file_items : Fixture.items? file.toUTF8 = some [certifiedItem] := by
  rw [Fixture.items?_toUTF8 file_members]
  rfl

theorem documents_certifiedItem : certifiedItem.documents = [bom, certificate] := by
  have hentries : certifiedItem.submodels =
      [("catenaXId", .string "urn:part"), ("bpnl", .string "BPNL1"),
        (Key.bomAsBuilt, .array [bom]), (Key.certificate, .array [certificate])].filter
        fun entry => Key.isEligible entry.1 := rfl
  have hpart : Key.isEligible "catenaXId" = false := by decide
  have hbpn : Key.isEligible "bpnl" = false := by decide
  rw [Json.documents, hentries]
  simp [documentsOf, hpart, hbpn, Key.isEligible_bomAsBuilt, Key.isEligible_certificate,
    Json.firstDocument?]

theorem documentsOf_certifiedRecord :
    documentsOf (certifyingConfig.certified certifiedRecord).eligible = [bom] := by
  have hentries : (certifyingConfig.certified certifiedRecord).eligible =
      [(Key.bomAsBuilt, .array [bom]), (Key.certificate, .string "")].filter
        fun entry => Key.isEligible entry.1 := rfl
  rw [hentries]
  simp [documentsOf, Key.isEligible_bomAsBuilt, Key.isEligible_certificate, Json.firstDocument?,
    bom]

end Sample

-- ---------------------------------------------------------------------------
-- Runs
-- ---------------------------------------------------------------------------

theorem Upload.Allows.payload_url {uploader : Uploader} {upload : Upload} {request : Call}
    (h : upload.Allows uploader record request)
    (stands : upload.placement.StandsAt uploader position) (payload : request.payload? ≠ none) :
    request.method = .post ∧ ∃ server ∈ uploader.config.submodelUploadUrls, ∃ id,
      request.url = server ++ "/data/" ++ id := by
  cases request with
  | storePayload server id document =>
    obtain ⟨rfl, -⟩ := h
    exact ⟨rfl, _, List.mem_of_getElem? stands.submodelUpload, id, rfl⟩
  | _ => exact absurd rfl payload

section

variable {settings : Settings} {config : Config} {world : World}

theorem payloads_run (parallel : config.Parallel n) (fixture : Fixture)
    (answers : world.network.AnswersAll) :
    ∃ totals later, (seed config fixture).run world (.start .initial) = (.ok totals, later) ∧
      payloads later.exchanges =
        ((config.due fixture.records).flatMap fun record => documentsOf record.eligible) ∧
      ∀ exchange ∈ later.exchanges, exchange.call.payload? ≠ none →
        exchange.call.method = .post ∧ ∃ server ∈ config.submodelUploadUrls, ∃ id,
          exchange.call.url = server ++ "/data/" ++ id := by
  obtain ⟨totals, later, uploader, first, third, outcomes, hrun, hcalls, provisioned, equipped,
    uploaded⟩ := run_seed parallel fixture answers (.start .initial)
  refine ⟨totals, later, hrun, ?_, fun exchange hx payload => ?_⟩
  · have hposts := uploaded.recordPosts
    rw [equipped.config_eq] at hposts
    rw [hcalls, payloads_append, payloads_append, payloads_provision provisioned,
      payloads_inTurn hposts]
    rfl
  · rw [hcalls] at hx
    rcases List.mem_append.mp hx with hx | hx
    · cases hx
    rcases List.mem_append.mp hx with hx | hx
    · exact absurd (Config.Provides.payload?_eq (config.emits_provision _ _ _ provisioned _
        (Event.mem_exchanges.mp hx))) payload
    · obtain ⟨uploads, account⟩ := uploaded.account
      rcases account.calls exchange (Event.mem_exchanges.mp hx) with
        ⟨pair, hp, hallows⟩ | ⟨_, _, hshell⟩
      · have stands := (account.begun pair hp).standsAt equipped parallel
        rw [← equipped.config_eq]
        exact hallows.payload_url stands payload
      · rw [hshell] at payload
        exact absurd rfl payload

/-- The documents of the file in its order, for the records that are admitted.
All of them if there is no certificate service. -/
theorem seed_payloads (valid : settings.validate = .ok config)
    (read : Fixture.ofBytes (some bytes) = .ok fixture) (answers : world.network.AnswersAll) :
    ∃ items totals later, Fixture.items? bytes = some items ∧
      (seed config fixture).run world (.start .initial) = (.ok totals, later) ∧
      payloads later.exchanges = (items.filter config.admitsItem).flatMap config.delivered ∧
      (config.certificateUrl = none →
        payloads later.exchanges = (items.filter config.admitsItem).flatMap Json.documents) ∧
      ∀ exchange ∈ later.exchanges, exchange.call.payload? ≠ none →
        exchange.call.method = .post ∧ ∃ server ∈ config.submodelUploadUrls, ∃ id,
          exchange.call.url = server ++ "/data/" ++ id := by
  obtain ⟨items, hitems, hall⟩ := Fixture.ofBytes_records read
  obtain ⟨totals, later, hrun, hpayloads, hurls⟩ :=
    payloads_run (Settings.validate_parallel valid) fixture answers
  rw [config.documentsOf_due hall] at hpayloads
  refine ⟨items, totals, later, hitems, hrun, hpayloads, fun plain => ?_, hurls⟩
  rw [hpayloads, funext (Config.delivered_plain plain)]

end

theorem seed_payloads_sample : ∃ items totals later,
    Fixture.items? Sample.file.toUTF8 = some items ∧
    (seed Sample.certifyingConfig Sample.certifiedFixture).run Sample.world (.start .initial) =
      (.ok totals, later) ∧
    payloads later.exchanges =
      (items.filter Sample.certifyingConfig.admitsItem).flatMap
        Sample.certifyingConfig.delivered := by
  have answers : Sample.world.network.AnswersAll := Network.always_answersAll _
  obtain ⟨items, totals, later, hitems, hrun, hpayloads, -⟩ :=
    seed_payloads Sample.certifyingSettings_valid Sample.file_read answers
  exact ⟨items, totals, later, hitems, hrun, hpayloads⟩

/-- The file carries a certificate, and no submodel server receives it. -/
theorem seed_payloads_overwritten :
    Sample.certifyingSettings.validate = .ok Sample.certifyingConfig ∧
    Fixture.ofBytes (some Sample.file.toUTF8) = .ok Sample.certifiedFixture ∧
    Sample.world.network.AnswersAll ∧
    ∃ items totals later, Fixture.items? Sample.file.toUTF8 = some items ∧
      (seed Sample.certifyingConfig Sample.certifiedFixture).run Sample.world (.start .initial) =
        (.ok totals, later) ∧
      (items.filter Sample.certifyingConfig.admitsItem).flatMap Json.documents =
        [Sample.bom, Sample.certificate] ∧
      payloads later.exchanges = [Sample.bom] := by
  have answers : Sample.world.network.AnswersAll := Network.always_answersAll _
  obtain ⟨totals, later, hrun, hpayloads, -⟩ := payloads_run
    (Settings.validate_parallel Sample.certifyingSettings_valid) Sample.certifiedFixture answers
  have hadmits : [Sample.certifiedItem].filter Sample.certifyingConfig.admitsItem =
      [Sample.certifiedItem] := rfl
  have hdue : Sample.certifyingConfig.due Sample.certifiedFixture.records =
      [Sample.certifyingConfig.certified Sample.certifiedRecord] := rfl
  refine ⟨Sample.certifyingSettings_valid, Sample.file_read, answers, _, totals, later,
    Sample.file_items, hrun, ?_, ?_⟩
  · rw [hadmits, List.flatMap_singleton, Sample.documents_certifiedItem]
  · rw [hpayloads, hdue, List.flatMap_singleton, Sample.documentsOf_certifiedRecord]

end Dataspace
