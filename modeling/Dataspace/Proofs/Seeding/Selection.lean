import Dataspace.Proofs.Seeding.Position
import Dataspace.Proofs.Settings.Validation

/-!
# What the settings select

Where a submodel is published (`Settings.Publishes`) and as which asset it is offered
(`Settings.Offers`) are two decisions. The faulty partner and the schema decide the
first and have no say in the second. Records are uploaded as both say
(`uploadRecord_selected`), and where both choose the certificate service, they
choose one address.
-/

namespace Dataspace

open Plan

-- ---------------------------------------------------------------------------
-- The name of the certificate
-- ---------------------------------------------------------------------------

theorem Text.after?_eq_none {text : List Char} : after? mark text = none ↔ mark ∉ text := by
  induction text with
  | nil => simp [after?]
  | cons c text ih =>
    by_cases marked : c = mark
    · simp [after?, marked]
    · simp [after?, marked, ih, Ne.symm marked]

theorem Text.after?_eq_some {text : List Char} :
    after? mark text = some rest ↔ ∃ before, mark ∉ before ∧ text = before ++ mark :: rest := by
  induction text with
  | nil => simp [after?]
  | cons c text ih =>
    by_cases marked : c = mark
    · subst marked
      constructor
      · intro found
        obtain rfl : text = rest := by simpa [after?] using found
        exact ⟨[], List.not_mem_nil, rfl⟩
      · rintro ⟨before, absent, split⟩
        cases before with
        | nil => simpa [after?] using split
        | cons b before => exact absurd (List.cons.inj split).1 (List.ne_of_not_mem_cons absent)
    · rw [after?, if_neg marked, ih]
      constructor
      · rintro ⟨before, absent, rfl⟩
        exact ⟨c :: before, by simp [absent, Ne.symm marked], rfl⟩
      · rintro ⟨before, absent, split⟩
        cases before with
        | nil => exact absurd (List.cons.inj split).1 marked
        | cons b before =>
          exact ⟨before, List.not_mem_of_not_mem_cons absent, (List.cons.inj split).2⟩

namespace Key

/-- The name of a submodel is what follows the first `#` of its key, or the whole key. -/
inductive Names : String → String → Prop
  | whole (unmarked : '#' ∉ name.toList) : Names name name
  | marked (unmarked : '#' ∉ before.toList) : Names (before ++ "#" ++ name) name

theorem submodelName_eq_iff : submodelName key = name ↔ Names key name := by
  constructor
  · rintro rfl
    unfold submodelName
    cases hname : Text.after? '#' key.toList with
    | none => exact .whole (Text.after?_eq_none.mp hname)
    | some rest =>
      obtain ⟨before, unmarked, split⟩ := Text.after?_eq_some.mp hname
      have hkey : key = String.ofList before ++ "#" ++ String.ofList rest :=
        String.toList_inj.mp (by simp [split])
      have names : Names (String.ofList before ++ "#" ++ String.ofList rest) (.ofList rest) :=
        .marked (by simpa using unmarked)
      rwa [← hkey] at names
  · intro names
    cases names with
    | whole unmarked => rw [submodelName, Text.after?_eq_none.mpr unmarked]
    | @marked before _ unmarked =>
      have found : Text.after? '#' (before ++ "#" ++ name).toList = some name.toList :=
          Text.after?_eq_some.mpr ⟨before.toList, unmarked, by simp⟩
      rw [submodelName, found]
      exact String.ofList_toList

end Key

-- ---------------------------------------------------------------------------
-- Two decisions
-- ---------------------------------------------------------------------------

namespace Settings

def Faults (settings : Settings) (bpn : String) : Prop :=
  settings.ess = true ∧ settings.faultyBpn = some bpn

def Certifies (settings : Settings) (service key : String) : Prop :=
  settings.certificateUrl = some service ∧ Key.Names key "EsrCertificateStateStatistic"

/-- Where consumers of the submodel `id` are sent that is published under `key`, at `position`
of the lists. The data planes of the third schema have certificates too. -/
inductive Publishes (settings : Settings) (record : Record) (key id : String) (position : Nat) :
    String → Prop
  | unreachable (direct : settings.aas3 = false) (faulty : settings.Faults record.bpn) :
      Publishes settings record key id position ("http://idonotexist/" ++
        (record.part ++ "-" ++ id) ++ "/submodel?content=value&extent=withBlobValue")
  | unreachablePlane (proxied : settings.aas3 = true) (faulty : settings.Faults record.bpn) :
      Publishes settings record key id position
        ("http://idonotexist/api/public/data/" ++ id)
  | certificate (direct : settings.aas3 = false) (honest : ¬ settings.Faults record.bpn)
      (certifies : settings.Certifies service key) :
      Publishes settings record key id position
        (service ++ "/" ++ record.part ++ "/asBuilt/ISO14001/submodel")
  | connector (direct : settings.aas3 = false) (honest : ¬ settings.Faults record.bpn)
      (plain : ∀ service, ¬ settings.Certifies service key)
      (held : settings.connectorUrls[position]? = some shown) :
      Publishes settings record key id position
        (shown ++ "/" ++ (record.part ++ "-" ++ id) ++
          "/submodel?content=value&extent=withBlobValue")
  | plane (proxied : settings.aas3 = true) (honest : ¬ settings.Faults record.bpn)
      (given : settings.dataPlaneUrls = some planes) (held : planes[position]? = some plane) :
      Publishes settings record key id position (plane ++ "/api/public/data/" ++ id)

/-- As which asset the submodel of `part` is offered, and the address from which a connector
fetches it. -/
inductive Offers (settings : Settings) (part key : String) (position : Nat) :
    AssetRequest → String → Prop
  | certificate (certifies : settings.Certifies service key) :
      Offers settings part key position (.certificate service assetId part)
        (service ++ "/" ++ part ++ "/asBuilt/ISO14001/submodel")
  | submodel (plain : ∀ service, ¬ settings.Certifies service key)
      (held : settings.submodelUrls[position]? = some server) :
      Offers settings part key position (.submodel server assetId) server

variable {settings : Settings} {config : Config}

theorem Accepted.schema_direct (accepted : settings.Accepted config) :
    config.schema = .v2 ↔ settings.aas3 = false := by
  have proxied := accepted.schema
  cases hschema : config.schema <;> simp_all

theorem Accepted.schema_eq (accepted : settings.Accepted config) :
    config.schema = settings.schema := by
  have proxied := accepted.schema.trans schema_eq_v3.symm
  cases hschema : config.schema <;> cases hsettings : settings.schema <;> simp_all

theorem Accepted.faulty_iff (accepted : settings.Accepted config) :
    config.isFaulty bpn = true ↔ settings.Faults bpn :=
  accepted.faulty bpn

theorem Accepted.certificateService? (accepted : settings.Accepted config) :
    config.certificateService? key = some service ↔ settings.Certifies service key := by
  have named : Key.submodelName key = Key.certificateName ↔
      Key.Names key "EsrCertificateStateStatistic" := Key.submodelName_eq_iff
  rw [Config.certificateService?, Certifies, ← named, accepted.certificate]
  split <;> simp_all

theorem Accepted.certificateService?_none (accepted : settings.Accepted config) :
    config.certificateService? key = none ↔ ∀ service, ¬ settings.Certifies service key := by
  simp only [Option.eq_none_iff_forall_ne_some, ne_eq, accepted.certificateService?]

theorem Publishes.certificate_eq {submodelId : String}
    (h : settings.Publishes record key submodelId position address)
    (direct : settings.aas3 = false) (honest : ¬ settings.Faults record.bpn)
    (certifies : settings.Certifies service key) :
    address = service ++ "/" ++ record.part ++ "/asBuilt/ISO14001/submodel" := by
  cases h with
  | unreachable _ faulty => exact absurd faulty honest
  | unreachablePlane proxied => exact absurd (direct.symm.trans proxied) Bool.false_ne_true
  | certificate _ _ other =>
    obtain rfl := Option.some.inj (certifies.1.symm.trans other.1)
    rfl
  | connector _ _ plain => exact absurd certifies (plain service)
  | plane proxied => exact absurd (direct.symm.trans proxied) Bool.false_ne_true

theorem Offers.certificate_eq (h : settings.Offers part key position asset base)
    (certifies : settings.Certifies service key) :
    base = service ++ "/" ++ part ++ "/asBuilt/ISO14001/submodel" := by
  cases h with
  | certificate other =>
    obtain rfl := Option.some.inj (certifies.1.symm.trans other.1)
    rfl
  | submodel plain => exact absurd certifies (plain service)

end Settings

namespace Upload

variable {settings : Settings} {config : Config} {uploader : Uploader} {record : Record}
  {upload : Upload}

theorem publishes (accepted : settings.Accepted uploader.config)
    (stands : upload.placement.StandsAt uploader position) :
    settings.Publishes record upload.entry.1 upload.id position
      (upload.address uploader record) := by
  unfold address
  cases hschema : uploader.config.schema with
  | v2 =>
    have direct := accepted.schema_direct.mp hschema
    have placed := stands.direct hschema
    by_cases faulty : uploader.config.isFaulty record.bpn = true
    · rw [Config.target_faulty faulty, Placement.address_direct_unreachable placed]
      exact .unreachable direct (accepted.faulty_iff.mp faulty)
    · have honest := fun faults => faulty (accepted.faulty_iff.mpr faults)
      rw [Bool.not_eq_true] at faulty
      cases hservice : uploader.config.certificateService? upload.entry.1 with
      | some service =>
        rw [Config.target_certified faulty hservice, Placement.address_certified placed]
        exact .certificate direct honest (accepted.certificateService?.mp hservice)
      | none =>
        rw [Config.target_placed faulty hservice, Placement.address_direct placed]
        refine .connector direct honest (accepted.certificateService?_none.mp hservice) ?_
        rw [← accepted.connector, stands.connector]
  | v3 =>
    have proxied := accepted.schema.mp hschema
    obtain ⟨plane, placed, hplane, -⟩ := stands.proxied hschema
    by_cases faulty : uploader.config.isFaulty record.bpn = true
    · rw [Config.target_faulty faulty, Placement.address_proxied_unreachable placed]
      exact .unreachablePlane proxied (accepted.faulty_iff.mp faulty)
    · have honest := fun faults => faulty (accepted.faulty_iff.mpr faults)
      rw [Bool.not_eq_true] at faulty
      rw [Placement.address_proxied placed (Config.target_ne_unreachable faulty)]
      exact .plane proxied honest (accepted.dataPlane hschema) hplane

theorem offers (accepted : settings.Accepted uploader.config)
    (stands : upload.placement.StandsAt uploader position) :
    ∃ base, settings.Offers record.part upload.entry.1 position (upload.asset uploader record)
      base ∧ Document.baseUrl? (upload.asset uploader record).toJson = some base := by
  rw [Document.baseUrl?_toJson, asset, Config.submodelAsset]
  cases hservice : uploader.config.certificateService? upload.entry.1 with
  | some service => exact ⟨_, .certificate (accepted.certificateService?.mp hservice), rfl⟩
  | none =>
    refine ⟨_, .submodel (accepted.certificateService?_none.mp hservice) ?_, rfl⟩
    rw [← accepted.submodel, stands.submodel]

end Upload

-- ---------------------------------------------------------------------------
-- Records
-- ---------------------------------------------------------------------------

def PostsAsset (events : List Event) (begun : Nat) (asset : AssetRequest) : Prop :=
  ∃ past connector answer rest,
    events = past ++ .exchanged ⟨.createAsset connector asset, answer⟩ :: rest ∧
    (past.filterMap Event.slot?).length = begun

def RegistersShell (events : List Event) (shell : Shell) : Prop :=
  ∃ registry answer, .exchanged ⟨.registerShell registry shell, answer⟩ ∈ events

/-- What is done for the submodels of a record, the first of which claims the slot `first`, is
what the settings select for them. -/
structure Settings.Selects (settings : Settings) (record : Record) (first : Nat)
    (events : List Event) : Prop where
  assets : ∀ begun asset, PostsAsset events begun asset → ∃ k entry base, begun = k + 1 ∧
    record.eligible[k]? = some entry ∧
    settings.Offers record.part entry.1 ((first + k) % settings.submodelUrls.length) asset base ∧
    Document.baseUrl? asset.toJson = some base
  addresses : ∀ shell, RegistersShell events shell →
    shell.descriptors.length = record.eligible.length ∧
    ∀ (k : Nat) (descriptor : Descriptor) entry, shell.descriptors[k]? = some descriptor →
      record.eligible[k]? = some entry →
      ∃ address, Document.address? settings.schema descriptor.toJson = some address ∧
        settings.Publishes record entry.1 descriptor.id
          ((first + k) % settings.submodelUrls.length) address

/-- Where the second schema and an honest partner leave it to the certificate service, consumers
are sent to the address from which the connector fetches the certificate. -/
def Settings.SharesCertificates (settings : Settings) (record : Record) (events : List Event) :
    Prop :=
  settings.aas3 = false → ¬ settings.Faults record.bpn →
  ∀ (k : Nat) asset shell (descriptor : Descriptor) entry service,
    PostsAsset events (k + 1) asset → RegistersShell events shell →
    shell.descriptors[k]? = some descriptor → record.eligible[k]? = some entry →
    settings.Certifies service entry.1 →
    ∃ address, Document.baseUrl? asset.toJson = some address ∧
      Document.address? settings.schema descriptor.toJson = some address

theorem Settings.Selects.shared {settings : Settings} (h : settings.Selects record first events) :
    settings.SharesCertificates record events := by
  intro direct honest k asset shell descriptor entry service posts registers described eligible
    certifies
  obtain ⟨k', entry', base, hk, heligible, offers, hbase⟩ := h.assets _ _ posts
  obtain rfl : k = k' := Nat.succ.inj hk
  obtain rfl := Option.some.inj (eligible.symm.trans heligible)
  obtain ⟨address, haddress, publishes⟩ :=
    (h.addresses shell registers).2 k descriptor entry described eligible
  refine ⟨service ++ "/" ++ record.part ++ "/asBuilt/ISO14001/submodel", ?_, ?_⟩
  · rw [hbase, offers.certificate_eq certifies]
  · rw [haddress, publishes.certificate_eq direct honest certifies]

/-- Every eligible submodel has an asset, and some shell describes them. -/
def PostsAll (record : Record) (events : List Event) : Prop :=
  ∀ (k : Nat) entry, record.eligible[k]? = some entry →
    (∃ asset, PostsAsset events (k + 1) asset) ∧ ∃ shell, RegistersShell events shell

theorem PostsAsset.within (h : PostsAsset events begun asset) (before after : List Event) :
    PostsAsset (before ++ events ++ after) ((before.filterMap Event.slot?).length + begun)
      asset := by
  obtain ⟨past, connector, answer, rest, rfl, hbegun⟩ := h
  exact ⟨before ++ past, connector, answer, rest ++ after, by simp, by simp [hbegun]⟩

namespace Upload

variable {uploader : Uploader} {record : Record} {upload : Upload}

theorem Ended.posts (h : upload.Ended uploader record) :
    PostsAsset upload.events 1 (upload.asset uploader record) := by
  obtain ⟨payload, offer, calls, -, offered⟩ := h.calls_eq
  have posted : ∃ connector answer,
      ⟨.createAsset connector (upload.asset uploader record), answer⟩ ∈ upload.calls := by
    rw [calls]
    cases offered with
    | refused answer => exact ⟨_, _, List.mem_append_right _ (.head _)⟩
    | offered answer => exact ⟨_, _, List.mem_append_right _ (.head _)⟩
  obtain ⟨connector, answer, hmem⟩ := posted
  have hevent : .exchanged ⟨.createAsset connector (upload.asset uploader record), answer⟩ ∈
      upload.events := .tail _ (.tail _ (Event.mem_exchanges.mp hmem))
  obtain ⟨past, rest, split⟩ := List.append_of_mem hevent
  exact ⟨past, connector, answer, rest, split, (h.begun.located split).1⟩

theorem posts_flatMap {uploads : List Upload} (ended : ∀ u ∈ uploads, u.Ended uploader record)
    (hk : uploads[k]? = some upload) :
    PostsAsset (uploads.flatMap events) (k + 1) (upload.asset uploader record) := by
  induction uploads generalizing k with
  | nil => cases hk
  | cons first uploads ih =>
    obtain ⟨hfirst, hrest⟩ := List.forall_mem_cons.mp ended
    rw [List.flatMap_cons]
    cases k with
    | zero =>
      obtain rfl : first = upload := Option.some.inj hk
      simpa using hfirst.posts.within [] (uploads.flatMap events)
    | succ k =>
      have later := (ih hrest hk).within first.events []
      rwa [hfirst.begun.slots, List.append_nil, List.length_singleton, Nat.add_comm] at later

end Upload

namespace Uploader

variable {world : World} {settings : Settings} {config : Config} {uploader : Uploader}
  {record : Record}

theorem Located.selects (h : Located uploader record uploads events)
    (accepted : settings.Accepted uploader.config) (equipped : uploader.Equipped uploader.config)
    (supplies : world.Supplies progress events) :
    settings.Selects record progress.rotation.next events := by
  have stands : ∀ (k : Nat) upload, uploads[k]? = some upload →
      upload.placement.StandsAt uploader
        ((progress.rotation.next + k) % settings.submodelUrls.length) := by
    intro k upload hk
    have hstands := (h.begun upload (List.mem_of_getElem? hk)).standsAt equipped accepted.parallel
    rwa [h.slot_at supplies hk] at hstands
  refine ⟨?assets, ?addresses⟩
  case assets =>
    rintro begun asset ⟨past, connector, answer, rest, split, hbegun⟩
    rcases h.exchanges past _ rest split with ⟨k, upload, hk, hlen, -, hasset⟩ | ⟨-, _, hcall⟩
    · obtain ⟨base, offers, hbase⟩ := upload.offers accepted (stands k upload hk)
      rw [← hasset] at offers hbase
      exact ⟨k, upload.entry, base, hbegun.symm.trans hlen, h.entry_at hk, offers, hbase⟩
    · cases hcall
  case addresses =>
    rintro shell ⟨registry, answer, hmem⟩
    obtain ⟨past, rest, split⟩ := List.append_of_mem hmem
    rcases h.exchanges past _ rest split with ⟨_, _, -, -, hallows⟩ | ⟨hall, shellId, hcall⟩
    · exact hallows.elim
    · obtain ⟨-, rfl⟩ := Call.registerShell.inj hcall
      refine ⟨by simp [Uploader.shell, ← hall], fun k descriptor entry described eligible => ?_⟩
      have found : (uploads.map (Upload.descriptor uploader record))[k]? = some descriptor :=
        described
      rw [List.getElem?_map] at found
      obtain ⟨upload, hk, rfl⟩ := Option.map_eq_some_iff.mp found
      obtain rfl := Option.some.inj ((h.entry_at hk).symm.trans eligible)
      refine ⟨upload.address uploader record, ?_, ?_⟩
      · rw [← accepted.schema_eq, Upload.shown_descriptor (stands k upload hk)]
      · rw [Upload.id_descriptor]
        exact upload.publishes accepted (stands k upload hk)

theorem Uploaded.postsAll (h : uploader.Uploaded record events (some outcome)) :
    PostsAll record events := by
  generalize ho : some outcome = result at h
  cases h with
  | aborted => cases ho
  | @ended last _ notices uploads all ended closing =>
    subst ho
    intro k entry eligible
    rw [← all, List.getElem?_map] at eligible
    obtain ⟨upload, hk, rfl⟩ := Option.map_eq_some_iff.mp eligible
    constructor
    · have posts := (Upload.posts_flatMap ended hk).within (notices.map .noted) last
      exact ⟨_, by simpa using posts⟩
    · rcases closing_finishRecord closing with ⟨rfl, -⟩ | ⟨-, shellId, answer, registered⟩
      · cases hk
      · have hmem := Event.mem_exchanges.mp (registered ▸ List.mem_singleton_self _)
        exact ⟨_, _, _, List.mem_append_right _ hmem⟩

/-- Whatever slot comes next, and whoever leaves a call without an answer. -/
theorem uploadRecord_selected (valid : settings.validate = .ok config)
    (prepared : (prepare config).run world start = (.ok uploader, ready)) (record : Record)
    (progress : Progress) :
    ∃ events, ((uploader.uploadRecord record).run world progress).2.history =
        progress.history ++ events ∧
      settings.Selects record progress.rotation.next events ∧
      settings.SharesCertificates record events ∧
      (world.network.AnswersAll → PostsAll record events) := by
  obtain ⟨hall, rfl⟩ := Settings.validate_ok.mp valid
  have equipped := prepare_equipped prepared
  have accepted := Settings.accepted_of_holds hall
  have places := equipped.places accepted.parallel
  rw [← equipped.config_eq] at accepted equipped
  obtain ⟨events, hlater, htrace, hsupplies⟩ :=
    run_trace world (uploader.uploadRecord record) progress
  have uploaded := trace_uploadRecord places htrace
  obtain ⟨uploads, located, -⟩ := uploaded.located
  have selects := located.selects accepted equipped hsupplies
  refine ⟨events, ?_, selects, selects.shared, fun answers => ?_⟩
  · rw [hlater, Progress.history_recordAll]
  · obtain ⟨outcome, _, hrun, -⟩ :=
      run_answered answers (neverStuck_uploadRecord places record) progress
    rw [hrun] at uploaded
    exact uploaded.postsAll

end Uploader

namespace Sample

/-- The second schema, a certificate service, and a partner that is not `record`'s. -/
def honestSettings : Settings := { settings with
  dataPlaneUrls := none
  aas3 := false
  certificateUrl := some "http://certificates"
  ess := true
  essUrl := some "http://notify"
  faultyBpn := some "BPNL9" }

def honestConfig : Config := { config with
  dataPlaneUrls := []
  schema := .v2
  certificateUrl := some "http://certificates"
  notifications := some ⟨"http://notify", some "BPNL9"⟩ }

/-- A certificate behind another submodel. -/
def provenRecord : Record where
  part := "urn:part"
  bpn := "BPNL1"
  policy := none
  submodels := .ofList [("urn:mass#Mass", .null), ("urn:esr#EsrCertificateStateStatistic", .null)]

theorem honestSettings_valid : honestSettings.validate = .ok honestConfig := rfl

theorem honestSettings_certifies : honestSettings.Certifies "http://certificates"
    "urn:esr#EsrCertificateStateStatistic" :=
  ⟨rfl, Key.submodelName_eq_iff.mp (by decide)⟩

end Sample

theorem Uploader.uploadRecord_selected_sample : ∃ uploader events,
    (prepare Sample.honestConfig).run Sample.world (.start .initial) =
      (.ok uploader, .start .initial) ∧
    ((uploader.uploadRecord Sample.provenRecord).run Sample.world (.start .initial)).2.history =
      [] ++ events ∧
    Sample.honestSettings.Selects Sample.provenRecord 1 events ∧
    ∃ asset, PostsAsset events 2 asset ∧
      Document.baseUrl? asset.toJson =
        some "http://certificates/urn:part/asBuilt/ISO14001/submodel" := by
  have prepared : (prepare Sample.honestConfig).run Sample.world (.start .initial) =
      (.ok ⟨Sample.honestConfig, []⟩, .start .initial) := rfl
  obtain ⟨events, happened, selects, -, posted⟩ := uploadRecord_selected
    Sample.honestSettings_valid prepared Sample.provenRecord (.start .initial)
  have answers : Sample.world.network.AnswersAll := Network.always_answersAll _
  obtain ⟨⟨asset, posts⟩, -⟩ := posted answers 1 _ rfl
  obtain ⟨k, entry, base, hk, eligible, offers, hbase⟩ := selects.assets 2 asset posts
  obtain rfl : 1 = k := Nat.succ.inj hk
  obtain rfl : ("urn:esr#EsrCertificateStateStatistic", Json.null) = entry :=
    Option.some.inj eligible
  refine ⟨_, events, prepared, happened, selects, asset, posts, hbase.trans ?_⟩
  rw [offers.certificate_eq Sample.honestSettings_certifies]
  decide

end Dataspace
