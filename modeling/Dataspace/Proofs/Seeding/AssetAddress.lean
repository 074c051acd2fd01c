import Dataspace.Proofs.Seeding.Delivery
import Mathlib.Data.List.Nodup

/-!
# One address for an asset

Connectors file an asset under its id, so of two assets with one id only one is
served. Whatever a run meets, its assets with one id have one data address, if
identifiers are distinct and of one length (`seed_assetAddresses`). Only where
submodels share the asset of a data plane, a certificate may be filed among them
with the address of the certificate service (`seed_assetAddresses_certificate`).
-/

namespace Dataspace

-- ---------------------------------------------------------------------------
-- Ids
-- ---------------------------------------------------------------------------

def Identifier.IsUrn (id : String) : Prop := ∃ uuid, id = "urn:uuid:" ++ uuid ∧ uuid.length = 36

theorem Identifier.IsUrn.length_eq {id : String} (h : Identifier.IsUrn id) : id.length = 45 := by
  obtain ⟨uuid, rfl, hlength⟩ := h
  rw [String.length_append, hlength]
  rfl

theorem Identifier.length_hex (n : Nat) (h : 0 < width) : (hex width n).length = width := by
  have hlt : n % Nat.pow 16 width < 16 ^ width := Nat.mod_lt _ (Nat.pow_pos (by decide))
  have hle := (Nat.length_toDigits_le_iff (by decide) h).mpr hlt
  simp only [hex, List.length_append, List.length_replicate]
  omega

theorem Identifier.isUrn_ofBits (bits : Nat) : IsUrn (ofBits bits) := by
  refine ⟨_, rfl, ?_⟩
  rw [String.length_ofList]
  simp (disch := decide) only [List.length_append, length_hex, List.length_cons, List.length_nil]

theorem append_right_eq {first second last other : String}
    (h : first ++ last = second ++ other) (length : last.length = other.length) :
    last = other := by
  have hlists := congrArg String.toList h
  rw [String.toList_append, String.toList_append] at hlists
  refine String.toList_inj.mp (List.append_inj_right' hlists ?_)
  rwa [String.length_toList, String.length_toList]

namespace Config

variable {config : Config} {asset other : AssetRequest}

/-- An asset that is provided goes by a name, too short for an identifier. -/
theorem ProvidesAsset.length_le {id : String} (h : config.ProvidesAsset asset)
    (named : asset.assetId? = some id) : id.length ≤ 30 := by
  rcases h with rfl | ⟨testing, kind, -, rfl⟩
  · obtain rfl : AssetRequest.registryId = id := Option.some.inj named
    decide
  · obtain rfl : kind.assetId = id := Option.some.inj named
    cases kind <;> decide

theorem ProvidesAsset.unique (h : config.ProvidesAsset asset) (h' : config.ProvidesAsset other)
    (same : asset.assetId? = other.assetId?) : asset = other := by
  have apart : ∀ kind : NotificationKind, AssetRequest.registryId ≠ kind.assetId := by
    intro kind
    cases kind <;> decide
  rcases h with rfl | ⟨testing, kind, ht, rfl⟩ <;>
    rcases h' with rfl | ⟨testing', kind', ht', rfl⟩
  · rfl
  · exact absurd (Option.some.inj same) (apart kind')
  · exact absurd (Option.some.inj same).symm (apart kind)
  · obtain rfl := Option.some.inj (ht.symm.trans ht')
    have hkind : kind.assetId = kind'.assetId := Option.some.inj same
    obtain rfl : kind = kind' := by
      revert hkind
      cases kind <;> cases kind' <;> decide
    rfl

end Config

-- ---------------------------------------------------------------------------
-- Assets of uploads
-- ---------------------------------------------------------------------------

/-- The assets of one id that may differ in their address: those that share a
data plane with a certificate which the certificate service serves. -/
def Config.CertificateShares (config : Config) (asset other : AssetRequest) : Prop :=
  config.schema = .v3 ∧ ∃ service part, config.certificateUrl = some service ∧
    (asset.dataAddress = .legacy (Dataspace.certificateUrl service part) ∨
      other.dataAddress = .legacy (Dataspace.certificateUrl service part))

theorem Config.certificateUrl_of_service {config : Config}
    (h : config.certificateService? key = some service) : config.certificateUrl = some service := by
  unfold certificateService? at h
  split at h
  · exact h
  · cases h

namespace Upload

variable {uploader : Uploader} {record : Record} {upload : Upload}

theorem assetId?_asset :
    (upload.asset uploader record).assetId? = some (upload.assetId record) :=
  Config.assetId?_submodelAsset ..

theorem dataAddress_asset_plain
    (plain : uploader.config.certificateService? upload.entry.1 = none) :
    (upload.asset uploader record).dataAddress =
      (AssetRequest.submodel upload.placement.submodelUrl (upload.assetId record)).dataAddress := by
  rw [asset, Config.submodelAsset, plain]

theorem dataAddress_asset_certified
    (certified : uploader.config.certificateService? upload.entry.1 = some service) :
    (upload.asset uploader record).dataAddress = .legacy (certificateUrl service record.part) := by
  rw [asset, Config.submodelAsset, certified]
  rfl

theorem dataAddress_asset_shared {other : Upload} {otherRecord : Record}
    (schema : uploader.config.schema = .v3)
    (url : upload.placement.submodelUrl = other.placement.submodelUrl) :
    (upload.asset uploader record).dataAddress = (other.asset uploader otherRecord).dataAddress ∨
      uploader.config.CertificateShares (upload.asset uploader record)
        (other.asset uploader otherRecord) := by
  cases hservice : uploader.config.certificateService? upload.entry.1 with
  | some service =>
    exact .inr ⟨schema, service, record.part, Config.certificateUrl_of_service hservice,
      .inl (dataAddress_asset_certified hservice)⟩
  | none =>
    cases hother : uploader.config.certificateService? other.entry.1 with
    | some service =>
      exact .inr ⟨schema, service, otherRecord.part, Config.certificateUrl_of_service hother,
        .inr (dataAddress_asset_certified hother)⟩
    | none =>
      left
      rw [dataAddress_asset_plain hservice, dataAddress_asset_plain hother, url]
      rfl

end Upload

namespace Uploader

/-- What a run has minted: an asset for each data plane, and an id for each
upload. -/
structure Minted (uploader : Uploader) (uploads : List (Record × Upload)) : Prop where
  distinct : (uploader.dataPlaneAssets ++ uploads.map fun pair => pair.2.id).Nodup
  urns : ∀ id ∈ uploader.dataPlaneAssets ++ uploads.map fun pair => pair.2.id,
    Identifier.IsUrn id

variable {uploader : Uploader} {uploads : List (Record × Upload)}

theorem Minted.length_eq (minted : uploader.Minted uploads) (hp : pair ∈ uploads) :
    pair.2.id.length = 45 :=
  (minted.urns _ (List.mem_append_right _ (List.mem_map_of_mem hp))).length_eq

theorem Minted.length_le (minted : uploader.Minted uploads) (hp : pair ∈ uploads)
    (stands : pair.2.placement.StandsAt uploader position) :
    45 ≤ (pair.2.assetId pair.1).length := by
  cases hschema : uploader.config.schema with
  | v2 =>
    rw [Upload.assetId_direct pair.1 (stands.direct hschema), String.length_append,
      minted.length_eq hp]
    omega
  | v3 =>
    obtain ⟨plane, proxied, -, hasset⟩ := stands.proxied hschema
    have hurn := minted.urns _ (List.mem_append_left _ (List.mem_of_getElem? hasset))
    rw [Upload.assetId_proxied pair.1 proxied]
    exact Nat.le_of_eq hurn.length_eq.symm

theorem Minted.pair_eq (minted : uploader.Minted uploads) (hp : pair ∈ uploads)
    (ho : other ∈ uploads) (direct : pair.2.placement.dataPlane = none)
    (otherDirect : other.2.placement.dataPlane = none)
    (same : pair.2.assetId pair.1 = other.2.assetId other.1) : pair = other := by
  rw [Upload.assetId_direct pair.1 direct, Upload.assetId_direct other.1 otherDirect] at same
  have hid := append_right_eq same ((minted.length_eq hp).trans (minted.length_eq ho).symm)
  have hnodup := (List.nodup_append.mp minted.distinct).2.1
  exact List.inj_on_of_nodup_map hnodup hp ho hid

theorem Minted.submodelUrl_eq {i j : Nat} {id : String} (minted : uploader.Minted uploads)
    {placement other : Placement} (stands : placement.StandsAt uploader i)
    (otherStands : other.StandsAt uploader j) (h : uploader.dataPlaneAssets[i]? = some id)
    (h' : uploader.dataPlaneAssets[j]? = some id) : placement.submodelUrl = other.submodelUrl := by
  have hnodup := (List.nodup_append.mp minted.distinct).1
  obtain ⟨hlt, -⟩ := List.getElem?_eq_some_iff.mp h
  obtain rfl : i = j := (List.getElem?_inj hlt hnodup).mp (h.trans h'.symm)
  exact Option.some.inj (stands.submodel.symm.trans otherStands.submodel)

/-- Uploads of one asset id are one upload, or stand at one position. -/
theorem Minted.address_eq {config : Config} (minted : uploader.Minted uploads)
    (equipped : uploader.Equipped config) (parallel : config.Parallel n)
    (begun : ∀ pair ∈ uploads, pair.2.Begun uploader pair.1)
    (hp : pair ∈ uploads) (ho : other ∈ uploads)
    (same : pair.2.assetId pair.1 = other.2.assetId other.1) :
    (pair.2.asset uploader pair.1).dataAddress = (other.2.asset uploader other.1).dataAddress ∨
      uploader.config.CertificateShares (pair.2.asset uploader pair.1)
        (other.2.asset uploader other.1) := by
  have stands := (begun pair hp).standsAt equipped parallel
  have otherStands := (begun other ho).standsAt equipped parallel
  cases hschema : uploader.config.schema with
  | v2 =>
    rw [minted.pair_eq hp ho (stands.direct hschema) (otherStands.direct hschema) same]
    exact .inl rfl
  | v3 =>
    obtain ⟨plane, proxied, -, hasset⟩ := stands.proxied hschema
    obtain ⟨otherPlane, otherProxied, -, hother⟩ := otherStands.proxied hschema
    rw [Upload.assetId_proxied pair.1 proxied, Upload.assetId_proxied other.1 otherProxied] at same
    rw [same] at hasset
    exact Upload.dataAddress_asset_shared hschema
      (minted.submodelUrl_eq stands otherStands hasset hother)

def Creates (uploader : Uploader) (uploads : List (Record × Upload)) (asset : AssetRequest) :
    Prop :=
  uploader.config.ProvidesAsset asset ∨ ∃ pair ∈ uploads, asset = pair.2.asset uploader pair.1

theorem Minted.dataAddress_eq {config : Config} (minted : uploader.Minted uploads)
    (equipped : uploader.Equipped config) (parallel : config.Parallel n)
    (begun : ∀ pair ∈ uploads, pair.2.Begun uploader pair.1)
    (first : uploader.Creates uploads asset) (second : uploader.Creates uploads other)
    (same : asset.assetId? = other.assetId?) :
    asset.dataAddress = other.dataAddress ∨ uploader.config.CertificateShares asset other := by
  have apart : ∀ pair ∈ uploads, ∀ provided, uploader.config.ProvidesAsset provided →
      provided.assetId? ≠ (pair.2.asset uploader pair.1).assetId? := by
    intro pair hp provided hprovided heq
    have short := hprovided.length_le (heq.trans Upload.assetId?_asset)
    have long := minted.length_le hp ((begun pair hp).standsAt equipped parallel)
    omega
  rcases first with provided | ⟨pair, hp, rfl⟩ <;>
    rcases second with otherProvided | ⟨other, ho, rfl⟩
  · rw [provided.unique otherProvided same]
    exact .inl rfl
  · exact absurd same (apart other ho _ provided)
  · exact absurd same.symm (apart pair hp _ otherProvided)
  · rw [Upload.assetId?_asset, Upload.assetId?_asset] at same
    exact minted.address_eq equipped parallel begun hp ho (Option.some.inj same)

end Uploader

-- ---------------------------------------------------------------------------
-- Runs
-- ---------------------------------------------------------------------------

def Call.asset? : Call → Option (String × Json)
  | .createAsset _ request => do
    let id ← Document.assetId? request.toJson
    let address ← request.toJson.member? "dataAddress"
    return (id, address)
  | _ => none

theorem Call.asset?_eq_some {request : Call} {id : String} :
    request.asset? = some (id, address) ↔ ∃ connector asset,
      request = .createAsset connector asset ∧ asset.assetId? = some id ∧
        asset.dataAddress.toJson = address := by
  cases request with
  | createAsset connector asset =>
    simp [asset?, Document.dataAddress_toJson, Option.bind_eq_some_iff]
  | _ => simp [asset?]

section

variable {settings : Settings} {config : Config} {world : World}

theorem Uploader.Account.creates {uploader : Uploader} {exchange : Exchange}
    (account : uploader.Account uploads events) (hx : .exchanged exchange ∈ events)
    (created : exchange.call = .createAsset connector asset) : uploader.Creates uploads asset := by
  rcases account.calls exchange hx with ⟨pair, hp, hallows⟩ | ⟨_, _, hshell⟩
  · rw [created] at hallows
    exact .inr ⟨pair, hp, hallows.2⟩
  · cases created.symm.trans hshell

theorem Config.providesAsset_provision
    (h : Plan.Trace (config.provision policies) events outcome) (hx : .exchanged exchange ∈ events)
    (created : exchange.call = .createAsset connector asset) : config.ProvidesAsset asset := by
  have hevent := config.emits_provision _ _ _ h _ hx
  simpa only [Config.ProvidesEvent, created, Config.Provides] using hevent

/-- The uploads begun until a run ended, and all assets it created until then. -/
structure Uploader.Filed (uploader : Uploader) (config : Config) (uploads : List (Record × Upload))
    (events : List Event) : Prop where
  equipped : uploader.Equipped config
  begun : ∀ pair ∈ uploads, pair.2.Begun uploader pair.1
  ids : (uploader.dataPlaneAssets ++ uploads.map fun pair => pair.2.id).Sublist
    (events.filterMap Event.minted?)
  creates : ∀ exchange connector asset, .exchanged exchange ∈ events →
    exchange.call = .createAsset connector asset → uploader.Creates uploads asset

theorem Seeded.filed (h : Seeded config fixture events outcome) :
    (∀ exchange connector asset, .exchanged exchange ∈ events →
      exchange.call = .createAsset connector asset → config.ProvidesAsset asset) ∨
    ∃ uploader uploads, Uploader.Filed uploader config uploads events := by
  cases h with
  | provisioning stopped =>
    exact .inl fun _ _ _ hx created => Config.providesAsset_provision stopped hx created
  | @uploading _ _ uploader _ _ notices provisioned prepared uploaded =>
    obtain ⟨equipped, hassets, -, silent⟩ := Uploader.trace_prepare prepared
    obtain ⟨uploads, account⟩ := uploaded.account
    have account := account.append (Uploader.account_noted notices)
    rw [List.append_nil] at account
    refine .inr ⟨uploader, uploads, equipped, account.begun, ?ids,
      fun exchange connector asset hx created => ?creates⟩
    case ids =>
      rw [hassets, List.filterMap_append, List.filterMap_append]
      exact (account.ids.append_left _).trans (List.sublist_append_right _ _)
    case creates =>
      rcases List.mem_append.mp hx with hx | hx
      · left
        rw [equipped.config_eq]
        exact Config.providesAsset_provision provisioned hx created
      rcases List.mem_append.mp hx with hx | hx
      · have hnone := Event.mem_exchanges.mpr hx
        simp [silent] at hnone
      · exact account.creates hx created

theorem Seeded.dataAddress_eq {first second : Exchange} (parallel : config.Parallel n)
    (h : Seeded config fixture events outcome)
    (distinct : (events.filterMap Event.minted?).Nodup)
    (urns : ∀ id ∈ events.filterMap Event.minted?, Identifier.IsUrn id)
    (hx : .exchanged first ∈ events) (hy : .exchanged second ∈ events)
    (hfirst : first.call = .createAsset connector asset)
    (hsecond : second.call = .createAsset target other)
    (same : asset.assetId? = other.assetId?) :
    asset.dataAddress = other.dataAddress ∨ config.CertificateShares asset other := by
  rcases h.filed with provided | ⟨uploader, uploads, filed⟩
  · rw [(provided _ _ _ hx hfirst).unique (provided _ _ _ hy hsecond) same]
    exact .inl rfl
  · have minted : uploader.Minted uploads :=
      ⟨distinct.sublist filed.ids, fun id hid => urns id (filed.ids.subset hid)⟩
    rw [← filed.equipped.config_eq]
    exact minted.dataAddress_eq filed.equipped parallel filed.begun
      (filed.creates _ _ _ hx hfirst) (filed.creates _ _ _ hy hsecond) same

/-- Whatever the network answers, and wherever the run ends. -/
theorem seed_assetAddresses {first second : Exchange} {id : String}
    (valid : settings.validate = .ok config)
    (run : (seed config fixture).run world (.start .initial) = (result, later))
    (distinct : (later.history.filterMap Event.minted?).Nodup)
    (urns : ∀ id ∈ later.history.filterMap Event.minted?, Identifier.IsUrn id)
    (hx : first ∈ later.exchanges) (hy : second ∈ later.exchanges)
    (hfirst : first.call.asset? = some (id, address))
    (hsecond : second.call.asset? = some (id, other)) :
    address = other ∨ config.schema = .v3 ∧ ∃ service part,
      config.certificateUrl = some service ∧
        (address = (DataAddress.legacy (certificateUrl service part)).toJson ∨
          other = (DataAddress.legacy (certificateUrl service part)).toJson) := by
  have parallel := Settings.validate_parallel valid
  obtain ⟨events, hlater, htrace, -⟩ := Plan.run_trace world (seed config fixture) (.start .initial)
  rw [run] at hlater htrace
  obtain rfl : later = (Progress.start .initial).recordAll events := hlater
  have hhistory : ((Progress.start .initial).recordAll events).history = events :=
    Progress.history_recordAll _ events
  rw [Progress.exchanges, hhistory] at hx hy
  rw [hhistory] at distinct urns
  obtain ⟨_, asset, hcall, named, rfl⟩ := Call.asset?_eq_some.mp hfirst
  obtain ⟨_, otherAsset, hcall', named', rfl⟩ := Call.asset?_eq_some.mp hsecond
  have same := named.trans named'.symm
  rcases (trace_seed parallel htrace).dataAddress_eq parallel distinct urns
    (Event.mem_exchanges.mp hx) (Event.mem_exchanges.mp hy) hcall hcall' same with
    heq | ⟨hschema, service, part, hservice, hcertificate⟩
  · exact .inl (congrArg DataAddress.toJson heq)
  · refine .inr ⟨hschema, service, part, hservice, ?_⟩
    exact hcertificate.imp (congrArg DataAddress.toJson) (congrArg DataAddress.toJson)

end

namespace Sample

/-- Three submodels at two positions; the first and the last share one. -/
def offeredRecord : Record where
  part := "urn:part"
  bpn := "BPNL1"
  policy := none
  submodels := .ofList [("urn:batch#Batch", .null), ("urn:mass#Mass", .null),
    ("urn:esr#EsrCertificateStateStatistic", .null)]

def offeredFixture : Fixture := ⟨[offeredRecord], defaultPolicies⟩

/-- Two identifiers for data planes, three for submodels, one for the shell. -/
def offeredIds : List String := (List.range 6).map world.identifier

theorem offeredIds_nodup : offeredIds.Nodup := by decide +kernel

theorem identifiers_urns (n : Nat) :
    ∀ id ∈ (List.range n).map world.identifier, Identifier.IsUrn id := by
  intro id hid
  obtain ⟨k, -, rfl⟩ := List.mem_map.mp hid
  exact Identifier.isUrn_ofBits _

theorem offeredIds_urns : ∀ id ∈ offeredIds, Identifier.IsUrn id := identifiers_urns 6

end Sample

/-- Without certificate service both are assets of a submodel server. -/
theorem seed_assetAddresses_sample : ∃ result later address other,
    (seed Sample.config Sample.offeredFixture).run Sample.world (.start .initial) =
      (result, later) ∧
    (later.exchanges[10]?.bind fun exchange => exchange.call.asset?) =
      some (Sample.world.identifier 1, address) ∧
    (later.exchanges[14]?.bind fun exchange => exchange.call.asset?) =
      some (Sample.world.identifier 1, other) ∧
    address = other := by
  obtain ⟨result, later, hrun, hminted, first, second, hfirst, hsecond, address, other, ha, ho⟩ :
      ∃ result later, (seed Sample.config Sample.offeredFixture).run Sample.world
          (.start .initial) = (result, later) ∧
        later.history.filterMap Event.minted? = Sample.offeredIds ∧
        ∃ first second, later.exchanges[10]? = some first ∧ later.exchanges[14]? = some second ∧
          ∃ address other, first.call.asset? = some (Sample.world.identifier 1, address) ∧
            second.call.asset? = some (Sample.world.identifier 1, other) :=
    ⟨_, _, rfl, rfl, _, _, rfl, rfl, _, _, rfl, rfl⟩
  refine ⟨result, later, address, other, hrun, by rw [hfirst]; exact ha, by rw [hsecond]; exact ho,
    ?_⟩
  rcases seed_assetAddresses Sample.settings_valid hrun (hminted ▸ Sample.offeredIds_nodup)
    (hminted ▸ Sample.offeredIds_urns) (List.mem_of_getElem? hfirst)
    (List.mem_of_getElem? hsecond) ha ho with heq | ⟨-, _, _, hnone, -⟩
  · exact heq
  · cases hnone

/-- With a certificate service the last submodel has the asset id of the first
and an address of its own. -/
theorem seed_assetAddresses_certificate :
    Sample.certifyingSettings.validate = .ok Sample.certifyingConfig ∧
    ∃ result later first second address other,
      (seed Sample.certifyingConfig Sample.offeredFixture).run Sample.world (.start .initial) =
        (result, later) ∧
      (later.history.filterMap Event.minted?).Nodup ∧
      (∀ id ∈ later.history.filterMap Event.minted?, Identifier.IsUrn id) ∧
      first ∈ later.exchanges ∧ second ∈ later.exchanges ∧ first.call.url = second.call.url ∧
      first.call.asset? = some (Sample.world.identifier 1, address) ∧
      second.call.asset? = some (Sample.world.identifier 1, other) ∧
      address ≠ other := by
  refine ⟨rfl, ?_⟩
  obtain ⟨result, later, hrun, hminted, first, second, hfirst, hsecond, hurl, ha, ho⟩ :
      ∃ result later, (seed Sample.certifyingConfig Sample.offeredFixture).run Sample.world
          (.start .initial) = (result, later) ∧
        later.history.filterMap Event.minted? = Sample.offeredIds ∧
        ∃ first second, later.exchanges[10]? = some first ∧ later.exchanges[14]? = some second ∧
          first.call.url = second.call.url ∧
          first.call.asset? = some (Sample.world.identifier 1,
            (AssetRequest.submodel "http://submodels-1" "").dataAddress.toJson) ∧
          second.call.asset? = some (Sample.world.identifier 1,
            (DataAddress.legacy (certificateUrl "http://certificates" "urn:part")).toJson) :=
    ⟨_, _, rfl, rfl, _, _, rfl, rfl, rfl, rfl, rfl⟩
  refine ⟨result, later, first, second, _, _, hrun, hminted ▸ Sample.offeredIds_nodup,
    hminted ▸ Sample.offeredIds_urns, List.mem_of_getElem? hfirst, List.mem_of_getElem? hsecond,
    hurl, ha, ho, fun heq => ?_⟩
  have hbase : some (Json.string "http://submodels-1") = none :=
    congrArg (Json.member? "baseUrl") heq
  cases hbase

end Dataspace
