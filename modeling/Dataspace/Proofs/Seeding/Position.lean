import Dataspace.Proofs.Document
import Dataspace.Proofs.Seeding.Records
import Dataspace.Proofs.Seeding.Tally

/-!
# Positions

Every call of a record belongs to the submodel begun last before it, and every
descriptor of its shell to one of the record's submodels (`Uploaded.located`).
So in a session that began at counter `c`, all that is done for submodel `k`
stands at position `(c + k) % n`, whatever ended early before
(`uploadAll_positions`).
-/

namespace Dataspace

-- ---------------------------------------------------------------------------
-- What stands at a position
-- ---------------------------------------------------------------------------

/-- A call made for the submodel `key` goes by the entries at `position`.
`assetOf` are the assets of the data planes. -/
def Call.StandsAt (config : Config) (assetOf : Nat → String) (key : String) (position : Nat) :
    Call → Prop
  | .storePayload server _ _ => config.submodelUploadUrls[position]? = some server
  | .createAsset connector asset =>
    config.connectorUploadUrls[position]? = some connector ∧
    (config.certificateService? key = none →
      config.submodelUrls[position]? = some asset.dataAddress.baseUrl) ∧
    (config.schema = .v3 → asset.assetId? = some (assetOf position))
  | .createDefinition connector definition =>
    config.connectorUploadUrls[position]? = some connector ∧
    (config.schema = .v3 → definition.selectedId = assetOf position)
  | _ => False

structure Descriptor.StandsAt (config : Config) (assetOf : Nat → String) (record : Record)
    (key : String) (position : Nat) (descriptor : Descriptor) : Prop where
  address : config.schema = .v2 → config.target record.bpn key = .placed →
    ∃ connector, config.connectorUrls[position]? = some connector ∧
      descriptor.address? = some (connector ++ "/" ++ (record.part ++ "-" ++ descriptor.id) ++
        "/submodel?content=value&extent=withBlobValue")
  negotiation : config.schema = .v3 →
    ∃ connector, config.connectorUrls[position]? = some connector ∧
      Document.subprotocolBody? descriptor.toJson =
        some ("id=" ++ assetOf position ++ ";dspEndpoint=" ++ connector)
  href : config.schema = .v3 → config.isFaulty record.bpn = false →
    ∃ plane, config.dataPlaneUrls[position]? = some plane ∧
      descriptor.address? = some (plane ++ "/api/public/data/" ++ descriptor.id)

namespace Upload

variable {uploader : Uploader} {record : Record} {upload : Upload} {assetOf : Nat → String}

theorem assetId_standsAt (record : Record)
    (stands : upload.placement.StandsAt uploader position)
    (assets : uploader.dataPlaneAssets = (List.range count).map assetOf)
    (proxied : uploader.config.schema = .v3) : upload.assetId record = assetOf position := by
  obtain ⟨plane, hplane, -, hasset⟩ := stands.proxied proxied
  rw [assets, List.getElem?_map] at hasset
  obtain ⟨i, hi, hid⟩ := Option.map_eq_some_iff.mp hasset
  obtain ⟨hlt, rfl⟩ := List.getElem?_eq_some_iff.mp hi
  rw [assetId_proxied record hplane, ← hid, List.getElem_range]

theorem Allows.standsAt (h : upload.Allows uploader record call)
    (stands : upload.placement.StandsAt uploader position)
    (assets : uploader.dataPlaneAssets = (List.range count).map assetOf) :
    call.StandsAt uploader.config assetOf upload.entry.1 position := by
  cases call with
  | storePayload =>
    obtain ⟨rfl, -⟩ := h
    exact stands.submodelUpload
  | createAsset connector request =>
    obtain ⟨rfl, rfl⟩ := h
    refine ⟨stands.connectorUpload, fun plain => ?_, fun proxied => ?_⟩
    · rw [stands.submodel]
      simp [asset, Config.submodelAsset, plain, AssetRequest.submodel, DataAddress.baseUrl]
    · rw [asset, Config.assetId?_submodelAsset, assetId_standsAt record stands assets proxied]
  | createDefinition =>
    obtain ⟨rfl, rfl⟩ := h
    exact ⟨stands.connectorUpload, assetId_standsAt record stands assets⟩
  | findPolicy | createPolicy | queryCatalog | registerShell => exact h.elim

theorem descriptor_standsAt (stands : upload.placement.StandsAt uploader position)
    (assets : uploader.dataPlaneAssets = (List.range count).map assetOf) :
    (upload.descriptor uploader record).StandsAt uploader.config assetOf record upload.entry.1
      position := by
  refine ⟨fun h2 placed => ⟨_, stands.connector, ?_⟩, fun h3 => ⟨_, stands.connector, ?_⟩,
    fun h3 honest => ?_⟩
  · have direct := stands.direct h2
    rw [descriptor_direct direct, address, placed, Placement.address_direct direct]
    rfl
  · obtain ⟨plane, proxied, -⟩ := stands.proxied h3
    rw [descriptor_proxied proxied, Document.subprotocolBody?_proxied,
      ← assetId_standsAt record stands assets h3, assetId_proxied record proxied]
    rfl
  · obtain ⟨plane, proxied, hplane, -⟩ := stands.proxied h3
    refine ⟨_, hplane, ?_⟩
    rw [descriptor_proxied proxied, address,
      Placement.address_proxied proxied (Config.target_ne_unreachable honest)]
    rfl

end Upload

-- ---------------------------------------------------------------------------
-- Which submodel a call belongs to
-- ---------------------------------------------------------------------------

theorem append_eq_split {first second past rest : List α}
    (h : first ++ second = past ++ x :: rest) :
    (∃ middle, first = past ++ x :: middle) ∨
      ∃ middle, past = first ++ middle ∧ second = middle ++ x :: rest := by
  rcases List.append_eq_append_iff.mp h with ⟨middle, hp, hs⟩ | ⟨middle, hf, hr⟩
  · exact .inr ⟨middle, hp, hs⟩
  · cases middle with
    | nil => exact .inr ⟨[], by rw [hf]; simp, hr.symm⟩
    | cons y middle =>
      obtain ⟨rfl, -⟩ := List.cons.inj hr
      exact .inl ⟨middle, hf⟩

namespace Upload

variable {uploader : Uploader} {record : Record} {upload : Upload}

theorem Begun.located (h : upload.Begun uploader record)
    (split : upload.events = past ++ .exchanged exchange :: rest) :
    (past.filterMap Event.slot?).length = 1 ∧ upload.Allows uploader record exchange.call := by
  have hslots := h.slots
  rw [split, List.filterMap_append] at hslots
  cases past with
  | nil => cases split
  | cons event past =>
    obtain ⟨rfl, hrest⟩ := List.cons.inj split
    have hmem : .exchanged exchange ∈ upload.posts := by
      cases past with
      | nil => cases hrest
      | cons event past =>
        obtain ⟨rfl, hposts⟩ := List.cons.inj hrest
        rw [hposts]
        exact List.mem_append_right _ List.mem_cons_self
    obtain ⟨-, hnone⟩ := List.cons.inj hslots
    obtain ⟨hpast, -⟩ := List.append_eq_nil_iff.mp hnone
    refine ⟨?_, h.allows hmem⟩
    simp [hpast]

theorem located_flatMap {uploads : List Upload} (h : ∀ u ∈ uploads, u.Begun uploader record)
    (split : uploads.flatMap events = past ++ .exchanged exchange :: rest) :
    ∃ k upload, uploads[k]? = some upload ∧ (past.filterMap Event.slot?).length = k + 1 ∧
      upload.Allows uploader record exchange.call := by
  induction uploads generalizing past with
  | nil => simp at split
  | cons upload uploads ih =>
    obtain ⟨hu, hr⟩ := List.forall_mem_cons.mp h
    rcases append_eq_split split with ⟨middle, hhead⟩ | ⟨middle, rfl, htail⟩
    · obtain ⟨hlen, hallows⟩ := hu.located hhead
      exact ⟨0, upload, rfl, hlen, hallows⟩
    · obtain ⟨k, found, hk, hlen, hallows⟩ := ih hr htail
      refine ⟨k + 1, found, hk, ?_, hallows⟩
      rw [List.filterMap_append, hu.slots, List.length_append, hlen]
      exact Nat.add_comm ..

end Upload

namespace Uploader

variable {uploader : Uploader} {record : Record}

/-- The submodels begun for a record, and which of them each exchange is for:
the one begun last, or if it registers the shell, all of them. -/
structure Located (uploader : Uploader) (record : Record) (uploads : List Upload)
    (events : List Event) : Prop where
  entries : uploads.map Upload.entry <+: record.eligible
  begun : ∀ upload ∈ uploads, upload.Begun uploader record
  slots : events.filterMap Event.slot? = uploads.map Upload.slot
  exchanges : ∀ past exchange rest, events = past ++ .exchanged exchange :: rest →
    (∃ k upload, uploads[k]? = some upload ∧ (past.filterMap Event.slot?).length = k + 1 ∧
      upload.Allows uploader record exchange.call) ∨
    (uploads.map Upload.entry = record.eligible ∧ ∃ id,
      exchange.call = .registerShell uploader.config.registryUploadUrl
        (uploader.shell record id (uploads.map (Upload.descriptor uploader record))))

theorem Located.entry_at (h : Located uploader record uploads events)
    {k : Nat} {upload : Upload} (hk : uploads[k]? = some upload) :
    record.eligible[k]? = some upload.entry := by
  obtain ⟨later, heq⟩ := h.entries
  have hlt : k < (uploads.map Upload.entry).length := by
    rw [List.length_map]
    exact (List.getElem?_eq_some_iff.mp hk).1
  rw [← heq, List.getElem?_append_left hlt, List.getElem?_map, hk]
  rfl

theorem Located.slot_at {world : World} (h : Located uploader record uploads events)
    (supplies : world.Supplies progress events) {k : Nat} {upload : Upload}
    (hk : uploads[k]? = some upload) : upload.slot = ⟨progress.rotation.next + k⟩ := by
  have hslot := congrArg (·[k]?) (h.slots.symm.trans supplies.slots)
  have hlt : k < uploads.length := (List.getElem?_eq_some_iff.mp hk).1
  simpa only [List.getElem?_map, List.getElem?_range', h.slots, List.length_map, hk, hlt,
    Option.map_some, Option.some.injEq, Nat.one_mul] using hslot

theorem not_exchanged_noted {notices : List Notice}
    (h : notices.map Event.noted = past ++ .exchanged exchange :: rest) : False := by
  have hmem : Event.exchanged exchange ∈ notices.map Event.noted := by simp [h]
  obtain ⟨_, _, h⟩ := List.mem_map.mp hmem
  cases h

theorem Uploaded.located (h : uploader.Uploaded record events outcome) :
    ∃ uploads, Located uploader record uploads events ∧
      (outcome ≠ none → uploads.map Upload.entry = record.eligible) := by
  cases h with
  | aborted notices uploads entries begun =>
    refine ⟨uploads, ⟨entries, begun, ?_, fun past exchange rest split => .inl ?_⟩, fun h => ?_⟩
    · simp [Upload.slots_flatMap begun]
    · rcases append_eq_split split with ⟨_, hnotes⟩ | ⟨middle, rfl, huploads⟩
      · exact (not_exchanged_noted hnotes).elim
      · simpa using Upload.located_flatMap begun huploads
    · exact absurd rfl h
  | @ended last _ notices uploads all ended closing =>
    have begun := fun u hu => (ended u hu).begun
    refine ⟨uploads, ⟨all ▸ List.prefix_rfl, begun, ?_, fun past exchange rest split => ?_⟩,
      fun _ => all⟩
    · simp [Upload.slots_flatMap begun, slots_finishRecord closing]
    · rcases append_eq_split split with ⟨middle, hfirst⟩ | ⟨middle, rfl, hlast⟩
      · rcases append_eq_split hfirst with ⟨_, hnotes⟩ | ⟨middle, rfl, huploads⟩
        · exact (not_exchanged_noted hnotes).elim
        · exact .inl (by simpa using Upload.located_flatMap begun huploads)
      · have hmem : Event.exchanged exchange ∈ last := by
          rw [hlast]
          exact List.mem_append_right _ List.mem_cons_self
        exact .inr ⟨all, exchanged_finishRecord closing hmem⟩

end Uploader

-- ---------------------------------------------------------------------------
-- Sessions
-- ---------------------------------------------------------------------------

namespace Session

/-- What the upload of a record does from `before` to `after`, where `n` is the
length of the lists and the session began at counter `c`. -/
structure Positions (world : World) (config : Config) (n c : Nat) (record : Record)
    (before after : Session) : Prop where
  counted : before.progress.rotation.next = c + before.progress.begun
  slots : (after.eventsSince before.progress).filterMap Event.slot? =
    (List.range' (c + before.progress.begun)
      (after.progress.begun - before.progress.begun)).map Slot.mk
  submodels : ∀ past exchange rest,
    after.eventsSince before.progress = past ++ .exchanged exchange :: rest →
    (∀ registry shell, exchange.call ≠ .registerShell registry shell) →
    ∃ k entry, (past.filterMap Event.slot?).length = k + 1 ∧ record.eligible[k]? = some entry ∧
      exchange.call.StandsAt config world.identifier entry.1
        ((c + (before.progress.begun + k)) % n)
  shell : ∀ past exchange rest,
    after.eventsSince before.progress = past ++ .exchanged exchange :: rest →
    ∀ registry shell, exchange.call = .registerShell registry shell →
    shell.descriptors.length = record.eligible.length ∧
    ∀ k (descriptor : Descriptor) entry, shell.descriptors[k]? = some descriptor →
      record.eligible[k]? = some entry →
      descriptor.StandsAt config world.identifier record entry.1
        ((c + (before.progress.begun + k)) % n)
  countedAfter : after.progress.rotation.next = c + after.progress.begun
  begun : before.progress.begun ≤ after.progress.begun ∧
    after.progress.begun ≤ before.progress.begun + record.eligible.length
  idle : record.eligible = [] → after.progress.rotation = before.progress.rotation

variable {world : World} {settings : Settings} {config : Config} {session before after : Session}

theorem eventsSince_recordAll (h : after.progress = before.progress.recordAll events) :
    after.eventsSince before.progress = events := by
  rw [eventsSince, h, Progress.history_recordAll, List.drop_left]

theorem Running.positions (running : before.Running world config c) (parallel : config.Parallel n)
    (step : before.step world (.upload record) = (result, after)) :
    Positions world config n c record before after ∧ (∀ r, result = .ok r →
      after.progress.begun = before.progress.begun + record.eligible.length) := by
  obtain ⟨-, events, outcome, hp, htrace, hsupplies, hok⟩ := step_upload step
  have equipped := running.equipped
  obtain ⟨uploads, located, hall⟩ :=
    (Uploader.trace_uploadRecord (equipped.places parallel) htrace).located
  have hbegun : after.progress.begun = before.progress.begun + uploads.length := by
    rw [hp, Progress.begun_recordAll, located.slots, List.length_map]
  -- The `k`-th upload of the record is the submodel `begun + k` of the session.
  have hstands : ∀ (k : Nat) upload, uploads[k]? = some upload →
      upload.placement.StandsAt before.uploader ((c + (before.progress.begun + k)) % n) := by
    intro k upload hk
    have h := (located.begun upload (List.mem_of_getElem? hk)).standsAt equipped parallel
    rwa [located.slot_at hsupplies hk, running.counted, Nat.add_assoc] at h
  have hassets := running.assets
  rw [← equipped.config_eq] at hassets ⊢
  have hsince := eventsSince_recordAll hp
  refine ⟨{
    counted := running.counted
    slots := ?slots
    submodels := fun past exchange rest split hcall => ?submodels
    shell := fun past exchange rest split registry shell hcall => ?shell
    countedAfter := (running.step step).counted
    begun := ?begun
    idle := fun hnone => ?idle }, fun r hr => ?all⟩
  case slots =>
    rw [hsince, hsupplies.slots, located.slots, running.counted, hbegun, Nat.add_sub_cancel_left,
      List.length_map]
  case submodels =>
    rw [hsince] at split
    rcases located.exchanges past exchange rest split with ⟨k, upload, hk, hlen, hallows⟩ |
      ⟨-, id, hshell⟩
    · exact ⟨k, upload.entry, hlen, located.entry_at hk,
        hallows.standsAt (hstands k upload hk) hassets⟩
    · exact absurd hshell (hcall _ _)
  case shell =>
    rw [hsince] at split
    rcases located.exchanges past exchange rest split with ⟨k, upload, -, -, hallows⟩ |
      ⟨hentries, id, hshell⟩
    · rw [hcall] at hallows
      exact hallows.elim
    · obtain ⟨rfl, rfl⟩ := Call.registerShell.inj (hcall.symm.trans hshell)
      refine ⟨?_, fun k descriptor entry hd he => ?_⟩
      · rw [← hentries, List.length_map]
        exact List.length_map ..
      · change (uploads.map _)[k]? = _ at hd
        rw [List.getElem?_map] at hd
        obtain ⟨upload, hk, rfl⟩ := Option.map_eq_some_iff.mp hd
        obtain rfl := Option.some.inj ((located.entry_at hk).symm.trans he)
        exact Upload.descriptor_standsAt (hstands k upload hk) hassets
  case begun =>
    have hlen := located.entries.length_le
    rw [List.length_map] at hlen
    omega
  case idle =>
    have hlen := located.entries.length_le
    rw [hnone, List.length_map, List.length_nil] at hlen
    have hnext := (running.step step).counted
    rw [hbegun, Nat.le_zero.mp hlen, Nat.add_zero, ← running.counted] at hnext
    exact congrArg Rotation.mk hnext
  case all =>
    obtain ⟨o, ho⟩ := hok r hr
    rw [hbegun, ← hall (by simp [ho]), List.length_map]

/-- Whatever became of the records before it. -/
theorem uploadAll_positions (valid : settings.validate = .ok config)
    (started : start? world config ⟨c⟩ = some session) (earlier : List Record) (record : Record)
    (step : (session.uploadAll world earlier).step world (.upload record) = (result, after)) :
    session.uploader.dataPlaneAssets =
      (List.range config.dataPlaneUrls.length).map world.identifier ∧
    Positions world config settings.submodelUrls.length c record
      (session.uploadAll world earlier) after ∧
    (∀ r, result = .ok r → after.progress.begun =
      (session.uploadAll world earlier).progress.begun + record.eligible.length) :=
  have running := start_running started
  ⟨running.assets,
    (running.uploadAll earlier).positions (Settings.validate_parallel valid) step⟩

/-- The first upload ends early, in its second submodel. -/
theorem uploadAll_positions_sample : ∃ session after,
    start? Sample.flaky Sample.config ⟨5⟩ = some session ∧
    (∃ failure, (session.step Sample.flaky (.upload Sample.record)).1 = .error failure) ∧
    (session.uploadAll Sample.flaky [Sample.record]).progress.begun = 2 ∧
    Positions Sample.flaky Sample.config 2 5 Sample.record
      (session.uploadAll Sample.flaky [Sample.record]) after :=
  ⟨_, _, rfl, ⟨_, rfl⟩, rfl,
    (uploadAll_positions Sample.settings_valid rfl [Sample.record] Sample.record rfl).2.1⟩

end Session

end Dataspace
