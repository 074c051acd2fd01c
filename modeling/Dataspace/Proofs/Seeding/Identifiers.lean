import Dataspace.Proofs.Seeding.AssetAddress
import Dataspace.Proofs.Seeding.Tally
import Mathlib.Data.List.Flatten

/-!
# Identifiers stay unique

Over a session, whatever is answered and wherever uploads end, every identifier
is used for one thing: a data plane, a submodel or a shell. A `Ledger` accounts
for those taken by some uploads, and ledgers of successive events add up
(`Ledger.append`). Without data planes the ids of assets are part and identifier
joined by a hyphen; parts are arbitrary, but identifiers have one length, so
these ids are unique as well (`uploadAll_identifiers`).
-/

namespace Dataspace

open Plan

-- ---------------------------------------------------------------------------
-- What carries an identifier
-- ---------------------------------------------------------------------------

/-- The ids of the submodels begun: each of them claims a slot and then mints its
id. -/
def Event.submodelIds : List Event → List String
  | [] => []
  | .claimed _ :: rest => (rest.head?.bind Event.minted?).toList ++ submodelIds rest
  | _ :: rest => submodelIds rest

namespace Call

def shellId? : Call → Option String
  | .registerShell _ shell => some shell.id
  | _ => none

def describedIds : Call → List String
  | .registerShell _ shell => shell.descriptors.map Descriptor.id
  | _ => []

def payloadId? : Call → Option String
  | .storePayload _ id _ => some id
  | _ => none

def createdAssetId? : Call → Option String
  | .createAsset _ request => Document.assetId? request.toJson
  | _ => none

end Call

theorem Event.submodelIds_append {events : List Event}
    (h : events.filterMap Event.slot? = []) (later : List Event) :
    submodelIds (events ++ later) = submodelIds later := by
  induction events with
  | nil => rfl
  | cons event events ih =>
    cases event with
    | claimed slot => cases h
    | exchanged | noted | minted => exact ih h

-- ---------------------------------------------------------------------------
-- Uploads
-- ---------------------------------------------------------------------------

namespace Upload

variable {uploader : Uploader} {record : Record} {upload : Upload}

def possibleCalls (uploader : Uploader) (record : Record) (upload : Upload) : List Call :=
  (upload.entry.2.firstDocument?.map
    (.storePayload upload.placement.submodelUploadUrl upload.id)).toList ++
  [.createAsset upload.placement.connectorUploadUrl (upload.asset uploader record),
    .createDefinition upload.placement.connectorUploadUrl
      (.offer (record.policyOr uploader.config.defaultPolicy) (upload.assetId record))]

theorem callsAmong_storeDocument (server submodelId : String) (entry : String × Json) :
    (storeDocument server submodelId entry).CallsAmong
      (entry.2.firstDocument?.map (.storePayload server submodelId)).toList := by
  unfold storeDocument
  cases entry.2.firstDocument? with
  | none => exact .pure ()
  | some document => exact .bind (.say _) fun _ => .bind (.create _ _) fun _ => .pure ()

theorem callsAmong_offerSubmodel (connector policyId assetId : String) (asset : AssetRequest) :
    (offerSubmodel connector policyId assetId asset).CallsAmong
      [.createAsset connector asset, .createDefinition connector (.offer policyId assetId)] := by
  refine .bind (.say _) fun _ => .bind (.create _ _) fun answer => ?_
  split
  · exact (CallsAmong.say _).mono (List.nil_sublist _)
  · exact .bind (.create _ _) fun _ => .pure ()

theorem callsAmong_publish : (upload.publish uploader record).CallsAmong
    (upload.possibleCalls uploader record) :=
  .bind (callsAmong_storeDocument _ _ _) fun _ => callsAmong_offerSubmodel _ _ _ _

theorem Begun.calls_sublist (h : upload.Begun uploader record) :
    (Event.calls upload.events).Sublist (upload.possibleCalls uploader record) := by
  obtain ⟨outcome, htrace⟩ := h.posted
  have posts := callsAmong_publish _ _ htrace
  exact posts

theorem payloadIds_possibleCalls :
    ((upload.possibleCalls uploader record).filterMap Call.payloadId?).Sublist [upload.id] := by
  unfold possibleCalls
  cases upload.entry.2.firstDocument? with
  | none => exact List.nil_sublist _
  | some document => exact List.Sublist.refl _

theorem assetIds_possibleCalls :
    (upload.possibleCalls uploader record).filterMap Call.createdAssetId? =
      [upload.assetId record] := by
  unfold possibleCalls
  cases upload.entry.2.firstDocument? <;>
    simp [List.filterMap_cons, Call.createdAssetId?, assetId?_asset]

theorem shellIds_possibleCalls :
    (upload.possibleCalls uploader record).filterMap Call.shellId? = [] := by
  unfold possibleCalls
  cases upload.entry.2.firstDocument? <;> rfl

theorem describedIds_possibleCalls :
    (upload.possibleCalls uploader record).flatMap Call.describedIds = [] := by
  unfold possibleCalls
  cases upload.entry.2.firstDocument? <;> rfl

end Upload

-- ---------------------------------------------------------------------------
-- Accounts of identifiers
-- ---------------------------------------------------------------------------

namespace Uploader

variable {uploader : Uploader} {record : Record}

/-- `uploads` are those begun in `events`. Every id minted is that of a shell or of
one of them; each of them stores at most one payload and creates at most one
asset. -/
structure Ledger (uploader : Uploader) (uploads : List (Record × Upload)) (events : List Event) :
    Prop where
  begun : ∀ pair ∈ uploads, pair.2.Begun uploader pair.1
  submodels : ∀ later, Event.submodelIds (events ++ later) =
    (uploads.map fun pair => pair.2.id) ++ Event.submodelIds later
  minted : (events.filterMap Event.minted?).Perm
    ((Event.calls events).filterMap Call.shellId? ++ uploads.map fun pair => pair.2.id)
  payloads : ((Event.calls events).filterMap Call.payloadId?).Sublist
    (uploads.map fun pair => pair.2.id)
  assets : ((Event.calls events).filterMap Call.createdAssetId?).Sublist
    (uploads.map fun pair => pair.2.assetId pair.1)

theorem Ledger.append (first : uploader.Ledger uploads events)
    (rest : uploader.Ledger more later) :
    uploader.Ledger (uploads ++ more) (events ++ later) := by
  refine ⟨fun pair hp => ?begun, fun last => ?submodels, ?minted, ?payloads, ?assets⟩
  case begun => exact (List.mem_append.mp hp).elim (first.begun pair) (rest.begun pair)
  case submodels =>
    rw [List.append_assoc, first.submodels, rest.submodels, List.map_append, List.append_assoc]
  case minted =>
    rw [List.filterMap_append, Event.calls_append, List.filterMap_append, List.map_append]
    refine (first.minted.append rest.minted).trans ?_
    rw [List.append_assoc, List.append_assoc]
    exact (List.perm_append_comm_assoc _ _ _).append_left _
  case payloads =>
    rw [Event.calls_append, List.filterMap_append, List.map_append]
    exact first.payloads.append rest.payloads
  case assets =>
    rw [Event.calls_append, List.filterMap_append, List.map_append]
    exact first.assets.append rest.assets

theorem ledger_noted (notices : List Notice) : uploader.Ledger [] (notices.map .noted) := by
  have calls : Event.calls (notices.map .noted) = [] := by simp [Event.calls]
  have slots : (notices.map Event.noted).filterMap Event.slot? = [] := by simp
  refine ⟨List.forall_mem_nil _, Event.submodelIds_append slots, ?_, ?_, ?_⟩
  · simp [calls]
  · simp [calls]
  · simp [calls]

theorem ledger_upload {upload : Upload} (begun : upload.Begun uploader record) :
    uploader.Ledger [(record, upload)] upload.events := by
  have calls := begun.calls_sublist
  have slots : upload.posts.filterMap Event.slot? = [] := (List.cons.inj begun.slots).2
  refine ⟨fun pair hp => ?begun, fun later => ?submodels, ?minted, ?payloads, ?assets⟩
  case begun =>
    rw [List.mem_singleton.mp hp]
    exact begun
  case submodels => exact congrArg (upload.id :: ·) (Event.submodelIds_append slots later)
  case minted =>
    have none : (Event.calls upload.events).filterMap Call.shellId? = [] := by
      have sublist := calls.filterMap Call.shellId?
      rw [Upload.shellIds_possibleCalls] at sublist
      exact List.sublist_nil.mp sublist
    rw [begun.ids, none]
    exact .refl _
  case payloads => exact (calls.filterMap Call.payloadId?).trans Upload.payloadIds_possibleCalls
  case assets =>
    have sublist := calls.filterMap Call.createdAssetId?
    rwa [Upload.assetIds_possibleCalls] at sublist

theorem ledger_uploads {uploads : List Upload}
    (begun : ∀ upload ∈ uploads, upload.Begun uploader record) :
    uploader.Ledger (uploads.map (record, ·)) (uploads.flatMap Upload.events) := by
  induction uploads with
  | nil => exact ledger_noted []
  | cons upload uploads ih =>
    obtain ⟨hu, hr⟩ := List.forall_mem_cons.mp begun
    exact (ledger_upload hu).append (ih hr)

theorem calls_finishRecord
    (h : Trace (uploader.finishRecord record (.ofRecord record) descriptors) events outcome) :
    (events.filterMap Event.minted? = [] ∧ Event.calls events = []) ∨
      ∃ registry shell, events.filterMap Event.minted? = [shell.id] ∧
        Event.calls events = [.registerShell registry shell] ∧
        shell.descriptors = descriptors := by
  rcases trace_finishRecord h with ⟨-, rfl, -⟩ |
    ⟨-, _, id, _, _, rfl, ⟨_, -, rfl, -⟩ | ⟨_, _, -, rfl, -⟩⟩
  · exact .inl ⟨rfl, rfl⟩
  · exact .inr ⟨_, _, rfl, rfl, rfl⟩
  · exact .inr ⟨_, _, rfl, rfl, rfl⟩

theorem ledger_finishRecord
    (h : Trace (uploader.finishRecord record (.ofRecord record) descriptors) events outcome) :
    uploader.Ledger [] events := by
  have submodels := Event.submodelIds_append (slots_finishRecord h)
  rcases calls_finishRecord h with ⟨minted, calls⟩ | ⟨_, _, minted, calls, -⟩
  · refine ⟨List.forall_mem_nil _, submodels, ?_, ?_, ?_⟩
    · simp [minted, calls]
    · simp [calls]
    · simp [calls]
  · refine ⟨List.forall_mem_nil _, submodels, ?_, ?_, ?_⟩
    · simp [minted, calls, Call.shellId?]
    · simp [calls, Call.payloadId?]
    · simp [calls, Call.createdAssetId?]

theorem describedIds_noted (notices : List Notice) :
    (Event.calls (notices.map .noted)).flatMap Call.describedIds = [] := by
  simp [Event.calls]

theorem describedIds_uploads {uploads : List Upload}
    (begun : ∀ upload ∈ uploads, upload.Begun uploader record) :
    (Event.calls (uploads.flatMap Upload.events)).flatMap Call.describedIds = [] := by
  induction uploads with
  | nil => rfl
  | cons upload uploads ih =>
    obtain ⟨hu, hr⟩ := List.forall_mem_cons.mp begun
    have head := hu.calls_sublist.flatMap Call.describedIds
    rw [Upload.describedIds_possibleCalls, List.sublist_nil] at head
    rw [List.flatMap_cons, Event.calls_append, List.flatMap_append, head, ih hr, List.nil_append]

theorem Uploaded.ledger (h : uploader.Uploaded record events outcome) :
    ∃ uploads : List Upload, uploader.Ledger (uploads.map (record, ·)) events ∧
      ((Event.calls events).flatMap Call.describedIds).Sublist (uploads.map Upload.id) := by
  cases h with
  | aborted notices uploads _ begun =>
    refine ⟨uploads, (ledger_noted notices).append (ledger_uploads begun), ?_⟩
    rw [Event.calls_append, List.flatMap_append, describedIds_noted, describedIds_uploads begun]
    exact List.nil_sublist _
  | ended notices uploads _ ended closing =>
    have begun := fun u hu => (ended u hu).begun
    have ledger := ((ledger_noted notices).append (ledger_uploads begun)).append
      (ledger_finishRecord closing)
    rw [List.append_nil] at ledger
    refine ⟨uploads, ledger, ?_⟩
    rw [Event.calls_append, Event.calls_append, List.flatMap_append, List.flatMap_append,
      describedIds_noted, describedIds_uploads begun, List.nil_append, List.nil_append]
    rcases calls_finishRecord closing with ⟨-, calls⟩ | ⟨registry, shell, -, calls, descriptors⟩
    · rw [calls]
      exact List.nil_sublist _
    · have described :
          Call.describedIds (.registerShell registry shell) = uploads.map Upload.id := by
        rw [Call.describedIds, descriptors, List.map_map]
        exact List.map_congr_left fun upload _ => Upload.id_descriptor
      rw [calls, List.flatMap_singleton, described]

end Uploader

-- ---------------------------------------------------------------------------
-- Sessions
-- ---------------------------------------------------------------------------

namespace Session

variable {world : World} {config : Config} {session after : Session}

theorem start_history (h : start? world config ⟨c⟩ = some session) :
    session.progress.history.filterMap Event.minted? = session.uploader.dataPlaneAssets ∧
      session.progress.history.filterMap Event.slot? = [] ∧
      session.progress.history.filterMap Event.exchange? = [] := by
  obtain ⟨-, hassets, hslots, hexchanges⟩ :=
    Uploader.trace_prepare (trace_history (start?_run h))
  exact ⟨hassets.symm, hslots, hexchanges⟩

structure Accounted (session after : Session) (given : List Record) (events : List Event)
    (uploads : List (Record × Upload)) : Prop where
  uploader : after.uploader = session.uploader
  history : after.progress.history = session.progress.history ++ events
  ledger : session.uploader.Ledger uploads events
  described : ((Event.calls events).flatMap Call.describedIds).Sublist
    (uploads.map fun pair => pair.2.id)
  owners : ∀ pair ∈ uploads, pair.1 ∈ given

theorem accounted_step (places : session.uploader.Places)
    (h : session.step world (.upload record) = (result, after)) :
    ∃ events uploads, session.Accounted after [record] events uploads := by
  obtain ⟨huploader, events, outcome, hp, htrace, -⟩ := step_upload h
  obtain ⟨uploads, ledger, described⟩ := (Uploader.trace_uploadRecord places htrace).ledger
  refine ⟨events, _, huploader, ?_, ledger, ?_, fun pair hpair => ?_⟩
  · rw [hp, Progress.history_recordAll]
  · rwa [List.map_map]
  · obtain ⟨_, -, rfl⟩ := List.mem_map.mp hpair
    exact List.mem_singleton.mpr rfl

theorem Accounted.append {middle : Session} {given more : List Record}
    (first : session.Accounted middle given events uploads)
    (rest : middle.Accounted after more later moreUploads) :
    session.Accounted after (given ++ more) (events ++ later) (uploads ++ moreUploads) := by
  have ledger := rest.ledger
  rw [first.uploader] at ledger
  refine ⟨rest.uploader.trans first.uploader, ?_, first.ledger.append ledger, ?_, fun pair hp => ?_⟩
  · rw [rest.history, first.history, List.append_assoc]
  · rw [Event.calls_append, List.flatMap_append, List.map_append]
    exact first.described.append rest.described
  · exact List.mem_append.mpr ((List.mem_append.mp hp).imp (first.owners pair) (rest.owners pair))

theorem Running.accounted (running : session.Running world config c)
    (parallel : config.Parallel n) (records : List Record) :
    ∃ events uploads,
      session.Accounted (session.uploadAll world records) records events uploads := by
  induction records generalizing session with
  | nil =>
    exact ⟨[], [], rfl, (List.append_nil _).symm, Uploader.ledger_noted [], .slnil,
      List.forall_mem_nil _⟩
  | cons record records ih =>
    obtain ⟨events, uploads, first⟩ : ∃ events uploads,
        session.Accounted (session.step world (.upload record)).2 [record] events uploads :=
      accounted_step (running.equipped.places parallel) rfl
    obtain ⟨later, more, rest⟩ := ih (running.step rfl)
    exact ⟨_, _, first.append rest⟩

-- ---------------------------------------------------------------------------
-- One identifier, one use
-- ---------------------------------------------------------------------------

def shellIds (session : Session) : List String :=
  (Event.calls session.progress.history).filterMap Call.shellId?

def submodelIds (session : Session) : List String :=
  Event.submodelIds session.progress.history

def describedIds (session : Session) : List String :=
  (Event.calls session.progress.history).flatMap Call.describedIds

def payloadIds (session : Session) : List String :=
  (Event.calls session.progress.history).filterMap Call.payloadId?

def createdAssetIds (session : Session) : List String :=
  (Event.calls session.progress.history).filterMap Call.createdAssetId?

def identifiers (session : Session) : List String :=
  session.uploader.dataPlaneAssets ++ (session.shellIds ++ session.submodelIds)

structure Tallied (session : Session) (config : Config) (given : List Record)
    (uploads : List (Record × Upload)) : Prop where
  equipped : session.uploader.Equipped config
  begun : ∀ pair ∈ uploads, pair.2.Begun session.uploader pair.1
  owners : ∀ pair ∈ uploads, pair.1 ∈ given
  minted : (session.progress.history.filterMap Event.minted?).Perm session.identifiers
  submodels : session.submodelIds = uploads.map fun pair => pair.2.id
  described : session.describedIds.Sublist session.submodelIds
  payloads : session.payloadIds.Sublist session.submodelIds
  assets : session.createdAssetIds.Sublist (uploads.map fun pair => pair.2.assetId pair.1)

theorem uploadAll_tallied (parallel : config.Parallel n)
    (started : start? world config ⟨c⟩ = some session) (records : List Record) :
    ∃ uploads, (session.uploadAll world records).Tallied config records uploads := by
  have running := start_running started
  obtain ⟨hminted, hslots, hexchanges⟩ := start_history started
  obtain ⟨events, uploads, accounted⟩ := running.accounted parallel records
  generalize session.uploadAll world records = after at accounted ⊢
  have calls : Event.calls after.progress.history = Event.calls events := by
    rw [accounted.history, Event.calls_append, Event.calls, hexchanges]
    rfl
  have submodels : after.submodelIds = uploads.map fun pair => pair.2.id := by
    have hevents := accounted.ledger.submodels []
    rw [List.append_nil] at hevents
    rw [submodelIds, accounted.history, Event.submodelIds_append hslots, hevents]
    exact List.append_nil _
  refine ⟨uploads, ?equipped, ?begun, accounted.owners, ?minted, submodels, ?described,
    ?payloads, ?assets⟩
  case equipped => exact accounted.uploader ▸ running.equipped
  case begun => exact accounted.uploader ▸ accounted.ledger.begun
  case minted =>
    rw [identifiers, shellIds, calls, submodels, accounted.history, List.filterMap_append,
      hminted, accounted.uploader]
    exact accounted.ledger.minted.append_left _
  case described =>
    rw [describedIds, calls, submodels]
    exact accounted.described
  case payloads =>
    rw [payloadIds, calls, submodels]
    exact accounted.ledger.payloads
  case assets =>
    rw [createdAssetIds, calls]
    exact accounted.ledger.assets

theorem Tallied.uploads_minted {given : List Record}
    (tallied : session.Tallied config given uploads)
    (distinct : (session.progress.history.filterMap Event.minted?).Nodup)
    (urns : ∀ id ∈ session.progress.history.filterMap Event.minted?, Identifier.IsUrn id) :
    session.uploader.Minted uploads := by
  have sublist : (session.uploader.dataPlaneAssets ++ session.submodelIds).Sublist
      session.identifiers := (List.sublist_append_right _ _).append_left _
  rw [tallied.submodels] at sublist
  exact ⟨(tallied.minted.nodup distinct).sublist sublist,
    fun id hid => urns id (tallied.minted.mem_iff.mpr (sublist.subset hid))⟩

def directAssetId (submodel : Record × String) : String :=
  submodel.1.part ++ "-" ++ submodel.2

/-- What a configuration provides goes by these, in any session. -/
def providedAssetIds : List String :=
  AssetRequest.registryId :: NotificationKind.all.map NotificationKind.assetId

theorem length_providedAssetIds : ∀ id ∈ providedAssetIds, id.length ≤ 30 := by decide

/-- No identifier has two uses, and calls go by those of submodels begun. -/
structure Unambiguous (session : Session) : Prop where
  distinct : session.identifiers.Nodup
  described : session.describedIds.Sublist session.submodelIds
  payloads : session.payloadIds.Sublist session.submodelIds

/-- No two of `submodels`, all that were begun, have an asset of one id, and none
has that of anything else. -/
structure UnambiguousAssets (session : Session) (given : List Record)
    (submodels : List (Record × String)) : Prop where
  ids : submodels.map Prod.snd = session.submodelIds
  owners : ∀ submodel ∈ submodels, submodel.1 ∈ given
  created : session.createdAssetIds.Sublist (submodels.map directAssetId)
  distinct : (submodels.map directAssetId).Nodup
  apart : (submodels.map directAssetId).Disjoint (session.identifiers ++ providedAssetIds)

theorem Tallied.unambiguousAssets {given : List Record}
    (tallied : session.Tallied config given uploads) (parallel : config.Parallel n)
    (distinct : (session.progress.history.filterMap Event.minted?).Nodup)
    (urns : ∀ id ∈ session.progress.history.filterMap Event.minted?, Identifier.IsUrn id)
    (schema : config.schema = .v2) :
    session.UnambiguousAssets given (uploads.map fun pair => (pair.1, pair.2.id)) := by
  have minted := tallied.uploads_minted distinct urns
  have direct : ∀ pair ∈ uploads, pair.2.placement.dataPlane = none := fun pair hp =>
    ((tallied.begun pair hp).standsAt tallied.equipped parallel).direct
      (tallied.equipped.config_eq ▸ schema)
  have assets : (uploads.map fun pair => (pair.1, pair.2.id)).map directAssetId =
      uploads.map fun pair => pair.2.assetId pair.1 := by
    rw [List.map_map]
    exact List.map_congr_left fun pair hp => (Upload.assetId_direct pair.1 (direct pair hp)).symm
  have once : uploads.Nodup := (List.nodup_append.mp minted.distinct).2.1.of_map _
  refine ⟨?ids, ?owners, ?created, ?distinct, ?apart⟩
  case ids =>
    rw [List.map_map, tallied.submodels]
    rfl
  case owners =>
    intro submodel hs
    obtain ⟨pair, hp, rfl⟩ := List.mem_map.mp hs
    exact tallied.owners pair hp
  case created => exact assets ▸ tallied.assets
  case distinct =>
    rw [assets]
    exact once.map_on fun pair hp other ho same =>
      minted.pair_eq hp ho (direct pair hp) (direct other ho) same
  case apart =>
    intro id hid hother
    obtain ⟨submodel, hs, rfl⟩ := List.mem_map.mp hid
    obtain ⟨pair, hp, rfl⟩ := List.mem_map.mp hs
    -- Longer than any identifier and than the names of what is provided.
    have long : (directAssetId (pair.1, pair.2.id)).length = pair.1.part.length + 1 + 45 := by
      rw [directAssetId, String.length_append, String.length_append, minted.length_eq hp]
      rfl
    rcases List.mem_append.mp hother with hidentifier | hprovided
    · have hurn := urns _ (tallied.minted.mem_iff.mpr hidentifier)
      have := hurn.length_eq
      omega
    · have := length_providedAssetIds _ hprovided
      omega

/-- Whatever the network answers. A session goes on after uploads that ended
early. -/
theorem uploadAll_identifiers {settings : Settings} {records : List Record}
    (valid : settings.validate = .ok config)
    (started : start? world config ⟨c⟩ = some session)
    (ended : session.uploadAll world records = after)
    (distinct : (after.progress.history.filterMap Event.minted?).Nodup)
    (urns : ∀ id ∈ after.progress.history.filterMap Event.minted?, Identifier.IsUrn id) :
    after.Unambiguous ∧
      (config.schema = .v2 → ∃ submodels, after.UnambiguousAssets records submodels) := by
  have parallel := Settings.validate_parallel valid
  obtain ⟨uploads, tallied⟩ := uploadAll_tallied parallel started records
  rw [ended] at tallied
  exact ⟨⟨tallied.minted.nodup distinct, tallied.described, tallied.payloads⟩,
    fun schema => ⟨_, tallied.unambiguousAssets parallel distinct urns schema⟩⟩

end Session

namespace Sample

def directSettings : Settings := { settings with dataPlaneUrls := none, aas3 := false }

def directConfig : Config := { config with dataPlaneUrls := [], schema := .v2 }

/-- The first record is uploaded twice; between its uploads stands one whose part
looks like an identifier. -/
def repeatedRecords : List Record :=
  [record, { record with part := world.identifier 0 ++ "-" }, record]

/-- Two submodels and a shell for each record. -/
def repeatedIds : List String := (List.range 9).map world.identifier

theorem repeatedIds_nodup : repeatedIds.Nodup := by decide +kernel

theorem repeatedIds_urns : ∀ id ∈ repeatedIds, Identifier.IsUrn id := identifiers_urns 9

end Sample

/-- Six submodels, all with an asset of their own. -/
theorem Session.uploadAll_identifiers_sample : ∃ session,
    start? Sample.world Sample.directConfig .initial = some session ∧
    (session.uploadAll Sample.world Sample.repeatedRecords).submodelIds.length = 6 ∧
    (session.uploadAll Sample.world Sample.repeatedRecords).Unambiguous ∧
    ∃ submodels, (session.uploadAll Sample.world Sample.repeatedRecords).UnambiguousAssets
      Sample.repeatedRecords submodels := by
  obtain ⟨session, started, minted, begun⟩ : ∃ session,
      start? Sample.world Sample.directConfig .initial = some session ∧
      (session.uploadAll Sample.world Sample.repeatedRecords).progress.history.filterMap
        Event.minted? = Sample.repeatedIds ∧
      (session.uploadAll Sample.world Sample.repeatedRecords).submodelIds.length = 6 :=
    ⟨_, rfl, rfl, rfl⟩
  have valid : Sample.directSettings.validate = .ok Sample.directConfig := rfl
  obtain ⟨unambiguous, assets⟩ := uploadAll_identifiers valid started rfl
    (minted ▸ Sample.repeatedIds_nodup) (minted ▸ Sample.repeatedIds_urns)
  exact ⟨session, started, begun, unambiguous, assets rfl⟩

end Dataspace
