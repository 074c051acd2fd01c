import Dataspace.Proofs.Seeding.Position
import Dataspace.Proofs.Seeding.Run

/-!
# Picking never fails

A slot picks from up to six lists, and gets stuck if and only if one of them is empty
(`uploadSubmodel_stuck_iff`). Under settings that were accepted none of them is, from
the start of a session on and whatever happens in it (`Session.Secure`), and every
descriptor that a shell holds has an address to begin with. So neither sessions nor
whole runs get stuck (`validate_secure`).
-/

namespace Dataspace

open Plan

-- ---------------------------------------------------------------------------
-- Lists to pick from
-- ---------------------------------------------------------------------------

namespace Uploader

inductive Consults (uploader : Uploader) : List String → Prop
  | submodel : Consults uploader uploader.config.submodelUrls
  | submodelUpload : Consults uploader uploader.config.submodelUploadUrls
  | connector : Consults uploader uploader.config.connectorUrls
  | connectorUpload : Consults uploader uploader.config.connectorUploadUrls
  | dataPlane (proxied : uploader.config.schema = .v3) :
      Consults uploader uploader.config.dataPlaneUrls
  | dataPlaneAsset (proxied : uploader.config.schema = .v3) :
      Consults uploader uploader.dataPlaneAssets

def Stocked (uploader : Uploader) : Prop := ∀ items, uploader.Consults items → items ≠ []

variable {uploader : Uploader} {config : Config}

theorem Equipped.stocked (equipped : uploader.Equipped config) (parallel : config.Parallel n) :
    uploader.Stocked := by
  obtain ⟨rfl, assets⟩ := equipped
  have nonempty (items : List String) (length : items.length = n) : items ≠ [] :=
    List.ne_nil_of_length_pos (length ▸ parallel.pos)
  intro items consults
  cases consults with
  | submodel => exact nonempty _ parallel.submodel
  | submodelUpload => exact nonempty _ parallel.submodelUpload
  | connector => exact nonempty _ parallel.connector
  | connectorUpload => exact nonempty _ parallel.connectorUpload
  | dataPlane proxied => exact nonempty _ (parallel.dataPlane proxied)
  | dataPlaneAsset proxied => exact nonempty _ (assets.trans (parallel.dataPlane proxied))

theorem Stocked.places (stocked : uploader.Stocked) : uploader.Places := by
  intro slot
  have picks (items : List String) (consults : uploader.Consults items) :
      ∃ item, slot.pick? items = some item := by
    obtain ⟨item, picked, -⟩ :=
      slot.pick?_eq rfl (List.length_pos_iff.mpr (stocked items consults))
    exact ⟨item, picked⟩
  obtain ⟨submodelUrl, hs⟩ := picks _ .submodel
  obtain ⟨submodelUploadUrl, hsu⟩ := picks _ .submodelUpload
  obtain ⟨connectorUrl, hc⟩ := picks _ .connector
  obtain ⟨connectorUploadUrl, hcu⟩ := picks _ .connectorUpload
  cases hschema : uploader.config.schema with
  | v2 =>
    exact ⟨⟨submodelUrl, submodelUploadUrl, connectorUrl, connectorUploadUrl, none⟩,
      by simp [placement?, dataPlane?, hschema, hs, hsu, hc, hcu]⟩
  | v3 =>
    obtain ⟨url, hd⟩ := picks _ (.dataPlane hschema)
    obtain ⟨assetId, ha⟩ := picks _ (.dataPlaneAsset hschema)
    exact ⟨⟨submodelUrl, submodelUploadUrl, connectorUrl, connectorUploadUrl, some ⟨url, assetId⟩⟩,
      by simp [placement?, dataPlane?, hschema, hs, hsu, hc, hcu, hd, ha]⟩

theorem placement?_none (consults : uploader.Consults items) (empty : items = []) (slot : Slot) :
    uploader.placement? slot = none := by
  have fails : slot.pick? items = none := by simp [Slot.pick?, empty]
  cases consults with
  | submodel => simp [placement?, fails]
  | submodelUpload => simp [placement?, fails]
  | connector => simp [placement?, fails]
  | connectorUpload => simp [placement?, fails]
  | dataPlane proxied => simp [placement?, dataPlane?, proxied, fails]
  | dataPlaneAsset proxied => simp [placement?, dataPlane?, proxied, fails]

theorem uploadSubmodel_stuck_iff {world : World} {progress : Progress} :
    ((uploader.uploadSubmodel record entry).run world progress).1 = .error .stuck ↔
      ∃ items, uploader.Consults items ∧ items = [] := by
  constructor
  · intro stuck
    by_cases stocked : uploader.Stocked
    · exact absurd stuck (run_ne_stuck (neverStuck_uploadSubmodel stocked.places record entry))
    · simpa [Stocked] using stocked
  · rintro ⟨items, consults, empty⟩
    simp [uploadSubmodel, nextSlot, run_bind, run, placement?_none consults empty, require]

end Uploader

theorem Step.neverStuck_plan {uploader : Uploader} (places : uploader.Places) (step : Step) :
    (step.plan uploader).NeverStuck := by
  cases step with
  | ensurePolicies =>
    exact .bind (.forM fun entry _ => neverStuck_ensureNamedPolicy _ entry) fun _ => .pure _
  | ensureRegistry => exact .bind (Config.neverStuck_ensureOffers _ _) fun _ => .pure _
  | ensureNotifications => exact .bind (Config.neverStuck_ensureOffers _ _) fun _ => .pure _
  | upload record => exact .bind (Uploader.neverStuck_uploadRecord places record) fun _ => .pure _

-- ---------------------------------------------------------------------------
-- First endpoints
-- ---------------------------------------------------------------------------

def Call.Addressed : Call → Prop
  | .registerShell _ shell => ∀ descriptor ∈ shell.descriptors, ∃ address,
      descriptor.address? = some address ∧
      Document.address? shell.schema descriptor.toJson = some address
  | _ => True

/-- So many submodels at most are begun in these events, and what is described has an address. -/
structure Orderly (submodels : Nat) (events : List Event) : Prop where
  begun : (events.filterMap Event.slot?).length ≤ submodels
  addressed : ∀ exchange, .exchanged exchange ∈ events → exchange.call.Addressed

def submodelCount (records : List Record) : Nat := (records.flatMap Record.eligible).length

theorem submodelCount_cons (record : Record) (records : List Record) :
    submodelCount (record :: records) = record.eligible.length + submodelCount records := by
  simp [submodelCount]

theorem Orderly.append (first : Orderly n events) (rest : Orderly m later) :
    Orderly (n + m) (events ++ later) := by
  constructor
  · rw [List.filterMap_append, List.length_append]
    exact Nat.add_le_add first.begun rest.begun
  · intro exchange hx
    exact (List.mem_append.mp hx).elim (first.addressed exchange) (rest.addressed exchange)

theorem Orderly.mono (h : Orderly n events) (le : n ≤ m) : Orderly m events :=
  ⟨Nat.le_trans h.begun le, h.addressed⟩

theorem orderly_noted (notices : List Notice) : Orderly 0 (notices.map .noted) := by
  constructor
  · simp
  · intro exchange hx
    obtain ⟨_, -, h⟩ := List.mem_map.mp hx
    cases h

theorem Config.orderly_provision {config : Config}
    (h : Trace (config.provision policies) events outcome) : Orderly 0 events := by
  have provides := config.emits_provision policies events outcome h
  constructor
  · have silent : events.filterMap Event.slot? = [] := by
      refine List.filterMap_eq_nil_iff.mpr fun event he => ?_
      cases event with
      | claimed slot => exact (provides _ he).elim
      | _ => rfl
    simp [silent]
  · intro exchange hx
    have provided : config.Provides exchange.call := provides _ hx
    cases hcall : exchange.call with
    | registerShell => rw [hcall] at provided; exact provided.elim
    | _ => trivial

namespace Uploader

variable {uploader : Uploader} {config : Config}

theorem address?_uploadSubmodel {world : World} (places : uploader.Places)
    (h : (uploader.uploadSubmodel record entry).run world progress = (.ok descriptor, later)) :
    ∃ address, descriptor.address? = some address := by
  obtain ⟨events, -, htrace, -⟩ :=
    run_trace world (uploader.uploadSubmodel record entry) progress
  rw [h] at htrace
  obtain ⟨upload, -, -, ⟨described, -⟩ | ⟨aborted, -⟩⟩ := trace_uploadSubmodel places htrace
  · obtain rfl : descriptor = upload.descriptor uploader record := Option.some.inj described
    exact ⟨_, Upload.address?_descriptor⟩
  · cases aborted

theorem orderly_prepare (h : Trace (prepare config) events (some uploader)) : Orderly 0 events := by
  obtain ⟨-, -, slots, exchanges⟩ := trace_prepare h
  constructor
  · simp [slots]
  · intro exchange hx
    have posted := Event.mem_exchanges.mpr hx
    rw [exchanges] at posted
    cases posted

theorem Uploaded.orderly (h : uploader.Uploaded record events outcome)
    (equipped : uploader.Equipped config) (parallel : config.Parallel n) :
    Orderly record.eligible.length events := by
  obtain ⟨uploads, located, -⟩ := h.located
  constructor
  · have some_of := located.entries.length_le
    rwa [List.length_map, ← List.length_map Upload.slot, ← located.slots] at some_of
  · intro exchange hx
    obtain ⟨past, rest, split⟩ := List.append_of_mem hx
    rcases located.exchanges past exchange rest split with ⟨_, _, -, -, allows⟩ | ⟨-, _, registers⟩
    · cases hcall : exchange.call with
      | registerShell => rw [hcall] at allows; exact allows.elim
      | _ => trivial
    · rw [registers]
      intro descriptor described
      obtain ⟨upload, hu, rfl⟩ := List.mem_map.mp described
      have stands := (located.begun upload hu).standsAt equipped parallel
      exact ⟨_, Upload.address?_descriptor, Upload.shown_descriptor stands⟩

theorem UploadedEach.orderly (h : uploader.UploadedEach records events outcomes)
    (equipped : uploader.Equipped config) (parallel : config.Parallel n) :
    Orderly (submodelCount records) events := by
  induction h with
  | nil => exact orderly_noted []
  | ended first _ ih =>
    rw [submodelCount_cons]
    exact (first.orderly equipped parallel).append ih
  | aborted first =>
    rw [submodelCount_cons]
    exact (first.orderly equipped parallel).mono (Nat.le_add_right _ _)

end Uploader

theorem Seeded.orderly {config : Config} {fixture : Fixture}
    (h : Seeded config fixture events outcome) (parallel : config.Parallel n) :
    Orderly (submodelCount (config.due fixture.records)) events := by
  cases h with
  | provisioning stopped => exact (Config.orderly_provision stopped).mono (Nat.zero_le _)
  | uploading notices provisioned prepared uploaded =>
    have equipped := (Uploader.trace_prepare prepared).1
    have last := (uploaded.orderly equipped parallel).append (orderly_noted notices)
    have all := (Config.orderly_provision provisioned).append
      ((Uploader.orderly_prepare prepared).append last)
    simpa using all

-- ---------------------------------------------------------------------------
-- Sessions
-- ---------------------------------------------------------------------------

namespace Session

variable {world : World} {config : Config} {session after : Session}

theorem exists_start (world : World) (config : Config) (rotation : Rotation) :
    ∃ session, start? world config rotation = some session := by
  obtain ⟨events, -, htrace, -⟩ := run_trace world (Uploader.prepare config) (.start rotation)
  cases hrun : (Uploader.prepare config).run world (.start rotation) with
  | mk result progress =>
    cases result with
    | ok uploader => exact ⟨⟨uploader, progress⟩, by simp [start?, hrun]⟩
    | error failure =>
      rw [hrun] at htrace
      exact absurd htrace Uploader.not_trace_prepare_none

theorem orderly_start {rotation : Rotation} (h : start? world config rotation = some session) :
    ∃ events, session.progress = (Progress.start rotation).recordAll events ∧
      Orderly 0 events := by
  obtain ⟨events, hp, ht, -⟩ := run_trace world (Uploader.prepare config) (.start rotation)
  rw [start?_run h] at hp ht
  exact ⟨events, hp, Uploader.orderly_prepare ht⟩

theorem orderly_step (equipped : session.uploader.Equipped config) (parallel : config.Parallel n)
    (h : session.step world (.upload record) = (result, after)) :
    after.uploader = session.uploader ∧ ∃ events,
      after.progress = session.progress.recordAll events ∧
      Orderly record.eligible.length events := by
  obtain ⟨same, events, outcome, hp, htrace, -⟩ := step_upload h
  have uploaded := Uploader.trace_uploadRecord (equipped.places parallel) htrace
  exact ⟨same, events, hp, uploaded.orderly equipped parallel⟩

theorem uploadAll_cons (h : session.step world (.upload record) = (result, after)) :
    session.uploadAll world (record :: records) = after.uploadAll world records := by
  rw [uploadAll, List.foldl_cons, h]
  rfl

theorem orderly_uploadAll (equipped : session.uploader.Equipped config)
    (parallel : config.Parallel n) (records : List Record) :
    (session.uploadAll world records).uploader = session.uploader ∧ ∃ events,
      (session.uploadAll world records).progress = session.progress.recordAll events ∧
      Orderly (submodelCount records) events := by
  induction records generalizing session with
  | nil => exact ⟨rfl, [], rfl, orderly_noted []⟩
  | cons record records ih =>
    cases hstep : session.step world (.upload record) with
    | mk result after =>
      obtain ⟨same, events, happened, first⟩ := orderly_step equipped parallel hstep
      have stillEquipped : after.uploader.Equipped config := same ▸ equipped
      obtain ⟨kept, later, followed, rest⟩ := ih stillEquipped
      rw [uploadAll_cons hstep, submodelCount_cons]
      refine ⟨kept.trans same, events ++ later, ?_, first.append rest⟩
      rw [followed, happened, Progress.recordAll_append]

/-- No list to pick from is empty, no step gets stuck, and submodels that are described have an
address: those of the next uploads, and those in every shell so far. -/
structure Secure (world : World) (session : Session) : Prop where
  stocked : session.uploader.Stocked
  next : ∀ step, (session.step world step).1 ≠ .error .stuck
  described : ∀ record entry progress descriptor later,
    (session.uploader.uploadSubmodel record entry).run world progress = (.ok descriptor, later) →
    ∃ address, descriptor.address? = some address
  addressed : ∀ exchange ∈ session.progress.exchanges, exchange.call.Addressed

end Session

-- ---------------------------------------------------------------------------
-- Accepted settings
-- ---------------------------------------------------------------------------

theorem Orderly.reached {rotation : Rotation} (h : Orderly n events)
    (reached : progress = (Progress.start rotation).recordAll events) :
    (∀ exchange ∈ progress.exchanges, exchange.call.Addressed) ∧
      progress.rotation.next ≤ rotation.next + n := by
  subst reached
  constructor
  · intro exchange hx
    rw [Progress.exchanges_recordAll] at hx
    exact h.addressed exchange (Event.mem_exchanges.mp hx)
  · rw [Progress.next_recordAll]
    exact Nat.add_le_add_left h.begun _

/-- Sessions and whole runs never pick from an empty list. Sessions can begin, at any counter,
and the counter goes on for no more than there are submodels. -/
theorem Settings.validate_secure {settings : Settings} (valid : settings.validate = .ok config)
    (world : World) (rotation : Rotation) :
    (∃ session, Session.start? world config rotation = some session ∧
      ∀ records, (session.uploadAll world records).Secure world ∧
        (session.uploadAll world records).progress.rotation.next ≤
          rotation.next + submodelCount records) ∧
    (∀ progress uploader later,
      (Uploader.prepare config).run world progress = (.ok uploader, later) → uploader.Stocked) ∧
    ∀ (fixture : Fixture) result later,
      (seed config fixture).run world (.start rotation) = (result, later) →
      result ≠ .error .stuck ∧
      (∀ exchange ∈ later.exchanges, exchange.call.Addressed) ∧
      later.rotation.next ≤ rotation.next + submodelCount (config.due fixture.records) := by
  have parallel := validate_parallel valid
  refine ⟨?sessions, fun progress uploader later prepared =>
    (Uploader.prepare_equipped prepared).stocked parallel, ?runs⟩
  case sessions =>
    obtain ⟨session, started⟩ := Session.exists_start world config rotation
    refine ⟨session, started, fun records => ?_⟩
    have equipped := Uploader.prepare_equipped (Session.start?_run started)
    obtain ⟨first, happened, idle⟩ := Session.orderly_start started
    obtain ⟨same, events, followed, orderly⟩ :=
      Session.orderly_uploadAll equipped parallel records
    -- Preparing claims no slot, so the count begins with the uploads.
    rw [happened, ← Progress.recordAll_append] at followed
    obtain ⟨addressed, counted⟩ := (idle.append orderly).reached followed
    rw [Nat.zero_add] at counted
    have stocked := equipped.stocked parallel
    rw [← same] at stocked
    exact ⟨{
      stocked := stocked
      next := fun step => run_ne_stuck (step.neverStuck_plan stocked.places)
      described := fun _ _ _ _ _ => Uploader.address?_uploadSubmodel stocked.places
      addressed := addressed }, counted⟩
  case runs =>
    intro fixture result later run
    obtain ⟨events, hp, ht, -⟩ := run_trace world (seed config fixture) (.start rotation)
    have orderly := (trace_seed parallel ht).orderly parallel
    have unstuck : ((seed config fixture).run world (.start rotation)).1 ≠ .error .stuck :=
      run_ne_stuck (neverStuck_seed parallel fixture)
    rw [run] at hp unstuck
    obtain ⟨addressed, counted⟩ := orderly.reached hp
    exact ⟨unstuck, addressed, counted⟩

/-- In the third schema, with a call that is not answered. -/
theorem Settings.validate_secure_sample : ∃ session,
    Session.start? Sample.flaky Sample.config ⟨5⟩ = some session ∧
    (session.uploadAll Sample.flaky [Sample.record, Sample.record]).Secure Sample.flaky ∧
    ((seed Sample.config ⟨[Sample.record], defaultPolicies⟩).run Sample.flaky (.start ⟨5⟩)).1 ≠
      .error .stuck := by
  obtain ⟨⟨session, started, secure⟩, -, runs⟩ :=
    validate_secure Sample.settings_valid Sample.flaky ⟨5⟩
  exact ⟨session, started, (secure [Sample.record, Sample.record]).1,
    (runs ⟨[Sample.record], defaultPolicies⟩ _ _ rfl).1⟩

/-- What validation keeps away: a data plane without an asset, in the third schema. -/
example : ((Uploader.mk Sample.config []).uploadSubmodel Sample.record ("urn:mass#Mass", .null)).run
    Sample.world (.start .initial) = (.error .stuck, ⟨⟨2⟩, 0, [.claimed ⟨1⟩]⟩) := rfl

end Dataspace
