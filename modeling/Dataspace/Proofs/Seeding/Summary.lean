import Dataspace.Proofs.Seeding.Delivery
import Dataspace.Proofs.Seeding.Filtering
import Dataspace.Proofs.Seeding.Unsteered

/-!
# Totals account for the calls

The totals of a run are counts of what it posted after provisioning, kind by
kind (`Tallies`). One record adds what it posts to them (`Uploaded.tallies`), and
so do all records of a run, one after the other (`seed_totals`).
-/

namespace Dataspace

open Plan

-- ---------------------------------------------------------------------------
-- Counts
-- ---------------------------------------------------------------------------

def Call.isShell : Call → Bool
  | .registerShell .. => true
  | _ => false

def Exchange.isAccepted (exchange : Exchange) : Bool :=
  match exchange.answer with
  | .ok answer => answer.status ≤ 205
  | .error _ => false

def posted (kind : Call → Bool) (exchanges : List Exchange) : Nat :=
  exchanges.countP fun exchange => kind exchange.call

def accepted (kind : Call → Bool) (exchanges : List Exchange) : Nat :=
  exchanges.countP fun exchange => kind exchange.call && exchange.isAccepted

section
variable {kind : Call → Bool} {exchanges later : List Exchange}

@[simp] theorem posted_append :
    posted kind (exchanges ++ later) = posted kind exchanges + posted kind later :=
  List.countP_append

@[simp] theorem accepted_append :
    accepted kind (exchanges ++ later) = accepted kind exchanges + accepted kind later :=
  List.countP_append

theorem accepted_le_posted : accepted kind exchanges ≤ posted kind exchanges :=
  List.countP_mono_left fun _ _ h => (Bool.and_eq_true_iff.mp h).1

end

theorem Response.not_isFailure {answer : Response} :
    (!answer.isFailure) = decide (answer.status ≤ 205) := by
  rw [isFailure, Bool.eq_iff_iff, Bool.not_eq_true', decide_eq_false_iff_not, decide_eq_true_iff,
    Nat.not_lt]

-- ---------------------------------------------------------------------------
-- Entries
-- ---------------------------------------------------------------------------

theorem PayloadPost.posted_eq (h : PayloadPost server submodelId entry calls) :
    posted Call.isAsset calls = 0 ∧ posted Call.isDefinition calls = 0 ∧
      posted Call.isShell calls = 0 := by
  cases h with
  | absent => exact ⟨rfl, rfl, rfl⟩
  | stored => exact ⟨rfl, rfl, rfl⟩

theorem OfferPosts.posted_eq (h : OfferPosts connector policyId assetId asset calls) :
    posted Call.isAsset calls = 1 ∧ posted Call.isDefinition calls = accepted Call.isAsset calls ∧
      posted Call.isShell calls = 0 := by
  cases h with
  | refused answer refused =>
    have unaccepted : ¬answer.status ≤ 205 := Nat.not_le.mpr refused
    simp [posted, accepted, Call.isAsset, Call.isDefinition, Call.isShell, Exchange.isAccepted,
      unaccepted]
  | offered answer outcome h =>
    simp [posted, accepted, Call.isAsset, Call.isDefinition, Call.isShell, Exchange.isAccepted, h]

theorem SubmodelPosts.posted_eq (h : SubmodelPosts policyId entry calls) :
    posted Call.isAsset calls = 1 ∧ posted Call.isDefinition calls = accepted Call.isAsset calls ∧
      posted Call.isShell calls = 0 := by
  cases h with
  | posts payload offer =>
    obtain ⟨noAsset, noDefinition, noShell⟩ := payload.posted_eq
    obtain ⟨asset, definition, shell⟩ := offer.posted_eq
    have unaccepted := Nat.le_zero.mp (noAsset ▸ accepted_le_posted)
    simp [noAsset, noDefinition, noShell, unaccepted, asset, definition, shell]

theorem EntryPosts.posted_eq (h : EntryPosts policyId entries calls) :
    posted Call.isAsset calls = entries.length ∧
      posted Call.isDefinition calls = accepted Call.isAsset calls ∧
      posted Call.isShell calls = 0 := by
  induction h with
  | nil => exact ⟨rfl, rfl, rfl⟩
  | cons first _ ih =>
    obtain ⟨asset, definition, shell⟩ := first.posted_eq
    obtain ⟨assets, definitions, shells⟩ := ih
    simp [asset, definition, shell, assets, definitions, shells, Nat.add_comm]

-- ---------------------------------------------------------------------------
-- Records
-- ---------------------------------------------------------------------------

structure RecordTally (record : Record) (outcome : RecordOutcome) (calls : List Exchange) :
    Prop where
  submodels : outcome.submodels = record.eligible.length
  assets : posted Call.isAsset calls = outcome.submodels
  definitions : posted Call.isDefinition calls = accepted Call.isAsset calls
  registered : posted Call.isShell calls = if record.eligible ≠ [] then 1 else 0
  shell : accepted Call.isShell calls = if outcome.shellUploaded then 1 else 0

theorem accepted_shell {registry : String} {shell : Shell} {answer : Response} :
    accepted Call.isShell [⟨.registerShell registry shell, .ok answer⟩] =
      if !answer.isFailure then 1 else 0 := by
  rw [Response.not_isFailure]
  simp [accepted, Call.isShell, Exchange.isAccepted, List.countP_cons]

theorem Uploader.posted_finishRecord {uploader : Uploader}
    (h : Trace (uploader.finishRecord record (.ofRecord record) descriptors) events
      (some outcome)) :
    outcome.submodels = descriptors.length ∧
      posted Call.isAsset (events.filterMap Event.exchange?) = 0 ∧
      posted Call.isDefinition (events.filterMap Event.exchange?) = 0 ∧
      posted Call.isShell (events.filterMap Event.exchange?) =
        (if descriptors ≠ [] then 1 else 0) ∧
      accepted Call.isShell (events.filterMap Event.exchange?) =
        if outcome.shellUploaded then 1 else 0 := by
  rcases trace_finishRecord h with ⟨rfl, rfl, ho⟩ |
    ⟨some, _, _, _, _, rfl, ⟨_, -, -, ho⟩ | ⟨response, _, rfl, rfl, ho⟩⟩
  · cases ho
    exact ⟨rfl, rfl, rfl, rfl, rfl⟩
  · cases ho
  · cases ho
    exact ⟨rfl, rfl, rfl, (if_pos some).symm, accepted_shell⟩

theorem Uploader.Uploaded.tally {uploader : Uploader}
    (h : uploader.Uploaded record events (some outcome)) :
    RecordTally record outcome (events.filterMap Event.exchange?) := by
  generalize ho : some outcome = result at h
  cases h with
  | aborted => cases ho
  | @ended last _ notices uploads all ended closing =>
    subst ho
    have posts := Upload.entryPosts_uploads ended
    rw [all] at posts
    obtain ⟨assets, definitions, shells⟩ := posts.posted_eq
    have unaccepted := Nat.le_zero.mp (shells ▸ accepted_le_posted)
    obtain ⟨submodels, noAsset, noDefinition, registered, shell⟩ := posted_finishRecord closing
    have noneAccepted := Nat.le_zero.mp (noAsset ▸ accepted_le_posted)
    have length : uploads.length = record.eligible.length := by rw [← all, List.length_map]
    have some : uploads.map (Upload.descriptor uploader record) ≠ [] ↔ record.eligible ≠ [] := by
      rw [← all, ne_eq, ne_eq, List.map_eq_nil_iff, List.map_eq_nil_iff]
    rw [List.length_map, length] at submodels
    have calls : (notices.map Event.noted ++ uploads.flatMap Upload.events ++ last).filterMap
        Event.exchange? = (uploads.map Upload.calls).flatten ++ last.filterMap Event.exchange? := by
      simp [Upload.exchanges_flatMap]
    rw [calls]
    refine ⟨submodels, ?_, ?_, ?_, ?_⟩
    · rw [posted_append, assets, noAsset, submodels]
      rfl
    · rw [posted_append, accepted_append, definitions, noDefinition, noneAccepted]
    · simp only [posted_append, shells, registered, some, Nat.zero_add]
    · rw [accepted_append, unaccepted, shell, Nat.zero_add]

structure Tallies (records : List Record) (totals : Totals) (calls : List Exchange) : Prop where
  counted : totals.records = records.length
  submodels : totals.submodels = (records.flatMap Record.eligible).length
  assets : posted Call.isAsset calls = totals.submodels
  definitions : posted Call.isDefinition calls = accepted Call.isAsset calls
  registered : posted Call.isShell calls = records.countP fun record => record.eligible ≠ []
  shells : totals.shells = accepted Call.isShell calls

theorem Tallies.add {records : List Record} (h : Tallies records totals calls)
    (last : RecordTally record outcome more) :
    Tallies (records ++ [record]) (totals.add outcome) (calls ++ more) where
  counted := by simp [Totals.add, h.counted]
  submodels := by simp [Totals.add, h.submodels, last.submodels]
  assets := by simp [Totals.add, h.assets, last.assets]
  definitions := by simp [h.definitions, last.definitions]
  registered := by simp [h.registered, last.registered, List.countP_cons]
  shells := by simp [Totals.add, h.shells, last.shell]

theorem Uploader.UploadedEach.tallies {uploader : Uploader} {earlier : List Record}
    (h : uploader.UploadedEach records events (some outcomes))
    (before : Tallies earlier totals calls) :
    Tallies (earlier ++ records) (outcomes.foldl Totals.add totals)
      (calls ++ events.filterMap Event.exchange?) := by
  generalize ho : some outcomes = result at h
  induction h generalizing outcomes earlier totals calls with
  | nil =>
    cases ho
    simpa using before
  | ended first _ ih =>
    obtain ⟨rest, hrest, rfl⟩ := Option.map_eq_some_iff.mp ho.symm
    simpa using ih (before.add first.tally) hrest.symm
  | aborted => cases ho

-- ---------------------------------------------------------------------------
-- Certified records
-- ---------------------------------------------------------------------------

namespace Record

variable {record : Record}

theorem eligible_ne_nil (h : record.submodels.get? key = some value)
    (eligible : Key.isEligible key = true) : record.eligible ≠ [] :=
  List.ne_nil_of_mem (List.mem_filter.mpr ⟨Members.get?_eq_some.mp h, eligible⟩)

theorem eligible_of_hasChildItems (h : record.hasChildItems = true) : record.eligible ≠ [] := by
  cases hbom : record.submodels.get? Key.bomAsBuilt with
  | none =>
    rw [hasChildItems, hbom] at h
    cases h
  | some value => exact eligible_ne_nil hbom Key.isEligible_bomAsBuilt

theorem eligible_injectCertificate :
    record.injectCertificate.eligible ≠ [] ↔ record.eligible ≠ [] := by
  unfold injectCertificate
  split
  · rename_i children
    refine ⟨fun _ => eligible_of_hasChildItems children, fun _ => ?_⟩
    have inserted : (record.submodels.insert Key.certificate (.string "")).get? Key.certificate =
        some (.string "") := (Members.get?_insert ..).trans (if_pos rfl)
    exact eligible_ne_nil inserted Key.isEligible_certificate
  · exact Iff.rfl

end Record

theorem Config.eligible_certified (config : Config) (record : Record) :
    (config.certified record).eligible ≠ [] ↔ record.eligible ≠ [] := by
  unfold certified
  split
  · exact Record.eligible_injectCertificate
  · exact Iff.rfl

-- ---------------------------------------------------------------------------
-- Runs
-- ---------------------------------------------------------------------------

def seedRecords (config : Config) (records : List Record) : Plan Totals := do
  let uploader ← Uploader.prepare config
  let totals ← uploader.uploadAll records .zero
  say (.finished totals.records totals.submodels totals.shells)
  return totals

section
variable {settings : Settings} {config : Config} {fixture : Fixture} {world : World}

theorem seed_eq_bind (config : Config) (fixture : Fixture) :
    seed config fixture =
      config.provision fixture.policies >>= fun _ => seedRecords config fixture.records := rfl

theorem trace_seedRecords (parallel : config.Parallel n)
    (h : Trace (seedRecords config records) events (some totals)) :
    Tallies (config.due records) totals (events.filterMap Event.exchange?) := by
  obtain ⟨uploader, first, _, rfl, prepared, h⟩ := trace_bind_some.mp h
  obtain ⟨counted, second, last, rfl, uploaded, h⟩ := trace_bind_some.mp h
  obtain ⟨_, rfl, returned⟩ := trace_say_bind.mp h
  obtain ⟨rfl, same⟩ := trace_pure.mp returned
  cases same
  obtain ⟨equipped, -, -, silent⟩ := Uploader.trace_prepare prepared
  obtain ⟨outcomes, each, ended⟩ := Uploader.trace_uploadAll (equipped.places parallel) uploaded
  obtain ⟨outcomes, rfl, rfl⟩ := Option.map_eq_some_iff.mp ended.symm
  rw [equipped.config_eq] at each
  have none : Tallies [] .zero [] := ⟨rfl, rfl, rfl, rfl, rfl, rfl⟩
  simpa [silent, List.filterMap_cons] using each.tallies none

theorem run_seed_ok (parallel : config.Parallel n)
    (run : (seed config fixture).run world progress = (.ok totals, later)) :
    ∃ provisioned calls,
      (config.provision fixture.policies).run world progress = (.ok (), provisioned) ∧
      later.exchanges = provisioned.exchanges ++ calls ∧
      Tallies (config.due fixture.records) totals calls := by
  rw [seed_eq_bind, run_bind] at run
  split at run
  · rename_i provisioned provision
    obtain ⟨events, reached, trace, -⟩ :=
      run_trace world (seedRecords config fixture.records) provisioned
    rw [run] at reached trace
    obtain rfl : later = provisioned.recordAll events := reached
    exact ⟨provisioned, _, provision, provisioned.exchanges_recordAll events,
      trace_seedRecords parallel trace⟩
  · cases run

/-- Assets, contract definitions and shells are those of the records that the
filter keeps, since they are posted after provisioning. A certificate is injected
only where another submodel is eligible, so which records have a shell does not
depend on it. -/
theorem seed_totals (valid : settings.validate = .ok config)
    (run : (seed config fixture).run world (.start .initial) = (.ok totals, later)) :
    ∃ provisioned calls,
      (config.provision fixture.policies).run world (.start .initial) = (.ok (), provisioned) ∧
      later.exchanges = provisioned.exchanges ++ calls ∧
      let kept := (fixture.keptFor settings.bpns).records
      totals.records = kept.length ∧
      totals.submodels = (kept.flatMap fun record => (config.certified record).eligible).length ∧
      totals.submodels = posted Call.isAsset calls ∧
      posted Call.isDefinition calls = accepted Call.isAsset calls ∧
      posted Call.isShell calls = kept.countP (fun record => record.eligible ≠ []) ∧
      posted Call.isShell calls =
        kept.countP (fun record => (config.certified record).eligible ≠ []) ∧
      totals.shells = accepted Call.isShell calls ∧
      totals.shells ≤ totals.records := by
  obtain ⟨provisioned, calls, provision, split, tallies⟩ :=
    run_seed_ok (Settings.validate_parallel valid) run
  have due : config.due fixture.records =
      (fixture.keptFor settings.bpns).records.map config.certified := by
    rw [← Settings.validate_bpnFilter valid, config.records_keptFor]
    rfl
  rw [due] at tallies
  have registered := tallies.registered
  rw [List.countP_map] at registered
  refine ⟨provisioned, calls, provision, split, ?_, ?_, tallies.assets.symm, tallies.definitions,
    ?_, registered, tallies.shells, ?_⟩
  · rw [tallies.counted, List.length_map]
  · rw [tallies.submodels, List.flatMap_map]
  -- A certificate comes to records that have an eligible entry already.
  · rw [registered]
    exact List.countP_congr fun record _ => by simp [config.eligible_certified]
  · calc totals.shells
      _ = accepted Call.isShell calls := tallies.shells
      _ ≤ posted Call.isShell calls := accepted_le_posted
      _ ≤ ((fixture.keptFor settings.bpns).records.map config.certified).length := by
        rw [tallies.registered]
        exact List.countP_le_length
      _ = totals.records := tallies.counted.symm

end

namespace Sample

def shellless : Network := fun _ call => .ok ⟨if call.isShell then 409 else 200, ""⟩

end Sample

/-- A record that is not kept, and one that goes without its shell. -/
theorem seed_totals_sample : ∃ (totals : Totals) (later provisioned : Progress)
    (calls : List Exchange),
    (seed Sample.filteringConfig ⟨[Sample.foreignRecord, Sample.record], defaultPolicies⟩).run
      ⟨Sample.shellless, Sample.world.identifier⟩ (.start .initial) = (.ok totals, later) ∧
    later.exchanges = provisioned.exchanges ++ calls ∧
    totals = ⟨1, 2, 0⟩ ∧ posted Call.isShell calls = 1 ∧
    posted Call.isDefinition calls = accepted Call.isAsset calls := by
  have valid : Sample.filteringSettings.validate = .ok Sample.filteringConfig := rfl
  have run : (seed Sample.filteringConfig
      ⟨[Sample.foreignRecord, Sample.record], defaultPolicies⟩).run
      ⟨Sample.shellless, Sample.world.identifier⟩ (.start .initial) = (.ok ⟨1, 2, 0⟩, _) := rfl
  obtain ⟨provisioned, calls, -, split, -, -, -, definitions, shells, -⟩ := seed_totals valid run
  exact ⟨_, _, provisioned, calls, run, split, rfl, shells, definitions⟩

end Dataspace
