import Dataspace.Proofs.Plan.Stopping
import Dataspace.Proofs.Seeding.Records
import Dataspace.Seeding.Session

/-!
# Whole runs

A run is the provisioning, then the preparation of the uploader, then the
uploads of the records that are due (`trace_seed`). It never gets stuck, so a
call without an answer is all that can make it fail, and it is the last call
that the run makes (`seed_failStop`).
-/

namespace Dataspace

open Plan

def Config.due (config : Config) (records : List Record) : List Record :=
  (records.filter config.admits).map config.certified

theorem Config.due_cons (config : Config) (record : Record) (records : List Record) :
    config.due (record :: records) =
      if config.admits record then config.certified record :: config.due records
      else config.due records := by
  unfold due
  rw [List.filter_cons]
  split
  · exact List.map_cons
  · rfl

-- ---------------------------------------------------------------------------
-- Runs as traces
-- ---------------------------------------------------------------------------

namespace Uploader

variable {uploader : Uploader}

/-- What the uploads of some records did, one after the other. They have no
outcomes if one of them ended early. -/
inductive UploadedEach (uploader : Uploader) :
    List Record → List Event → Option (List RecordOutcome) → Prop
  | nil : UploadedEach uploader [] [] (some [])
  | ended (first : uploader.Uploaded record events (some outcome))
      (rest : UploadedEach uploader records later outcomes) :
      UploadedEach uploader (record :: records) (events ++ later)
        (outcomes.map (outcome :: ·))
  | aborted (first : uploader.Uploaded record events none) :
      UploadedEach uploader (record :: records) events none

theorem trace_uploadAll (places : uploader.Places)
    (h : Trace (uploader.uploadAll records totals) events outcome) :
    ∃ outcomes, uploader.UploadedEach (uploader.config.due records) events outcomes ∧
      outcome = outcomes.map (List.foldl Totals.add totals) := by
  induction records generalizing totals events with
  | nil =>
    obtain ⟨rfl, rfl⟩ := trace_pure.mp h
    exact ⟨some [], .nil, rfl⟩
  | cons record records ih =>
    unfold uploadAll at h
    rw [Config.due_cons]
    split at h
    · rename_i admitted
      rw [if_pos admitted]
      rcases trace_bind.mp h with ⟨recordOutcome, first, rest, rfl, hfirst, hrest⟩ | ⟨rfl, hfirst⟩
      · obtain ⟨outcomes, heach, rfl⟩ := ih hrest
        refine ⟨_, .ended (trace_uploadRecord places hfirst) heach, ?_⟩
        cases outcomes <;> rfl
      · exact ⟨none, .aborted (trace_uploadRecord places hfirst), rfl⟩
    · rename_i refused
      rw [if_neg refused]
      exact ih h

theorem neverStuck_uploadAll (places : uploader.Places) (records : List Record)
    (totals : Totals) : (uploader.uploadAll records totals).NeverStuck := by
  induction records generalizing totals with
  | nil => exact .pure totals
  | cons record records ih =>
    unfold uploadAll
    split
    · exact .bind (neverStuck_uploadRecord places _) fun outcome => ih _
    · exact ih totals

end Uploader

inductive Seeded (config : Config) (fixture : Fixture) : List Event → Option Totals → Prop
  | provisioning (stopped : Trace (config.provision fixture.policies) events none) :
      Seeded config fixture events none
  | uploading (notices : List Notice)
      (provisioned : Trace (config.provision fixture.policies) first (some ()))
      (prepared : Trace (Uploader.prepare config) second (some uploader))
      (uploaded : uploader.UploadedEach (config.due fixture.records) third outcomes) :
      Seeded config fixture (first ++ (second ++ (third ++ notices.map .noted)))
        (outcomes.map (List.foldl Totals.add .zero))

variable {config : Config} {fixture : Fixture}

theorem trace_seed (parallel : config.Parallel n)
    (h : Trace (seed config fixture) events outcome) : Seeded config fixture events outcome := by
  rcases trace_bind.mp h with ⟨_, first, _, rfl, hfirst, hrest⟩ | ⟨rfl, hfirst⟩
  · rcases trace_bind.mp hrest with ⟨uploader, second, _, rfl, hsecond, hrest⟩ | ⟨-, hsecond⟩
    · have equipped := (Uploader.trace_prepare hsecond).1
      have places := equipped.places parallel
      rcases trace_bind.mp hrest with ⟨totals, third, last, rfl, hthird, hlast⟩ | ⟨rfl, hthird⟩
      · obtain ⟨outcomes, heach, ho⟩ := Uploader.trace_uploadAll places hthird
        obtain ⟨_, rfl, hend⟩ := trace_say_bind.mp hlast
        obtain ⟨rfl, rfl⟩ := trace_pure.mp hend
        rw [ho]
        rw [equipped.config_eq] at heach
        exact .uploading [_] hfirst hsecond heach
      · obtain ⟨outcomes, heach, ho⟩ := Uploader.trace_uploadAll places hthird
        rw [ho]
        rw [equipped.config_eq] at heach
        have hseeded := Seeded.uploading [] hfirst hsecond heach
        rwa [List.map_nil, List.append_nil] at hseeded
    · exact absurd hsecond Uploader.not_trace_prepare_none
  · exact .provisioning hfirst

-- ---------------------------------------------------------------------------
-- Who makes a call
-- ---------------------------------------------------------------------------

def Config.ProvidesAsset (config : Config) (asset : AssetRequest) : Prop :=
  asset = .registry config.registryUrl AssetRequest.registryId ∨
    ∃ testing kind, config.notifications = some testing ∧
      asset = .notification (testing.baseUrl ++ kind.path) kind

def Config.Provides (config : Config) : Call → Prop
  | .createAsset _ asset => config.ProvidesAsset asset
  | .storePayload .. | .registerShell .. => False
  | _ => True

def Config.ProvidesEvent (config : Config) : Event → Prop
  | .exchanged exchange => config.Provides exchange.call
  | .noted _ => True
  | .minted _ | .claimed _ => False

section
variable {allowed : Event → Prop}

theorem emits_ensureNamedPolicy {connectors : List String} {entry : String × Json}
    (noted : ∀ notice, allowed (.noted notice))
    (called : ∀ connector ∈ connectors, ∀ id answer, policyId? entry.2 = some id →
      allowed (.exchanged ⟨.findPolicy connector id, answer⟩) ∧
        allowed (.exchanged ⟨.createPolicy connector entry.2, answer⟩)) :
    (ensureNamedPolicy connectors entry).Emits allowed := by
  unfold ensureNamedPolicy
  split
  · exact .say (noted _)
  · rename_i id hid
    refine .forM fun connector hc => .bind (.say (noted _)) fun _ =>
      .bind (.ask fun answer => (called connector hc id answer hid).1) fun found => ?_
    split
    · exact .say (noted _)
    · refine .bind (.create (fun answer => (called connector hc id answer hid).2)
        fun _ => noted _) fun answer => ?_
      split
      · exact .pure _ _
      · exact .say (noted _)

theorem emits_ensureOffer {display upload policyId : String} {offer : Offer}
    (noted : ∀ notice, allowed (.noted notice))
    (queried : ∀ answer, allowed
      (.exchanged ⟨.queryCatalog upload ⟨Endpoint.protocol display, offer.filter⟩, answer⟩))
    (created : ∀ answer, allowed (.exchanged ⟨.createAsset upload offer.asset, answer⟩))
    (defined : ∀ answer, allowed
      (.exchanged ⟨.createDefinition upload (.offer policyId offer.assetId), answer⟩)) :
    (ensureOffer display upload policyId offer).Emits allowed := by
  refine .bind (.say (noted _)) fun _ => .bind (.ask queried) fun found => ?_
  split
  · exact .say (noted _)
  · refine .bind (.create created fun _ => noted _) fun answer => ?_
    split
    · exact .pure _ _
    · exact .bind (.say (noted _)) fun _ =>
        .bind (.create defined fun _ => noted _) fun _ => .pure _ _

end

theorem Config.emits_ensureOffers {config : Config} {offers : List Offer}
    (provided : ∀ offer ∈ offers, config.ProvidesAsset offer.asset) :
    (config.ensureOffers offers).Emits config.ProvidesEvent :=
  .forM fun _ _ => .forM fun offer ho => emits_ensureOffer (fun _ => trivial) (fun _ => trivial)
    (fun _ => provided offer ho) fun _ => trivial

theorem Config.emits_provision (config : Config) (policies : Members Json) :
    (config.provision policies).Emits config.ProvidesEvent := by
  have named : ∀ entry : String × Json,
      (ensureNamedPolicy config.connectorUploadUrls entry).Emits config.ProvidesEvent := fun _ =>
    emits_ensureNamedPolicy (fun _ => trivial) fun _ _ _ _ _ => ⟨trivial, trivial⟩
  refine .bind (.forM fun entry _ => named entry) fun _ =>
    .bind (emits_ensureOffers fun offer ho => ?registry) fun _ => ?testing
  case registry =>
    rw [List.mem_singleton.mp ho]
    exact .inl rfl
  case testing =>
    split
    · rename_i testing htesting
      refine emits_ensureOffers fun offer ho => ?_
      obtain ⟨kind, -, rfl⟩ := List.mem_map.mp ho
      exact .inr ⟨testing, kind, htesting, rfl⟩
    · exact .pure _ _

/-- The uploads begun, each for its record, account for the calls of `events`:
what is not a shell is a post of one of them. Each has an id of its own among
those minted. -/
structure Uploader.Account (uploader : Uploader) (uploads : List (Record × Upload))
    (events : List Event) : Prop where
  begun : ∀ pair ∈ uploads, pair.2.Begun uploader pair.1
  ids : (uploads.map fun pair => pair.2.id).Sublist (events.filterMap Event.minted?)
  calls : ∀ exchange, .exchanged exchange ∈ events →
    (∃ pair ∈ uploads, pair.2.Allows uploader pair.1 exchange.call) ∨
      ∃ registry shell, exchange.call = .registerShell registry shell

namespace Uploader

variable {uploader : Uploader}

theorem Account.append (first : uploader.Account uploads events)
    (rest : uploader.Account more later) :
    uploader.Account (uploads ++ more) (events ++ later) := by
  refine ⟨fun pair hp => ?_, ?_, fun exchange hx => ?_⟩
  · exact (List.mem_append.mp hp).elim (first.begun pair) (rest.begun pair)
  · rw [List.map_append, List.filterMap_append]
    exact first.ids.append rest.ids
  · rcases List.mem_append.mp hx with hx | hx
    · exact (first.calls exchange hx).imp_left fun ⟨pair, hp, ha⟩ =>
        ⟨pair, List.mem_append_left _ hp, ha⟩
    · exact (rest.calls exchange hx).imp_left fun ⟨pair, hp, ha⟩ =>
        ⟨pair, List.mem_append_right _ hp, ha⟩

theorem Account.others (h : ∀ exchange, .exchanged exchange ∈ events →
    ∃ registry shell, exchange.call = .registerShell registry shell) :
    uploader.Account [] events :=
  ⟨fun _ hp => (nomatch hp), List.nil_sublist _, fun exchange hx => .inr (h exchange hx)⟩

theorem account_noted (notices : List Notice) : uploader.Account [] (notices.map .noted) := by
  refine .others fun exchange hx => ?_
  obtain ⟨_, -, h⟩ := List.mem_map.mp hx
  cases h

theorem account_uploads {uploads : List Upload}
    (begun : ∀ upload ∈ uploads, upload.Begun uploader record) :
    uploader.Account (uploads.map (record, ·)) (uploads.flatMap Upload.events) := by
  refine ⟨fun pair hp => ?_, ?_, fun exchange hx => .inl ?_⟩
  · obtain ⟨upload, hu, rfl⟩ := List.mem_map.mp hp
    exact begun upload hu
  · rw [Upload.ids_flatMap begun, List.map_map]
    exact List.Sublist.refl _
  · obtain ⟨upload, hu, he⟩ := List.mem_flatMap.mp hx
    have hpost : .exchanged exchange ∈ upload.posts := by simpa [Upload.events] using he
    exact ⟨_, List.mem_map_of_mem hu, (begun upload hu).allows hpost⟩

theorem Uploaded.account (h : uploader.Uploaded record events outcome) :
    ∃ uploads, uploader.Account uploads events := by
  cases h with
  | aborted notices uploads _ begun =>
    exact ⟨_, (account_noted notices).append (account_uploads begun)⟩
  | ended notices uploads _ ended closing =>
    refine ⟨_, ((account_noted notices).append
      (account_uploads fun u hu => (ended u hu).begun)).append (.others fun exchange hx => ?_)⟩
    obtain ⟨_, hcall⟩ := exchanged_finishRecord closing hx
    exact ⟨_, _, hcall⟩

theorem UploadedEach.account (h : uploader.UploadedEach records events outcomes) :
    ∃ uploads, uploader.Account uploads events := by
  induction h with
  | nil => exact ⟨[], account_noted []⟩
  | ended first _ ih =>
    obtain ⟨uploads, hfirst⟩ := first.account
    obtain ⟨more, hrest⟩ := ih
    exact ⟨uploads ++ more, hfirst.append hrest⟩
  | aborted first => exact first.account

end Uploader

-- ---------------------------------------------------------------------------
-- Runs never get stuck
-- ---------------------------------------------------------------------------

theorem neverStuck_ensureNamedPolicy (connectors : List String) (entry : String × Json) :
    (ensureNamedPolicy connectors entry).NeverStuck := by
  unfold ensureNamedPolicy
  split
  · exact .say _
  · refine .forM fun connector _ => .bind (.say _) fun _ => .bind (.ask _) fun found => ?_
    split
    · exact .say _
    · refine .bind (.create _ _) fun answer => ?_
      split
      · exact .pure ()
      · exact .say _

theorem neverStuck_ensureOffer (display upload policyId : String) (offer : Offer) :
    (ensureOffer display upload policyId offer).NeverStuck := by
  refine .bind (.say _) fun _ => .bind (.ask _) fun found => ?_
  split
  · exact .say _
  · refine .bind (.create _ _) fun answer => ?_
    split
    · exact .pure ()
    · exact .bind (.say _) fun _ => .bind (.create _ _) fun _ => .pure ()

namespace Config

theorem neverStuck_ensureOffers (config : Config) (offers : List Offer) :
    (config.ensureOffers offers).NeverStuck :=
  .forM fun _ _ => .forM fun offer _ => neverStuck_ensureOffer _ _ _ offer

theorem neverStuck_provision (config : Config) (policies : Members Json) :
    (config.provision policies).NeverStuck := by
  refine .bind (.forM fun entry _ => neverStuck_ensureNamedPolicy _ entry) fun _ =>
    .bind (neverStuck_ensureOffers config _) fun _ => ?_
  split
  · exact neverStuck_ensureOffers config _
  · exact .pure ()

end Config

theorem neverStuck_seed (parallel : config.Parallel n) (fixture : Fixture) :
    (seed config fixture).NeverStuck := by
  refine .bind (config.neverStuck_provision _) fun _ =>
    .bind_trace (Uploader.neverStuck_prepare config) fun uploader _ prepared => ?_
  have places := (Uploader.trace_prepare prepared).1.places parallel
  exact .bind (Uploader.neverStuck_uploadAll places _ _) fun _ => .bind (.say _) fun _ => .pure _

theorem run_seed {world : World} (parallel : config.Parallel n) (fixture : Fixture)
    (answers : world.network.AnswersAll) (progress : Progress) :
    ∃ totals later, ∃ (uploader : Uploader) (provisioning uploading : List Event) (outcomes : _),
      (seed config fixture).run world progress = (.ok totals, later) ∧
      later.exchanges = progress.exchanges ++
        (provisioning.filterMap Event.exchange? ++ uploading.filterMap Event.exchange?) ∧
      Trace (config.provision fixture.policies) provisioning (some ()) ∧
      uploader.Equipped config ∧
      uploader.UploadedEach (config.due fixture.records) uploading (some outcomes) := by
  obtain ⟨totals, events, hrun, htrace, -⟩ :=
    run_answered answers (neverStuck_seed parallel fixture) progress
  have hseeded := trace_seed parallel htrace
  generalize ho : some totals = outcome at hseeded
  cases hseeded with
  | provisioning => cases ho
  | @uploading first second uploader third _ notices provisioned prepared uploaded =>
    obtain ⟨outcomes, rfl, -⟩ := Option.map_eq_some_iff.mp ho.symm
    obtain ⟨equipped, -, -, silent⟩ := Uploader.trace_prepare prepared
    refine ⟨totals, _, uploader, first, third, outcomes, hrun, ?_, provisioned, equipped, uploaded⟩
    simp [Progress.exchanges_recordAll, silent]

-- ---------------------------------------------------------------------------
-- Failure
-- ---------------------------------------------------------------------------

/-- No answer makes a run fail, whatever its status and body. A call without an
answer does; it is the last call, and up to it the run does not depend on what
the network would answer later. -/
theorem seed_failStop {settings : Settings} (valid : settings.validate = .ok config)
    (fixture : Fixture) (world : World)
    (h : (seed config fixture).run world (.start .initial) = (result, later)) :
    ((∃ failure, result = .error failure) ↔
      ∃ exchange ∈ later.exchanges, ∃ reason, exchange.answer = .error reason) ∧
    (∀ failure, result = .error failure → ∃ answered request reason,
      failure = .unanswered request reason ∧
      later.exchanges = answered ++ [⟨request, .error reason⟩] ∧
      (∀ exchange ∈ answered, ∃ answer, exchange.answer = .ok answer) ∧
      ∀ other : World, other.identifier = world.identifier → other.network.Agrees [] answered →
        ∃ rest, ((seed config fixture).run other (.start .initial)).2.exchanges =
          answered ++ ⟨request, other.network answered request⟩ :: rest) ∧
    (world.network.AnswersAll → ∃ totals, result = .ok totals) := by
  have smooth := neverStuck_seed (Settings.validate_parallel valid) fixture
  have stops := fun failure (hfailure : result = .error failure) =>
    run_failStop smooth (hfailure ▸ h)
  refine ⟨⟨?fails, ?failed⟩, stops, fun answers => ?succeeds⟩
  case fails =>
    rintro ⟨failure, hfailure⟩
    obtain ⟨answered, request, reason, -, hcalls, -⟩ := stops failure hfailure
    exact ⟨⟨request, .error reason⟩, by simp [hcalls], reason, rfl⟩
  case failed =>
    rintro ⟨exchange, hx, reason, hreason⟩
    cases result with
    | error failure => exact ⟨failure, rfl⟩
    | ok totals =>
      obtain ⟨answered, hcalls, hanswered⟩ := run_ok h
      rw [hcalls] at hx
      obtain ⟨answer, hanswer⟩ := hanswered exchange hx
      cases hreason.symm.trans hanswer
  case succeeds =>
    obtain ⟨totals, events, hrun, -⟩ := run_answered answers smooth (.start .initial)
    exact ⟨totals, congrArg Prod.fst (h.symm.trans hrun)⟩

/-- The fourth call gets no answer. -/
theorem seed_failStop_sample : ∃ failure later,
    (seed Sample.config ⟨[Sample.record], defaultPolicies⟩).run Sample.flaky (.start .initial) =
      (.error failure, later) ∧
    later.exchanges.length = 4 ∧
    (∃ exchange ∈ later.exchanges, ∃ reason, exchange.answer = .error reason) ∧
    ∃ answered request reason, failure = .unanswered request reason ∧
      later.exchanges = answered ++ [⟨request, .error reason⟩] := by
  obtain ⟨fails, stops, -⟩ := seed_failStop Sample.settings_valid
    ⟨[Sample.record], defaultPolicies⟩ Sample.flaky rfl
  obtain ⟨answered, request, reason, hfailure, hcalls, -⟩ := stops _ rfl
  exact ⟨_, _, rfl, rfl, fails.mp ⟨_, rfl⟩, answered, request, reason, hfailure, hcalls⟩

end Dataspace
