import Dataspace.Proofs.Seeding.Records

/-!
# The calls of a record

Which sequences of calls the upload of a record can make, as a grammar. Its
terminals are `PayloadPost` and `OfferPosts`: what a service answers decides
nothing, except that an asset that is refused gets no contract definition.
Every run against a network that answers follows the grammar
(`uploadRecord_calls`).
-/

namespace Dataspace

-- ---------------------------------------------------------------------------
-- The grammar
-- ---------------------------------------------------------------------------

inductive SubmodelPosts (policyId : String) (entry : String × Json) : List Exchange → Prop
  | posts (payload : PayloadPost server submodelId entry first)
      (offer : OfferPosts connector policyId assetId asset rest) :
      SubmodelPosts policyId entry (first ++ rest)

inductive EntryPosts (policyId : String) : List (String × Json) → List Exchange → Prop
  | nil : EntryPosts policyId [] []
  | cons (first : SubmodelPosts policyId entry calls) (rest : EntryPosts policyId entries later) :
      EntryPosts policyId (entry :: entries) (calls ++ later)

/-- Nothing for a record without eligible entries; else one shell after the
posts for all of them. -/
inductive RecordPosts (config : Config) (record : Record) : List Exchange → Prop
  | nothing (none : record.eligible = []) : RecordPosts config record []
  | shell (some : record.eligible ≠ [])
      (entries : EntryPosts (record.policy.getD config.defaultPolicy) record.eligible calls)
      (url : (Call.registerShell registry shell).url =
        config.registryUploadUrl ++ config.schema.path)
      (keys : shell.descriptors.map Descriptor.semanticId = record.eligible.map Prod.fst)
      (answer : Response) :
      RecordPosts config record (calls ++ [⟨.registerShell registry shell, .ok answer⟩])

-- ---------------------------------------------------------------------------
-- Runs follow it
-- ---------------------------------------------------------------------------

namespace Upload

variable {uploader : Uploader} {record : Record} {upload : Upload}

@[simp] theorem semanticId_descriptor :
    (upload.descriptor uploader record).semanticId = upload.entry.1 := by
  unfold descriptor Placement.descriptor
  cases upload.placement.dataPlane <;> rfl

theorem Ended.submodelPosts (h : upload.Ended uploader record) :
    SubmodelPosts (record.policy.getD uploader.config.defaultPolicy) upload.entry
      upload.calls := by
  obtain ⟨payload, offer, hcalls, hpayload, hoffer⟩ := h.calls_eq
  rw [hcalls]
  exact .posts hpayload hoffer

theorem entryPosts_uploads {uploads : List Upload}
    (h : ∀ upload ∈ uploads, upload.Ended uploader record) :
    EntryPosts (record.policy.getD uploader.config.defaultPolicy) (uploads.map entry)
      (uploads.map calls).flatten := by
  induction uploads with
  | nil => exact .nil
  | cons upload uploads ih =>
    obtain ⟨hu, hr⟩ := List.forall_mem_cons.mp h
    exact .cons hu.submodelPosts (ih hr)

end Upload

namespace Uploader

variable {settings : Settings} {config : Config} {world : World} {uploader : Uploader}

theorem recordPosts_uploads {uploads : List Upload}
    (entries : uploads.map Upload.entry = record.eligible)
    (ended : ∀ upload ∈ uploads, upload.Ended uploader record)
    (closing : (uploads = [] ∧ last = []) ∨ (uploads ≠ [] ∧ ∃ id answer, last =
      [⟨.registerShell uploader.config.registryUploadUrl
        (uploader.shell record id (uploads.map (Upload.descriptor uploader record))),
        .ok answer⟩])) :
    RecordPosts uploader.config record ((uploads.map Upload.calls).flatten ++ last) := by
  rcases closing with ⟨rfl, rfl⟩ | ⟨hne, id, answer, rfl⟩
  · exact .nothing entries.symm
  · refine .shell ?_ ?_ rfl ?_ answer
    · rw [← entries]
      exact fun hnil => hne (List.map_eq_nil_iff.mp hnil)
    · rw [← entries]
      exact Upload.entryPosts_uploads ended
    · rw [← entries]
      simp [shell, Function.comp_def]

theorem Completed.recordPosts
    (h : Completed world uploader record progress later uploads last) :
    RecordPosts uploader.config record ((uploads.map Upload.calls).flatten ++ last) :=
  recordPosts_uploads h.entries h.ended h.closing

theorem Uploaded.recordPosts (h : uploader.Uploaded record events (some outcome)) :
    RecordPosts uploader.config record (events.filterMap Event.exchange?) := by
  generalize ho : some outcome = result at h
  cases h with
  | aborted => cases ho
  | ended notices uploads all ended closing =>
    subst ho
    simpa [Upload.exchanges_flatMap] using
      recordPosts_uploads all ended (closing_finishRecord closing)

theorem uploadRecord_calls (valid : settings.validate = .ok config)
    (prepared : (prepare config).run world before = (.ok uploader, after))
    (answers : world.network.AnswersAll) (record : Record) (progress : Progress) :
    ∃ outcome later calls,
      (uploader.uploadRecord record).run world progress = (.ok outcome, later) ∧
      later.exchanges = progress.exchanges ++ calls ∧ RecordPosts config record calls := by
  have equipped := prepare_equipped prepared
  have places := equipped.places (Settings.validate_parallel valid)
  obtain ⟨outcome, later, uploads, closing, hrun, hcompleted⟩ :=
    run_uploadRecord answers places record progress
  refine ⟨outcome, later, _, hrun, hcompleted.exchanges, ?_⟩
  rw [← equipped.config_eq]
  exact hcompleted.recordPosts

/-- Two eligible entries, one of them with a document. -/
theorem uploadRecord_calls_sample :
    Sample.record.eligible.map Prod.fst = ["urn:batch#Batch", "urn:mass#Mass"] ∧
    ∃ outcome later calls,
      (Sample.uploader.uploadRecord Sample.record).run Sample.world (.start .initial) =
        (.ok outcome, later) ∧
      later.exchanges = calls ∧ RecordPosts Sample.config Sample.record calls :=
  let ⟨_, prepared⟩ := Sample.uploader_prepared
  ⟨rfl, uploadRecord_calls Sample.settings_valid prepared (Network.always_answersAll _)
    Sample.record (.start .initial)⟩

end Uploader

end Dataspace
