import Dataspace.Plan.Run
import Dataspace.Proofs.Seeding.Upload

/-!
# Records as traces

The upload of a record is a sequence of uploads, one for each eligible entry in
order, and if all of them end, one shell (`trace_uploadRecord`). If every slot
has a placement, it ends early only in a call that is not answered
(`neverStuck_uploadRecord`).

Against a network that answers every call, whatever it answers, it reaches its end
(`run_uploadRecord`): one upload for each eligible entry, with slots and ids in the
order of the entries, and then the shell that holds their descriptors.
-/

namespace Dataspace

open Plan

namespace Uploader

def Places (uploader : Uploader) : Prop :=
  ∀ slot, ∃ placement, uploader.placement? slot = some placement

theorem Equipped.places {uploader : Uploader} {config : Config}
    (equipped : uploader.Equipped config) (parallel : config.Parallel n) :
    uploader.Places := fun slot =>
  let ⟨placement, h, _⟩ := placement?_eq equipped parallel slot
  ⟨placement, h⟩

def shell (uploader : Uploader) (record : Record) (id : String) (descriptors : List Descriptor) :
    Shell :=
  let identity := Identity.ofRecord record
  ⟨uploader.config.schema, record.part, identity.shortName, id,
    registeredIds uploader.config identity, descriptors⟩

variable {uploader : Uploader} {record : Record}

theorem trace_uploadSubmodel (places : uploader.Places)
    (h : Trace (uploader.uploadSubmodel record entry) events outcome) :
    ∃ upload : Upload, upload.entry = entry ∧ events = upload.events ∧
      ((outcome = some (upload.descriptor uploader record) ∧ upload.Ended uploader record) ∨
        (outcome = none ∧ upload.Begun uploader record)) := by
  obtain ⟨slot, rest, rfl, hplace⟩ := trace_nextSlot_bind.mp h
  obtain ⟨placement, hp⟩ := places slot
  rw [hp] at hplace
  obtain ⟨id, posts, rfl, hposts⟩ := trace_freshId_bind.mp hplace
  let upload : Upload := ⟨entry, slot, placement, id, posts⟩
  have hpublish : Trace (upload.publish uploader record >>= fun _ =>
      pure (upload.descriptor uploader record)) posts outcome := by
    rw [Upload.publish, LawfulMonad.bind_assoc]
    exact hposts
  refine ⟨upload, rfl, rfl, ?_⟩
  rcases trace_bind.mp hpublish with ⟨_, first, last, heq, hfirst, hlast⟩ | ⟨rfl, hnone⟩
  · obtain ⟨rfl, rfl⟩ := trace_pure.mp hlast
    rw [List.append_nil] at heq
    subst heq
    exact .inl ⟨rfl, hp, hfirst⟩
  · exact .inr ⟨rfl, hp, none, hnone⟩

theorem traceEach_uploadSubmodel (places : uploader.Places)
    (h : TraceEach (uploader.uploadSubmodel record) entries events descriptors) :
    ∃ uploads : List Upload, uploads.map Upload.entry = entries ∧
      events = uploads.flatMap Upload.events ∧
      descriptors = uploads.map (Upload.descriptor uploader record) ∧
      ∀ upload ∈ uploads, upload.Ended uploader record := by
  induction h with
  | nil => exact ⟨[], rfl, rfl, rfl, fun _ h => nomatch h⟩
  | cons first _ ih =>
    obtain ⟨uploads, rfl, rfl, rfl, hall⟩ := ih
    obtain ⟨upload, rfl, rfl, ⟨ho, hended⟩ | ⟨ho, -⟩⟩ := trace_uploadSubmodel places first
    · cases ho
      refine ⟨upload :: uploads, rfl, rfl, rfl, fun u hu => ?_⟩
      rcases List.mem_cons.mp hu with rfl | hu
      · exact hended
      · exact hall u hu
    · cases ho

theorem trace_announce (h : Trace (uploader.announce record identity) events outcome) :
    (∃ notices : List Notice, events = notices.map .noted) ∧ outcome = some () := by
  rcases trace_bind.mp h with ⟨_, refusals, rest, rfl, hrefusals, hrest⟩ | ⟨rfl, hrefusals⟩
  · obtain ⟨rfl, -⟩ := trace_forM_say hrefusals
    obtain ⟨_, rfl, hlast⟩ := trace_say_bind.mp hrest
    obtain ⟨rfl, rfl⟩ := trace_say.mp hlast
    exact ⟨⟨identity.refused.map _ ++ [_, _], by rw [List.map_append, List.map_map]; rfl⟩, rfl⟩
  · obtain ⟨-, ho⟩ := trace_forM_say hrefusals
    cases ho

theorem trace_finishRecord
    (h : Trace (uploader.finishRecord record (.ofRecord record) descriptors) events outcome) :
    (descriptors = [] ∧ events = [] ∧ outcome = some ⟨0, false⟩) ∨
    (descriptors ≠ [] ∧ ∃ notice id answer last,
      events = .noted notice :: .minted id ::
        .exchanged ⟨.registerShell uploader.config.registryUploadUrl
          (uploader.shell record id descriptors), answer⟩ :: last ∧
      ((∃ reason, answer = .error reason ∧ last = [] ∧ outcome = none) ∨
        ∃ response notice, answer = .ok response ∧ last = [.noted notice] ∧
          outcome = some ⟨descriptors.length, !response.isFailure⟩)) := by
  unfold finishRecord at h
  split at h
  · rename_i hd
    obtain ⟨rfl, rfl⟩ := trace_pure.mp h
    exact .inl ⟨List.isEmpty_iff.mp hd, rfl, rfl⟩
  · rename_i hd
    refine .inr ⟨fun h => hd (List.isEmpty_iff.mpr h), ?_⟩
    unfold registerShell at h
    simp only [LawfulMonad.bind_assoc] at h
    obtain ⟨_, rfl, hmint⟩ := trace_say_bind.mp h
    obtain ⟨id, _, rfl, hcreate⟩ := trace_freshId_bind.mp hmint
    rcases trace_bind.mp hcreate with ⟨response, _, _, rfl, hshell, hend⟩ | ⟨rfl, hshell⟩
    · obtain ⟨rfl, rfl⟩ := trace_pure.mp hend
      rcases trace_create.mp hshell with ⟨_, rfl, ho⟩ | ⟨_, -, ho⟩
      · cases ho
        exact ⟨_, id, .ok response, _, rfl, .inr ⟨response, _, rfl, rfl, rfl⟩⟩
      · cases ho
    · rcases trace_create.mp hshell with ⟨_, -, ho⟩ | ⟨reason, rfl, -⟩
      · cases ho
      · exact ⟨_, id, .error reason, [], rfl, .inl ⟨reason, rfl, rfl, rfl⟩⟩

theorem slots_finishRecord
    (h : Trace (uploader.finishRecord record (.ofRecord record) descriptors) events outcome) :
    events.filterMap Event.slot? = [] := by
  rcases trace_finishRecord h with ⟨-, rfl, -⟩ |
    ⟨-, _, _, _, _, rfl, ⟨_, -, rfl, -⟩ | ⟨_, _, -, rfl, -⟩⟩
  · rfl
  · rfl
  · rfl

theorem exchanged_finishRecord
    (h : Trace (uploader.finishRecord record (.ofRecord record) descriptors) events outcome)
    (hx : .exchanged exchange ∈ events) :
    ∃ id, exchange.call =
      .registerShell uploader.config.registryUploadUrl (uploader.shell record id descriptors) := by
  rcases trace_finishRecord h with ⟨-, rfl, -⟩ |
    ⟨-, _, id, _, _, rfl, ⟨_, -, rfl, -⟩ | ⟨_, _, -, rfl, -⟩⟩
  · cases hx
  · simp only [List.mem_cons, reduceCtorEq, false_or, List.not_mem_nil, or_false] at hx
    cases hx
    exact ⟨id, rfl⟩
  · simp only [List.mem_cons, reduceCtorEq, false_or, List.not_mem_nil, or_false] at hx
    cases hx
    exact ⟨id, rfl⟩

inductive Uploaded (uploader : Uploader) (record : Record) :
    List Event → Option RecordOutcome → Prop
  | aborted (notices : List Notice) (uploads : List Upload)
      (some_of : uploads.map Upload.entry <+: record.eligible)
      (begun : ∀ upload ∈ uploads, upload.Begun uploader record) :
      Uploaded uploader record (notices.map .noted ++ uploads.flatMap Upload.events) none
  | ended (notices : List Notice) (uploads : List Upload)
      (all : uploads.map Upload.entry = record.eligible)
      (ended : ∀ upload ∈ uploads, upload.Ended uploader record)
      (closing : Trace (uploader.finishRecord record (.ofRecord record)
        (uploads.map (Upload.descriptor uploader record))) last outcome) :
      Uploaded uploader record
        (notices.map .noted ++ uploads.flatMap Upload.events ++ last) outcome

theorem trace_uploadRecord (places : uploader.Places)
    (h : Trace (uploader.uploadRecord record) events outcome) :
    uploader.Uploaded record events outcome := by
  rcases trace_bind.mp h with ⟨_, notes, rest, rfl, hnotes, hrest⟩ | ⟨rfl, hnotes⟩
  · obtain ⟨⟨notices, rfl⟩, -⟩ := trace_announce hnotes
    rcases trace_bind.mp hrest with ⟨descriptors, first, last, rfl, heach, hlast⟩ | ⟨rfl, hnone⟩
    · obtain ⟨uploads, hall, rfl, rfl, hended⟩ :=
        traceEach_uploadSubmodel places (trace_mapM_some heach)
      rw [← List.append_assoc]
      exact .ended notices uploads hall hended hlast
    · obtain ⟨before, entry, after, first, last, descriptors, hsplit, rfl, heach, hlast⟩ :=
        trace_mapM_none hnone
      obtain ⟨uploads, rfl, rfl, -, hended⟩ := traceEach_uploadSubmodel places heach
      obtain ⟨upload, rfl, rfl, ⟨ho, -⟩ | ⟨-, hbegun⟩⟩ := trace_uploadSubmodel places hlast
      · cases ho
      · have hprefix : (uploads ++ [upload]).map Upload.entry <+: record.eligible :=
          ⟨after, by simp [hsplit]⟩
        have hall : ∀ u ∈ uploads ++ [upload], u.Begun uploader record := by
          intro u hu
          rcases List.mem_append.mp hu with hu | hu
          · exact (hended u hu).begun
          · rw [List.mem_singleton.mp hu]
            exact hbegun
        simpa using Uploaded.aborted notices _ hprefix hall
  · obtain ⟨-, ho⟩ := trace_announce hnotes
    cases ho

theorem neverStuck_uploadSubmodel (places : uploader.Places) (record : Record)
    (entry : String × Json) : (uploader.uploadSubmodel record entry).NeverStuck := by
  refine .bind (fun _ => trivial) fun slot => .bind ?place fun placement =>
    .bind (fun _ => trivial) fun id => .bind ?store fun _ => .bind ?offer fun _ => .pure _
  case place =>
    obtain ⟨placement, hp⟩ := places slot
    rw [hp]
    trivial
  case store =>
    unfold storeDocument
    split
    · exact .bind (.say _) fun _ => .bind (.create _ _) fun _ => .pure _
    · exact .pure _
  case offer =>
    refine .bind (.say _) fun _ => .bind (.create _ _) fun answer => ?_
    split
    · exact .say _
    · exact .bind (.create _ _) fun _ => .pure _

theorem neverStuck_finishRecord (uploader : Uploader) (record : Record) (identity : Identity)
    (descriptors : List Descriptor) :
    (uploader.finishRecord record identity descriptors).NeverStuck := by
  unfold finishRecord
  split
  · exact .pure _
  · exact .bind (.bind (.say _) fun _ _ => .create _ _) fun _ => .pure _

theorem neverStuck_uploadRecord (places : uploader.Places) (record : Record) :
    (uploader.uploadRecord record).NeverStuck := by
  refine .bind ?announce fun _ => .bind ?submodels fun descriptors => ?finish
  case announce =>
    exact .bind (.forM fun _ _ => .say _) fun _ => .bind (.say _) fun _ => .say _
  case submodels =>
    exact .mapM fun entry _ => neverStuck_uploadSubmodel places record entry
  case finish => exact neverStuck_finishRecord ..

end Uploader

-- ---------------------------------------------------------------------------
-- Uploads that complete
-- ---------------------------------------------------------------------------

namespace Uploader

structure Completed (world : World) (uploader : Uploader) (record : Record)
    (progress later : Progress) (uploads : List Upload) (closing : List Exchange) : Prop where
  entries : uploads.map Upload.entry = record.eligible
  ended : ∀ upload ∈ uploads, upload.Ended uploader record
  slots : uploads.map Upload.slot =
    (List.range' progress.rotation.next uploads.length).map Slot.mk
  ids : uploads.map Upload.id = (List.range' progress.minted uploads.length).map world.identifier
  exchanges : later.exchanges =
    progress.exchanges ++ ((uploads.map Upload.calls).flatten ++ closing)
  closing : (uploads = [] ∧ closing = []) ∨ (uploads ≠ [] ∧ ∃ id answer, closing =
    [⟨.registerShell uploader.config.registryUploadUrl
      (uploader.shell record id (uploads.map (Upload.descriptor uploader record))), .ok answer⟩])

variable {world : World} {uploader : Uploader}

theorem closing_finishRecord {uploads : List Upload}
    (h : Trace (uploader.finishRecord record (.ofRecord record)
      (uploads.map (Upload.descriptor uploader record))) events (some outcome)) :
    (uploads = [] ∧ events.filterMap Event.exchange? = []) ∨
      (uploads ≠ [] ∧ ∃ id answer, events.filterMap Event.exchange? =
        [⟨.registerShell uploader.config.registryUploadUrl (uploader.shell record id
          (uploads.map (Upload.descriptor uploader record))), .ok answer⟩]) := by
  rcases trace_finishRecord h with ⟨hd, rfl, -⟩ |
    ⟨hd, notice, id, answer, last, rfl, ⟨_, _, _, ho⟩ | ⟨response, _, rfl, rfl, -⟩⟩
  · exact .inl ⟨List.map_eq_nil_iff.mp hd, rfl⟩
  · cases ho
  · exact .inr ⟨fun h => hd (by rw [h]; rfl), id, response, rfl⟩

theorem run_uploadRecord (answers : world.network.AnswersAll) (places : uploader.Places)
    (record : Record) (progress : Progress) :
    ∃ outcome later uploads closing,
      (uploader.uploadRecord record).run world progress = (.ok outcome, later) ∧
      Completed world uploader record progress later uploads closing := by
  obtain ⟨outcome, events, hrun, htrace, hsupplies⟩ :=
    run_answered answers (neverStuck_uploadRecord places record) progress
  have huploaded := trace_uploadRecord places htrace
  generalize ho : some outcome = result at huploaded
  cases huploaded with
  | aborted => cases ho
  | @ended last _ notices uploads all ended closing =>
    subst ho
    have begun := fun u hu => (ended u hu).begun
    refine ⟨outcome, _, uploads, _, hrun, all, ended, ?_, ?_, ?_, closing_finishRecord closing⟩
    · have h := hsupplies.slots
      simpa [Upload.slots_flatMap begun, slots_finishRecord closing] using h
    · -- The shell takes one more id, after all of theirs.
      have h := (World.supplies_append.mp hsupplies).1.ids
      simpa [Upload.ids_flatMap begun] using h
    · simp [Progress.exchanges_recordAll, Upload.exchanges_flatMap]

theorem Completed.upload_at (h : Completed world uploader record progress later uploads last)
    (hi : record.eligible[i]? = some entry) :
    ∃ upload, uploads[i]? = some upload ∧ upload.entry = entry ∧
      upload.Ended uploader record ∧ upload.slot = ⟨progress.rotation.next + i⟩ ∧
      upload.id = world.identifier (progress.minted + i) := by
  rw [← h.entries, List.getElem?_map] at hi
  obtain ⟨upload, hu, hentry⟩ := Option.map_eq_some_iff.mp hi
  have hlt : i < uploads.length := (List.getElem?_eq_some_iff.mp hu).1
  have hslot := congrArg (·[i]?) h.slots
  have hid := congrArg (·[i]?) h.ids
  simp only [List.getElem?_map, List.getElem?_range', hu, hlt, Option.map_some,
    Option.some.injEq, Nat.one_mul] at hslot hid
  exact ⟨upload, hu, hentry, h.ended upload (List.mem_of_getElem? hu), hslot, hid⟩

end Uploader

-- ---------------------------------------------------------------------------
-- A small dataspace
-- ---------------------------------------------------------------------------

namespace Sample

def record : Record where
  part := "urn:part"
  bpn := "BPNL1"
  policy := none
  submodels := .ofList [("urn:batch#Batch", .array [.object []]), ("bpn", .null),
    ("urn:mass#Mass", .null)]

def world : World := ⟨.always ⟨200, ""⟩, Identifier.stream 0⟩

def flaky : World where
  network past _ := if past.length = 3 then .error "connection reset" else .ok ⟨200, ""⟩
  identifier := Identifier.stream 0

def uploader : Uploader := ⟨config, [world.identifier 0, world.identifier 1]⟩

theorem uploader_prepared : ∃ after,
    (Uploader.prepare config).run world (.start .initial) = (.ok uploader, after) :=
  ⟨_, rfl⟩

end Sample

end Dataspace
