import Dataspace.Proofs.Seeding.Records
import Dataspace.Seeding.Session

/-!
# Sessions keep count

A session uploads records with one uploader. What `Running` says of it holds at
the start (`start_running`) and after every record, also after one whose upload
ended early (`Running.uploadAll`): the counter has moved on by one for each
submodel begun.
-/

namespace Dataspace

open Plan

/-- How many submodels were begun. Each of them has claimed a slot. -/
def Progress.begun (progress : Progress) : Nat :=
  (progress.history.filterMap Event.slot?).length

theorem Progress.begun_recordAll (progress : Progress) (events : List Event) :
    (progress.recordAll events).begun =
      progress.begun + (events.filterMap Event.slot?).length := by
  rw [begun, begun, history_recordAll, List.filterMap_append, List.length_append]

namespace Session

variable {world : World} {config : Config} {session after : Session}

/-- Goes on after records whose upload ended early. -/
def uploadAll (world : World) (session : Session) (records : List Record) : Session :=
  records.foldl (fun session record => (session.step world (.upload record)).2) session

structure Running (world : World) (config : Config) (c : Nat) (session : Session) : Prop where
  equipped : session.uploader.Equipped config
  assets : session.uploader.dataPlaneAssets =
    (List.range config.dataPlaneUrls.length).map world.identifier
  counted : session.progress.rotation.next = c + session.progress.begun

theorem start?_run {rotation : Rotation} (h : start? world config rotation = some session) :
    (Uploader.prepare config).run world (.start rotation) =
      (.ok session.uploader, session.progress) := by
  unfold start? at h
  split at h
  · rename_i hrun
    cases h
    exact hrun
  · cases h

theorem start_running (h : start? world config ⟨c⟩ = some session) :
    session.Running world config c := by
  obtain ⟨events, hp, ht, hs⟩ := run_trace world (Uploader.prepare config) (.start ⟨c⟩)
  rw [start?_run h] at hp ht
  obtain ⟨equipped, hassets, hslots, -⟩ := Uploader.trace_prepare ht
  have hprogress : session.progress = (Progress.start ⟨c⟩).recordAll events := hp
  refine ⟨equipped, ?_, ?_⟩
  · have hids := hs.ids
    rw [← hassets, equipped.assets] at hids
    rw [hids, List.range_eq_range']
    rfl
  · simp only [hprogress, Progress.next_recordAll, Progress.begun_recordAll, hslots]
    rfl

theorem step_upload (h : session.step world (.upload record) = (result, after)) :
    after.uploader = session.uploader ∧ ∃ events outcome,
      after.progress = session.progress.recordAll events ∧
      Trace (session.uploader.uploadRecord record) events outcome ∧
      world.Supplies session.progress events ∧ (∀ r, result = .ok r → ∃ o, outcome = some o) := by
  obtain ⟨events, hp, ht, hs⟩ :=
    run_trace world ((Step.upload record).plan session.uploader) session.progress
  cases h
  refine ⟨rfl, events, ?_⟩
  rcases trace_bind.mp ht with ⟨outcome, first, rest, rfl, hfirst, hrest⟩ | ⟨hnone, hfirst⟩
  · obtain ⟨rfl, -⟩ := trace_pure.mp hrest
    rw [List.append_nil] at hp hs ⊢
    exact ⟨some outcome, hp, hfirst, hs, fun _ _ => ⟨outcome, rfl⟩⟩
  · refine ⟨none, hp, hfirst, hs, fun r hr => ?_⟩
    rw [hr] at hnone
    cases hnone

theorem Running.step (running : session.Running world config c)
    (h : session.step world (.upload record) = (result, after)) :
    after.Running world config c := by
  obtain ⟨huploader, events, -, hp, -⟩ := step_upload h
  refine ⟨huploader ▸ running.equipped, huploader ▸ running.assets, ?_⟩
  rw [hp, Progress.next_recordAll, Progress.begun_recordAll, running.counted, Nat.add_assoc]

theorem Running.uploadAll (running : session.Running world config c) (records : List Record) :
    (session.uploadAll world records).Running world config c := by
  induction records generalizing session with
  | nil => exact running
  | cons record records ih => exact ih (running.step rfl)

end Session

end Dataspace
