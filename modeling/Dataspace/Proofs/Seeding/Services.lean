import Dataspace.Proofs.Provisioning.Ensure
import Dataspace.Proofs.Seeding.Run

/-!
# Services

Which services the calls of a run go to, whatever the network answers: connectors
and submodel servers of the upload lists, and the one registry
(`run_serves`). Addresses that documents show are not called.
-/

namespace Dataspace

open Plan

namespace Config

variable {config : Config} {policies : Members Json}

def Serves (config : Config) (policies : Members Json) : Call → Prop
  | .findPolicy connector id =>
    connector ∈ config.connectorUploadUrls ∧ id ∈ policyIds policies
  | .createPolicy connector _ | .queryCatalog connector _ | .createAsset connector _
  | .createDefinition connector _ => connector ∈ config.connectorUploadUrls
  | .storePayload server _ _ => server ∈ config.submodelUploadUrls
  | .registerShell registry shell =>
    registry = config.registryUploadUrl ∧ shell.schema = config.schema

def ServesEvent (config : Config) (policies : Members Json) : Event → Prop
  | .exchanged exchange => config.Serves policies exchange.call
  | _ => True

-- ---------------------------------------------------------------------------
-- Provisioning
-- ---------------------------------------------------------------------------

theorem serves_ensurePolicies (config : Config) (policies : Members Json) :
    (config.ensurePolicies policies).Emits (config.ServesEvent policies) :=
  .forM fun entry he => emits_ensureNamedPolicy (fun _ => trivial)
    fun _ hc _ _ hid => ⟨⟨hc, List.mem_filterMap.mpr ⟨entry, he, hid⟩⟩, hc⟩

theorem serves_ensureOffers (config : Config) (policies : Members Json) (offers : List Offer) :
    (config.ensureOffers offers).Emits (config.ServesEvent policies) :=
  .forM fun _ hc => .forM fun _ _ =>
    have hupload := (List.of_mem_zip hc).2
    emits_ensureOffer (fun _ => trivial) (fun _ => hupload) (fun _ => hupload) fun _ => hupload

theorem serves_provision (config : Config) (policies : Members Json) :
    (config.provision policies).Emits (config.ServesEvent policies) := by
  refine .bind (config.serves_ensurePolicies policies) fun _ =>
    .bind (config.serves_ensureOffers policies _) fun _ => ?_
  split
  · exact config.serves_ensureOffers policies _
  · exact .pure _ _

end Config

-- ---------------------------------------------------------------------------
-- Uploads
-- ---------------------------------------------------------------------------

section
variable {config : Config} {policies : Members Json} {uploader : Uploader}

theorem Upload.Begun.serves {upload : Upload} (h : upload.Begun uploader record)
    (equipped : uploader.Equipped config) (parallel : config.Parallel n)
    (hx : .exchanged exchange ∈ upload.events) : config.Serves policies exchange.call := by
  have stands := h.standsAt equipped parallel
  have hposts : .exchanged exchange ∈ upload.posts := by simpa [Upload.events] using hx
  have hallows : upload.Allows uploader record exchange.call := h.allows hposts
  rw [← equipped.config_eq]
  cases hcall : exchange.call with
  | storePayload =>
    rw [hcall] at hallows
    obtain ⟨rfl, -⟩ := hallows
    exact List.mem_of_getElem? stands.submodelUpload
  | createAsset | createDefinition =>
    rw [hcall] at hallows
    obtain ⟨rfl, -⟩ := hallows
    exact List.mem_of_getElem? stands.connectorUpload
  | findPolicy | createPolicy | queryCatalog | registerShell =>
    rw [hcall] at hallows
    exact hallows.elim

theorem Uploader.Uploaded.serves (h : uploader.Uploaded record events outcome)
    (equipped : uploader.Equipped config) (parallel : config.Parallel n)
    (hx : .exchanged exchange ∈ events) : config.Serves policies exchange.call := by
  have uploads : ∀ uploads : List Upload, (∀ u ∈ uploads, u.Begun uploader record) →
      .exchanged exchange ∈ uploads.flatMap Upload.events →
      config.Serves policies exchange.call := by
    intro uploads begun hmem
    obtain ⟨upload, hu, he⟩ := List.mem_flatMap.mp hmem
    exact (begun upload hu).serves equipped parallel he
  cases h with
  | aborted notices begunUploads _ begun =>
    exact uploads begunUploads begun (by simpa using hx)
  | ended notices endedUploads _ ended closing =>
    rcases List.mem_append.mp hx with hx | hx
    · exact uploads endedUploads (fun u hu => (ended u hu).begun) (by simpa using hx)
    · obtain ⟨id, hshell⟩ := exchanged_finishRecord closing hx
      rw [hshell, ← equipped.config_eq]
      exact ⟨rfl, rfl⟩

theorem Uploader.UploadedEach.serves (h : uploader.UploadedEach records events outcomes)
    (equipped : uploader.Equipped config) (parallel : config.Parallel n)
    (hx : .exchanged exchange ∈ events) : config.Serves policies exchange.call := by
  induction h with
  | nil => cases hx
  | ended first _ ih =>
    exact (List.mem_append.mp hx).elim (first.serves equipped parallel) ih
  | aborted first => exact first.serves equipped parallel hx

-- ---------------------------------------------------------------------------
-- Runs
-- ---------------------------------------------------------------------------

theorem Seeded.serves {fixture : Fixture} (h : Seeded config fixture events outcome)
    (parallel : config.Parallel n) (hx : .exchanged exchange ∈ events) :
    config.Serves fixture.policies exchange.call := by
  cases h with
  | provisioning stopped => exact config.serves_provision _ _ _ stopped _ hx
  | uploading notices provisioned prepared uploaded =>
    obtain ⟨equipped, -, -, silent⟩ := Uploader.trace_prepare prepared
    simp only [List.mem_append] at hx
    rcases hx with hx | hx | hx | hx
    · exact config.serves_provision _ _ _ provisioned _ hx
    · have hnone := Event.mem_exchanges.mpr hx
      simp [silent] at hnone
    · exact uploaded.serves equipped parallel hx
    · obtain ⟨_, -, h⟩ := List.mem_map.mp hx
      cases h

theorem run_serves {fixture : Fixture} {world : World} (parallel : config.Parallel n)
    (run : (seed config fixture).run world (.start .initial) = (result, later))
    (hx : exchange ∈ later.exchanges) : config.Serves fixture.policies exchange.call :=
  (trace_seed parallel (trace_history run)).serves parallel (Event.mem_exchanges.mp hx)

end

end Dataspace
