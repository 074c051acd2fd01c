import Dataspace.Proofs.Document
import Dataspace.Proofs.Seeding.Placement

/-!
# Uploads as traces

The upload of one submodel claims a slot, mints an id, and then only posts. What
it posts is a small grammar, `PayloadPost` and then `OfferPosts`
(`Upload.Ended.calls_eq`); an upload that ended early has made some of these
posts (`Upload.Begun.allows`).
-/

namespace Dataspace

open Plan

-- ---------------------------------------------------------------------------
-- Posts
-- ---------------------------------------------------------------------------

/-- A payload is posted if and only if the entry carries a document. -/
inductive PayloadPost (server submodelId : String) (entry : String × Json) :
    List Exchange → Prop
  | absent (h : entry.2.firstDocument? = none) : PayloadPost server submodelId entry []
  | stored (h : entry.2.firstDocument? = some document) (answer : Response) :
      PayloadPost server submodelId entry
        [⟨.storePayload server submodelId document, .ok answer⟩]

/-- An asset is posted, and unless it was refused a contract definition for it.
One policy governs access and contract. -/
inductive OfferPosts (connector policyId assetId : String) (asset : AssetRequest) :
    List Exchange → Prop
  | refused (answer : Response) (h : 205 < answer.status) :
      OfferPosts connector policyId assetId asset [⟨.createAsset connector asset, .ok answer⟩]
  | offered (answer outcome : Response) (h : answer.status ≤ 205)
      (access : Document.accessPolicy? definition.toJson = some policyId)
      (contract : Document.contractPolicy? definition.toJson = some policyId)
      (selector : Document.selector? definition.toJson = some (Vocabulary.id, "=", assetId)) :
      OfferPosts connector policyId assetId asset
        [⟨.createAsset connector asset, .ok answer⟩,
          ⟨.createDefinition connector definition, .ok outcome⟩]

theorem trace_storeDocument (h : Trace (storeDocument server submodelId entry) events (some u)) :
    PayloadPost server submodelId entry (events.filterMap Event.exchange?) := by
  unfold storeDocument at h
  split at h
  · rename_i document hd
    obtain ⟨rest, rfl, hrest⟩ := trace_say_bind.mp h
    obtain ⟨_, _, _, rfl, hcreate, hlast⟩ := trace_bind_some.mp hrest
    obtain ⟨rfl, -⟩ := trace_pure.mp hlast
    rcases trace_create.mp hcreate with ⟨answer, rfl, -⟩ | ⟨_, -, ho⟩
    · exact .stored hd answer
    · cases ho
  · rename_i hd
    obtain ⟨rfl, -⟩ := trace_pure.mp h
    exact .absent hd

theorem trace_createDefinition
    (h : Trace (createDefinition connector policyId assetId) events (some answer)) :
    events.filterMap Event.exchange? =
      [⟨.createDefinition connector (.offer policyId assetId), .ok answer⟩] := by
  rcases trace_create.mp h with ⟨_, rfl, ho⟩ | ⟨_, -, ho⟩
  · cases ho
    rfl
  · cases ho

theorem trace_offerSubmodel
    (h : Trace (offerSubmodel connector policyId assetId asset) events (some u)) :
    OfferPosts connector policyId assetId asset (events.filterMap Event.exchange?) := by
  unfold offerSubmodel at h
  obtain ⟨_, rfl, hrest⟩ := trace_say_bind.mp h
  obtain ⟨answer, _, rest, rfl, hcreate, hlast⟩ := trace_bind_some.mp hrest
  rcases trace_create.mp hcreate with ⟨_, rfl, ho⟩ | ⟨_, -, ho⟩
  · cases ho
    split at hlast
    · rename_i hf
      obtain ⟨rfl, -⟩ := trace_say.mp hlast
      exact .refused answer (by simpa [Response.isFailure] using hf)
    · rename_i hf
      obtain ⟨outcome, _, _, rfl, hdef, hend⟩ := trace_bind_some.mp hlast
      obtain ⟨rfl, -⟩ := trace_pure.mp hend
      have hx := trace_createDefinition hdef
      have hok : answer.status ≤ 205 := by simpa [Response.isFailure] using hf
      have hposts : OfferPosts connector policyId assetId asset
          [⟨.createAsset connector asset, .ok answer⟩,
            ⟨.createDefinition connector (.offer policyId assetId), .ok outcome⟩] :=
        .offered answer outcome hok (Document.accessPolicy?_toJson _)
          (Document.contractPolicy?_toJson _) (Document.selector?_toJson _)
      simpa [List.filterMap_cons, hx] using hposts
  · cases ho

-- ---------------------------------------------------------------------------
-- One submodel
-- ---------------------------------------------------------------------------

/-- The upload of one entry of a record: what was claimed and minted for it, and
all that happened after that. -/
structure Upload where
  entry : String × Json
  slot : Slot
  placement : Placement
  id : String
  posts : List Event

namespace Upload

def events (upload : Upload) : List Event :=
  .claimed upload.slot :: .minted upload.id :: upload.posts

def calls (upload : Upload) : List Exchange := upload.posts.filterMap Event.exchange?

def assetId (record : Record) (upload : Upload) : String :=
  upload.placement.assetId record.part upload.id

def asset (uploader : Uploader) (record : Record) (upload : Upload) : AssetRequest :=
  uploader.config.submodelAsset upload.placement record.part upload.entry.1
    (upload.assetId record)

def descriptor (uploader : Uploader) (record : Record) (upload : Upload) : Descriptor :=
  upload.placement.descriptor (uploader.config.target record.bpn upload.entry.1) record.part
    upload.entry.1 upload.id

def address (uploader : Uploader) (record : Record) (upload : Upload) : String :=
  upload.placement.address (uploader.config.target record.bpn upload.entry.1) record.part upload.id

def publish (uploader : Uploader) (record : Record) (upload : Upload) : Plan Unit := do
  storeDocument upload.placement.submodelUploadUrl upload.id upload.entry
  offerSubmodel upload.placement.connectorUploadUrl
    (record.policyOr uploader.config.defaultPolicy) (upload.assetId record)
    (upload.asset uploader record)

structure Begun (uploader : Uploader) (record : Record) (upload : Upload) : Prop where
  placed : uploader.placement? upload.slot = some upload.placement
  posted : ∃ outcome, Trace (upload.publish uploader record) upload.posts outcome

structure Ended (uploader : Uploader) (record : Record) (upload : Upload) : Prop where
  placed : uploader.placement? upload.slot = some upload.placement
  posted : Trace (upload.publish uploader record) upload.posts (some ())

variable {uploader : Uploader} {record : Record} {upload : Upload}

theorem descriptor_direct (direct : upload.placement.dataPlane = none) :
    upload.descriptor uploader record =
      .direct (Key.submodelName upload.entry.1) upload.id upload.entry.1
        (upload.address uploader record) := by
  simp [descriptor, Placement.descriptor, direct, address]

theorem descriptor_proxied (proxied : upload.placement.dataPlane = some plane) :
    upload.descriptor uploader record =
      .proxied (Key.submodelName upload.entry.1) upload.id upload.entry.1
        ⟨upload.address uploader record, plane.assetId, upload.placement.connectorUrl⟩ := by
  simp [descriptor, Placement.descriptor, proxied, address]

theorem id_descriptor : (upload.descriptor uploader record).id = upload.id := by
  cases planes : upload.placement.dataPlane with
  | none => rw [descriptor_direct planes]; rfl
  | some plane => rw [descriptor_proxied planes]; rfl

theorem address?_descriptor :
    (upload.descriptor uploader record).address? = some (upload.address uploader record) := by
  cases planes : upload.placement.dataPlane with
  | none => rw [descriptor_direct planes]; rfl
  | some plane => rw [descriptor_proxied planes]; rfl

theorem shown_descriptor (stands : upload.placement.StandsAt uploader position) :
    Document.address? uploader.config.schema (upload.descriptor uploader record).toJson =
      some (upload.address uploader record) := by
  cases hschema : uploader.config.schema with
  | v2 => rw [descriptor_direct (stands.direct hschema), Document.address?_direct]
  | v3 =>
    obtain ⟨plane, placed, -⟩ := stands.proxied hschema
    rw [descriptor_proxied placed, Document.address?_proxied]

theorem assetId_direct (record : Record) (direct : upload.placement.dataPlane = none) :
    upload.assetId record = record.part ++ "-" ++ upload.id := by
  simp [assetId, Placement.assetId, direct]

theorem assetId_proxied (record : Record) (proxied : upload.placement.dataPlane = some plane) :
    upload.assetId record = plane.assetId := by
  simp [assetId, Placement.assetId, proxied]

theorem Ended.begun (h : upload.Ended uploader record) : upload.Begun uploader record :=
  ⟨h.placed, _, h.posted⟩

def Allows (uploader : Uploader) (record : Record) (upload : Upload) : Call → Prop
  | .storePayload server id document => server = upload.placement.submodelUploadUrl ∧
      id = upload.id ∧ upload.entry.2.firstDocument? = some document
  | .createAsset connector asset => connector = upload.placement.connectorUploadUrl ∧
      asset = upload.asset uploader record
  | .createDefinition connector definition => connector = upload.placement.connectorUploadUrl ∧
      definition =
        .offer (record.policyOr uploader.config.defaultPolicy) (upload.assetId record)
  | _ => False

/-- After slot and id there are only calls and notices. -/
def AllowsEvent (uploader : Uploader) (record : Record) (upload : Upload) : Event → Prop
  | .exchanged exchange => upload.Allows uploader record exchange.call
  | .noted _ => True
  | .minted _ | .claimed _ => False

theorem emits_publish : (upload.publish uploader record).Emits
    (upload.AllowsEvent uploader record) := by
  refine .bind ?_ fun _ => ?_
  · unfold storeDocument
    split
    · rename_i document hd
      exact .bind (.say trivial) fun _ =>
        .bind (.create (fun _ => ⟨rfl, rfl, hd⟩) fun _ => trivial) fun _ => .pure _ _
    · exact .pure _ _
  · refine .bind (.say trivial) fun _ => .bind ?_ fun answer => ?_
    · exact .create (fun _ => ⟨rfl, rfl⟩) fun _ => trivial
    · split
      · exact .say trivial
      · exact .bind (.create (fun _ => ⟨rfl, rfl⟩) fun _ => trivial) fun _ => .pure _ _

theorem Begun.allows (h : upload.Begun uploader record) (he : event ∈ upload.posts) :
    upload.AllowsEvent uploader record event := by
  obtain ⟨outcome, ht⟩ := h.posted
  exact emits_publish _ _ ht event he

theorem Ended.calls_eq (h : upload.Ended uploader record) :
    ∃ payload offer, upload.calls = payload ++ offer ∧
      PayloadPost upload.placement.submodelUploadUrl upload.id upload.entry payload ∧
      OfferPosts upload.placement.connectorUploadUrl
        (record.policyOr uploader.config.defaultPolicy) (upload.assetId record)
        (upload.asset uploader record) offer := by
  obtain ⟨_, first, rest, hp, hstore, hoffer⟩ := trace_bind_some.mp h.posted
  refine ⟨_, _, ?_, trace_storeDocument hstore, trace_offerSubmodel hoffer⟩
  rw [calls, hp, List.filterMap_append]

theorem Begun.standsAt {config : Config} (h : upload.Begun uploader record)
    (equipped : uploader.Equipped config) (parallel : config.Parallel n) :
    upload.placement.StandsAt uploader (upload.slot.index % n) := by
  obtain ⟨placement, hplaced, hstands⟩ := Uploader.placement?_eq equipped parallel upload.slot
  cases Option.some.inj (h.placed.symm.trans hplaced)
  exact hstands

theorem Begun.slots (h : upload.Begun uploader record) :
    upload.events.filterMap Event.slot? = [upload.slot] := by
  have hposts : upload.posts.filterMap Event.slot? = [] := by
    refine List.filterMap_eq_nil_iff.mpr fun event he => ?_
    cases event with
    | claimed slot => exact (h.allows he).elim
    | _ => rfl
  simp [events, List.filterMap_cons, hposts]

theorem Begun.ids (h : upload.Begun uploader record) :
    upload.events.filterMap Event.minted? = [upload.id] := by
  have hposts : upload.posts.filterMap Event.minted? = [] := by
    refine List.filterMap_eq_nil_iff.mpr fun event he => ?_
    cases event with
    | minted id => exact (h.allows he).elim
    | _ => rfl
  simp [events, List.filterMap_cons, hposts]

theorem slots_flatMap {uploads : List Upload} (h : ∀ u ∈ uploads, u.Begun uploader record) :
    (uploads.flatMap events).filterMap Event.slot? = uploads.map slot := by
  induction uploads with
  | nil => rfl
  | cons upload uploads ih =>
    obtain ⟨hu, hr⟩ := List.forall_mem_cons.mp h
    rw [List.flatMap_cons, List.filterMap_append, hu.slots, ih hr]
    rfl

theorem ids_flatMap {uploads : List Upload} (h : ∀ u ∈ uploads, u.Begun uploader record) :
    (uploads.flatMap events).filterMap Event.minted? = uploads.map id := by
  induction uploads with
  | nil => rfl
  | cons upload uploads ih =>
    obtain ⟨hu, hr⟩ := List.forall_mem_cons.mp h
    rw [List.flatMap_cons, List.filterMap_append, hu.ids, ih hr]
    rfl

theorem exchanges_flatMap (uploads : List Upload) :
    (uploads.flatMap events).filterMap Event.exchange? = (uploads.map calls).flatten := by
  rw [List.filterMap_flatMap, List.flatMap_def]
  rfl

end Upload

end Dataspace
