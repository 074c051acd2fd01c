import Dataspace.Proofs.Document
import Dataspace.Proofs.Seeding.Grammar

/-!
# References between documents

The upload of one submodel leaves documents with four services: its payload,
its asset, a contract definition, and a descriptor in the shell of its part.
They know each other by two ids only. `uploadRecord_crossReferences` reads the
ids off the documents as posted, and they agree.
-/

namespace Dataspace

-- ---------------------------------------------------------------------------
-- Agreement
-- ---------------------------------------------------------------------------

/-- The payload goes to the address of its submodel; asset and contract
definition name the asset. -/
def Call.RefersTo (payloadUrl assetId : String) (call : Call) : Prop :=
  match call with
  | .storePayload .. => call.url = payloadUrl
  | .createAsset .. => call.document?.bind Document.assetId? = some assetId
  | .createDefinition .. =>
    call.document?.bind Document.selector? = some (Vocabulary.id, "=", assetId)
  | _ => False

/-- Calls and descriptor of one entry agree about its submodel, which has the
id `id`, and about the asset it is offered under. Its addresses are those at
`position`. -/
structure CrossReferences (uploader : Uploader) (record : Record) (entry : String × Json)
    (id : String) (position : Nat) (assetId : String) (calls : List Exchange)
    (descriptor : Json) : Prop where
  posts : SubmodelPosts (record.policy.getD uploader.config.defaultPolicy) entry calls
  refer : ∃ server, uploader.config.submodelUploadUrls[position]? = some server ∧
    ∀ exchange ∈ calls, exchange.call.RefersTo (server ++ "/data/" ++ id) assetId
  ownAsset : uploader.config.schema = .v2 → assetId = record.part ++ "-" ++ id
  sharedAsset : uploader.config.schema = .v3 →
    uploader.dataPlaneAssets[position]? = some assetId
  submodelId : Document.submodelId? uploader.config.schema descriptor = some id
  semanticId : Document.semanticId? uploader.config.schema descriptor = some entry.1
  shortName : Document.shortName? descriptor = some (Key.submodelName entry.1)
  address : uploader.config.schema = .v2 → uploader.config.isFaulty record.bpn = false →
    uploader.config.certificateService? entry.1 = none →
    ∃ connector, uploader.config.connectorUrls[position]? = some connector ∧
      Document.address? .v2 descriptor = some (connector ++ "/" ++ assetId ++
        "/submodel?content=value&extent=withBlobValue")
  certified : uploader.config.schema = .v2 → uploader.config.isFaulty record.bpn = false →
    uploader.config.certificateService? entry.1 = some service →
    Document.address? .v2 descriptor =
      some (service ++ "/" ++ record.part ++ "/asBuilt/ISO14001/submodel")
  negotiation : uploader.config.schema = .v3 →
    ∃ connector, uploader.config.connectorUrls[position]? = some connector ∧
      Document.subprotocolBody? descriptor =
        some ("id=" ++ assetId ++ ";dspEndpoint=" ++ connector)
  href : uploader.config.schema = .v3 → uploader.config.isFaulty record.bpn = false →
    ∃ plane, uploader.config.dataPlaneUrls[position]? = some plane ∧
      Document.address? .v3 descriptor = some (plane ++ "/api/public/data/" ++ id)
  unreachable : uploader.config.isFaulty record.bpn = true →
    Document.address? uploader.config.schema descriptor = some (match uploader.config.schema with
      | .v2 => "http://idonotexist/" ++ assetId ++ "/submodel?content=value&extent=withBlobValue"
      | .v3 => "http://idonotexist/api/public/data/" ++ id)

-- ---------------------------------------------------------------------------
-- One submodel
-- ---------------------------------------------------------------------------

namespace Upload

variable {uploader : Uploader} {record : Record} {upload : Upload}

theorem Allows.refersTo (h : upload.Allows uploader record call) :
    call.RefersTo (Endpoint.payload upload.placement.submodelUploadUrl upload.id)
      (upload.assetId record) := by
  cases call with
  | storePayload server id document =>
    obtain ⟨rfl, rfl, -⟩ := h
    rfl
  | createAsset connector asset =>
    obtain ⟨-, rfl⟩ := h
    simp [Call.RefersTo, Call.document?, asset]
  | createDefinition connector definition =>
    obtain ⟨-, rfl⟩ := h
    simp [Call.RefersTo, Call.document?, ContractDefinition.offer]
  | findPolicy | createPolicy | queryCatalog | registerShell => exact h.elim

theorem Begun.refersTo (h : upload.Begun uploader record) (hx : exchange ∈ upload.calls) :
    exchange.call.RefersTo (Endpoint.payload upload.placement.submodelUploadUrl upload.id)
      (upload.assetId record) :=
  Allows.refersTo (h.allows (Event.mem_exchanges.mp hx))

theorem Ended.crossReferences (h : upload.Ended uploader record)
    (stands : upload.placement.StandsAt uploader position) :
    CrossReferences uploader record upload.entry upload.id position (upload.assetId record)
      upload.calls (upload.descriptor uploader record).toJson := by
  have refer := fun exchange (hx : exchange ∈ upload.calls) => h.begun.refersTo hx
  cases hschema : uploader.config.schema with
  | v2 =>
    have direct := stands.direct hschema
    have hasset := assetId_direct record direct
    refine {
      posts := h.submodelPosts
      refer := ⟨_, stands.submodelUpload, refer⟩
      ownAsset := fun _ => hasset
      sharedAsset := fun h3 => by cases hschema.symm.trans h3
      submodelId := ?_, semanticId := ?_, shortName := ?_
      address := fun _ honest plain => ⟨_, stands.connector, ?_⟩
      certified := fun _ honest certified => ?_
      negotiation := fun h3 => by cases hschema.symm.trans h3
      href := fun h3 => by cases hschema.symm.trans h3
      unreachable := fun faulty => ?_ }
    all_goals rw [descriptor_direct direct]
    · rw [hschema, Document.submodelId?_direct]
    · rw [hschema, Document.semanticId?_direct]
    · rw [Document.shortName?_direct]
    · rw [Document.address?_direct, address, Config.target_placed honest plain,
        Placement.address_direct direct, hasset]
    · rw [Document.address?_direct, address, Config.target_certified honest certified,
        Placement.address_certified direct]
    · rw [hschema, Document.address?_direct, address, Config.target_faulty faulty,
        Placement.address_direct_unreachable direct, hasset]
  | v3 =>
    obtain ⟨plane, proxied, hplane, hasset⟩ := stands.proxied hschema
    rw [← assetId_proxied record proxied] at hasset
    refine {
      posts := h.submodelPosts
      refer := ⟨_, stands.submodelUpload, refer⟩
      ownAsset := fun h2 => by cases hschema.symm.trans h2
      sharedAsset := fun _ => hasset
      submodelId := ?_, semanticId := ?_, shortName := ?_
      address := fun h2 => by cases hschema.symm.trans h2
      certified := fun h2 => by cases hschema.symm.trans h2
      negotiation := fun _ => ⟨_, stands.connector, ?_⟩
      href := fun _ honest => ⟨_, hplane, ?_⟩
      unreachable := fun faulty => ?_ }
    all_goals rw [descriptor_proxied proxied]
    · rw [hschema, Document.submodelId?_proxied]
    · rw [hschema, Document.semanticId?_proxied]
    · rw [Document.shortName?_proxied]
    · rw [Document.subprotocolBody?_proxied, assetId_proxied record proxied]
      rfl
    · rw [Document.address?_proxied, address,
        Placement.address_proxied proxied (Config.target_ne_unreachable honest)]
    · rw [hschema, Document.address?_proxied, address, Config.target_faulty faulty,
        Placement.address_proxied_unreachable proxied]

end Upload

-- ---------------------------------------------------------------------------
-- A record
-- ---------------------------------------------------------------------------

namespace Uploader

variable {settings : Settings} {config : Config} {world : World} {uploader : Uploader}

/-- The `i`-th eligible entry goes by the `i`-th id minted from here, and by the
`i`-th slot claimed. -/
theorem uploadRecord_crossReferences (valid : settings.validate = .ok config)
    (prepared : (prepare config).run world before = (.ok uploader, after))
    (answers : world.network.AnswersAll) (record : Record) (progress : Progress) :
    ∃ outcome later, ∃ (parts : List (List Exchange)) (descriptors : List Json) (closing : _),
      (uploader.uploadRecord record).run world progress = (.ok outcome, later) ∧
      later.exchanges = progress.exchanges ++ (parts.flatten ++ closing) ∧
      (record.eligible ≠ [] → ∃ call answer, closing = [⟨call, .ok answer⟩] ∧
        call.url = config.registryUploadUrl ++ config.schema.path ∧
        call.document?.bind Document.descriptors? = some descriptors) ∧
      parts.length = record.eligible.length ∧ descriptors.length = record.eligible.length ∧
      ∀ (i : Nat) entry, record.eligible[i]? = some entry →
        ∃ calls descriptor assetId, parts[i]? = some calls ∧ descriptors[i]? = some descriptor ∧
          CrossReferences uploader record entry (world.identifier (progress.minted + i))
            ((progress.rotation.next + i) % settings.submodelUrls.length) assetId calls
            descriptor := by
  have equipped := prepare_equipped prepared
  have parallel := Settings.validate_parallel valid
  obtain ⟨outcome, later, uploads, closing, hrun, hcompleted⟩ :=
    run_uploadRecord answers (equipped.places parallel) record progress
  have hlength : uploads.length = record.eligible.length := by
    rw [← hcompleted.entries, List.length_map]
  refine ⟨outcome, later, uploads.map Upload.calls,
    uploads.map fun upload => (upload.descriptor uploader record).toJson, closing, hrun,
    hcompleted.exchanges, ?shell, ?_, ?_, ?entries⟩
  case shell =>
    intro hne
    rcases hcompleted.closing with ⟨rfl, -⟩ | ⟨-, id, answer, rfl⟩
    · exact absurd hcompleted.entries.symm hne
    · refine ⟨_, answer, rfl, ?_, ?_⟩
      · rw [← equipped.config_eq]
        rfl
      · simp [Call.document?, shell, Function.comp_def]
  case entries =>
    -- Slot and id count up from where the record begins, so position `i` fixes both.
    intro i entry hi
    obtain ⟨upload, hu, rfl, hended, hslot, hid⟩ := hcompleted.upload_at hi
    have hstands := hended.begun.standsAt equipped parallel
    rw [hslot] at hstands
    rw [← hid]
    exact ⟨upload.calls, _, upload.assetId record, by rw [List.getElem?_map, hu]; rfl,
      by rw [List.getElem?_map, hu]; rfl, hended.crossReferences hstands⟩
  all_goals rw [List.length_map, hlength]

theorem uploadRecord_crossReferences_sample :
    ∃ outcome later, ∃ (parts : List (List Exchange)) (descriptors : List Json) (closing : _),
      (Sample.uploader.uploadRecord Sample.record).run Sample.world (.start .initial) =
        (.ok outcome, later) ∧
      later.exchanges = [] ++ (parts.flatten ++ closing) ∧
      ∃ calls descriptor assetId, parts[1]? = some calls ∧ descriptors[1]? = some descriptor ∧
        CrossReferences Sample.uploader Sample.record ("urn:mass#Mass", .null)
          (Sample.world.identifier 1) 0 assetId calls descriptor := by
  obtain ⟨_, prepared⟩ := Sample.uploader_prepared
  obtain ⟨outcome, later, parts, descriptors, closing, hrun, hx, -, -, -, hall⟩ :=
    uploadRecord_crossReferences Sample.settings_valid prepared (Network.always_answersAll _)
      Sample.record (.start .initial)
  exact ⟨outcome, later, parts, descriptors, closing, hrun, hx, hall 1 _ rfl⟩

end Uploader

end Dataspace
