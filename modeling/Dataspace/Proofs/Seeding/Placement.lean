import Dataspace.Proofs.Plan.Supply
import Dataspace.Proofs.Settings.Parallel
import Dataspace.Seeding.Upload

/-!
# Placements stand at one position

A prepared uploader has one asset id for each data plane (`prepare_equipped`).
Under a configuration with parallel lists it has a placement for every slot, and
all of its parts stand at the slot's position (`placement?_eq`).
-/

namespace Dataspace

theorem Slot.pick?_eq {items : List α} (slot : Slot) (h : items.length = n) (hn : 0 < n) :
    ∃ item, slot.pick? items = some item ∧ items[slot.index % n]? = some item := by
  subst h
  have hlt : slot.index % items.length < items.length := Nat.mod_lt _ hn
  exact ⟨items[slot.index % items.length], List.getElem?_eq_getElem hlt,
    List.getElem?_eq_getElem hlt⟩

structure Placement.StandsAt (placement : Placement) (uploader : Uploader) (position : Nat) :
    Prop where
  submodel : uploader.config.submodelUrls[position]? = some placement.submodelUrl
  submodelUpload : uploader.config.submodelUploadUrls[position]? = some placement.submodelUploadUrl
  connector : uploader.config.connectorUrls[position]? = some placement.connectorUrl
  connectorUpload :
    uploader.config.connectorUploadUrls[position]? = some placement.connectorUploadUrl
  direct : uploader.config.schema = .v2 → placement.dataPlane = none
  proxied : uploader.config.schema = .v3 → ∃ plane, placement.dataPlane = some plane ∧
    uploader.config.dataPlaneUrls[position]? = some plane.url ∧
    uploader.dataPlaneAssets[position]? = some plane.assetId

namespace Uploader

/-- What preparing establishes: the uploader goes by its configuration, and each
data plane has an asset. -/
structure Equipped (uploader : Uploader) (config : Config) : Prop where
  config_eq : uploader.config = config
  assets : uploader.dataPlaneAssets.length = config.dataPlaneUrls.length

open Plan

variable {uploader : Uploader} {config : Config}

theorem traceEach_freshId {items : List α} (h : TraceEach (fun _ => freshId) items events ids) :
    events.filterMap Event.minted? = ids ∧ events.filterMap Event.slot? = [] ∧
      events.filterMap Event.exchange? = [] := by
  induction h with
  | nil => exact ⟨rfl, rfl, rfl⟩
  | cons first _ ih =>
    obtain ⟨id, rfl, hid⟩ := trace_freshId.mp first
    cases hid
    obtain ⟨hm, hs, hx⟩ := ih
    refine ⟨?_, ?_, ?_⟩
    · simp [hm]
    · simp [List.filterMap_cons, hs]
    · simp [List.filterMap_cons, hx]

theorem trace_prepare (h : Trace (prepare config) events (some uploader)) :
    uploader.Equipped config ∧ uploader.dataPlaneAssets = events.filterMap Event.minted? ∧
      events.filterMap Event.slot? = [] ∧ events.filterMap Event.exchange? = [] := by
  obtain ⟨ids, first, rest, rfl, hids, h⟩ := trace_bind_some.mp h
  have heach := trace_mapM_some hids
  obtain ⟨hm, hs, hx⟩ := traceEach_freshId heach
  have hlen : ids.length = config.dataPlaneUrls.length := heach.length_eq
  have hu : uploader = ⟨config, ids⟩ ∧ rest.filterMap Event.minted? = [] ∧
      rest.filterMap Event.slot? = [] ∧ rest.filterMap Event.exchange? = [] := by
    split at h
    · obtain ⟨rfl, hu⟩ := trace_pure.mp h
      exact ⟨Option.some.inj hu, rfl, rfl, rfl⟩
    · obtain ⟨last, rfl, hlast⟩ := trace_say_bind.mp h
      obtain ⟨rfl, hu⟩ := trace_pure.mp hlast
      exact ⟨Option.some.inj hu, rfl, rfl, rfl⟩
  obtain ⟨rfl, hm', hs', hx'⟩ := hu
  simp only [List.filterMap_append, hm, hs, hx, hm', hs', hx', List.append_nil]
  exact ⟨⟨rfl, hlen⟩, trivial, trivial, trivial⟩

theorem not_trace_prepare_none : ¬Trace (prepare config) events none := by
  intro h
  rcases trace_bind.mp h with ⟨ids, _, _, -, -, hrest⟩ | ⟨-, hids⟩
  · split at hrest
    · obtain ⟨-, ho⟩ := trace_pure.mp hrest
      cases ho
    · obtain ⟨_, -, hlast⟩ := trace_say_bind.mp hrest
      obtain ⟨-, ho⟩ := trace_pure.mp hlast
      cases ho
  · obtain ⟨_, _, _, _, _, _, -, -, -, hid⟩ := trace_mapM_none hids
    obtain ⟨_, -, ho⟩ := trace_freshId.mp hid
    cases ho

theorem neverStuck_prepare (config : Config) : (prepare config).NeverStuck := by
  refine .bind (.mapM fun _ _ _ => trivial) fun ids => ?_
  split
  · exact .pure _
  · exact .bind (.say _) fun _ => .pure _

theorem prepare_equipped {world : World} {progress later : Progress}
    (h : (prepare config).run world progress = (.ok uploader, later)) :
    uploader.Equipped config := by
  obtain ⟨events, -, ht, -⟩ := run_trace world (prepare config) progress
  rw [h] at ht
  exact (trace_prepare ht).1

theorem placement?_eq (equipped : uploader.Equipped config) (parallel : config.Parallel n)
    (slot : Slot) :
    ∃ placement, uploader.placement? slot = some placement ∧
      placement.StandsAt uploader (slot.index % n) := by
  obtain ⟨rfl, hassets⟩ := equipped
  obtain ⟨submodelUrl, hs, hs'⟩ := slot.pick?_eq parallel.submodel parallel.pos
  obtain ⟨uploadUrl, hu, hu'⟩ := slot.pick?_eq parallel.submodelUpload parallel.pos
  obtain ⟨connectorUrl, hc, hc'⟩ := slot.pick?_eq parallel.connector parallel.pos
  obtain ⟨connectorUploadUrl, hcu, hcu'⟩ := slot.pick?_eq parallel.connectorUpload parallel.pos
  cases hschema : uploader.config.schema with
  | v2 =>
    refine ⟨⟨submodelUrl, uploadUrl, connectorUrl, connectorUploadUrl, none⟩, ?_,
      hs', hu', hc', hcu', fun _ => rfl, fun h => ?_⟩
    · simp [placement?, dataPlane?, hschema, hs, hu, hc, hcu]
    · cases hschema.symm.trans h
  | v3 =>
    have hplanes := parallel.dataPlane hschema
    obtain ⟨url, hd, hd'⟩ := slot.pick?_eq hplanes parallel.pos
    obtain ⟨assetId, ha, ha'⟩ := slot.pick?_eq (hassets.trans hplanes) parallel.pos
    refine ⟨⟨submodelUrl, uploadUrl, connectorUrl, connectorUploadUrl, some ⟨url, assetId⟩⟩, ?_,
      hs', hu', hc', hcu', fun h => ?_, fun _ => ⟨⟨url, assetId⟩, rfl, hd', ha'⟩⟩
    · simp [placement?, dataPlane?, hschema, hs, hu, hc, hcu, hd, ha]
    · cases hschema.symm.trans h

end Uploader

-- ---------------------------------------------------------------------------
-- What is published
-- ---------------------------------------------------------------------------

@[simp] theorem Config.assetId?_submodelAsset (config : Config) (placement : Placement)
    (part key assetId : String) :
    (config.submodelAsset placement part key assetId).assetId? = some assetId := by
  unfold submodelAsset
  cases config.certificateService? key <;> rfl

namespace Config

variable {config : Config}

theorem target_faulty (faulty : config.isFaulty bpn = true) :
    config.target bpn key = .unreachable := by
  simp [target, faulty]

theorem target_certified (honest : config.isFaulty bpn = false)
    (certified : config.certificateService? key = some service) :
    config.target bpn key = .certificateService service := by
  simp [target, honest, certified]

theorem target_placed (honest : config.isFaulty bpn = false)
    (plain : config.certificateService? key = none) : config.target bpn key = .placed := by
  simp [target, honest, plain]

theorem target_ne_unreachable (honest : config.isFaulty bpn = false) :
    config.target bpn key ≠ .unreachable := by
  cases hservice : config.certificateService? key with
  | none => simp [target_placed honest hservice]
  | some service => simp [target_certified honest hservice]

end Config

namespace Placement

variable {placement : Placement}

theorem address_direct (direct : placement.dataPlane = none) :
    placement.address .placed part submodelId =
      placement.connectorUrl ++ "/" ++ (part ++ "-" ++ submodelId) ++
        "/submodel?content=value&extent=withBlobValue" := by
  simp [address, direct, Endpoint.submodel, String.append_assoc]

theorem address_certified (direct : placement.dataPlane = none) :
    placement.address (.certificateService service) part submodelId =
      service ++ "/" ++ part ++ "/asBuilt/ISO14001/submodel" := by
  simp [address, direct, certificateUrl]

theorem address_direct_unreachable (direct : placement.dataPlane = none) :
    placement.address .unreachable part submodelId =
      "http://idonotexist/" ++ (part ++ "-" ++ submodelId) ++
        "/submodel?content=value&extent=withBlobValue" := by
  simp [address, direct, Endpoint.submodel, Endpoint.unreachableHost, String.append_assoc]

theorem address_proxied (proxied : placement.dataPlane = some plane)
    (reachable : target ≠ .unreachable) :
    placement.address target part submodelId = plane.url ++ "/api/public/data/" ++ submodelId := by
  unfold address
  rw [proxied]
  cases target with
  | unreachable => exact absurd rfl reachable
  | _ => rfl

theorem address_proxied_unreachable (proxied : placement.dataPlane = some plane) :
    placement.address .unreachable part submodelId =
      "http://idonotexist/api/public/data/" ++ submodelId := by
  simp [address, proxied, Endpoint.dataPlane, Endpoint.unreachableHost]

end Placement

end Dataspace
