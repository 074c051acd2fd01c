import Dataspace.Proofs.Part.Identity
import Dataspace.Proofs.Seeding.DefaultPolicy
import Dataspace.Proofs.Seeding.Reports
import Dataspace.Proofs.Seeding.Summary

/-!
# Warnings of a run

A run that passes over something says so: over a policy that has no id, over an
identifier that cannot be read, and over the contract definition of an asset that was
refused. Together with the reports of creations this is all that an operator sees of
failures that do not end a run (`seed_reports`). A run that ends in a call has told of
what stands before it.
-/

namespace Dataspace

open Plan

-- ---------------------------------------------------------------------------
-- Entries that are passed over
-- ---------------------------------------------------------------------------

namespace Event

def unnamed? : Event → Option String
  | .noted (.policyWithoutId name) => some name
  | _ => none

def unread? : Event → Option (Json × String)
  | .noted (.identifierRefused entry part _) => some (entry, part)
  | _ => none

def PassesOverNone : Event → Prop
  | .noted (.policyWithoutId _) | .noted (.identifierRefused ..) => False
  | _ => True

theorem PassesOverNone.eq_none {event : Event} (h : event.PassesOverNone) :
    event.unnamed? = none ∧ event.unread? = none := by
  cases event with
  | noted notice =>
    cases notice with
    | policyWithoutId | identifierRefused => exact h.elim
    | _ => exact ⟨rfl, rfl⟩
  | _ => exact ⟨rfl, rfl⟩

variable {events : List Event}

theorem unnamed_eq_nil (h : ∀ event ∈ events, event.PassesOverNone) :
    events.filterMap unnamed? = [] :=
  List.filterMap_eq_nil_iff.mpr fun event he => (h event he).eq_none.1

theorem unread_eq_nil (h : ∀ event ∈ events, event.PassesOverNone) :
    events.filterMap unread? = [] :=
  List.filterMap_eq_nil_iff.mpr fun event he => (h event he).eq_none.2

end Event

theorem passes_createDefinition (connector policyId assetId : String) :
    (createDefinition connector policyId assetId).Emits Event.PassesOverNone :=
  .create (fun _ => trivial) fun _ => trivial

theorem passes_ensurePolicy (connector id : String) (policy : Json) :
    (ensurePolicy connector id policy).Emits Event.PassesOverNone := by
  refine .bind (.say trivial) fun _ => .bind (.ask fun _ => trivial) fun found => ?_
  split
  · exact .say trivial
  · refine .bind (.create (fun _ => trivial) fun _ => trivial) fun answer => ?_
    split
    · exact .pure _ _
    · exact .say trivial

theorem passes_ensureOffer (display upload policyId : String) (offer : Offer) :
    (ensureOffer display upload policyId offer).Emits Event.PassesOverNone := by
  refine .bind (.say trivial) fun _ => .bind (.ask fun _ => trivial) fun found => ?_
  split
  · exact .say trivial
  · refine .bind (.create (fun _ => trivial) fun _ => trivial) fun answer => ?_
    split
    · exact .pure _ _
    · exact .bind (.say trivial) fun _ =>
        .bind (passes_createDefinition _ _ _) fun _ => .pure _ _

-- ---------------------------------------------------------------------------
-- Policies
-- ---------------------------------------------------------------------------

def unnamedIn (entries : List (String × Json)) : List String :=
  (entries.filter fun entry => (policyId? entry.2).isNone).map Prod.fst

def CallsFor (entry : String × Json) (call : Call) : Prop :=
  ∃ connector id, policyId? entry.2 = some id ∧
    (call = .findPolicy connector id ∨ call = .createPolicy connector entry.2)

def Event.CallsOnlyFor (entry : String × Json) : Event → Prop
  | .exchanged exchange => CallsFor entry exchange.call
  | _ => True

theorem trace_entry (h : Trace (ensureNamedPolicy connectors entry) events outcome) :
    events.filterMap Event.unnamed? = unnamedIn [entry] ∧
    events.filterMap Event.unread? = [] ∧
    (outcome = none → ∃ call reason, CallsFor entry call ∧
      .exchanged ⟨call, .error reason⟩ ∈ events) := by
  cases named : policyId? entry.2 with
  | none =>
    simp only [ensureNamedPolicy, named] at h
    obtain ⟨rfl, rfl⟩ := trace_say.mp h
    refine ⟨by simp [unnamedIn, named, Event.unnamed?], rfl, fun ended => ?_⟩
    cases ended
  | some id =>
    have passes : ∀ event ∈ events, event.PassesOverNone := by
      have h := h
      simp only [ensureNamedPolicy, named] at h
      exact Emits.forM (fun _ _ => passes_ensurePolicy _ _ _) _ _ h
    refine ⟨?_, Event.unread_eq_nil passes, ?_⟩
    · rw [Event.unnamed_eq_nil passes]
      simp [unnamedIn, named]
    · rintro rfl
      obtain ⟨call, reason, hx⟩ := (neverStuck_ensureNamedPolicy connectors entry).unanswered h
      have calls : (ensureNamedPolicy connectors entry).Emits (Event.CallsOnlyFor entry) :=
        emits_ensureNamedPolicy (fun _ => trivial) fun connector _ id _ named =>
          ⟨⟨connector, id, named, .inl rfl⟩, ⟨connector, id, named, .inr rfl⟩⟩
      exact ⟨call, reason, calls _ _ h _ hx, hx⟩

/-- The policies without id are warned of in order, unless a call for one before them was
not answered. -/
def WarnsOfPolicies (entries : List (String × Json)) (events : List Event) : Prop :=
  ∃ reached rest, entries = reached ++ rest ∧
    events.filterMap Event.unnamed? = unnamedIn reached ∧
    (rest = [] ∨ ∃ entry more call reason, rest = entry :: more ∧ CallsFor entry call ∧
      .exchanged ⟨call, .error reason⟩ ∈ events)

theorem WarnsOfPolicies.append {entries : List (String × Json)}
    (h : WarnsOfPolicies entries events) (none : later.filterMap Event.unnamed? = []) :
    WarnsOfPolicies entries (events ++ later) := by
  obtain ⟨reached, rest, hsplit, unnamed, ended⟩ := h
  refine ⟨reached, rest, hsplit, ?_, ended.imp_right ?_⟩
  · rw [List.filterMap_append, unnamed, none, List.append_nil]
  · rintro ⟨entry, more, call, reason, hrest, calls, hx⟩
    exact ⟨entry, more, call, reason, hrest, calls, List.mem_append_left _ hx⟩

theorem trace_entries {entries : List (String × Json)}
    (h : Trace (entries.forM (ensureNamedPolicy connectors)) events outcome) :
    WarnsOfPolicies entries events ∧ events.filterMap Event.unread? = [] := by
  rw [List.forM_eq_forM] at h
  induction entries generalizing events with
  | nil =>
    obtain ⟨rfl, -⟩ := trace_pure.mp h
    exact ⟨⟨[], [], rfl, rfl, .inl rfl⟩, rfl⟩
  | cons entry entries ih =>
    rw [List.forM_cons] at h
    rcases trace_bind.mp h with ⟨_, first, later, rfl, hfirst, hlater⟩ | ⟨rfl, hfirst⟩
    · obtain ⟨unnamed, unread, -⟩ := trace_entry hfirst
      obtain ⟨⟨reached, rest, rfl, unnamedLater, ended⟩, unreadLater⟩ := ih hlater
      refine ⟨⟨entry :: reached, rest, rfl, ?_, ended.imp_right ?_⟩, ?_⟩
      · rw [List.filterMap_append, unnamed, unnamedLater, unnamedIn, unnamedIn, unnamedIn,
          ← List.map_append, ← List.filter_append]
        rfl
      · rintro ⟨stopped, more, call, reason, hrest, calls, hx⟩
        exact ⟨stopped, more, call, reason, hrest, calls, List.mem_append_right _ hx⟩
      · rw [List.filterMap_append, unread, unreadLater]
        rfl
    · obtain ⟨unnamed, unread, stops⟩ := trace_entry hfirst
      obtain ⟨call, reason, calls, hx⟩ := stops rfl
      have named : unnamedIn [entry] = [] := by
        obtain ⟨_, _, named, -⟩ := calls
        simp [unnamedIn, named]
      exact ⟨⟨[], entry :: entries, rfl, unnamed.trans named,
        .inr ⟨entry, entries, call, reason, rfl, calls, hx⟩⟩, unread⟩

namespace Config

theorem passes_ensureOffers (config : Config) (offers : List Offer) :
    (config.ensureOffers offers).Emits Event.PassesOverNone :=
  .forM fun _ _ => .forM fun _ _ => passes_ensureOffer _ _ _ _

theorem warns_provision {config : Config} {policies : Members Json}
    (h : Trace (config.provision policies) events outcome) :
    WarnsOfPolicies policies.entries events ∧ events.filterMap Event.unread? = [] := by
  rcases trace_bind.mp h with ⟨_, first, later, rfl, hfirst, hlater⟩ | ⟨-, hfirst⟩
  · obtain ⟨policies, unread⟩ := trace_entries hfirst
    have passes : ∀ event ∈ later, event.PassesOverNone := by
      refine Emits.bind (config.passes_ensureOffers _) (fun _ => ?_) _ _ hlater
      split
      · exact config.passes_ensureOffers _
      · exact .pure _ _
    refine ⟨policies.append (Event.unnamed_eq_nil passes), ?_⟩
    rw [List.filterMap_append, unread, Event.unread_eq_nil passes]
    rfl
  · exact trace_entries hfirst

end Config

-- ---------------------------------------------------------------------------
-- Refused assets
-- ---------------------------------------------------------------------------

def Event.RefusesAsset : Event → Prop
  | .exchanged ⟨.createAsset .., .ok answer⟩ => 205 < answer.status
  | _ => False

/-- The report of a refused asset is followed by the warning that no contract definition
is made, and no entry is passed over. -/
inductive Handled : List Event → Prop
  | nil : Handled []
  | plain (passes : event.PassesOverNone) (other : ¬event.RefusesAsset) (rest : Handled events) :
      Handled (event :: events)
  | refused {id : String} (rest : Handled events) :
      Handled (.exchanged ⟨.createAsset connector asset, .ok answer⟩ ::
        .noted (.answered (.asset id) answer) :: .noted .definitionSkipped :: events)

theorem Handled.append (first : Handled events) (rest : Handled later) :
    Handled (events ++ later) := by
  induction first with
  | nil => exact rest
  | plain passes other _ ih => exact .plain passes other ih
  | refused _ ih => exact .refused ih

theorem handled_sequential : Event.Sequential fun (_ : Unit) events _ => Handled events :=
  ⟨fun _ => .nil, Handled.append⟩

theorem handled_of_plain (events : List Event)
    (plain : ∀ event ∈ events, event.PassesOverNone ∧ ¬event.RefusesAsset) : Handled events := by
  induction events with
  | nil => exact .nil
  | cons event events ih =>
    obtain ⟨⟨passes, other⟩, hevents⟩ := List.forall_mem_cons.mp plain
    exact .plain passes other (ih hevents)

theorem Handled.passes (h : Handled events) : ∀ event ∈ events, event.PassesOverNone := by
  induction h with
  | nil => exact List.forall_mem_nil _
  | plain passes _ _ ih => exact List.forall_mem_cons.mpr ⟨passes, ih⟩
  | refused _ ih =>
    exact List.forall_mem_cons.mpr ⟨trivial, List.forall_mem_cons.mpr ⟨trivial,
      List.forall_mem_cons.mpr ⟨trivial, ih⟩⟩⟩

/-- Wherever an asset is refused, what comes next is its report and then the warning. -/
def SkipsDefinitions (events : List Event) : Prop :=
  ∀ before connector asset answer after,
    events = before ++ .exchanged ⟨.createAsset connector asset, .ok answer⟩ :: after →
    205 < answer.status →
    ∃ id rest, after = .noted (.answered (.asset id) answer) :: .noted .definitionSkipped :: rest

theorem Handled.skips (h : Handled events) : SkipsDefinitions events := by
  induction h with
  | nil =>
    intro before connector asset answer after hsplit
    exact absurd hsplit (by simp)
  | plain _ other _ ih =>
    intro before connector asset answer after hsplit refusal
    cases before with
    | nil =>
      cases hsplit
      exact absurd refusal other
    | cons event before =>
      cases hsplit
      exact ih before connector asset answer after rfl refusal
  | refused rest ih =>
    intro before connector asset answer after hsplit refusal
    match before with
    | [] =>
      cases hsplit
      exact ⟨_, _, rfl⟩
    | [_] | [_, _] => cases hsplit
    | _ :: _ :: _ :: before =>
      cases hsplit
      exact ih before connector asset answer after rfl refusal

theorem SkipsDefinitions.past (first : ∀ event ∈ passed, ¬event.RefusesAsset)
    (rest : SkipsDefinitions events) : SkipsDefinitions (passed ++ events) := by
  intro before connector asset answer after hsplit refusal
  rcases append_eq_split hsplit with ⟨middle, rfl⟩ | ⟨middle, rfl, hrest⟩
  · exact absurd refusal (first _ (List.mem_append_right _ (.head _)))
  · exact rest middle connector asset answer after hrest refusal

-- ---------------------------------------------------------------------------
-- Records
-- ---------------------------------------------------------------------------

def Handles (plan : Plan α) : Prop :=
  plan.Follows (fun (_ : Unit) events _ => Handled events) () ()

theorem handles_plain {plan : Plan α}
    (plain : plan.Emits fun event => event.PassesOverNone ∧ ¬event.RefusesAsset) :
    Handles plan :=
  .of_emits plain handled_of_plain

theorem handles_bind {plan : Plan α} {next : α → Plan β} (first : Handles plan)
    (rest : ∀ a, Handles (next a)) : Handles (plan >>= next) :=
  .bind handled_sequential first rest

theorem handles_pure (a : α) : Handles (pure a : Plan α) := .pure handled_sequential a

theorem handles_storeDocument (server submodelId : String) (entry : String × Json) :
    Handles (storeDocument server submodelId entry) := by
  unfold storeDocument
  split
  · refine handles_plain (.bind (.say ⟨trivial, id⟩) fun _ => .bind ?_ fun _ => .pure _ _)
    exact .create (fun _ => ⟨trivial, id⟩) fun _ => ⟨trivial, id⟩
  · exact handles_pure ()

theorem handles_createDefinition (connector policyId assetId : String) :
    Handles (createDefinition connector policyId assetId) :=
  handles_plain (.create (fun _ => ⟨trivial, id⟩) fun _ => ⟨trivial, id⟩)

theorem handles_offerSubmodel (connector policyId assetId : String) (asset : AssetRequest) :
    Handles (offerSubmodel connector policyId assetId asset) := by
  intro events outcome h
  refine ⟨(), ?_, fun _ => rfl⟩
  obtain ⟨_, rfl, hrest⟩ := trace_say_bind.mp h
  refine .plain trivial id ?_
  rcases trace_bind.mp hrest with ⟨answer, _, last, rfl, hcreate, hlast⟩ | ⟨rfl, hcreate⟩
  · rcases trace_create.mp hcreate with ⟨_, rfl, ho⟩ | ⟨_, -, ho⟩
    · cases ho
      split at hlast
      · obtain ⟨rfl, -⟩ := trace_say.mp hlast
        exact .refused .nil
      · rename_i accepted
        have defined : Handles (createDefinition connector policyId assetId >>= fun _ => pure ()) :=
          handles_bind (handles_createDefinition _ _ _) fun _ => handles_pure ()
        obtain ⟨_, handled, -⟩ := defined _ _ hlast
        have success : ¬205 < answer.status := by simpa [Response.isFailure] using accepted
        exact .plain trivial success (.plain trivial id handled)
    · cases ho
  · rcases trace_create.mp hcreate with ⟨_, -, ho⟩ | ⟨reason, rfl, -⟩
    · cases ho
    · exact .plain trivial id .nil

namespace Uploader

variable (uploader : Uploader) (record : Record)

theorem handles_uploadSubmodel (entry : String × Json) :
    Handles (uploader.uploadSubmodel record entry) :=
  handles_bind (handles_plain (.nextSlot fun _ => ⟨trivial, id⟩)) fun _ =>
    handles_bind (handles_plain (.require _ _)) fun _ =>
      handles_bind (handles_plain (.freshId fun _ => ⟨trivial, id⟩)) fun _ =>
        handles_bind (handles_storeDocument _ _ _) fun _ =>
          handles_bind (handles_offerSubmodel _ _ _ _) fun _ => handles_pure _

theorem handles_finishRecord (identity : Identity) (descriptors : List Descriptor) :
    Handles (uploader.finishRecord record identity descriptors) := by
  unfold finishRecord
  split
  · exact handles_pure _
  · refine handles_plain (.bind (.bind (.say ⟨trivial, id⟩) fun _ => ?_) fun _ => .pure _ _)
    exact .bind (.freshId fun _ => ⟨trivial, id⟩) fun _ =>
      .create (fun _ => ⟨trivial, id⟩) fun _ => ⟨trivial, id⟩

/-- First comes a warning for each identifier that cannot be read. -/
theorem handled_uploadRecord {uploader : Uploader} {record : Record}
    (h : Trace (uploader.uploadRecord record) events outcome) :
    ∃ rest, events = (Identity.ofRecord record).refused.map (fun refusal =>
      .noted (.identifierRefused refusal.1 record.part refusal.2)) ++ rest ∧ Handled rest := by
  let identity := Identity.ofRecord record
  have submodels : Handles (record.eligible.mapM (uploader.uploadSubmodel record)) :=
    .mapM handled_sequential (fun _ => ()) (fun entry _ => handles_uploadSubmodel _ _ entry) _
  have upload : Handles (do
      say (.uploading record.part identity.shortName)
      say (.underPolicy (record.policyOr uploader.config.defaultPolicy))
      let descriptors ← record.eligible.mapM (uploader.uploadSubmodel record)
      uploader.finishRecord record identity descriptors) :=
    handles_bind (handles_plain (.say ⟨trivial, id⟩)) fun _ =>
      handles_bind (handles_plain (.say ⟨trivial, id⟩)) fun _ =>
        handles_bind submodels fun _ => handles_finishRecord _ _ _ _
  unfold uploadRecord announce at h
  simp only [LawfulMonad.bind_assoc] at h
  rcases trace_bind.mp h with ⟨_, first, rest, rfl, hfirst, hrest⟩ | ⟨rfl, hfirst⟩
  · obtain ⟨rfl, -⟩ := trace_forM_say hfirst
    obtain ⟨_, handled, -⟩ := upload _ _ hrest
    exact ⟨rest, rfl, handled⟩
  · obtain ⟨-, ho⟩ := trace_forM_say hfirst
    cases ho

end Uploader

namespace Record

def malformed (record : Record) : List Json :=
  record.submodels.entries.flatMap Identity.malformedIn

theorem refused_ofRecord {record : Record} (settled : record.Settled) :
    (Identity.ofRecord record).refused.map Prod.fst = record.malformed := by
  have gathered := Identity.extends_foldl_learn settled Identity.start
  rw [Identity.ofRecord, Identity.refused_addOwner, gathered.refused]
  rfl

theorem Settled.injectCertificate {record : Record} (settled : record.Settled) :
    record.injectCertificate.Settled := by
  unfold Record.injectCertificate
  split
  · intro entry he
    rcases Members.mem_of_mem_assign he with rfl | he
    · exact .scalar trivial
    · exact settled entry he
  · exact settled

end Record

theorem Config.settled_due {config : Config} {records : List Record}
    (settled : ∀ record ∈ records, record.Settled) :
    ∀ record ∈ config.due records, record.Settled := by
  intro due hdue
  obtain ⟨record, hrecord, rfl⟩ := List.mem_map.mp hdue
  have given := settled record (List.mem_filter.mp hrecord).1
  unfold certified
  split
  · exact given.injectCertificate
  · exact given

namespace Uploader

/-- What the upload of a record tells besides reports, up to where it ended. -/
structure Warns (uploader : Uploader) (record : Record) (events : List Event) : Prop where
  trace : ∃ outcome, Trace (uploader.uploadRecord record) events outcome
  malformed : events.filterMap Event.unread? = record.malformed.map (·, record.part)
  skips : SkipsDefinitions events

theorem warns_uploadRecord {uploader : Uploader} {record : Record} (settled : record.Settled)
    (h : Trace (uploader.uploadRecord record) events outcome) : uploader.Warns record events := by
  obtain ⟨rest, rfl, handled⟩ := handled_uploadRecord h
  refine ⟨⟨outcome, h⟩, ?_, ?_⟩
  · have warned : (Event.unread? ∘ fun refusal : Json × AssetId.Refusal =>
        .noted (.identifierRefused refusal.1 record.part refusal.2)) =
          fun refusal => some (refusal.1, record.part) := rfl
    rw [List.filterMap_append, Event.unread_eq_nil handled.passes, List.append_nil,
      ← Record.refused_ofRecord settled, List.filterMap_map, List.map_map, warned,
      List.filterMap_eq_map']
    rfl
  · refine .past (fun event he => ?_) handled.skips
    obtain ⟨_, -, rfl⟩ := List.mem_map.mp he
    exact id

theorem unnamed_uploadRecord {uploader : Uploader} {record : Record}
    (h : Trace (uploader.uploadRecord record) events outcome) :
    events.filterMap Event.unnamed? = [] := by
  obtain ⟨rest, rfl, handled⟩ := handled_uploadRecord h
  rw [List.filterMap_append, Event.unnamed_eq_nil handled.passes, List.append_nil,
    List.filterMap_map]
  exact List.filterMap_eq_nil_iff.mpr fun _ _ => rfl

/-- The uploads of a run one after the other, each with its events. The last may have
ended early, and then it is the last of all. -/
theorem split_uploadAll {uploader : Uploader}
    (h : Trace (uploader.uploadAll records totals) events outcome) :
    ∃ uploads : List (Record × List Event),
      uploads.map Prod.fst <+: uploader.config.due records ∧
      (outcome.isSome → uploads.map Prod.fst = uploader.config.due records) ∧
      events = uploads.flatMap Prod.snd ∧
      ∀ upload ∈ uploads, ∃ outcome, Trace (uploader.uploadRecord upload.1) upload.2 outcome := by
  induction records generalizing totals events with
  | nil =>
    obtain ⟨rfl, -⟩ := trace_pure.mp h
    exact ⟨[], List.prefix_rfl, fun _ => rfl, rfl, List.forall_mem_nil _⟩
  | cons record records ih =>
    unfold uploadAll at h
    rw [Config.due_cons]
    split at h
    · rename_i admitted
      rw [if_pos admitted]
      rcases trace_bind.mp h with ⟨_, first, later, rfl, hfirst, hlater⟩ | ⟨rfl, hfirst⟩
      · obtain ⟨uploads, some_of, all, rfl, each⟩ := ih hlater
        refine ⟨(uploader.config.certified record, first) :: uploads,
          List.cons_prefix_cons.mpr ⟨rfl, some_of⟩, fun ended => ?_, rfl,
          List.forall_mem_cons.mpr ⟨⟨_, hfirst⟩, each⟩⟩
        rw [List.map_cons, all ended]
      -- This upload ended early, so there is none after it.
      · refine ⟨[(uploader.config.certified record, events)],
          List.cons_prefix_cons.mpr ⟨rfl, List.nil_prefix⟩, fun ended => ?_, ?_,
          List.forall_mem_singleton.mpr ⟨none, hfirst⟩⟩
        · cases ended
        · simp
    · rename_i refused
      rw [if_neg refused]
      exact ih h

end Uploader

-- ---------------------------------------------------------------------------
-- Runs
-- ---------------------------------------------------------------------------

/-- Of a run that never gets stuck only the last call can be without an answer, and it is
why the run failed. -/
theorem Plan.error_of_unanswered {plan : Plan α} {rotation : Rotation}
    (smooth : plan.NeverStuck) (run : plan.run world (.start rotation) = (result, later))
    (hx : .exchanged ⟨request, .error reason⟩ ∈ later.history) :
    result = .error (.unanswered request reason) := by
  have made : ⟨request, .error reason⟩ ∈ later.exchanges := Event.mem_exchanges.mpr hx
  cases result with
  | ok value =>
    obtain ⟨exchanges, hall, answered⟩ := run_ok run
    rw [hall] at made
    obtain ⟨answer, ha⟩ := answered _ made
    cases ha
  | error failure =>
    obtain ⟨exchanges, last, why, rfl, hall, answered, -⟩ := run_failStop smooth run
    rw [hall] at made
    rcases List.mem_append.mp made with none | made
    · cases none
    rcases List.mem_append.mp made with made | made
    · obtain ⟨answer, ha⟩ := answered _ made
      cases ha
    · cases List.mem_singleton.mp made
      rfl

def Event.IsAside (event : Event) : Prop := event.exchange? = none ∧ event.PassesOverNone

theorem Uploader.aside_prepare (config : Config) : (prepare config).Emits Event.IsAside := by
  refine .bind (.mapM fun _ _ => .freshId fun _ => ⟨rfl, trivial⟩) fun assets => ?_
  split
  · exact .pure _ _
  · exact .bind (.say ⟨rfl, trivial⟩) fun _ => .pure _ _

/-- The events past provisioning: uploads of the records that are due, up to one that ended
early, and around them nothing that makes a call or passes over an entry. -/
structure WarnsOfRecords (config : Config) (records : List Record)
    (uploads : List (Record × List Event)) (events : List Event) (complete : Prop) : Prop where
  some_of : uploads.map Prod.fst <+: config.due records
  all : complete → uploads.map Prod.fst = config.due records
  warns : ∃ uploader : Uploader, uploader.config = config ∧
    ∀ upload ∈ uploads, uploader.Warns upload.1 upload.2
  split : ∃ opening closing, events = opening ++ (uploads.flatMap Prod.snd ++ closing) ∧
    ∀ event ∈ opening ++ closing, event.IsAside

theorem WarnsOfRecords.none (config : Config) (records : List Record) {complete : Prop}
    (cut : ¬complete) : WarnsOfRecords config records [] [] complete where
  some_of := List.nil_prefix
  all := fun h => absurd h cut
  warns := ⟨⟨config, []⟩, rfl, List.forall_mem_nil _⟩
  split := ⟨[], [], rfl, List.forall_mem_nil _⟩

theorem WarnsOfRecords.unnamed_eq_nil {complete : Prop}
    (h : WarnsOfRecords config records uploads events complete) :
    events.filterMap Event.unnamed? = [] := by
  obtain ⟨uploader, -, warns⟩ := h.warns
  obtain ⟨opening, closing, rfl, aside⟩ := h.split
  have silent : ∀ part : List Event, (∀ event ∈ part, event ∈ opening ++ closing) →
      part.filterMap Event.unnamed? = [] := fun part among =>
    Event.unnamed_eq_nil fun event he => (aside event (among event he)).2
  have uploaded : (uploads.flatMap Prod.snd).filterMap Event.unnamed? = [] := by
    rw [List.filterMap_flatMap, List.flatMap_eq_nil_iff]
    intro upload hu
    obtain ⟨_, htrace⟩ := (warns upload hu).trace
    exact Uploader.unnamed_uploadRecord htrace
  rw [List.filterMap_append, List.filterMap_append, uploaded,
    silent opening fun _ he => List.mem_append_left _ he,
    silent closing fun _ he => List.mem_append_right _ he]
  rfl

theorem warns_seedRecords {config : Config} (settled : ∀ record ∈ records, record.Settled)
    (h : Trace (seedRecords config records) events outcome) :
    ∃ uploads, WarnsOfRecords config records uploads events outcome.isSome := by
  rcases trace_bind.mp h with ⟨uploader, opening, rest, rfl, hopening, hrest⟩ | ⟨-, hopening⟩
  · have opened := Uploader.aside_prepare config _ _ hopening
    have same : uploader.config = config := (Uploader.trace_prepare hopening).1.config_eq
    have warns : ∀ uploads : List (Record × List Event),
        uploads.map Prod.fst <+: uploader.config.due records →
        (∀ upload ∈ uploads, ∃ outcome, Trace (uploader.uploadRecord upload.1) upload.2 outcome) →
        ∀ upload ∈ uploads, uploader.Warns upload.1 upload.2 := by
      intro uploads some_of each upload hu
      obtain ⟨_, htrace⟩ := each upload hu
      have due := some_of.subset (List.mem_map_of_mem hu)
      exact Uploader.warns_uploadRecord (Config.settled_due settled _ due) htrace
    rcases trace_bind.mp hrest with ⟨totals, middle, closing, rfl, hmiddle, hclosing⟩ |
        ⟨rfl, hmiddle⟩
    · obtain ⟨uploads, some_of, all, rfl, each⟩ := Uploader.split_uploadAll hmiddle
      have closed : (do
          say (.finished totals.records totals.submodels totals.shells)
          return totals : Plan Totals).Emits Event.IsAside :=
        .bind (.say ⟨rfl, trivial⟩) fun _ => .pure _ _
      refine ⟨uploads, same ▸ some_of, fun _ => same ▸ all rfl,
        ⟨uploader, same, warns uploads some_of each⟩, opening, closing, rfl, fun event he => ?_⟩
      exact (List.mem_append.mp he).elim (opened event) (closed _ _ hclosing event)
    · obtain ⟨uploads, some_of, -, rfl, each⟩ := Uploader.split_uploadAll hmiddle
      refine ⟨uploads, same ▸ some_of, (fun h => nomatch h),
        ⟨uploader, same, warns uploads some_of each⟩, opening, [], by simp, fun event he => ?_⟩
      rw [List.append_nil] at he
      exact opened event he
  · exact absurd hopening Uploader.not_trace_prepare_none

section
variable {config : Config} {fixture : Fixture}

theorem warns_run (settled : ∀ record ∈ fixture.records, record.Settled)
    (run : (seed config fixture).run world (.start .initial) = (result, later)) :
    ∃ provision provisioned uploads events,
      (config.provision fixture.policies).run world (.start .initial) = (provision, provisioned) ∧
      later.history = provisioned.history ++ events ∧
      WarnsOfRecords config fixture.records uploads events (∃ totals, result = .ok totals) := by
  rw [seed_eq_bind, run_bind] at run
  split at run
  · rename_i _ provisioned provision
    obtain ⟨events, reached, trace, -⟩ :=
      run_trace world (seedRecords config fixture.records) provisioned
    rw [run] at reached trace
    obtain rfl : later = provisioned.recordAll events := reached
    obtain ⟨uploads, warns⟩ := warns_seedRecords settled trace
    refine ⟨_, provisioned, uploads, events, provision, provisioned.history_recordAll events,
      warns.some_of, ?_, warns.warns, warns.split⟩
    rintro ⟨totals, rfl⟩
    exact warns.all rfl
  · rename_i provision
    cases run
    refine ⟨_, later, [], [], provision, (List.append_nil _).symm, .none _ _ ?_⟩
    rintro ⟨totals, h⟩
    cases h

/-- Creations are reported one by one, and what is passed over is warned of, up to the call
in which a run ends. -/
theorem seed_reports {settings : Settings} (valid : settings.validate = .ok config)
    (read : Fixture.ofBytes (some bytes) = .ok fixture)
    (run : (seed config fixture).run world (.start .initial) = (result, later)) :
    Reports ((config.due fixture.records).flatMap Record.stored) later.exchanges
      ((later.history.filterMap Event.report?).map Notice.line) ∧
    (∃ reached rest, fixture.policies.entries = reached ++ rest ∧
      later.history.filterMap Event.unnamed? = unnamedIn reached ∧
      (rest = [] ∨ ∃ entry more call reason, rest = entry :: more ∧ CallsFor entry call ∧
        result = .error (.unanswered call reason))) ∧
    ∃ provision provisioned uploads events,
      (config.provision fixture.policies).run world (.start .initial) = (provision, provisioned) ∧
      later.history = provisioned.history ++ events ∧
      provisioned.history.filterMap Event.unread? = [] ∧
      WarnsOfRecords config fixture.records uploads events (∃ totals, result = .ok totals) := by
  have smooth := neverStuck_seed (Settings.validate_parallel valid) fixture
  obtain ⟨provision, provisioned, uploads, events, hprovision, history, warns⟩ :=
    warns_run (Fixture.settled_of_ofBytes read) run
  obtain ⟨policies, unread⟩ := Config.warns_provision (trace_history hprovision)
  refine ⟨reports_seed run, ?_, provision, provisioned, uploads, events, hprovision, history,
    unread, warns⟩
  obtain ⟨reached, rest, hsplit, unnamed, ended⟩ := policies.append warns.unnamed_eq_nil
  rw [← history] at unnamed ended
  refine ⟨reached, rest, hsplit, unnamed, ended.imp_right ?_⟩
  rintro ⟨entry, more, call, reason, hrest, calls, hx⟩
  exact ⟨entry, more, call, reason, hrest, calls, error_of_unanswered smooth run hx⟩

end

namespace Sample

def unreachable : World := ⟨fun _ _ => .error "connection reset", world.identifier⟩

def namelessFile : String := policyFile "\x7b\"own\":\x7b\x7d\x7d"

def namelessFixture : Fixture := ⟨[], defaultPolicies.merge (.ofList [("own", .object [])])⟩

theorem namelessFile_read :
    Fixture.ofBytes (some namelessFile.toUTF8) = .ok namelessFixture := by
  have members : Json.parseMembers namelessFile =
      .ok [("https://catenax.io/schema/TestDataContainer/1.0.0", .array []),
        ("policies", .object [("own", .object [])])] := by
    refine Json.parseMembers_eq (toList_append_eq (toList_append_eq String.toList_ofList
      String.toList_ofList) String.toList_ofList) ?first ?read
    case first => rfl
    case read => rfl
  rw [Fixture.ofBytes_toUTF8 members]
  rfl

end Sample

/-- One of the three local identifiers is null, and no asset is accepted. -/
theorem seed_reports_sample : ∃ totals later, ∃ uploads : List (Record × List Event),
    (seed Sample.config ⟨[Sample.describedRecord], defaultPolicies⟩).run
      ⟨Sample.refusing, Sample.world.identifier⟩ (.start .initial) = (.ok totals, later) ∧
    Reports (Sample.describedRecord.stored ++ []) later.exchanges
      ((later.history.filterMap Event.report?).map Notice.line) ∧
    uploads.map Prod.fst = [Sample.describedRecord] ∧
    ∀ upload ∈ uploads, upload.2.filterMap Event.unread? = [(.null, "urn:part")] ∧
      SkipsDefinitions upload.2 := by
  have run : (seed Sample.config ⟨[Sample.describedRecord], defaultPolicies⟩).run
      ⟨Sample.refusing, Sample.world.identifier⟩ (.start .initial) = (.ok ⟨1, 2, 1⟩, _) := rfl
  obtain ⟨reports, -, _, _, uploads, _, -, -, -, warns⟩ :=
    seed_reports Sample.settings_valid Sample.describedFile_read run
  obtain ⟨uploader, -, each⟩ := warns.warns
  have all : uploads.map Prod.fst = [Sample.describedRecord] := warns.all ⟨_, rfl⟩
  refine ⟨_, _, uploads, run, reports, all, fun upload hu => ⟨?_, (each upload hu).skips⟩⟩
  have record : upload.1 ∈ [Sample.describedRecord] := all ▸ List.mem_map_of_mem hu
  have malformed : Sample.describedRecord.malformed = [.null] := rfl
  rw [(each upload hu).malformed, List.mem_singleton.mp record, malformed]
  rfl

/-- The first call is not answered, and nothing is said of a policy without id. -/
theorem seed_reports_cut :
    Sample.settings.validate = .ok Sample.config ∧
    Fixture.ofBytes (some Sample.namelessFile.toUTF8) = .ok Sample.namelessFixture ∧
    unnamedIn Sample.namelessFixture.policies.entries = ["own"] ∧
    ∃ failure later,
      (seed Sample.config Sample.namelessFixture).run Sample.unreachable (.start .initial) =
        (.error failure, later) ∧
      later.history.filterMap Event.unnamed? = [] :=
  ⟨Sample.settings_valid, Sample.namelessFile_read, rfl, _, _, rfl, rfl⟩

end Dataspace
