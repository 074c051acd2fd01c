import Dataspace.Proofs.Plan.Trace
import Dataspace.Proofs.Seeding.Run

/-!
# Reports of creations

Every answer to a creating call is reported before anything else happens, and
nothing else is reported (`Told`). A report names what was to be created; which
submodel a payload belongs to does not follow from the call, but payloads are stored
in the order of the submodels with documents. So the reports are, line by line, those
of the creating calls that were answered (`Told.reports`).
-/

namespace Dataspace

open Plan

-- ---------------------------------------------------------------------------
-- Reports
-- ---------------------------------------------------------------------------

def Call.creates : Call → Bool
  | .findPolicy .. | .queryCatalog .. => false
  | _ => true

/-- What a call is to create, by its name. The submodels whose documents are still to be
stored are due before it and after it. -/
inductive Concerns : List (String × Json) → Call → Resource → List (String × Json) → Prop
  | policy {id : String} (named : policyId? policy = some id) :
      Concerns due (.createPolicy connector policy) (.policy id) due
  | asset {id : String} (named : asset.assetId? = some id) :
      Concerns due (.createAsset connector asset) (.asset id) due
  | definition :
      Concerns due (.createDefinition connector definition)
        (.contractDefinition definition.selectedId) due
  | payload :
      Concerns ((key, document) :: due) (.storePayload server submodelId document)
        (.payload (Key.submodelName key)) due
  | shell : Concerns due (.registerShell registry shell) .shell due

def Exchange.IsCreation (exchange : Exchange) : Prop :=
  exchange.call.creates = true ∧ ∃ answer, exchange.answer = .ok answer

/-- The lines that report the creations among the exchanges: a refusal is a warning that
shows the body of the answer. -/
inductive Reports : List (String × Json) → List Exchange → List String → Prop
  | nil : Reports due [] []
  | passed (other : ¬exchange.IsCreation) (rest : Reports due exchanges lines) :
      Reports due (exchange :: exchanges) lines
  | accepted (concerns : Concerns due request resource left) (success : answer.status ≤ 205)
      (rest : Reports left exchanges lines) :
      Reports due (⟨request, .ok answer⟩ :: exchanges)
        (("INFO " ++ (resource.describe ++ ": status " ++ Nat.repr answer.status)) :: lines)
  | refused (concerns : Concerns due request resource left) (refusal : 205 < answer.status)
      (rest : Reports left exchanges lines) :
      Reports due (⟨request, .ok answer⟩ :: exchanges)
        (("WARN " ++ (resource.describe ++ " failed with status " ++ Nat.repr answer.status ++
          ": " ++ answer.body)) :: lines)

def Event.report? : Event → Option Notice
  | .noted (.answered resource answer) => some (.answered resource answer)
  | _ => none

section
variable (resource : Resource) {answer : Response}

theorem Notice.line_answered : (Notice.answered resource answer).line =
    (if answer.isFailure then Level.warn else Level.info).name ++ " " ++
      answeredText resource answer := rfl

theorem Notice.line_accepted (success : answer.status ≤ 205) :
    (Notice.answered resource answer).line =
      "INFO " ++ (resource.describe ++ ": status " ++ Nat.repr answer.status) := by
  have accepted : answer.isFailure = false := by simpa [Response.isFailure] using success
  rw [line_answered, answeredText, accepted]
  rfl

theorem Notice.line_refused (refusal : 205 < answer.status) :
    (Notice.answered resource answer).line =
      "WARN " ++ (resource.describe ++ " failed with status " ++ Nat.repr answer.status ++ ": " ++
        answer.body) := by
  have refused : answer.isFailure = true := by simpa [Response.isFailure] using refusal
  rw [line_answered, answeredText, refused]
  rfl

end

theorem Reports.reported (concerns : Concerns due request resource left) (answer : Response)
    (rest : Reports left exchanges lines) :
    Reports due (⟨request, .ok answer⟩ :: exchanges)
      ((Notice.answered resource answer).line :: lines) := by
  by_cases success : answer.status ≤ 205
  · rw [Notice.line_accepted resource success]
    exact .accepted concerns success rest
  · rw [Notice.line_refused resource (Nat.lt_of_not_le success)]
    exact .refused concerns (Nat.lt_of_not_le success) rest

-- ---------------------------------------------------------------------------
-- Reports among events
-- ---------------------------------------------------------------------------

def Event.IsQuiet : Event → Prop
  | .exchanged exchange => ¬exchange.IsCreation
  | .noted (.answered ..) => False
  | _ => True

/-- Every answer to a creating call is reported at once, and nothing else is. -/
inductive Told : List (String × Json) → List Event → List (String × Json) → Prop
  | nil : Told due [] due
  | quiet (h : event.IsQuiet) (rest : Told due events left) : Told due (event :: events) left
  | created (concerns : Concerns due request resource between) (answer : Response)
      (rest : Told between events left) :
      Told due (.exchanged ⟨request, .ok answer⟩ :: .noted (.answered resource answer) :: events)
        left

theorem Told.append (first : Told due events between) (rest : Told between later left) :
    Told due (events ++ later) left := by
  induction first with
  | nil => exact rest
  | quiet h _ ih => exact .quiet h (ih rest)
  | created concerns answer _ ih => exact .created concerns answer (ih rest)

theorem told_sequential : Event.Sequential Told := ⟨fun _ => .nil, Told.append⟩

theorem told_of_quiet (due : List (String × Json)) (events : List Event)
    (quiet : ∀ event ∈ events, event.IsQuiet) : Told due events due := by
  induction events with
  | nil => exact .nil
  | cons event events ih =>
    obtain ⟨hevent, hevents⟩ := List.forall_mem_cons.mp quiet
    exact .quiet hevent (ih hevents)

theorem Told.reports (h : Told due events left) :
    Reports due (events.filterMap Event.exchange?)
      ((events.filterMap Event.report?).map Notice.line) := by
  induction h with
  | nil => exact .nil
  | quiet h _ ih =>
    rename_i event _
    cases event with
    | exchanged exchange => exact .passed h ih
    | noted notice =>
      have unreported : Event.report? (.noted notice) = none := by
        cases notice with
        | answered => exact h.elim
        | _ => rfl
      rw [List.filterMap_cons_none rfl, List.filterMap_cons_none unreported]
      exact ih
    | minted id => exact ih
    | claimed slot => exact ih
  | created concerns answer _ ih => exact .reported concerns answer ih

-- ---------------------------------------------------------------------------
-- Provisioning
-- ---------------------------------------------------------------------------

variable {due left : List (String × Json)}

theorem tells_quiet {plan : Plan α} (quiet : plan.Emits Event.IsQuiet) :
    plan.Follows Told due due :=
  .of_emits quiet (told_of_quiet due)

theorem tells_pure (a : α) : (pure a : Plan α).Follows Told due due :=
  .pure told_sequential a

theorem tells_bind {plan : Plan α} {next : α → Plan β} (first : plan.Follows Told due between)
    (rest : ∀ a, (next a).Follows Told between left) : (plan >>= next).Follows Told due left :=
  .bind told_sequential first rest

theorem tells_check {request : Call} (check : request.creates = false) :
    (ask request).Follows Told due due := by
  refine tells_quiet (.ask fun answer created => ?_)
  exact Bool.false_ne_true (check.symm.trans created.1)

theorem tells_create (concerns : Concerns due request resource left) :
    (create resource request).Follows Told due left := by
  intro events outcome h
  rcases trace_create.mp h with ⟨answer, rfl, rfl⟩ | ⟨reason, rfl, rfl⟩
  · exact ⟨left, .created concerns answer .nil, fun _ => rfl⟩
  · refine ⟨due, .quiet ?_ .nil, fun h => nomatch h⟩
    rintro ⟨-, answer, h⟩
    cases h

theorem tells_ensurePolicy {connector id : String} {policy : Json}
    (named : policyId? policy = some id) :
    (ensurePolicy connector id policy).Follows Told due due := by
  refine tells_bind (tells_quiet (.say trivial)) fun _ =>
    tells_bind (tells_check rfl) fun found => ?_
  split
  · exact tells_quiet (.say trivial)
  · refine tells_bind (tells_create (.policy named)) fun answer => ?_
    split
    · exact tells_pure ()
    · exact tells_quiet (.say trivial)

theorem tells_ensureNamedPolicy (connectors : List String) (entry : String × Json) :
    (ensureNamedPolicy connectors entry).Follows Told due due := by
  unfold ensureNamedPolicy
  split
  · exact tells_quiet (.say trivial)
  · rename_i id named
    exact .forM told_sequential fun _ _ => tells_ensurePolicy named

theorem tells_createDefinition (connector policyId assetId : String) :
    (createDefinition connector policyId assetId).Follows Told due due := by
  have concerns : Concerns due (.createDefinition connector (.offer policyId assetId))
      (.contractDefinition assetId) due := .definition
  exact tells_create concerns

theorem tells_ensureOffer (display upload policyId : String) {offer : Offer}
    (named : offer.asset.assetId? = some offer.assetId) :
    (ensureOffer display upload policyId offer).Follows Told due due := by
  refine tells_bind (tells_quiet (.say trivial)) fun _ =>
    tells_bind (tells_check rfl) fun found => ?_
  split
  · exact tells_quiet (.say trivial)
  · refine tells_bind (tells_create (.asset named)) fun answer => ?_
    split
    · exact tells_pure ()
    · exact tells_bind (tells_quiet (.say trivial)) fun _ =>
        tells_bind (tells_createDefinition _ _ _) fun _ => tells_pure ()

namespace Config

theorem tells_ensureOffers (config : Config) {offers : List Offer}
    (named : ∀ offer ∈ offers, offer.asset.assetId? = some offer.assetId) :
    (config.ensureOffers offers).Follows Told due due :=
  .forM told_sequential fun _ _ => .forM told_sequential fun offer ho =>
    tells_ensureOffer _ _ _ (named offer ho)

theorem tells_provision (config : Config) (policies : Members Json) :
    (config.provision policies).Follows Told due due := by
  refine tells_bind (.forM told_sequential fun entry _ => tells_ensureNamedPolicy _ entry)
    fun _ => tells_bind (config.tells_ensureOffers fun offer ho => ?registry) fun _ => ?testing
  case registry =>
    rw [List.mem_singleton.mp ho]
    rfl
  case testing =>
    split
    · refine config.tells_ensureOffers fun offer ho => ?_
      obtain ⟨kind, -, rfl⟩ := List.mem_map.mp ho
      rfl
    · exact tells_pure ()

end Config

-- ---------------------------------------------------------------------------
-- Records
-- ---------------------------------------------------------------------------

def storedIn (entries : List (String × Json)) : List (String × Json) :=
  entries.filterMap fun entry => entry.2.firstDocument?.map (entry.1, ·)

def Record.stored (record : Record) : List (String × Json) := storedIn record.eligible

theorem tells_storeDocument (server submodelId : String) (entry : String × Json)
    (rest : List (String × Json)) :
    (storeDocument server submodelId entry).Follows Told (storedIn (entry :: rest) ++ due)
      (storedIn rest ++ due) := by
  unfold storeDocument
  split
  · rename_i document carried
    have stored : storedIn (entry :: rest) = (entry.1, document) :: storedIn rest :=
      List.filterMap_cons_some (by rw [carried]; rfl)
    rw [stored]
    exact tells_bind (tells_quiet (.say trivial)) fun _ =>
      tells_bind (tells_create .payload) fun _ => tells_pure ()
  · rename_i empty
    have stored : storedIn (entry :: rest) = storedIn rest :=
      List.filterMap_cons_none (by rw [empty]; rfl)
    rw [stored]
    exact tells_pure ()

theorem tells_offerSubmodel (connector policyId : String)
    (named : asset.assetId? = some assetId) :
    (offerSubmodel connector policyId assetId asset).Follows Told due due := by
  refine tells_bind (tells_quiet (.say trivial)) fun _ =>
    tells_bind (tells_create (.asset named)) fun answer => ?_
  split
  · exact tells_quiet (.say trivial)
  · exact tells_bind (tells_createDefinition _ _ _) fun _ => tells_pure ()

theorem tells_freshId : freshId.Follows Told due due := tells_quiet (.freshId fun _ => trivial)

namespace Uploader

variable (uploader : Uploader) (record : Record)

theorem tells_prepare (config : Config) : (prepare config).Follows Told due due := by
  have minted : (config.dataPlaneUrls.mapM fun _ => freshId).Follows Told due due :=
    .mapM told_sequential (fun _ => due) (fun _ _ => tells_freshId) _
  refine tells_bind minted fun assets => ?_
  split
  · exact tells_pure _
  · exact tells_bind (tells_quiet (.say trivial)) fun _ => tells_pure _

theorem tells_uploadSubmodel (entry : String × Json) (rest : List (String × Json)) :
    (uploader.uploadSubmodel record entry).Follows Told (storedIn (entry :: rest) ++ due)
      (storedIn rest ++ due) :=
  tells_bind (tells_quiet (.nextSlot fun _ => trivial)) fun _ =>
    tells_bind (tells_quiet (.require _ _)) fun _ =>
    tells_bind tells_freshId fun _ => tells_bind (tells_storeDocument _ _ _ _) fun _ =>
      tells_bind (tells_offerSubmodel _ _ (Config.assetId?_submodelAsset ..)) fun _ =>
        tells_pure _

theorem tells_announce (identity : Identity) :
    (uploader.announce record identity).Follows Told due due :=
  tells_bind (.forM told_sequential fun _ _ => tells_quiet (.say trivial)) fun _ =>
    tells_bind (tells_quiet (.say trivial)) fun _ => tells_quiet (.say trivial)

theorem tells_finishRecord (identity : Identity) (descriptors : List Descriptor) :
    (uploader.finishRecord record identity descriptors).Follows Told due due := by
  unfold finishRecord
  split
  · exact tells_pure _
  · refine tells_bind ?_ fun _ => tells_pure _
    exact tells_bind (tells_quiet (.say trivial)) fun _ =>
      tells_bind tells_freshId fun _ => tells_create .shell

theorem tells_uploadRecord :
    (uploader.uploadRecord record).Follows Told (record.stored ++ due) due := by
  have submodels : (record.eligible.mapM (uploader.uploadSubmodel record)).Follows Told
      (storedIn record.eligible ++ due) (storedIn [] ++ due) :=
    .mapM told_sequential (storedIn · ++ due) (uploader.tells_uploadSubmodel record) _
  exact tells_bind (uploader.tells_announce record _) fun _ =>
    tells_bind submodels fun _ => uploader.tells_finishRecord record _ _

theorem tells_uploadAll (records : List Record) (totals : Totals) :
    (uploader.uploadAll records totals).Follows Told
      ((uploader.config.due records).flatMap Record.stored) [] := by
  induction records generalizing totals with
  | nil => exact tells_pure totals
  | cons record records ih =>
    unfold uploadAll
    rw [Config.due_cons]
    split
    · rw [List.flatMap_cons]
      exact tells_bind (uploader.tells_uploadRecord _) fun _ => ih _
    · exact ih totals

end Uploader

/-- In the end every document has been stored, unless the run was cut off. -/
theorem tells_seed (config : Config) (fixture : Fixture) :
    (seed config fixture).Follows Told ((config.due fixture.records).flatMap Record.stored) [] := by
  refine tells_bind (config.tells_provision _) fun _ =>
    .bind_trace told_sequential (Uploader.tells_prepare config) fun uploader _ prepared => ?_
  rw [← (Uploader.trace_prepare prepared).1.config_eq]
  exact tells_bind (uploader.tells_uploadAll _ _) fun _ =>
    tells_bind (tells_quiet (.say trivial)) fun _ => tells_pure _

theorem reports_seed {config : Config} {rotation : Rotation}
    (run : (seed config fixture).run world (.start rotation) = (result, later)) :
    Reports ((config.due fixture.records).flatMap Record.stored) later.exchanges
      ((later.history.filterMap Event.report?).map Notice.line) := by
  obtain ⟨_, told, -⟩ := tells_seed config fixture _ _ (trace_history run)
  exact told.reports

end Dataspace
