import Dataspace.Proofs.Plan.Alongside
import Dataspace.Proofs.Seeding.Position

/-!
# What answers do not steer

Two sessions with the same identifiers upload the same records against networks
that answer every call, each in its own way. Apart from contract definitions
they make the same calls, count the same submodels and take the same slots
(`uploadAll_unsteered`). In each of them the contract definition of a submodel
comes right after its asset, if and only if the asset was not refused
(`Offers`).
-/

namespace Dataspace

open Plan

namespace Call

def isDefinition : Call → Bool
  | .createDefinition .. => true
  | _ => false

def isAsset : Call → Bool
  | .createAsset .. => true
  | _ => false

end Call

-- ---------------------------------------------------------------------------
-- Uploads go alongside themselves
-- ---------------------------------------------------------------------------

/-- The answer to an asset decides whether it is defined a contract for, and
nothing after that. -/
theorem alongside_offerSubmodel (connector policyId assetId : String) (asset : AssetRequest) :
    Alongside Call.isDefinition (fun _ _ => True)
      (offerSubmodel connector policyId assetId asset)
      (offerSubmodel connector policyId assetId asset) := by
  have quiet : ∀ answer : Response,
      (if answer.isFailure then say .definitionSkipped
       else do let _ ← createDefinition connector policyId assetId).Quiet Call.isDefinition := by
    intro answer
    split
    · exact .say _
    · exact .bind (.create _ rfl) fun _ => .pure ()
  exact (Alongside.say _ _).bind_eq fun _ =>
    (Alongside.create _ _).bind fun answer reply _ => (quiet answer).alongside (quiet reply)

theorem alongside_storeDocument (server submodelId : String) (entry : String × Json) :
    Alongside Call.isDefinition (fun _ _ => True) (storeDocument server submodelId entry)
      (storeDocument server submodelId entry) := by
  unfold storeDocument
  split
  · exact (Alongside.say _ _).bind_eq fun _ =>
      (Alongside.create _ _).bind fun _ _ _ => .pure trivial
  · exact .pure trivial

namespace Uploader

theorem alongside_prepare (config : Config) :
    Alongside Call.isDefinition Eq (prepare config) (prepare config) := by
  refine (Alongside.mapM fun _ _ => .freshId).bind_eq fun assets => ?_
  split
  · exact .pure rfl
  · exact (Alongside.say _ _).bind_eq fun _ => .pure rfl

theorem alongside_uploadSubmodel (uploader : Uploader) (record : Record) (entry : String × Json) :
    Alongside Call.isDefinition Eq (uploader.uploadSubmodel record entry)
      (uploader.uploadSubmodel record entry) :=
  .bind_eq .nextSlot fun _ => .bind_eq (.require _) fun _ => .bind_eq .freshId fun _ =>
    (alongside_storeDocument ..).bind fun _ _ _ =>
      (alongside_offerSubmodel ..).bind fun _ _ _ => .pure rfl

theorem alongside_finishRecord (uploader : Uploader) (record : Record) (identity : Identity)
    (descriptors : List Descriptor) :
    Alongside Call.isDefinition (fun _ _ => True)
      (uploader.finishRecord record identity descriptors)
      (uploader.finishRecord record identity descriptors) := by
  unfold finishRecord
  split
  · exact .pure trivial
  · have shell : Alongside Call.isDefinition (fun _ _ => True)
        (uploader.registerShell record identity descriptors)
        (uploader.registerShell record identity descriptors) :=
      (Alongside.say _ _).bind_eq fun _ => .bind_eq .freshId fun _ => .create _ _
    exact shell.bind fun _ _ _ => .pure trivial

theorem quiet_announce (uploader : Uploader) (record : Record) (identity : Identity) :
    (uploader.announce record identity).Quiet Call.isDefinition :=
  .bind (.forM fun _ _ => .say _) fun _ => .bind (.say _) fun _ => .say _

theorem alongside_uploadRecord (uploader : Uploader) (record : Record) :
    Alongside Call.isDefinition (fun _ _ => True) (uploader.uploadRecord record)
      (uploader.uploadRecord record) := by
  have quiet := quiet_announce uploader record (.ofRecord record)
  exact (quiet.alongside quiet).bind fun _ _ _ =>
    (Alongside.mapM fun entry _ => alongside_uploadSubmodel uploader record entry).bind_eq
      fun descriptors => alongside_finishRecord uploader record (.ofRecord record) descriptors

theorem submodels_uploadRecord {uploader : Uploader} {record : Record}
    (h : Trace (uploader.uploadRecord record) events (some outcome)) :
    outcome.submodels = record.eligible.length := by
  obtain ⟨_, _, _, rfl, -, hrest⟩ := trace_bind_some.mp h
  obtain ⟨descriptors, _, _, rfl, heach, hlast⟩ := trace_bind_some.mp hrest
  have hlength : descriptors.length = record.eligible.length := (trace_mapM_some heach).length_eq
  rcases trace_finishRecord hlast with ⟨rfl, -, ho⟩ |
    ⟨-, _, _, _, _, -, ⟨_, -, -, ho⟩ | ⟨_, _, -, -, ho⟩⟩
  · cases ho
    exact hlength
  · cases ho
  · cases ho
    exact hlength

end Uploader

-- ---------------------------------------------------------------------------
-- Offers
-- ---------------------------------------------------------------------------

def assetsIn (exchanges : List Exchange) : Nat :=
  exchanges.countP fun exchange => exchange.call.isAsset

def definesNext (exchanges : List Exchange) : Bool :=
  exchanges.head?.any fun exchange => exchange.call.isDefinition

/-- What was posted to offer `submodels`: one asset for each of them in order,
and right behind it its contract definition unless the asset was refused. There
are no other definitions. -/
structure Offers (config : Config) (submodels : List (Record × (String × Json)))
    (exchanges : List Exchange) : Prop where
  assets : assetsIn exchanges = submodels.length
  defined : ∀ past connector asset answer rest,
    exchanges = past ++ ⟨.createAsset connector asset, answer⟩ :: rest →
    ∃ response record entry placement id, answer = .ok response ∧
      submodels[assetsIn past]? = some (record, entry) ∧
      connector = placement.connectorUploadUrl ∧
      asset = config.submodelAsset placement record.part entry.1
        (placement.assetId record.part id) ∧
      (definesNext rest = true ↔ response.status ≤ 205)
  owned : ∀ past connector definition answer rest,
    exchanges = past ++ ⟨.createDefinition connector definition, answer⟩ :: rest →
    ∃ before asset response record entry,
      past = before ++ [⟨.createAsset connector asset, .ok response⟩] ∧
      submodels[assetsIn before]? = some (record, entry) ∧
      definition.accessPolicyId = record.policyOr config.defaultPolicy ∧
      definition.contractPolicyId = record.policyOr config.defaultPolicy ∧
      asset.assetId? = some definition.selectedId

theorem assetsIn_append (first second : List Exchange) :
    assetsIn (first ++ second) = assetsIn first + assetsIn second :=
  List.countP_append

theorem definesNext_append {first second : List Exchange} (none : definesNext second = false) :
    definesNext (first ++ second) = definesNext first := by
  cases first with
  | nil => exact none
  | cons exchange first => rfl

namespace Offers

variable {config : Config} {submodels more : List (Record × (String × Json))}
  {exchanges later : List Exchange}

theorem nil (config : Config) : Offers config [] [] :=
  ⟨rfl, fun _ _ _ _ _ split => by simp at split, fun _ _ _ _ _ split => by simp at split⟩

theorem not_definesNext (h : Offers config submodels exchanges) :
    definesNext exchanges = false := by
  cases exchanges with
  | nil => rfl
  | cons exchange rest =>
    obtain ⟨call, answer⟩ := exchange
    cases call with
    | createDefinition connector definition =>
      obtain ⟨before, _, _, _, _, hpast, -⟩ := h.owned [] connector definition answer rest rfl
      exact absurd hpast.symm (List.append_ne_nil_of_right_ne_nil _ (List.cons_ne_nil _ _))
    | _ => rfl

theorem append (h : Offers config submodels exchanges) (hmore : Offers config more later) :
    Offers config (submodels ++ more) (exchanges ++ later) where
  assets := by rw [assetsIn_append, h.assets, hmore.assets, List.length_append]
  defined := by
    intro past connector asset answer rest split
    rcases append_eq_split split with ⟨middle, hfirst⟩ | ⟨middle, rfl, hlast⟩
    · obtain ⟨response, record, entry, placement, id, ho, hk, hc, ha, hnext⟩ :=
        h.defined past connector asset answer middle hfirst
      have hrest : rest = middle ++ later := by
        rw [hfirst, List.append_assoc] at split
        exact (List.cons.inj (List.append_cancel_left split)).2.symm
      refine ⟨response, record, entry, placement, id, ho, ?_, hc, ha, ?_⟩
      · rw [List.getElem?_append_left (List.getElem?_eq_some_iff.mp hk).1, hk]
      · rw [hrest, definesNext_append hmore.not_definesNext, hnext]
    · obtain ⟨response, record, entry, placement, id, ho, hk, hc, ha, hnext⟩ :=
        hmore.defined middle connector asset answer rest hlast
      refine ⟨response, record, entry, placement, id, ho, ?_, hc, ha, hnext⟩
      rw [assetsIn_append, h.assets, List.getElem?_append_right (Nat.le_add_right ..),
        Nat.add_sub_cancel_left, hk]
  owned := by
    intro past connector definition answer rest split
    rcases append_eq_split split with ⟨middle, hfirst⟩ | ⟨middle, rfl, hlast⟩
    · obtain ⟨before, asset, response, record, entry, hp, hk, hdefinition⟩ :=
        h.owned past connector definition answer middle hfirst
      refine ⟨before, asset, response, record, entry, hp, ?_, hdefinition⟩
      rw [List.getElem?_append_left (List.getElem?_eq_some_iff.mp hk).1, hk]
    · obtain ⟨before, asset, response, record, entry, rfl, hk, hdefinition⟩ :=
        hmore.owned middle connector definition answer rest hlast
      refine ⟨exchanges ++ before, asset, response, record, entry,
        (List.append_assoc ..).symm, ?_, hdefinition⟩
      rw [assetsIn_append, h.assets, List.getElem?_append_right (Nat.le_add_right ..),
        Nat.add_sub_cancel_left, hk]

theorem other {exchange : Exchange} (asset : exchange.call.isAsset = false)
    (definition : exchange.call.isDefinition = false) : Offers config [] [exchange] where
  assets := by simp [assetsIn, asset]
  defined := by
    intro past connector request answer rest split
    cases past with
    | nil =>
      cases split
      cases asset
    | cons _ past => simp at split
  owned := by
    intro past connector request answer rest split
    cases past with
    | nil =>
      cases split
      cases definition
    | cons _ past => simp at split

theorem posts {record : Record} {entry : String × Json} (placement : Placement) (id : String)
    (h : OfferPosts placement.connectorUploadUrl (record.policyOr config.defaultPolicy)
      (placement.assetId record.part id)
      (config.submodelAsset placement record.part entry.1 (placement.assetId record.part id))
      exchanges) : Offers config [(record, entry)] exchanges := by
  cases h with
  | refused answer refused =>
    refine ⟨rfl, fun past connector asset answer rest split => ?defined,
      fun past connector definition answer rest split => ?owned⟩
    case defined =>
      cases past with
      | nil =>
        cases split
        refine ⟨_, record, entry, placement, id, rfl, rfl, rfl, rfl, ?_⟩
        exact ⟨fun h => (nomatch h), fun h => absurd h (Nat.not_le.mpr refused)⟩
      | cons _ past => simp at split
    case owned =>
      cases past with
      | nil => cases split
      | cons _ past => simp at split
  | offered answer outcome accepted access contract selector =>
    refine ⟨rfl, fun past connector asset answer rest split => ?defined,
      fun past connector definition answer rest split => ?owned⟩
    case defined =>
      match past with
      | [] =>
        cases split
        exact ⟨_, record, entry, placement, id, rfl, rfl, rfl, rfl, fun _ => accepted,
          fun _ => rfl⟩
      | [_] => cases split
      | _ :: _ :: past => simp at split
    case owned =>
      match past with
      | [] => cases split
      | [_] =>
        cases split
        refine ⟨[], _, _, record, entry, rfl, rfl, ?_, ?_, ?_⟩
        · simpa using access
        · simpa using contract
        · rw [Config.assetId?_submodelAsset]
          simpa using selector.symm
      | _ :: _ :: past => simp at split

theorem payload {server submodelId : String} {entry : String × Json}
    (h : PayloadPost server submodelId entry exchanges) : Offers config [] exchanges := by
  cases h with
  | absent => exact .nil config
  | stored => exact .other rfl rfl

end Offers

theorem Upload.Ended.offers {uploader : Uploader} {record : Record} {upload : Upload}
    (h : upload.Ended uploader record) :
    Offers uploader.config [(record, upload.entry)] upload.calls := by
  obtain ⟨payload, offer, hcalls, hpayload, hoffer⟩ := h.calls_eq
  rw [hcalls]
  exact (Offers.payload hpayload).append (.posts upload.placement upload.id hoffer)

theorem Upload.offers_flatten {uploader : Uploader} {record : Record} {uploads : List Upload}
    (h : ∀ upload ∈ uploads, upload.Ended uploader record) :
    Offers uploader.config (uploads.map fun upload => (record, upload.entry))
      (uploads.map Upload.calls).flatten := by
  induction uploads with
  | nil => exact .nil uploader.config
  | cons upload uploads ih =>
    obtain ⟨hu, hr⟩ := List.forall_mem_cons.mp h
    rw [List.map_cons, List.map_cons, List.flatten_cons]
    exact hu.offers.append (ih hr)

def Record.offered (record : Record) : List (Record × (String × Json)) :=
  record.eligible.map fun entry => (record, entry)

theorem Uploader.Completed.offers {world : World} {uploader : Uploader} {record : Record}
    (h : Completed world uploader record progress later uploads last) :
    ∃ exchanges, later.exchanges = progress.exchanges ++ exchanges ∧
      Offers uploader.config record.offered exchanges := by
  have hshell : Offers uploader.config [] last := by
    rcases h.closing with ⟨-, rfl⟩ | ⟨-, id, answer, rfl⟩
    · exact .nil uploader.config
    · exact .other rfl rfl
  have hoffers := (Upload.offers_flatten h.ended).append hshell
  refine ⟨_, h.exchanges, ?_⟩
  rw [List.append_nil] at hoffers
  rwa [Record.offered, ← h.entries, List.map_map]

-- ---------------------------------------------------------------------------
-- Sessions
-- ---------------------------------------------------------------------------

def StepResult.submodels? : StepResult → Option Nat
  | .done => none
  | .uploaded outcome => some outcome.submodels

namespace Session

/-- How many submodels each record counts; none if its upload ended early. -/
def counts (world : World) (session : Session) : List Record → List (Option Nat)
  | [] => []
  | record :: rest =>
    let (result, after) := session.step world (.upload record)
    (result.toOption.bind StepResult.submodels?) :: after.counts world rest

structure Uploads (config : Config) (record : Record) (before after : Session)
    (result : Except Failure StepResult) : Prop where
  uploader : after.uploader = before.uploader
  counted : result.toOption.bind StepResult.submodels? = some record.eligible.length
  offers : ∃ exchanges, after.progress.exchanges = before.progress.exchanges ++ exchanges ∧
    Offers config record.offered exchanges

variable {world : World} {config : Config} {session first second : Session}

theorem step_uploads (answers : world.network.AnswersAll)
    (equipped : session.uploader.Equipped config) (parallel : config.Parallel n)
    (record : Record) :
    Uploads config record session (session.step world (.upload record)).2
      (session.step world (.upload record)).1 := by
  obtain ⟨outcome, later, uploads, closing, hrun, hcompleted⟩ :=
    Uploader.run_uploadRecord answers (equipped.places parallel) record session.progress
  obtain ⟨events, -, htrace, -⟩ :=
    run_trace world (session.uploader.uploadRecord record) session.progress
  rw [hrun] at htrace
  have hstep : session.step world (.upload record) =
      (.ok (.uploaded outcome), { session with progress := later }) := by
    simp only [step, Step.plan, run_bind, hrun, run_pure]
  rw [hstep]
  refine ⟨rfl, congrArg some (Uploader.submodels_uploadRecord htrace), ?_⟩
  have hoffers := hcompleted.offers
  rwa [equipped.config_eq] at hoffers

structure Offering (config : Config) (submodels : List (Record × (String × Json)))
    (session : Session) : Prop where
  equipped : session.uploader.Equipped config
  offers : Offers config submodels session.progress.exchanges

theorem Offering.step {submodels : List (Record × (String × Json))}
    (offering : session.Offering config submodels) (answers : world.network.AnswersAll)
    (parallel : config.Parallel n) (record : Record) :
    (session.step world (.upload record)).2.Offering config (submodels ++ record.offered) := by
  obtain ⟨huploader, -, exchanges, hexchanges, hoffers⟩ :=
    step_uploads answers offering.equipped parallel record
  refine ⟨huploader ▸ offering.equipped, ?_⟩
  rw [hexchanges]
  exact offering.offers.append hoffers

theorem Offering.uploadAll {submodels : List (Record × (String × Json))}
    (offering : session.Offering config submodels) (answers : world.network.AnswersAll)
    (parallel : config.Parallel n) (records : List Record) :
    (session.uploadAll world records).Offering config
      (submodels ++ records.flatMap Record.offered) := by
  induction records generalizing session submodels with
  | nil =>
    rw [List.flatMap_nil, List.append_nil]
    exact offering
  | cons record records ih =>
    rw [List.flatMap_cons, ← List.append_assoc]
    exact ih (offering.step answers parallel record)

theorem counts_eq (equipped : session.uploader.Equipped config)
    (answers : world.network.AnswersAll) (parallel : config.Parallel n) (records : List Record) :
    session.counts world records = records.map fun record => some record.eligible.length := by
  induction records generalizing session with
  | nil => rfl
  | cons record records ih =>
    have huploads := step_uploads answers equipped parallel record
    have later : (session.step world (.upload record)).2.uploader.Equipped config :=
      huploads.uploader ▸ equipped
    simp only [counts, huploads.counted, ih later, List.map_cons]

structure Level (first second : Session) : Prop where
  uploader : first.uploader = second.uploader
  progress : first.progress.Level Call.isDefinition second.progress

section

variable {network other : Network}

theorem Level.step (level : first.Level second) (answers : network.AnswersAll)
    (otherAnswers : other.AnswersAll) (identifier : Nat → String) (record : Record) :
    (first.step ⟨network, identifier⟩ (.upload record)).2.Level
      (second.step ⟨other, identifier⟩ (.upload record)).2 := by
  refine ⟨level.uploader, ?_⟩
  have alongside : Alongside Call.isDefinition (fun _ _ => True)
      ((Step.upload record).plan first.uploader) ((Step.upload record).plan second.uploader) := by
    rw [level.uploader]
    exact (Uploader.alongside_uploadRecord second.uploader record).bind fun _ _ _ => .pure trivial
  exact (alongside.run answers otherAnswers identifier level.progress).2

theorem Level.uploadAll (level : first.Level second) (answers : network.AnswersAll)
    (otherAnswers : other.AnswersAll) (identifier : Nat → String) (records : List Record) :
    (first.uploadAll ⟨network, identifier⟩ records).Level
      (second.uploadAll ⟨other, identifier⟩ records) := by
  induction records generalizing first second with
  | nil => exact level
  | cons record records ih => exact ih (level.step answers otherAnswers identifier record)

theorem start?_level (answers : network.AnswersAll) (otherAnswers : other.AnswersAll)
    (identifier : Nat → String) (config : Config) (rotation : Rotation) :
    ∃ first second, start? ⟨network, identifier⟩ config rotation = some first ∧
      start? ⟨other, identifier⟩ config rotation = some second ∧ first.Level second := by
  have prepared : ∃ uploader later, (Uploader.prepare config).run ⟨network, identifier⟩
      (.start rotation) = (.ok uploader, later) := by
    have smooth := Uploader.neverStuck_prepare config
    have answers : (World.mk network identifier).network.AnswersAll := answers
    obtain ⟨uploader, events, hrun, -⟩ := run_answered answers smooth (.start rotation)
    exact ⟨uploader, _, hrun⟩
  obtain ⟨hend, hlevel⟩ := (Uploader.alongside_prepare config).run answers otherAnswers identifier
    (.refl (.start rotation))
  obtain ⟨uploader, later, hrun⟩ := prepared
  rw [hrun] at hend hlevel
  generalize hother : (Uploader.prepare config).run ⟨other, identifier⟩ (.start rotation) = ended
    at hend hlevel
  obtain ⟨result, otherLater⟩ := ended
  cases hend with
  | ok h =>
    subst h
    refine ⟨⟨uploader, later⟩, ⟨uploader, otherLater⟩, ?_, ?_, rfl, hlevel⟩
    · simp only [start?, hrun]
    · simp only [start?, hother]

end

theorem start?_offering {rotation : Rotation} (h : start? world config rotation = some session) :
    session.Offering config [] := by
  obtain ⟨events, hp, ht, -⟩ := run_trace world (Uploader.prepare config) (.start rotation)
  rw [start?_run h] at hp ht
  obtain ⟨equipped, -, -, silent⟩ := Uploader.trace_prepare ht
  refine ⟨equipped, ?_⟩
  have hprogress : session.progress = (Progress.start rotation).recordAll events := hp
  rw [hprogress, Progress.exchanges_recordAll, silent]
  exact .nil config

/-- Calls are compared with all that follows from them: method, address, audience
and document. -/
theorem uploadAll_unsteered {settings : Settings} (valid : settings.validate = .ok config)
    {network other : Network} (answers : network.AnswersAll) (otherAnswers : other.AnswersAll)
    (identifier : Nat → String) (rotation : Rotation) (records : List Record) :
    ∃ first second after otherAfter : Session,
      start? ⟨network, identifier⟩ config rotation = some first ∧
      start? ⟨other, identifier⟩ config rotation = some second ∧
      first.uploadAll ⟨network, identifier⟩ records = after ∧
      second.uploadAll ⟨other, identifier⟩ records = otherAfter ∧
      after.progress.kept Call.isDefinition = otherAfter.progress.kept Call.isDefinition ∧
      after.progress.rotation = otherAfter.progress.rotation ∧
      first.counts ⟨network, identifier⟩ records =
        records.map (fun record => some record.eligible.length) ∧
      second.counts ⟨other, identifier⟩ records =
        records.map (fun record => some record.eligible.length) ∧
      Offers config (records.flatMap Record.offered) after.progress.exchanges ∧
      Offers config (records.flatMap Record.offered) otherAfter.progress.exchanges := by
  have parallel := Settings.validate_parallel valid
  obtain ⟨first, second, started, otherStarted, level⟩ :=
    start?_level answers otherAnswers identifier config rotation
  have offering := start?_offering started
  have otherOffering := start?_offering otherStarted
  have after := level.uploadAll answers otherAnswers identifier records
  exact ⟨first, second, _, _, started, otherStarted, rfl, rfl, after.progress.kept,
    after.progress.rotation, counts_eq offering.equipped answers parallel records,
    counts_eq otherOffering.equipped otherAnswers parallel records,
    (offering.uploadAll answers parallel records).offers,
    (otherOffering.uploadAll otherAnswers parallel records).offers⟩

end Session

namespace Sample

def refusing : Network := fun _ call => .ok ⟨if call.isAsset then 409 else 200, ""⟩

end Sample

/-- Where assets are refused, the two calls that are missing are definitions. -/
theorem Session.uploadAll_unsteered_sample : ∃ first second,
    start? Sample.world Sample.config .initial = some first ∧
    start? ⟨Sample.refusing, Sample.world.identifier⟩ Sample.config .initial = some second ∧
    (first.uploadAll Sample.world [Sample.record]).progress.exchanges.length = 6 ∧
    (second.uploadAll ⟨Sample.refusing, Sample.world.identifier⟩
      [Sample.record]).progress.exchanges.length = 4 ∧
    (first.uploadAll Sample.world [Sample.record]).progress.kept Call.isDefinition =
      (second.uploadAll ⟨Sample.refusing, Sample.world.identifier⟩
        [Sample.record]).progress.kept Call.isDefinition := by
  obtain ⟨first, second, _, _, started, otherStarted, rfl, rfl, kept, -⟩ :=
    uploadAll_unsteered Sample.settings_valid (Network.always_answersAll ⟨200, ""⟩)
      (fun _ _ => ⟨_, rfl⟩ : Sample.refusing.AnswersAll) (Identifier.stream 0) .initial
      [Sample.record]
  have session : start? Sample.world Sample.config .initial = some first := started
  cases session
  cases otherStarted
  exact ⟨_, _, rfl, rfl, rfl, rfl, kept⟩

end Dataspace
