import Dataspace.Proofs.Document
import Dataspace.Proofs.Provisioning.Grammar
import Dataspace.Proofs.Seeding.InStep
import Dataspace.Proofs.Seeding.Run

/-!
# Faults are isolated

Making a partner unreachable changes nothing but the addresses in the shells of
its records (`seed_faults`). Provisioning is the same call for call; then the
two runs are compared record by record (`BothInTurn`), and a pair of calls made
for a record may differ only as `Config.FaultPair` says.
-/

namespace Dataspace

open Plan

-- ---------------------------------------------------------------------------
-- Documents apart from some members
-- ---------------------------------------------------------------------------

namespace Json

mutual

def without (names : List String) : Json → Json
  | .array items => .array (itemsWithout names items)
  | .object members => .object (membersWithout names members)
  | json => json

def itemsWithout (names : List String) : List Json → List Json
  | [] => []
  | item :: rest => item.without names :: itemsWithout names rest

def membersWithout (names : List String) : List (String × Json) → List (String × Json)
  | [] => []
  | (name, value) :: rest =>
    if names.contains name then membersWithout names rest
    else (name, value.without names) :: membersWithout names rest

end

theorem itemsWithout_map {related : α → β → Prop} {first : α → Json} {second : β → Json}
    (h : List.Forall₂ related items others)
    (each : ∀ a b, related a b → (first a).without names = (second b).without names) :
    itemsWithout names (items.map first) = itemsWithout names (others.map second) := by
  induction h with
  | nil => rfl
  | cons head _ ih =>
    rw [List.map_cons, List.map_cons, itemsWithout, itemsWithout, each _ _ head, ih]

end Json

def addressMembers : List String := ["endpointAddress", "href"]

theorem Descriptor.Corresponds.without_eq {addresses : Correspondence}
    (h : Descriptor.Corresponds addresses schema descriptor other)
    (shown : ∀ a b, addresses.shown a b → a = b) :
    descriptor.toJson.without addressMembers = other.toJson.without addressMembers := by
  cases h with
  | direct => rfl
  | proxied _ _ _ _ _ connector =>
    cases shown _ _ connector
    rfl

theorem Call.Corresponds.without_eq {addresses : Correspondence} {request other : Call}
    (h : request.Corresponds addresses other) (shown : ∀ a b, addresses.shown a b → a = b) :
    request.document?.map (Json.without addressMembers) =
      other.document?.map (Json.without addressMembers) := by
  cases h with
  | findPolicy | createPolicy | createDefinition | storePayload => rfl
  | queryCatalog _ provider filter =>
    cases shown _ _ provider
    rfl
  | createAsset _ asset =>
    cases asset.eq shown
    rfl
  | registerShell _ schema _ _ _ _ descriptors =>
    have items := Json.itemsWithout_map descriptors fun _ _ h => h.without_eq shown
    cases schema <;>
      simp [Call.document?, Shell.toJson, Json.without, Json.membersWithout, items]

-- ---------------------------------------------------------------------------
-- Two faulty partners
-- ---------------------------------------------------------------------------

/-- Configurations that test notifications and differ in the partner made
unreachable. -/
def Config.SameButFaulty (config other : Config) : Prop :=
  ∃ testing faulty, config.notifications = some testing ∧
    other = { config with notifications := some { testing with faultyBpn := faulty } }

def Config.faultyPartner? (config : Config) : Option String :=
  config.notifications.bind NotificationTesting.faultyBpn

theorem Config.isFaulty_iff {config : Config} :
    config.isFaulty bpn = true ↔ config.faultyPartner? = some bpn := by
  unfold isFaulty faultyPartner?
  cases config.notifications with
  | none => simp
  | some testing => simp

theorem Config.isFaulty_eq_false {config : Config} (h : config.faultyPartner? ≠ some bpn) :
    config.isFaulty bpn = false := by
  rw [Bool.eq_false_iff]
  exact mt isFaulty_iff.mp h

def Unreachable (address : String) : Prop := ∃ path, address = "http://idonotexist/" ++ path

def Correspondence.faults (config other : Config) (bpn : String) : Correspondence where
  called := Eq
  shown := Eq
  reached address otherAddress :=
    (config.faultyPartner? = some bpn → Unreachable address) ∧
    (other.faultyPartner? = some bpn → Unreachable otherAddress) ∧
    (config.faultyPartner? ≠ some bpn → other.faultyPartner? ≠ some bpn →
      address = otherAddress)

theorem Placement.unreachable_address (placement : Placement) (part submodelId : String) :
    Unreachable (placement.address .unreachable part submodelId) := by
  cases planes : placement.dataPlane with
  | none =>
    rw [address_direct_unreachable planes, String.append_assoc]
    exact ⟨_, rfl⟩
  | some plane =>
    rw [address_proxied_unreachable planes]
    exact ⟨"api/public/data/" ++ submodelId, by simp [← String.append_assoc]⟩

namespace Config.SameButFaulty

variable {config other : Config}

theorem corresponds (h : config.SameButFaulty other) (bpn : String) :
    config.Corresponds (.faults config other bpn) other := by
  obtain ⟨testing, faulty, hnotifications, rfl⟩ := h
  exact {
    submodelUrls := forall₂_eq rfl
    submodelUploadUrls := forall₂_eq rfl
    registryUrl := rfl
    registryUploadUrl := rfl
    connectorUrls := forall₂_eq rfl
    connectorUploadUrls := forall₂_eq rfl
    dataPlaneUrls := forall₂_eq rfl
    certificateUrl := by
      cases config.certificateUrl with
      | none => exact .none
      | some url => exact .some rfl
    notificationUrl := by rw [hnotifications]; rfl
    defaultPolicy := rfl
    bpnFilter := rfl
    schema := rfl
    allowedBpns := rfl }

theorem target_eq (h : config.SameButFaulty other) (honest : config.faultyPartner? ≠ some bpn)
    (otherHonest : other.faultyPartner? ≠ some bpn) (key : String) :
    config.target bpn key = other.target bpn key := by
  have service : config.certificateService? key = other.certificateService? key := by
    obtain ⟨_, _, -, rfl⟩ := h
    rfl
  unfold target
  rw [isFaulty_eq_false honest, isFaulty_eq_false otherHonest, service]

theorem reaches (h : config.SameButFaulty other) (record : Record) :
    (Correspondence.faults config other record.bpn).Reaches config other record := by
  intro placement otherPlacement placed key submodelId
  refine ⟨fun faulty => ?_, fun faulty => ?_, fun honest otherHonest => ?_⟩
  · rw [target_faulty (isFaulty_iff.mpr faulty)]
    exact placement.unreachable_address _ _
  · rw [target_faulty (isFaulty_iff.mpr faulty)]
    exact otherPlacement.unreachable_address _ _
  · rw [h.target_eq honest otherHonest]
    exact placed.address_eq (fun _ _ => id) _ _ _

theorem provision_eq (h : config.SameButFaulty other) (policies : Members Json) :
    other.provision policies = config.provision policies := by
  obtain ⟨testing, faulty, hnotifications, rfl⟩ := h
  unfold provision
  rw [hnotifications]
  rfl

end Config.SameButFaulty

-- ---------------------------------------------------------------------------
-- Pairs of calls
-- ---------------------------------------------------------------------------

/-- All descriptors of a shell send consumers to the host that does not exist. -/
def Document.SendsNowhere (schema : Schema) (shell : Json) : Prop :=
  ∃ descriptors, descriptors? shell = some descriptors ∧
    ∀ descriptor ∈ descriptors, ∃ address, address? schema descriptor = some address ∧
      Unreachable address

/-- What two calls made for one record may differ in: if either of the faulty
partners owns it, in the addresses of its shell. -/
structure Config.FaultPair (config other : Config) (record : Record) (first second : Exchange) :
    Prop where
  service : first.call.SameService second.call
  answer : first.answer = second.answer
  others : (∀ registry shell, first.call ≠ .registerShell registry shell) →
    first.call.document? = second.call.document?
  honest : config.faultyPartner? ≠ some record.bpn → other.faultyPartner? ≠ some record.bpn →
    first.call.document? = second.call.document?
  shells : first.call.document?.map (Json.without addressMembers) =
    second.call.document?.map (Json.without addressMembers)
  faulty : config.faultyPartner? = some record.bpn → ∀ registry shell,
    first.call = .registerShell registry shell → Document.SendsNowhere shell.schema shell.toJson
  otherFaulty : other.faultyPartner? = some record.bpn → ∀ registry shell,
    second.call = .registerShell registry shell → Document.SendsNowhere shell.schema shell.toJson

theorem Descriptor.Corresponds.addresses_reached {addresses : Correspondence}
    (h : Descriptor.Corresponds addresses schema descriptor other) :
    ∃ address otherAddress, addresses.reached address otherAddress ∧
      Document.address? schema descriptor.toJson = some address ∧
      Document.address? schema other.toJson = some otherAddress := by
  cases h with
  | direct _ _ _ reached => exact ⟨_, _, reached, rfl, rfl⟩
  | proxied _ _ _ _ reached => exact ⟨_, _, reached, rfl, rfl⟩

theorem Document.sendsNowhere {related : Descriptor → Descriptor → Prop} {shell : Shell}
    (h : List.Forall₂ related shell.descriptors others)
    (each : ∀ descriptor other, related descriptor other →
      ∃ address, address? schema descriptor.toJson = some address ∧ Unreachable address) :
    SendsNowhere schema shell.toJson := by
  refine ⟨_, descriptors?_toJson shell, fun json hjson => ?_⟩
  obtain ⟨descriptor, hd, rfl⟩ := List.mem_map.mp hjson
  have all := (List.forall₂_and_left _ _).mp (h.imp fun _ _ h => ⟨each _ _ h, h⟩)
  exact all.1 descriptor hd

theorem Call.Corresponds.document?_eq_or {addresses : Correspondence} {request other : Call}
    (h : request.Corresponds addresses other) (shown : ∀ a b, addresses.shown a b → a = b) :
    request.document? = other.document? ∨
      ∃ registry shell, request = .registerShell registry shell := by
  cases h with
  | findPolicy | createPolicy | createDefinition | storePayload => exact .inl rfl
  | queryCatalog _ provider filter =>
    cases shown _ _ provider
    exact .inl rfl
  | createAsset _ asset =>
    cases asset.eq shown
    exact .inl rfl
  | registerShell => exact .inr ⟨_, _, rfl⟩

theorem Exchange.Related.faultPair {config other : Config} {record : Record}
    (h : first.Related (Call.Corresponds (.faults config other record.bpn)) second) :
    config.FaultPair other record first second := by
  obtain ⟨hcall, answer⟩ := h
  refine {
    service := hcall.sameService fun _ _ => id
    answer
    others := fun noShell => ?others
    honest := fun honest otherHonest =>
      hcall.document?_eq (fun _ _ => id) fun _ _ reached => reached.2.2 honest otherHonest
    shells := hcall.without_eq fun _ _ => id
    faulty := fun faulty registry shell hshell => ?faulty
    otherFaulty := fun faulty registry shell hshell => ?otherFaulty }
  case others =>
    exact (hcall.document?_eq_or fun _ _ => id).resolve_right fun ⟨_, _, hshell⟩ =>
      noShell _ _ hshell
  case faulty =>
    rw [hshell] at hcall
    generalize second.call = request at hcall
    cases hcall with
    | registerShell _ _ _ _ _ _ descriptors =>
      refine Document.sendsNowhere descriptors fun descriptor other h => ?_
      obtain ⟨address, _, reached, haddress, -⟩ := h.addresses_reached
      exact ⟨address, haddress, reached.1 faulty⟩
  case otherFaulty =>
    rw [hshell] at hcall
    generalize first.call = request at hcall
    cases hcall with
    | registerShell _ _ _ _ _ _ descriptors =>
      refine Document.sendsNowhere descriptors.flip fun descriptor other h => ?_
      obtain ⟨_, address, reached, -, haddress⟩ := Descriptor.Corresponds.addresses_reached h
      exact ⟨address, haddress, reached.2.1 faulty⟩

-- ---------------------------------------------------------------------------
-- Record by record
-- ---------------------------------------------------------------------------

/-- Two runs for the items in order: for all of them if the runs are complete, and else as
far as they got. -/
inductive BothInTurn (pair : α → List Exchange → List Exchange → Prop) :
    Bool → List α → List Exchange → List Exchange → Prop
  | nil : BothInTurn pair true [] [] []
  | cut (items : List α) : BothInTurn pair false items [] []
  | cons (first : pair item calls others) (rest : BothInTurn pair complete items more otherMore) :
      BothInTurn pair complete (item :: items) (calls ++ more) (others ++ otherMore)

theorem BothInTurn.as_cut {pair : α → List Exchange → List Exchange → Prop}
    (h : BothInTurn pair complete items calls others) :
    BothInTurn pair false items calls others := by
  induction h with
  | nil => exact .cut []
  | cut items => exact .cut items
  | cons first _ ih => exact .cons first ih

def Config.Posts (config : Config) (record : Record) (calls : List Exchange) : Prop :=
  ∃ uploader events outcome, Uploader.Equipped uploader config ∧
    Trace (uploader.uploadRecord record) events outcome ∧
    events.filterMap Event.exchange? = calls

structure Config.RecordPair (config other : Config) (record : Record)
    (calls others : List Exchange) : Prop where
  posts : config.Posts record calls
  otherPosts : other.Posts record others
  pairs : List.Forall₂ (config.FaultPair other record) calls others

theorem Config.RecordPair.nowhere {config other : Config}
    (h : config.RecordPair other record calls others)
    (faulty : other.faultyPartner? = some record.bpn) :
    ∀ exchange ∈ others, ∀ registry shell, exchange.call = .registerShell registry shell →
      Document.SendsNowhere shell.schema shell.toJson := by
  have each := h.pairs.flip.imp fun exchange _ pair => And.intro (pair.otherFaulty faulty) pair
  exact ((List.forall₂_and_left _ _).mp each).1

namespace Config.SameButFaulty

variable {config other : Config} {uploader otherUploader : Uploader} {first second : Progress}

theorem run_uploadRecord (h : config.SameButFaulty other) (equipped : uploader.Equipped config)
    (otherEquipped : otherUploader.Equipped other)
    (assets : uploader.dataPlaneAssets = otherUploader.dataPlaneAssets)
    (answers : Nat → Except String Response) (identifier : Nat → String)
    (abreast : first.Abreast second) (record : Record) :
    RunsLinked Call.SameService Eq (fun _ => config.RecordPair other record) first second
      ((uploader.uploadRecord record).run (.inOrder answers identifier) first)
      ((otherUploader.uploadRecord record).run (.inOrder answers identifier) second) := by
  have corresponds := h.corresponds record.bpn
  have reaches := h.reaches record
  cases equipped.config_eq
  cases otherEquipped.config_eq
  obtain ⟨calls, others, hrun⟩ :=
    (Uploader.Corresponds.inStep_uploadRecord ⟨corresponds, assets⟩ reaches).run answers identifier
      abreast
  obtain ⟨events, htrace, hcalls⟩ := trace_of_exchanges hrun.exchanges
  obtain ⟨otherEvents, otherTrace, hothers⟩ := trace_of_exchanges hrun.otherExchanges
  exact ⟨calls, others, hrun.imp (fun _ _ h => h.sameService fun _ _ => id) fun _ _ => id,
    ⟨uploader, events, _, equipped, htrace, hcalls⟩,
    ⟨otherUploader, otherEvents, _, otherEquipped, otherTrace, hothers⟩,
    hrun.related.imp fun _ _ related => related.faultPair⟩

theorem run_uploadAll (h : config.SameButFaulty other) (equipped : uploader.Equipped config)
    (otherEquipped : otherUploader.Equipped other)
    (assets : uploader.dataPlaneAssets = otherUploader.dataPlaneAssets)
    (answers : Nat → Except String Response) (identifier : Nat → String)
    (abreast : first.Abreast second) (records : List Record) (totals : Totals) :
    RunsLinked Call.SameService Eq
      (BothInTurn (config.RecordPair other) · (config.due records)) first second
      ((uploader.uploadAll records totals).run (.inOrder answers identifier) first)
      ((otherUploader.uploadAll records totals).run (.inOrder answers identifier) second) := by
  induction records generalizing totals first second with
  | nil => exact ⟨[], [], .refl abreast (.ok rfl), .nil⟩
  | cons record records ih =>
    have corresponds := h.corresponds record.bpn
    unfold Uploader.uploadAll
    rw [equipped.config_eq, otherEquipped.config_eq, ← corresponds.admits_eq,
      ← corresponds.certified_eq, Config.due_cons]
    split
    · obtain ⟨calls, others, hrun, hpair⟩ := h.run_uploadRecord equipped otherEquipped assets
        answers identifier abreast (config.certified record)
      -- What follows is due only if this record ended, and else the runs are cut here.
      refine hrun.bind (.cut _) ?_ fun _ _ _ => .cons hpair
      rintro outcome _ later otherLater rfl habreast - -
      exact ih habreast (totals.add outcome)
    · exact ih abreast totals

theorem run_finish (h : config.SameButFaulty other) (equipped : uploader.Equipped config)
    (otherEquipped : otherUploader.Equipped other)
    (assets : uploader.dataPlaneAssets = otherUploader.dataPlaneAssets)
    (answers : Nat → Except String Response) (identifier : Nat → String)
    (abreast : first.Abreast second) (records : List Record) (report : Totals → Notice) :
    RunsLinked Call.SameService Eq
      (BothInTurn (config.RecordPair other) · (config.due records)) first second
      ((uploader.uploadAll records .zero >>= fun totals => do
        say (report totals)
        return totals).run (.inOrder answers identifier) first)
      ((otherUploader.uploadAll records .zero >>= fun totals => do
        say (report totals)
        return totals).run (.inOrder answers identifier) second) := by
  obtain ⟨calls, others, hrun, hturn⟩ := h.run_uploadAll equipped otherEquipped assets answers
    identifier abreast records .zero
  let uploaded := (uploader.uploadAll records .zero).run (.inOrder answers identifier) first
  have silent : ∀ (complete : Bool) (more otherMore : List Exchange),
      (complete = true → uploaded.1.isOk = true) ∧ more = [] ∧ otherMore = [] →
      BothInTurn (config.RecordPair other) complete (config.due records) (calls ++ more)
        (others ++ otherMore) := by
    rintro complete _ _ ⟨whole, rfl, rfl⟩
    rw [List.append_nil, List.append_nil]
    cases complete with
    | false => exact hturn.as_cut
    | true => exact whole rfl ▸ hturn
  -- The report calls nobody, so the uploads decide whether the runs are complete.
  refine hrun.bind ⟨fun h => (nomatch h), rfl, rfl⟩ ?_ silent
  intro totals _ later otherLater same habreast ended _
  cases same
  have reported := habreast.noted (report totals) (report totals)
  refine ⟨[], [], .silent (.refl reported (.ok rfl)) rfl rfl, fun _ => ?_, rfl, rfl⟩
  exact congrArg (fun run => run.1.isOk) ended

theorem inStep_opening (h : config.SameButFaulty other) (policies : Members Json) :
    InStep Eq (fun uploader otherUploader => uploader.Equipped config ∧
        otherUploader.Equipped other ∧ uploader.dataPlaneAssets = otherUploader.dataPlaneAssets)
      (config.provision policies >>= fun _ => Uploader.prepare config)
      (other.provision policies >>= fun _ => Uploader.prepare other) := by
  have planes : config.dataPlaneUrls.length = other.dataPlaneUrls.length :=
    (h.corresponds "").dataPlaneUrls.length_eq
  rw [h.provision_eq]
  exact .bind_eq (.refl (fun _ => rfl) _) fun _ => inStep_prepare planes

end Config.SameButFaulty

theorem Call.SameService.of_eq (request other : Call) (h : request = other) :
    request.SameService other := h ▸ ⟨rfl, rfl, rfl⟩

theorem Exchange.eq_of_related {calls others : List Exchange}
    (h : List.Forall₂ (Exchange.Related Eq) calls others) : calls = others := by
  rw [← List.forall₂_eq_eq_eq]
  refine h.imp fun ⟨call, answer⟩ ⟨_, _⟩ related => ?_
  obtain ⟨rfl, rfl⟩ := related
  rfl

theorem Plan.SameEnd.message?_eq {result otherResult : Except Failure α}
    (h : SameEnd Call.SameService Eq result otherResult) :
    result.mapError Failure.message? = otherResult.mapError Failure.message? := by
  cases h with
  | ok heq =>
    cases heq
    rfl
  | unanswered service reason =>
    simp only [Except.mapError, Failure.message?, service.method, service.url]
  | stuck => rfl

theorem exchanges_opening (world : World) (config : Config) (policies : Members Json)
    (progress : Progress) :
    ((config.provision policies >>= fun _ => Uploader.prepare config).run world
      progress).2.exchanges = ((config.provision policies).run world progress).2.exchanges := by
  rw [run_bind]
  split
  · rename_i provisioned hrun
    rw [hrun]
    obtain ⟨events, hlater, htrace, -⟩ := run_trace world (Uploader.prepare config) provisioned
    rw [hlater, Progress.exchanges_recordAll]
    cases hended : ((Uploader.prepare config).run world provisioned).1.toOption with
    | none =>
      rw [hended] at htrace
      exact absurd htrace Uploader.not_trace_prepare_none
    | some uploader =>
      rw [hended] at htrace
      obtain ⟨-, -, -, silent⟩ := Uploader.trace_prepare htrace
      rw [silent, List.append_nil]
  · rename_i hrun
    rw [hrun]

theorem seed_eq (config : Config) (fixture : Fixture) :
    seed config fixture =
      (config.provision fixture.policies >>= fun _ => Uploader.prepare config) >>= fun uploader =>
        uploader.uploadAll fixture.records .zero >>= fun totals => do
          say (.finished totals.records totals.submodels totals.shells)
          return totals := by
  unfold seed
  rw [LawfulMonad.bind_assoc]

section
variable {config other : Config} {result otherResult : Except Failure Totals}
  {later otherLater : Progress}

/-- Whatever is answered, and wherever the runs end. What is provisioned is the same; after
that come the calls for the records that are due, which differ at most in where the shells of
an unreachable partner send consumers. -/
theorem seed_faults (same : config.SameButFaulty other) (fixture : Fixture)
    (answers : Nat → Except String Response) (identifier : Nat → String)
    (run : (seed config fixture).run (.inOrder answers identifier) (.start .initial) =
      (result, later))
    (otherRun : (seed other fixture).run (.inOrder answers identifier) (.start .initial) =
      (otherResult, otherLater)) :
    result.mapError Failure.message? = otherResult.mapError Failure.message? ∧
    List.Forall₂ (Exchange.Related Call.SameService) later.exchanges otherLater.exchanges ∧
    ∃ provision provisioned calls others,
      (config.provision fixture.policies).run (.inOrder answers identifier) (.start .initial) =
        (provision, provisioned) ∧
      (other.provision fixture.policies).run (.inOrder answers identifier) (.start .initial) =
        (provision, provisioned) ∧
      later.exchanges = provisioned.exchanges ++ calls ∧
      otherLater.exchanges = provisioned.exchanges ++ others ∧
      BothInTurn (config.RecordPair other) result.isOk (config.due fixture.records) calls
        others := by
  obtain ⟨opening, otherOpening, hopening⟩ :=
    (same.inStep_opening fixture.policies).run answers identifier (.refl (.start .initial))
  obtain rfl := Exchange.eq_of_related hopening.related
  have services := hopening.imp Call.SameService.of_eq fun _ _ => id
  -- Both runs have one opening, and behind it the calls for the records.
  have linked : RunsLinked Call.SameService Eq (fun complete all otherAll => ∃ calls others,
        all = opening ++ calls ∧ otherAll = opening ++ others ∧
        BothInTurn (config.RecordPair other) complete (config.due fixture.records) calls others)
      (.start .initial) (.start .initial) (result, later) (otherResult, otherLater) := by
    let turns : Bool → List Exchange → List Exchange → Prop :=
      (BothInTurn (config.RecordPair other) · (config.due fixture.records))
    have halted : turns false [] [] := .cut _
    rw [← run, ← otherRun, seed_eq, seed_eq]
    refine services.bind halted ?records ?append
    case records =>
      intro uploader otherUploader _ _ prepared abreast _ _
      obtain ⟨equipped, otherEquipped, assets⟩ := prepared
      exact same.run_finish equipped otherEquipped assets answers identifier abreast _ _
    case append =>
      intro complete rest otherRest turn
      exact ⟨rest, otherRest, rfl, rfl, turn⟩
  obtain ⟨_, _, hrun, calls, others, rfl, rfl, turn⟩ := linked
  have hprovision : opening = ((config.provision fixture.policies).run
      (.inOrder answers identifier) (.start .initial)).2.exchanges :=
    (hopening.exchanges.symm.trans (exchanges_opening _ config _ _))
  refine ⟨hrun.ends.message?_eq, ?_, _, _, calls, others, rfl, ?_, ?_, ?_, turn⟩
  · rw [hrun.exchanges, hrun.otherExchanges]
    exact hrun.related
  · rw [same.provision_eq]
  · rw [← hprovision]
    exact hrun.exchanges
  · rw [← hprovision]
    exact hrun.otherExchanges

end

namespace Sample

def faultySettings : Settings := { testingSettings with faultyBpn := some "BPNL1" }

def faultyConfig : Config :=
  { config with notifications := some ⟨"http://notify", some "BPNL1"⟩ }

theorem faultyConfig_same : testingConfig.SameButFaulty faultyConfig :=
  ⟨⟨"http://notify", none⟩, some "BPNL1", rfl, rfl⟩

def fixedWorld : World := .inOrder (fun _ => .ok ⟨200, ""⟩) (Identifier.stream 0)

end Sample

/-- Both runs are complete, and the shell of the partner who is unreachable in one of them
sends consumers nowhere. -/
theorem seed_faults_sample : ∃ totals later otherLater provisioned calls others,
    Sample.faultySettings.validate = .ok Sample.faultyConfig ∧
    Sample.faultyConfig.faultyPartner? = some Sample.record.bpn ∧
    (seed Sample.testingConfig ⟨[Sample.record], defaultPolicies⟩).run Sample.fixedWorld
      (.start .initial) = (.ok totals, later) ∧
    (seed Sample.faultyConfig ⟨[Sample.record], defaultPolicies⟩).run Sample.fixedWorld
      (.start .initial) = (.ok totals, otherLater) ∧
    List.Forall₂ (Exchange.Related Call.SameService) later.exchanges otherLater.exchanges ∧
    later.exchanges = provisioned ++ calls ∧
    otherLater.exchanges = provisioned ++ others ∧
    BothInTurn (Sample.testingConfig.RecordPair Sample.faultyConfig) true
      (Sample.testingConfig.due [Sample.record]) calls others ∧
    ∃ registry shell answer, others.getLast? = some ⟨.registerShell registry shell, answer⟩ ∧
      shell.descriptors.length = 2 ∧ Document.SendsNowhere shell.schema shell.toJson := by
  have run : (seed Sample.testingConfig ⟨[Sample.record], defaultPolicies⟩).run Sample.fixedWorld
      (.start .initial) = (.ok ⟨1, 2, 1⟩, _) := rfl
  obtain ⟨otherLater, otherRun, registry, shell, answer, last, two⟩ :
      ∃ otherLater, (seed Sample.faultyConfig ⟨[Sample.record], defaultPolicies⟩).run
          Sample.fixedWorld (.start .initial) = (.ok ⟨1, 2, 1⟩, otherLater) ∧
        ∃ registry shell answer,
          otherLater.exchanges.getLast? = some ⟨.registerShell registry shell, answer⟩ ∧
          shell.descriptors.length = 2 := ⟨_, rfl, _, _, _, rfl, rfl⟩
  obtain ⟨-, related, provision, provisioned, calls, others, hprovision, -, hcalls, hothers,
    turn⟩ := seed_faults Sample.faultyConfig_same ⟨[Sample.record], defaultPolicies⟩ _ _ run
      otherRun
  refine ⟨_, _, _, _, calls, others, rfl, rfl, run, otherRun, related, hcalls, hothers, turn, ?_⟩
  obtain ⟨connector, definition, offerAnswer, offered⟩ : ∃ connector definition offerAnswer,
      provisioned.exchanges.getLast? =
        some ⟨.createDefinition connector definition, offerAnswer⟩ := by
    rw [← (Prod.mk.inj hprovision).2]
    exact ⟨_, _, _, rfl⟩
  rw [hothers, List.getLast?_append, offered] at last
  -- Provisioning ends with an offer, so the last call is one for the record.
  cases ended : others.getLast? with
  | none => simp [ended] at last
  | some exchange =>
    obtain rfl : exchange = _ := by simpa [ended] using last
    refine ⟨registry, shell, answer, rfl, two, ?_⟩
    cases turn with
    | cons first none =>
      cases none
      rw [List.append_nil] at ended
      exact first.nowhere rfl _ (List.mem_of_getLast? ended) registry shell rfl

end Dataspace
