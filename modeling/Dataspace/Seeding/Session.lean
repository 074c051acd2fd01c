import Dataspace.Plan.Run
import Dataspace.Seeding.Upload

/-!
# Seeding a dataspace

A whole run: provisioning, then every record that the configuration admits, in
the order of the fixture. Only a call without an answer ends a run early.

A session is one uploader that lives through several steps. Rotation and
identifiers go on from step to step, also after a step that ended early.
-/

namespace Dataspace

-- ---------------------------------------------------------------------------
-- Runs
-- ---------------------------------------------------------------------------

open Plan

structure Totals where
  records : Nat
  submodels : Nat
  shells : Nat
  deriving DecidableEq, Repr

namespace Totals

def zero : Totals := ⟨0, 0, 0⟩

def add (totals : Totals) (outcome : RecordOutcome) : Totals where
  records := totals.records + 1
  submodels := totals.submodels + outcome.submodels
  shells := totals.shells + if outcome.shellUploaded then 1 else 0

end Totals

namespace Config

/-- With a certificate service, parts that have children are certified. -/
def certified (config : Config) (record : Record) : Record :=
  if config.certificateUrl.isSome then record.injectCertificate else record

def provision (config : Config) (policies : Members Json) : Plan Unit := do
  config.ensurePolicies policies
  config.ensureRegistry
  match config.notifications with
  | some testing => config.ensureNotifications testing.baseUrl
  | none => return ()

end Config

/-- Records that are not admitted leave no trace. -/
def Uploader.uploadAll (uploader : Uploader) : List Record → Totals → Plan Totals
  | [], totals => return totals
  | record :: rest, totals =>
    if uploader.config.admits record then do
      let outcome ← uploader.uploadRecord (uploader.config.certified record)
      uploader.uploadAll rest (totals.add outcome)
    else uploader.uploadAll rest totals

def seed (config : Config) (fixture : Fixture) : Plan Totals := do
  config.provision fixture.policies
  let uploader ← Uploader.prepare config
  let totals ← uploader.uploadAll fixture.records .zero
  say (.finished totals.records totals.submodels totals.shells)
  return totals

-- ---------------------------------------------------------------------------
-- Sessions
-- ---------------------------------------------------------------------------

inductive Step
  | ensurePolicies (policies : Members Json)
  | ensureRegistry
  | ensureNotifications (baseUrl : String)
  | upload (record : Record)

inductive StepResult
  | done
  | uploaded (outcome : RecordOutcome)

namespace Step

def plan (uploader : Uploader) : Step → Plan StepResult
  | .ensurePolicies policies => do
    uploader.config.ensurePolicies policies
    return .done
  | .ensureRegistry => do
    uploader.config.ensureRegistry
    return .done
  | .ensureNotifications baseUrl => do
    uploader.config.ensureNotifications baseUrl
    return .done
  | .upload record => do
    let outcome ← uploader.uploadRecord record
    return .uploaded outcome

end Step

structure Session where
  uploader : Uploader
  progress : Progress

namespace Session

/-- Preparing the uploader takes identifiers but no slot. -/
def start? (world : World) (config : Config) (rotation : Rotation) : Option Session :=
  match (Uploader.prepare config).run world (Progress.start rotation) with
  | (.ok uploader, progress) => some ⟨uploader, progress⟩
  | (.error _, _) => none

def step (world : World) (session : Session) (step : Step) :
    Except Failure StepResult × Session :=
  let (result, progress) := (step.plan session.uploader).run world session.progress
  (result, { session with progress })

/-- The events of a step: what came after `before`. -/
def eventsSince (session : Session) (before : Progress) : List Event :=
  session.progress.history.drop before.history.length

end Session

end Dataspace
