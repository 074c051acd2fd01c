import Dataspace.Proofs.Seeding.Records
import Dataspace.Proofs.Settings.Validation
import Dataspace.Seeding.Session

/-!
# Runs with a filter

Apart from the choice of records nothing in a run looks at the filter, so a run
with a filter is, step by step, the run without one over the records that the
filter keeps (`seed_eq_unfiltered`). A record that it does not keep might as well
not stand in the fixture (`seed_filtered`).
-/

namespace Dataspace

open Plan

/-- Only the records of these partners, in their order. Without partners all
records are kept. -/
def Fixture.keptFor (partners : List String) (fixture : Fixture) : Fixture where
  records := fixture.records.filter fun record => partners = [] ∨ record.bpn ∈ partners
  policies := fixture.policies

namespace Config

def unfiltered (config : Config) : Config := { config with bpnFilter := [] }

variable {config : Config} {record : Record}

theorem admits_iff : config.admits record = true ↔
    config.bpnFilter = [] ∨ record.bpn ∈ config.bpnFilter := by
  simp [admits, Record.belongsTo]

theorem admits_unfiltered : config.unfiltered.admits record = true :=
  admits_iff.mpr (.inl rfl)

theorem records_keptFor (config : Config) (fixture : Fixture) :
    (fixture.keptFor config.bpnFilter).records = fixture.records.filter config.admits := by
  refine List.filter_congr fun record _ => ?_
  rw [Bool.eq_iff_iff, decide_eq_true_iff, admits_iff]

end Config

-- ---------------------------------------------------------------------------
-- The same plan
-- ---------------------------------------------------------------------------

namespace Uploader

def unfiltered (uploader : Uploader) : Uploader :=
  { uploader with config := uploader.config.unfiltered }

theorem uploadRecord_unfiltered (uploader : Uploader) (record : Record) :
    uploader.unfiltered.uploadRecord record = uploader.uploadRecord record := rfl

theorem uploadAll_eq_unfiltered (uploader : Uploader) (records : List Record) (totals : Totals) :
    uploader.uploadAll records totals =
      uploader.unfiltered.uploadAll (records.filter uploader.config.admits) totals := by
  induction records generalizing totals with
  | nil => rfl
  | cons record records ih =>
    rw [uploadAll, List.filter_cons]
    split
    · have admitted : uploader.unfiltered.config.admits record = true := Config.admits_unfiltered
      rw [uploadAll, if_pos admitted, uploadRecord_unfiltered]
      exact bind_congr fun outcome => ih _
    · exact ih totals

def mintAssets (dataPlaneUrls : List String) : Plan (List String) := do
  let ids ← dataPlaneUrls.mapM fun _ => freshId
  if ids.isEmpty then return ids
  else do
    say (.dataPlaneAssets ids)
    return ids

theorem prepare_eq (config : Config) :
    prepare config = mintAssets config.dataPlaneUrls >>= fun ids => pure ⟨config, ids⟩ := by
  unfold prepare mintAssets
  rw [LawfulMonad.bind_assoc]
  refine bind_congr fun ids => ?_
  split
  · rfl
  · rfl

end Uploader

theorem seed_eq_unfiltered (config : Config) (fixture : Fixture) :
    seed config fixture = seed config.unfiltered (fixture.keptFor config.bpnFilter) := by
  unfold seed
  rw [Uploader.prepare_eq, Uploader.prepare_eq, LawfulMonad.bind_assoc, LawfulMonad.bind_assoc]
  refine bind_congr fun _ => bind_congr fun ids => ?_
  rw [config.records_keptFor]
  exact congrArg (· >>= _) (Uploader.uploadAll_eq_unfiltered ⟨config, ids⟩ fixture.records .zero)

-- ---------------------------------------------------------------------------
-- Runs
-- ---------------------------------------------------------------------------

namespace Settings

variable {settings : Settings} {config : Config}

theorem validate_bpnFilter (valid : settings.validate = .ok config) :
    config.bpnFilter = settings.bpns := by
  obtain ⟨-, rfl⟩ := validate_ok.mp valid
  rfl

theorem validate_unfiltered (valid : settings.validate = .ok config) :
    { settings with bpns := [] }.validate = .ok config.unfiltered := by
  obtain ⟨hall, rfl⟩ := validate_ok.mp valid
  refine validate_ok.mpr ⟨fun condition => ?_, rfl⟩
  -- No condition is about the filter.
  have holds := hall condition
  cases condition <;> exact holds

end Settings

theorem Fixture.keptFor_of_not_mem {partners : List String} {fixture : Fixture} {record : Record}
    (split : fixture.records = before ++ record :: after) (some : partners ≠ [])
    (other : record.bpn ∉ partners) :
    fixture.keptFor partners = { fixture with records := before ++ after }.keptFor partners := by
  simp [keptFor, split, some, other]

/-- Calls, notices, slots, identifiers and the result are those of the run without
a filter over the records that the filter keeps. A record that it does not keep
leaves no trace. -/
theorem seed_filtered {settings : Settings} {config : Config}
    (valid : settings.validate = .ok config) (fixture : Fixture) (world : World)
    (progress : Progress) :
    (∃ unfiltered, { settings with bpns := [] }.validate = .ok unfiltered ∧
      (seed config fixture).run world progress =
        (seed unfiltered (fixture.keptFor settings.bpns)).run world progress) ∧
    ∀ before record after, fixture.records = before ++ record :: after →
      settings.bpns ≠ [] → record.bpn ∉ settings.bpns →
      (seed config fixture).run world progress =
        (seed config { fixture with records := before ++ after }).run world progress := by
  refine ⟨⟨config.unfiltered, Settings.validate_unfiltered valid, ?_⟩, ?_⟩
  · rw [seed_eq_unfiltered config, Settings.validate_bpnFilter valid]
  · intro before record after split some other
    rw [seed_eq_unfiltered config, seed_eq_unfiltered config, Settings.validate_bpnFilter valid,
      Fixture.keptFor_of_not_mem split some other]

namespace Sample

def filteringSettings : Settings := { settings with bpns := ["BPNL1"] }

def filteringConfig : Config := { config with bpnFilter := ["BPNL1"] }

def foreignRecord : Record := { record with bpn := "BPNL2" }

end Sample

/-- The first of two records is not kept. -/
theorem seed_filtered_sample :
    (seed Sample.filteringConfig ⟨[Sample.foreignRecord, Sample.record], defaultPolicies⟩).run
        Sample.world (.start .initial) =
      (seed Sample.config ⟨[Sample.record], defaultPolicies⟩).run Sample.world
        (.start .initial) ∧
    (seed Sample.filteringConfig ⟨[Sample.foreignRecord, Sample.record], defaultPolicies⟩).run
        Sample.world (.start .initial) =
      (seed Sample.filteringConfig ⟨[Sample.record], defaultPolicies⟩).run Sample.world
        (.start .initial) := by
  have valid : Sample.filteringSettings.validate = .ok Sample.filteringConfig := rfl
  obtain ⟨⟨unfiltered, hunfiltered, hkept⟩, hwithout⟩ := seed_filtered valid
    ⟨[Sample.foreignRecord, Sample.record], defaultPolicies⟩ Sample.world (.start .initial)
  cases Except.ok.inj (hunfiltered.symm.trans Sample.settings_valid)
  exact ⟨hkept, hwithout [] Sample.foreignRecord [Sample.record] rfl (by decide) (by decide)⟩

end Dataspace
