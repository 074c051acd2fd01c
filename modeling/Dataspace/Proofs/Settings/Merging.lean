import Dataspace.Proofs.Settings.Setting

/-!
# Merging layers

Layers are merged into one table, name by name. If no name of a layer reaches
into a setting, and none names one twice, then what the table holds for a
setting afterwards is what the layer holds for it, or else what it held before
(`merge_layer`). Merging itself fails in indices only (`mergeInto?_isSome`).
-/

namespace Dataspace

theorem Setting.lower_name (setting : Setting) : Text.lower setting.name = setting.name := by
  cases setting <;> decide

theorem Setting.tokens?_name (setting : Setting) :
    SettingStep.scanner.tokens? setting.name = some [.entry setting.name] := by
  cases setting <;> decide

-- ---------------------------------------------------------------------------
-- Names and what they reach
-- ---------------------------------------------------------------------------

namespace SettingStep

theorem step?_name {part : List Char} {next : Lexeme} {steps : List SettingStep}
    (h : Lexeme.step? c (.name part) = some (next, steps)) :
    (next = .name (c :: part) ∧ steps = []) ∨ ∃ name, steps = [.entry name] := by
  have entered : ∀ (goOn : Lexeme), (Lexeme.name part).finish?.map (fun steps => (goOn, steps)) =
      some (next, steps) → ∃ name, steps = [.entry name] := by
    intro goOn hmap
    cases part with
    | nil => cases hmap
    | cons d part =>
      cases hmap
      exact ⟨_, rfl⟩
  simp only [Lexeme.step?] at h
  split at h
  · cases h
    exact .inl ⟨rfl, rfl⟩
  · split at h
    · exact .inr (entered _ h)
    · split at h
      · exact .inr (entered _ h)
      · cases h

theorem scan?_name {part text : List Char} {steps : List SettingStep}
    (h : scanner.scan? (.name part) [] text = some steps) :
    ∃ name rest, steps = .entry name :: rest := by
  induction text generalizing part with
  | nil =>
    obtain ⟨last, hlast, rfl⟩ := Option.map_eq_some_iff.mp h
    cases part with
    | nil => cases hlast
    | cons c part =>
      cases hlast
      exact ⟨_, _, rfl⟩
  | cons c text ih =>
    rw [Text.Scanner.scan?] at h
    cases hstep : scanner.step? c (.name part) with
    | none =>
      rw [hstep] at h
      cases h
    | some step =>
      obtain ⟨next, new⟩ := step
      rw [hstep] at h
      rcases step?_name hstep with ⟨rfl, rfl⟩ | ⟨name, rfl⟩
      · exact ih h
      · have hhead := Text.Scanner.head?_of_scan? scanner h (List.cons_ne_nil _ _)
        obtain ⟨rest, hrest⟩ := List.head?_eq_some_iff.mp hhead
        exact ⟨name, rest, hrest⟩

theorem ofName_entry (name : String) : ∃ n rest, ofName name = .entry n :: rest := by
  simp only [ofName]
  cases h : scanner.tokens? (Text.lower name) with
  | none => exact ⟨_, _, rfl⟩
  | some steps => exact scan?_name h

theorem ofName_setting {setting : Setting} (h : Text.lower name = setting.name) :
    ofName name = [.entry setting.name] := by
  simp only [ofName, h, setting.tokens?_name, Option.getD_some]

/-- The name under which a step enters something; case does not count. -/
def key? : SettingStep → Option String
  | .entry name => some (Text.lower name)
  | .item _ => none

def root? (name : String) : Option String := (ofName name).head?.bind key?

/-- A name does not reach into a setting: if its path begins with one, it is the
name of that setting. -/
def Whole (name : String) : Prop :=
  ∀ setting : Setting, root? name = some setting.name → Text.lower name = setting.name

instance : DecidablePred Whole := fun name =>
  inferInstanceAs (Decidable (∀ setting : Setting, root? name = some setting.name →
    Text.lower name = setting.name))

theorem root?_name (setting : Setting) : root? setting.name = some setting.name := by
  rw [root?, ofName_setting setting.lower_name]
  exact congrArg some setting.lower_name

theorem whole_name (setting : Setting) : Whole setting.name := by
  intro other root
  rw [setting.lower_name]
  exact Option.some.inj ((root?_name setting).symm.trans root)

def Forward : SettingStep → Prop
  | .entry _ => True
  | .item index => 0 ≤ index

instance : DecidablePred Forward := fun step =>
  match step with
  | .entry _ => inferInstanceAs (Decidable True)
  | .item index => inferInstanceAs (Decidable (0 ≤ index))

end SettingStep

-- ---------------------------------------------------------------------------
-- Putting one value
-- ---------------------------------------------------------------------------

namespace SettingValue

/-- What a table holds once `new` stands at a name: at the name of a setting it
is the setting's, elsewhere it is nothing to the settings. -/
theorem put?_whole {new : SettingValue} {entries : List (String × SettingValue)}
    (whole : SettingStep.Whole name)
    (h : new.put? (SettingStep.ofName name) (.table entries) = some root) :
    ∃ later, root = .table later ∧ ∀ setting : Setting,
      Members.find? setting.name later =
        if Text.lower name = setting.name then
          some (new.place ((Members.find? setting.name entries).getD (.table [])))
        else Members.find? setting.name entries := by
  obtain ⟨n, rest, hsteps⟩ := SettingStep.ofName_entry name
  have setting_iff : ∀ setting : Setting,
      Text.lower name = setting.name ↔ Text.lower n = setting.name := by
    intro setting
    constructor
    · intro hname
      have hone := hsteps.symm.trans (SettingStep.ofName_setting hname)
      obtain rfl := SettingStep.entry.inj (List.cons.inj hone).1
      exact setting.lower_name
    · intro hn
      exact whole setting (by simp [SettingStep.root?, hsteps, SettingStep.key?, hn])
  rw [hsteps] at h
  cases rest with
  | nil =>
    cases h
    refine ⟨_, rfl, fun setting => ?_⟩
    rw [Members.find?_assign]
    by_cases hn : Text.lower n = setting.name
    · rw [if_pos hn.symm, if_pos ((setting_iff setting).mpr hn), hn]
      rfl
    · rw [if_neg (Ne.symm hn), if_neg (mt (setting_iff setting).mp hn)]
      rfl
  -- A longer path begins at a name that is no setting's.
  | cons step rest =>
    obtain ⟨inner, -, hroot⟩ := Option.bind_eq_some_iff.mp h
    cases hroot
    refine ⟨_, rfl, fun setting => ?_⟩
    have hname : Text.lower name ≠ setting.name := by
      intro hname
      have hone := hsteps.symm.trans (SettingStep.ofName_setting hname)
      exact absurd (List.cons.inj hone).2 (List.cons_ne_nil _ _)
    have hn : setting.name ≠ n := by
      rintro rfl
      exact hname ((setting_iff setting).mpr setting.lower_name)
    rw [Members.find?_assign, if_neg hn, if_neg hname]
    rfl

theorem put?_isSome (new : SettingValue) {steps : List SettingStep}
    (forward : ∀ step ∈ steps, step.Forward) (old : SettingValue) :
    (new.put? steps old).isSome := by
  induction steps generalizing old with
  | nil => rfl
  | cons step rest ih =>
    have hrest : ∀ inner, (new.put? rest inner).isSome :=
      ih fun step hmem => forward step (.tail _ hmem)
    cases step with
    | entry name =>
      cases rest with
      | nil => rfl
      | cons step rest =>
        obtain ⟨inner, hinner⟩ := Option.isSome_iff_exists.mp
          (hrest ((Members.find? name old.entries).getD .null))
        simp only [put?, hinner]
        rfl
    | item index =>
      have low : 0 ≤ index := forward _ (.head _)
      have hposition : SettingStep.position? index old.items.length = some index.toNat := if_pos low
      obtain ⟨inner, hinner⟩ := Option.isSome_iff_exists.mp
        (hrest (old.items[index.toNat]?.getD .null))
      simp only [put?, hposition, Option.bind_eq_bind, Option.bind_some, hinner]
      rfl

theorem placeAll_table (entries old : List (String × SettingValue)) :
    ∃ later, placeAll entries (.table old) = .table later := by
  induction entries generalizing old with
  | nil => exact ⟨old, rfl⟩
  | cons entry rest ih => exact ih _

theorem place_eq {value : SettingValue} (plain : ∀ entries, value ≠ .table entries)
    (old : SettingValue) : value.place old = value := by
  cases value with
  | table entries => exact absurd rfl (plain entries)
  | _ => rfl

end SettingValue

theorem SettingKind.read?_place (kind : SettingKind) (value : SettingValue) :
    kind.read? (value.place (.table [])) = kind.read? value := by
  cases value with
  | table entries =>
    obtain ⟨later, hlater⟩ := SettingValue.placeAll_table entries []
    rw [SettingValue.place, hlater]
    cases kind <;> rfl
  | _ => rfl

-- ---------------------------------------------------------------------------
-- Putting a layer
-- ---------------------------------------------------------------------------

namespace Layer

def names (layer : Layer) : List String := layer.map fun entry => Text.lower entry.1

def value? (setting : Setting) : Layer → Option SettingValue
  | [] => none
  | (name, value) :: rest =>
    if Text.lower name = setting.name then some value else value? setting rest

/-- No name reaches into a setting, and no two are of one setting. -/
structure Flat (layer : Layer) : Prop where
  whole : ∀ entry ∈ layer, SettingStep.Whole entry.1
  once : ∀ setting : Setting, (names layer).count setting.name ≤ 1

theorem value?_eq_none {layer : Layer} {setting : Setting}
    (absent : setting.name ∉ names layer) : value? setting layer = none := by
  induction layer with
  | nil => rfl
  | cons entry rest ih =>
    rw [names, List.map_cons, List.mem_cons, not_or] at absent
    rw [value?, if_neg (Ne.symm absent.1)]
    exact ih absent.2

theorem Flat.tail {entry : String × SettingValue} {rest : Layer} (flat : Flat (entry :: rest)) :
    Flat rest :=
  ⟨fun other hmem => flat.whole other (.tail _ hmem),
    fun setting => Nat.le_trans (List.count_le_count_cons ..) (flat.once setting)⟩

theorem Flat.perm {layer other : Layer} (flat : layer.Flat) (h : other.Perm layer) :
    other.Flat := by
  refine ⟨fun entry hmem => flat.whole entry (h.mem_iff.mp hmem), fun setting => ?_⟩
  have count : (names other).count setting.name = (names layer).count setting.name :=
    (h.map _).count_eq _
  rw [count]
  exact flat.once setting

theorem Flat.absent {name : String} {value : SettingValue} {rest : Layer} {setting : Setting}
    (flat : Flat ((name, value) :: rest)) (h : Text.lower name = setting.name) :
    setting.name ∉ names rest := by
  have once := flat.once setting
  rw [names, List.map_cons, h, List.count_cons_self] at once
  exact List.count_eq_zero.mp (by unfold names; omega)

theorem Flat.value?_eq_some_iff {layer : Layer} {setting : Setting} (flat : layer.Flat) :
    layer.value? setting = some value ↔
      ∃ name, Text.lower name = setting.name ∧ (name, value) ∈ layer := by
  induction layer with
  | nil =>
    constructor
    · intro h
      cases h
    · rintro ⟨_, -, hmem⟩
      cases hmem
  | cons entry rest ih =>
    obtain ⟨name, first⟩ := entry
    rw [value?]
    by_cases hname : Text.lower name = setting.name
    · rw [if_pos hname]
      constructor
      · intro h
        cases h
        exact ⟨name, hname, .head _⟩
      · rintro ⟨other, hother, hmem⟩
        rcases List.mem_cons.mp hmem with hsame | hrest
        · cases hsame
          rfl
        -- A second entry of the setting, which a flat layer does not have.
        · have again : setting.name ∈ names rest := by
            rw [← hother]
            exact List.mem_map_of_mem hrest
          exact absurd again (flat.absent hname)
    · rw [if_neg hname, ih flat.tail]
      constructor
      · rintro ⟨other, hother, hmem⟩
        exact ⟨other, hother, .tail _ hmem⟩
      · rintro ⟨other, hother, hmem⟩
        rcases List.mem_cons.mp hmem with hsame | hrest
        · cases hsame
          exact absurd hother hname
        · exact ⟨other, hother, hrest⟩

theorem Flat.value?_perm {layer other : Layer} (flat : layer.Flat) (h : other.Perm layer)
    (setting : Setting) : other.value? setting = layer.value? setting := by
  apply Option.ext
  intro value
  rw [(flat.perm h).value?_eq_some_iff, flat.value?_eq_some_iff]
  simp only [h.mem_iff]

end Layer

namespace Layers

def mergeInto? (root : SettingValue) (layer : Layer) : Option SettingValue :=
  layer.foldlM (fun root entry => entry.2.put? (SettingStep.ofName entry.1) root) root

theorem mergeInto?_cons (root : SettingValue) (entry : String × SettingValue) (rest : Layer) :
    mergeInto? root (entry :: rest) =
      (entry.2.put? (SettingStep.ofName entry.1) root).bind fun next => mergeInto? next rest := by
  rw [mergeInto?, List.foldlM_cons]
  rfl

theorem merge?_append (first second : Layer) :
    merge? (first ++ second) = (mergeInto? (.table []) first).bind fun root =>
      mergeInto? root second :=
  List.foldlM_append

theorem merge_layer {layer : Layer} (flat : layer.Flat) {entries : List (String × SettingValue)}
    (h : mergeInto? (.table entries) layer = some root) :
    ∃ later, root = .table later ∧ ∀ setting : Setting,
      Members.find? setting.name later =
        ((layer.value? setting).map fun value =>
          value.place ((Members.find? setting.name entries).getD (.table []))).or
            (Members.find? setting.name entries) := by
  induction layer generalizing entries with
  | nil =>
    cases h
    exact ⟨entries, rfl, fun _ => rfl⟩
  | cons entry rest ih =>
    obtain ⟨name, value⟩ := entry
    rw [mergeInto?_cons] at h
    obtain ⟨middle, hput, hrest⟩ := Option.bind_eq_some_iff.mp h
    obtain ⟨held, rfl, hheld⟩ := SettingValue.put?_whole (flat.whole _ (.head _)) hput
    obtain ⟨later, rfl, hlater⟩ := ih flat.tail hrest
    -- The rest does not name the setting again, so it keeps what this entry has put.
    refine ⟨later, rfl, fun setting => ?_⟩
    rw [hlater, hheld, Layer.value?]
    by_cases hname : Text.lower name = setting.name
    · rw [Layer.value?_eq_none (flat.absent hname), if_pos hname, if_pos hname]
      rfl
    · rw [if_neg hname, if_neg hname]

theorem mergeInto?_isSome {layer : Layer}
    (forward : ∀ entry ∈ layer, ∀ step ∈ SettingStep.ofName entry.1, step.Forward)
    (root : SettingValue) :
    (mergeInto? root layer).isSome := by
  induction layer generalizing root with
  | nil => rfl
  | cons entry rest ih =>
    obtain ⟨hentry, hrest⟩ := List.forall_mem_cons.mp forward
    obtain ⟨middle, hput⟩ := Option.isSome_iff_exists.mp
      (entry.2.put?_isSome hentry root)
    rw [mergeInto?_cons, hput]
    exact ih hrest middle

end Layers

end Dataspace
