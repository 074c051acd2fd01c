import Dataspace.CommandLine.Basic
import Mathlib.Data.List.TakeWhile

/-!
# Spellings

An occurrence of an option is spelled by a flag with its values behind it, or by
one word that its only value is attached to (`Opt.Spelled`). Words behind a
flag are told from the next flag by their first character, so arguments that are
groups of this form are scanned into the occurrences that they spell
(`Scan.items_spelledOut`).
-/

namespace Dataspace

def Dashed (word : String) : Prop := word.toList.head? = some '-'

instance (word : String) : Decidable (Dashed word) :=
  inferInstanceAs (Decidable (word.toList.head? = some '-'))

def Arity.Takes : Arity → Nat → Prop
  | .switch, n => n = 0
  | .single, n => n = 1
  | .list, n => 0 < n

instance : (arity : Arity) → (n : Nat) → Decidable (arity.Takes n)
  | .switch, n => inferInstanceAs (Decidable (n = 0))
  | .single, n => inferInstanceAs (Decidable (n = 1))
  | .list, n => inferInstanceAs (Decidable (0 < n))

/-- The words that name an option: any of its long names, or its letter. -/
inductive Opt.Flag (option : Opt) : String → Prop
  | long (name : String) (named : name ∈ option.longNames) : Flag option ("--" ++ name)
  | letter (letter : Char) (named : option.letter? = some letter) :
      Flag option (String.ofList ['-', letter])

/-- What an occurrence with these values may look like. Behind a flag no value starts
with a dash; what follows a letter is not to be read as another way of attaching. -/
inductive Opt.Spelled (option : Opt) : List String → List String → Prop
  | apart (flag : option.Flag word) (takes : option.arity.Takes values.length)
      (undashed : ∀ value ∈ values, ¬Dashed value) : Spelled option values (word :: values)
  | attached (flag : option.Flag word) (takes : option.arity.Takes 1) (value : String) :
      Spelled option [value] [word ++ "=" ++ value]
  | glued (named : option.letter? = some letter) (takes : option.arity.Takes 1)
      (nonempty : value ≠ "") (undashed : ¬Dashed value)
      (unequal : value.toList.head? ≠ some '=') :
      Spelled option [value] [String.ofList ['-', letter] ++ value]

inductive SpelledOut : List Occurrence → List String → Prop
  | nil : SpelledOut [] []
  | cons {option : Opt} (first : option.Spelled values words)
      (rest : SpelledOut occurrences arguments) :
      SpelledOut (⟨option, values⟩ :: occurrences) (words ++ arguments)

theorem Opt.Spelled.takes {option : Opt} (h : option.Spelled values words) :
    option.arity.Takes values.length := by
  cases h with
  | apart _ takes => exact takes
  | attached _ takes => exact takes
  | glued _ takes => exact takes

theorem SpelledOut.takes (h : SpelledOut occurrences arguments) :
    ∀ occurrence ∈ occurrences, occurrence.option.arity.Takes occurrence.values.length := by
  induction h with
  | nil => exact fun _ hm => nomatch hm
  | cons first _ ih =>
    intro occurrence hm
    rcases List.mem_cons.mp hm with rfl | hm
    · exact first.takes
    · exact ih occurrence hm

theorem Opt.exists_flag (option : Opt) : ∃ word, option.Flag word := by
  cases option <;> exact ⟨_, .long _ (.head _)⟩

theorem exists_spelledOut {seen : List Occurrence}
    (takes : ∀ occurrence ∈ seen, occurrence.option.arity.Takes occurrence.values.length)
    (short : ∀ occurrence ∈ seen, occurrence.values.length ≤ 1) :
    ∃ arguments, SpelledOut seen arguments := by
  induction seen with
  | nil => exact ⟨[], .nil⟩
  | cons occurrence seen ih =>
    obtain ⟨arguments, rest⟩ := ih (fun other hm => takes other (.tail _ hm))
      fun other hm => short other (.tail _ hm)
    obtain ⟨word, flag⟩ := occurrence.option.exists_flag
    have takes := takes occurrence (.head _)
    have short := short occurrence (.head _)
    obtain ⟨option, values⟩ := occurrence
    match values with
    | [] => exact ⟨_, .cons (.apart flag takes nofun) rest⟩
    | [value] => exact ⟨_, .cons (.attached flag takes value) rest⟩
    | _ :: _ :: _ => exact absurd short (by simp)

-- ---------------------------------------------------------------------------
-- Words
-- ---------------------------------------------------------------------------

namespace Opt

theorem name_ne_equals (option : Opt) {name : String} (named : name ∈ option.longNames) :
    name ≠ "" ∧ ∀ c ∈ name.toList, c ≠ '=' := by
  have all : option.longNames.all
      (fun name => name ≠ "" && name.toList.all fun c => c ≠ '=') = true := by
    cases option <;> rfl
  simpa using List.all_eq_true.mp all name named

theorem letter_ne_dash {option : Opt} (named : option.letter? = some letter) : letter ≠ '-' := by
  rintro rfl
  cases option <;> simp [letter?] at named

end Opt

namespace Word

theorem ofArgument_undashed (undashed : ¬Dashed word) : ofArgument word = .plain := by
  unfold ofArgument ofChars
  split
  · rename_i dashed
    exact absurd (congrArg List.head? dashed) undashed
  · rename_i dashed
    exact absurd (congrArg List.head? dashed) undashed
  · rename_i dashed
    exact absurd (congrArg List.head? dashed) undashed
  · rfl

theorem ofChars_long {name : List Char} (nonempty : name ≠ []) (rest : List Char) :
    ofChars ('-' :: '-' :: (name ++ rest)) = ofLong (name ++ rest) := by
  cases name with
  | nil => exact absurd rfl nonempty
  | cons c cs => rfl

theorem ofChars_short {letter : Char} (h : letter ≠ '-') (rest : List Char) :
    ofChars ('-' :: letter :: rest) = .short letter rest := by
  simp [ofChars, h]

theorem ofLong_name {name : String} (h : ∀ c ∈ name.toList, c ≠ '=') :
    ofLong name.toList = .long name none := by
  have all : ∀ c ∈ name.toList, decide (c ≠ '=') = true := fun c hc => decide_eq_true (h c hc)
  have taken := List.takeWhile_eq_self_iff.mpr all
  have dropped := List.dropWhile_eq_nil_iff.mpr all
  simp only [ofLong, taken, dropped, String.ofList_toList]

theorem ofLong_attached {name : String} (h : ∀ c ∈ name.toList, c ≠ '=') (value : String) :
    ofLong (name.toList ++ '=' :: value.toList) = .long name (some value) := by
  have all : ∀ c ∈ name.toList, decide (c ≠ '=') = true := fun c hc => decide_eq_true (h c hc)
  have taken : (name.toList ++ '=' :: value.toList).takeWhile (fun c => decide (c ≠ '=')) =
      name.toList := by
    rw [List.takeWhile_append_of_pos all]
    exact List.append_nil _
  have dropped : (name.toList ++ '=' :: value.toList).dropWhile (fun c => decide (c ≠ '=')) =
      '=' :: value.toList := by
    rw [List.dropWhile_append_of_pos all]
    rfl
  simp only [ofLong, taken, dropped, String.ofList_toList]

theorem attached?_glued {value : String} (nonempty : value ≠ "")
    (unequal : value.toList.head? ≠ some '=') : attached? value.toList = some value := by
  unfold attached?
  split
  · rename_i h
    exact absurd (String.toList_eq_nil_iff.mp h) nonempty
  · rename_i h
    exact absurd (congrArg List.head? h) unequal
  · rw [String.ofList_toList]

end Word

-- ---------------------------------------------------------------------------
-- Steps
-- ---------------------------------------------------------------------------

namespace Scan

variable {option : Opt} (opened : Open)

theorem step_flag (flag : option.Flag word) : step opened word = begin opened option none := by
  cases flag with
  | long name named =>
    obtain ⟨nonempty, unequal⟩ := option.name_ne_equals named
    have chars : ("--" ++ name).toList = '-' :: '-' :: (name.toList ++ []) := by simp
    have word : Word.ofArgument ("--" ++ name) = .long name none := by
      rw [Word.ofArgument, chars, Word.ofChars_long (mt String.toList_eq_nil_iff.mp nonempty),
        List.append_nil, Word.ofLong_name unequal]
    simp only [step, word, option.ofLong?_of_mem name named]
  | letter letter named =>
    have word : Word.ofArgument (String.ofList ['-', letter]) = .short letter [] := by
      rw [Word.ofArgument, String.toList_ofList, Word.ofChars_short (Opt.letter_ne_dash named)]
    simp only [step, word, option.ofLetter?_of_eq letter named]
    cases arity : option.arity <;> simp [beginLetter, arity, Word.attached?]

theorem begin_attached (takes : option.arity.Takes 1) (value : String) :
    begin opened option (some value) =
      .next (close opened ++ [.occurrence ⟨option, [value]⟩]) none := by
  cases arity : option.arity with
  | switch =>
    rw [arity] at takes
    cases takes
  | _ => simp only [begin, arity]

theorem step_letter (named : option.letter? = some letter) (takes : option.arity.Takes 1)
    (rest : List Char) :
    step opened (String.ofList ('-' :: letter :: rest)) =
      begin opened option (Word.attached? rest) := by
  have word : Word.ofArgument (String.ofList ('-' :: letter :: rest)) = .short letter rest := by
    rw [Word.ofArgument, String.toList_ofList, Word.ofChars_short (Opt.letter_ne_dash named)]
  simp only [step, word, option.ofLetter?_of_eq letter named]
  cases arity : option.arity with
  | switch =>
    rw [arity] at takes
    cases takes
  | _ => simp only [beginLetter, arity]

theorem step_attached (flag : option.Flag word) (takes : option.arity.Takes 1) (value : String) :
    step opened (word ++ "=" ++ value) =
      .next (close opened ++ [.occurrence ⟨option, [value]⟩]) none := by
  rw [← begin_attached opened takes value]
  cases flag with
  | long name named =>
    obtain ⟨nonempty, unequal⟩ := option.name_ne_equals named
    have chars : ("--" ++ name ++ "=" ++ value).toList =
        '-' :: '-' :: (name.toList ++ '=' :: value.toList) := by simp
    have word : Word.ofArgument ("--" ++ name ++ "=" ++ value) = .long name (some value) := by
      rw [Word.ofArgument, chars, Word.ofChars_long (mt String.toList_eq_nil_iff.mp nonempty),
        Word.ofLong_attached unequal]
    simp only [step, word, option.ofLong?_of_mem name named]
  | letter letter named =>
    have chars : String.ofList ['-', letter] ++ "=" ++ value =
        String.ofList ('-' :: letter :: '=' :: value.toList) := by
      rw [← String.toList_inj]
      simp
    rw [chars, step_letter opened named takes, Word.attached?, String.ofList_toList]

theorem step_glued (named : option.letter? = some letter) (takes : option.arity.Takes 1)
    (nonempty : value ≠ "") (unequal : value.toList.head? ≠ some '=') :
    step opened (String.ofList ['-', letter] ++ value) =
      .next (close opened ++ [.occurrence ⟨option, [value]⟩]) none := by
  have chars : String.ofList ['-', letter] ++ value =
      String.ofList ('-' :: letter :: value.toList) := by
    rw [← String.toList_inj]
    simp
  rw [chars, step_letter opened named takes, Word.attached?_glued nonempty unequal,
    begin_attached opened takes]

-- ---------------------------------------------------------------------------
-- Arguments
-- ---------------------------------------------------------------------------

theorem items_next {argument : String} (h : step opened argument = .next done later)
    (rest : List String) : items opened (argument :: rest) = done ++ items later rest := by
  have other : argument ≠ "--" := by
    rintro rfl
    cases h
  simp [items, other, h]

theorem items_value {occurrence : Occurrence} (undashed : ¬Dashed value)
    (accepted : accepts occurrence = true) (rest : List String) :
    items (some occurrence) (value :: rest) = items (some (push occurrence value)) rest := by
  have next : step (some occurrence) value = .next [] (some (push occurrence value)) := by
    rw [step, Word.ofArgument_undashed undashed]
    exact if_pos accepted
  exact items_next _ next rest

theorem items_values (takes : option.arity.Takes (earlier ++ values).length)
    (undashed : ∀ value ∈ values, ¬Dashed value) (rest : List String) :
    items (some ⟨option, earlier⟩) (values ++ rest) =
      items (some ⟨option, earlier ++ values⟩) rest := by
  induction values generalizing earlier with
  | nil => rw [List.append_nil, List.nil_append]
  | cons value values ih =>
    have accepted : accepts ⟨option, earlier⟩ = true := by
      cases arity : option.arity with
      | switch =>
        rw [arity] at takes
        simp [Arity.Takes] at takes
      | single =>
        rw [arity] at takes
        have none : earlier = [] := by
          rw [Arity.Takes, List.length_append, List.length_cons] at takes
          exact List.length_eq_zero_iff.mp (by omega)
        simp [accepts, arity, none]
      | list => simp [accepts, arity]
    rw [List.cons_append, items_value (undashed value (.head _)) accepted]
    have split : earlier ++ value :: values = earlier ++ [value] ++ values := by simp
    rw [split] at takes ⊢
    exact ih takes fun other hm => undashed other (.tail _ hm)

/-- A flag with its values leaves the option open if there is one more word that it
might take. Either way the occurrence is complete when the next flag begins. -/
theorem items_apart (flag : option.Flag word) (takes : option.arity.Takes values.length)
    (undashed : ∀ value ∈ values, ¬Dashed value) (rest : List String)
    (closes : ∀ opened, items opened rest = close opened ++ items none rest) :
    items opened (word :: values ++ rest) =
      close opened ++ .occurrence ⟨option, values⟩ :: items none rest := by
  have flagged := step_flag opened flag
  cases arity : option.arity with
  | switch =>
    rw [arity] at takes
    obtain rfl : values = [] := List.length_eq_zero_iff.mp takes
    have next : step opened word = .next (close opened ++ [.occurrence ⟨option, []⟩]) none := by
      rw [flagged]
      simp only [begin, arity]
    rw [List.cons_append, items_next _ next]
    simp
  | _ =>
    have next : step opened word = .next (close opened) (some ⟨option, []⟩) := by
      rw [flagged]
      simp only [begin, arity]
    rw [List.cons_append, items_next _ next, items_values takes undashed, closes]
    rfl

theorem items_spelledOut (h : SpelledOut occurrences arguments) :
    items opened arguments = close opened ++ occurrences.map .occurrence := by
  induction h generalizing opened with
  | nil => exact (List.append_nil _).symm
  | @cons _ _ occurrences arguments _ first _ ih =>
    have none : items none arguments = occurrences.map .occurrence := ih none
    cases first with
    | apart flag takes undashed =>
      rw [items_apart opened flag takes undashed arguments (fun opened => by rw [ih, none]), none]
      rfl
    | attached flag takes value =>
      rw [List.singleton_append, items_next _ (step_attached opened flag takes value), none]
      simp
    | glued named takes nonempty _ unequal =>
      rw [List.singleton_append, items_next _ (step_glued opened named takes nonempty unequal),
        none]
      simp

end Scan

end Dataspace
