import Dataspace.Decimal
import Dataspace.Json.Printer

/-!
# Numerals as texts

A text that is read as a numeral has nothing in it but digits, signs, a point and
the letter of an exponent (`read?_chars`). A whole numeral is its sign and its
digits (`read?_whole`), and written out in decimal it is the same text again if
it has no plus sign, no leading zeros, and no minus sign before zero
(`compact_eq_iff`).
-/

namespace Dataspace.Numeral

def signText : Option Sign → List Char
  | none => []
  | some .plus => ['+']
  | some .minus => ['-']

theorem takeSign_eq (text : List Char) :
    text = signText (takeSign text).1 ++ (takeSign text).2 := by
  unfold takeSign
  split <;> rfl

-- ---------------------------------------------------------------------------
-- What stands in a numeral
-- ---------------------------------------------------------------------------

def isNumeralChar (c : Char) : Bool := c.isDigit || ['+', '-', '.', 'e', 'E'].contains c

theorem mem_signText {written : Option Sign} (h : c ∈ signText written) :
    isNumeralChar c = true := by
  match written with
  | none => cases h
  | some .plus =>
    rw [List.mem_singleton.mp h]
    rfl
  | some .minus =>
    rw [List.mem_singleton.mp h]
    rfl

theorem mem_takeSign {text : List Char} (h : c ∈ text)
    (rest : ∀ c ∈ (takeSign text).2, isNumeralChar c = true) : isNumeralChar c = true := by
  rw [takeSign_eq text] at h
  rcases List.mem_append.mp h with h | h
  · exact mem_signText h
  · exact rest c h

theorem isNumeralChar_of_isDigit (h : c.isDigit = true) : isNumeralChar c = true := by
  simp [isNumeralChar, h]

theorem readExponent?_chars {text : List Char} {found : Option (Option Sign × List Char)}
    (h : readExponent? text = some found) :
    ∀ c ∈ text, isNumeralChar c = true := by
  intro c hmem
  unfold readExponent? at h
  split at h
  · cases hmem
  · rename_i e rest
    split at h
    · rename_i he
      rcases List.mem_cons.mp hmem with rfl | hmem
      · rcases Bool.or_eq_true_iff.mp he with he | he
        · rw [of_decide_eq_true he]
          rfl
        · rw [of_decide_eq_true he]
          rfl
      · refine mem_takeSign hmem fun d hd => ?_
        simp only at h
        split at h
        · rename_i hdigits
          have all := (Bool.and_eq_true_iff.mp hdigits).2
          exact isNumeralChar_of_isDigit (List.all_eq_true.mp all d hd)
        · cases h
    · cases h

theorem isDigit_of_mem_takeWhile {text : List Char} (h : c ∈ text.takeWhile Char.isDigit) :
    c.isDigit = true :=
  List.all_eq_true.mp List.all_takeWhile c h

theorem mem_takeWhile_digits {text : List Char} (h : c ∈ text)
    (rest : ∀ c ∈ text.dropWhile Char.isDigit, isNumeralChar c = true) :
    isNumeralChar c = true := by
  have split : text.takeWhile Char.isDigit ++ text.dropWhile Char.isDigit = text :=
    List.takeWhile_append_dropWhile
  rw [← split] at h
  rcases List.mem_append.mp h with h | h
  · exact isNumeralChar_of_isDigit (isDigit_of_mem_takeWhile h)
  · exact rest c h

theorem read?_chars {text : List Char} (h : read? text = some n) :
    ∀ c ∈ text, isNumeralChar c = true := by
  intro c hmem
  refine mem_takeSign hmem fun d hd => mem_takeWhile_digits hd fun e he => ?_
  simp only [read?] at h
  split at h
  · rename_i rest hrest
    obtain ⟨exponent, hexponent, -⟩ := Option.bind_eq_some_iff.mp h
    rw [hrest] at he
    rcases List.mem_cons.mp he with rfl | he
    · rfl
    · exact mem_takeWhile_digits he (readExponent?_chars hexponent)
  · obtain ⟨exponent, hexponent, -⟩ := Option.bind_eq_some_iff.mp h
    exact readExponent?_chars hexponent e he

-- ---------------------------------------------------------------------------
-- Whole numerals
-- ---------------------------------------------------------------------------

theorem readExponent?_none {text : List Char} (h : readExponent? text = some none) : text = [] := by
  unfold readExponent? at h
  split at h
  · rfl
  · split at h
    · simp only at h
      split at h
      · cases h
      · cases h
    · cases h

theorem read?_whole {text : List Char} (h : read? text = some n) (whole : n.isWhole = true) :
    text = signText n.sign ++ n.whole ∧ ∀ c ∈ n.whole, c.isDigit = true := by
  have split : ∀ rest : List Char,
      rest.takeWhile Char.isDigit ++ rest.dropWhile Char.isDigit = rest :=
    fun _ => List.takeWhile_append_dropWhile
  simp only [read?] at h
  split at h
  · obtain ⟨exponent, -, hn⟩ := Option.bind_eq_some_iff.mp h
    cases hn
    cases whole
  · obtain ⟨found, hexponent, hn⟩ := Option.bind_eq_some_iff.mp h
    cases hn
    cases found with
    | some found => cases whole
    | none =>
      have hdigits := split (takeSign text).2
      rw [readExponent?_none hexponent, List.append_nil] at hdigits
      refine ⟨?_, fun c hmem => isDigit_of_mem_takeWhile hmem⟩
      exact (takeSign_eq text).trans (congrArg (signText _ ++ ·) hdigits.symm)

-- ---------------------------------------------------------------------------
-- Digits back from a value
-- ---------------------------------------------------------------------------

theorem digitValue_lt (h : c.isDigit = true) : digitValue c < 10 := by
  have high : c.val.toNat ≤ 57 := UInt32.le_iff_toNat_le.mp
    (of_decide_eq_true (Bool.and_eq_true_iff.mp h).2)
  have zero : '0'.toNat = 48 := rfl
  have same : c.toNat = c.val.toNat := rfl
  unfold digitValue
  omega

theorem digitChar_digitValue (h : c.isDigit = true) : (digitValue c).digitChar = c := by
  have low : 48 ≤ c.val.toNat := UInt32.le_iff_toNat_le.mp
    (of_decide_eq_true (Bool.and_eq_true_iff.mp h).1)
  have table : ∀ k < 10, Nat.digitChar k = Char.ofNat (48 + k) := by decide
  have back : 48 + digitValue c = c.toNat := Nat.add_sub_cancel' low
  rw [table _ (digitValue_lt h), back, Char.ofNat_toNat]

theorem toDigits_foldl {rest : List Char} (digits : ∀ c ∈ rest, c.isDigit = true) (pos : 0 < n) :
    Nat.toDigits 10 (rest.foldl (fun n c => 10 * n + digitValue c) n) =
      Nat.toDigits 10 n ++ rest := by
  induction rest generalizing n with
  | nil => exact (List.append_nil _).symm
  | cons c rest ih =>
    obtain ⟨hc, hrest⟩ := List.forall_mem_cons.mp digits
    have hlt := digitValue_lt hc
    have last : Nat.toDigits 10 (digitValue c) = [c] := by
      rw [Nat.toDigits_of_lt_base hlt, digitChar_digitValue hc]
    rw [List.foldl_cons, ih hrest (by omega), ← Nat.toDigits_append_toDigits (by decide) pos hlt,
      last, List.append_assoc]
    rfl

theorem value_cons {rest : List Char} (h : c ≠ '0') (digits : ∀ d ∈ c :: rest, d.isDigit = true) :
    Nat.toDigits 10 (value (c :: rest)) = c :: rest := by
  obtain ⟨hc, hrest⟩ := List.forall_mem_cons.mp digits
  have hlt := digitValue_lt hc
  have pos : 0 < digitValue c := by
    refine Nat.pos_of_ne_zero fun zero => h ?_
    rw [← digitChar_digitValue hc, zero]
    rfl
  have first : Nat.toDigits 10 (digitValue c) = [c] := by
    rw [Nat.toDigits_of_lt_base hlt, digitChar_digitValue hc]
  -- The leading digit is the number that the fold begins with.
  have step : value (c :: rest) =
      rest.foldl (fun n c => 10 * n + digitValue c) (digitValue c) := by
    rw [value, List.foldl_cons, Nat.mul_zero, Nat.zero_add]
  rw [step, toDigits_foldl hrest pos, first]
  rfl

theorem value_zero_cons (rest : List Char) : value ('0' :: rest) = value rest := rfl

theorem foldl_lt {digits : List Char} (h : ∀ c ∈ digits, c.isDigit = true) (n : Nat) :
    digits.foldl (fun n c => 10 * n + digitValue c) n <
      (n + 1) * Nat.pow 10 digits.length := by
  induction digits generalizing n with
  | nil => exact Nat.lt_of_lt_of_eq (Nat.lt_succ_self n) (Nat.mul_one _).symm
  | cons c rest ih =>
    obtain ⟨hc, hrest⟩ := List.forall_mem_cons.mp h
    have hlt := digitValue_lt hc
    calc (c :: rest).foldl (fun n c => 10 * n + digitValue c) n
        < (10 * n + digitValue c + 1) * Nat.pow 10 rest.length :=
          ih hrest (10 * n + digitValue c)
      _ ≤ (n + 1) * 10 * Nat.pow 10 rest.length := Nat.mul_le_mul_right _ (by omega)
      _ = (n + 1) * Nat.pow 10 (c :: rest).length := by
          rw [Nat.mul_assoc]
          exact congrArg ((n + 1) * ·) Nat.pow_succ'.symm

theorem toDigits_eq_iff {digits : List Char} (h : ∀ c ∈ digits, c.isDigit = true)
    (some_digit : digits ≠ []) :
    Nat.toDigits 10 (value digits) = digits ↔ (digits.head? = some '0' → digits = ['0']) := by
  cases digits with
  | nil => exact absurd rfl some_digit
  | cons c rest =>
    by_cases hc : c = '0'
    · subst hc
      rw [value_zero_cons]
      cases rest with
      | nil => simp [value, Nat.toDigits_of_lt_base]
      | cons d rest =>
        have hlt : value (d :: rest) < Nat.pow 10 (d :: rest).length := by
          have hlt := foldl_lt (List.forall_mem_cons.mp h).2 0
          rw [Nat.zero_add, Nat.one_mul] at hlt
          exact hlt
        have hlength : (Nat.toDigits 10 (value (d :: rest))).length ≤ (d :: rest).length :=
          (Nat.length_toDigits_le_iff (by decide) (Nat.succ_pos _)).mpr hlt
        have differ : Nat.toDigits 10 (value (d :: rest)) ≠ '0' :: d :: rest := by
          intro same
          rw [same, List.length_cons] at hlength
          omega
        simp [differ]
    · simp [value_cons hc h, hc]

-- ---------------------------------------------------------------------------
-- Whole numerals in decimal
-- ---------------------------------------------------------------------------

def integer (n : Numeral) : Int :=
  if n.isNegative then -(value n.whole : Int) else value n.whole

/-- What decimal notation itself would write. -/
structure Plain (n : Numeral) : Prop where
  no_plus : n.sign ≠ some .plus
  no_zeros : n.whole.head? = some '0' → n.whole = ['0']
  no_minus_zero : n.sign = some .minus → n.whole ≠ ['0']

theorem natAbs_integer (n : Numeral) : n.integer.natAbs = value n.whole := by
  unfold integer
  split
  · rw [Int.natAbs_neg, Int.natAbs_natCast]
  · rw [Int.natAbs_natCast]

theorem toList_compact (n : Numeral) :
    (Json.Number.integer n.integer).compact.toList =
      (if n.integer < 0 then ['-'] else []) ++ Nat.toDigits 10 (value n.whole) := by
  rw [Json.Number.compact, String.toList_append, Nat.toList_repr, natAbs_integer]
  split <;> rfl

theorem head?_of_value_eq_zero {digits : List Char} (h : ∀ c ∈ digits, c.isDigit = true)
    (some_digit : digits ≠ []) (zero : value digits = 0) : digits.head? = some '0' := by
  cases digits with
  | nil => exact absurd rfl some_digit
  | cons c rest =>
    by_cases hc : c = '0'
    · rw [hc]
      rfl
    · have same := value_cons hc h
      rw [zero, Nat.toDigits_zero, List.cons.injEq] at same
      exact absurd same.1.symm hc

theorem toDigits_ne_sign (written : ¬c.isDigit = true) (n : Nat) (rest : List Char) :
    Nat.toDigits 10 n ≠ c :: rest := by
  intro same
  refine written (Nat.isDigit_of_mem_toDigits (by decide : 0 < 10) (by decide) (n := n) ?_)
  rw [same]
  exact .head _

theorem compact_eq_iff {n : Numeral} (h : ∀ c ∈ n.whole, c.isDigit = true)
    (some_digit : n.whole ≠ []) :
    (Json.Number.integer n.integer).compact.toList = signText n.sign ++ n.whole ↔ n.Plain := by
  have digits := toDigits_eq_iff h some_digit
  rw [toList_compact]
  match hsign : n.sign with
  | none =>
    have negative : ¬n.integer < 0 := by simp [integer, isNegative, hsign]
    rw [if_neg negative, List.nil_append, signText, List.nil_append, digits]
    exact ⟨fun zeros => ⟨by simp [hsign], zeros, by simp [hsign]⟩, Plain.no_zeros⟩
  | some .plus =>
    have negative : ¬n.integer < 0 := by simp [integer, isNegative, hsign]
    rw [if_neg negative]
    refine ⟨fun same => absurd same (toDigits_ne_sign (by decide) _ _), fun plain => ?_⟩
    exact absurd hsign plain.no_plus
  | some .minus =>
    have hinteger : n.integer = -(value n.whole : Int) := by simp [integer, isNegative, hsign]
    by_cases zero : value n.whole = 0
    · rw [if_neg (by omega)]
      refine ⟨fun same => absurd same (toDigits_ne_sign (by decide) _ _), fun plain => ?_⟩
      have single := plain.no_zeros (head?_of_value_eq_zero h some_digit zero)
      exact absurd single (plain.no_minus_zero hsign)
    · rw [if_pos (by omega), signText, List.append_right_inj, digits]
      refine ⟨fun zeros => ⟨by simp [hsign], zeros, fun _ single => zero ?_⟩, Plain.no_zeros⟩
      rw [single]
      rfl

end Dataspace.Numeral
