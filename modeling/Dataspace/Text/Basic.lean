/-!
# Text

Searching text and cutting it up. A part occurs in a text when the text can be cut
into something before it, the part, and something after it.

A scanner cuts a text into tokens one character at a time. It keeps what it has
read of the token in progress; a character may end some tokens and begin
another.
-/

namespace Dataspace.Text

-- ---------------------------------------------------------------------------
-- Searching
-- ---------------------------------------------------------------------------

def occursIn (part : List Char) : List Char → Bool
  | [] => part.isEmpty
  | c :: rest => part.isPrefixOf (c :: rest) || occursIn part rest

def contains (text part : String) : Bool := occursIn part.toList text.toList

def after? (mark : Char) : List Char → Option (List Char)
  | [] => none
  | c :: rest => if c = mark then some rest else after? mark rest

/-- The pieces between the marks, empty ones kept; never no piece at all. -/
def split (mark : Char) : List Char → List (List Char)
  | [] => [[]]
  | c :: rest =>
    if c = mark then [] :: split mark rest
    else match split mark rest with
      | [] => [[c]]
      | piece :: pieces => (c :: piece) :: pieces

def withoutMark : List Char → List Char
  | '\ufeff' :: rest => rest
  | text => text

def joinWith (separator : String) : List String → String
  | [] => ""
  | [piece] => piece
  | piece :: rest => piece ++ separator ++ joinWith separator rest

/-- Letters A to Z in lower case, and the Kelvin sign, whose lower case is the
letter k. No other character has an ASCII lower case of its own. -/
def lowerChar (c : Char) : Char := if c = '\u212a' then 'k' else c.toLower

def lower (text : String) : String := String.ofList (text.toList.map lowerChar)

theorem toNat_toLower_of_upper {c : Char} (upper : c.val ≥ 'A'.val ∧ c.val ≤ 'Z'.val) :
    c.toLower.val.toNat = c.val.toNat + 32 ∧ 65 ≤ c.val.toNat ∧ c.val.toNat ≤ 90 := by
  have low : 65 ≤ c.val.toNat := UInt32.le_iff_toNat_le.mp upper.1
  have high : c.val.toNat ≤ 90 := UInt32.le_iff_toNat_le.mp upper.2
  have width : ('a'.val - 'A'.val).toNat = 32 := rfl
  refine ⟨?_, low, high⟩
  have lowered : c.toLower.val = c.val + ('a'.val - 'A'.val) := congrArg Char.val (dif_pos upper)
  rw [lowered, UInt32.toNat_add, width]
  omega

theorem toLower_of_not_upper {c : Char} (h : ¬(c.val ≥ 'A'.val ∧ c.val ≤ 'Z'.val)) :
    c.toLower = c := dif_neg h

theorem lowerChar_lowerChar (c : Char) : lowerChar (lowerChar c) = lowerChar c := by
  by_cases kelvin : c = '\u212a'
  · rw [kelvin]
    decide
  have plain : lowerChar c = c.toLower := if_neg kelvin
  rw [plain]
  by_cases upper : c.val ≥ 'A'.val ∧ c.val ≤ 'Z'.val
  · obtain ⟨hval, low, high⟩ := toNat_toLower_of_upper upper
    have small : c.toLower ≠ '\u212a' := by
      intro h
      rw [h] at hval
      have : ('\u212a' : Char).val.toNat = 8490 := rfl
      omega
    have again : ¬(c.toLower.val ≥ 'A'.val ∧ c.toLower.val ≤ 'Z'.val) := by
      rintro ⟨-, h⟩
      have : c.toLower.val.toNat ≤ 90 := UInt32.le_iff_toNat_le.mp h
      omega
    exact (if_neg small).trans (toLower_of_not_upper again)
  · rw [toLower_of_not_upper upper, plain, toLower_of_not_upper upper]

-- ---------------------------------------------------------------------------
-- Scanners
-- ---------------------------------------------------------------------------

structure Scanner (σ τ : Type) where
  between : σ
  step? : Char → σ → Option (σ × List τ)
  finish? : σ → Option (List τ)

namespace Scanner

variable {σ τ : Type} (scanner : Scanner σ τ)

/-- `done` holds the tokens read so far in reverse. -/
def scan? (state : σ) (done : List τ) : List Char → Option (List τ)
  | [] => (scanner.finish? state).map fun last => done.reverse ++ last
  | c :: rest => match scanner.step? c state with
    | none => none
    | some (next, tokens) => scan? next (tokens.reverse ++ done) rest

def tokens? (text : String) : Option (List τ) := scanner.scan? scanner.between [] text.toList

def scanFirst? (state : σ) : List Char → Option τ
  | [] => (scanner.finish? state).bind List.head?
  | c :: rest => match scanner.step? c state with
    | none => none
    | some (next, []) => scanFirst? next rest
    | some (_, token :: _) => some token

def first? (text : String) : Option τ := scanner.scanFirst? scanner.between text.toList

theorem head?_of_scan? {state : σ} {done tokens : List τ} {text : List Char}
    (h : scanner.scan? state done text = some tokens) (hd : done ≠ []) :
    tokens.head? = done.getLast? := by
  induction text generalizing state done with
  | nil =>
    obtain ⟨last, _, rfl⟩ := Option.map_eq_some_iff.mp h
    rw [List.head?_append, List.head?_reverse]
    cases hl : done.getLast? with
    | none => exact absurd (List.getLast?_eq_none_iff.mp hl) hd
    | some token => rfl
  | cons c rest ih =>
    simp only [scan?] at h
    cases hs : scanner.step? c state with
    | none => simp [hs] at h
    | some next =>
      obtain ⟨next, new⟩ := next
      simp only [hs] at h
      rw [ih h (by simp [hd])]
      cases hl : done.getLast? with
      | none => exact absurd (List.getLast?_eq_none_iff.mp hl) hd
      | some token => rw [List.getLast?_append, hl]; rfl

theorem scanFirst?_eq_head? {state : σ} {tokens : List τ} {text : List Char}
    (h : scanner.scan? state [] text = some tokens) :
    scanner.scanFirst? state text = tokens.head? := by
  induction text generalizing state with
  | nil =>
    obtain ⟨last, hl, rfl⟩ := Option.map_eq_some_iff.mp h
    simp [scanFirst?, hl]
  | cons c rest ih =>
    simp only [scan?] at h
    cases hs : scanner.step? c state with
    | none => simp [hs] at h
    | some next =>
      obtain ⟨next, new⟩ := next
      simp only [hs] at h
      cases new with
      | nil => simp only [scanFirst?, hs]; exact ih (by simpa using h)
      | cons token new =>
        simp only [scanFirst?, hs]
        rw [head?_of_scan? scanner h (by simp)]
        simp

end Scanner

end Dataspace.Text
