import Dataspace.Json.Reader

/-!
# Steps of the reader

Tokens come with values that hold no others (`Token.plain_ofText?`). `Reader.Steps` is
everything that a reader can do with a token, so what all steps preserve holds of every
text that is read (`Reader.of_foldlM_step?`).
-/

namespace Dataspace

-- ---------------------------------------------------------------------------
-- Tokens
-- ---------------------------------------------------------------------------

namespace Text.Scanner

theorem forall_of_scan? {scanner : Scanner σ τ} {p : τ → Prop}
    (step : ∀ {c state next tokens}, scanner.step? c state = some (next, tokens) →
      ∀ token ∈ tokens, p token)
    (finish : ∀ {state tokens}, scanner.finish? state = some tokens → ∀ token ∈ tokens, p token)
    (before : ∀ token ∈ done, p token) (h : scanner.scan? state done text = some tokens) :
    ∀ token ∈ tokens, p token := by
  induction text generalizing state done with
  | nil =>
    obtain ⟨last, ended, rfl⟩ := Option.map_eq_some_iff.mp h
    intro token hm
    rcases List.mem_append.mp hm with hm | hm
    · exact before token (List.mem_reverse.mp hm)
    · exact finish ended token hm
  | cons c rest ih =>
    rw [scan?] at h
    split at h
    · cases h
    · rename_i stepped
      refine ih (fun token hm => ?_) h
      rcases List.mem_append.mp hm with hm | hm
      · exact step stepped token (List.mem_reverse.mp hm)
      · exact before token hm

end Text.Scanner

namespace Json

def IsScalar : Json → Prop
  | .array _ | .object _ => False
  | _ => True

namespace Token

/-- Texts of arrays and objects are never one token. -/
def Plain : Token → Prop
  | .scalar value => value.IsScalar
  | _ => True

theorem plain_ofWord? (h : ofWord? word = some token) : token.Plain := by
  unfold ofWord? at h
  split at h
  · cases h
    trivial
  split at h
  · cases h
    trivial
  split at h
  · cases h
    trivial
  · obtain ⟨_, -, rfl⟩ := Option.map_eq_some_iff.mp h
    trivial

theorem plain_punctuation? (h : punctuation? c = some token) : token.Plain := by
  unfold punctuation? at h
  split at h <;> cases h <;> trivial

end Token

namespace Lexeme

theorem plain_start? (h : start? c = some (next, tokens)) : ∀ token ∈ tokens, token.Plain := by
  unfold start? at h
  split at h
  · cases h
    exact List.forall_mem_nil _
  split at h
  · cases h
    exact List.forall_mem_nil _
  split at h
  · cases h
    exact List.forall_mem_nil _
  · obtain ⟨token, punctuation, same⟩ := Option.map_eq_some_iff.mp h
    cases same
    exact List.forall_mem_singleton.mpr (Token.plain_punctuation? punctuation)

theorem plain_step? (h : step? c lexeme = some (next, tokens)) :
    ∀ token ∈ tokens, token.Plain := by
  cases lexeme with
  | between => exact plain_start? h
  | word done =>
    simp only [step?] at h
    split at h
    · cases h
      exact List.forall_mem_nil _
    · obtain ⟨word, read, h⟩ := Option.bind_eq_some_iff.mp h
      obtain ⟨⟨following, more⟩, started, same⟩ := Option.bind_eq_some_iff.mp h
      cases same
      exact List.forall_mem_cons.mpr ⟨Token.plain_ofWord? read, plain_start? started⟩
  | text done =>
    simp only [step?] at h
    split at h
    · cases h
      exact List.forall_mem_singleton.mpr trivial
    split at h
    · cases h
      exact List.forall_mem_nil _
    split at h
    · cases h
    · cases h
      exact List.forall_mem_nil _
  | escape done =>
    simp only [step?] at h
    split at h
    · cases h
      exact List.forall_mem_nil _
    · obtain ⟨_, -, same⟩ := Option.map_eq_some_iff.mp h
      cases same
      exact List.forall_mem_nil _
  | code done high count value =>
    simp only [step?] at h
    obtain ⟨digit, -, h⟩ := Option.bind_eq_some_iff.mp h
    split at h
    · obtain ⟨_, -, same⟩ := Option.bind_eq_some_iff.mp h
      cases same
      exact List.forall_mem_nil _
    · cases h
      exact List.forall_mem_nil _
  | half done high | halfEscape done high =>
    simp only [step?] at h
    split at h
    · cases h
      exact List.forall_mem_nil _
    · cases h

theorem plain_finish? (h : finish? lexeme = some tokens) : ∀ token ∈ tokens, token.Plain := by
  cases lexeme with
  | between =>
    cases h
    exact List.forall_mem_nil _
  | word done =>
    obtain ⟨word, read, rfl⟩ := Option.map_eq_some_iff.mp h
    exact List.forall_mem_singleton.mpr (Token.plain_ofWord? read)
  | _ => cases h

end Lexeme

theorem Token.plain_ofText? (h : ofText? text = some tokens) : ∀ token ∈ tokens, token.Plain :=
  Text.Scanner.forall_of_scan? Lexeme.plain_step? Lexeme.plain_finish? (List.forall_mem_nil _) h

-- ---------------------------------------------------------------------------
-- Steps of the reader
-- ---------------------------------------------------------------------------

def Awaited.Opens : Awaited → Prop
  | .value | .firstItem => True
  | _ => False

namespace Reader

inductive Steps : Reader → Token → Reader → Prop
  | scalar {awaited : Awaited} (opens : awaited.Opens) (frames : List Frame) (value : Json) :
      Steps ⟨frames, awaited⟩ (.scalar value) (deliver value frames)
  | openArray {awaited : Awaited} (opens : awaited.Opens) (frames : List Frame) :
      Steps ⟨frames, awaited⟩ .openBracket ⟨.items [] :: frames, .firstItem⟩
  | openObject {awaited : Awaited} (opens : awaited.Opens) (frames : List Frame) :
      Steps ⟨frames, awaited⟩ .openBrace ⟨frames, .name []⟩
  | emptyArray (done : List Json) (outer : List Frame) :
      Steps ⟨.items done :: outer, .firstItem⟩ .closeBracket (deliver (.array []) outer)
  | emptyObject (frames : List Frame) :
      Steps ⟨frames, .name []⟩ .closeBrace (deliver (.object []) frames)
  | name (frames : List Frame) (done : List (String × Json)) (name : String) :
      Steps ⟨frames, .name done⟩ (.scalar (.string name)) ⟨frames, .colon done name⟩
  | colon (frames : List Frame) (done : List (String × Json)) (name : String) :
      Steps ⟨frames, .colon done name⟩ .colon ⟨.members done name :: frames, .value⟩
  | nextItem (done : List Json) (outer : List Frame) :
      Steps ⟨.items done :: outer, .separator⟩ .comma ⟨.items done :: outer, .value⟩
  | nextMember (done : List (String × Json)) (name : String) (outer : List Frame) :
      Steps ⟨.members done name :: outer, .separator⟩ .comma ⟨outer, .name done⟩
  | closeArray (done : List Json) (outer : List Frame) :
      Steps ⟨.items done :: outer, .separator⟩ .closeBracket
        (deliver (.array done.reverse) outer)
  | closeObject (done : List (String × Json)) (name : String) (outer : List Frame) :
      Steps ⟨.members done name :: outer, .separator⟩ .closeBrace
        (deliver (ofMembers done.reverse) outer)

section
variable {reader next last : Reader} {frames : List Frame} {awaited : Awaited} {token : Token}
  {tokens : List Token}

theorem steps_value? (opens : awaited.Opens) (h : value? frames token = some next) :
    Steps ⟨frames, awaited⟩ token next := by
  cases token with
  | scalar value =>
    cases h
    exact .scalar opens frames value
  | openBracket =>
    rw [value?] at h
    split at h
    · cases h
      exact .openArray opens frames
    · cases h
  | openBrace =>
    rw [value?] at h
    split at h
    · cases h
      exact .openObject opens frames
    · cases h
  | _ => cases h

theorem steps_step? (h : reader.step? token = some next) :
    Steps reader token next := by
  -- One case for each pair of awaited and token that `step?` takes.
  obtain ⟨frames, awaited⟩ := reader
  unfold step? at h
  split at h
  · rename_i awaits
    cases awaits
    exact steps_value? trivial h
  · rename_i awaits
    cases awaits
    split at h
    · rename_i held
      cases held
      cases h
      exact .emptyArray _ _
    · cases h
  · rename_i awaits _
    cases awaits
    exact steps_value? trivial h
  · rename_i awaits
    cases awaits
    cases h
    exact .emptyObject frames
  · rename_i awaits
    cases awaits
    cases h
    exact .name frames _ _
  · rename_i awaits
    cases awaits
    cases h
    exact .colon frames _ _
  · rename_i awaits
    cases awaits
    split at h
    · rename_i held
      cases held
      cases h
      exact .nextItem _ _
    · rename_i held
      cases held
      cases h
      exact .nextMember _ _ _
    · cases h
  · rename_i awaits
    cases awaits
    split at h
    · rename_i held
      cases held
      cases h
      exact .closeArray _ _
    · cases h
  · rename_i awaits
    cases awaits
    split at h
    · rename_i held
      cases held
      cases h
      exact .closeObject _ _ _
    · cases h
  · cases h

theorem of_foldlM_step? {inv : Reader → Prop}
    (step : ∀ reader token next, token.Plain → Steps reader token next → inv reader → inv next)
    (plain : ∀ token ∈ tokens, token.Plain) (before : inv reader)
    (h : tokens.foldlM step? reader = some last) : inv last := by
  induction tokens generalizing reader with
  | nil =>
    cases h
    exact before
  | cons token rest ih =>
    obtain ⟨first, others⟩ := List.forall_mem_cons.mp plain
    rw [List.foldlM_cons] at h
    obtain ⟨next, stepped, h⟩ := Option.bind_eq_some_iff.mp h
    exact ih others (step reader token next first (steps_step? stepped) before) h

end

end Reader

end Json

end Dataspace
