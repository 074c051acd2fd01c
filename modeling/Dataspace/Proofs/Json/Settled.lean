import Dataspace.Proofs.Json.Steps
import Dataspace.Proofs.Members

/-!
# Values that are read

In a value that was read no object has two members of one name, however the text
repeats them (`Json.settled_of_parse?`). What kind of value a text stands for is
known from its first token, so a text that is an object is read by its members
(`Json.parseMembers_object`), and a text that is anything else has the wrong shape.
-/

namespace Dataspace

namespace Json

-- ---------------------------------------------------------------------------
-- Settled values
-- ---------------------------------------------------------------------------

inductive Settled : Json → Prop
  | scalar (h : value.IsScalar) : Settled value
  | array (items : ∀ item ∈ values, Settled item) : Settled (.array values)
  | object (nodup : (members.map Prod.fst).Nodup) (values : ∀ member ∈ members, Settled member.2) :
      Settled (.object members)

theorem settled_ofMembers {entries : List (String × Json)}
    (h : ∀ entry ∈ entries, entry.2.Settled) : (ofMembers entries).Settled :=
  .object (Members.ofList entries).nodup fun entry hm => h entry (Members.mem_of_mem_ofList hm)

def Frame.Settled : Frame → Prop
  | .items done => ∀ item ∈ done, item.Settled
  | .members done _ => ∀ member ∈ done, member.2.Settled

def Awaited.Settled : Awaited → Prop
  | .name done | .colon done _ => ∀ member ∈ done, member.2.Settled
  | .nothing result => result.Settled
  | _ => True

namespace Reader

structure Settled (reader : Reader) : Prop where
  frames : ∀ frame ∈ reader.frames, frame.Settled
  awaited : reader.awaited.Settled

variable {reader next : Reader} {token : Token} {value : Json} {frames : List Frame}

theorem settled_deliver (settled : value.Settled)
    (h : ∀ frame ∈ frames, frame.Settled) : (deliver value frames).Settled := by
  cases frames with
  | nil => exact ⟨List.forall_mem_nil _, settled⟩
  | cons frame outer =>
    obtain ⟨first, rest⟩ := List.forall_mem_cons.mp h
    cases frame with
    | items done =>
      exact ⟨List.forall_mem_cons.mpr ⟨List.forall_mem_cons.mpr ⟨settled, first⟩, rest⟩, trivial⟩
    | members done name =>
      exact ⟨List.forall_mem_cons.mpr ⟨List.forall_mem_cons.mpr ⟨settled, first⟩, rest⟩, trivial⟩

theorem Steps.settled (h : Steps reader token next) (plain : token.Plain)
    (before : reader.Settled) : next.Settled := by
  obtain ⟨frames, awaited⟩ := before
  cases h with
  | scalar => exact settled_deliver (.scalar plain) frames
  | openArray => exact ⟨List.forall_mem_cons.mpr ⟨List.forall_mem_nil _, frames⟩, trivial⟩
  | openObject => exact ⟨frames, List.forall_mem_nil _⟩
  | emptyArray =>
    exact settled_deliver (.array (List.forall_mem_nil _)) (List.forall_mem_cons.mp frames).2
  | emptyObject => exact settled_deliver (.object .nil (List.forall_mem_nil _)) frames
  | name => exact ⟨frames, awaited⟩
  | colon => exact ⟨List.forall_mem_cons.mpr ⟨awaited, frames⟩, trivial⟩
  | nextItem => exact ⟨frames, trivial⟩
  | nextMember =>
    obtain ⟨members, outer⟩ := List.forall_mem_cons.mp frames
    exact ⟨outer, members⟩
  | closeArray =>
    obtain ⟨items, outer⟩ := List.forall_mem_cons.mp frames
    exact settled_deliver (.array fun item hm => items item (List.mem_reverse.mp hm)) outer
  | closeObject =>
    obtain ⟨members, outer⟩ := List.forall_mem_cons.mp frames
    have entries := fun member hm => members member (List.mem_reverse.mp hm)
    exact settled_deliver (settled_ofMembers entries) outer

end Reader

theorem tokens_of_parse? (h : parse? text = some value) :
    ∃ (tokens : List Token) (last : Reader), (∀ token ∈ tokens, token.Plain) ∧
      Token.first? text = tokens.head? ∧ tokens.foldlM Reader.step? .start = some last ∧
      last.awaited = .nothing value := by
  obtain ⟨tokens, read, h⟩ := Option.bind_eq_some_iff.mp h
  obtain ⟨last, folded, result⟩ := Option.bind_eq_some_iff.mp h
  have first : Token.first? text = tokens.head? := Text.Scanner.scanFirst?_eq_head? _ read
  refine ⟨tokens, last, Token.plain_ofText? read, first, folded, ?_⟩
  unfold Reader.result? at result
  split at result
  · rename_i awaited
    cases result
    exact awaited
  · cases result

theorem settled_of_parse? (h : parse? text = some value) : value.Settled := by
  obtain ⟨tokens, last, plain, -, folded, result⟩ := tokens_of_parse? h
  have start : Reader.start.Settled := ⟨List.forall_mem_nil _, trivial⟩
  have settled : last.Settled :=
    Reader.of_foldlM_step? (fun _ _ _ plain steps => steps.settled plain) plain start folded
  have awaited := settled.awaited
  rw [result] at awaited
  exact awaited

-- ---------------------------------------------------------------------------
-- First tokens
-- ---------------------------------------------------------------------------

namespace Reader

def InArray (frames : List Frame) : Prop := ∃ inner bottom, frames = inner ++ [.items bottom]

/-- The text will not turn out to be an object. -/
def NoObject (reader : Reader) : Prop :=
  (InArray reader.frames ∧ ∀ value, reader.awaited ≠ .nothing value) ∨
    ∃ value, reader = ⟨[], .nothing value⟩ ∧ ∀ members, value ≠ .object members

theorem noObject_deliver (value : Json) {frames : List Frame} (h : InArray frames) :
    NoObject (deliver value frames) := by
  obtain ⟨inner, bottom, rfl⟩ := h
  cases inner with
  | nil => exact .inl ⟨⟨[], value :: bottom, rfl⟩, nofun⟩
  | cons frame inner =>
    cases frame with
    | items done => exact .inl ⟨⟨.items (value :: done) :: inner, bottom, rfl⟩, nofun⟩
    | members done name =>
      exact .inl ⟨⟨.members ((name, value) :: done) name :: inner, bottom, rfl⟩, nofun⟩

/-- The array that is closed may be the outermost container itself. -/
theorem noObject_closeArray (values : List Json) (h : InArray (.items done :: outer)) :
    NoObject (deliver (.array values) outer) := by
  obtain ⟨inner, bottom, held⟩ := h
  cases inner with
  | nil =>
    obtain ⟨-, rfl⟩ := List.cons.inj held
    exact .inr ⟨_, rfl, nofun⟩
  | cons frame inner =>
    obtain ⟨-, rfl⟩ := List.cons.inj held
    exact noObject_deliver _ ⟨inner, bottom, rfl⟩

theorem inArray_of_members (h : InArray (.members done name :: outer)) : InArray outer := by
  obtain ⟨inner, bottom, held⟩ := h
  cases inner with
  | nil => cases held
  | cons frame inner =>
    obtain ⟨-, rfl⟩ := List.cons.inj held
    exact ⟨inner, bottom, rfl⟩

theorem inArray_cons {frames : List Frame} (frame : Frame) (h : InArray frames) :
    InArray (frame :: frames) := by
  obtain ⟨inner, bottom, rfl⟩ := h
  exact ⟨frame :: inner, bottom, rfl⟩

theorem Steps.noObject {reader next : Reader} (h : Steps reader token next)
    (before : reader.NoObject) : next.NoObject := by
  rcases before with ⟨inside, -⟩ | ⟨value, rfl, -⟩
  · cases h with
    | scalar => exact noObject_deliver _ inside
    | openArray => exact .inl ⟨inArray_cons _ inside, nofun⟩
    | openObject => exact .inl ⟨inside, nofun⟩
    | emptyArray => exact noObject_closeArray _ inside
    | emptyObject => exact noObject_deliver _ inside
    | name => exact .inl ⟨inside, nofun⟩
    | colon => exact .inl ⟨inArray_cons _ inside, nofun⟩
    | nextItem => exact .inl ⟨inside, nofun⟩
    | nextMember => exact .inl ⟨inArray_of_members inside, nofun⟩
    | closeArray => exact noObject_closeArray _ inside
    | closeObject => exact noObject_deliver _ (inArray_of_members inside)
  · -- Nothing may follow the value of a text.
    cases h with
    | scalar opens | openArray opens | openObject opens => exact opens.elim

end Reader

theorem first_ne_of_object {token : Token} (h : parse? text = some (.object members))
    (other : token = .openBracket ∨ ∃ value, token = .scalar value) :
    Token.first? text ≠ some token := by
  obtain ⟨tokens, last, plain, first, folded, result⟩ := tokens_of_parse? h
  rw [first]
  cases tokens with
  | nil => exact nofun
  | cons head rest =>
    intro same
    obtain rfl : head = token := Option.some.inj same
    obtain ⟨headPlain, restPlain⟩ := List.forall_mem_cons.mp plain
    rw [List.foldlM_cons] at folded
    obtain ⟨next, stepped, folded⟩ := Option.bind_eq_some_iff.mp folded
    have begun : next.NoObject := by
      rcases other with rfl | ⟨value, rfl⟩
      · cases stepped
        exact .inl ⟨⟨[], [], rfl⟩, nofun⟩
      · cases stepped
        refine .inr ⟨value, rfl, ?_⟩
        rintro members rfl
        exact headPlain
    have ended : last.NoObject :=
      Reader.of_foldlM_step? (fun _ _ _ _ steps => steps.noObject) restPlain begun folded
    rcases ended with ⟨-, unfinished⟩ | ⟨value, rfl, noObject⟩
    · exact unfinished _ result
    · cases result
      exact noObject members rfl

theorem parseMembers_ok (h : parseMembers text = .ok members) :
    parse? text = some (.object members) := by
  unfold parseMembers at h
  split at h
  · cases h
  · cases h
  · split at h
    · rename_i hparse
      cases h
      exact hparse
    · cases h
    · cases h

theorem parseMembers_object (h : parse? text = some (.object members)) :
    parseMembers text = .ok members := by
  unfold parseMembers
  split
  · rename_i bracket
    exact absurd bracket (first_ne_of_object h (.inl rfl))
  · rename_i value scalar
    exact absurd scalar (first_ne_of_object h (.inr ⟨value, rfl⟩))
  · rw [h]

theorem parseMembers_shape (h : parse? text = some value)
    (other : ∀ members, value ≠ .object members) : parseMembers text = .error .shape := by
  unfold parseMembers
  split
  · rfl
  · rfl
  · rw [h]
    cases value with
    | object members => exact absurd rfl (other members)
    | _ => rfl

theorem parse?_eq (chars : text.toList = l)
    (read : (Token.scanner.scan? .between [] l).bind ofTokens? = some value) :
    parse? text = some value := by
  subst chars
  exact read

end Json

theorem toList_append_eq {a b : String} (ha : a.toList = l) (hb : b.toList = m) :
    (a ++ b).toList = l ++ m := by
  rw [String.toList_append, ha, hb]

theorem fromUTF8?_toUTF8 (text : String) : String.fromUTF8? text.toUTF8 = some text :=
  dif_pos text.isValidUTF8

end Dataspace
