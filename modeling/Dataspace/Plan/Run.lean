import Dataspace.Plan.Basic
import Dataspace.Text.Basic

/-!
# Running plans

A plan meets a network, which answers each call knowing all earlier exchanges,
and a stream of fresh identifiers. Running it extends the history of what
happened; a call that gets no answer ends the plan, and what happened until
then remains.

Identifiers are random 128-bit numbers in the form `urn:uuid:`, with the four
bits of the version and the two of the variant set. A rehearsal is a network that
follows a script: the first rule of the call's method whose fragment occurs in the
address answers, and uses itself up if its uses are counted. Without a rule nothing
is found, and everything can be created.
-/

namespace Dataspace

inductive Event
  | exchanged (exchange : Exchange)
  | noted (notice : Notice)
  | minted (id : String)
  | claimed (slot : Slot)

namespace Event

def exchange? : Event → Option Exchange
  | .exchanged exchange => some exchange
  | _ => none

def notice? : Event → Option Notice
  | .noted notice => some notice
  | _ => none

def minted? : Event → Option String
  | .minted id => some id
  | _ => none

def slot? : Event → Option Slot
  | .claimed slot => some slot
  | _ => none

end Event

/-- What a call of a plan meets: an answer, or the reason why none comes. -/
abbrev Network := List Exchange → Call → Except String Response

/-- The network, and the `n`-th fresh identifier. -/
structure World where
  network : Network
  identifier : Nat → String

structure Progress where
  rotation : Rotation
  minted : Nat
  history : List Event

namespace Progress

def start (rotation : Rotation) : Progress := ⟨rotation, 0, []⟩

def exchanges (progress : Progress) : List Exchange :=
  progress.history.filterMap Event.exchange?

def add (progress : Progress) (event : Event) : Progress :=
  { progress with history := progress.history ++ [event] }

end Progress

inductive Failure
  | unanswered (call : Call) (reason : String)
  | stuck

namespace Plan

def run (world : World) : Plan α → Progress → Except Failure α × Progress
  | .done a, progress => (.ok a, progress)
  | .stuck, progress => (.error .stuck, progress)
  | .call request next, progress =>
    match world.network progress.exchanges request with
    | .ok answer => (next answer).run world (progress.add (.exchanged ⟨request, .ok answer⟩))
    | .error reason =>
      (.error (.unanswered request reason), progress.add (.exchanged ⟨request, .error reason⟩))
  | .note notice next, progress => next.run world (progress.add (.noted notice))
  | .mint next, progress =>
    let id := world.identifier progress.minted
    (next id).run world { progress.add (.minted id) with minted := progress.minted + 1 }
  | .claim next, progress =>
    let (slot, rotation) := progress.rotation.claim
    (next slot).run world { progress.add (.claimed slot) with rotation := rotation }

@[simp] theorem run_pure (world : World) (a : α) (progress : Progress) :
    (pure a : Plan α).run world progress = (.ok a, progress) := rfl

theorem run_bind (world : World) (plan : Plan α) (next : α → Plan β) (progress : Progress) :
    (plan >>= next).run world progress = match plan.run world progress with
      | (.ok a, later) => (next a).run world later
      | (.error failure, later) => (.error failure, later) := by
  change (plan.bind next).run world progress = _
  induction plan generalizing progress with
  | done a => rfl
  | stuck => rfl
  | call request rest ih =>
    simp only [bind, run]
    cases world.network progress.exchanges request with
    | ok answer => exact ih answer _
    | error reason => rfl
  | note notice rest ih => exact ih _
  | mint rest ih => exact ih _ _
  | claim rest ih => exact ih _ _

end Plan

def Failure.message? : Failure → Option String
  | .unanswered call reason =>
    some (call.method.name ++ " " ++ call.url ++ " failed: " ++ reason)
  | .stuck => none

end Dataspace

namespace Dataspace.Identifier

-- ---------------------------------------------------------------------------
-- Fresh identifiers
-- ---------------------------------------------------------------------------

def hex (width n : Nat) : List Char :=
  let digits := Nat.toDigits 16 (n % Nat.pow 16 width)
  List.replicate (width - digits.length) '0' ++ digits

/-- Version 4 of the standard variant. -/
def ofBits (bits : Nat) : String :=
  "urn:uuid:" ++ String.ofList (
    hex 8 (bits / Nat.pow 2 96) ++ ['-'] ++
    hex 4 (bits / Nat.pow 2 80) ++ ['-', '4'] ++
    hex 3 (bits / Nat.pow 2 64) ++ ['-'] ++
    hex 4 (0x8000 + bits / Nat.pow 2 48 % 0x4000) ++ ['-'] ++
    hex 12 bits)

/-- Counts up from a random beginning. -/
def stream (beginning : Nat) : Nat → String := fun n => ofBits (beginning + n)

end Dataspace.Identifier

namespace Dataspace

-- ---------------------------------------------------------------------------
-- Rehearsals
-- ---------------------------------------------------------------------------

structure Rule where
  method : Method
  fragment : String
  outcome : Except String Response
  uses : Option Nat

namespace Rule

def covers (rule : Rule) (call : Call) : Bool :=
  rule.method == call.method && Text.contains call.url rule.fragment && rule.uses != some 0

def use (rule : Rule) : Rule := { rule with uses := rule.uses.map (· - 1) }

end Rule

namespace Rehearsal

def spend (call : Call) : List Rule → List Rule
  | [] => []
  | rule :: rest => if rule.covers call then rule.use :: rest else rule :: spend call rest

def unscripted (call : Call) : Response :=
  match call.method with
  | .get => ⟨404, ""⟩
  | .post => ⟨200, "\x7b\x7d"⟩

def answer (rules : List Rule) (call : Call) : Except String Response :=
  match rules.find? fun rule => rule.covers call with
  | some rule => rule.outcome
  | none => .ok (unscripted call)

def network (rules : List Rule) : Network := fun past call =>
  answer (past.foldl (fun rules exchange => spend exchange.call rules) rules) call

end Rehearsal

end Dataspace
