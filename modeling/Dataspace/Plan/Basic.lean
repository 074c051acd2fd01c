import Dataspace.Plan.Call

/-!
# Plans

What a run does, step by step, as a value: which calls it makes and how it goes
on from each answer, where it takes fresh identifiers and slots, and what it
tells the operator. A plan knows nothing of the network it will meet.

Slots come from a counter. A slot selects the same position, modulo the length,
from every list. The counter has no greatest value here: where it is a machine word,
it overflows only if a rotation is given that begins within the number of submodels of
the greatest word, and what happens then is left out.
-/

namespace Dataspace

-- ---------------------------------------------------------------------------
-- Rotation
-- ---------------------------------------------------------------------------

structure Slot where
  index : Nat
  deriving DecidableEq, Repr

/-- The empty list has nothing to select. -/
def Slot.pick? (slot : Slot) (items : List α) : Option α := items[slot.index % items.length]?

structure Rotation where
  next : Nat
  deriving DecidableEq, Repr

namespace Rotation

/-- A run begins with the second position. -/
def initial : Rotation := ⟨1⟩

def claim (rotation : Rotation) : Slot × Rotation := (⟨rotation.next⟩, ⟨rotation.next + 1⟩)

@[simp] theorem claim_fst (rotation : Rotation) : rotation.claim.1 = ⟨rotation.next⟩ := rfl

@[simp] theorem claim_snd (rotation : Rotation) : rotation.claim.2 = ⟨rotation.next + 1⟩ := rfl

end Rotation

-- ---------------------------------------------------------------------------
-- Plans
-- ---------------------------------------------------------------------------

/-- `stuck` is a slot used on an empty list: the plan cannot go on. -/
inductive Plan (α : Type) where
  | done (value : α)
  | stuck
  | call (request : Call) (next : Response → Plan α)
  | note (notice : Notice) (next : Plan α)
  | mint (next : String → Plan α)
  | claim (next : Slot → Plan α)

namespace Plan

def bind (plan : Plan α) (next : α → Plan β) : Plan β :=
  match plan with
  | .done a => next a
  | .stuck => .stuck
  | .call request rest => .call request fun answer => (rest answer).bind next
  | .note notice rest => .note notice (rest.bind next)
  | .mint rest => .mint fun id => (rest id).bind next
  | .claim rest => .claim fun slot => (rest slot).bind next

instance : Monad Plan where
  pure := .done
  bind := bind

theorem bind_done (plan : Plan α) : plan.bind .done = plan := by
  induction plan with
  | done a => rfl
  | stuck => rfl
  | call request rest ih => simp only [bind, ih]
  | note notice rest ih => simp only [bind, ih]
  | mint rest ih => simp only [bind, ih]
  | claim rest ih => simp only [bind, ih]

theorem bind_assoc (plan : Plan α) (f : α → Plan β) (g : β → Plan γ) :
    (plan.bind f).bind g = plan.bind fun a => (f a).bind g := by
  induction plan with
  | done a => rfl
  | stuck => rfl
  | call request rest ih => simp only [bind, ih]
  | note notice rest ih => simp only [bind, ih]
  | mint rest ih => simp only [bind, ih]
  | claim rest ih => simp only [bind, ih]

instance : LawfulMonad Plan :=
  LawfulMonad.mk' Plan (fun plan => bind_done plan) (fun _ _ => rfl) bind_assoc

def ask (request : Call) : Plan Response := .call request .done

def say (notice : Notice) : Plan Unit := .note notice (.done ())

def freshId : Plan String := .mint .done

def nextSlot : Plan Slot := .claim .done

def require : Option α → Plan α
  | some a => .done a
  | none => .stuck

/-- A creating call, whose answer is reported before the plan goes on. -/
def create (resource : Resource) (request : Call) : Plan Response := do
  let answer ← ask request
  say (.answered resource answer)
  return answer

end Plan

end Dataspace
