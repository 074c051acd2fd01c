import Dataspace.Proofs.Plan.Supply

/-!
# Plans alongside each other

Two plans go alongside each other if they make the same calls in the same order
whatever each of them is answered, apart from calls that are made aside: of
these one plan may make some that the other does not. Slots and identifiers are
taken in common, and notices do not matter. Runs of such plans in worlds with
the same identifiers, whose networks answer every call in any way they like,
leave both level (`Alongside.run`): the calls that are kept are the same.
-/

namespace Dataspace

-- ---------------------------------------------------------------------------
-- Calls that are kept
-- ---------------------------------------------------------------------------

variable {aside : Call → Bool}

def Progress.kept (aside : Call → Bool) (progress : Progress) : List Call :=
  (progress.exchanges.map Exchange.call).filter fun call => !aside call

/-- From here on slots and identifiers are the same, and until here the calls
were that are kept. -/
structure Progress.Level (aside : Call → Bool) (first second : Progress) : Prop where
  rotation : first.rotation = second.rotation
  minted : first.minted = second.minted
  kept : first.kept aside = second.kept aside

namespace Progress

variable {first second : Progress}

theorem Level.refl (progress : Progress) : progress.Level aside progress := ⟨rfl, rfl, rfl⟩

theorem Level.symm (h : first.Level aside second) : second.Level aside first :=
  ⟨h.rotation.symm, h.minted.symm, h.kept.symm⟩

theorem kept_record (progress : Progress) (event : Event) :
    (progress.record event).kept aside =
      progress.kept aside ++ (Event.calls [event]).filter fun call => !aside call := by
  rw [kept, exchanges_record, List.map_append, List.filter_append]
  rfl

theorem kept_silent (progress : Progress) {event : Event} (silent : event.exchange? = none) :
    (progress.record event).kept aside = progress.kept aside := by
  rw [kept, exchanges_record, List.filterMap_cons_none silent, List.filterMap_nil,
    List.append_nil]
  rfl

theorem kept_aside (progress : Progress) {exchange : Exchange} (made : aside exchange.call) :
    (progress.record (.exchanged exchange)).kept aside = progress.kept aside := by
  rw [kept_record]
  simp [Event.calls, made]

theorem Level.exchanged (h : first.Level aside second) (request : Call)
    (answer reply : Except String Response) :
    (first.record (.exchanged ⟨request, answer⟩)).Level aside
      (second.record (.exchanged ⟨request, reply⟩)) := by
  refine ⟨h.rotation, h.minted, ?_⟩
  rw [kept_record, kept_record, h.kept]
  rfl

theorem Level.made (h : first.Level aside second) {exchange : Exchange}
    (made : aside exchange.call) :
    (first.record (.exchanged exchange)).Level aside second :=
  ⟨h.rotation, h.minted, (kept_aside first made).trans h.kept⟩

theorem Level.noted (h : first.Level aside second) (notice : Notice) :
    (first.record (.noted notice)).Level aside second :=
  ⟨h.rotation, h.minted, (kept_silent first rfl).trans h.kept⟩

theorem Level.minted_one (h : first.Level aside second) (id : String) :
    (first.record (.minted id)).Level aside (second.record (.minted id)) := by
  refine ⟨h.rotation, congrArg (· + 1) h.minted, ?_⟩
  rw [kept_silent first rfl, kept_silent second rfl, h.kept]

theorem Level.claimed (h : first.Level aside second) (slot : Slot) :
    (first.record (.claimed slot)).Level aside (second.record (.claimed slot)) := by
  refine ⟨congrArg (fun rotation => rotation.claim.2) h.rotation, h.minted, ?_⟩
  rw [kept_silent first rfl, kept_silent second rfl, h.kept]

end Progress

namespace Plan

-- ---------------------------------------------------------------------------
-- Plans alongside
-- ---------------------------------------------------------------------------

/-- Calls that both make are the same, and go on alongside from any two answers.
Values at the end are related by `alike`. -/
inductive Alongside (aside : Call → Bool) (alike : α → β → Prop) : Plan α → Plan β → Prop
  | done (h : alike a b) : Alongside aside alike (.done a) (.done b)
  | stuck : Alongside aside alike .stuck .stuck
  | call {next : Response → Plan α} {follow : Response → Plan β} (request : Call)
      (rest : ∀ answer reply, Alongside aside alike (next answer) (follow reply)) :
      Alongside aside alike (.call request next) (.call request follow)
  | made {next : Response → Plan α} {other : Plan β} (h : aside request)
      (rest : ∀ answer, Alongside aside alike (next answer) other) :
      Alongside aside alike (.call request next) other
  | otherMade {plan : Plan α} {follow : Response → Plan β} (h : aside request)
      (rest : ∀ reply, Alongside aside alike plan (follow reply)) :
      Alongside aside alike plan (.call request follow)
  | note {next : Plan α} {other : Plan β} (notice : Notice)
      (rest : Alongside aside alike next other) :
      Alongside aside alike (.note notice next) other
  | otherNote {plan : Plan α} {follow : Plan β} (notice : Notice)
      (rest : Alongside aside alike plan follow) :
      Alongside aside alike plan (.note notice follow)
  | mint {next : String → Plan α} {follow : String → Plan β}
      (rest : ∀ id, Alongside aside alike (next id) (follow id)) :
      Alongside aside alike (.mint next) (.mint follow)
  | claim {next : Slot → Plan α} {follow : Slot → Plan β}
      (rest : ∀ slot, Alongside aside alike (next slot) (follow slot)) :
      Alongside aside alike (.claim next) (.claim follow)

namespace Alongside

-- ---------------------------------------------------------------------------
-- Sequences
-- ---------------------------------------------------------------------------

theorem bind {alike : α → β → Prop} {related : γ → δ → Prop} {plan : Plan α} {other : Plan β}
    {next : α → Plan γ} {follow : β → Plan δ} (first : Alongside aside alike plan other)
    (rest : ∀ a b, alike a b → Alongside aside related (next a) (follow b)) :
    Alongside aside related (plan >>= next) (other >>= follow) := by
  change Alongside aside related (plan.bind next) (other.bind follow)
  induction first with
  | done h => exact rest _ _ h
  | stuck => exact .stuck
  | call request _ ih => exact .call request ih
  | made h _ ih => exact .made h ih
  | otherMade h _ ih => exact .otherMade h ih
  | note notice _ ih => exact .note notice ih
  | otherNote notice _ ih => exact .otherNote notice ih
  | mint _ ih => exact .mint ih
  | claim _ ih => exact .claim ih

theorem bind_eq {related : γ → δ → Prop} {plan other : Plan α} {next : α → Plan γ}
    {follow : α → Plan δ} (first : Alongside aside Eq plan other)
    (rest : ∀ a, Alongside aside related (next a) (follow a)) :
    Alongside aside related (plan >>= next) (other >>= follow) :=
  first.bind fun a _ h => h ▸ rest a

theorem pure {alike : α → β → Prop} (h : alike a b) :
    Alongside aside alike (pure a : Plan α) (pure b : Plan β) := .done h

theorem say (notice other : Notice) : Alongside aside Eq (say notice) (say other) :=
  .note notice (.otherNote other (.done rfl))

theorem freshId : Alongside aside Eq freshId freshId := .mint fun _ => .done rfl

theorem nextSlot : Alongside aside Eq nextSlot nextSlot := .claim fun _ => .done rfl

theorem require (value : Option α) : Alongside aside Eq (require value) (require value) := by
  cases value with
  | none => exact .stuck
  | some a => exact .done rfl

/-- Nothing is known of the two answers. -/
theorem create (resource : Resource) (request : Call) :
    Alongside aside (fun _ _ => True) (create resource request) (create resource request) :=
  .call request fun _ _ => .note _ (.otherNote _ (.done trivial))

theorem mapM {plan : α → Plan β} {items : List α}
    (each : ∀ item ∈ items, Alongside aside Eq (plan item) (plan item)) :
    Alongside aside Eq (items.mapM plan) (items.mapM plan) := by
  induction items with
  | nil => exact .pure rfl
  | cons item items ih =>
    obtain ⟨hitem, hitems⟩ := List.forall_mem_cons.mp each
    rw [List.mapM_cons]
    exact hitem.bind_eq fun _ => (ih hitems).bind_eq fun _ => .pure rfl

end Alongside

-- ---------------------------------------------------------------------------
-- Plans that do nothing but call aside
-- ---------------------------------------------------------------------------

def Quiet (aside : Call → Bool) : Plan α → Prop
  | .done _ => True
  | .call request next => aside request ∧ ∀ answer, (next answer).Quiet aside
  | .note _ next => next.Quiet aside
  | .stuck | .mint _ | .claim _ => False

theorem Quiet.bind {plan : Plan α} {next : α → Plan β} (first : plan.Quiet aside)
    (rest : ∀ a, (next a).Quiet aside) : (plan >>= next).Quiet aside := by
  change (plan.bind next).Quiet aside
  induction plan with
  | done a => exact rest a
  | call request _ ih => exact ⟨first.1, fun answer => ih answer (first.2 answer)⟩
  | note notice _ ih => exact ih first
  | stuck | mint | claim => exact first.elim

theorem Quiet.pure (a : α) : (pure a : Plan α).Quiet aside := trivial

theorem Quiet.say (notice : Notice) : (say notice).Quiet aside := trivial

theorem Quiet.create (resource : Resource) (h : aside request) :
    (create resource request).Quiet aside := ⟨h, fun _ => trivial⟩

theorem Quiet.forM {items : List α} {plan : α → Plan Unit}
    (each : ∀ item ∈ items, (plan item).Quiet aside) : (items.forM plan).Quiet aside := by
  induction items with
  | nil => exact .pure ()
  | cons item items ih =>
    obtain ⟨hitem, hitems⟩ := List.forall_mem_cons.mp each
    rw [List.forM_eq_forM, List.forM_cons]
    exact .bind hitem fun _ => ih hitems

theorem Quiet.alongside {plan : Plan α} {other : Plan β} (h : plan.Quiet aside)
    (hother : other.Quiet aside) : Alongside aside (fun _ _ => True) plan other := by
  induction plan with
  | done a =>
    induction other with
    | done b => exact .done trivial
    | call request _ ih => exact .otherMade hother.1 fun reply => ih reply (hother.2 reply)
    | note notice _ ih => exact .otherNote notice (ih hother)
    | stuck | mint | claim => exact hother.elim
  | call request _ ih => exact .made h.1 fun answer => ih answer (h.2 answer)
  | note notice _ ih => exact .note notice (ih h)
  | stuck | mint | claim => exact h.elim

-- ---------------------------------------------------------------------------
-- Runs
-- ---------------------------------------------------------------------------

inductive EndAlike (alike : α → β → Prop) : Except Failure α → Except Failure β → Prop
  | ok (h : alike a b) : EndAlike alike (.ok a) (.ok b)
  | stuck : EndAlike alike (.error .stuck) (.error .stuck)

theorem Alongside.run {alike : α → β → Prop} {plan : Plan α} {follow : Plan β}
    (h : Alongside aside alike plan follow) {network other : Network}
    (answers : network.AnswersAll) (otherAnswers : other.AnswersAll) (identifier : Nat → String)
    {first second : Progress} (level : first.Level aside second) :
    EndAlike alike (plan.run ⟨network, identifier⟩ first).1
        (follow.run ⟨other, identifier⟩ second).1 ∧
      (plan.run ⟨network, identifier⟩ first).2.Level aside
        (follow.run ⟨other, identifier⟩ second).2 := by
  -- Calls made aside add to one history only, which `level` does not see.
  induction h generalizing first second with
  | done h => exact ⟨.ok h, level⟩
  | stuck => exact ⟨.stuck, level⟩
  | call request _ ih =>
    obtain ⟨answer, hanswer⟩ := answers first.exchanges request
    obtain ⟨reply, hreply⟩ := otherAnswers second.exchanges request
    simp only [Plan.run, hanswer, hreply]
    exact ih answer reply (level.exchanged request (.ok answer) (.ok reply))
  | @made request _ _ h _ ih =>
    obtain ⟨answer, hanswer⟩ := answers first.exchanges request
    simp only [Plan.run, hanswer]
    exact ih answer (level.made h)
  | @otherMade request _ _ h _ ih =>
    obtain ⟨reply, hreply⟩ := otherAnswers second.exchanges request
    simp only [Plan.run, hreply]
    exact ih reply (level.symm.made h).symm
  | note notice _ ih => exact ih (level.noted notice)
  | otherNote notice _ ih => exact ih (level.symm.noted notice).symm
  | mint _ ih =>
    have hid : identifier second.minted = identifier first.minted :=
      congrArg identifier level.minted.symm
    simp only [Plan.run, hid]
    exact ih _ (level.minted_one (identifier first.minted))
  | claim _ ih =>
    have hslot : second.rotation.claim.1 = first.rotation.claim.1 :=
      congrArg (fun rotation => rotation.claim.1) level.rotation.symm
    simp only [Plan.run, hslot]
    exact ih _ (level.claimed first.rotation.claim.1)

end Plan

end Dataspace
