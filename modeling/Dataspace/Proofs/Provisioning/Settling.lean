import Dataspace.Proofs.Provisioning.Store

/-!
# Settling needs

A plan of provisioning has needs: policies and offers that connectors shall
have. `Plan.Settles` says that it is carried out to its end, that its needs are
met then, and that it creates no more than was missing; a plan whose needs were
met before only looks things up. Plans that settle their needs can be put in
sequence (`Settles.bind`), since stores only grow.
-/

namespace Dataspace

-- ---------------------------------------------------------------------------
-- Running step by step
-- ---------------------------------------------------------------------------

namespace Progress

@[simp] theorem exchanges_add_exchanged (progress : Progress) (exchange : Exchange) :
    (progress.add (.exchanged exchange)).exchanges = progress.exchanges ++ [exchange] := by
  simp [exchanges, add, Event.exchange?]

@[simp] theorem exchanges_add_noted (progress : Progress) (notice : Notice) :
    (progress.add (.noted notice)).exchanges = progress.exchanges := by
  simp [exchanges, add, Event.exchange?]

end Progress

namespace Plan

variable {world : World} {progress : Progress} {answer : Response}

theorem run_say_bind (next : Unit → Plan α) : (say notice >>= next).run world progress =
    (next ()).run world (progress.add (.noted notice)) := rfl

theorem run_ask_bind (next : Response → Plan α)
    (h : world.network progress.exchanges request = .ok answer) :
    (ask request >>= next).run world progress =
      (next answer).run world (progress.add (.exchanged ⟨request, .ok answer⟩)) := by
  change (Plan.call request next).run world progress = _
  simp only [run, h]

theorem run_create_bind (next : Response → Plan α)
    (h : world.network progress.exchanges request = .ok answer) :
    (create resource request >>= next).run world progress = (next answer).run world
      ((progress.add (.exchanged ⟨request, .ok answer⟩)).add
        (.noted (.answered resource answer))) := by
  unfold create
  simp only [LawfulMonad.bind_assoc]
  rw [run_ask_bind _ h]
  rfl

end Plan

-- ---------------------------------------------------------------------------
-- Needs
-- ---------------------------------------------------------------------------

/-- A policy is needed under its id, as a document that may become it. -/
inductive Need
  | policy (connector id : String) (document : Json)
  | offer (connector : String) (filter : CatalogFilter)

namespace Need

/-- An offer is listed whatever provider is asked for. -/
def Met (stores : Stores) : Need → Prop
  | .policy connector id _ => (stores connector).holds id = true
  | .offer connector filter =>
    ∀ provider, (stores connector).offers (CatalogRequest.mk provider filter).toJson = true

theorem Met.after {stores : Stores} {need : Need} (h : need.Met stores) (past : List Exchange) :
    need.Met (stores.after past) := by
  cases need with
  | policy connector id _ => exact (stores.within_after past connector).holds h
  | offer connector filter => exact fun p => (stores.within_after past connector).offers (h p)

def isPolicy (connector id : String) : Need → Bool
  | .policy target other _ => target == connector && other == id
  | .offer .. => false

theorem isPolicy_eq_true {need : Need} {connector id : String}
    (h : need.isPolicy connector id = true) :
    ∃ document, need = .policy connector id document := by
  cases need with
  | policy target other document =>
    obtain ⟨rfl, rfl⟩ : target = connector ∧ other = id := by simpa [isPolicy] using h
    exact ⟨document, rfl⟩
  | offer => cases h

end Need

structure Settled (stores : Stores) (needs : List Need) (before calls : List Exchange) : Prop where
  met : ∀ need ∈ needs, need.Met (stores.after (before ++ calls))
  idle : (∀ need ∈ needs, need.Met (stores.after before)) →
    ∀ exchange ∈ calls, exchange.call.isLookUp = true
  once : ∀ connector id, calls.countP (fun exchange => exchange.call.createsPolicy connector id) ≤
    if (stores.after before connector).holds id then 0 else 1
  earliest : ∀ exchange ∈ calls, ∀ connector policy id,
    exchange.call = .createPolicy connector policy → policyId? policy = some id →
    needs.find? (Need.isPolicy connector id) = some (.policy connector id policy)

theorem Settled.nil : Settled stores [] before [] where
  met _ h := nomatch h
  idle _ _ h := nomatch h
  once _ _ := Nat.zero_le _
  earliest _ h := nomatch h

theorem Settled.lookUps {stores : Stores} (met : ∀ need ∈ needs, need.Met (stores.after before))
    (lookUps : ∀ exchange ∈ calls, exchange.call.isLookUp = true) :
    Settled stores needs before calls where
  met need hn := by
    rw [Stores.after_append]
    exact (met need hn).after calls
  idle _ := lookUps
  once connector id := by
    have hzero : calls.countP (fun exchange => exchange.call.createsPolicy connector id) = 0 := by
      refine List.countP_eq_zero.mpr fun exchange hx => ?_
      rw [Call.createsPolicy_lookUp (lookUps exchange hx)]
      exact Bool.false_ne_true
    rw [hzero]
    exact Nat.zero_le _
  earliest exchange hx connector policy id hcall _ := by
    have h := lookUps exchange hx
    rw [hcall] at h
    cases h

theorem Settled.append {stores : Stores} (first : Settled stores needs before calls)
    (rest : Settled stores more (before ++ calls) later) :
    Settled stores (needs ++ more) before (calls ++ later) := by
  refine ⟨fun need hn => ?met, fun hmet exchange hx => ?idle, fun connector id => ?once,
    fun exchange hx connector policy id hcall hid => ?earliest⟩
  case met =>
    rcases List.mem_append.mp hn with hn | hn
    · rw [← List.append_assoc, Stores.after_append]
      exact (first.met need hn).after later
    · rw [← List.append_assoc]
      exact rest.met need hn
  case idle =>
    rcases List.mem_append.mp hx with hx | hx
    · exact first.idle (fun need hn => hmet need (List.mem_append_left _ hn)) exchange hx
    · refine rest.idle (fun need hn => ?_) exchange hx
      rw [Stores.after_append]
      exact (hmet need (List.mem_append_right _ hn)).after calls
  case once =>
    have hfirst := first.once connector id
    have hrest := rest.once connector id
    rw [Stores.after_append, Stores.holds_after] at hrest
    rw [List.countP_append]
    -- Once the first calls have created the policy, the rest finds it.
    by_cases hcreated : 0 < calls.countP fun exchange => exchange.call.createsPolicy connector id
    · have hany : calls.any (fun exchange => exchange.call.createsPolicy connector id) = true := by
        simpa [List.any_eq_true, List.countP_pos_iff] using hcreated
      simp only [hany, Bool.or_true, if_true] at hrest
      omega
    · have hany : calls.any (fun exchange => exchange.call.createsPolicy connector id) = false := by
        simpa [List.countP_pos_iff] using hcreated
      simp only [hany, Bool.or_false] at hrest
      omega
  case earliest =>
    rw [List.find?_append]
    rcases List.mem_append.mp hx with hx | hx
    · rw [first.earliest exchange hx connector policy id hcall hid, Option.some_or]
    · rw [rest.earliest exchange hx connector policy id hcall hid]
      -- A need among the first would be met by now, and nothing left to create.
      cases hfind : needs.find? (Need.isPolicy connector id) with
      | none => rfl
      | some need =>
        obtain ⟨document, rfl⟩ := Need.isPolicy_eq_true (List.find?_some hfind)
        have hheld : (stores.after (before ++ calls) connector).holds id = true :=
          first.met _ (List.mem_of_find?_eq_some hfind)
        have hnone := rest.once connector id
        rw [if_pos hheld] at hnone
        have hcreates : exchange.call.createsPolicy connector id = true := by
          simp [hcall, Call.createsPolicy, hid]
        exact absurd hcreates (List.countP_eq_zero.mp (Nat.le_zero.mp hnone) exchange hx)

namespace Plan

def Settles (world : World) (stores : Stores) (plan : Plan Unit) (needs : List Need) : Prop :=
  ∀ progress, ∃ calls, Settled stores needs progress.exchanges calls ∧
    ∃ later, plan.run world progress = (.ok (), later) ∧
      later.exchanges = progress.exchanges ++ calls

variable {world : World} {stores : Stores}

theorem Settles.say (notice : Notice) : (say notice).Settles world stores [] := fun progress =>
  ⟨[], .nil, _, rfl, by simp⟩

theorem Settles.pure : (pure () : Plan Unit).Settles world stores [] := fun progress =>
  ⟨[], .nil, progress, rfl, by simp⟩

theorem Settles.bind {plan : Plan Unit} {next : Unit → Plan Unit}
    (first : plan.Settles world stores needs) (rest : (next ()).Settles world stores more) :
    (plan >>= next).Settles world stores (needs ++ more) := by
  intro progress
  obtain ⟨calls, hsettled, middle, hrun, hx⟩ := first progress
  obtain ⟨later, hsettled', last, hrun', hx'⟩ := rest middle
  rw [hx] at hsettled' hx'
  refine ⟨calls ++ later, hsettled.append hsettled', last, ?_, ?_⟩
  · rw [run_bind, hrun]
    exact hrun'
  · rw [hx', List.append_assoc]

theorem Settles.forM {items : List α} {plan : α → Plan Unit} {needs : α → List Need}
    (each : ∀ item ∈ items, (plan item).Settles world stores (needs item)) :
    (items.forM plan).Settles world stores (items.flatMap needs) := by
  induction items with
  | nil => exact .pure
  | cons item items ih =>
    obtain ⟨hi, hr⟩ := List.forall_mem_cons.mp each
    rw [List.forM_eq_forM, List.forM_cons, List.flatMap_cons]
    exact .bind hi (ih hr)

end Plan

end Dataspace
