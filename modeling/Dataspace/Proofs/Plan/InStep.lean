import Dataspace.Proofs.Plan.Supply
import Mathlib.Data.List.Forall2

/-!
# Plans in step

Two plans are in step if each step of one is a step of the same kind of the
other, whatever is answered, minted and claimed. Their calls are then related one
by one, and so are the values they end with. Where answers depend on nothing but
how many calls came before, runs of plans in step stay in step (`InStep.run`).
-/

namespace Dataspace

/-- Each call gets the answer at its position, whatever it asks. -/
def World.inOrder (answers : Nat → Except String Response) (identifier : Nat → String) : World where
  network past _ := answers past.length
  identifier := identifier

structure Exchange.Related (same : Call → Call → Prop) (first second : Exchange) : Prop where
  call : same first.call second.call
  answer : first.answer = second.answer

/-- From here on slots, identifiers and positions are the same. -/
structure Progress.Abreast (first second : Progress) : Prop where
  rotation : first.rotation = second.rotation
  minted : first.minted = second.minted
  calls : first.exchanges.length = second.exchanges.length

namespace Progress

variable {first second : Progress}

theorem Abreast.refl (progress : Progress) : progress.Abreast progress := ⟨rfl, rfl, rfl⟩

theorem Abreast.exchanged (h : first.Abreast second) (exchange other : Exchange) :
    (first.record (.exchanged exchange)).Abreast (second.record (.exchanged other)) :=
  ⟨h.rotation, h.minted, by simp [exchanges_record, h.calls]⟩

theorem Abreast.noted (h : first.Abreast second) (notice other : Notice) :
    (first.record (.noted notice)).Abreast (second.record (.noted other)) :=
  ⟨h.rotation, h.minted, by simp [exchanges_record, h.calls, List.filterMap_cons]⟩

theorem Abreast.minted_one (h : first.Abreast second) (id : String) :
    (first.record (.minted id)).Abreast (second.record (.minted id)) :=
  ⟨h.rotation, congrArg (· + 1) h.minted, by simp [exchanges_record, h.calls]⟩

theorem Abreast.claimed (h : first.Abreast second) (slot : Slot) :
    (first.record (.claimed slot)).Abreast (second.record (.claimed slot)) :=
  ⟨congrArg (fun rotation => rotation.claim.2) h.rotation, h.minted,
    by simp [exchanges_record, h.calls]⟩

end Progress

theorem forall₂_true {items : List α} {others : List β} (h : items.length = others.length) :
    List.Forall₂ (fun _ _ => True) items others :=
  List.forall₂_of_length_eq_of_get h fun _ _ _ => trivial

theorem forall₂_eq {items others : List α} (h : items = others) :
    List.Forall₂ Eq items others := by
  rw [h, List.forall₂_eq_eq_eq]

namespace Plan

/-- Calls at the same step are related by `same`, values at the end by `alike`. -/
inductive InStep (same : Call → Call → Prop) (alike : α → β → Prop) : Plan α → Plan β → Prop
  | done (h : alike a b) : InStep same alike (.done a) (.done b)
  | stuck : InStep same alike .stuck .stuck
  | call {next : Response → Plan α} {follow : Response → Plan β} (h : same request other)
      (rest : ∀ answer, InStep same alike (next answer) (follow answer)) :
      InStep same alike (.call request next) (.call other follow)
  | note {next : Plan α} {follow : Plan β} (notice other : Notice)
      (rest : InStep same alike next follow) :
      InStep same alike (.note notice next) (.note other follow)
  | mint {next : String → Plan α} {follow : String → Plan β}
      (rest : ∀ id, InStep same alike (next id) (follow id)) :
      InStep same alike (.mint next) (.mint follow)
  | claim {next : Slot → Plan α} {follow : Slot → Plan β}
      (rest : ∀ slot, InStep same alike (next slot) (follow slot)) :
      InStep same alike (.claim next) (.claim follow)

namespace InStep

variable {same : Call → Call → Prop}

-- ---------------------------------------------------------------------------
-- Sequences
-- ---------------------------------------------------------------------------

/-- What follows need be in step only for values that the first plans can have. -/
theorem bind_trace {alike : α → β → Prop} {related : γ → δ → Prop} {plan : Plan α}
    {other : Plan β} {next : α → Plan γ} {follow : β → Plan δ}
    (first : InStep same alike plan other)
    (rest : ∀ a b, alike a b → (∃ events, Trace plan events (some a)) →
      (∃ events, Trace other events (some b)) → InStep same related (next a) (follow b)) :
    InStep same related (plan >>= next) (other >>= follow) := by
  change InStep same related (plan.bind next) (other.bind follow)
  induction first with
  | done h => exact rest _ _ h ⟨_, .done _⟩ ⟨_, .done _⟩
  | stuck => exact .stuck
  | call h _ ih =>
    exact .call h fun answer => ih answer fun a b hab ⟨_, ha⟩ ⟨_, hb⟩ =>
      rest a b hab ⟨_, .answered _ answer ha⟩ ⟨_, .answered _ answer hb⟩
  | note notice other _ ih =>
    exact .note notice other (ih fun a b hab ⟨_, ha⟩ ⟨_, hb⟩ =>
      rest a b hab ⟨_, .noted notice ha⟩ ⟨_, .noted other hb⟩)
  | mint _ ih =>
    exact .mint fun id => ih id fun a b hab ⟨_, ha⟩ ⟨_, hb⟩ =>
      rest a b hab ⟨_, .minted id ha⟩ ⟨_, .minted id hb⟩
  | claim _ ih =>
    exact .claim fun slot => ih slot fun a b hab ⟨_, ha⟩ ⟨_, hb⟩ =>
      rest a b hab ⟨_, .claimed slot ha⟩ ⟨_, .claimed slot hb⟩

theorem imp {alike alike' : α → β → Prop} {plan : Plan α} {other : Plan β}
    (h : InStep same alike plan other) (weaker : ∀ a b, alike a b → alike' a b) :
    InStep same alike' plan other := by
  induction h with
  | done h => exact .done (weaker _ _ h)
  | stuck => exact .stuck
  | call h _ ih => exact .call h ih
  | note notice other _ ih => exact .note notice other ih
  | mint _ ih => exact .mint ih
  | claim _ ih => exact .claim ih

theorem bind {alike : α → β → Prop} {related : γ → δ → Prop} {plan : Plan α} {other : Plan β}
    {next : α → Plan γ} {follow : β → Plan δ} (first : InStep same alike plan other)
    (rest : ∀ a b, alike a b → InStep same related (next a) (follow b)) :
    InStep same related (plan >>= next) (other >>= follow) :=
  first.bind_trace fun a b h _ _ => rest a b h

theorem bind_eq {related : γ → δ → Prop} {plan other : Plan α} {next : α → Plan γ}
    {follow : α → Plan δ} (first : InStep same Eq plan other)
    (rest : ∀ a, InStep same related (next a) (follow a)) :
    InStep same related (plan >>= next) (other >>= follow) :=
  first.bind fun a _ h => h ▸ rest a

-- ---------------------------------------------------------------------------
-- Single steps
-- ---------------------------------------------------------------------------

theorem pure {alike : α → β → Prop} (h : alike a b) :
    InStep same alike (pure a : Plan α) (pure b : Plan β) := .done h

theorem values {alike : α → β → Prop} {plan : Plan α} {other : Plan β}
    (h : InStep same alike plan other) :
    InStep same (fun a b => alike a b ∧ (∃ events, Trace plan events (some a)) ∧
      ∃ events, Trace other events (some b)) plan other := by
  rw [← bind_pure plan, ← bind_pure other]
  refine h.bind_trace fun a b hab ha hb => .pure ⟨hab, ?_, ?_⟩
  · rwa [bind_pure]
  · rwa [bind_pure]

theorem say (notice other : Notice) : InStep same Eq (say notice) (say other) :=
  .note notice other (.done rfl)

theorem ask (h : same request other) : InStep same Eq (ask request) (ask other) :=
  .call h fun _ => .done rfl

theorem freshId : InStep same Eq freshId freshId := .mint fun _ => .done rfl

theorem nextSlot : InStep same Eq nextSlot nextSlot := .claim fun _ => .done rfl

theorem require {alike : α → β → Prop} {value : Option α} {other : Option β}
    (h : Option.Rel alike value other) : InStep same alike (require value) (require other) := by
  cases h with
  | none => exact .stuck
  | some h => exact .done h

theorem create (resource describedAs : Resource) (h : same request other) :
    InStep same Eq (create resource request) (create describedAs other) :=
  (ask h).bind_eq fun _ => (say _ _).bind_eq fun _ => .pure rfl

theorem refl (h : ∀ call, same call call) (plan : Plan α) : InStep same Eq plan plan := by
  induction plan with
  | done a => exact .done rfl
  | stuck => exact .stuck
  | call request _ ih => exact .call (h request) ih
  | note notice _ ih => exact .note notice notice ih
  | mint _ ih => exact .mint ih
  | claim _ ih => exact .claim ih

-- ---------------------------------------------------------------------------
-- Lists of plans
-- ---------------------------------------------------------------------------

theorem mapM {alike : γ → δ → Prop} {plan : α → Plan γ} {other : β → Plan δ}
    (each : List.Forall₂ (fun a b => InStep same alike (plan a) (other b)) items others) :
    InStep same (List.Forall₂ alike) (items.mapM plan) (others.mapM other) := by
  induction each with
  | nil => exact .pure .nil
  | cons first _ ih =>
    rw [List.mapM_cons, List.mapM_cons]
    exact first.bind fun _ _ hvalue => ih.bind fun _ _ hvalues => .pure (.cons hvalue hvalues)

theorem forM {plan : α → Plan Unit} {other : β → Plan Unit}
    (each : List.Forall₂ (fun a b => InStep same Eq (plan a) (other b)) items others) :
    InStep same Eq (items.forM plan) (others.forM other) := by
  rw [List.forM_eq_forM, List.forM_eq_forM]
  induction each with
  | nil => exact .pure rfl
  | cons first _ ih =>
    rw [List.forM_cons, List.forM_cons]
    exact first.bind_eq fun _ => ih

end InStep

-- ---------------------------------------------------------------------------
-- Runs
-- ---------------------------------------------------------------------------

/-- Both runs have a value, or both end early for the same reason in related
calls. -/
inductive SameEnd (same : Call → Call → Prop) (alike : α → β → Prop) :
    Except Failure α → Except Failure β → Prop
  | ok (h : alike a b) : SameEnd same alike (.ok a) (.ok b)
  | unanswered (h : same request other) (reason : String) :
      SameEnd same alike (.error (.unanswered request reason)) (.error (.unanswered other reason))
  | stuck : SameEnd same alike (.error .stuck) (.error .stuck)

structure RunsInStep (same : Call → Call → Prop) (alike : α → β → Prop) (first second : Progress)
    (run : Except Failure α × Progress) (other : Except Failure β × Progress)
    (calls others : List Exchange) : Prop where
  ends : SameEnd same alike run.1 other.1
  abreast : run.2.Abreast other.2
  exchanges : run.2.exchanges = first.exchanges ++ calls
  otherExchanges : other.2.exchanges = second.exchanges ++ others
  related : List.Forall₂ (Exchange.Related same) calls others

section

variable {same : Call → Call → Prop} {alike : α → β → Prop} {first second : Progress}
  {ended : Except Failure α × Progress} {otherEnded : Except Failure β × Progress}

theorem RunsInStep.refl {result : Except Failure α} {otherResult : Except Failure β}
    (abreast : first.Abreast second) (ends : SameEnd same alike result otherResult) :
    RunsInStep same alike first second (result, first) (otherResult, second) [] [] :=
  ⟨ends, abreast, (List.append_nil _).symm, (List.append_nil _).symm, .nil⟩

theorem RunsInStep.silent {event otherEvent : Event}
    (h : RunsInStep same alike (first.record event) (second.record otherEvent) ended otherEnded
      calls others)
    (silent : event.exchange? = none) (otherSilent : otherEvent.exchange? = none) :
    RunsInStep same alike first second ended otherEnded calls others := by
  obtain ⟨ends, abreast, hcalls, hothers, related⟩ := h
  rw [Progress.exchanges_record, List.filterMap_cons_none (by assumption), List.filterMap_nil,
    List.append_nil] at hcalls hothers
  exact ⟨ends, abreast, hcalls, hothers, related⟩

theorem RunsInStep.exchanged {exchange otherExchange : Exchange}
    (h : RunsInStep same alike (first.record (.exchanged exchange))
      (second.record (.exchanged otherExchange)) ended otherEnded calls others)
    (related : exchange.Related same otherExchange) :
    RunsInStep same alike first second ended otherEnded (exchange :: calls)
      (otherExchange :: others) := by
  obtain ⟨ends, abreast, hcalls, hothers, hrelated⟩ := h
  rw [Progress.exchanges_record, List.append_assoc] at hcalls hothers
  exact ⟨ends, abreast, hcalls, hothers, .cons related hrelated⟩

section
variable {same' : Call → Call → Prop} {alike' : α → β → Prop}

theorem SameEnd.imp {result : Except Failure α} {otherResult : Except Failure β}
    (h : SameEnd same alike result otherResult)
    (weaker : ∀ call other, same call other → same' call other)
    (weakerEnd : ∀ a b, alike a b → alike' a b) : SameEnd same' alike' result otherResult := by
  cases h with
  | ok halike => exact .ok (weakerEnd _ _ halike)
  | unanswered hsame reason => exact .unanswered (weaker _ _ hsame) reason
  | stuck => exact .stuck

theorem RunsInStep.imp (h : RunsInStep same alike first second ended otherEnded calls others)
    (weaker : ∀ call other, same call other → same' call other)
    (weakerEnd : ∀ a b, alike a b → alike' a b) :
    RunsInStep same' alike' first second ended otherEnded calls others :=
  ⟨h.ends.imp weaker weakerEnd, h.abreast, h.exchanges, h.otherExchanges,
    h.related.imp fun _ _ related => ⟨weaker _ _ related.call, related.answer⟩⟩

end

theorem InStep.run {plan : Plan α} {follow : Plan β} (h : InStep same alike plan follow)
    (answers : Nat → Except String Response) (identifier : Nat → String)
    (abreast : first.Abreast second) :
    ∃ calls others, RunsInStep same alike first second
      (plan.run (.inOrder answers identifier) first)
      (follow.run (.inOrder answers identifier) second) calls others := by
  -- Answers go by the number of calls before, identifiers by those minted; both stay equal.
  induction h generalizing first second with
  | done h => exact ⟨[], [], .refl abreast (.ok h)⟩
  | stuck => exact ⟨[], [], .refl abreast .stuck⟩
  | @call request otherRequest next follow h _ ih =>
    simp only [Plan.run, World.inOrder, ← abreast.calls]
    cases answers first.exchanges.length with
    | ok answer =>
      obtain ⟨calls, others, hrun⟩ := ih answer
        (abreast.exchanged ⟨request, .ok answer⟩ ⟨otherRequest, .ok answer⟩)
      exact ⟨_, _, hrun.exchanged ⟨h, rfl⟩⟩
    | error reason =>
      have last := abreast.exchanged ⟨request, .error reason⟩ ⟨otherRequest, .error reason⟩
      exact ⟨_, _, .exchanged (.refl last (.unanswered h reason)) ⟨h, rfl⟩⟩
  | note notice otherNotice _ ih =>
    obtain ⟨calls, others, hrun⟩ := ih (abreast.noted notice otherNotice)
    exact ⟨calls, others, hrun.silent rfl rfl⟩
  | @mint next follow _ ih =>
    have hid : identifier second.minted = identifier first.minted :=
      congrArg identifier abreast.minted.symm
    obtain ⟨calls, others, hrun⟩ :=
      ih (identifier first.minted) (abreast.minted_one (identifier first.minted))
    have hsilent := hrun.silent rfl rfl
    simp only [Plan.run, World.inOrder, hid]
    exact ⟨calls, others, hsilent⟩
  | @claim next follow _ ih =>
    have hslot : second.rotation = first.rotation := abreast.rotation.symm
    obtain ⟨calls, others, hrun⟩ :=
      ih first.rotation.claim.1 (abreast.claimed first.rotation.claim.1)
    have hsilent := hrun.silent rfl rfl
    simp only [Progress.record, hslot] at hsilent
    simp only [Plan.run, hslot]
    exact ⟨calls, others, hsilent⟩

theorem trace_of_exchanges {world : World} {plan : Plan α} {progress : Progress}
    (h : (plan.run world progress).2.exchanges = progress.exchanges ++ calls) :
    ∃ events, Trace plan events (plan.run world progress).1.toOption ∧
      events.filterMap Event.exchange? = calls := by
  obtain ⟨events, hlater, htrace, -⟩ := run_trace world plan progress
  rw [hlater, Progress.exchanges_recordAll] at h
  exact ⟨events, htrace, List.append_cancel_left h⟩

/-- Runs in step, with `rel` for what is known of their calls as a whole if they are
complete, and if they are cut off. -/
def RunsLinked (same : Call → Call → Prop) (alike : α → β → Prop)
    (rel : Bool → List Exchange → List Exchange → Prop) (first second : Progress)
    (ended : Except Failure α × Progress) (otherEnded : Except Failure β × Progress) : Prop :=
  ∃ calls others, RunsInStep same alike first second ended otherEnded calls others ∧
    rel ended.1.isOk calls others

theorem RunsInStep.bind {related : γ → δ → Prop}
    {rel link : Bool → List Exchange → List Exchange → Prop}
    {world : World} {plan : Plan α} {follow : Plan β} {next : α → Plan γ} {otherNext : β → Plan δ}
    (h : RunsInStep same alike first second (plan.run world first) (follow.run world second)
      calls others)
    (stop : link false [] [])
    (rest : ∀ a b later otherLater, alike a b → later.Abreast otherLater →
      plan.run world first = (.ok a, later) → follow.run world second = (.ok b, otherLater) →
      RunsLinked same related link later otherLater ((next a).run world later)
        ((otherNext b).run world otherLater))
    (append : ∀ complete more otherMore, link complete more otherMore →
      rel complete (calls ++ more) (others ++ otherMore)) :
    RunsLinked same related rel first second ((plan >>= next).run world first)
      ((follow >>= otherNext).run world second) := by
  obtain ⟨ends, abreast, hcalls, hothers, hrelated⟩ := h
  have halted := append _ _ _ stop
  rw [List.append_nil, List.append_nil] at halted
  rw [run_bind, run_bind]
  generalize plan.run world first = ended at ends abreast hcalls rest ⊢
  generalize follow.run world second = otherEnded at ends abreast hothers rest ⊢
  obtain ⟨result, later⟩ := ended
  obtain ⟨otherResult, otherLater⟩ := otherEnded
  cases ends with
  | @ok a b halike =>
    obtain ⟨more, otherMore, ⟨ends', abreast', hmore, hotherMore, hrelated'⟩, hlink⟩ :=
      rest a b later otherLater halike abreast rfl rfl
    refine ⟨_, _, ⟨ends', abreast', ?_, ?_, List.rel_append hrelated hrelated'⟩,
      append _ _ _ hlink⟩
    · rw [hmore, hcalls, List.append_assoc]
    · rw [hotherMore, hothers, List.append_assoc]
  | unanswered hsame reason =>
    exact ⟨_, _, ⟨.unanswered hsame reason, abreast, hcalls, hothers, hrelated⟩, halted⟩
  | stuck => exact ⟨_, _, ⟨.stuck, abreast, hcalls, hothers, hrelated⟩, halted⟩

end

end Plan

end Dataspace
