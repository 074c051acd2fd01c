import Dataspace.Plan.Run

/-!
# Traces of plans

`Plan.Trace` is everything a plan can do, whatever network it meets: the events
of one execution in order, and its value unless it ended early. A trace of a
sequence of plans is a trace of the first followed by one of the rest
(`trace_bind`), so what is said of traces needs no network. `run_trace` ties
traces to runs: a run is the trace that its world supplies.

A relation between what is due before some events and what is due after them can be
put together along a sequence. A plan follows such a relation (`Follows`) if each of
its traces does, and a trace that gets to its end leaves due just what it should.
-/

namespace Dataspace

attribute [simp] Event.exchange? Event.notice? Event.minted? Event.slot?

theorem Event.mem_exchanges {events : List Event} :
    exchange ∈ events.filterMap Event.exchange? ↔ .exchanged exchange ∈ events := by
  rw [List.mem_filterMap]
  constructor
  · rintro ⟨event, he, hevent⟩
    cases event with
    | exchanged other =>
      cases hevent
      exact he
    | _ => cases hevent
  · exact fun h => ⟨_, h, rfl⟩

def Event.calls (events : List Event) : List Call :=
  (events.filterMap Event.exchange?).map Exchange.call

theorem Event.calls_append (events later : List Event) :
    calls (events ++ later) = calls events ++ calls later := by
  rw [calls, List.filterMap_append, List.map_append]
  rfl

section
variable (notices : List Notice)

@[simp] theorem Event.exchanges_noted :
    notices.filterMap (Event.exchange? ∘ Event.noted) = [] :=
  List.filterMap_eq_nil_iff.mpr fun _ _ => rfl

@[simp] theorem Event.ids_noted : notices.filterMap (Event.minted? ∘ Event.noted) = [] :=
  List.filterMap_eq_nil_iff.mpr fun _ _ => rfl

@[simp] theorem Event.slots_noted : notices.filterMap (Event.slot? ∘ Event.noted) = [] :=
  List.filterMap_eq_nil_iff.mpr fun _ _ => rfl

end

namespace Plan

/-- The outcome is `none` if the plan got stuck or a call was not answered. -/
inductive Trace : Plan α → List Event → Option α → Prop
  | done (a : α) : Trace (.done a) [] (some a)
  | stuck : Trace .stuck [] none
  | answered (request : Call) (answer : Response) {next : Response → Plan α}
      (rest : Trace (next answer) events outcome) :
      Trace (.call request next) (.exchanged ⟨request, .ok answer⟩ :: events) outcome
  | unanswered (request : Call) (reason : String) (next : Response → Plan α) :
      Trace (.call request next) [.exchanged ⟨request, .error reason⟩] none
  | noted (notice : Notice) {next : Plan α} (rest : Trace next events outcome) :
      Trace (.note notice next) (.noted notice :: events) outcome
  | minted (id : String) {next : String → Plan α} (rest : Trace (next id) events outcome) :
      Trace (.mint next) (.minted id :: events) outcome
  | claimed (slot : Slot) {next : Slot → Plan α} (rest : Trace (next slot) events outcome) :
      Trace (.claim next) (.claimed slot :: events) outcome

-- ---------------------------------------------------------------------------
-- Sequences
-- ---------------------------------------------------------------------------

theorem Trace.append {plan : Plan α} {next : α → Plan β} (first : Trace plan events (some a))
    (rest : Trace (next a) later outcome) :
    Trace (plan >>= next) (events ++ later) outcome := by
  change Trace (plan.bind next) _ _
  generalize ho : some a = o at first
  induction first with
  | done b =>
    cases ho
    exact rest
  | stuck => cases ho
  | answered request answer _ ih => exact .answered request answer (ih ho)
  | unanswered => cases ho
  | noted notice _ ih => exact .noted notice (ih ho)
  | minted id _ ih => exact .minted id (ih ho)
  | claimed slot _ ih => exact .claimed slot (ih ho)

theorem Trace.abort {plan : Plan α} {next : α → Plan β} (first : Trace plan events none) :
    Trace (plan >>= next) events none := by
  change Trace (plan.bind next) _ _
  generalize ho : none = o at first
  induction first with
  | done b => cases ho
  | stuck => exact .stuck
  | answered request answer _ ih => exact .answered request answer (ih ho)
  | unanswered request reason => exact .unanswered request reason _
  | noted notice _ ih => exact .noted notice (ih ho)
  | minted id _ ih => exact .minted id (ih ho)
  | claimed slot _ ih => exact .claimed slot (ih ho)

/-- A sequence either gets past its first plan, or ends where that plan ends. -/
theorem trace_bind {plan : Plan α} {next : α → Plan β} :
    Trace (plan >>= next) events outcome ↔
      (∃ a first rest, events = first ++ rest ∧ Trace plan first (some a) ∧
        Trace (next a) rest outcome) ∨
      (outcome = none ∧ Trace plan events none) := by
  constructor
  · intro h
    -- Over the first plan: its `done` is where the second begins.
    change Trace (plan.bind next) _ _ at h
    induction plan generalizing events with
    | done a => exact .inl ⟨a, [], events, rfl, .done a, h⟩
    | stuck =>
      cases h
      exact .inr ⟨rfl, .stuck⟩
    | call request rest ih =>
      cases h with
      | answered _ answer h =>
        rcases ih answer h with ⟨a, first, later, rfl, hf, hl⟩ | ⟨rfl, hf⟩
        · exact .inl ⟨a, _ :: first, later, rfl, .answered request answer hf, hl⟩
        · exact .inr ⟨rfl, .answered request answer hf⟩
      | unanswered _ reason => exact .inr ⟨rfl, .unanswered request reason _⟩
    | note notice rest ih =>
      cases h with
      | noted _ h =>
        rcases ih h with ⟨a, first, later, rfl, hf, hl⟩ | ⟨rfl, hf⟩
        · exact .inl ⟨a, _ :: first, later, rfl, .noted notice hf, hl⟩
        · exact .inr ⟨rfl, .noted notice hf⟩
    | mint rest ih =>
      cases h with
      | minted id h =>
        rcases ih id h with ⟨a, first, later, rfl, hf, hl⟩ | ⟨rfl, hf⟩
        · exact .inl ⟨a, _ :: first, later, rfl, .minted id hf, hl⟩
        · exact .inr ⟨rfl, .minted id hf⟩
    | claim rest ih =>
      cases h with
      | claimed slot h =>
        rcases ih slot h with ⟨a, first, later, rfl, hf, hl⟩ | ⟨rfl, hf⟩
        · exact .inl ⟨a, _ :: first, later, rfl, .claimed slot hf, hl⟩
        · exact .inr ⟨rfl, .claimed slot hf⟩
  · rintro (⟨a, first, rest, rfl, hf, hr⟩ | ⟨rfl, h⟩)
    · exact hf.append hr
    · exact h.abort

theorem trace_bind_some {plan : Plan α} {next : α → Plan β} :
    Trace (plan >>= next) events (some b) ↔
      ∃ a first rest, events = first ++ rest ∧ Trace plan first (some a) ∧
        Trace (next a) rest (some b) := by
  simp [trace_bind]

-- ---------------------------------------------------------------------------
-- Single steps
-- ---------------------------------------------------------------------------

@[simp] theorem trace_pure : Trace (pure a : Plan α) events outcome ↔
    events = [] ∧ outcome = some a := by
  constructor
  · intro h
    cases h
    exact ⟨rfl, rfl⟩
  · rintro ⟨rfl, rfl⟩
    exact .done a

@[simp] theorem trace_say : Trace (say notice) events outcome ↔
    events = [.noted notice] ∧ outcome = some () := by
  constructor
  · intro h
    cases h with
    | noted _ h =>
      cases h
      exact ⟨rfl, rfl⟩
  · rintro ⟨rfl, rfl⟩
    exact .noted notice (.done ())

theorem trace_say_bind {next : Unit → Plan α} : Trace (say notice >>= next) events outcome ↔
    ∃ rest, events = .noted notice :: rest ∧ Trace (next ()) rest outcome := by
  constructor
  · intro h
    cases h with
    | noted _ h => exact ⟨_, rfl, h⟩
  · rintro ⟨rest, rfl, h⟩
    exact .noted notice h

@[simp] theorem trace_freshId : Trace freshId events outcome ↔
    ∃ id, events = [.minted id] ∧ outcome = some id := by
  constructor
  · intro h
    cases h with
    | minted id h =>
      cases h
      exact ⟨id, rfl, rfl⟩
  · rintro ⟨id, rfl, rfl⟩
    exact .minted id (.done id)

theorem trace_freshId_bind {next : String → Plan α} :
    Trace (freshId >>= next) events outcome ↔
      ∃ id rest, events = .minted id :: rest ∧ Trace (next id) rest outcome := by
  constructor
  · intro h
    cases h with
    | minted id h => exact ⟨id, _, rfl, h⟩
  · rintro ⟨id, rest, rfl, h⟩
    exact .minted id h

theorem trace_nextSlot_bind {next : Slot → Plan α} :
    Trace (nextSlot >>= next) events outcome ↔
      ∃ slot rest, events = .claimed slot :: rest ∧ Trace (next slot) rest outcome := by
  constructor
  · intro h
    cases h with
    | claimed slot h => exact ⟨slot, _, rfl, h⟩
  · rintro ⟨slot, rest, rfl, h⟩
    exact .claimed slot h

theorem trace_ask : Trace (ask request) events outcome ↔
    ∃ answer, events = [.exchanged ⟨request, answer⟩] ∧ outcome = answer.toOption := by
  constructor
  · intro h
    cases h with
    | answered _ answer h =>
      cases h
      exact ⟨.ok answer, rfl, rfl⟩
    | unanswered _ reason => exact ⟨.error reason, rfl, rfl⟩
  · rintro ⟨answer | answer, rfl, rfl⟩
    · exact .unanswered request answer _
    · exact .answered request answer (.done answer)

theorem trace_ask_bind_some {next : Response → Plan α} :
    Trace (ask request >>= next) events (some a) ↔ ∃ answer rest,
      events = .exchanged ⟨request, .ok answer⟩ :: rest ∧ Trace (next answer) rest (some a) := by
  constructor
  · intro h
    cases h with
    | answered _ answer h => exact ⟨answer, _, rfl, h⟩
  · rintro ⟨answer, rest, rfl, h⟩
    exact .answered request answer h

theorem trace_create : Trace (create resource request) events outcome ↔
    (∃ answer, events = [.exchanged ⟨request, .ok answer⟩, .noted (.answered resource answer)] ∧
      outcome = some answer) ∨
    ∃ reason, events = [.exchanged ⟨request, .error reason⟩] ∧ outcome = none := by
  unfold create
  simp only [trace_bind, trace_ask, trace_say, trace_pure]
  constructor
  · rintro (⟨a, first, rest, rfl, ⟨answer, rfl, ha⟩, h⟩ | ⟨rfl, answer, rfl, ha⟩)
    · cases answer with
      | error reason => cases ha
      | ok answer =>
        cases ha
        obtain ⟨_, _, _, rfl, ⟨rfl, _⟩, rfl, rfl⟩ | ⟨_, _, h⟩ := h
        · exact .inl ⟨a, rfl, rfl⟩
        · cases h
    · cases answer with
      | error reason => exact .inr ⟨reason, rfl, rfl⟩
      | ok answer => cases ha
  · rintro (⟨answer, rfl, rfl⟩ | ⟨reason, rfl, rfl⟩)
    · exact .inl ⟨answer, [_], [_], rfl, ⟨.ok answer, rfl, rfl⟩,
        .inl ⟨(), [_], [], rfl, ⟨rfl, trivial⟩, rfl, rfl⟩⟩
    · exact .inr ⟨rfl, .error reason, rfl, rfl⟩

-- ---------------------------------------------------------------------------
-- Lists of plans
-- ---------------------------------------------------------------------------

/-- One plan for each item, each of them carried out to its end. -/
inductive TraceEach (plan : α → Plan β) : List α → List Event → List β → Prop
  | nil : TraceEach plan [] [] []
  | cons (first : Trace (plan a) events (some b)) (rest : TraceEach plan items later values) :
      TraceEach plan (a :: items) (events ++ later) (b :: values)

theorem TraceEach.length_eq (h : TraceEach plan items events values) :
    values.length = items.length := by
  induction h with
  | nil => rfl
  | cons _ _ ih => simp [ih]

theorem TraceEach.exists_of_mem (h : TraceEach plan items events values) (hi : item ∈ items) :
    ∃ part value, Trace (plan item) part (some value) ∧ part ⊆ events := by
  induction h with
  | nil => cases hi
  | cons first _ ih =>
    rcases List.mem_cons.mp hi with rfl | hi
    · exact ⟨_, _, first, List.subset_append_left _ _⟩
    · obtain ⟨part, value, ht, hsub⟩ := ih hi
      exact ⟨part, value, ht, List.subset_append_of_subset_right _ hsub⟩

theorem trace_mapM_some {plan : α → Plan β} (h : Trace (items.mapM plan) events (some values)) :
    TraceEach plan items events values := by
  induction items generalizing events values with
  | nil =>
    rw [List.mapM_nil, trace_pure] at h
    obtain ⟨rfl, h⟩ := h
    cases h
    exact .nil
  | cons item items ih =>
    simp only [List.mapM_cons, trace_bind, trace_pure, reduceCtorEq, false_and, or_false] at h
    obtain ⟨b, first, _, rfl, hb, bs, rest, _, rfl, hr, rfl, hv⟩ := h
    cases hv
    rw [List.append_nil]
    exact .cons hb (ih hr)

theorem trace_mapM_none {plan : α → Plan β} (h : Trace (items.mapM plan) events none) :
    ∃ before item after first last values, items = before ++ item :: after ∧
      events = first ++ last ∧ TraceEach plan before first values ∧
      Trace (plan item) last none := by
  induction items generalizing events with
  | nil => simp at h
  | cons item items ih =>
    simp only [List.mapM_cons, trace_bind, trace_pure, true_and] at h
    rcases h with ⟨b, first, _, rfl, hb, h⟩ | h
    · rcases h with ⟨_, _, _, _, _, _, h⟩ | h
      · cases h
      · obtain ⟨before, next, after, later, last, values, rfl, rfl, he, hn⟩ := ih h
        exact ⟨item :: before, next, after, first ++ later, last, b :: values, rfl,
          (List.append_assoc ..).symm, .cons hb he, hn⟩
    · exact ⟨[], item, items, [], events, [], rfl, rfl, .nil, h⟩

theorem trace_forM_some {plan : α → Plan Unit} (h : Trace (items.forM plan) events (some u)) :
    ∃ units, TraceEach plan items events units := by
  rw [List.forM_eq_forM] at h
  induction items generalizing events with
  | nil =>
    obtain ⟨rfl, -⟩ := trace_pure.mp h
    exact ⟨[], .nil⟩
  | cons item items ih =>
    rw [List.forM_cons] at h
    obtain ⟨_, first, rest, rfl, hfirst, hrest⟩ := trace_bind_some.mp h
    obtain ⟨units, heach⟩ := ih hrest
    exact ⟨_, .cons hfirst heach⟩

theorem trace_forM_say {items : List α} {notice : α → Notice}
    (h : Trace (items.forM fun item => say (notice item)) events outcome) :
    events = items.map (fun item => .noted (notice item)) ∧ outcome = some () := by
  rw [List.forM_eq_forM] at h
  induction items generalizing events with
  | nil =>
    obtain ⟨rfl, rfl⟩ := trace_pure.mp h
    exact ⟨rfl, rfl⟩
  | cons item items ih =>
    rw [List.forM_cons] at h
    obtain ⟨rest, rfl, hrest⟩ := trace_say_bind.mp h
    obtain ⟨rfl, rfl⟩ := ih hrest
    exact ⟨rfl, rfl⟩

-- ---------------------------------------------------------------------------
-- Plans carried out to the end
-- ---------------------------------------------------------------------------

theorem Trace.answered_all (h : Trace plan events (some a)) (hx : .exchanged exchange ∈ events) :
    ∃ answer, exchange.answer = .ok answer := by
  generalize ho : some a = o at h
  induction h with
  | done | stuck => cases hx
  | unanswered => cases ho
  | answered request answer _ ih =>
    rcases List.mem_cons.mp hx with hx | hx
    · cases hx
      exact ⟨answer, rfl⟩
    · exact ih hx ho
  | noted _ _ ih | minted _ _ ih | claimed _ _ ih =>
    rcases List.mem_cons.mp hx with hx | hx
    · cases hx
    · exact ih hx ho

-- ---------------------------------------------------------------------------
-- What every event of a plan is
-- ---------------------------------------------------------------------------

/-- All that can happen is in `allowed`, also when the plan ends early. -/
def Emits (plan : Plan α) (allowed : Event → Prop) : Prop :=
  ∀ events outcome, Trace plan events outcome → ∀ event ∈ events, allowed event

theorem Emits.pure (a : α) (allowed : Event → Prop) : Emits (pure a : Plan α) allowed := by
  intro events outcome h event he
  obtain ⟨rfl, -⟩ := trace_pure.mp h
  cases he

theorem Emits.bind {plan : Plan α} {next : α → Plan β} (first : plan.Emits allowed)
    (rest : ∀ a, (next a).Emits allowed) : (plan >>= next).Emits allowed := by
  intro events outcome h event he
  rcases trace_bind.mp h with ⟨a, before, after, rfl, hb, ha⟩ | ⟨-, h⟩
  · rcases List.mem_append.mp he with he | he
    · exact first _ _ hb event he
    · exact rest a _ _ ha event he
  · exact first _ _ h event he

theorem Emits.say {allowed : Event → Prop} (noted : allowed (.noted notice)) :
    (say notice).Emits allowed := by
  intro events outcome h event he
  obtain ⟨rfl, -⟩ := trace_say.mp h
  rw [List.mem_singleton.mp he]
  exact noted

theorem Emits.ask {allowed : Event → Prop}
    (exchanged : ∀ answer, allowed (.exchanged ⟨request, answer⟩)) :
    (ask request).Emits allowed := by
  intro events outcome h event he
  obtain ⟨answer, rfl, -⟩ := trace_ask.mp h
  rw [List.mem_singleton.mp he]
  exact exchanged answer

theorem Emits.freshId {allowed : Event → Prop} (minted : ∀ id, allowed (.minted id)) :
    freshId.Emits allowed := by
  intro events outcome h event he
  obtain ⟨id, rfl, -⟩ := trace_freshId.mp h
  rw [List.mem_singleton.mp he]
  exact minted id

theorem Emits.nextSlot {allowed : Event → Prop} (claimed : ∀ slot, allowed (.claimed slot)) :
    nextSlot.Emits allowed := by
  intro events outcome h event he
  cases h with
  | claimed slot rest =>
    cases rest
    rw [List.mem_singleton.mp he]
    exact claimed slot

theorem Emits.require (found : Option α) (allowed : Event → Prop) :
    (require found).Emits allowed := by
  cases found with
  | some a => exact .pure a allowed
  | none =>
    intro events outcome h event he
    cases h
    cases he

theorem Emits.forM {allowed : Event → Prop} {items : List α} {plan : α → Plan Unit}
    (each : ∀ item ∈ items, (plan item).Emits allowed) : (items.forM plan).Emits allowed := by
  induction items with
  | nil => exact .pure () allowed
  | cons item items ih =>
    obtain ⟨hitem, hitems⟩ := List.forall_mem_cons.mp each
    rw [List.forM_eq_forM, List.forM_cons]
    exact .bind hitem fun _ => ih hitems

theorem Emits.mapM {allowed : Event → Prop} {items : List α} {plan : α → Plan β}
    (each : ∀ item ∈ items, (plan item).Emits allowed) : (items.mapM plan).Emits allowed := by
  induction items with
  | nil => exact .pure [] allowed
  | cons item items ih =>
    obtain ⟨hitem, hitems⟩ := List.forall_mem_cons.mp each
    rw [List.mapM_cons]
    exact .bind hitem fun _ => .bind (ih hitems) fun _ => .pure _ allowed

theorem Emits.create {allowed : Event → Prop}
    (exchanged : ∀ answer, allowed (.exchanged ⟨request, answer⟩))
    (noted : ∀ answer, allowed (.noted (.answered resource answer))) :
    (create resource request).Emits allowed := by
  intro events outcome h event he
  rcases trace_create.mp h with ⟨answer, rfl, -⟩ | ⟨reason, rfl, -⟩
  · rcases List.mem_cons.mp he with rfl | he
    · exact exchanged _
    · rw [List.mem_singleton.mp he]
      exact noted answer
  · rw [List.mem_singleton.mp he]
    exact exchanged _

-- ---------------------------------------------------------------------------
-- Which calls a plan makes, in order
-- ---------------------------------------------------------------------------

/-- The plan makes some of these calls, in their order and each at most as often
as it stands there. -/
def CallsAmong (plan : Plan α) (calls : List Call) : Prop :=
  ∀ events outcome, Trace plan events outcome → (Event.calls events).Sublist calls

theorem CallsAmong.pure (a : α) : CallsAmong (pure a : Plan α) [] := by
  intro events outcome h
  obtain ⟨rfl, -⟩ := trace_pure.mp h
  exact .slnil

theorem CallsAmong.say (notice : Notice) : (say notice).CallsAmong [] := by
  intro events outcome h
  obtain ⟨rfl, -⟩ := trace_say.mp h
  exact .slnil

theorem CallsAmong.create (resource : Resource) (request : Call) :
    (create resource request).CallsAmong [request] := by
  intro events outcome h
  rcases trace_create.mp h with ⟨answer, rfl, -⟩ | ⟨reason, rfl, -⟩
  · exact List.Sublist.refl _
  · exact List.Sublist.refl _

theorem CallsAmong.bind {plan : Plan α} {next : α → Plan β} (first : plan.CallsAmong calls)
    (rest : ∀ a, (next a).CallsAmong more) : (plan >>= next).CallsAmong (calls ++ more) := by
  intro events outcome h
  rcases trace_bind.mp h with ⟨a, before, after, rfl, hfirst, hrest⟩ | ⟨-, hfirst⟩
  · rw [Event.calls_append]
    exact (first _ _ hfirst).append (rest a _ _ hrest)
  · exact (first _ _ hfirst).trans (List.sublist_append_left calls more)

theorem CallsAmong.mono {plan : Plan α} (h : plan.CallsAmong calls) (sublist : calls.Sublist more) :
    plan.CallsAmong more :=
  fun events outcome trace => (h events outcome trace).trans sublist

-- ---------------------------------------------------------------------------
-- Plans that never get stuck
-- ---------------------------------------------------------------------------

def NeverStuck : Plan α → Prop
  | .done _ => True
  | .stuck => False
  | .call _ next => ∀ answer, (next answer).NeverStuck
  | .note _ next => next.NeverStuck
  | .mint next => ∀ id, (next id).NeverStuck
  | .claim next => ∀ slot, (next slot).NeverStuck

theorem NeverStuck.pure (a : α) : NeverStuck (pure a : Plan α) := trivial

theorem NeverStuck.bind {plan : Plan α} {next : α → Plan β} (first : plan.NeverStuck)
    (rest : ∀ a, (next a).NeverStuck) : (plan >>= next).NeverStuck := by
  change (plan.bind next).NeverStuck
  induction plan with
  | done a => exact rest a
  | stuck => exact first
  | call request rest ih => exact fun answer => ih answer (first answer)
  | note notice rest ih => exact ih first
  | mint rest ih => exact fun id => ih id (first id)
  | claim rest ih => exact fun slot => ih slot (first slot)

theorem NeverStuck.bind_trace {plan : Plan α} {next : α → Plan β} (first : plan.NeverStuck)
    (rest : ∀ a events, Trace plan events (some a) → (next a).NeverStuck) :
    (plan >>= next).NeverStuck := by
  change (plan.bind next).NeverStuck
  induction plan with
  | done a => exact rest a [] (.done a)
  | stuck => exact first
  | call request _ ih =>
    exact fun answer => ih answer (first answer) fun a events h =>
      rest a _ (.answered request answer h)
  | note notice _ ih => exact ih first fun a events h => rest a _ (.noted notice h)
  | mint _ ih => exact fun id => ih id (first id) fun a events h => rest a _ (.minted id h)
  | claim _ ih =>
    exact fun slot => ih slot (first slot) fun a events h => rest a _ (.claimed slot h)

theorem NeverStuck.mapM {items : List α} {plan : α → Plan β}
    (each : ∀ item ∈ items, (plan item).NeverStuck) : (items.mapM plan).NeverStuck := by
  induction items with
  | nil => exact .pure []
  | cons item items ih =>
    rw [List.mapM_cons]
    refine .bind (each item List.mem_cons_self) fun b => ?_
    exact .bind (ih fun a ha => each a (List.mem_cons_of_mem _ ha)) fun bs => .pure (b :: bs)

theorem NeverStuck.forM {items : List α} {plan : α → Plan Unit}
    (each : ∀ item ∈ items, (plan item).NeverStuck) : (items.forM plan).NeverStuck := by
  induction items with
  | nil => exact .pure ()
  | cons item items ih =>
    rw [List.forM_eq_forM, List.forM_cons]
    exact .bind (each item List.mem_cons_self) fun _ =>
      ih fun a ha => each a (List.mem_cons_of_mem _ ha)

theorem NeverStuck.say (notice : Notice) : (say notice).NeverStuck := trivial

theorem NeverStuck.ask (request : Call) : (ask request).NeverStuck := fun _ => trivial

theorem NeverStuck.create (resource : Resource) (request : Call) :
    (create resource request).NeverStuck := fun _ => trivial

theorem NeverStuck.unanswered {plan : Plan α} (smooth : plan.NeverStuck)
    (h : Trace plan events none) : ∃ call reason, .exchanged ⟨call, .error reason⟩ ∈ events := by
  generalize ho : none = o at h
  induction h with
  | done => cases ho
  | stuck => exact smooth.elim
  | unanswered request reason => exact ⟨request, reason, List.mem_cons_self⟩
  | answered _ answer _ ih =>
    obtain ⟨call, reason, h⟩ := ih (smooth answer) ho
    exact ⟨call, reason, List.mem_cons_of_mem _ h⟩
  | noted _ _ ih =>
    obtain ⟨call, reason, h⟩ := ih smooth ho
    exact ⟨call, reason, List.mem_cons_of_mem _ h⟩
  | minted id _ ih =>
    obtain ⟨call, reason, h⟩ := ih (smooth id) ho
    exact ⟨call, reason, List.mem_cons_of_mem _ h⟩
  | claimed slot _ ih =>
    obtain ⟨call, reason, h⟩ := ih (smooth slot) ho
    exact ⟨call, reason, List.mem_cons_of_mem _ h⟩

end Plan

-- ---------------------------------------------------------------------------
-- Relations that plans follow
-- ---------------------------------------------------------------------------

/-- Nothing changes nothing, and events in a row lead from the first to the last. -/
structure Event.Sequential (relates : σ → List Event → σ → Prop) : Prop where
  nil (due : σ) : relates due [] due
  append (first : relates due events between) (rest : relates between later left) :
    relates due (events ++ later) left

namespace Plan

def Follows (plan : Plan α) (relates : σ → List Event → σ → Prop) (due left : σ) : Prop :=
  ∀ events outcome, Trace plan events outcome →
    ∃ last, relates due events last ∧ (outcome.isSome → last = left)

variable {relates : σ → List Event → σ → Prop}

theorem Follows.of_emits {plan : Plan α} (emits : plan.Emits allowed)
    (unchanged : ∀ events, (∀ event ∈ events, allowed event) → relates due events due) :
    plan.Follows relates due due :=
  fun events outcome h => ⟨due, unchanged events (emits events outcome h), fun _ => rfl⟩

section
variable (sequential : Event.Sequential relates)
include sequential

theorem Follows.pure (a : α) : (pure a : Plan α).Follows relates due due := by
  intro events outcome h
  obtain ⟨rfl, -⟩ := trace_pure.mp h
  exact ⟨due, sequential.nil due, fun _ => rfl⟩

theorem Follows.bind_trace {plan : Plan α} {next : α → Plan β}
    (first : plan.Follows relates due between)
    (rest : ∀ a events, Trace plan events (some a) → (next a).Follows relates between left) :
    (plan >>= next).Follows relates due left := by
  intro events outcome h
  rcases trace_bind.mp h with ⟨a, before, after, rfl, hbefore, hafter⟩ | ⟨rfl, habort⟩
  · obtain ⟨middle, hfirst, reached⟩ := first _ _ hbefore
    obtain rfl := reached rfl
    obtain ⟨last, hrest, ended⟩ := rest a before hbefore _ _ hafter
    exact ⟨last, sequential.append hfirst hrest, ended⟩
  · obtain ⟨middle, hfirst, -⟩ := first _ _ habort
    exact ⟨middle, hfirst, fun h => nomatch h⟩

theorem Follows.bind {plan : Plan α} {next : α → Plan β}
    (first : plan.Follows relates due between)
    (rest : ∀ a, (next a).Follows relates between left) :
    (plan >>= next).Follows relates due left :=
  .bind_trace sequential first fun a _ _ => rest a

theorem Follows.forM {items : List α} {plan : α → Plan Unit}
    (each : ∀ item ∈ items, (plan item).Follows relates due due) :
    (items.forM plan).Follows relates due due := by
  induction items with
  | nil => exact .pure sequential ()
  | cons item items ih =>
    obtain ⟨hitem, hitems⟩ := List.forall_mem_cons.mp each
    rw [List.forM_eq_forM, List.forM_cons]
    exact .bind sequential hitem fun _ => ih hitems

theorem Follows.mapM {plan : α → Plan β} (due : List α → σ)
    (each : ∀ item rest, (plan item).Follows relates (due (item :: rest)) (due rest))
    (items : List α) : (items.mapM plan).Follows relates (due items) (due []) := by
  induction items with
  | nil => exact .pure sequential []
  | cons item rest ih =>
    rw [List.mapM_cons]
    exact .bind sequential (each item rest) fun _ =>
      .bind sequential ih fun _ => .pure sequential _

end

end Plan

end Dataspace
