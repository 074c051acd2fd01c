import Dataspace.Proofs.Plan.Trace

/-!
# What a world supplies

A run is a trace whose open choices the world makes: the network answers each
call from what was exchanged before it, identifiers come in the order of their
stream, and slots count up (`run_trace`). Against a network that answers every
call, a plan that never gets stuck runs to its end (`run_answered`).
-/

namespace Dataspace

namespace Progress

def record (progress : Progress) : Event → Progress
  | .minted id => { progress.add (.minted id) with minted := progress.minted + 1 }
  | .claimed slot => { progress.add (.claimed slot) with rotation := progress.rotation.claim.2 }
  | event => progress.add event

def recordAll (progress : Progress) (events : List Event) : Progress :=
  events.foldl record progress

@[simp] theorem recordAll_nil (progress : Progress) : progress.recordAll [] = progress := rfl

@[simp] theorem recordAll_cons (progress : Progress) (event : Event) (events : List Event) :
    progress.recordAll (event :: events) = (progress.record event).recordAll events := rfl

theorem recordAll_append (progress : Progress) (events later : List Event) :
    progress.recordAll (events ++ later) = (progress.recordAll events).recordAll later :=
  List.foldl_append

theorem history_record (progress : Progress) (event : Event) :
    (progress.record event).history = progress.history ++ [event] := by
  cases event <;> rfl

theorem history_recordAll (progress : Progress) (events : List Event) :
    (progress.recordAll events).history = progress.history ++ events := by
  induction events generalizing progress with
  | nil => simp
  | cons event events ih => simp [ih, history_record]

theorem exchanges_record (progress : Progress) (event : Event) :
    (progress.record event).exchanges = progress.exchanges ++ [event].filterMap Event.exchange? := by
  rw [exchanges, history_record, List.filterMap_append]
  rfl

theorem exchanges_recordAll (progress : Progress) (events : List Event) :
    (progress.recordAll events).exchanges =
      progress.exchanges ++ events.filterMap Event.exchange? := by
  rw [exchanges, history_recordAll, List.filterMap_append]
  rfl

theorem next_recordAll (progress : Progress) (events : List Event) :
    (progress.recordAll events).rotation.next =
      progress.rotation.next + (events.filterMap Event.slot?).length := by
  induction events generalizing progress with
  | nil => rfl
  | cons event events ih =>
    cases event <;> simp [ih, record, add, List.filterMap_cons]
    omega

end Progress

namespace World

variable {world : World}

def Gives (world : World) (progress : Progress) : Event → Prop
  | .exchanged exchange => world.network progress.exchanges exchange.call = exchange.answer
  | .noted _ => True
  | .minted id => id = world.identifier progress.minted
  | .claimed slot => slot = progress.rotation.claim.1

def Supplies (world : World) : Progress → List Event → Prop
  | _, [] => True
  | progress, event :: rest =>
    world.Gives progress event ∧ world.Supplies (progress.record event) rest

theorem supplies_append : world.Supplies progress (events ++ later) ↔
    world.Supplies progress events ∧ world.Supplies (progress.recordAll events) later := by
  induction events generalizing progress with
  | nil => simp [Supplies]
  | cons event events ih => simp [Supplies, ih, and_assoc]

theorem Supplies.slots (h : world.Supplies progress events) :
    events.filterMap Event.slot? =
      (List.range' progress.rotation.next (events.filterMap Event.slot?).length).map Slot.mk := by
  induction events generalizing progress with
  | nil => rfl
  | cons event events ih =>
    obtain ⟨hg, hs⟩ := h
    have hr := ih hs
    cases event with
    | claimed slot =>
      obtain rfl : slot = ⟨progress.rotation.next⟩ := hg
      simpa [List.range'_succ, List.filterMap_cons, Progress.record] using hr
    | _ => simpa [List.filterMap_cons, Progress.record, Progress.add] using hr

theorem Supplies.ids (h : world.Supplies progress events) :
    events.filterMap Event.minted? =
      (List.range' progress.minted (events.filterMap Event.minted?).length).map
        world.identifier := by
  induction events generalizing progress with
  | nil => rfl
  | cons event events ih =>
    obtain ⟨hg, hs⟩ := h
    have hr := ih hs
    cases event with
    | minted id =>
      obtain rfl : id = world.identifier progress.minted := hg
      simpa [List.range'_succ, List.filterMap_cons, Progress.record] using hr
    | _ => simpa [List.filterMap_cons, Progress.record, Progress.add] using hr

end World

def Network.AnswersAll (network : Network) : Prop :=
  ∀ past call, ∃ answer, network past call = .ok answer

def Network.always (answer : Response) : Network := fun _ _ => .ok answer

theorem Network.always_answersAll (answer : Response) : (Network.always answer).AnswersAll :=
  fun _ _ => ⟨answer, rfl⟩

theorem World.Supplies.answered {world : World} (answers : world.network.AnswersAll)
    (h : world.Supplies progress events) (hx : .exchanged exchange ∈ events) :
    ∃ answer, exchange.answer = .ok answer := by
  obtain ⟨before, after, rfl⟩ := List.append_of_mem hx
  have hn := (World.supplies_append.mp h).2.1
  obtain ⟨answer, ha⟩ := answers (progress.recordAll before).exchanges exchange.call
  exact ⟨answer, hn.symm.trans ha⟩

namespace Plan

theorem run_trace (world : World) (plan : Plan α) (progress : Progress) :
    ∃ events, (plan.run world progress).2 = progress.recordAll events ∧
      Trace plan events (plan.run world progress).1.toOption ∧
      world.Supplies progress events := by
  induction plan generalizing progress with
  | done a => exact ⟨[], rfl, .done a, trivial⟩
  | stuck => exact ⟨[], rfl, .stuck, trivial⟩
  | call request next ih =>
    simp only [run]
    cases hn : world.network progress.exchanges request with
    | ok answer =>
      obtain ⟨events, hp, ht, hs⟩ := ih answer (progress.add (.exchanged ⟨request, .ok answer⟩))
      exact ⟨.exchanged ⟨request, .ok answer⟩ :: events, hp, .answered request answer ht, hn, hs⟩
    | error reason =>
      exact ⟨[.exchanged ⟨request, .error reason⟩], rfl, .unanswered request reason next, hn,
        trivial⟩
  | note notice next ih =>
    obtain ⟨events, hp, ht, hs⟩ := ih (progress.add (.noted notice))
    exact ⟨.noted notice :: events, hp, .noted notice ht, trivial, hs⟩
  | mint next ih =>
    let id := world.identifier progress.minted
    obtain ⟨events, hp, ht, hs⟩ := ih id (progress.record (.minted id))
    exact ⟨_ :: events, hp, .minted _ ht, rfl, hs⟩
  | claim next ih =>
    obtain ⟨events, hp, ht, hs⟩ := ih _ (progress.record (.claimed progress.rotation.claim.1))
    exact ⟨_ :: events, hp, .claimed _ ht, rfl, hs⟩

theorem trace_history {world : World} {plan : Plan α} {rotation : Rotation}
    (run : plan.run world (.start rotation) = (result, later)) :
    Trace plan later.history result.toOption := by
  obtain ⟨events, hlater, htrace, -⟩ := run_trace world plan (.start rotation)
  rw [run] at hlater htrace
  obtain rfl : later = (Progress.start rotation).recordAll events := hlater
  have hhistory : ((Progress.start rotation).recordAll events).history = events :=
    Progress.history_recordAll _ events
  rwa [hhistory]

theorem run_answered {world : World} (answers : world.network.AnswersAll) {plan : Plan α}
    (smooth : plan.NeverStuck) (progress : Progress) :
    ∃ a events, plan.run world progress = (.ok a, progress.recordAll events) ∧
      Trace plan events (some a) ∧ world.Supplies progress events := by
  obtain ⟨events, hp, ht, hs⟩ := run_trace world plan progress
  cases hr : (plan.run world progress).1 with
  | ok a =>
    rw [hr] at ht
    exact ⟨a, events, Prod.ext hr hp, ht, hs⟩
  | error failure =>
    rw [hr] at ht
    obtain ⟨call, reason, hx⟩ := smooth.unanswered ht
    obtain ⟨answer, ha⟩ := hs.answered answers hx
    cases ha

end Plan

end Dataspace
