import Dataspace.Proofs.Plan.Supply

/-!
# Where runs stop

A plan that never gets stuck stops early in the first call that gets no answer,
and nothing is called after it (`run_failStop`). Which calls come before depends
on nothing but the earlier answers and the identifiers: a world that gives the
same ones sees the same calls, whatever it would answer later (`run_repeats`).
-/

namespace Dataspace

-- ---------------------------------------------------------------------------
-- Worlds that give the same answers
-- ---------------------------------------------------------------------------

/-- The network gives to the calls of `exchanges`, made after `past`, the
answers recorded there. -/
def Network.Agrees (network : Network) (past exchanges : List Exchange) : Prop :=
  ∀ before exchange after, exchanges = before ++ exchange :: after →
    network (past ++ before) exchange.call = exchange.answer

theorem Network.Agrees.head {network : Network}
    (h : network.Agrees past (exchange :: exchanges)) :
    network past exchange.call = exchange.answer := by
  have hfirst := h [] exchange exchanges rfl
  rwa [List.append_nil] at hfirst

theorem Network.Agrees.rest {network : Network} (h : network.Agrees past (first ++ exchanges)) :
    network.Agrees (past ++ first) exchanges := by
  rintro before exchange after rfl
  rw [List.append_assoc]
  exact h (first ++ before) exchange after (List.append_assoc ..).symm

theorem World.Supplies.of_agrees {world other : World}
    (identifiers : other.identifier = world.identifier)
    (agrees : other.network.Agrees progress.exchanges (events.filterMap Event.exchange?))
    (h : world.Supplies progress events) : other.Supplies progress events := by
  induction events generalizing progress with
  | nil => trivial
  | cons event events ih =>
    obtain ⟨hg, hs⟩ := h
    rw [← List.singleton_append, List.filterMap_append] at agrees
    have hrest := agrees.rest
    rw [← Progress.exchanges_record] at hrest
    refine ⟨?_, ih hrest hs⟩
    cases event with
    | exchanged exchange => exact agrees.head
    | noted notice => trivial
    | minted id => exact hg.trans (congrFun identifiers _).symm
    | claimed slot => exact hg

namespace Plan

variable {world : World} {failure : Failure}

-- ---------------------------------------------------------------------------
-- The same calls
-- ---------------------------------------------------------------------------

theorem exchanges_run (world : World) (plan : Plan α) (progress : Progress) :
    ∃ later, (plan.run world progress).2.exchanges = progress.exchanges ++ later := by
  obtain ⟨events, hrun, -, -⟩ := run_trace world plan progress
  exact ⟨_, by rw [hrun, Progress.exchanges_recordAll]⟩

theorem exchanges_run_call (world : World) (request : Call) (next : Response → Plan α)
    (progress : Progress) :
    ∃ later, ((Plan.call request next).run world progress).2.exchanges = progress.exchanges ++
      ⟨request, world.network progress.exchanges request⟩ :: later := by
  simp only [run]
  cases world.network progress.exchanges request with
  | ok answer =>
    obtain ⟨later, hlater⟩ := exchanges_run world (next answer)
      (progress.record (.exchanged ⟨request, .ok answer⟩))
    rw [Progress.exchanges_record, List.append_assoc] at hlater
    exact ⟨later, hlater⟩
  | error reason =>
    exact ⟨[], Progress.exchanges_record progress (.exchanged ⟨request, .error reason⟩)⟩

/-- In a world that supplies the same events until then, a plan makes the same
next call. What is answered, and what follows, is up to that world. -/
theorem run_repeats
    (h : Trace plan (before ++ .exchanged ⟨request, answer⟩ :: after) outcome)
    (supplies : world.Supplies progress before) :
    ∃ later, (plan.run world progress).2.exchanges = (progress.recordAll before).exchanges ++
      ⟨request, world.network (progress.recordAll before).exchanges request⟩ :: later := by
  generalize he : before ++ .exchanged ⟨request, answer⟩ :: after = events at h
  -- Each event of the trace is one of `before`, which the world supplies, or the call itself.
  induction h generalizing before progress with
  | done | stuck => simp at he
  | answered first given _ ih =>
    cases before with
    | nil =>
      cases he
      exact exchanges_run_call world request _ progress
    | cons event before =>
      obtain ⟨rfl, htail⟩ := List.cons.inj he
      obtain ⟨hg, hs⟩ := supplies
      have hn : world.network progress.exchanges first = .ok given := hg
      simp only [run, hn]
      exact ih hs htail
  | unanswered first reason next =>
    cases before with
    | nil =>
      cases he
      exact exchanges_run_call world request next progress
    | cons event before => simp at he
  | noted notice _ ih =>
    cases before with
    | nil => cases he
    | cons event before =>
      obtain ⟨rfl, htail⟩ := List.cons.inj he
      exact ih supplies.2 htail
  | minted id _ ih =>
    cases before with
    | nil => cases he
    | cons event before =>
      obtain ⟨rfl, htail⟩ := List.cons.inj he
      obtain ⟨rfl, hs⟩ := supplies
      exact ih hs htail
  | claimed slot _ ih =>
    cases before with
    | nil => cases he
    | cons event before =>
      obtain ⟨rfl, htail⟩ := List.cons.inj he
      obtain ⟨rfl, hs⟩ := supplies
      exact ih hs htail

-- ---------------------------------------------------------------------------
-- The first call without an answer
-- ---------------------------------------------------------------------------

/-- A failed run is a trace whose last event, and no other, is a call without
an answer. -/
theorem run_error {plan : Plan α} (smooth : plan.NeverStuck)
    (h : plan.run world progress = (.error failure, later)) :
    ∃ before request reason, failure = .unanswered request reason ∧
      later = progress.recordAll (before ++ [.exchanged ⟨request, .error reason⟩]) ∧
      Trace plan (before ++ [.exchanged ⟨request, .error reason⟩]) none ∧
      world.Supplies progress before ∧
      ∀ exchange, .exchanged exchange ∈ before → ∃ answer, exchange.answer = .ok answer := by
  -- An unanswered call ends the induction, and any other step puts its event in front.
  induction plan generalizing progress with
  | done a => cases h
  | stuck => exact smooth.elim
  | call request next ih =>
    simp only [run] at h
    cases hn : world.network progress.exchanges request with
    | ok answer =>
      rw [hn] at h
      obtain ⟨before, last, reason, hfailure, hlater, htrace, hsupplies, hanswered⟩ :=
        ih answer (smooth answer) h
      refine ⟨.exchanged ⟨request, .ok answer⟩ :: before, last, reason, hfailure, hlater,
        .answered request answer htrace, ⟨hn, hsupplies⟩, fun exchange hx => ?_⟩
      rcases List.mem_cons.mp hx with hx | hx
      · cases hx
        exact ⟨answer, rfl⟩
      · exact hanswered exchange hx
    | error reason =>
      rw [hn] at h
      cases h
      exact ⟨[], request, reason, rfl, rfl, .unanswered request reason next, trivial,
        fun _ hx => absurd hx List.not_mem_nil⟩
  | note notice next ih =>
    obtain ⟨before, last, reason, hfailure, hlater, htrace, hsupplies, hanswered⟩ := ih smooth h
    refine ⟨.noted notice :: before, last, reason, hfailure, hlater, .noted notice htrace,
      ⟨trivial, hsupplies⟩, fun exchange hx => ?_⟩
    exact hanswered exchange (by simpa using hx)
  | mint next ih =>
    obtain ⟨before, last, reason, hfailure, hlater, htrace, hsupplies, hanswered⟩ :=
      ih _ (smooth _) h
    refine ⟨.minted _ :: before, last, reason, hfailure, hlater, .minted _ htrace,
      ⟨rfl, hsupplies⟩, fun exchange hx => ?_⟩
    exact hanswered exchange (by simpa using hx)
  | claim next ih =>
    obtain ⟨before, last, reason, hfailure, hlater, htrace, hsupplies, hanswered⟩ :=
      ih _ (smooth _) h
    refine ⟨.claimed _ :: before, last, reason, hfailure, hlater, .claimed _ htrace,
      ⟨rfl, hsupplies⟩, fun exchange hx => ?_⟩
    exact hanswered exchange (by simpa using hx)

theorem run_ne_stuck {plan : Plan α} (smooth : plan.NeverStuck) :
    (plan.run world progress).1 ≠ .error .stuck := by
  intro stuck
  obtain ⟨_, request, reason, failed, -⟩ :=
    run_error smooth (Prod.ext stuck rfl : plan.run world progress = (.error .stuck, _))
  cases failed

/-- A run that fails does so because of its last call, the only one without an
answer. Until then another network that agrees sees the same calls. -/
theorem run_failStop {plan : Plan α} (smooth : plan.NeverStuck)
    (h : plan.run world progress = (.error failure, later)) :
    ∃ answered request reason, failure = .unanswered request reason ∧
      later.exchanges = progress.exchanges ++ (answered ++ [⟨request, .error reason⟩]) ∧
      (∀ exchange ∈ answered, ∃ answer, exchange.answer = .ok answer) ∧
      ∀ other : World, other.identifier = world.identifier →
        other.network.Agrees progress.exchanges answered →
        ∃ rest, (plan.run other progress).2.exchanges = progress.exchanges ++ (answered ++
          ⟨request, other.network (progress.exchanges ++ answered) request⟩ :: rest) := by
  obtain ⟨before, request, reason, hfailure, rfl, htrace, hsupplies, hanswered⟩ :=
    run_error smooth h
  refine ⟨before.filterMap Event.exchange?, request, reason, hfailure, ?_, ?_, ?_⟩
  · rw [Progress.exchanges_recordAll, List.filterMap_append]
    rfl
  · exact fun exchange hx => hanswered exchange (Event.mem_exchanges.mp hx)
  · intro other identifiers agrees
    obtain ⟨rest, hrest⟩ := run_repeats htrace (hsupplies.of_agrees identifiers agrees)
    rw [Progress.exchanges_recordAll, List.append_assoc] at hrest
    exact ⟨rest, hrest⟩

theorem run_ok {plan : Plan α} (h : plan.run world progress = (.ok a, later)) :
    ∃ answered, later.exchanges = progress.exchanges ++ answered ∧
      ∀ exchange ∈ answered, ∃ answer, exchange.answer = .ok answer := by
  obtain ⟨events, hlater, htrace, -⟩ := run_trace world plan progress
  rw [h] at hlater htrace
  obtain rfl : later = progress.recordAll events := hlater
  exact ⟨_, Progress.exchanges_recordAll progress events, fun exchange hx =>
    htrace.answered_all (Event.mem_exchanges.mp hx)⟩

end Plan

end Dataspace
