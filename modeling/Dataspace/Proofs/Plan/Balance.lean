import Dataspace.Plan.Basic
import Mathlib.Data.List.Nodup

/-!
# Rotation is balanced

A window of as many claims as a list is long picks every position once
(`countP_window`): when it moves on by one claim, it loses the position that it
gains. Whole windows and a rest that is a part of one then give how often each
position is picked by any number of claims (`claims_balanced`).
-/

namespace Dataspace

/-- Whether the slot picks position `i` from a list of length `n`. It does so if it
picks `i` from the positions themselves. -/
def Slot.picks (n i : Nat) (slot : Slot) : Bool := slot.pick? (List.range n) == some i

namespace Slot

variable {slot : Slot}

theorem picks_iff (positive : 0 < n) : slot.picks n i = true ↔ slot.index % n = i := by
  have inside : slot.index % n < n := Nat.mod_lt _ positive
  rw [picks, beq_iff_eq, pick?, List.length_range, List.getElem?_range inside, Option.some.injEq]

theorem pick?_of_picks {items : List α} (h : slot.picks items.length i = true)
    (inside : i < items.length) : slot.pick? items = some items[i] := by
  have same := (picks_iff (Nat.zero_lt_of_lt inside)).mp h
  rw [pick?, same, List.getElem?_eq_getElem inside]

end Slot

namespace Rotation

def claims (rotation : Rotation) : Nat → List Slot
  | 0 => []
  | m + 1 => rotation.claim.1 :: rotation.claim.2.claims m

variable {rotation : Rotation}

@[simp] theorem length_claims (rotation : Rotation) (m : Nat) : (rotation.claims m).length = m := by
  induction m generalizing rotation with
  | zero => rfl
  | succ m ih => rw [claims, List.length_cons, ih]

theorem claims_add (rotation : Rotation) (m k : Nat) :
    rotation.claims (m + k) = rotation.claims m ++ claims ⟨rotation.next + m⟩ k := by
  induction m generalizing rotation with
  | zero => rw [Nat.zero_add]; rfl
  | succ m ih =>
    have next : rotation.claim.2.next + m = rotation.next + (m + 1) := by
      rw [claim_snd, Nat.add_assoc, Nat.add_comm 1]
    rw [Nat.succ_add, claims, ih, next]
    rfl

theorem claims_eq_append {before window after : List Slot}
    (h : rotation.claims m = before ++ window ++ after) :
    window = claims ⟨rotation.next + before.length⟩ window.length := by
  have length : m = before.length + (window.length + after.length) := by
    have lengths := congrArg List.length h
    simpa [Nat.add_assoc] using lengths
  rw [length, claims_add, List.append_assoc] at h
  obtain ⟨-, rest⟩ := List.append_inj h (length_claims ..)
  rw [claims_add] at rest
  exact (List.append_inj rest (length_claims ..)).1.symm

-- ---------------------------------------------------------------------------
-- Windows
-- ---------------------------------------------------------------------------

section
variable {n i : Nat}

theorem countP_firstWindow (h : i < n) : (claims ⟨0⟩ n).countP (Slot.picks n i) = 1 := by
  have positive : 0 < n := Nat.zero_lt_of_lt h
  have indices : ∀ m start, (claims ⟨start⟩ m).map Slot.index = List.range' start m := by
    intro m
    induction m with
    | zero => exact fun _ => rfl
    | succ m ih =>
      intro start
      rw [List.range'_succ, ← ih (start + 1)]
      rfl
  have picked : ∀ slot ∈ claims ⟨0⟩ n, (slot.picks n i = true ↔ (slot.index == i) = true) := by
    intro slot hslot
    have inside : slot.index ∈ List.range' 0 n := indices n 0 ▸ List.mem_map_of_mem hslot
    have small : slot.index < n := by
      rw [← List.range_eq_range'] at inside
      exact List.mem_range.mp inside
    rw [Slot.picks_iff positive, Nat.mod_eq_of_lt small, beq_iff_eq]
  calc (claims ⟨0⟩ n).countP (Slot.picks n i)
    _ = (claims ⟨0⟩ n).countP fun slot => slot.index == i := List.countP_congr picked
    _ = ((claims ⟨0⟩ n).map Slot.index).count i := by rw [List.count, List.countP_map]; rfl
    _ = (List.range n).count i := by rw [indices, List.range_eq_range']
    _ = 1 := List.count_eq_one_of_mem List.nodup_range (List.mem_range.mpr h)

/-- A window loses the position that it gains, since both claims are `n` apart. -/
theorem countP_nextWindow (start : Nat) (positive : 0 < n) :
    (claims ⟨start + 1⟩ n).countP (Slot.picks n i) = (claims ⟨start⟩ n).countP (Slot.picks n i) := by
  have lost : claims ⟨start⟩ (1 + n) = ⟨start⟩ :: claims ⟨start + 1⟩ n := claims_add ..
  have gained : claims ⟨start⟩ (n + 1) = claims ⟨start⟩ n ++ [⟨start + n⟩] := claims_add ..
  have same : Slot.picks n i ⟨start + n⟩ = Slot.picks n i ⟨start⟩ := by
    rw [Bool.eq_iff_iff, Slot.picks_iff positive, Slot.picks_iff positive, Nat.add_mod_right]
  -- One claim more than a window, counted from either end.
  have counted := congrArg (List.countP (Slot.picks n i))
    (lost.symm.trans ((congrArg _ (Nat.add_comm 1 n)).trans gained))
  rw [List.countP_cons, List.countP_append, List.countP_singleton, same] at counted
  exact Nat.add_right_cancel counted

theorem countP_window (h : i < n) (rotation : Rotation) :
    (rotation.claims n).countP (Slot.picks n i) = 1 := by
  obtain ⟨start⟩ := rotation
  induction start with
  | zero => exact countP_firstWindow h
  | succ start ih => rw [countP_nextWindow start (Nat.zero_lt_of_lt h), ih]

theorem countP_windows (h : i < n) (rotation : Rotation) (rounds : Nat) :
    (rotation.claims (n * rounds)).countP (Slot.picks n i) = rounds := by
  induction rounds generalizing rotation with
  | zero => rfl
  | succ rounds ih =>
    rw [Nat.mul_succ, claims_add, List.countP_append, ih, countP_window h]

theorem countP_part (h : i < n) (rotation : Rotation) (part : m ≤ n) :
    (rotation.claims m).countP (Slot.picks n i) ≤ 1 := by
  rw [← countP_window h rotation, ← Nat.add_sub_of_le part, claims_add, List.countP_append]
  exact Nat.le_add_right ..

theorem countP_claims (h : i < n) (rotation : Rotation) (m : Nat) :
    (rotation.claims m).countP (Slot.picks n i) =
      m / n + (claims ⟨rotation.next + n * (m / n)⟩ (m % n)).countP (Slot.picks n i) := by
  conv => lhs; rw [← Nat.div_add_mod m n]
  rw [claims_add, List.countP_append, countP_windows h]

end

theorem ceil_div_eq (positive : 0 < n) (some : m % n ≠ 0) : (m + n - 1) / n = m / n + 1 := by
  have divided : n * (m / n) + m % n = m := Nat.div_add_mod m n
  have below : m % n - 1 < n := by
    have := Nat.mod_lt m positive
    omega
  have up : m + n - 1 = n * (m / n + 1) + (m % n - 1) := by
    rw [Nat.mul_succ]
    omega
  rw [up, Nat.mul_add_div positive, Nat.div_eq_of_lt below, Nat.add_zero]

-- ---------------------------------------------------------------------------
-- Balance
-- ---------------------------------------------------------------------------

/-- Rounded down or up, each position has its share of the claims. Every slot picks
one position, the same one from all lists of one length. -/
theorem claims_balanced (positive : 0 < n) (rotation : Rotation) (m : Nat) :
    (∀ i < n, (rotation.claims m).countP (Slot.picks n i) = m / n ∨
      (rotation.claims m).countP (Slot.picks n i) = (m + n - 1) / n) ∧
    (∀ before window after, rotation.claims m = before ++ window ++ after →
      window.length = n → ∀ i < n, window.countP (Slot.picks n i) = 1) ∧
    (∀ slot : Slot, ∃ i < n, (∀ j, slot.picks n j = true ↔ j = i) ∧
      ∀ (α : Type) (items : List α), items.length = n →
        ∃ inside : i < items.length, slot.pick? items = some items[i]) := by
  refine ⟨fun i h => ?share, fun before window after hsplit hlength i h => ?once, fun slot => ?pick⟩
  case share =>
    have rest := countP_part h ⟨rotation.next + n * (m / n)⟩ (Nat.le_of_lt (Nat.mod_lt m positive))
    rw [countP_claims h]
    rcases Nat.le_one_iff_eq_zero_or_eq_one.mp rest with none | one
    · exact .inl (by rw [none, Nat.add_zero])
    · have some : m % n ≠ 0 := fun zero => by
        rw [zero] at one
        cases one
      exact .inr (by rw [one, ceil_div_eq positive some])
  case once =>
    have window := claims_eq_append hsplit
    rw [hlength] at window
    rw [window]
    exact countP_window h _
  case pick =>
    have inside : slot.index % n < n := Nat.mod_lt _ positive
    refine ⟨slot.index % n, inside, fun j => ?_, fun α items hlength => ?_⟩
    · rw [Slot.picks_iff positive, eq_comm]
    · subst hlength
      exact ⟨inside, Slot.pick?_of_picks ((Slot.picks_iff positive).mpr rfl) inside⟩

/-- Seven claims from the last of three positions: it is picked three times. -/
theorem claims_balanced_sample : 0 < 3 ∧
    (claims ⟨2⟩ 7).countP (Slot.picks 3 2) = (7 + 3 - 1) / 3 ∧
    (claims ⟨2⟩ 7).countP (Slot.picks 3 1) = 7 / 3 := by
  obtain ⟨share, -⟩ := claims_balanced (by decide : 0 < 3) ⟨2⟩ 7
  exact ⟨by decide, (share 2 (by decide)).resolve_left (by decide),
    (share 1 (by decide)).resolve_right (by decide)⟩

end Rotation

end Dataspace
