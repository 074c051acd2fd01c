import Dataspace.Retry
import Mathlib.Algebra.Group.Nat.Defs

/-!
# Delays are exact until they saturate

Read as nanoseconds, a span that is scaled is the product, cut to the longest span
(`inNanoseconds_scale`): the seconds that are carried over make good what is lost
by multiplying seconds and nanoseconds apart. So a delay is the backoff times a
power of two, where both the power and the product stop at what fits
(`delay_exact`).
-/

namespace Dataspace

-- ---------------------------------------------------------------------------
-- Spans as numbers
-- ---------------------------------------------------------------------------

namespace Span

def inNanoseconds (span : Span) : Nat := span.seconds * perSecond + span.nanoseconds

/-- The seconds fit 64 bits, and no full second is left among the nanoseconds. -/
structure Normal (span : Span) : Prop where
  seconds : span.seconds < 2 ^ 64
  nanoseconds : span.nanoseconds < 10 ^ 9

theorem normal_longest : longest.Normal := ⟨by decide, by decide⟩

theorem inNanoseconds_longest : longest.inNanoseconds = 2 ^ 64 * 10 ^ 9 - 1 := rfl

variable {span other : Span}

theorem Normal.eq_iff (normal : span.Normal) (otherNormal : other.Normal) :
    span = other ↔ span.inNanoseconds = other.inNanoseconds := by
  constructor
  · exact congrArg inNanoseconds
  · intro same
    obtain ⟨seconds, nanoseconds⟩ := span
    obtain ⟨otherSeconds, otherNanoseconds⟩ := other
    have hn : nanoseconds < 10 ^ 9 := normal.nanoseconds
    have ho : otherNanoseconds < 10 ^ 9 := otherNormal.nanoseconds
    simp only [inNanoseconds, perSecond] at same
    simp only [mk.injEq]
    omega

/-- Full seconds among the nanoseconds are carried, so that quotient and remainder
are those of the whole product. -/
theorem scale_eq (span : Span) (factor : Nat) :
    span.scale factor =
      if span.inNanoseconds * factor / perSecond < secondsBound then
        ⟨span.inNanoseconds * factor / perSecond, span.inNanoseconds * factor % perSecond⟩
      else longest := by
  have product : span.inNanoseconds * factor =
      span.nanoseconds * factor + perSecond * (span.seconds * factor) := by
    rw [inNanoseconds, Nat.add_mul, Nat.add_comm, Nat.mul_right_comm, Nat.mul_comm perSecond]
  have positive : 0 < perSecond := by decide
  rw [product, Nat.add_mul_div_left _ _ positive, Nat.add_mul_mod_self_left, Nat.add_comm]
  rfl

theorem normal_scale (span : Span) (factor : Nat) : (span.scale factor).Normal := by
  rw [scale_eq]
  split
  · rename_i fits
    exact ⟨fits, Nat.mod_lt _ (by decide)⟩
  · exact normal_longest

theorem inNanoseconds_scale (span : Span) (factor : Nat) :
    (span.scale factor).inNanoseconds =
      min longest.inNanoseconds (span.inNanoseconds * factor) := by
  have bound : longest.inNanoseconds + 1 = secondsBound * perSecond := by decide
  rw [scale_eq]
  split
  · rename_i fits
    have below : span.inNanoseconds * factor < secondsBound * perSecond :=
      (Nat.div_lt_iff_lt_mul (by decide)).mp fits
    rw [Nat.min_eq_right (by omega)]
    exact Nat.div_add_mod' ..
  · rename_i beyond
    have above : secondsBound * perSecond ≤ span.inNanoseconds * factor :=
      (Nat.le_div_iff_mul_le (by decide)).mp (Nat.not_lt.mp beyond)
    rw [Nat.min_eq_left (by omega)]

end Span

-- ---------------------------------------------------------------------------
-- Delays
-- ---------------------------------------------------------------------------

namespace RetryPolicy

theorem factor_eq (attempt : Nat) : factor attempt = min (2 ^ attempt) (2 ^ 32 - 1) := by
  unfold factor
  split
  · rename_i early
    have small : 2 ^ attempt ≤ 2 ^ 31 := Nat.pow_le_pow_right (by decide) (by omega)
    exact (Nat.min_eq_left (Nat.le_trans small (by decide))).symm
  · rename_i late
    have great : 2 ^ 32 ≤ 2 ^ attempt := Nat.pow_le_pow_right (by decide) (by omega)
    exact (Nat.min_eq_right (Nat.le_trans (by decide) great)).symm

theorem factor_mono (h : attempt ≤ later) : factor attempt ≤ factor later := by
  have powers : 2 ^ attempt ≤ 2 ^ later := Nat.pow_le_pow_right (by decide) h
  rw [factor_eq, factor_eq]
  omega

/-- The last doubling ends short of the next power, since that does not fit. -/
theorem factor_succ (h : attempt + 1 ≤ 31) : factor (attempt + 1) = 2 * factor attempt := by
  unfold factor
  rw [if_pos (by omega), if_pos (by omega)]
  exact (Nat.pow_succ ..).trans (Nat.mul_comm ..)

theorem factor_late (h : 32 ≤ attempt) : factor attempt = factor 32 := by
  unfold factor
  rw [if_neg (by omega), if_neg (by omega)]

theorem inNanoseconds_delay (policy : RetryPolicy) (attempt : Nat) :
    (policy.delay attempt).inNanoseconds =
      min Span.longest.inNanoseconds (policy.backoff.inNanoseconds * factor attempt) :=
  Span.inNanoseconds_scale ..

/-- The product of nanoseconds is the only one that is not checked; it fits its 64
bits. -/
theorem delay_exact (policy : RetryPolicy) (normal : policy.backoff.Normal) (attempt : Nat) :
    (policy.delay attempt).inNanoseconds = min (2 ^ 64 * 10 ^ 9 - 1)
      (policy.backoff.inNanoseconds * min (2 ^ attempt) (2 ^ 32 - 1)) ∧
    (policy.delay attempt).Normal ∧
    factor attempt < 2 ^ 32 ∧ policy.backoff.nanoseconds * factor attempt < 2 ^ 64 ∧
    (∀ later, attempt ≤ later →
      (policy.delay attempt).inNanoseconds ≤ (policy.delay later).inNanoseconds) ∧
    (∀ other : RetryPolicy, policy.backoff.inNanoseconds ≤ other.backoff.inNanoseconds →
      (policy.delay attempt).inNanoseconds ≤ (other.delay attempt).inNanoseconds) ∧
    (attempt + 1 ≤ 31 → policy.delay (attempt + 1) = Span.longest ∨
      (policy.delay (attempt + 1)).inNanoseconds = 2 * (policy.delay attempt).inNanoseconds) ∧
    (32 ≤ attempt → policy.delay attempt = policy.delay 32) := by
  have small : factor attempt < 2 ^ 32 := by
    rw [factor_eq]
    exact Nat.lt_of_le_of_lt (Nat.min_le_right ..) (by decide)
  refine ⟨?exact, Span.normal_scale .., small, ?fits, ?later, ?longer, ?doubles, ?constant⟩
  case exact => rw [inNanoseconds_delay, factor_eq, Span.inNanoseconds_longest]
  case fits =>
    calc policy.backoff.nanoseconds * factor attempt
      _ ≤ 10 ^ 9 * 2 ^ 32 :=
        Nat.mul_le_mul (Nat.le_of_lt normal.nanoseconds) (Nat.le_of_lt small)
      _ < 2 ^ 64 := by decide
  case later =>
    intro later h
    have products := Nat.mul_le_mul_left policy.backoff.inNanoseconds (factor_mono h)
    rw [inNanoseconds_delay, inNanoseconds_delay]
    omega
  case longer =>
    intro other h
    have products := Nat.mul_le_mul_right (factor attempt) h
    rw [inNanoseconds_delay, inNanoseconds_delay]
    omega
  case doubles =>
    intro early
    -- Exact below the longest span; at it the delay has saturated.
    have doubled : policy.backoff.inNanoseconds * factor (attempt + 1) =
        2 * (policy.backoff.inNanoseconds * factor attempt) := by
      rw [factor_succ early, Nat.mul_left_comm]
    have normalLater : (policy.delay (attempt + 1)).Normal := Span.normal_scale ..
    rw [normalLater.eq_iff Span.normal_longest, inNanoseconds_delay, inNanoseconds_delay, doubled]
    omega
  case constant =>
    intro late
    rw [delay, delay, factor_late late]

end RetryPolicy

namespace Sample

def patientPolicy : RetryPolicy := ⟨5, ⟨2 ^ 62, 500000000⟩⟩

end Sample

theorem RetryPolicy.delay_exact_sample :
    Sample.patientPolicy.backoff.Normal ∧
    (Sample.patientPolicy.delay 1).inNanoseconds =
      2 * Sample.patientPolicy.backoff.inNanoseconds ∧
    (Sample.patientPolicy.delay 2).inNanoseconds = 2 ^ 64 * 10 ^ 9 - 1 := by
  have normal : Sample.patientPolicy.backoff.Normal := ⟨by decide, by decide⟩
  obtain ⟨once, -⟩ := delay_exact Sample.patientPolicy normal 1
  obtain ⟨twice, -⟩ := delay_exact Sample.patientPolicy normal 2
  exact ⟨normal, once.trans (by decide), twice.trans (by decide)⟩

end Dataspace
