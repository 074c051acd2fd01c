/-!
# Retry delays

Exponential backoff for calls that never reached their service. Spans of time
are whole seconds of 64 bits and nanoseconds; what does not fit is cut to the
longest span.
-/

namespace Dataspace

structure Span where
  seconds : Nat
  nanoseconds : Nat
  deriving DecidableEq, Repr

namespace Span

def perSecond : Nat := 1000000000

def secondsBound : Nat := Nat.pow 2 64

def longest : Span := ⟨secondsBound - 1, perSecond - 1⟩

def ofMilliseconds (ms : Nat) : Span := ⟨ms / 1000, ms % 1000 * 1000000⟩

/-- Seconds and nanoseconds are multiplied apart; full seconds are carried. -/
def scale (span : Span) (factor : Nat) : Span :=
  let nanoseconds := span.nanoseconds * factor
  let seconds := span.seconds * factor + nanoseconds / perSecond
  if seconds < secondsBound then ⟨seconds, nanoseconds % perSecond⟩ else longest

end Span

/-- Retries come after the first attempt. -/
structure RetryPolicy where
  retries : Nat
  backoff : Span
  deriving DecidableEq, Repr

namespace RetryPolicy

def standard : RetryPolicy := ⟨5, Span.ofMilliseconds 100⟩

def greatestFactor : Nat := Nat.pow 2 32 - 1

/-- Doubling stops at the greatest factor. The power is not computed beyond it. -/
def factor (attempt : Nat) : Nat :=
  if attempt < 32 then Nat.pow 2 attempt else greatestFactor

def delay (policy : RetryPolicy) (attempt : Nat) : Span := policy.backoff.scale (factor attempt)

end RetryPolicy

end Dataspace
