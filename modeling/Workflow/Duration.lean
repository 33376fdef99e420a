import Workflow.Text.Digits

/-!
# Lengths of time

A length of time is counted in nanoseconds.  It is written in the largest of seconds, milliseconds,
microseconds and nanoseconds of which it has at least one, with the digits of the fraction that are
needed.
-/

namespace Workflow

/-- A length of time. -/
structure Duration where
  /-- The nanoseconds. -/
  nanos : Nat
  deriving DecidableEq

namespace Duration

/-- So many milliseconds. -/
def ofMillis (millis : Nat) : Duration :=
  ⟨millis * 1000000⟩

/-- The whole milliseconds. -/
def millis (duration : Duration) : Nat :=
  duration.nanos / 1000000

/-- A number of nanoseconds in a unit of `10 ^ places` nanoseconds. -/
def inUnit (places : Nat) (unit : String) (nanos : Nat) : String :=
  let fraction := Text.paddedText places (nanos % Nat.pow 10 places)
  let digits := (fraction.reverse.dropWhile (· == '0')).reverse
  let fractionText := if nanos % Nat.pow 10 places = 0 then [] else '.' :: digits
  String.ofList (Text.decimalText (nanos / Nat.pow 10 places) ++ fractionText) ++ unit

/-- The written form. -/
def toString (duration : Duration) : String :=
  if 1000000000 ≤ duration.nanos then inUnit 9 "s" duration.nanos
  else if 1000000 ≤ duration.nanos then inUnit 6 "ms" duration.nanos
  else if 1000 ≤ duration.nanos then inUnit 3 "µs" duration.nanos
  else inUnit 0 "ns" duration.nanos

instance : ToString Duration :=
  ⟨toString⟩

end Duration
end Workflow
