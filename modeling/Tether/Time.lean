/-!
Spans of time and moments. Both count whole nanoseconds and have no upper bound here: a clock
that cannot show a late moment says so itself.
-/

namespace Tether

/-- A span of time in whole nanoseconds. -/
abbrev Duration := Nat

/-- A moment, as the span since the run began. -/
abbrev Instant := Nat

namespace Duration

-- The unit stands first: a product with a count that is not known stays stuck, and the kernel does
-- not take the unit apart.
def ofSeconds (count : Nat) : Duration := 1000000000 * count

def ofMillis (count : Nat) : Duration := 1000000 * count

/-- Whole seconds in the span; the rest is dropped. -/
def seconds (span : Duration) : Nat := span / 1000000000

/-- Nanoseconds beyond the whole seconds. -/
def subsecond (span : Duration) : Nat := span % 1000000000

/-- Whole milliseconds in the span; the rest is dropped. -/
def millis (span : Duration) : Nat := span / 1000000

/-- The longest that anything sleeps at a stretch: thirty years of 365 days. The timer takes no
longer sleep from whatever moment on, also where the moment of its end could be told: one of thirty
years and a millisecond ends a millisecond early. Timeouts are not cut short. -/
def longestSleep : Duration := ofSeconds (30 * 365 * 86400)

/-- How long a sleep lasts that was to last for `span`. -/
def slept (span : Duration) : Duration := min span longestSleep

/-- Digits of `part` filled up with zeros on the left to `width`, less the zeros at their end. -/
def fraction (width part : Nat) : List Char :=
  let digits := Nat.toDigits 10 part
  let filled := List.replicate (width - digits.length) '0' ++ digits
  (filled.reverse.dropWhile (· == '0')).reverse

/-- `whole` and `part / 10 ^ width` in decimal, with a point only where a fraction follows. -/
def decimal (whole width part : Nat) : String :=
  match fraction width part with
  | [] => toString whole
  | digits => toString whole ++ "." ++ String.ofList digits

/-- The span in its largest unit not above it, of seconds, milliseconds, microseconds and
nanoseconds. Nothing is rounded, and there is no unit above the second. -/
def text (span : Duration) : String :=
  if 1000000000 ≤ span then decimal (span / 1000000000) 9 (span % 1000000000) ++ "s"
  else if 1000000 ≤ span then decimal (span / 1000000) 6 (span % 1000000) ++ "ms"
  else if 1000 ≤ span then decimal (span / 1000) 3 (span % 1000) ++ "µs"
  else toString span ++ "ns"

end Duration

end Tether
