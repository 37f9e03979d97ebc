import Tether.Time

/-!
The clock that stamps handles. It either follows the time of the run or is moved by hand; moved
too far, it can no longer be read.
-/

namespace Tether

/-- The longest span a clock moved by hand can have gone: `2 ^ 64` seconds less a nanosecond. -/
def Duration.longest : Duration := Duration.ofSeconds (Nat.pow 2 64) - 1

/-- Moments are counted in signed 64-bit seconds; from here on there are none. -/
def Instant.limit : Instant := Duration.ofSeconds (Nat.pow 2 63)

inductive Clock where
  | system
  | manual (elapsed : Duration)
  deriving Repr, DecidableEq

namespace Clock

/-- What the clock shows when the run is at `now`, or `none` if it has gone past every moment. -/
def read (now : Instant) : Clock → Option Instant
  | system => some now
  | manual elapsed => if elapsed < Instant.limit then some elapsed else none

/-- Move a manual clock forward. It refuses to go beyond the longest span and then stays as it
was. A clock that follows the run is not moved by hand. -/
def advance (span : Duration) : Clock → Option Clock
  | system => none
  | manual elapsed =>
    if elapsed + span ≤ Duration.longest then some (manual (elapsed + span)) else none

end Clock

end Tether
