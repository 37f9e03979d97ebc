import Tether.Clock
import Tether.Command.Report
import Tether.Text.Blank
import Tether.World.Await

/-!
Soaking an endpoint: its connection is borrowed and released at intervals until the time is up, and
the borrow is held during the interval or not. Time is looked at between rounds only.
-/

namespace Tether.Soak

variable {δ γ : Type} [Dialer δ γ]

/-- Rounds made so far, and how they went. -/
structure Tally where
  rounds : Nat := 0
  succeeded : Nat := 0
  failed : Nat := 0

/-- One round: a borrow, and an interval. -/
def round (pool : Nat) (endpoint : String) (interval : Duration) (hold : Bool)
    (t : Tally) (w : World δ γ) : Tally × World δ γ :=
  let t := { t with rounds := t.rounds + 1 }
  match w.fetch pool endpoint with
  | (some (.ok ref), w) =>
    let w := if hold then ((w.sleep interval).release pool ref).2
      else (w.release pool ref).2.sleep interval
    ({ t with succeeded := t.succeeded + 1 }, w)
  | (_, w) => ({ t with failed := t.failed + 1 }, w.sleep interval)

/-- Rounds until the deadline, and at most that many. -/
def rounds (pool : Nat) (endpoint : String) (interval : Duration) (hold : Bool)
    (deadline : Instant) : Nat → Tally → World δ γ → Tally × World δ γ
  | 0, t, w => (t, w)
  | count + 1, t, w =>
    if w.env.now < deadline then
      let (t, w) := round pool endpoint interval hold t w
      rounds pool endpoint interval hold deadline count t w
    else (t, w)

/-- Soak an endpoint through a pool, and close it in the end. There is no answer if the deadline
lies beyond every moment. A round takes an interval at least, which bounds their number. -/
def run (pool : Nat) (endpoint : String) (duration interval : Duration) (hold : Bool)
    (w : World δ γ) : Option (SoakReport × World δ γ) :=
  let endpoint := Text.trimmed endpoint
  let deadline := w.env.now + duration
  if deadline < Instant.limit then
    let (t, w) := rounds pool endpoint interval hold deadline (duration / interval.slept + 1) {} w
    let statistics := (w.pools[pool]?.map Pool.statistics).getD ⟨{}, 0, 0⟩
    some ({ endpoint, rounds := t.rounds, succeeded := t.succeeded, failed := t.failed,
            statistics }, w.visit' pool Site.close)
  else none

end Tether.Soak
