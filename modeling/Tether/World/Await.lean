import Tether.World.Settle

/-!
Waiting in a world where nobody else acts: time jumps from one moment at which something is due to
the next.
-/

namespace Tether.World

variable {δ γ : Type} [Dialer δ γ]

/-- Let time pass until `done` holds of the settled world, but not beyond `limit`, and through at
most that many moments. -/
def passUntil (limit : Option Instant) (done : World δ γ → Bool) :
    Nat → World δ γ → World δ γ
  | 0, w => w
  | count + 1, w =>
    let w := w.settle
    if done w then w
    else match earlier limit w.nextDue with
      | none => w
      | some moment => passUntil limit done count (w.passTo moment)

/-- No wait passes through more moments than this. -/
def patience : Nat := Nat.pow 2 62

/-- Let that much time pass. -/
def sleep (span : Duration) (w : World δ γ) : World δ γ :=
  let moment := w.env.now + span.slept
  w.passUntil (some moment) (fun w => moment ≤ w.env.now) patience

def isRequestLive (number index : Nat) (w : World δ γ) : Bool :=
  (w.requestState number index).any RequestState.isLive

/-- Ask a pool for a connection and wait for the answer, which is missing only if the clock cannot
be read. -/
def fetch (number : Nat) (id : String) (w : World δ γ) :
    Option (Except PoolError HandleRef) × World δ γ :=
  match w.visit number (Site.get id) with
  | (none, w) => (none, w)
  | (some index, w) =>
    let w := w.passUntil none (fun w => !w.isRequestLive number index) patience
    match w.requestState number index with
    | some (.granted handle) => (some (.ok { home := number, index := handle }), w)
    | some (.refused error) => (some (.error error), w)
    | _ => (none, w)

end Tether.World
