import Tether.Retry

/-!
The factory makes connections with its dialer. It remembers which endpoints were ever dialed, so
that only the first sequence of dials to each of them is a patient one.
-/

namespace Tether

structure Factory (δ : Type) where
  dialer : δ
  policy : RetryPolicy := {}
  /-- Endpoints dialed at least once. None is ever forgotten. -/
  seen : List String := []
  /-- No sequence of dials waits for a retry any more. -/
  shutdown : Bool := false

namespace Factory

variable {δ : Type}

def hasSeen (id : String) (f : Factory δ) : Bool := f.seen.contains id

/-- Whether the endpoint was never dialed. After the question it counts as dialed. -/
def firstContact (id : String) (f : Factory δ) : Bool × Factory δ :=
  if f.hasSeen id then (false, f) else (true, { f with seen := id :: f.seen })

/-- The tier of a sequence of dials that starts now. -/
def tierOf (first : Bool) : Tier := if first then .initial else .subsequent

/-- The factory by its retry settings; the rest is not shown. -/
def text (f : Factory δ) : String :=
  "ConnectionFactory \x7b config: " ++ f.policy.text ++ ", .. \x7d"

end Factory

end Tether
