import Tether.Error

/-!
What opens connections. A dial is launched, is in the air for a while, and then lands: only then
is it known whether there is a connection. A dial that is given up in the air never lands.
-/

namespace Tether

/-- A dial in the air: the dialer's own number for it, how long it takes, and the dialer after
launching it. -/
structure Launch (δ : Type) where
  ticket : Nat
  delay : Duration
  dialer : δ

class Dialer (δ : Type) (γ : outParam Type) where
  launch : String → δ → Launch δ
  /-- The answer to the dial of this endpoint with this ticket. -/
  land : String → Nat → δ → Except DialError γ × δ

end Tether
