import Tether.Clock
import Tether.Event
import Tether.Factory

/-!
What a pool finds around it and shares with others: the time of the run, the clock that stamps
handles, the factory, and the record of events. Here also stands what is noted about readings of
the clock while a step probes them.
-/

namespace Tether

structure Surroundings (δ : Type) where
  now : Instant := 0
  clock : Clock := .system
  factory : Factory δ
  /-- What happened, the latest first. -/
  events : List Event := []
  /-- An eviction scan is attempted just before every reading of the clock. -/
  probing : Bool := false
  /-- Readings of the clock since probing was last decided. -/
  readings : Nat := 0
  /-- What the attempted scans came to, the latest first. -/
  probes : List (Except PoolError Nat) := []

namespace Surroundings

variable {δ : Type}

def note (event : Event) (env : Surroundings δ) : Surroundings δ :=
  { env with events := event :: env.events }

def setDialer (dialer : δ) (env : Surroundings δ) : Surroundings δ :=
  { env with factory := { env.factory with dialer } }

/-- What the clock shows now, if it can be read. -/
def shown (env : Surroundings δ) : Option Instant := env.clock.read env.now

/-- Ask the factory for first contact with the endpoint. -/
def firstContact (id : String) (env : Surroundings δ) : Bool × Surroundings δ :=
  let (first, factory) := env.factory.firstContact id
  (first, { env with factory })

end Surroundings

end Tether
