import Tether.Error
import Tether.Retry
import Tether.Text.Shortest

/-!
What is worth noting while pools work. An event is what happened; level, message and fields are
read off it, the fields in the order in which they are noted.
-/

namespace Tether

inductive Level where
  | debug
  | info
  | warn
  deriving Repr, DecidableEq

def Level.name : Level → String
  | .debug => "DEBUG"
  | .info => "INFO"
  | .warn => "WARN"

inductive Event where
  | dialing (endpointId : String) (tier : Tier) (maxAttempts : Nat)
  | connected (endpointId : String) (attempt : Nat) (tier : Tier)
  | retrying (endpointId : String) (attempt remaining : Nat) (grace : Duration) (error : DialError)
  | gaveUp (endpointId : String) (attempts : Nat) (error : DialError)
  | cancelled (endpointId : String) (attempts : Nat)
  | mismatchedRelease (endpointId : String) (total : Nat)
  | reused (endpointId : String) (refCount : Nat)
  | rechecking (endpointId : String)
  | created (endpointId : String) (totalCreated : Nat)
  | discarded (endpointId : String)
  | unregistered (endpointId : String) (cause : String)
  | broken (endpointId : String) (refCount : Nat) (cause : String)
  | evicted (endpointId : String) (idle : Duration)
  | cleanedUp (evicted remaining : Nat)
  | closed (dropped : Nat)
  | reaperStarted (interval : Duration)
  | reaperWoken
  | scanFinished (evicted : Nat)
  | scanSkipped (error : PoolError)
  | reaperStopped
  | reaperFailed
  deriving Repr, DecidableEq

namespace Event

/-- Seconds as a floating-point number, whole seconds and the rest rounded apart. -/
def secondsText (span : Duration) : String :=
  Text.shortest (Float.ofNat span.seconds + Float.ofNat span.subsecond / 1000000000.0)

/-- Milliseconds in 64 bits; more than fit wrap around. -/
def millisText (span : Duration) : String := toString (span.millis % Nat.pow 2 64)

def level : Event → Level
  | dialing .. | reused .. | rechecking .. | unregistered .. | evicted .. | cleanedUp ..
  | reaperWoken | scanFinished .. => .debug
  | connected .. | cancelled .. | created .. | discarded .. | closed .. | reaperStarted ..
  | reaperStopped => .info
  | retrying .. | gaveUp .. | mismatchedRelease .. | broken .. | scanSkipped ..
  | reaperFailed => .warn

def message : Event → String
  | dialing .. => "Creating new connection"
  | connected .. => "Connected"
  | retrying .. => "Dial failed, retrying"
  | gaveUp .. => "Giving up on connection"
  | cancelled .. => "Connection attempt cancelled"
  | mismatchedRelease .. => "Release without a matching borrow"
  | reused .. => "Reusing connection"
  | rechecking .. => "Creation finished, rechecking registry"
  | created .. => "Created new connection"
  | discarded .. => "Pool closed while connecting, discarding connection"
  | unregistered .. => "Error reported on unregistered connection"
  | broken .. => "Connection reported broken, removed from pool"
  | evicted .. => "Evicting idle connection"
  | cleanedUp .. => "Cleaned up idle connections"
  | closed .. => "Connection pool closed"
  | reaperStarted .. => "Reaper started"
  | reaperWoken => "Reaper woken for immediate scan"
  | scanFinished .. => "Reaper scan finished"
  | scanSkipped .. => "Reaper scan skipped, retrying next cycle"
  | reaperStopped => "Reaper stopped"
  | reaperFailed => "Reaper task ended abnormally"

def fields : Event → List (String × String)
  | dialing id tier most =>
    [("endpoint_id", id), ("tier", tier.name), ("max_attempts", toString most)]
  | connected id attempt tier =>
    [("endpoint_id", id), ("attempt", toString attempt), ("tier", tier.name)]
  | retrying id attempt remaining grace error =>
    [("endpoint_id", id), ("attempt", toString attempt), ("remaining", toString remaining),
      ("grace_ms", millisText grace), ("error", error.message)]
  | gaveUp id attempts error =>
    [("endpoint_id", id), ("attempts", toString attempts), ("error", error.message)]
  | cancelled id attempts => [("endpoint_id", id), ("attempts", toString attempts)]
  | mismatchedRelease id total =>
    [("endpoint_id", id), ("mismatched_releases", toString total)]
  | reused id count => [("endpoint_id", id), ("ref_count", toString count)]
  | rechecking id => [("endpoint_id", id)]
  | created id total => [("endpoint_id", id), ("total_created", toString total)]
  | discarded id => [("endpoint_id", id)]
  | unregistered id cause => [("endpoint_id", id), ("error", cause)]
  | broken id count cause =>
    [("endpoint_id", id), ("ref_count", toString count), ("error", cause)]
  | evicted id idle => [("endpoint_id", id), ("idle_ms", millisText idle)]
  | cleanedUp gone remaining =>
    [("evicted", toString gone), ("remaining", toString remaining)]
  | closed dropped => [("dropped", toString dropped)]
  | reaperStarted interval => [("interval_secs", secondsText interval)]
  | scanFinished gone => [("evicted", toString gone)]
  | scanSkipped error => [("error", error.message)]
  | reaperWoken | reaperStopped | reaperFailed => []

end Event

end Tether
