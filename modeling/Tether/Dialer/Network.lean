import Tether.Dialer
import Tether.Endpoint

/-!
A dialer for `host:port` endpoints over a network. What is behind an address belongs to the
network; the dialer reads the endpoint, waits no longer than its timeout, and switches keep-alive
on if it is asked to.
-/

namespace Tether

/-- What an attempt to connect to an address meets. -/
inductive Route where
  /-- The attempt fails at once, with this text of the system. -/
  | blocked (text : String)
  /-- An answer comes after a while: the peer's address, or the system's text for a failure. -/
  | answers (after : Duration) (outcome : Except String String)

/-- What is behind every host and port. -/
abbrev Network := List Char → Nat → Route

structure NetworkSettings where
  connectTimeout : Duration := Duration.ofSeconds 3
  keepalive : Bool := true
  deriving Repr, DecidableEq

/-- An open connection: the address at its far end, and whether it is kept alive. -/
structure NetworkConnection where
  peer : String
  keepalive : Bool
  deriving Repr, DecidableEq

structure NetworkDialer where
  settings : NetworkSettings
  network : Network

namespace NetworkDialer

/-- How long a dial takes and what it comes to. A text that is no endpoint fails without waiting,
and so does a blocked route. An answer that does not come before the timeout is not awaited. -/
def outcome (text : String) (d : NetworkDialer) :
    Duration × Except DialError NetworkConnection :=
  match Endpoint.ofText text with
  | .error error => (0, .error error)
  | .ok endpoint =>
    match d.network endpoint.host endpoint.port with
    | .blocked text => (0, .error (.io text))
    | .answers after outcome =>
      if after < d.settings.connectTimeout then
        (after, match outcome with
          | .ok peer => .ok { peer, keepalive := d.settings.keepalive }
          | .error text => .error (.io text))
      else (d.settings.connectTimeout, .error (.timeout d.settings.connectTimeout))

instance : Dialer NetworkDialer NetworkConnection where
  launch text d := { ticket := 0, delay := (d.outcome text).1, dialer := d }
  land text _ d := ((d.outcome text).2, d)

end NetworkDialer

end Tether
