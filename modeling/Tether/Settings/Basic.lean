import Tether.Dialer.Network
import Tether.Retry

/-!
Settings: seven values in three sections, each with a default of its own. Six are counts of seconds,
milliseconds or retries, one is a switch.
-/

namespace Tether

/-- Groups of settings. -/
inductive Section where
  | pool
  | factory
  | dial
  deriving Repr, DecidableEq

inductive Setting where
  | lingerSecs
  | initialRetries
  | initialGraceMs
  | subsequentRetries
  | subsequentGraceMs
  | connectTimeoutMs
  | keepalive
  deriving Repr, DecidableEq

namespace Section

def all : List Section := [pool, factory, dial]

def name : Section → String
  | pool => "pool"
  | factory => "factory"
  | dial => "dial"

/-- The settings of a section, in the order in which they are shown. -/
def settings : Section → List Setting
  | pool => [.lingerSecs]
  | factory => [.initialRetries, .initialGraceMs, .subsequentRetries, .subsequentGraceMs]
  | dial => [.connectTimeoutMs, .keepalive]

end Section

namespace Setting

def all : List Setting := Section.all.flatMap Section.settings

def name : Setting → String
  | lingerSecs => "linger_secs"
  | initialRetries => "initial_retries"
  | initialGraceMs => "initial_grace_ms"
  | subsequentRetries => "subsequent_retries"
  | subsequentGraceMs => "subsequent_grace_ms"
  | connectTimeoutMs => "connect_timeout_ms"
  | keepalive => "keepalive"

/-- What a setting's value is. -/
def Value : Setting → Type
  | keepalive => Bool
  | _ => Nat

/-- The largest count allowed. -/
def largest : Setting → Nat
  | initialRetries | subsequentRetries => Text.max32
  | _ => Text.max64

end Setting

structure Settings where
  lingerSecs : Nat := 10
  initialRetries : Nat := 4
  initialGraceMs : Nat := 5000
  subsequentRetries : Nat := 3
  subsequentGraceMs : Nat := 500
  connectTimeoutMs : Nat := 3000
  keepalive : Bool := true
  deriving Repr, DecidableEq

namespace Settings

def get (s : Settings) : (setting : Setting) → setting.Value
  | .lingerSecs => s.lingerSecs
  | .initialRetries => s.initialRetries
  | .initialGraceMs => s.initialGraceMs
  | .subsequentRetries => s.subsequentRetries
  | .subsequentGraceMs => s.subsequentGraceMs
  | .connectTimeoutMs => s.connectTimeoutMs
  | .keepalive => s.keepalive

def set (s : Settings) : (setting : Setting) → setting.Value → Settings
  | .lingerSecs, n => { s with lingerSecs := n }
  | .initialRetries, n => { s with initialRetries := n }
  | .initialGraceMs, n => { s with initialGraceMs := n }
  | .subsequentRetries, n => { s with subsequentRetries := n }
  | .subsequentGraceMs, n => { s with subsequentGraceMs := n }
  | .connectTimeoutMs, n => { s with connectTimeoutMs := n }
  | .keepalive, b => { s with keepalive := b }

/-- What is wrong with settings that no pool can run with. -/
def complaint? (s : Settings) : Option String :=
  if s.lingerSecs = 0 then some "pool.linger_secs must be greater than zero" else none

def linger (s : Settings) : Duration := Duration.ofSeconds s.lingerSecs

def policy (s : Settings) : RetryPolicy :=
  { initialRetries := s.initialRetries
    initialGrace := Duration.ofMillis s.initialGraceMs
    subsequentRetries := s.subsequentRetries
    subsequentGrace := Duration.ofMillis s.subsequentGraceMs }

def network (s : Settings) : NetworkSettings :=
  { connectTimeout := Duration.ofMillis s.connectTimeoutMs, keepalive := s.keepalive }

end Settings

end Tether
