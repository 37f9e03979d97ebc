import Tether.Time

/-!
What can go wrong with one dial, with a whole sequence of dials, and with an operation of a pool.
Each kind of error is a cause; its wording is a function of the cause.
-/

namespace Tether

/-- Why a single dial failed. -/
inductive DialError where
  | io (text : String)
  | timeout (after : Duration)
  | resolve (text : String)
  | refused (text : String)
  deriving Repr, DecidableEq

namespace DialError

def message : DialError → String
  | io text => "I/O error: " ++ text
  | timeout after => "Dial timed out after " ++ after.text
  | resolve text => "Could not resolve endpoint: " ++ text
  | refused text => "Endpoint refused connection: " ++ text

/-- The texts of the errors behind this one, nearest first. Only an I/O error has one. -/
def causes : DialError → List String
  | io text => [text]
  | _ => []

end DialError

/-- Why a sequence of dials ended without a connection. -/
inductive ConnectError where
  | exhausted (endpointId : String) (attempts : Nat) (last : DialError)
  | cancelled (endpointId : String) (attempts : Nat)
  deriving Repr, DecidableEq

namespace ConnectError

def endpointId : ConnectError → String
  | exhausted id _ _ => id
  | cancelled id _ => id

/-- Dials made before the sequence ended. -/
def attempts : ConnectError → Nat
  | exhausted _ n _ => n
  | cancelled _ n => n

def message : ConnectError → String
  | exhausted id n last =>
    "Failed to connect to " ++ id ++ " after " ++ toString n ++ " attempt(s): " ++ last.message
  | cancelled id n =>
    "Connection attempt to " ++ id ++ " cancelled after " ++ toString n ++ " attempt(s)"

def causes : ConnectError → List String
  | exhausted _ _ last => last.message :: last.causes
  | cancelled _ _ => []

end ConnectError

/-- Why an operation of a pool was refused or failed. A failed sequence of dials is shared by
every caller that waited for it. -/
inductive PoolError where
  | closed
  | invalidEndpointId
  | invalidConfig (text : String)
  | connect (error : ConnectError)
  | mismatchedRelease (endpointId : String)
  | busy
  deriving Repr, DecidableEq

namespace PoolError

def message : PoolError → String
  | closed => "Connection pool is closed"
  | invalidEndpointId => "Endpoint id must not be empty"
  | invalidConfig text => "Invalid pool configuration: " ++ text
  | connect error => error.message
  | mismatchedRelease id => "Release without matching borrow on " ++ id
  | busy => "Registry is busy"

/-- A connect error stands for itself, so the errors behind it are those behind its sequence. -/
def causes : PoolError → List String
  | connect error => error.causes
  | _ => []

def isClosed : PoolError → Bool
  | closed => true
  | _ => false

end PoolError

end Tether
