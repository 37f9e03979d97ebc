import Tether.Command.Arguments
import Tether.Json
import Tether.Pool.Basic

/-!
What the commands report, and how it is printed: in lines for readers or as JSON.
-/

namespace Tether

namespace Statistics

/-- The numbers with their full names. -/
def json (s : Statistics) : Json :=
  .fields [
    ("total_created", .number s.counters.created),
    ("total_reused", .number s.counters.reused),
    ("failed_attempts", .number s.counters.failed),
    ("evicted_idle", .number s.counters.evicted),
    ("invalidated", .number s.counters.invalidated),
    ("live_handles", .number s.live),
    ("outstanding_borrows", .number s.outstanding)]

/-- The numbers in one line. -/
def line (s : Statistics) : String :=
  "pool: created=" ++ toString s.counters.created ++
    " reused=" ++ toString s.counters.reused ++
    " failed=" ++ toString s.counters.failed ++
    " evicted=" ++ toString s.counters.evicted ++
    " invalidated=" ++ toString s.counters.invalidated ++
    " live=" ++ toString s.live ++
    " borrows=" ++ toString s.outstanding ++ "\n"

end Statistics

/-- What came of one probed endpoint: the peer's address, if it is known, or an error. -/
structure ProbeOutcome where
  endpoint : String
  latency : Duration
  result : Except PoolError (Option String)

structure ProbeReport where
  outcomes : List ProbeOutcome
  statistics : Statistics

namespace ProbeOutcome

def connected (o : ProbeOutcome) : Bool :=
  match o.result with
  | .ok _ => true
  | .error _ => false

/-- The latency in whole milliseconds, as far as 64 bits reach. -/
def latencyMs (o : ProbeOutcome) : Nat := o.latency.millis % Nat.pow 2 64

def padRight (width : Nat) (s : String) : String :=
  s ++ String.ofList (List.replicate (width - s.length) ' ')

def padLeft (width : Nat) (s : String) : String :=
  String.ofList (List.replicate (width - s.length) ' ') ++ s

/-- Endpoint and latency in columns of thirty and six characters. -/
def columns (o : ProbeOutcome) : String :=
  padRight 30 o.endpoint ++ " " ++ padLeft 6 (toString o.latencyMs) ++ "ms  "

def line (o : ProbeOutcome) : String :=
  match o.result with
  | .ok peer => "OK    " ++ o.columns ++ "peer=" ++ peer.getD "-" ++ "\n"
  | .error error => "FAIL  " ++ o.columns ++ error.message ++ "\n"

/-- A peer or an error is only there if it is known. -/
def json (o : ProbeOutcome) : Json :=
  .fields ([
    ("endpoint", .text o.endpoint),
    ("connected", .switch o.connected),
    ("latency_ms", .number o.latencyMs)] ++
    match o.result with
    | .ok (some peer) => [("peer", .text peer)]
    | .ok none => []
    | .error error => [("error", .text error.message)])

end ProbeOutcome

namespace ProbeReport

def print (r : ProbeReport) : OutputFormat → String
  | .text => String.join (r.outcomes.map ProbeOutcome.line) ++ r.statistics.line
  | .json => Json.line (.fields
      [("outcomes", .items (r.outcomes.map ProbeOutcome.json)), ("stats", r.statistics.json)])

/-- Why the probe as a whole counts as failed, if it does. -/
def complaint? (r : ProbeReport) : Option String :=
  let failed := (r.outcomes.filter fun o => !o.connected).length
  if 0 < failed then
    some (toString failed ++ " of " ++ toString r.outcomes.length ++ " endpoint(s) unreachable")
  else none

end ProbeReport

structure SoakReport where
  endpoint : String
  rounds : Nat
  succeeded : Nat
  failed : Nat
  statistics : Statistics

namespace SoakReport

def print (r : SoakReport) : OutputFormat → String
  | .text =>
    r.endpoint ++ ": " ++ toString r.rounds ++ " rounds, " ++ toString r.succeeded ++ " ok, " ++
      toString r.failed ++ " failed\n" ++ r.statistics.line
  | .json => Json.line (.fields [
      ("endpoint", .text r.endpoint),
      ("rounds", .number r.rounds),
      ("succeeded", .number r.succeeded),
      ("failed", .number r.failed),
      ("stats", r.statistics.json)])

end SoakReport

end Tether
