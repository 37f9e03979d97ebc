import Tether.Error
import Tether.Text.Blank
import Tether.Text.Numeral
import Tether.Text.Quoted

/-!
Endpoints as `host:port`. The port stands behind the last colon; the host is what comes before it,
without the opening brackets at its start and the closing ones at its end. What brackets enclose
is not looked at, nor whether they match.
-/

namespace Tether

structure Endpoint where
  host : List Char
  port : Nat
  deriving Repr, DecidableEq

/-- The first thing wrong with a text that is no endpoint. -/
inductive EndpointError where
  | missingPort
  | missingHost
  | invalidPort
  deriving Repr, DecidableEq

def EndpointError.message (text : String) : EndpointError → String
  | missingPort => "missing port in " ++ Text.quoted text
  | missingHost => "missing host in " ++ Text.quoted text
  | invalidPort => "invalid port in " ++ Text.quoted text

namespace Endpoint

/-- What stands before and behind the last colon. -/
def splitLast : List Char → Option (List Char × List Char)
  | [] => none
  | c :: rest =>
    match splitLast rest with
    | some (before, behind) => some (c :: before, behind)
    | none => if c = ':' then some ([], rest) else none

/-- The text without the opening brackets it starts with, and then without the closing brackets
it ends with. -/
def stripBrackets (cs : List Char) : List Char :=
  ((cs.dropWhile (· == '[')).reverse.dropWhile (· == ']')).reverse

/-- Read an endpoint. An empty host is found before a bad port. -/
def read (cs : List Char) : Except EndpointError Endpoint :=
  match splitLast cs with
  | none => .error .missingPort
  | some (before, behind) =>
    let host := stripBrackets before
    if host.isEmpty then .error .missingHost
    else match Text.numeral Text.max16 behind with
      | none => .error .invalidPort
      | some port => .ok { host, port }

/-- Read the endpoint that a dial was asked for. -/
def ofText (text : String) : Except DialError Endpoint :=
  match read text.toList with
  | .ok endpoint => .ok endpoint
  | .error error => .error (.resolve (error.message text))

/-- Why an endpoint on the command line is not accepted, if it is not. Blanks around it do not
count, but the complaint shows them. -/
def complaint? (text : String) : Option String :=
  match ofText (Text.trimmed text) with
  | .ok _ => none
  | .error error =>
    some ("Invalid endpoint " ++ Text.quoted text ++ ": " ++ error.message ++
      ". Expected: host:port")

end Endpoint

end Tether
