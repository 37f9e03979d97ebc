import Tether.Endpoint

/-!
What the command line asks for.
-/

namespace Tether

inductive OutputFormat where
  | text
  | json
  deriving Repr, DecidableEq

inductive Command where
  /-- Dial endpoints through one pool and report each outcome. -/
  | probe (endpoints : List String)
  /-- Borrow and release one endpoint again and again, and hold the borrow in between or not. -/
  | soak (endpoint : String) (durationSecs intervalMs : Nat) (hold : Bool)
  /-- Print the settings. -/
  | config
  deriving Repr, DecidableEq

structure Arguments where
  /-- The file to load settings from; variables are used without one. -/
  config : Option String := none
  logLevel : String := "info"
  format : OutputFormat := .text
  command : Command
  deriving Repr, DecidableEq

/-- The first thing wrong with a command, if anything is. Endpoints come before durations. -/
def Command.complaint? : Command → Option String
  | probe endpoints => endpoints.findSome? Endpoint.complaint?
  | soak endpoint durationSecs intervalMs _ =>
    (Endpoint.complaint? endpoint).or <|
      if durationSecs = 0 then some "Duration must be greater than 0"
      else if intervalMs = 0 then some "Interval must be greater than 0"
      else none
  | config => none

end Tether
