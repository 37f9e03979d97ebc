import Tether.Command.Probe
import Tether.Command.Soak
import Tether.Settings.Environment
import Tether.Settings.Printed

/-!
Running commands: the arguments are checked, the settings loaded, and the command is carried out
over a network. What goes wrong is told from the outside in.
-/

namespace Tether

/-- How a command ended. -/
inductive Conclusion where
  | done
  | failed (chain : List String)
  /-- A moment was needed that there is not. -/
  | crashed
  deriving Repr, DecidableEq

/-- What a command printed, and how it ended. -/
structure Output where
  text : String := ""
  conclusion : Conclusion := .done

namespace Settings

/-- A world with one pool over a network, as the settings say. -/
def openPool (s : Settings) (network : Network) :
    Except PoolError (Nat × World NetworkDialer NetworkConnection) :=
  let dialer : NetworkDialer := { settings := s.network, network }
  World.openPool s.linger { env := { factory := { dialer, policy := s.policy } } }

/-- Why no pool could be opened. -/
def openFailure (error : PoolError) : List String :=
  ["Failed to create connection pool", error.message]

end Settings

namespace Output

def ofReport (r : ProbeReport) (format : OutputFormat) : Output :=
  { text := r.print format
    conclusion := match r.complaint? with
      | some complaint => .failed [complaint]
      | none => .done }

end Output

/-- Probe endpoints with these settings. -/
def Settings.probe (s : Settings) (network : Network) (endpoints : List String) :
    Except (List String) ProbeReport :=
  match s.openPool network with
  | .error error => .error (openFailure error)
  | .ok (pool, w) => .ok (Probe.run (fun c => some c.peer) pool endpoints w).1

/-- Soak an endpoint with these settings. -/
def Settings.soak (s : Settings) (network : Network) (endpoint : String)
    (duration interval : Duration) (hold : Bool) : Except (List String) (Option SoakReport) :=
  match s.openPool network with
  | .error error => .error (openFailure error)
  | .ok (pool, w) => .ok ((Soak.run pool endpoint duration interval hold w).map Prod.fst)

namespace Command

/-- Carry out a command. -/
def perform (s : Settings) (network : Network) (format : OutputFormat) : Command → Output
  | probe endpoints =>
    match s.probe network endpoints with
    | .ok report => .ofReport report format
    | .error chain => { conclusion := .failed chain }
  | soak endpoint durationSecs intervalMs hold =>
    match s.soak network endpoint (Duration.ofSeconds durationSecs)
        (Duration.ofMillis intervalMs) hold with
    | .ok (some report) => { text := report.print format }
    | .ok none => { conclusion := .crashed }
    | .error chain => { conclusion := .failed chain }
  | config =>
    match format with
    | .text => { text := s.text }
    | .json => { text := s.json.line }

end Command

namespace Arguments

/-- Check the arguments and load the settings. -/
def prepare (a : Arguments) (source : SettingsSource) : Except (List String) Settings :=
  match a.command.complaint? with
  | some complaint => .error ["Invalid arguments", complaint]
  | none =>
    match Settings.load a.config source with
    | .ok s => .ok s
    | .error error => .error ("Failed to load configuration" :: error.chain)

/-- Check the arguments, load the settings, and carry out the command. -/
def run (a : Arguments) (source : SettingsSource) (network : Network) : Output :=
  match a.prepare source with
  | .ok s => a.command.perform s network a.format
  | .error chain => { conclusion := .failed chain }

end Arguments

end Tether
