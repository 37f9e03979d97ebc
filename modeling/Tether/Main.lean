import Std.Internal.UV.DNS
import Std.Internal.UV.TCP
import Tether.Command.Run
import Tether.Command.Usage

/-!
The command line. Before a command runs, its files are read and each endpoint that it names is
connected to once; the run itself is a computation over what was found. Time in it is the run's
own, so that a soak is reported on without being waited for.
-/

namespace Tether.CommandLine

open Std.Internal.UV
open Std.Net (IPAddr IPv4Addr IPv6Addr SocketAddress)

/-! ### Files and variables -/

/-- The file at a path, under the path's normal form, if there is one that can be read. -/
def readFile (path : String) : IO Files := do
  let some name := Files.normal? path | return []
  let .ok octets ← (IO.FS.readBinFile path).toBaseIO | return []
  return [(name, octets.toList)]

/-- The variables among these that are set. -/
def readVariables (names : List String) : IO (Table String) := do
  let found ← names.mapM fun name => return (name, ← IO.getEnv name)
  return found.filterMap fun (name, value) => value.map (name, ·)

/-! ### The network -/

/-- Wait for an answer, at most that many milliseconds. -/
def await {α : Type} (limit : Nat) (answer : IO.Promise (Except IO.Error α)) :
    IO (Option (Except IO.Error α)) := do
  let task := answer.result?
  for _ in [0:limit] do
    if ← IO.hasFinished task then break
    IO.sleep 1
  if ← IO.hasFinished task then return task.get else return none

/-- The addresses of a host, which may be written as one. -/
def addresses (limit : Nat) (host : String) : IO (Except String (List IPAddr)) := do
  match IPv4Addr.ofString host, IPv6Addr.ofString host with
  | some address, _ => return .ok [.v4 address]
  | none, some address => return .ok [.v6 address]
  | none, none =>
    match ← await limit (← DNS.getAddrInfo host "" 0) with
    | some (.ok found) => return .ok found.toList
    | some (.error e) => return .error (toString e)
    | none => return .ok []

def withPort (port : Nat) : IPAddr → SocketAddress
  | .v4 addr => .v4 { addr, port := UInt16.ofNat port }
  | .v6 addr => .v6 { addr, port := UInt16.ofNat port }

def peerText (port : Nat) : IPAddr → String
  | .v4 address => toString (IPAddr.v4 address) ++ ":" ++ toString port
  | .v6 address => "[" ++ toString (IPAddr.v6 address) ++ "]:" ++ toString port

/-- Connect to the first address that answers. The last failure counts if none does. -/
def connect (limit port : Nat) : Except String String → List IPAddr → IO (Except String String)
  | answer, [] => return answer
  | _, address :: rest => do
    let socket ← TCP.Socket.new
    let answer : Except String String ← try
      match ← await limit (← socket.connect (withPort port address)) with
      | some (.ok ()) => pure (.ok (peerText port address))
      | some (.error e) => pure (.error (toString e))
      | none => pure (.error "connection timed out")
    catch e => pure (.error (toString e))
    match answer with
    | .ok peer => return .ok peer
    | .error text => connect limit port (.error text) rest

/-- What is behind an endpoint: how long an answer took, and what it was. -/
def explore (limit : Nat) (endpoint : Endpoint) : IO Route := do
  let start ← IO.monoMsNow
  let outcome ← match ← addresses limit (String.ofList endpoint.host) with
    | .error text => pure (.error text)
    | .ok found => connect limit endpoint.port (.error "no address found") found
  let took := (← IO.monoMsNow) - start
  return .answers (Duration.ofMillis took) outcome

/-- The network as far as these endpoints are concerned. -/
def survey (limit : Nat) (texts : List String) : IO Network := do
  let endpoints := texts.eraseDups.filterMap fun text => (Endpoint.ofText text).toOption
  let routes ← endpoints.mapM fun e => return ((e.host, e.port), ← explore limit e)
  return fun host port => (routes.lookup (host, port)).getD (.blocked "host not looked up")

/-! ### Running -/

/-- The endpoints that a command dials. -/
def dialed : Command → List String
  | .probe endpoints => endpoints.map Text.trimmed
  | .soak endpoint .. => [Text.trimmed endpoint]
  | .config => []

/-- The longest that looking for one endpoint may take. -/
def patience (s : Settings) : Nat := min s.connectTimeoutMs 60000 + 1

/-- A chain of causes, from the outside in. -/
def failureText : List String → String
  | [] => "Error"
  | [only] => "Error: " ++ only
  | outer :: causes => "Error: " ++ outer ++ "\n\nCaused by:\n" ++
      "\n".intercalate (causes.map ("    " ++ ·))

/-- Print what a command printed, and answer with the exit code. -/
def finish (o : Output) : IO UInt32 := do
  IO.print o.text
  match o.conclusion with
  | .done => return 0
  | .failed chain => IO.eprintln (failureText chain); return 1
  | .crashed => IO.eprintln "Error: the deadline is too far away"; return 101

def usageText : String :=
  "Usage: tether [--config FILE] [--log-level LEVEL] [--format text|json] COMMAND\n\n" ++
  "Commands:\n" ++
  "  probe ENDPOINT...   Dial endpoints through one pool and report each outcome\n" ++
  "  soak ENDPOINT [--duration-secs N] [--interval-ms N] [--hold]\n" ++
  "                      Borrow and release one endpoint again and again\n" ++
  "  config              Print the effective configuration"

def runCommand (a : Arguments) (env : Table String) : IO UInt32 := do
  let named ← match a.config with
    | some path => readFile path
    | none => readFile ".env"
  let source : SettingsSource := { files := named, env }
  let network ← match a.prepare source with
    | .ok s => survey (patience s) (dialed a.command)
    | .error _ => pure fun _ _ => .blocked ""
  finish (a.run source network)

end Tether.CommandLine

open Tether in
def main (words : List String) : IO UInt32 := do
  let env ← CommandLine.readVariables
    (Usage.configVariable :: Setting.all.map Settings.variableOf)
  match Usage.read (env.get? Usage.configVariable) words with
  | .ok a => CommandLine.runCommand a env
  | .error .displayVersion => IO.println "tether 0.1.0"; return 0
  | .error .displayHelp => IO.println CommandLine.usageText; return 0
  | .error e => IO.eprintln CommandLine.usageText; return UInt32.ofNat e.exitCode
