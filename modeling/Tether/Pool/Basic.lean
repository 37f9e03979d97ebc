import Tether.DialSequence
import Tether.Handle
import Tether.Table

/-!
A pool of connections, one to an endpoint, shared by everybody who asks for it. The registry says
which handle stands for an endpoint. While a missing connection is being dialed, a gate stands for
it: whoever else wants it waits there, and learns from the gate how the dialing ended.

Handles, gates and requests are numbered as they come into being and keep their number, so that a
handle that was replaced is still told from the one that replaced it.
-/

namespace Tether

/-- How the dialing behind a gate went, as those see it who wait there. -/
inductive Gate where
  | pending
  | created
  | failed (error : ConnectError)
  | closed
  /-- The request that was dialing is gone, and nobody dials in its place yet. -/
  | givenUp
  deriving Repr, DecidableEq

def Gate.isPending : Gate → Bool
  | pending => true
  | _ => false

/-- How far a request for a connection has got. -/
inductive RequestState where
  | waiting (gate : Nat)
  | dialing (gate : Nat) (sequence : DialSequence)
  | granted (handle : Nat)
  | refused (error : PoolError)
  /-- The caller went away before there was an answer. -/
  | dropped
  /-- The clock could not be read. -/
  | broken
  deriving Repr, DecidableEq

namespace RequestState

/-- Whether the caller still waits for an answer. -/
def isLive : RequestState → Bool
  | waiting _ | dialing .. => true
  | _ => false

end RequestState

structure Request where
  endpointId : String
  state : RequestState
  deriving Repr, DecidableEq

/-- What becomes of the task that evicts idle handles. -/
inductive Reaper where
  | idle
  /-- Started, and about to go to sleep. -/
  | starting
  | asleep (ends : Instant)
  /-- Ended in a scan in which the clock could not be read. -/
  | broken
  | stopped
  deriving Repr, DecidableEq

def Reaper.isRunning : Reaper → Bool
  | starting | asleep _ => true
  | _ => false

structure Counters where
  created : Nat := 0
  reused : Nat := 0
  failed : Nat := 0
  evicted : Nat := 0
  invalidated : Nat := 0
  deriving Repr, DecidableEq

structure Pool (γ : Type) where
  /-- How long a handle that nobody holds may stay unused; also the time between two scans. -/
  linger : Duration
  closed : Bool := false
  /-- The pool's sequences of dials wait for no retry, and its reaper stops. -/
  shutdown : Bool := false
  /-- Somebody outside this run holds the registry. -/
  busy : Bool := false
  /-- No name leads to the pool any more. -/
  abandoned : Bool := false
  counters : Counters := {}
  /-- Every handle the pool ever made. -/
  handles : List (Handle γ) := []
  registry : Table Nat := []
  /-- Every gate the pool ever set up. -/
  gates : List Gate := []
  /-- The gates of the endpoints that are being dialed. -/
  creating : Table Nat := []
  /-- Every request the pool ever got. -/
  requests : List Request := []
  reaper : Reaper := .idle
  /-- Wake signals that the reaper has not answered yet. -/
  wakes : Nat := 0

/-- The counters of a pool together with what is registered. -/
structure Statistics where
  counters : Counters
  /-- Handles registered. -/
  live : Nat
  /-- Borrows of registered handles that are out. -/
  outstanding : Nat
  deriving Repr, DecidableEq

namespace Pool

variable {γ : Type}

def defaultLinger : Duration := Duration.ofSeconds 10

/-- A new pool. It has to let handles linger for some time. -/
def ofLinger (linger : Duration) : Except PoolError (Pool γ) :=
  if linger = 0 then .error (.invalidConfig "linger must be greater than zero")
  else .ok { linger }

/-- Handles registered. -/
def size (p : Pool γ) : Nat := p.registry.length

def contains (p : Pool γ) (id : String) : Bool := p.registry.contains id

/-- Borrows of the handle that are out. -/
def refCount (p : Pool γ) (handle : Nat) : Nat := (p.handles[handle]?.map Handle.refCount).getD 0

def outstanding (p : Pool γ) : Nat :=
  p.registry.foldr (fun entry count => p.refCount entry.2 + count) 0

def statistics (p : Pool γ) : Statistics :=
  { counters := p.counters, live := p.size, outstanding := p.outstanding }

/-- Whether this very handle stands for its endpoint. -/
def isRegistered (p : Pool γ) (handle : Nat) : Bool :=
  match p.handles[handle]? with
  | some h => p.registry.get? h.endpointId == some handle
  | none => false

def setRequest (index : Nat) (state : RequestState) (p : Pool γ) : Pool γ :=
  { p with requests := p.requests.modify index fun r => { r with state } }

def modifyHandle (index : Nat) (f : Handle γ → Handle γ) (p : Pool γ) : Pool γ :=
  { p with handles := p.handles.modify index f }

def count (f : Counters → Counters) (p : Pool γ) : Pool γ := { p with counters := f p.counters }

/-- The gate is taken down, if it is still the one that stands for the endpoint, and whoever waits
there learns `outcome`. -/
def openGate (gate : Nat) (id : String) (outcome : Gate) (p : Pool γ) : Pool γ :=
  { p with
    creating := if p.creating.get? id = some gate then p.creating.erase id else p.creating
    gates := p.gates.set gate outcome }

/-- A wake signal for the reaper. One more than the reaper is about to answer is kept: asleep, it
answers the first at once. -/
def wake (p : Pool γ) : Pool γ :=
  let most := match p.reaper with
    | .asleep _ => 2
    | _ => 1
  { p with wakes := min (p.wakes + 1) (max most p.wakes) }

/-- Whether a request of the pool still waits for an answer. -/
def hasLiveRequest (p : Pool γ) : Bool := p.requests.any fun r => r.state.isLive

/-- The pool by name, up to what is not shown. -/
def text (p : Pool γ) : String :=
  "ConnectionPool \x7b linger: " ++ p.linger.text ++ ", closed: " ++
    (if p.closed then "true" else "false") ++ ", live_handles: " ++ toString p.size ++ ", .. \x7d"

end Pool

end Tether
