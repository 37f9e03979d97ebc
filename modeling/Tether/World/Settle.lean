import Tether.World

/-!
What goes on by itself. A task is ready when it can go on without time passing; a round gives each
request, each sequence of dials on the factory and each reaper one turn. The world has settled when
nothing is ready. Then only time can bring a change, and the next moment to do so is known.
-/

namespace Tether.World

variable {δ γ : Type}

/-- Whether a request of the pool can go on now. -/
def requestReady (env : Surroundings δ) (p : Pool γ) (r : Request) : Bool :=
  match r.state with
  | .waiting gate => !(p.gates[gate]?.any Gate.isPending)
  | .dialing _ sequence => sequence.isReady p.shutdown env
  | _ => false

/-- Whether the reaper of the pool has something to do now. -/
def reaperReady (now : Instant) (p : Pool γ) : Bool :=
  match p.reaper with
  | .starting => true
  | .asleep ends => p.shutdown || 0 < p.wakes || ends ≤ now
  | _ => false

/-- Whether the pool is gone: no name leads to it and nobody waits for an answer of it. -/
def isGone (p : Pool γ) : Bool := p.abandoned && !p.shutdown && !p.hasLiveRequest

def creationReady (w : World δ γ) (c : Creation γ) : Bool :=
  match c.state with
  | .running sequence => sequence.isReady (w.isCancelled c.token) w.env
  | _ => false

def poolReady (env : Surroundings δ) (p : Pool γ) : Bool :=
  p.requests.any (requestReady env p) || reaperReady env.now p || isGone p

def isSettled (w : World δ γ) : Bool :=
  !(w.pools.any (poolReady w.env) || w.creations.any w.creationReady)

section Turns

variable [Dialer δ γ]

/-- Every request of a pool gets a turn. -/
def turnRequests (number : Nat) (w : World δ γ) : World δ γ :=
  let count := (w.pools[number]?.map fun p => p.requests.length).getD 0
  (List.range count).foldl (fun w index => w.visit' number (Site.resume index)) w

/-- The reaper of a pool gets a turn. A pool that is gone stops it. -/
def turnReaper (number : Nat) (w : World δ γ) : World δ γ :=
  let w := w.updatePool number fun p => if isGone p then { p with shutdown := true } else p
  w.visit' number Site.reaperTurn

def round (w : World δ γ) : World δ γ :=
  let numbers := List.range w.pools.length
  let w := numbers.foldl (fun w number => w.turnRequests number) w
  let w := (List.range w.creations.length).foldl (fun w index => w.resumeCreation index) w
  numbers.foldl (fun w number => w.turnReaper number) w

/-- At most that many rounds, and none once the world has settled. -/
def rounds : Nat → World δ γ → World δ γ
  | 0, w => w
  | count + 1, w => if w.isSettled then w else rounds count w.round

/-- Let everything go on that can. A request that still waits after a round waits for one that was
not done yet, so that there are at most about as many rounds as tasks. -/
def settle (w : World δ γ) : World δ γ :=
  let requests := w.pools.foldr (fun p count => p.requests.length + count) 0
  w.rounds (2 * (requests + w.creations.length + w.pools.length) + 8)

end Turns

def earlier (a b : Option Instant) : Option Instant :=
  match a, b with
  | some a, some b => some (min a b)
  | some a, none => some a
  | none, b => b

def poolDue (p : Pool γ) : Option Instant :=
  let ofRequest (r : Request) : Option Instant :=
    match r.state with
    | .dialing _ sequence => some sequence.due
    | _ => none
  let ofReaper := match p.reaper with
    | .asleep ends => some ends
    | _ => none
  (p.requests.map ofRequest).foldl earlier ofReaper

def creationDue (c : Creation γ) : Option Instant :=
  match c.state with
  | .running sequence => some sequence.due
  | _ => none

/-- The next moment at which a settled world changes by itself. -/
def nextDue (w : World δ γ) : Option Instant :=
  ((w.pools.map poolDue) ++ (w.creations.map creationDue)).foldl earlier none

/-- Let time pass, but not back. -/
def passTo (moment : Instant) (w : World δ γ) : World δ γ :=
  { w with env := { w.env with now := max w.env.now moment } }

end Tether.World
