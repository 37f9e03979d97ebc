import Tether.Pool.Basic

/-!
A pool at its place: the pool together with what it finds around it. Here stand the readings of the
clock and the eviction scan. An operation that cannot read the clock breaks off at the reading, and
what it did before stays; that is the missing answer in `Option`.
-/

namespace Tether

structure Site (δ γ : Type) where
  env : Surroundings δ
  pool : Pool γ

namespace Site

variable {δ γ : Type}

def note (event : Event) (s : Site δ γ) : Site δ γ := { s with env := s.env.note event }

def update (f : Pool γ → Pool γ) (s : Site δ γ) : Site δ γ := { s with pool := f s.pool }

/-- Whether a handle is to be dropped at this moment. -/
def isStale (now : Instant) (p : Pool γ) (handle : Nat) : Bool :=
  match p.handles[handle]? with
  | some h => h.isEvictable now p.linger
  | none => false

/-- How long the handle has been unused. -/
def idle (now : Instant) (p : Pool γ) (handle : Nat) : Duration :=
  match p.handles[handle]? with
  | some h => h.idleFor now
  | none => 0

/-- Take every handle out of the registry that nobody holds and that has been idle for longer than
the linger, and say how many these were. -/
def sweep (now : Instant) (s : Site δ γ) : Nat × Site δ γ :=
  let (stale, kept) := s.pool.registry.partition fun entry => isStale now s.pool entry.2
  let env := stale.foldl (fun env entry =>
    env.note (.evicted entry.1 (idle now s.pool entry.2))) s.env
  if stale.isEmpty then (0, s)
  else
    (stale.length,
      { env := env.note (.cleanedUp stale.length kept.length)
        pool := { s.pool with registry := kept }.count fun c =>
          { c with evicted := c.evicted + stale.length } })

/-- The scan that a probe attempts. Its own reading of the clock is not probed; if there is none,
nothing is noted. -/
def probe (locked : Bool) (s : Site δ γ) : Site δ γ :=
  let put (result : Except PoolError Nat) (s : Site δ γ) : Site δ γ :=
    { s with env := { s.env with probes := result :: s.env.probes } }
  if s.pool.closed then put (.error .closed) s
  else if locked || s.pool.busy then put (.error .busy) s
  else match s.env.shown with
    | none => s
    | some now =>
      let (evicted, s) := s.sweep now
      put (.ok evicted) s

/-- Read the clock, with the registry `locked` or not. -/
def reading (locked : Bool) (s : Site δ γ) : Option Instant × Site δ γ :=
  let s := if s.env.probing then s.probe locked else s
  let env := { s.env with readings := s.env.readings + 1 }
  (env.shown, { s with env })

/-- An eviction scan. It does not wait for the registry. -/
def scan (s : Site δ γ) : Option (Except PoolError Nat) × Site δ γ :=
  if s.pool.busy then (some (.error .busy), s)
  else match s.reading true with
    | (none, s) => (none, s)
    | (some now, s) =>
      let (evicted, s) := s.sweep now
      (some (.ok evicted), s)

/-- An eviction scan that a caller asks for. -/
def evictIdle (s : Site δ γ) : Option (Except PoolError Nat) × Site δ γ :=
  if s.pool.closed then (some (.error .closed), s) else s.scan

end Site

end Tether
