import Tether.Pool.Lifecycle
import Tether.Pool.Request

/-!
Pools over one factory, and sequences of dials that callers run on the factory itself. Pools are
numbered as they are opened and keep their number; a handle is found by the number of the pool that
made it and its number there. An operation on one pool sees the others only through the factory.
-/

namespace Tether

/-- A sequence of dials that a caller runs on the factory, without a pool. -/
inductive CreationState (γ : Type) where
  | running (sequence : DialSequence)
  | connected (connection : γ)
  | failed (error : ConnectError)
  | dropped

def CreationState.isLive {γ : Type} : CreationState γ → Bool
  | running _ => true
  | _ => false

structure Creation (γ : Type) where
  /-- The name of the token that can tell the sequence to stop. -/
  token : Option String
  state : CreationState γ

/-- Where to find a handle. -/
structure HandleRef where
  /-- The pool that made it. -/
  home : Nat
  index : Nat
  deriving Repr, DecidableEq

structure World (δ γ : Type) where
  env : Surroundings δ
  pools : List (Pool γ) := []
  creations : List (Creation γ) := []
  /-- Tokens that have been cancelled. -/
  cancelled : List String := []
  /-- The pool on which a scan is attempted before every reading of the clock. -/
  probed : Option Nat := none

namespace World

variable {δ γ : Type}

def handle? (w : World δ γ) (ref : HandleRef) : Option (Handle γ) :=
  w.pools[ref.home]?.bind fun p => p.handles[ref.index]?

def updatePool (number : Nat) (f : Pool γ → Pool γ) (w : World δ γ) : World δ γ :=
  { w with pools := w.pools.modify number f }

/-- Open a pool; the answer is its number. -/
def openPool (linger : Duration) (w : World δ γ) : Except PoolError (Nat × World δ γ) :=
  (Pool.ofLinger linger).map fun p => (w.pools.length, { w with pools := w.pools ++ [p] })

/-- The scans that the probed pool attempts at readings made for somebody else. -/
def probeElsewhere (count : Nat) (w : World δ γ) : World δ γ :=
  match count, w.probed with
  | count + 1, some number =>
    match w.pools[number]? with
    | some pool =>
      let s := Site.probe false { env := w.env, pool }
      probeElsewhere count { w with env := s.env, pools := w.pools.set number s.pool }
    | none => w
  | _, _ => w

/-- Run an operation on one pool. If another pool is the probed one, its scans come at the same
readings; they share no handles with the operation. -/
def visit {α : Type} (number : Nat) (f : Site δ γ → α × Site δ γ) (w : World δ γ) :
    Option α × World δ γ :=
  match w.pools[number]? with
  | none => (none, w)
  | some pool =>
    let probing := w.probed == some number
    let (answer, s) := f { env := { w.env with probing, readings := 0 }, pool }
    let w := { w with env := s.env, pools := w.pools.set number s.pool }
    (some answer, if probing then w else w.probeElsewhere s.env.readings)

/-- Run an operation on one pool that has no answer. -/
def visit' (number : Nat) (f : Site δ γ → Site δ γ) (w : World δ γ) : World δ γ :=
  (w.visit number fun s => ((), f s)).2

/-- Read the clock on behalf of no pool. -/
def reading (w : World δ γ) : Option Instant × World δ γ :=
  let w := w.probeElsewhere 1
  (w.env.shown, w)

/-- Use a handle at the moment the clock shows. -/
def use {α : Type} (ref : HandleRef) (f : Instant → Handle γ → α × Handle γ) (w : World δ γ) :
    Option α × World δ γ :=
  match w.reading with
  | (none, w) => (none, w)
  | (some now, w) =>
    match w.handle? ref with
    | none => (none, w)
    | some h =>
      let (answer, h) := f now h
      (some answer, w.updatePool ref.home (Pool.modifyHandle ref.index fun _ => h))

/-- Borrow a handle directly. -/
def borrow (ref : HandleRef) (w : World δ γ) : Option Unit × World δ γ :=
  w.use ref fun now h => ((), h.borrow now)

/-- Look at the connection of a handle. -/
def connection (ref : HandleRef) (w : World δ γ) : Option γ × World δ γ :=
  w.use ref fun now h => (h.connection, h.touch now)

/-- Give a borrow back directly. -/
def giveBack (ref : HandleRef) (w : World δ γ) : Option (Except PoolError Unit) × World δ γ :=
  match w.use ref Handle.release with
  | (some (.error error), w) =>
    let event := (w.handle? ref).map fun h => Event.mismatchedRelease h.endpointId h.mismatched
    (some (.error error), { w with env := event.elim w.env w.env.note })
  | other => other

def isClosed (number : Nat) (w : World δ γ) : Bool := (w.pools[number]?.map Pool.closed).getD true

/-- Give a borrow back through a pool. A closed pool refuses it. -/
def release (number : Nat) (ref : HandleRef) (w : World δ γ) :
    Option (Except PoolError Unit) × World δ γ :=
  if w.isClosed number then (some (.error .closed), w) else w.giveBack ref

/-- Report a handle as broken. If this very handle is registered in the pool it is taken out,
whoever holds it; a handle that was replaced or that another pool made changes nothing. The answer
says whether it was registered. -/
def report (number : Nat) (ref : HandleRef) (cause : String) (w : World δ γ) :
    Except PoolError Bool × World δ γ :=
  match w.pools[number]?, w.handle? ref with
  | some pool, some h =>
    if pool.closed then (.error .closed, w)
    else if ref.home = number ∧ pool.isRegistered ref.index then
      let w := w.updatePool number fun p =>
        { p with registry := p.registry.erase h.endpointId }.count fun c =>
          { c with invalidated := c.invalidated + 1 }
      (.ok true, { w with env := w.env.note (.broken h.endpointId h.refCount cause) })
    else (.ok false, { w with env := w.env.note (.unregistered h.endpointId cause) })
  | _, _ => (.error .closed, w)

/-- Whether sequences of dials with this token are told to stop. -/
def isCancelled (token : Option String) (w : World δ γ) : Bool :=
  token.any w.cancelled.contains

section Dialing

variable [Dialer δ γ]

def requestState (number index : Nat) (w : World δ γ) : Option RequestState :=
  w.pools[number]?.bind fun p => p.requests[index]?.map Request.state

def creationState (index : Nat) (w : World δ γ) : Option (CreationState γ) :=
  w.creations[index]?.map Creation.state

def ofProgress : DialProgress γ → CreationState γ
  | .waiting sequence => .running sequence
  | .connected connection => .connected connection
  | .failed error => .failed error

/-- Start a sequence of dials on the factory; the answer is its number. -/
def create (id : String) (token : Option String) (w : World δ γ) : Nat × World δ γ :=
  let (progress, env) := DialSequence.start id (w.isCancelled token) w.env
  (w.creations.length,
    { w with env, creations := w.creations ++ [{ token, state := ofProgress progress }] })

/-- Let a sequence of dials on the factory go on as far as it can. -/
def resumeCreation (index : Nat) (w : World δ γ) : World δ γ :=
  match w.creations[index]? with
  | some { token, state := .running sequence } =>
    let (progress, env) := sequence.resume (w.isCancelled token) w.env
    { w with env, creations := w.creations.set index { token, state := ofProgress progress } }
  | _ => w

/-- The caller of a sequence of dials goes away. -/
def dropCreation (index : Nat) (w : World δ γ) : World δ γ :=
  { w with creations := w.creations.modify index fun c =>
      if c.state.isLive then { c with state := .dropped } else c }

end Dialing

end World

end Tether
