import Tether.Clock
import Tether.Event
import Tether.Handle

/-!
One handle on its own, under a clock moved by hand: everything that can be done with it and asked
of it.
-/

namespace Tether

structure Trial where
  handle : Handle String
  /-- How far the clock has gone. -/
  elapsed : Duration := 0
  /-- What happened, the latest first. -/
  events : List Event := []

namespace Trial

inductive Action where
  | borrow
  | release
  | connection
  | endpointId
  | advance (span : Duration)
  | now
  | idleAt (moment : Instant)
  | evictable (moment : Instant) (linger : Duration)
  | summary
  | unknown

inductive Answer where
  | done
  | count (count : Nat)
  | refused (error : PoolError)
  | text (text : String)
  | span (span : Duration)
  | value (value : Bool)
  /-- The text of the handle up to its last use, and whether something goes unshown at its end. -/
  | summary (text : String) (abridged : Bool)
  | misstep
  /-- The clock could not be read, or would have gone too far. -/
  | broken

def start (id connection : String) : Trial := { handle := .fresh 0 id connection }

/-- Do something at the moment the clock shows. -/
def timed (t : Trial) (f : Instant → Answer × Trial) : Answer × Trial :=
  match (Clock.manual t.elapsed).read 0 with
  | some now => f now
  | none => (.broken, t)

/-- Ask something about a moment, if there is such a moment. -/
def asked (t : Trial) (moment : Instant) (answer : Answer) : Answer × Trial :=
  (if moment < Instant.limit then answer else .broken, t)

def release (now : Instant) (t : Trial) : Answer × Trial :=
  match t.handle.release now with
  | (.ok _, handle) => (.done, { t with handle })
  | (.error error, handle) =>
    (.refused error, { t with
      handle
      events := .mismatchedRelease handle.endpointId handle.mismatched :: t.events })

def act (t : Trial) : Action → Answer × Trial
  | .borrow => t.timed fun now =>
    let handle := t.handle.borrow now
    (.count handle.refCount, { t with handle })
  | .release => t.timed fun now => t.release now
  | .connection => t.timed fun now =>
    (.text t.handle.connection, { t with handle := t.handle.touch now })
  | .endpointId => (.text t.handle.endpointId, t)
  | .advance span =>
    match (Clock.manual t.elapsed).advance span with
    | some (.manual elapsed) => (.span elapsed, { t with elapsed })
    | _ => (.broken, t)
  | .now => t.timed fun now => (.span now, t)
  | .idleAt moment => t.asked moment (.span (t.handle.idleFor moment))
  | .evictable moment linger => t.asked moment (.value (t.handle.isEvictable moment linger))
  | .summary => (.summary t.handle.summary true, t)
  | .unknown => (.misstep, t)

end Trial

end Tether
