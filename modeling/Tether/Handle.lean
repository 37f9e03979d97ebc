import Tether.Error
import Tether.Text.Quoted

/-!
A connection that callers share. The handle counts the borrows that are out and remembers when it
was last used, so that nobody's connection is taken away and an unused one can be.
-/

namespace Tether

structure Handle (γ : Type) where
  endpointId : String
  connection : γ
  refCount : Nat
  lastUse : Instant
  /-- Releases that came when no borrow was out. -/
  mismatched : Nat

namespace Handle

variable {γ : Type}

/-- A handle around a fresh connection. Nobody holds it yet. -/
def fresh (now : Instant) (endpointId : String) (connection : γ) : Handle γ :=
  { endpointId, connection, refCount := 0, lastUse := now, mismatched := 0 }

/-- One more borrow is out. -/
def borrow (now : Instant) (h : Handle γ) : Handle γ :=
  { h with refCount := h.refCount + 1, lastUse := now }

/-- One borrow comes back. Without one out, the count stays at zero and the release is counted as
mismatched; the handle has been used all the same. -/
def release (now : Instant) (h : Handle γ) : Except PoolError Unit × Handle γ :=
  if h.refCount = 0 then
    (.error (.mismatchedRelease h.endpointId),
      { h with lastUse := now, mismatched := h.mismatched + 1 })
  else (.ok (), { h with refCount := h.refCount - 1, lastUse := now })

/-- The connection is looked at. That is a use, but no borrow. -/
def touch (now : Instant) (h : Handle γ) : Handle γ := { h with lastUse := now }

/-- Time since the last use. A moment before it counts as no time. -/
def idleFor (now : Instant) (h : Handle γ) : Duration := now - h.lastUse

/-- Nobody holds the handle and it has been idle for longer than `linger`. Idle for exactly that
long is not enough. -/
def isEvictable (now : Instant) (linger : Duration) (h : Handle γ) : Bool :=
  h.refCount == 0 && linger < h.idleFor now

/-- The handle's id and count by name, up to where its last use would follow. -/
def summary (h : Handle γ) : String :=
  "ConnectionHandle \x7b endpoint_id: " ++ Text.quoted h.endpointId ++
    ", ref_count: " ++ toString h.refCount ++ ", "

end Handle

end Tether
