import Tether.Pool.Site

/-!
Requests for a connection. A request looks into the registry and either borrows the handle it finds
there, waits at the gate it finds there, or sets up a gate and dials. Looking and borrowing are one
step, and so are registering a new handle and borrowing it: no scan comes in between.
-/

namespace Tether.Site

variable {δ γ : Type} [Dialer δ γ]

/-- The first request starts the reaper. -/
def startReaper (s : Site δ γ) : Site δ γ :=
  match s.pool.reaper with
  | .idle =>
    (s.update fun p => { p with reaper := .starting }).note (.reaperStarted s.pool.linger)
  | _ => s

/-- A handle from the registry is handed out. -/
def reuse (handle : Nat) (id : String) (s : Site δ γ) : RequestState × Site δ γ :=
  match s.reading true with
  | (none, s) => (.broken, s)
  | (some now, s) =>
    let s := s.update fun p =>
      (p.modifyHandle handle (Handle.borrow now)).count fun c => { c with reused := c.reused + 1 }
    (.granted handle, s.note (.reused id (s.pool.refCount handle)))

/-- A dialed connection arrives: it gets a handle, and the handle is borrowed and registered unless
the pool has been closed meanwhile. -/
def receive (gate : Nat) (id : String) (connection : γ) (s : Site δ γ) : RequestState × Site δ γ :=
  match s.reading false with
  | (none, s) => (.broken, s.update (Pool.openGate gate id .givenUp))
  | (some made, s) =>
    if s.pool.closed then
      (.refused .closed, (s.note (.discarded id)).update (Pool.openGate gate id .closed))
    -- The clock stands still within a turn, so that this reading comes off as the first one did. The
    -- branch says where the request would break off if it did not.
    else match s.reading true with
      | (none, s) => (.broken, s.update (Pool.openGate gate id .givenUp))
      | (some now, s) =>
        let handle := s.pool.handles.length
        let fresh := (Handle.fresh made id connection).borrow now
        let s := s.update fun p =>
          { p with
            handles := p.handles ++ [fresh]
            registry := p.registry.insert id handle }.count fun c =>
              { c with created := c.created + 1 }
        let s := s.note (.created id s.pool.counters.created)
        (.granted handle, s.update (Pool.openGate gate id .created))

/-- What a request does with the progress of its sequence of dials. -/
def follow (gate : Nat) (id : String) (progress : DialProgress γ) (s : Site δ γ) :
    RequestState × Site δ γ :=
  match progress with
  | .waiting sequence => (.dialing gate sequence, s)
  | .connected connection => s.receive gate id connection
  | .failed error =>
    (.refused (.connect error), s.update fun p =>
      (p.count fun c => { c with failed := c.failed + 1 }).openGate gate id (.failed error))

/-- Nobody has or dials the connection: set up a gate and dial. -/
def dial (id : String) (s : Site δ γ) : RequestState × Site δ γ :=
  let gate := s.pool.gates.length
  let s := s.update fun p =>
    { p with gates := p.gates ++ [.pending], creating := p.creating.insert id gate }
  let (progress, env) := DialSequence.start id s.pool.shutdown s.env
  { s with env }.follow gate id progress

/-- Look into the registry. -/
def look (id : String) (s : Site δ γ) : RequestState × Site δ γ :=
  if s.pool.closed then (.refused .closed, s)
  else match s.pool.registry.get? id with
    | some handle => s.reuse handle id
    | none =>
      match s.pool.creating.get? id with
      | some gate => (.waiting gate, s)
      | none => s.dial id

/-- What a request comes to before it first has to wait. An open pool starts its reaper even for a
request that it then refuses. -/
def enter (id : String) (s : Site δ γ) : RequestState × Site δ γ :=
  if s.pool.closed then (.refused .closed, s)
  else
    let s := s.startReaper
    if id.isEmpty then (.refused .invalidEndpointId, s) else s.look id

/-- Ask for the connection to an endpoint. The answer is the request's number. -/
def get (id : String) (s : Site δ γ) : Nat × Site δ γ :=
  let (state, s) := s.enter id
  (s.pool.requests.length,
    s.update fun p => { p with requests := p.requests ++ [{ endpointId := id, state }] })

/-- A gate has been opened: the request takes over how the dialing ended, or looks again. -/
def pass (gate : Nat) (id : String) (s : Site δ γ) : RequestState × Site δ γ :=
  match s.pool.gates[gate]? with
  | some (.failed error) => (.refused (.connect error), s)
  | some .closed => (.refused .closed, s)
  | some .created | some .givenUp => (s.note (.rechecking id)).look id
  | some .pending | none => (.waiting gate, s)

/-- Let a request go on as far as it can. -/
def resume (index : Nat) (s : Site δ γ) : Site δ γ :=
  match s.pool.requests[index]? with
  | some { endpointId := id, state := .waiting gate } =>
    let (state, s) := s.pass gate id
    s.update (Pool.setRequest index state)
  | some { endpointId := id, state := .dialing gate sequence } =>
    let (progress, env) := sequence.resume s.pool.shutdown s.env
    let (state, s) := { s with env }.follow gate id progress
    s.update (Pool.setRequest index state)
  | _ => s

/-- The caller goes away. If its request was dialing, the gate is given up. -/
def drop (index : Nat) (s : Site δ γ) : Site δ γ :=
  match s.pool.requests[index]? with
  | some { endpointId := _, state := .waiting _ } => s.update (Pool.setRequest index .dropped)
  | some { endpointId := id, state := .dialing gate _ } =>
    s.update fun p => (p.openGate gate id .givenUp).setRequest index .dropped
  | _ => s

end Tether.Site
