import Tether.Scenario.Step
import Tether.World.Settle

/-!
A scenario while it runs: the world, the names given so far, and the tasks. Time passes only while
a step waits, and then jumps to the next moment at which something is due. At each moment all that
can go on does so before a deadline that has come takes effect.
-/

namespace Tether.Scenario

/-- What a task runs. -/
inductive Errand where
  | request (pool index : Nat)
  | creation (index : Nat)

/-- How a task ended. -/
inductive Fate where
  | done
  | timedOut
  | aborted
  deriving DecidableEq

structure Task where
  /-- A step that waits for its own answer runs a task without a name. -/
  name : Option String
  errand : Errand
  deadline : Option Instant
  fate : Option (Fate × Instant) := none
  joined : Bool := false
  reported : Bool := false

structure Session where
  world : World StagedDialer String
  pools : Table Nat := []
  handles : Table HandleRef := []
  tasks : List Task := []
  /-- Handles in the order in which they were first reported. -/
  numbered : List HandleRef := []
  /-- Endpoints that steps have named. -/
  endpoints : List String := []
  /-- How far the hand-moved clock has gone, whether the pools follow it or not. -/
  wound : Duration := 0

namespace Session

def setWorld (world : World StagedDialer String) (s : Session) : Session := { s with world }

/-- Whether the errand is still under way. -/
def isLive (s : Session) : Errand → Bool
  | .request pool index => (s.world.requestState pool index).any RequestState.isLive
  | .creation index => (s.world.creationState index).any CreationState.isLive

/-- Whether the errand ended because the clock could not be read. -/
def isBroken (s : Session) : Errand → Bool
  | .request pool index => s.world.requestState pool index == some .broken
  | .creation _ => false

/-- The one who runs the errand goes away. -/
def dropErrand (s : Session) : Errand → Session
  | .request pool index => s.setWorld (s.world.visit' pool (Site.drop index))
  | .creation index => s.setWorld (s.world.dropCreation index)

def modifyTask (index : Nat) (f : Task → Task) (s : Session) : Session :=
  { s with tasks := s.tasks.modify index f }

/-- Note which tasks have ended by themselves. -/
def collect (s : Session) : Session :=
  { s with tasks := s.tasks.map fun t =>
      if t.fate.isSome || s.isLive t.errand then t
      else
        let fate : Fate := if s.isBroken t.errand then .aborted else .done
        { t with fate := some (fate, s.world.env.now) } }

/-- End a task that has not ended yet. -/
def endTask (fate : Fate) (index : Nat) (s : Session) : Session :=
  match s.tasks[index]? with
  | some { errand, fate := none, .. } =>
    (s.dropErrand errand).modifyTask index fun t =>
      { t with fate := some (fate, s.world.env.now) }
  | _ => s

/-- Deadlines that have come end their tasks. -/
def expire (s : Session) : Session :=
  (List.range s.tasks.length).foldl (fun s index =>
    if (s.tasks[index]?.bind Task.deadline).any (· ≤ s.world.env.now) then
      s.endTask .timedOut index
    else s) s

/-- An errand gets a turn. -/
def turn (s : Session) : Errand → Session
  | .request pool index => s.setWorld (s.world.visit' pool (Site.resume index))
  | .creation index => s.setWorld (s.world.resumeCreation index)

/-- Let everything go on that can at this moment. What the step itself waits for has the first
turn, and then the tasks have theirs, in the order in which they were started. -/
def settle (s : Session) : Session :=
  let live := s.tasks.filter fun t => t.fate.isNone
  let (own, others) := live.partition fun t => t.name.isNone
  let s := (own ++ others).foldl (fun s t => s.turn t.errand) s
  let s := (s.setWorld s.world.settle).collect.expire
  (s.setWorld s.world.settle).collect

/-- The next moment at which something is due. -/
def nextDue (s : Session) : Option Instant :=
  (s.tasks.map fun t => if t.fate.isSome then none else t.deadline).foldl World.earlier
    s.world.nextDue

/-- Let time pass until `done` holds of a settled session, but not beyond `limit`, and through at
most that many moments. -/
def passUntil (limit : Option Instant) (done : Session → Bool) : Nat → Session → Session
  | 0, s => s
  | count + 1, s =>
    let s := s.settle
    if done s then s
    else match World.earlier limit s.nextDue with
      | none => s
      | some moment => passUntil limit done count (s.setWorld (s.world.passTo moment))

/-- No wait of a scenario passes through more moments than this. -/
def patience : Nat := Nat.pow 2 62

def await (done : Session → Bool) (s : Session) : Session := s.passUntil none done patience

/-- Let time pass up to a moment. -/
def sleepUntil (moment : Instant) (s : Session) : Session :=
  s.passUntil (some moment) (fun s => moment ≤ s.world.env.now) patience

/-- Let time pass up to a moment at which nothing has gone on yet. -/
def sleepBefore (moment : Instant) (s : Session) : Session :=
  let s := s.passUntil none (fun s => !s.nextDue.any (· < moment)) patience
  s.setWorld (s.world.passTo moment)

/-- Start a task; the answer is its index. -/
def spawn (name : Option String) (errand : Errand) (timeout : Option Duration) (s : Session) :
    Nat × Session :=
  (s.tasks.length,
    { s with tasks := s.tasks ++
        [{ name, errand, deadline := timeout.map fun span => s.world.env.now + span }] })

def hasEnded (index : Nat) (s : Session) : Bool := (s.tasks[index]?.bind Task.fate).isSome

/-- The latest task of that name. -/
def findTask (name : String) (s : Session) : Option Nat :=
  (List.range s.tasks.length).reverse.find? fun index =>
    (s.tasks[index]?.bind Task.name) == some name

/-- The number under which a handle is reported; a handle not reported before gets the next. -/
def number (ref : HandleRef) (s : Session) : Nat × Session :=
  match s.numbered.findIdx? (· == ref) with
  | some index => (index, s)
  | none => (s.numbered.length, { s with numbered := s.numbered ++ [ref] })

/-- What an errand that has ended by itself came to, and the handle it was granted. -/
def result (s : Session) : Errand → Session × Outcome × Option HandleRef
  | .request pool index =>
    match s.world.requestState pool index with
    | some (.granted handle) =>
      let ref : HandleRef := { home := pool, index := handle }
      let (number, s) := s.number ref
      match s.world.handle? ref with
      | some h => (s, .handle number h.endpointId h.refCount, some ref)
      | none => (s, .broken, none)
    | some (.refused error) => (s, .refused error, none)
    | _ => (s, .broken, none)
  | .creation index =>
    match s.world.creationState index with
    | some (.connected connection) => (s, .connection connection, none)
    | some (.failed error) => (s, .failed error, none)
    | _ => (s, .broken, none)

/-- What a task came to. -/
def outcome (t : Task) (s : Session) : Session × Outcome × Option HandleRef :=
  match t.fate with
  | some (.timedOut, _) => (s, .timedOut, none)
  | some (.aborted, _) => (s, .aborted, none)
  | _ => s.result t.errand

def remember (name : String) (ref : Option HandleRef) (s : Session) : Session :=
  match ref with
  | some ref => { s with handles := s.handles.insert name ref }
  | none => s

end Session

end Tether.Scenario
