import Tether.Scenario.Session

/-!
The steps of a scenario, one after another. After each step everything goes on that can, and then
the report is made: first the step's own answer, then the tasks that have ended, by name.
-/

namespace Tether.Scenario.Session

/-- Go on with the number of the pool of that name. -/
def withPool (name : String) (s : Session) (f : Nat → Answer × Session) : Answer × Session :=
  match s.pools.get? name with
  | some number => f number
  | none => (.misstep .noPool, s)

/-- Go on with the handle remembered under the name. -/
def withHandle (name : String) (s : Session) (f : HandleRef → Answer × Session) :
    Answer × Session :=
  match s.handles.get? name with
  | some ref => f ref
  | none => (.misstep .noHandle, s)

def refCountOf (ref : HandleRef) (s : Session) : Nat :=
  ((s.world.handle? ref).map Handle.refCount).getD 0

/-- Wait for an errand of the step's own. -/
def finish (errand : Errand) (timeout : Option Duration) (s : Session) :
    Session × Outcome × Option HandleRef × Duration :=
  let start := s.world.env.now
  let (index, s) := s.spawn none errand timeout
  let s := s.await (hasEnded index)
  let elapsed := ((s.tasks[index]?.bind Task.fate).map fun fate => fate.2 - start).getD 0
  match s.tasks[index]? with
  | some t =>
    let (s, outcome, ref) := if t.fate.any (·.1 == .aborted) then (s, .broken, none)
      else s.outcome t
    (s, outcome, ref, elapsed)
  | none => (s, .broken, none, elapsed)

def answerOf (outcome : Outcome) (elapsed : Duration) : Answer :=
  match outcome with
  | .broken => .broken
  | outcome => .outcome outcome elapsed

/-- The answer of an operation that breaks off when the clock cannot be read. -/
def settled {α : Type} (result : Option α × World StagedDialer String)
    (answer : α → Session → Answer) (s : Session) : Answer × Session :=
  let s := s.setWorld result.2
  match result.1 with
  | some a => (answer a s, s)
  | none => (.broken, s)

def released (ref : HandleRef) (result : Except PoolError Unit) (s : Session) : Answer :=
  match result with
  | .ok _ => .refCount (s.refCountOf ref)
  | .error error => .refused error

def inspect (linger : Duration) (ref : HandleRef) (s : Session) : Answer × Session :=
  settled s.world.reading (fun now s =>
    match s.world.handle? ref with
    | some h => .inspection
        { endpointId := h.endpointId, refCount := h.refCount, mismatched := h.mismatched
          idle := h.idleFor now, lastUse := h.lastUse, evictable := h.isEvictable now linger }
    | none => .broken) s

/-- One dial without retries; time passes while it is in the air. It lands before anything else
that is due at that moment. -/
def dialOnce (id : String) (s : Session) : Answer × Session :=
  let start := s.world.env.now
  let launch := Dialer.launch id s.world.env.factory.dialer
  let s := s.setWorld { s.world with env := s.world.env.setDialer launch.dialer }
  let s := s.sleepBefore (start + launch.delay)
  let (result, dialer) := Dialer.land id launch.ticket s.world.env.factory.dialer
  (.dialed result launch.delay, s.setWorld { s.world with env := s.world.env.setDialer dialer })

/-- Change the orders of the fixed dialer and tell the tally of the endpoint. -/
def order (id : String) (f : FixedDialer String → FixedDialer String) (s : Session) :
    Answer × Session :=
  match s.world.env.factory.dialer with
  | .fixed d =>
    let d := f d
    (.tally (d.tally id), s.setWorld { s.world with env := s.world.env.setDialer (.fixed d) })
  | .scripted _ => (.misstep .scriptedDialer, s)

/-- Open a pool under a name. The pool that had the name is left to itself. -/
def openPool (name : String) (linger : Duration) (s : Session) : Answer × Session :=
  match s.world.openPool linger with
  | .error error => (.refused error, s)
  | .ok (number, world) =>
    let world := match s.pools.get? name with
      | some old => world.updatePool old fun p => { p with abandoned := true }
      | none => world
    (.opened linger, { s with world, pools := s.pools.insert name number })

def dropPool (name : String) (s : Session) : Answer × Session :=
  match s.pools.get? name with
  | some number =>
    (.dropped true, { s with
      world := s.world.updatePool number fun p => { p with abandoned := true }
      pools := s.pools.erase name })
  | none => (.dropped false, s)

/-- A scan is held up at its reading of the clock, with the registry taken. Meanwhile the reaper is
woken and another scan attempted; then the first scan goes on. -/
def busyScan (number : Nat) (s : Session) : Answer × Session :=
  let take (taken : Bool) (s : Session) : Session :=
    s.setWorld (s.world.updatePool number fun p => { p with busy := taken })
  let held := !s.world.isClosed number
  let s := take held s
  let s := (s.setWorld (s.world.updatePool number Pool.wake)).settle
  let (during, s) :=
    if held then
      let (during, world) := s.world.visit number Site.evictIdle
      (during.bind id, s.setWorld world)
    else (none, s)
  let s := take false s
  let (helper, world) := s.world.visit number Site.evictIdle
  settled (helper.bind id, world) (fun helper _ => .busyScan held during helper) s

/-- Wait for a task to end, unless it was joined before. -/
def join (index : Nat) (s : Session) : Answer × Session :=
  if s.tasks[index]?.any Task.joined then (.joined .before, s)
  else
    let s := (s.await (hasEnded index)).modifyTask index fun t => { t with joined := true }
    let fate := (s.tasks[index]?.bind Task.fate).map Prod.fst
    (.joined (if fate == some .aborted then .aborted else .done), s)

/-- Take one step. -/
def act (s : Session) : Action → Answer × Session
  | .get pool id remembered timeout => s.withPool pool fun number =>
    match s.world.visit number (Site.get id) with
    | (some index, world) =>
      let (s, outcome, ref, elapsed) := (s.setWorld world).finish (.request number index) timeout
      (answerOf outcome elapsed, s.remember remembered ref)
    | (none, world) => (.broken, s.setWorld world)
  | .spawnGet task pool id timeout => s.withPool pool fun number =>
    match s.world.visit number (Site.get id) with
    | (some index, world) =>
      (.done, ((s.setWorld world).spawn (some task) (.request number index) timeout).2)
    | (none, world) => (.broken, s.setWorld world)
  | .create id token timeout =>
    let (index, world) := s.world.create id token
    let (s, outcome, _, elapsed) := (s.setWorld world).finish (.creation index) timeout
    (answerOf outcome elapsed, s)
  | .spawnCreate task id token timeout =>
    let (index, world) := s.world.create id token
    (.done, ((s.setWorld world).spawn (some task) (.creation index) timeout).2)
  | .cancel token =>
    (.done, s.setWorld { s.world with cancelled := token :: s.world.cancelled })
  | .join task =>
    match s.findTask task with
    | some index => s.join index
    | none => (.misstep .noTask, s)
  | .abort task =>
    match s.findTask task with
    | some index => (.done, s.endTask .aborted index)
    | none => (.misstep .noTask, s)
  | .release pool handle => s.withPool pool fun number => s.withHandle handle fun ref =>
    settled (s.world.release number ref) (released ref) s
  | .report pool handle cause => s.withPool pool fun number => s.withHandle handle fun ref =>
    let (result, world) := s.world.report number ref cause
    let s := s.setWorld world
    match result with
    | .ok registered => (.reported registered (s.refCountOf ref), s)
    | .error error => (.refused error, s)
  | .evictIdle pool => s.withPool pool fun number =>
    let (result, world) := s.world.visit number Site.evictIdle
    settled (result.bind id, world) (fun result _ =>
      match result with
      | .ok count => .evicted count
      | .error error => .refused error) s
  | .reapNow pool times => s.withPool pool fun number =>
    (.done, s.setWorld (Nat.repeat (World.updatePool number Pool.wake) times s.world))
  | .close pool => s.withPool pool fun number =>
    (.elapsed 0, s.setWorld (s.world.visit' number Site.close))
  | .statistics pool => s.withPool pool fun number =>
    match s.world.pools[number]? with
    | some p => (.statistics p.statistics p.text, s)
    | none => (.misstep .noPool, s)
  | .contains pool id => s.withPool pool fun number =>
    (.value ((s.world.pools[number]?.map fun p => p.contains id).getD false), s)
  | .openPool pool linger => s.openPool pool linger
  | .dropPool pool => s.dropPool pool
  | .borrow handle => s.withHandle handle fun ref =>
    settled (s.world.borrow ref) (fun _ s => .refCount (s.refCountOf ref)) s
  | .giveBack handle => s.withHandle handle fun ref =>
    settled (s.world.giveBack ref) (released ref) s
  | .connection handle => s.withHandle handle fun ref =>
    settled (s.world.connection ref) (fun connection _ => Answer.connection connection) s
  | .inspect pool handle => s.withHandle handle fun ref =>
    let linger := ((s.pools.get? pool).bind fun number =>
      s.world.pools[number]?.map Pool.linger).getD 0
    s.inspect linger ref
  | .firstContact id =>
    let (first, env) := s.world.env.firstContact id
    (.value first, s.setWorld { s.world with env })
  | .hasSeen id => (.value (s.world.env.factory.hasSeen id), s)
  | .shutFactory =>
    let env := s.world.env
    (.done, s.setWorld { s.world with
      env := { env with factory := { env.factory with shutdown := true } } })
  | .showFactory =>
    (.factory s.world.env.factory.policy s.world.env.factory.text, s)
  | .dial id => s.dialOnce id
  | .failNext id count => s.order id (FixedDialer.failNext id count)
  | .failAlways id => s.order id (FixedDialer.failAlways id)
  | .recover id => s.order id (FixedDialer.recover id)
  | .tally id => s.order id fun d => d
  | .sleep span => (.done, s.sleepUntil (s.world.env.now + span.slept))
  | .advance span =>
    match (Clock.manual s.wound).advance span with
    | some (.manual total) =>
      let clock := match s.world.env.clock with
        | .manual _ => Clock.manual total
        | .system => .system
      let world := { s.world with env := { s.world.env with clock } }
      (.wound total, { s with wound := total, world })
    | _ => (.broken, s)
  | .busyScan pool => s.withPool pool fun number => s.busyScan number
  | .unknown => (.misstep .unknownAction, s)

/-- The tasks that have ended and were not reported, by name. -/
def unreported (s : Session) : List (String × Nat) :=
  let ended := (List.range s.tasks.length).filterMap fun index => do
    let t ← s.tasks[index]?
    let name ← t.name
    if t.fate.isSome && !t.reported then some (name, index) else none
  ended.mergeSort fun a b => !(b.1 < a.1)

/-- Report a task that has ended, and remember its handle under its name. -/
def reportTask (entry : String × Nat) (s : Session) : Option Ending × Session :=
  match s.tasks[entry.2]? with
  | some t =>
    let (s, outcome, ref) := s.outcome t
    let moment := (t.fate.map Prod.snd).getD 0
    (some { task := entry.1, outcome, moment },
      (s.remember entry.1 ref).modifyTask entry.2 fun t => { t with reported := true })
  | none => (none, s)

def reportTasks (s : Session) : List Ending × Session :=
  s.unreported.foldl (fun (endings, s) entry =>
    let (ending, s) := s.reportTask entry
    (endings ++ ending.toList, s)) ([], s)

def view (s : Session) (entry : String × Nat) : Option PoolView :=
  s.world.pools[entry.2]?.map fun p =>
    { name := entry.1, statistics := p.statistics, closed := p.closed
      reaperRunning := p.reaper.isRunning
      registered := (s.endpoints.filter p.contains).mergeSort fun a b => !(b < a) }

/-- Take a step, let everything go on that can, and report. -/
def play (step : Step) (s : Session) : Report × Session :=
  let endpoints := match step.endpoint with
    | some id => if s.endpoints.contains id then s.endpoints else s.endpoints ++ [id]
    | none => s.endpoints
  let s := { s with endpoints }
  let probed := if step.probing && s.world.env.clock != .system
    then s.pools.get? step.pool else none
  let (answer, s) := (s.setWorld { s.world with probed }).act step.action
  let s := s.settle
  let (endings, s) := s.reportTasks
  let env := s.world.env
  ({ answer
     probes := if step.probing then some env.probes.reverse else none
     now := env.now
     pools := s.pools.filterMap s.view
     endings
     events := env.events.reverse },
    s.setWorld { s.world with env := { env with events := [], probes := [] }, probed := none })

end Tether.Scenario.Session
