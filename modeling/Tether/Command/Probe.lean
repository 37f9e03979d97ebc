import Tether.Clock
import Tether.Command.Report
import Tether.Text.Blank
import Tether.World.Await

/-!
Probing endpoints: every one is asked for at once, through one pool, and what is granted is given
back at once. Outcomes are reported in the order of the endpoints, whichever ends first.
-/

namespace Tether

/-- One endpoint while it is probed. -/
structure ProbeTask where
  endpoint : String
  request : Nat
  started : Instant
  outcome : Option ProbeOutcome := none

namespace Probe

variable {δ γ : Type} [Dialer δ γ]

/-- Note what became of a task, if it has ended. Of a granted connection the peer is asked for. -/
def conclude (peer : γ → Option String) (pool : Nat) (t : ProbeTask) (w : World δ γ) :
    ProbeTask × World δ γ :=
  let latency := w.env.now - t.started
  let ended (result : Except PoolError (Option String)) : ProbeTask :=
    { t with outcome := some { endpoint := t.endpoint, latency, result } }
  if t.outcome.isSome then (t, w)
  else match w.requestState pool t.request with
    | some (.granted handle) =>
      let ref : HandleRef := { home := pool, index := handle }
      let (connection, w) := w.connection ref
      (ended (.ok (connection.bind peer)), (w.release pool ref).2)
    | some (.refused error) => (ended (.error error), w)
    | _ => (t, w)

/-- Ask for every endpoint, without the blanks around it. -/
def start (peer : γ → Option String) (pool : Nat) :
    List String → World δ γ → List ProbeTask × World δ γ
  | [], w => ([], w)
  | endpoint :: rest, w =>
    let endpoint := Text.trimmed endpoint
    let started := w.env.now
    let (request, w) := w.visit pool (Site.get endpoint)
    let (task, w) := conclude peer pool { endpoint, request := request.getD 0, started } w
    let (tasks, w) := start peer pool rest w
    (task :: tasks, w)

def concludeAll (peer : γ → Option String) (pool : Nat) :
    List ProbeTask → World δ γ → List ProbeTask × World δ γ
  | [], w => ([], w)
  | task :: rest, w =>
    let (task, w) := conclude peer pool task w
    let (tasks, w) := concludeAll peer pool rest w
    (task :: tasks, w)

end Probe

/-- Let time pass until every task has ended. -/
def World.awaitTasks {δ γ : Type} [Dialer δ γ] (peer : γ → Option String) (pool : Nat)
    (tasks : List ProbeTask) (w : World δ γ) : Option (List ProbeTask × World δ γ) :=
  let (tasks, w) := Probe.concludeAll peer pool tasks w.settle
  if tasks.all fun t => t.outcome.isSome then some (tasks, w)
  else match w.nextDue with
    | none => some (tasks, w)
    | some moment => w.passTo moment |>.awaitTasks peer pool tasks
partial_fixpoint

namespace Probe

variable {δ γ : Type} [Dialer δ γ]

/-- Probe endpoints through a pool, and close it in the end. -/
def run (peer : γ → Option String) (pool : Nat) (endpoints : List String) (w : World δ γ) :
    ProbeReport × World δ γ :=
  let (tasks, w) := start peer pool endpoints w
  let (tasks, w) := (w.awaitTasks peer pool tasks).getD (tasks, w)
  let statistics := (w.pools[pool]?.map Pool.statistics).getD ⟨{}, 0, 0⟩
  ({ outcomes := tasks.filterMap ProbeTask.outcome, statistics }, w.visit' pool Site.close)

end Probe

end Tether
