import Tether.Dialer.Staged
import Tether.World

/-!
The language of scenarios: the steps that a scenario is made of, and what is reported after each.
Pools, handles, tasks and tokens go by names.
-/

namespace Tether.Scenario

inductive Action where
  /-- Ask a pool for a connection and wait; the handle is remembered under a name. -/
  | get (pool id remembered : String) (timeout : Option Duration)
  /-- The same as a task that runs by itself. -/
  | spawnGet (task pool id : String) (timeout : Option Duration)
  /-- Run a sequence of dials on the factory and wait. -/
  | create (id : String) (token : Option String) (timeout : Option Duration)
  | spawnCreate (task id : String) (token : Option String) (timeout : Option Duration)
  | cancel (token : String)
  | join (task : String)
  | abort (task : String)
  | release (pool handle : String)
  | report (pool handle cause : String)
  | evictIdle (pool : String)
  | reapNow (pool : String) (times : Nat)
  | close (pool : String)
  | statistics (pool : String)
  | contains (pool id : String)
  | openPool (pool : String) (linger : Duration)
  | dropPool (pool : String)
  | borrow (handle : String)
  | giveBack (handle : String)
  | connection (handle : String)
  | inspect (pool handle : String)
  | firstContact (id : String)
  | hasSeen (id : String)
  | shutFactory
  | showFactory
  /-- One dial, without retries. -/
  | dial (id : String)
  | failNext (id : String) (count : Nat)
  | failAlways (id : String)
  | recover (id : String)
  | tally (id : String)
  | sleep (span : Duration)
  | advance (span : Duration)
  /-- Scans and wake signals while somebody else holds the registry. -/
  | busyScan (pool : String)
  | unknown

structure Step where
  action : Action
  /-- The pool that the step is about. -/
  pool : String
  /-- The endpoint that the step names. -/
  endpoint : Option String := none
  /-- Attempt a scan of the pool at every reading of the clock during the step. -/
  probing : Bool := false

/-- Why a step cannot be taken at all. -/
inductive Misstep where
  | noPool
  | noTask
  | noHandle
  | scriptedDialer
  | unknownAction

def Misstep.message : Misstep → String
  | noPool => "no such pool"
  | noTask => "no such task"
  | noHandle => "no such handle"
  | scriptedDialer => "dialer is scripted"
  | unknownAction => "unknown step"

/-- What a get or a sequence of dials came to. Handles are numbered as they are first reported. -/
inductive Outcome where
  | handle (number : Nat) (endpointId : String) (refCount : Nat)
  | refused (error : PoolError)
  | connection (text : String)
  | failed (error : ConnectError)
  | timedOut
  | aborted
  /-- The clock could not be read. -/
  | broken

inductive Joined where
  | done
  | aborted
  | before

structure Inspection where
  endpointId : String
  refCount : Nat
  mismatched : Nat
  idle : Duration
  lastUse : Instant
  evictable : Bool

inductive Answer where
  | done
  | outcome (outcome : Outcome) (elapsed : Duration)
  | joined (how : Joined)
  | refCount (count : Nat)
  | reported (registered : Bool) (refCount : Nat)
  | refused (error : PoolError)
  | evicted (count : Nat)
  | elapsed (span : Duration)
  | statistics (statistics : Statistics) (text : String)
  | value (value : Bool)
  | opened (linger : Duration)
  | dropped (existed : Bool)
  | connection (text : String)
  | inspection (inspection : Inspection)
  | factory (policy : RetryPolicy) (text : String)
  | dialed (result : Except DialError String) (elapsed : Duration)
  | tally (tally : DialTally)
  | wound (total : Duration)
  | busyScan (held : Bool) (during : Option (Except PoolError Nat)) (helper : Except PoolError Nat)
  | misstep (misstep : Misstep)
  /-- The clock could not be read, or would have gone too far. -/
  | broken

structure PoolView where
  name : String
  statistics : Statistics
  closed : Bool
  reaperRunning : Bool
  /-- Endpoints named so far that have a handle. -/
  registered : List String

structure Ending where
  task : String
  outcome : Outcome
  moment : Instant

structure Report where
  answer : Answer
  /-- What the probes of a probing step came to. -/
  probes : Option (List (Except PoolError Nat))
  now : Instant
  pools : List PoolView
  endings : List Ending
  events : List Event

end Tether.Scenario
