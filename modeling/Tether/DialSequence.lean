import Tether.Dialer
import Tether.Surroundings

/-!
A sequence of dials to one endpoint: a first dial and, after each one that failed, a wait and a
retry, as often as the tier allows. A sequence can be told to stop, by its caller or because the
factory shuts down, but only its waits listen: a dial in the air is never interrupted, its
connection is still handed over, and the failure of the last dial allowed is the failure of the
sequence.
-/

namespace Tether

/-- What a sequence of dials waits for. -/
inductive DialPhase where
  /-- The dial with this ticket lands at that moment. -/
  | flying (ticket : Nat) (lands : Instant)
  /-- The wait before the next dial ends at that moment. -/
  | resting (ends : Instant)
  deriving Repr, DecidableEq

structure DialSequence where
  endpointId : String
  tier : Tier
  /-- Dials launched so far. -/
  attempt : Nat
  /-- Dials allowed beyond those. -/
  remaining : Nat
  phase : DialPhase
  deriving Repr, DecidableEq

/-- Where a sequence of dials stands once it cannot go on without time passing. -/
inductive DialProgress (γ : Type) where
  | waiting (sequence : DialSequence)
  | connected (connection : γ)
  | failed (error : ConnectError)

namespace DialSequence

variable {δ γ : Type} [Dialer δ γ]

/-- The moment at which a waiting sequence can go on by itself. -/
def due (s : DialSequence) : Instant :=
  match s.phase with
  | .flying _ lands => lands
  | .resting ends => ends

/-- Whether the sequence can go on now. -/
def isReady (told : Bool) (env : Surroundings δ) (s : DialSequence) : Bool :=
  match s.phase with
  | .flying _ lands => lands ≤ env.now
  | .resting ends => told || env.factory.shutdown || ends ≤ env.now

/-- The sequence stops because it was told to. -/
def abandon (id : String) (attempt : Nat) (env : Surroundings δ) :
    DialProgress γ × Surroundings δ :=
  (.failed (.cancelled id attempt), env.note (.cancelled id attempt))

/-- A dial lands, and the sequence goes on from there until it has to wait or is over. With no
grace between two dials the next one is launched at once, and a dial that takes no time lands at
once. -/
def land (id : String) (tier : Tier) (cancelled : Bool) (remaining attempt ticket : Nat)
    (env : Surroundings δ) : DialProgress γ × Surroundings δ :=
  match Dialer.land id ticket env.factory.dialer with
  | (.ok connection, dialer) =>
    (.connected connection, (env.setDialer dialer).note (.connected id attempt tier))
  | (.error error, dialer) =>
    let env := env.setDialer dialer
    match remaining with
    | 0 => (.failed (.exhausted id attempt error), env.note (.gaveUp id attempt error))
    | left + 1 =>
      let grace := env.factory.policy.grace tier
      let env := env.note (.retrying id attempt (left + 1) grace error)
      if cancelled then abandon id attempt env
      else if grace = 0 then
        let launch := Dialer.launch id env.factory.dialer
        let env := env.setDialer launch.dialer
        if launch.delay = 0 then land id tier cancelled left (attempt + 1) launch.ticket env
        else
          (.waiting { endpointId := id, tier, attempt := attempt + 1, remaining := left,
                      phase := .flying launch.ticket (env.now + launch.delay) }, env)
      else
        (.waiting { endpointId := id, tier, attempt, remaining := left + 1,
                    phase := .resting (env.now + grace.slept) }, env)

/-- A dial is launched, with `remaining` more allowed after it. -/
def launch (id : String) (tier : Tier) (cancelled : Bool) (remaining attempt : Nat)
    (env : Surroundings δ) : DialProgress γ × Surroundings δ :=
  let launch := Dialer.launch id env.factory.dialer
  let env := env.setDialer launch.dialer
  if launch.delay = 0 then land id tier cancelled remaining attempt launch.ticket env
  else
    (.waiting { endpointId := id, tier, attempt, remaining,
                phase := .flying launch.ticket (env.now + launch.delay) }, env)

/-- Start a sequence of dials. Its tier is settled, and the endpoint marked as seen, before the
first dial. -/
def start (id : String) (told : Bool) (env : Surroundings δ) :
    DialProgress γ × Surroundings δ :=
  let cancelled := told || env.factory.shutdown
  let (first, env) := env.firstContact id
  let tier := Factory.tierOf first
  let most := env.factory.policy.maxAttempts tier
  launch id tier cancelled (most - 1) 1 (env.note (.dialing id tier most))

/-- Let a waiting sequence go on, if what it waits for has come. -/
def resume (told : Bool) (s : DialSequence) (env : Surroundings δ) :
    DialProgress γ × Surroundings δ :=
  let cancelled := told || env.factory.shutdown
  match s.phase with
  | .flying ticket lands =>
    if lands ≤ env.now then
      land s.endpointId s.tier cancelled s.remaining s.attempt ticket env
    else (.waiting s, env)
  | .resting ends =>
    if cancelled then abandon s.endpointId s.attempt env
    else if ends ≤ env.now then
      launch s.endpointId s.tier cancelled (s.remaining - 1) (s.attempt + 1) env
    else (.waiting s, env)

end DialSequence

end Tether
