import Tether.Time
import Tether.Text.Numeral

/-!
How often a dial is repeated and how long to wait in between. An endpoint that was never dialed
before gets the patient tier, every later sequence of dials the short one.
-/

namespace Tether

inductive Tier where
  | initial
  | subsequent
  deriving Repr, DecidableEq

def Tier.name : Tier → String
  | .initial => "initial"
  | .subsequent => "subsequent"

/-- Retries after a first failed dial, and the grace between two dials, for both tiers. -/
structure RetryPolicy where
  initialRetries : Nat := 4
  initialGrace : Duration := Duration.ofMillis 5000
  subsequentRetries : Nat := 3
  subsequentGrace : Duration := Duration.ofMillis 500
  deriving Repr, DecidableEq

namespace RetryPolicy

def retries (policy : RetryPolicy) : Tier → Nat
  | .initial => policy.initialRetries
  | .subsequent => policy.subsequentRetries

def grace (policy : RetryPolicy) : Tier → Duration
  | .initial => policy.initialGrace
  | .subsequent => policy.subsequentGrace

/-- Dials allowed in all: the first and its retries, but never more than `2 ^ 32 - 1`. -/
def maxAttempts (policy : RetryPolicy) (tier : Tier) : Nat :=
  min (policy.retries tier + 1) Text.max32

/-- The four settings by name. -/
def text (policy : RetryPolicy) : String :=
  "FactoryConfig \x7b initial_retries: " ++ toString policy.initialRetries ++
    ", initial_grace: " ++ policy.initialGrace.text ++
    ", subsequent_retries: " ++ toString policy.subsequentRetries ++
    ", subsequent_grace: " ++ policy.subsequentGrace.text ++ " \x7d"

end RetryPolicy

end Tether
