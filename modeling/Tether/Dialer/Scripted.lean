import Tether.Dialer
import Tether.Table

/-!
A dialer that follows a script: the first dial of an endpoint goes as the endpoint's first cue
says, the second as the second, and so on.
-/

namespace Tether

/-- How one dial goes: how long it takes and what it comes to. -/
structure Cue (γ : Type) where
  delay : Duration := 0
  answer : Except DialError γ

structure ScriptedDialer (γ : Type) where
  cues : Table (List (Cue γ))
  /-- What a dial beyond the script comes to, at once. -/
  fallback : γ
  /-- Dials launched so far. -/
  launched : Table Nat := []

namespace ScriptedDialer

variable {γ : Type}

def cue (id : String) (number : Nat) (d : ScriptedDialer γ) : Cue γ :=
  (((d.cues.get? id).getD [])[number]?).getD { answer := .ok d.fallback }

instance : Dialer (ScriptedDialer γ) γ where
  launch id d :=
    let number := (d.launched.get? id).getD 0
    { ticket := number
      delay := (d.cue id number).delay.slept
      dialer := { d with launched := d.launched.insert id (number + 1) } }
  land id ticket d := ((d.cue id ticket).answer, d)

end ScriptedDialer

end Tether
