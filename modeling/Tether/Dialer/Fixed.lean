import Tether.Dialer
import Tether.Table

/-!
A dialer that hands out one fixed connection. Failures can be ordered for an endpoint, a number of
them or all, and landed dials are counted.
-/

namespace Tether

/-- Failures ordered for one endpoint. -/
structure FailureOrder where
  /-- Dials still to fail. -/
  budget : Nat := 0
  always : Bool := false
  deriving Repr, DecidableEq

/-- Dials of one endpoint that landed, and those of them that gave a connection. -/
structure DialTally where
  attempts : Nat := 0
  connected : Nat := 0
  deriving Repr, DecidableEq

structure FixedDialer (γ : Type) where
  connection : γ
  latency : Duration := 0
  orders : Table FailureOrder := []
  tallies : Table DialTally := []

namespace FixedDialer

variable {γ : Type}

/-- Fail the next `count` dials. The number replaces what was left of an earlier one. -/
def failNext (id : String) (count : Nat) (d : FixedDialer γ) : FixedDialer γ :=
  { d with orders := d.orders.alter id fun o => { o.getD {} with budget := count } }

/-- Fail every dial until `recover`. -/
def failAlways (id : String) (d : FixedDialer γ) : FixedDialer γ :=
  { d with orders := d.orders.alter id fun o => { o.getD {} with always := true } }

/-- Withdraw every order for the endpoint. -/
def recover (id : String) (d : FixedDialer γ) : FixedDialer γ :=
  { d with orders := d.orders.erase id }

def order (id : String) (d : FixedDialer γ) : FailureOrder := (d.orders.get? id).getD {}

def tally (id : String) (d : FixedDialer γ) : DialTally := (d.tallies.get? id).getD {}

/-- A dial lands. While all dials fail, none of the budget is used. -/
def land (id : String) (d : FixedDialer γ) : Except DialError γ × FixedDialer γ :=
  let o := d.order id
  let fails := o.always || 0 < o.budget
  let orders := if !o.always && 0 < o.budget
    then d.orders.insert id { o with budget := o.budget - 1 } else d.orders
  let tallies := d.tallies.alter id fun t =>
    let t := t.getD {}
    { attempts := t.attempts + 1, connected := if fails then t.connected else t.connected + 1 }
  (if fails then .error (.refused ("scripted failure for " ++ id)) else .ok d.connection,
    { d with orders, tallies })

instance : Dialer (FixedDialer γ) γ where
  launch _ d := { ticket := 0, delay := d.latency.slept, dialer := d }
  land id _ d := d.land id

end FixedDialer

end Tether
