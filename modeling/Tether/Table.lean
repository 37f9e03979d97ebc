/-!
Finite tables with texts as keys. The operations keep one entry per key and keep the order in
which keys first came in; that order is not part of what a table means.
-/

namespace Tether

abbrev Table (α : Type) := List (String × α)

namespace Table

variable {α : Type}

def get? (t : Table α) (key : String) : Option α := t.lookup key

def contains (t : Table α) (key : String) : Bool := (t.get? key).isSome

/-- The entry of `key` gets the value `f` of what was there; a new key goes to the end. -/
def alter (key : String) (f : Option α → α) : Table α → Table α
  | [] => [(key, f none)]
  | (k, v) :: rest => if key == k then (k, f (some v)) :: rest else (k, v) :: alter key f rest

def insert (t : Table α) (key : String) (value : α) : Table α := t.alter key fun _ => value

def erase (t : Table α) (key : String) : Table α := t.filter fun entry => !(key == entry.1)

def keys (t : Table α) : List String := t.map Prod.fst

end Table

end Tether
