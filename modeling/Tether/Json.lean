/-!
JSON values as they are printed: indented by two spaces, a field or an item to a line.
-/

namespace Tether

inductive Json where
  | text (text : String)
  | number (number : Nat)
  | switch (on : Bool)
  | items (items : List Json)
  | fields (fields : List (String × Json))

namespace Json

/-- At least four hexadecimal digits. -/
def hex (n : Nat) : List Char :=
  let digits := Nat.toDigits 16 n
  List.replicate (4 - digits.length) '0' ++ digits

/-- One character inside a text. Beyond the five short escapes only control characters are
escaped. -/
def escape (c : Char) : List Char :=
  if c = '"' ∨ c = '\\' then ['\\', c]
  else if c = '\n' then ['\\', 'n']
  else if c = '\r' then ['\\', 'r']
  else if c = '\t' then ['\\', 't']
  else if c.toNat = 8 then ['\\', 'b']
  else if c.toNat = 12 then ['\\', 'f']
  else if c.toNat < 32 then '\\' :: 'u' :: hex c.toNat
  else [c]

def quote (s : String) : String := String.ofList ('"' :: (s.toList.flatMap escape ++ ['"']))

def indentation (depth : Nat) : String := String.ofList (List.replicate (2 * depth) ' ')

/-- Lines between two brackets, each indented one level deeper than the brackets. -/
def block (opening closing : String) (depth : Nat) (lines : List String) : String :=
  if lines.isEmpty then opening ++ closing
  else
    opening ++ "\n" ++
      ",\n".intercalate (lines.map fun line => indentation (depth + 1) ++ line) ++
      "\n" ++ indentation depth ++ closing

/-- The printed value, with its first line not indented. -/
def print (depth : Nat) : Json → String
  | text s => quote s
  | number n => toString n
  | switch on => if on then "true" else "false"
  | items xs => block "[" "]" depth (printItems (depth + 1) xs)
  | fields xs => block "\x7b" "\x7d" depth (printFields (depth + 1) xs)
where
  printItems (depth : Nat) : List Json → List String
    | [] => []
    | x :: rest => print depth x :: printItems depth rest
  printFields (depth : Nat) : List (String × Json) → List String
    | [] => []
    | (name, x) :: rest => (quote name ++ ": " ++ print depth x) :: printFields depth rest

/-- The printed value with the line's end behind it. -/
def line (x : Json) : String := x.print 0 ++ "\n"

end Json

end Tether
