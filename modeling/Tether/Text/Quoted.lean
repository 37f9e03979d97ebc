import Tether.Text.Unprintable

/-!
Quoted text for messages: double quotes around it, a backslash before a quote or a backslash, the
four short escapes, and `\u` with the number in braces for whatever cannot be shown.
-/

namespace Tether.Text

def backslash : Char := Char.ofNat 0x5c

/-- Lower-case hexadecimal digits, without zeros in front. -/
def hexDigits (n : Nat) : List Char := Nat.toDigits 16 n

/-- One character as it stands inside the quotes. A single quote is not escaped. -/
def quoteChar (c : Char) : List Char :=
  if c = '"' ∨ c = backslash then [backslash, c]
  else if c = '\t' then [backslash, 't']
  else if c = '\n' then [backslash, 'n']
  else if c = '\r' then [backslash, 'r']
  else if c.toNat = 0 then [backslash, '0']
  else if isUnprintable c then
    backslash :: 'u' :: Char.ofNat 0x7b :: (hexDigits c.toNat ++ [Char.ofNat 0x7d])
  else [c]

/-- The whole text in double quotes. -/
def quoted (s : String) : String :=
  String.ofList ('"' :: (s.toList.flatMap quoteChar ++ ['"']))

/-- One character of a path. Here single quotes are escaped as well. -/
def quotePathChar (c : Char) : List Char := if c = '\'' then [backslash, c] else quoteChar c

/-- A path in double quotes. -/
def quotedPath (s : String) : String :=
  String.ofList ('"' :: (s.toList.flatMap quotePathChar ++ ['"']))

end Tether.Text
