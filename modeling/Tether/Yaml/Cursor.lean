/-!
A place in a text that is read from front to back, and the classes of characters that matter there.
A line may end in a line feed, a carriage return, both, or one of three further characters.
-/

namespace Tether.Yaml

/-- Characters that a stream may hold at all. -/
def isAllowed (c : Char) : Bool :=
  let n := c.toNat
  n == 0x09 || n == 0x0A || n == 0x0D || (0x20 ≤ n && n ≤ 0x7E) || n == 0x85 ||
    (0xA0 ≤ n && n ≤ 0xFFFD) || 0x10000 ≤ n

def isBlank (c : Char) : Bool := c == ' ' || c == '\t'

def isBreak (c : Char) : Bool :=
  c == '\n' || c == '\r' || c == '\u0085' || c == '\u2028' || c == '\u2029'

def isGap (c : Char) : Bool := isBlank c || isBreak c

/-- Letters, digits and the two joining signs of names. -/
def isName (c : Char) : Bool := c.isAlphanum || c == '-' || c == '_'

def hexValue (c : Char) : Option Nat :=
  if c.isDigit then some (c.toNat - 48)
  else if 'a' ≤ c && c ≤ 'f' then some (c.toNat - 87)
  else if 'A' ≤ c && c ≤ 'F' then some (c.toNat - 55)
  else none

/-- Whether the text is over or goes on with a blank or a line break. -/
def atGap : List Char → Bool
  | [] => true
  | c :: _ => isGap c

/-- How many octets the characters take up in UTF-8. -/
def octetCount (cs : List Char) : Nat := cs.foldr (fun c count => c.utf8Size + count) 0

structure Cursor where
  rest : List Char
  /-- Octets before the cursor in the text. -/
  index : Nat := 0
  /-- Characters before the cursor in its line. -/
  column : Nat := 0
  line : Nat := 0
  deriving Repr

namespace Cursor

/-- Go on by that many characters of the line. -/
def skip (count : Nat) (c : Cursor) : Cursor :=
  { c with rest := c.rest.drop count, index := c.index + octetCount (c.rest.take count)
           column := c.column + count }

/-- Go on to `rest`, which is what is left of the same line. -/
def skipTo (rest : List Char) (c : Cursor) : Cursor := c.skip (c.rest.length - rest.length)

/-- The characters from here on that have the property, and the place behind them. -/
def span (p : Char → Bool) (c : Cursor) : List Char × Cursor :=
  let taken := c.rest.takeWhile p
  (taken, c.skip taken.length)

/-- Go on past every character that has the property. -/
def skipWhile (p : Char → Bool) (c : Cursor) : Cursor := (c.span p).2

/-- Go on behind a line break, with `rest` left. -/
def newLine (rest : List Char) (c : Cursor) : Cursor :=
  { c.skipTo rest with column := 0, line := c.line + 1 }

/-- Go past a line break. The three common breaks and the next-line character count as a line feed,
the other two as themselves. -/
def lineBreak? (c : Cursor) : Option (List Char × Cursor) :=
  match c.rest with
  | '\r' :: '\n' :: rest => some (['\n'], c.newLine rest)
  | a :: rest =>
    if a == '\n' || a == '\r' || a == '\u0085' then some (['\n'], c.newLine rest)
    else if isBreak a then some ([a], c.newLine rest)
    else none
  | [] => none

/-- Whether the line starts here with the same mark three times over and nothing attached. -/
def atMarker (mark : Char) (c : Cursor) : Bool :=
  c.column == 0 && c.rest.take 3 == [mark, mark, mark] && atGap (c.rest.drop 3)

/-- Whether a document starts or ends here. -/
def atDocumentMarker (c : Cursor) : Bool := c.atMarker '-' || c.atMarker '.'

end Cursor

end Tether.Yaml
