import Tether.Table
import Tether.Text.Alphanumeric
import Tether.Text.Blank
import Tether.Text.Utf8

/-!
Files of variable definitions, `NAME=value` to a line. A definition goes on over line ends inside
quotes and behind a backslash. Reading stops at the first line that is malformed or no text; what
came before it stays. A definition never replaces a variable that is set already.
-/

namespace Tether.DotEnv

/-! ### Lines -/

/-- Split octets behind each line feed. -/
def splitLines : List UInt8 → List (List UInt8)
  | [] => []
  | b :: rest =>
    if b == 10 then [b] :: splitLines rest
    else match splitLines rest with
      | [] => [[b]]
      | line :: lines => (b :: line) :: lines

/-- Where a line stands between quotes, blanks and escapes. -/
inductive Mark where
  | complete
  | blank
  | escape
  | strong
  | strongEscape
  | weak
  | weakEscape
  | comment
  deriving Repr, DecidableEq

/-- Outside quotes. -/
def Mark.ofOpen (c : Char) : Mark :=
  if c == '\\' then .escape
  else if c == '"' then .weak
  else if c == '\'' then .strong
  else .complete

def Mark.next (c : Char) : Mark → Mark
  | complete =>
    if Text.isBlank c && c != '\n' && c != '\r' then .blank else Mark.ofOpen c
  | blank => if c == '#' then .comment else Mark.ofOpen c
  | escape => .complete
  | strong => if c == '\\' then .strongEscape else if c == '\'' then .complete else .strong
  | strongEscape => .strong
  | weak => if c == '\\' then .weakEscape else if c == '"' then .complete else .weak
  | weakEscape => .weak
  | comment => .comment

/-- Where a line ends that begins at `mark`, and its characters before a comment. -/
def scanLine (mark : Mark) : List Char → Mark × List Char
  | [] => (mark, [])
  | c :: rest =>
    match mark.next c with
    | .comment => (.comment, [])
    | next =>
      let (final, kept) := scanLine next rest
      (final, c :: kept)

/-- A line without its end. -/
def chomp (line : List Char) : List Char :=
  match line.reverse with
  | '\n' :: '\r' :: rest => rest.reverse
  | '\n' :: rest => rest.reverse
  | _ => line

/-- Join lines to definitions. `held` is the beginning of a definition that is not complete yet.
The last entry is nothing if reading stops there. -/
def definitions (held : List Char) (mark : Mark) :
    List (Option (List Char)) → List (Option (List Char))
  | [] => if mark = .complete then [] else [none]
  | none :: _ => [none]
  | some line :: rest =>
    let all := held ++ line
    if (Text.trimStart all).head? = some '#' then some [] :: definitions [] .complete rest
    else match scanLine mark line with
      | (.complete, _) => some (chomp all) :: definitions [] .complete rest
      | (.comment, kept) => some (held ++ kept) :: definitions [] .complete rest
      | (mark, _) => definitions all mark rest

/-! ### Definitions -/

/-- What variables are known while a file is read. -/
structure Known where
  /-- Variables that are set. -/
  set : Table String
  /-- Values that the file has defined so far. -/
  defined : Table String := []

/-- What a name is replaced by: a variable that is set, else an earlier definition. -/
def Known.replacement (name : List Char) (known : Known) : List Char :=
  let name := String.ofList name
  (((known.set.get? name).or (known.defined.get? name)).getD "").toList

/-- Where the reading of a value stands. -/
inductive ValueState where
  | bare
  | weak
  | strong
  /-- Behind a backslash, in weak quotes or not. -/
  | escaped (weak : Bool)
  /-- In a name behind a dollar sign, perhaps in braces. -/
  | naming (braced weak : Bool) (name : List Char)
  /-- Behind a blank; only a comment may follow. -/
  | ended

/-- The state after a name or an escape. -/
def ValueState.back (weak : Bool) : ValueState := if weak then .weak else .bare

/-- What a backslash and this character stand for. -/
def unescape (c : Char) : Option Char :=
  if c == '\\' || c == '\'' || c == '"' || c == '$' || c == ' ' then some c
  else if c == 'n' then some '\n'
  else none

/-- Read a value from a state on. -/
def readValue (known : Known) : ValueState → List Char → Option (List Char)
  | .bare, [] | .ended, [] | .escaped false, [] => some []
  | .naming false false name, [] => some (known.replacement name)
  | _, [] => none
  | .ended, c :: rest =>
    if c == ' ' || c == '\t' then readValue known .ended rest
    else if c == '#' then some []
    else none
  | .escaped weak, c :: rest =>
    (unescape c).bind fun d => (readValue known (.back weak) rest).map (d :: ·)
  | .strong, c :: rest =>
    if c == '\'' then readValue known .bare rest
    else (readValue known .strong rest).map (c :: ·)
  | .naming braced weak name, c :: rest =>
    if Text.isAlphanumeric c then readValue known (.naming braced weak (name ++ [c])) rest
    else if braced then
      if c.toNat == 0x7d then
        (readValue known (.back weak) rest).map (known.replacement name ++ ·)
      else readValue known (.naming true weak (name ++ [c])) rest
    else if c.toNat == 0x7b && name.isEmpty then readValue known (.naming true weak []) rest
    else if c == '$' then
      (readValue known (.naming false weak []) rest).map (known.replacement name ++ ·)
    else
      (readValue known (.back weak) rest).map (known.replacement name ++ c :: ·)
  | .weak, c :: rest =>
    if c == '$' then readValue known (.naming false true []) rest
    else if c == '"' then readValue known .bare rest
    else if c == '\\' then readValue known (.escaped true) rest
    else (readValue known .weak rest).map (c :: ·)
  | .bare, c :: rest =>
    if c == '$' then readValue known (.naming false false []) rest
    else if c == '\'' then readValue known .strong rest
    else if c == '"' then readValue known .weak rest
    else if c == '\\' then readValue known (.escaped false) rest
    else if c == ' ' || c == '\t' then readValue known .ended rest
    else (readValue known .bare rest).map (c :: ·)

def isNameChar (c : Char) : Bool := c.isAlphanum || c == '_' || c == '.'

/-- Read a name: a letter or an underscore, and then digits and points as well. -/
def readName : List Char → Option (List Char × List Char)
  | c :: rest =>
    if c.isAlpha || c == '_' then
      some (c :: rest.takeWhile isNameChar, Text.trimStart (rest.dropWhile isNameChar))
    else none
  | [] => none

/-- Go past an equals sign and the blanks behind it. -/
def passEquals : List Char → Option (List Char)
  | '=' :: rest => some (Text.trimStart rest)
  | _ => none

/-- Read the left side of a definition. The word `export` may stand before the name, or be it. -/
def readLeft (cs : List Char) : Option (List Char × List Char) :=
  (readName cs).bind fun (name, rest) =>
    match passEquals rest with
    | some rest => some (name, rest)
    | none =>
      if name == "export".toList then
        (readName rest).bind fun (name, rest) => (passEquals rest).map fun rest => (name, rest)
      else none

/-- Read a definition. An empty line or a comment defines nothing; the outer answer is missing if
the line is malformed. -/
def readDefinition (known : Known) (line : List Char) : Option (Option (String × Option String)) :=
  let cs := Text.trimStart (Text.trimEnd line)
  if cs.isEmpty || cs.head? == some '#' then some none
  else (readLeft cs).bind fun (name, rest) =>
    let name := String.ofList name
    if rest.isEmpty || rest.head? == some '#' then some (some (name, none))
    else (readValue known .bare rest).map fun value => some (name, some (String.ofList value))

/-- Take over a definition. A variable that is set keeps its value. -/
def Known.define (name value : String) (known : Known) : Known :=
  { set := if known.set.contains name then known.set else known.set.insert name value
    defined := known.defined.insert name value }

/-- Take over definitions up to the first that is malformed. -/
def takeOver : List (Option (List Char)) → Known → Known
  | [], known | none :: _, known => known
  | some line :: rest, known =>
    match readDefinition known line with
    | none => known
    | some none => takeOver rest known
    | some (some (name, value)) => takeOver rest (known.define name (value.getD ""))

/-- A mark that some editors put at the start of a file. -/
def dropByteOrderMark : List UInt8 → List UInt8
  | 0xEF :: 0xBB :: 0xBF :: rest => rest
  | octets => octets

/-- The definitions of a file as they are written. -/
def written (octets : List UInt8) : List (Option (List Char)) :=
  definitions [] .complete ((splitLines (dropByteOrderMark octets)).map fun line =>
    (Text.decode line).map String.toList)

/-- The variables that are set once a file of definitions has been loaded. -/
def load (octets : List UInt8) (env : Table String) : Table String :=
  (takeOver (written octets) { set := env }).set

end Tether.DotEnv
