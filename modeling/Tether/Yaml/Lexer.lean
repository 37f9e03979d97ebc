import Tether.Yaml.Scalar
import Tether.Yaml.Token

/-!
From text to tokens. Only a colon shows that what came before it was a key, so the lexer remembers
where a key may have begun and puts the missing tokens in there. Such a key stands on one line and
is not longer than 1024 octets.
-/

namespace Tether.Yaml

/-- A place where a key may have begun. -/
structure KeyPlace where
  /-- Tokens before it. -/
  position : Nat
  /-- Nothing else can begin here, so that a colon has to follow. -/
  required : Bool
  index : Nat
  line : Nat
  column : Nat

structure Lexer where
  cursor : Cursor
  /-- Tokens found so far, the latest first. -/
  tokens : List Token := []
  /-- Columns of the block collections around the cursor, the innermost first. -/
  indents : List Nat := []
  /-- For the block context and for each pair of brackets around the cursor, innermost first, where
  a key may have begun. -/
  places : List (Option KeyPlace) := [none]
  /-- Whether a key may begin at the cursor. -/
  keyAllowed : Bool := true

namespace Lexer

/-- Whether the cursor is inside brackets. -/
def inFlow (l : Lexer) : Bool := 1 < l.places.length

/-- One more than the column of the innermost block collection; nothing is inside column 0 yet
when there is none. -/
def level (l : Lexer) : Nat :=
  match l.indents with
  | [] => 0
  | column :: _ => column + 1

def emit (token : Token) (l : Lexer) : Lexer := { l with tokens := token :: l.tokens }

def moveTo (cursor : Cursor) (l : Lexer) : Lexer := { l with cursor }

/-- Put a token in behind the first `position` ones. -/
def insertAt (position : Nat) (token : Token) (l : Lexer) : Lexer :=
  let later := l.tokens.length - position
  { l with tokens := l.tokens.take later ++ token :: l.tokens.drop later }

def allowKey (allowed : Bool) (l : Lexer) : Lexer := { l with keyAllowed := allowed }

/-- Go past blanks, comments and line breaks to the next token. Where a key may begin outside
brackets a tab is no blank. A byte order mark at the start of a line is passed over and takes up a
column. -/
def skipToToken : Nat → Lexer → Lexer
  | 0, l => l
  | fuel + 1, l =>
    let c := l.cursor
    let c := if c.column = 0 ∧ c.rest.head? = some '\ufeff' then c.skip 1 else c
    let c := c.skipWhile fun d => d == ' ' || ((l.inFlow || !l.keyAllowed) && d == '\t')
    let c := if c.rest.head? = some '#' then c.skipWhile fun d => !isBreak d else c
    match c.lineBreak? with
    | some (_, c) =>
      skipToToken fuel { l with cursor := c, keyAllowed := l.keyAllowed || !l.inFlow }
    | none => l.moveTo c

/-- Whether what began there can still be a key. -/
def isFresh (c : Cursor) (place : KeyPlace) : Bool :=
  place.line == c.line && c.index ≤ place.index + 1024

/-- Forget places that no key can have begun at any more. -/
def forgetStale (l : Lexer) : Option Lexer :=
  let stale (place : Option KeyPlace) : Bool := place.any fun p => !isFresh l.cursor p
  if l.places.any fun place => stale place && place.any KeyPlace.required then none
  else some { l with places := l.places.map fun place => if stale place then none else place }

/-- What began at the innermost place was no key. -/
def forgetKey (l : Lexer) : Option Lexer :=
  match l.places with
  | some place :: outer => if place.required then none else some { l with places := none :: outer }
  | _ => some l

/-- A key may begin here. -/
def markKey (l : Lexer) : Option Lexer :=
  if l.keyAllowed then
    l.forgetKey.map fun l =>
      let place : KeyPlace :=
        { position := l.tokens.length
          required := !l.inFlow && l.indents.head? == some l.cursor.column
          index := l.cursor.index, line := l.cursor.line, column := l.cursor.column }
      { l with places := some place :: l.places.tail }
  else some l

/-- A block collection begins in that column, unless one there is open already. -/
def roll (column position : Nat) (token : Token) (l : Lexer) : Lexer :=
  if !l.inFlow && l.level ≤ column then
    { l with indents := column :: l.indents }.insertAt position token
  else l

/-- End block collections further in than that level. -/
def unrollTo (level : Nat) : List Nat → List Token → List Nat × List Token
  | [], tokens => ([], tokens)
  | column :: outer, tokens =>
    if level < column + 1 then unrollTo level outer (.blockEnd :: tokens)
    else (column :: outer, tokens)

/-- End the block collections that a line which begins at that level is not part of. -/
def unroll (level : Nat) (l : Lexer) : Lexer :=
  if l.inFlow then l
  else
    let (indents, tokens) := unrollTo level l.indents l.tokens
    { l with indents, tokens }

/-! ### Directives -/

/-- A number of at most nine digits. -/
def versionNumber (c : Cursor) : Option (Nat × Cursor) :=
  let (digits, next) := c.span Char.isDigit
  if digits.isEmpty || 9 < digits.length then none
  else some (digits.foldl (fun n d => 10 * n + (d.toNat - 48)) 0, next)

/-- Characters of a tag, besides escapes. Brackets and commas only count where nothing else could
end the tag. -/
def isTagChar (wide : Bool) (c : Char) : Bool :=
  let signs := [';', '/', '?', ':', '@', '&', '=', '+', '$', '.', '!', '~', '*', '\'', '(', ')']
  isName c || signs.contains c || (wide && [',', '[', ']'].contains c)

/-- How many octets go on with what this one begins, by its first bits. -/
def followers (octet : UInt8) : Option Nat :=
  if octet < 0x80 then some 0
  else if octet < 0xC0 then none
  else if octet < 0xE0 then some 1
  else if octet < 0xF0 then some 2
  else if octet < 0xF8 then some 3
  else none

/-- The octets of a tag here: characters as they are and octets in hexadecimal behind percent
signs. Escapes come in groups like those of UTF-8, and `due` more of them have to come; beyond its
first bits no octet is looked at. -/
def tagOctets (wide : Bool) (due : Nat) : List Char → Option (List UInt8 × List Char)
  | '%' :: a :: b :: rest =>
    (hexValue a).bind fun a => (hexValue b).bind fun b =>
      let octet := UInt8.ofNat (16 * a + b)
      let due := match due with
        | 0 => followers octet
        | due + 1 => if 0x80 ≤ octet && octet < 0xC0 then some due else none
      due.bind fun due => (tagOctets wide due rest).map fun (octets, left) =>
        (octet :: octets, left)
  | c :: rest =>
    if c == '%' || 0 < due then none
    else if isTagChar wide c then
      (tagOctets wide 0 rest).map fun (octets, left) => (c.toString.toUTF8.toList ++ octets, left)
    else some ([], c :: rest)
  | [] => if 0 < due then none else some ([], [])

/-- Read the text of a tag, escapes undone. What stands behind a zero octet is no part of it. A
text of which nothing is written is an error if `needed`. -/
def tagText (wide needed : Bool) (c : Cursor) : Option (Tag × Cursor) :=
  (tagOctets wide 0 c.rest).bind fun (octets, left) =>
    if needed && octets.isEmpty then none
    else some (octets.takeWhile (· != 0), c.skipTo left)

/-- Read a tag handle: an exclamation mark, name characters, and perhaps another mark. -/
def tagHandle (c : Cursor) : Option (List Char × Cursor) :=
  match c.rest with
  | '!' :: _ =>
    let (name, c) := (c.skip 1).span isName
    if c.rest.head? = some '!' then some ('!' :: name ++ ['!'], c.skip 1)
    else some ('!' :: name, c)
  | _ => none

/-- Read a directive up to the end of its name's arguments. -/
def directive (c : Cursor) : Option (Token × Cursor) :=
  let (name, c) := (c.skip 1).span isName
  if !atGap c.rest then none
  else
    let c := c.skipWhile isBlank
    if name == ['Y', 'A', 'M', 'L'] then
      (versionNumber c).bind fun (major, c) =>
        if c.rest.head? = some '.' then
          (versionNumber (c.skip 1)).map fun (minor, c) => (.version major minor, c)
        else none
    else if name == ['T', 'A', 'G'] then
      (tagHandle c).bind fun (handle, c) =>
        if handle.getLast? ≠ some '!' || !c.rest.head?.any isBlank then none
        else
          (tagText true true (c.skipWhile isBlank)).bind fun (stem, c) =>
            if atGap c.rest then some (.tagDirective handle stem, c) else none
    else none

/-- Read a directive and the rest of its line. -/
def fetchDirective (l : Lexer) : Option Lexer :=
  (l.unroll 0).forgetKey.bind fun l => (directive l.cursor).bind fun (token, c) =>
    let c := c.skipWhile isBlank
    let c := if c.rest.head? = some '#' then c.skipWhile fun d => !isBreak d else c
    if !(c.rest.isEmpty || c.rest.head?.any isBreak) then none
    else some (((l.emit token).moveTo ((c.lineBreak?.map Prod.snd).getD c)).allowKey false)

/-! ### Structure -/

/-- The mark of a document's start or end. -/
def fetchMarker (token : Token) (l : Lexer) : Option Lexer :=
  (l.unroll 0).forgetKey.map fun l =>
    ((l.emit token).moveTo (l.cursor.skip 3)).allowKey false

def fetchOpen (token : Token) (l : Lexer) : Option Lexer :=
  l.markKey.map fun l =>
    { l with places := none :: l.places, tokens := token :: l.tokens
             cursor := l.cursor.skip 1, keyAllowed := true }

def fetchClose (token : Token) (l : Lexer) : Option Lexer :=
  l.forgetKey.map fun l =>
    { l with places := if l.inFlow then l.places.tail else l.places, tokens := token :: l.tokens
             cursor := l.cursor.skip 1, keyAllowed := false }

def fetchComma (l : Lexer) : Option Lexer :=
  l.forgetKey.map fun l => ((l.emit .comma).moveTo (l.cursor.skip 1)).allowKey true

/-- A dash before an entry. -/
def fetchEntry (l : Lexer) : Option Lexer :=
  if !l.inFlow && !l.keyAllowed then none
  else
    let l := l.roll l.cursor.column l.tokens.length .blockSequence
    l.forgetKey.map fun l => ((l.emit .entry).moveTo (l.cursor.skip 1)).allowKey true

/-- A question mark before a key. -/
def fetchKey (l : Lexer) : Option Lexer :=
  if !l.inFlow && !l.keyAllowed then none
  else
    let l := l.roll l.cursor.column l.tokens.length .blockMapping
    l.forgetKey.map fun l => ((l.emit .key).moveTo (l.cursor.skip 1)).allowKey (!l.inFlow)

/-- A colon before a value. If a key may have begun on this line, it did. -/
def fetchValue (l : Lexer) : Option Lexer :=
  match l.places with
  | some place :: outer =>
    let l := { l with places := none :: outer }.insertAt place.position .key
    let l := l.roll place.column place.position .blockMapping
    some (((l.emit .value).moveTo (l.cursor.skip 1)).allowKey false)
  | _ =>
    if !l.inFlow && !l.keyAllowed then none
    else
      let l := l.roll l.cursor.column l.tokens.length .blockMapping
      some (((l.emit .value).moveTo (l.cursor.skip 1)).allowKey (!l.inFlow))

/-! ### Nodes -/

/-- An anchor or an alias. -/
def fetchAnchor (token : List Char → Token) (l : Lexer) : Option Lexer :=
  l.markKey.bind fun l =>
    let (name, c) := (l.cursor.skip 1).span isName
    let ends := atGap c.rest || c.rest.head?.any ['?', ':', ',', ']', '}', '%', '@', '`'].contains
    if name.isEmpty || !ends then none
    else some (((l.emit (token name)).moveTo c).allowKey false)

/-- Read a tag: in full between angle brackets, or a handle and what follows it. -/
def tag (c : Cursor) : Option (Token × Cursor) :=
  match c.rest with
  | '!' :: '<' :: _ =>
    (tagText true true (c.skip 2)).bind fun (text, c) =>
      if c.rest.head? = some '>' then some (.tag [] text, c.skip 1) else none
  | _ =>
    (tagHandle c).bind fun (handle, next) =>
      if 2 ≤ handle.length && handle.getLast? == some '!' then
        (tagText false true next).map fun (suffix, c) => (.tag handle suffix, c)
      else
        (tagText false false (c.skip 1)).map fun (suffix, c) =>
          (if suffix.isEmpty then .tag [] (Tag.ofString "!") else .tag ['!'] suffix, c)

def fetchTag (l : Lexer) : Option Lexer :=
  l.markKey.bind fun l => (tag l.cursor).bind fun (token, c) =>
    if atGap c.rest || (l.inFlow && c.rest.head? == some ',') then
      some (((l.emit token).moveTo c).allowKey false)
    else none

def fetchBlockScalar (style : Style) (l : Lexer) : Option Lexer :=
  l.forgetKey.bind fun l =>
    (blockScalar (style == .literal) l.level l.cursor).map fun (text, c) =>
      ((l.emit (.scalar style text)).moveTo c).allowKey true

def fetchQuoted (quote : Char) (style : Style) (l : Lexer) : Option Lexer :=
  l.markKey.bind fun l => (quotedScalar quote l.cursor).map fun (text, c) =>
    ((l.emit (.scalar style text)).moveTo c).allowKey false

/-- A plain scalar. Behind one that ended at a line break a key may begin. -/
def fetchPlain (l : Lexer) : Option Lexer :=
  l.markKey.bind fun l => (plainScalar l.inFlow l.level l.cursor).map fun (text, broken, c) =>
    ((l.emit (.scalar .plain text)).moveTo c).allowKey broken

/-- Signs that a plain scalar does not start with, but for a dash, question mark or colon that is
attached to what follows. -/
def isSign (c : Char) : Bool :=
  isFlowSign c ||
    ['-', '?', ':', '#', '&', '*', '!', '|', '>', '\'', '"', '%', '@', '`'].contains c

/-- Read the token that starts with the character `c` and goes on with `rest`. -/
def fetch (c : Char) (rest : List Char) (l : Lexer) : Option Lexer :=
  let alone := atGap rest
  if l.cursor.column == 0 && c == '%' then l.fetchDirective
  else if l.cursor.atMarker '-' then l.fetchMarker .documentStart
  else if l.cursor.atMarker '.' then l.fetchMarker .documentEnd
  else if c == '[' then l.fetchOpen .openBracket
  else if c == '{' then l.fetchOpen .openBrace
  else if c == ']' then l.fetchClose .closeBracket
  else if c == '}' then l.fetchClose .closeBrace
  else if c == ',' then l.fetchComma
  else if c == '-' && alone then l.fetchEntry
  else if c == '?' && (l.inFlow || alone) then l.fetchKey
  else if c == ':' && (l.inFlow || alone) then l.fetchValue
  else if c == '*' then l.fetchAnchor .alias
  else if c == '&' then l.fetchAnchor .anchor
  else if c == '!' then l.fetchTag
  else if c == '|' && !l.inFlow then l.fetchBlockScalar .literal
  else if c == '>' && !l.inFlow then l.fetchBlockScalar .folded
  else if c == '\'' then l.fetchQuoted '\'' .singleQuoted
  else if c == '"' then l.fetchQuoted '"' .doubleQuoted
  else if !(isGap c || isSign c) || c == '-' || (!l.inFlow && (c == '?' || c == ':')) then
    l.fetchPlain
  else none

/-- The end of the text ends what is still open in the block context. -/
def finish (l : Lexer) : Option (List Token) :=
  (l.unroll 0).forgetKey.map fun l => l.tokens.reverse

/-- Go to the next token; keys and block collections that cannot reach it are over. -/
def approach (l : Lexer) : Option Lexer :=
  (l.skipToToken (l.cursor.rest.length + 1)).forgetStale.map fun l =>
    l.unroll (l.cursor.column + 1)

/-- Read at most that many tokens, up to the end of the text. -/
def run : Nat → Lexer → Option (List Token)
  | 0, _ => none
  | fuel + 1, l =>
    match l.approach with
    | none => none
    | some l =>
      match l.cursor.rest with
      | [] => l.finish
      | c :: rest => (l.fetch c rest).bind (run fuel)

end Lexer

/-- The tokens of a text, if it has any well-formed ones. -/
def Token.ofText? (text : List Char) : Option (List Token) :=
  if text.all isAllowed then Lexer.run (text.length + 1) { cursor := { rest := text } } else none

end Tether.Yaml
