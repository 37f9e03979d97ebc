import Tether.Yaml.Cursor

/-!
The texts of scalars: plain, in single or double quotes, and in blocks. Within the first three a
line break and the blanks around it stand for one space; each further break stands for itself.
Every reader says where the scalar ends, or nothing if it is malformed.
-/

namespace Tether.Yaml

/-- Blanks and line breaks between two words of a scalar. -/
structure Gap where
  /-- Blanks before the first break. -/
  blanks : List Char := []
  broken : Bool := false
  firstBreak : List Char := []
  furtherBreaks : List Char := []

namespace Gap

/-- What the gap stands for. -/
def text (g : Gap) : List Char :=
  if !g.broken then g.blanks
  else if g.firstBreak == ['\n'] then
    if g.furtherBreaks.isEmpty then [' '] else g.furtherBreaks
  else g.firstBreak ++ g.furtherBreaks

def addBreak (br : List Char) (g : Gap) : Gap :=
  if g.broken then { g with furtherBreaks := g.furtherBreaks ++ br }
  else { blanks := [], broken := true, firstBreak := br }

/-- Read on to the next word. Behind a break, a tab in one of the first `indent` columns is an
error. -/
def read (indent : Nat) : Nat → Gap → Cursor → Option (Gap × Cursor)
  | 0, _, _ => none
  | fuel + 1, g, c =>
    let (blanks, next) := c.span isBlank
    if g.broken && (blanks.take (indent - c.column)).contains '\t' then none
    else
      let g := if g.broken then g else { g with blanks := g.blanks ++ blanks }
      match next.lineBreak? with
      | some (br, next) => read indent fuel (g.addBreak br) next
      | none => some (g, next)

end Gap

/-- The text of a scalar, whether a line break stands before the place where it ends, and that
place. -/
abbrev ScalarEnd := List Char × Bool × Cursor

/-- The signs that end a plain word inside brackets. -/
def isFlowSign (c : Char) : Bool := c == ',' || c == '[' || c == ']' || c == '{' || c == '}'

/-- The plain word that the text starts with. A colon ends it before a gap. Inside brackets the
flow signs end it, and a colon right before one of them is an error. -/
def plainWord (flow : Bool) : List Char → Option (List Char)
  | [] => some []
  | c :: rest =>
    if isGap c then some []
    else if flow && c == ':' && rest.head?.any (fun d => isFlowSign d || d == '?') then none
    else if c == ':' && atGap rest then some []
    else if flow && isFlowSign c then some []
    else (plainWord flow rest).map (c :: ·)

/-- Read a plain scalar from its next word on; `gap` is what stands before it. -/
def plainWords (flow : Bool) (indent : Nat) :
    Nat → List Char → Gap → Cursor → Option ScalarEnd
  | 0, _, _, _ => none
  | fuel + 1, text, gap, c =>
    if c.atDocumentMarker || c.rest.head? == some '#' then some (text, gap.broken, c)
    else match plainWord flow c.rest with
      | none => none
      | some word =>
        let text := if word.isEmpty then text else text ++ gap.text ++ word
        let gap := if word.isEmpty then gap else {}
        let c := c.skip word.length
        if !(c.rest.head?.any isGap) then some (text, gap.broken, c)
        else match gap.read indent (c.rest.length + 1) c with
          | none => none
          | some (gap, c) =>
            if !flow && c.column < indent then some (text, gap.broken, c)
            else plainWords flow indent fuel text gap c

/-- Read a plain scalar. Outside brackets it goes on over lines indented by `indent` or more. -/
def plainScalar (flow : Bool) (indent : Nat) (c : Cursor) : Option ScalarEnd :=
  plainWords flow indent (c.rest.length + 1) [] {} c

/-- What a backslash and this character stand for. -/
def simpleEscape : Char → Option Char
  | '0' => some '\x00'
  | 'a' => some '\x07'
  | 'b' => some '\x08'
  | 't' | '\t' => some '\t'
  | 'n' => some '\n'
  | 'v' => some '\x0b'
  | 'f' => some '\x0c'
  | 'r' => some '\r'
  | 'e' => some '\x1b'
  | ' ' => some ' '
  | '"' => some '"'
  | '/' => some '/'
  | '\\' => some '\\'
  | 'N' => some '\u0085'
  | '_' => some '\u00a0'
  | 'L' => some '\u2028'
  | 'P' => some '\u2029'
  | _ => none

/-- How many digits the code of an escaped character has. -/
def codeLength : Char → Option Nat
  | 'x' => some 2
  | 'u' => some 4
  | 'U' => some 8
  | _ => none

/-- The character with the code that the digits spell. -/
def codedChar (digits : List Char) : Option Char :=
  let code := digits.foldl (fun n c => n.bind fun n => (hexValue c).map (16 * n + ·)) (some 0)
  code.bind fun n => if h : n.isValidChar then some ⟨UInt32.ofNatLT n (by
    rcases h with h | h <;> (change n < 4294967296; omega)), by
    simpa [UInt32.isValidChar, UInt32.toNat_ofNatLT] using h⟩ else none

/-- A word in quotes: its text, whether an escaped line break follows it, and what is left. -/
abbrev QuotedWord := List Char × Bool × List Char

/-- The word in single quotes that the text starts with; a quote in it is written twice. -/
def singleQuotedWord : List Char → QuotedWord
  | [] => ([], false, [])
  | '\'' :: '\'' :: rest =>
    let (text, br, left) := singleQuotedWord rest
    ('\'' :: text, br, left)
  | c :: rest =>
    if c == '\'' || isGap c then ([], false, c :: rest)
    else
      let (text, br, left) := singleQuotedWord rest
      (c :: text, br, left)

/-- The word in double quotes that the text starts with. -/
def doubleQuotedWord : Nat → List Char → Option QuotedWord
  | 0, _ => none
  | _ + 1, [] => some ([], false, [])
  | fuel + 1, '\\' :: c :: rest =>
    if isBreak c then some ([], true, c :: rest)
    else match simpleEscape c, codeLength c with
      | some d, _ =>
        (doubleQuotedWord fuel rest).map fun (text, br, left) => (d :: text, br, left)
      | none, some length =>
        if rest.length < length then none
        else (codedChar (rest.take length)).bind fun d =>
          (doubleQuotedWord fuel (rest.drop length)).map fun (text, br, left) =>
            (d :: text, br, left)
      | none, none => none
  | fuel + 1, c :: rest =>
    if c == '"' || isGap c then some ([], false, c :: rest)
    else if c == '\\' then none
    else (doubleQuotedWord fuel rest).map fun (text, br, left) => (c :: text, br, left)

/-- Read a quoted scalar from its next word on, behind the opening quote. -/
def quotedWords (quote : Char) : Nat → List Char → Cursor → Option (List Char × Cursor)
  | 0, _, _ => none
  | fuel + 1, text, c =>
    if c.atDocumentMarker || c.rest.isEmpty then none
    else
      let word := if quote == '"' then doubleQuotedWord (c.rest.length + 1) c.rest
        else some (singleQuotedWord c.rest)
      match word with
      | none => none
      | some (word, escapedBreak, left) =>
        let c := c.skipTo left
        let text := text ++ word
        if c.rest.head? == some quote then some (text, c.skip 1)
        else
          let c := if escapedBreak then (c.lineBreak?.map Prod.snd).getD c else c
          match Gap.read 0 (c.rest.length + 1) { broken := escapedBreak } c with
          | none => none
          | some (gap, c) => quotedWords quote fuel (text ++ gap.text) c

/-- Read a scalar in quotes. -/
def quotedScalar (quote : Char) (c : Cursor) : Option (List Char × Cursor) :=
  quotedWords quote (c.rest.length + 1) [] (c.skip 1)

/-- What becomes of the line breaks at the end of a block scalar. -/
inductive Chomping where
  | strip
  | clip
  | keep
  deriving DecidableEq

/-- Read the sign for chomping. -/
def chompingSign (c : Cursor) : Option (Chomping × Cursor) :=
  match c.rest with
  | '+' :: _ => some (.keep, c.skip 1)
  | '-' :: _ => some (.strip, c.skip 1)
  | _ => none

/-- Read the digit for the indentation, if there is one. Zero is an error. -/
def indentationDigit (c : Cursor) : Option (Nat × Cursor) :=
  match c.rest with
  | d :: _ =>
    if d == '0' then none
    else if d.isDigit then some (d.toNat - 48, c.skip 1) else some (0, c)
  | [] => some (0, c)

/-- Read the header of a block scalar, up to the end of its line. -/
def blockHeader (c : Cursor) : Option (Chomping × Nat × Cursor) :=
  match chompingSign c with
  | some (chomping, c) =>
    (indentationDigit c).map fun (indentation, c) => (chomping, indentation, c)
  | none =>
    (indentationDigit c).map fun (indentation, c) =>
      if indentation = 0 then (.clip, 0, c)
      else match chompingSign c with
        | some (chomping, c) => (chomping, indentation, c)
        | none => (.clip, indentation, c)

/-- Read empty lines and the indentation of the next line. With `indent` still 0 the deepest line
so far decides, `least` at least. The answer is the indentation, the breaks, and the place. -/
def blockBreaks (least : Nat) :
    Nat → (indent deepest : Nat) → List Char → Cursor → Option (Nat × List Char × Cursor)
  | 0, _, _, _, _ => none
  | fuel + 1, indent, deepest, breaks, c =>
    let spaces := (c.rest.takeWhile (· == ' ')).length
    let c := c.skip (if indent = 0 then spaces else min spaces (indent - c.column))
    let deepest := max deepest c.column
    if (indent = 0 || c.column < indent) && c.rest.head? == some '\t' then none
    else match c.lineBreak? with
      | some (br, c) => blockBreaks least fuel indent deepest (breaks ++ br) c
      | none => some (if indent = 0 then max deepest (max least 1) else indent, breaks, c)

/-- Read the lines of a block scalar. `lead` is the break behind the last line, `trail` holds those
of the empty lines after it, and `blank` says whether that line began with a blank. -/
def blockLines (literal : Bool) (chomping : Chomping) (indent : Nat) :
    Nat → (text lead trail : List Char) → (blank : Bool) → Cursor → Option (List Char × Cursor)
  | 0, _, _, _, _, _ => none
  | fuel + 1, text, lead, trail, blank, c =>
    if c.column = indent ∧ c.rest ≠ [] then
      let startsBlank := c.rest.head?.any isBlank
      let joined :=
        if !literal && lead == ['\n'] && !blank && !startsBlank then
          if trail.isEmpty then [' '] else []
        else lead
      let (line, next) := c.span fun d => !isBreak d
      let (lead, next) := next.lineBreak?.getD ([], next)
      match blockBreaks 0 (next.rest.length + 1) indent 0 [] next with
      | none => none
      | some (_, breaks, next) =>
        blockLines literal chomping indent fuel (text ++ joined ++ trail ++ line) lead breaks
          startsBlank next
    else
      let text := if chomping = .strip then text else text ++ lead
      some (if chomping = .keep then text ++ trail else text, c)

/-- Read a block scalar in a collection indented by `level - 1`. -/
def blockScalar (literal : Bool) (level : Nat) (c : Cursor) : Option (List Char × Cursor) :=
  match blockHeader (c.skip 1) with
  | none => none
  | some (chomping, indentation, c) =>
    let c := c.skipWhile isBlank
    let c := if c.rest.head? == some '#' then c.skipWhile fun d => !isBreak d else c
    if !(c.rest.isEmpty || c.rest.head?.any isBreak) then none
    else
      let c := (c.lineBreak?.map Prod.snd).getD c
      let indent := if indentation = 0 then 0 else level - 1 + indentation
      match blockBreaks level (c.rest.length + 1) indent 0 [] c with
      | none => none
      | some (indent, breaks, c) =>
        blockLines literal chomping indent (c.rest.length + 1) [] [] breaks false c

end Tether.Yaml
