/-!
Tokens of a YAML stream. What indentation means is already in them: it has become the starts and
ends of block collections.
-/

namespace Tether.Yaml

/-- How a scalar was written. -/
inductive Style where
  | plain
  | singleQuoted
  | doubleQuoted
  | literal
  | folded
  deriving Repr, DecidableEq

/-- A tag, or a part of one: octets, which need not be the UTF-8 form of a text. -/
abbrev Tag := List UInt8

def Tag.ofString (s : String) : Tag := s.toUTF8.toList

inductive Token where
  | version (major minor : Nat)
  | tagDirective (handle : List Char) (stem : Tag)
  | documentStart
  | documentEnd
  | blockSequence
  | blockMapping
  | blockEnd
  | openBracket
  | closeBracket
  | openBrace
  | closeBrace
  | entry
  | comma
  | key
  | value
  | alias (name : List Char)
  | anchor (name : List Char)
  | tag (handle : List Char) (suffix : Tag)
  | scalar (style : Style) (text : List Char)
  deriving Repr, DecidableEq

end Tether.Yaml
