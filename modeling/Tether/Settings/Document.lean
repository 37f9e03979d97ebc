import Tether.Settings.Basic
import Tether.Settings.Error
import Tether.Yaml.Lexer
import Tether.Yaml.Node

/-!
Settings from a YAML document. The document is a mapping of sections, and a section a mapping of
settings; whatever is left out keeps its default. Keys that mean nothing here are passed over, but
a section or setting that is given twice is an error. A count is a plain scalar: decimal, or with a
lower-case prefix hexadecimal, octal or binary, behind an optional plus sign.
-/

namespace Tether.Settings

open Yaml

/-- The number that digits in this base spell. -/
def digitsIn (base : Nat) (cs : List Char) : Option Nat :=
  if cs.isEmpty then none
  else cs.foldl (fun n c => n.bind fun n =>
    (hexValue c).bind fun d => if d < base then some (base * n + d) else none) (some 0)

/-- Digits behind a zero are no decimal number. -/
def hasSpareZero : List Char → Bool
  | '0' :: d :: rest => (d :: rest).all Char.isDigit
  | _ => false

/-- The count that a plain scalar stands for. -/
def countOf (cs : List Char) : Option Nat :=
  let cs := Text.dropPlus cs
  match cs with
  | '0' :: 'x' :: rest => digitsIn 16 rest
  | '0' :: 'o' :: rest => digitsIn 8 rest
  | '0' :: 'b' :: rest => digitsIn 2 rest
  | _ => if hasSpareZero cs then none else digitsIn 10 cs

def switchOf (cs : List Char) : Option Bool :=
  if cs ∈ ["true".toList, "True".toList, "TRUE".toList] then some true
  else if cs ∈ ["false".toList, "False".toList, "FALSE".toList] then some false
  else none

/-- Scalars are read by their text if they are plain, whatever their tag. A literal block is read
if its tag says what it is. -/
def readable (standardTag : String) (tag : Option Tag) (style : Style) : Bool :=
  style == .plain || (style == .literal && tag == some (Tag.ofString standardTag))

def countOfNode (largest : Nat) : Node → Option Nat
  | .scalar tag style text =>
    if readable "tag:yaml.org,2002:int" tag style then (countOf text).filter (· ≤ largest)
    else none
  | _ => none

def switchOfNode : Node → Option Bool
  | .scalar tag style text =>
    if readable "tag:yaml.org,2002:bool" tag style then switchOf text else none
  | _ => none

/-- The value of a setting that a node stands for. -/
def valueOfNode (node : Node) : (setting : Setting) → Option setting.Value
  | .lingerSecs => countOfNode Text.max64 node
  | .initialRetries => countOfNode Text.max32 node
  | .initialGraceMs => countOfNode Text.max64 node
  | .subsequentRetries => countOfNode Text.max32 node
  | .subsequentGraceMs => countOfNode Text.max64 node
  | .connectTimeoutMs => countOfNode Text.max64 node
  | .keepalive => switchOfNode node

/-- The fields of a mapping. A missing node has none; keys have to be scalars. -/
def fieldsOf (d : Document) (node : Node) : Option (List (List Char × Node)) :=
  match d.resolve node with
  | .mapping entries => entries.mapM fun (key, value) =>
    match d.resolve key with
    | .scalar _ _ text => some (text, value)
    | _ => none
  | .scalar _ .plain [] => some []
  | _ => none

/-- Go on with the field of that name, if there is one. Two of them are an error. -/
def withField {α : Type} (name : String) (fields : List (List Char × Node))
    (absent : α) (f : Node → Option α) : Option α :=
  match fields.filter fun field => field.1 == name.toList with
  | [] => some absent
  | [field] => f field.2
  | _ => none

/-- Take over the settings of a section. -/
def readSection (d : Document) (sec : Section) (node : Node) (s : Settings) : Option Settings :=
  (fieldsOf d node).bind fun fields =>
    sec.settings.foldlM (fun s setting =>
      withField setting.name fields s fun value =>
        (valueOfNode (d.resolve value) setting).map (s.set setting)) s

/-- Take over the settings of a document. -/
def readDocument (d : Document) : Option Settings :=
  (fieldsOf d d.root).bind fun fields =>
    Section.all.foldlM (fun s sec =>
      withField sec.name fields s fun node => readSection d sec node s) {}

/-- The settings that a text gives, usable or not. A text without a document gives the defaults. -/
def read? (text : String) : Option Settings :=
  ((Token.ofText? text.toList).bind Document.ofTokens?).bind fun d =>
    match d with
    | none => some {}
    | some d => readDocument d

/-- Load settings from the text of a file. -/
def ofText (text : String) : Except SettingsError Settings :=
  match read? text with
  | none => .error .malformed
  | some s =>
    match s.complaint? with
    | some complaint => .error (.unusable complaint)
    | none => .ok s

end Tether.Settings
