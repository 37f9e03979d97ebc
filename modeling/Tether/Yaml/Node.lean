import Tether.Yaml.Token

/-!
From tokens to the tree of a document. An alias keeps the number of the anchored node it stands
for; the nodes themselves stand in a list beside the tree, so that a node may hold an alias to
itself.
-/

namespace Tether.Yaml

inductive Node where
  | scalar (tag : Option Tag) (style : Style) (text : List Char)
  | sequence (items : List Node)
  | mapping (entries : List (Node × Node))
  | alias (target : Nat)

/-- What is written where a node is missing. -/
def Node.empty : Node := .scalar none .plain []

structure Document where
  root : Node
  /-- Anchored nodes by number, those begun later first. Several may have one number. -/
  anchored : List (Nat × Node) := []

/-- The node itself, or the one that it is an alias of: of several, the one that was begun last. -/
def Document.resolve (d : Document) : Node → Node
  | .alias target => (d.anchored.lookup target).getD (.alias target)
  | node => node

/-- What is known while a document is read. -/
structure Context where
  tokens : List Token
  /-- Tag handles and what they stand for. -/
  handles : List (List Char × Tag) := []
  /-- The numbers that the names of anchors stand for at present. -/
  anchors : List (List Char × Nat) := []
  /-- The numbers of the anchored nodes begun so far, the latest first. -/
  begun : List Nat := []
  /-- The anchored nodes that are complete, each with the count of those begun before it. -/
  complete : List (Nat × Node) := []

namespace Context

def next? (x : Context) : Option Token := x.tokens.head?

def drop (x : Context) : Context := { x with tokens := x.tokens.tail }

/-- Name the node that comes. Its number is the count of names known so far; a name given before
is then known by its new number only. -/
def declare (name : Option (List Char)) (x : Context) : Context :=
  match name with
  | some name =>
    let number := x.anchors.length
    { x with anchors := (name, number) :: x.anchors.filter (·.1 != name)
             begun := number :: x.begun }
  | none => x

/-- The named node that was begun after so many others is complete. -/
def finish (earlier : Nat) (name : Option (List Char)) (node : Node) (x : Context) : Context :=
  if name.isSome then { x with complete := (earlier, node) :: x.complete } else x

/-- The anchored nodes by number, those begun later first. -/
def anchored (x : Context) : List (Nat × Node) :=
  x.begun.zipIdx.filterMap fun (number, later) =>
    (x.complete.lookup (x.begun.length - 1 - later)).map (number, ·)

/-- The tag that a handle and what follows it stand for. A handle has to be declared. -/
def tag? (x : Context) : Option (List Char × Tag) → Option (Option Tag)
  | none => some none
  | some ([], suffix) => some (some suffix)
  | some (handle, suffix) => (x.handles.lookup handle).map fun stem => some (stem ++ suffix)

/-- An anchor and a tag in either order, either or both of which may be missing. -/
def properties (x : Context) : Option (List Char) × Option (List Char × Tag) × Context :=
  match x.tokens with
  | .anchor name :: .tag handle suffix :: rest
  | .tag handle suffix :: .anchor name :: rest =>
    (some name, some (handle, suffix), { x with tokens := rest })
  | .anchor name :: rest => (some name, none, { x with tokens := rest })
  | .tag handle suffix :: rest => (none, some (handle, suffix), { x with tokens := rest })
  | _ => (none, none, x)

end Context

/-- Which collections may stand here: those in brackets everywhere, the block collections in the
block context, and as the value of a key also a sequence that is not indented. -/
inductive Position where
  | flow
  | block
  | blockValue
  deriving DecidableEq

/-- Tokens that a missing node may stand before. -/
def endsBlockNode : Option Token → Bool
  | some .key | some .value | some .blockEnd => true
  | _ => false

def endsEntry : Option Token → Bool
  | some .entry | some .blockEnd => true
  | _ => false

def endsBareEntry : Option Token → Bool
  | some .entry | some .key | some .value | some .blockEnd => true
  | _ => false

def endsFlowItem : Option Token → Bool
  | some .comma | some .closeBracket => true
  | _ => false

def endsFlowField : Option Token → Bool
  | some .comma | some .closeBrace => true
  | _ => false

abbrev Parse (α : Type) := Option (α × Context)

/-- A node, unless it is missing. -/
@[inline] def orEmpty (missing : Bool) (parse : Context → Parse Node) (x : Context) : Parse Node :=
  if missing then some (Node.empty, x) else parse x

mutual

/-- The node here. -/
def parseNode (fuel : Nat) (position : Position) (x : Context) : Parse Node :=
  match fuel with
  | 0 => none
  | fuel + 1 =>
    match x.tokens with
    | .alias name :: rest =>
      (x.anchors.lookup name).map fun target => (.alias target, { x with tokens := rest })
    | _ =>
      let (name, written, x) := x.properties
      match x.tag? written with
      | none => none
      | some tag =>
        let earlier := x.begun.length
        let x := x.declare name
        let missing : Parse Node :=
          if name.isNone && written.isNone then none else some (.scalar tag .plain [], x)
        let content : Parse Node := match x.next? with
          | some (.scalar style text) => some (.scalar tag style text, x.drop)
          | some .openBracket => parseItems fuel true [] x.drop
          | some .openBrace => parseFields fuel true [] x.drop
          | some .entry => if position = .blockValue then parseBareEntries fuel [] x else missing
          | some .blockSequence => if position = .flow then missing else parseEntries fuel [] x.drop
          | some .blockMapping => if position = .flow then missing else parsePairs fuel [] x.drop
          | _ => missing
        content.map fun (node, x) => (node, x.finish earlier name node)

/-- The rest of a block sequence. -/
def parseEntries (fuel : Nat) (items : List Node) (x : Context) : Parse Node :=
  match fuel with
  | 0 => none
  | fuel + 1 =>
    match x.next? with
    | some .entry =>
      let x := x.drop
      match orEmpty (endsEntry x.next?) (parseNode fuel .block) x with
      | some (item, x) => parseEntries fuel (item :: items) x
      | none => none
    | some .blockEnd => some (.sequence items.reverse, x.drop)
    | _ => none

/-- The rest of a sequence that is not indented. -/
def parseBareEntries (fuel : Nat) (items : List Node) (x : Context) : Parse Node :=
  match fuel with
  | 0 => none
  | fuel + 1 =>
    match x.next? with
    | some .entry =>
      let x := x.drop
      match orEmpty (endsBareEntry x.next?) (parseNode fuel .block) x with
      | some (item, x) => parseBareEntries fuel (item :: items) x
      | none => none
    | _ => some (.sequence items.reverse, x)

/-- The rest of a block mapping. -/
def parsePairs (fuel : Nat) (entries : List (Node × Node)) (x : Context) : Parse Node :=
  match fuel with
  | 0 => none
  | fuel + 1 =>
    match x.next? with
    | some .key =>
      let x := x.drop
      match orEmpty (endsBlockNode x.next?) (parseNode fuel .blockValue) x with
      | none => none
      | some (key, x) =>
        match x.next? with
        | some .value =>
          let x := x.drop
          match orEmpty (endsBlockNode x.next?) (parseNode fuel .blockValue) x with
          | some (value, x) => parsePairs fuel ((key, value) :: entries) x
          | none => none
        | _ => parsePairs fuel ((key, .empty) :: entries) x
    | some .blockEnd => some (.mapping entries.reverse, x.drop)
    | _ => none

/-- The rest of a sequence in brackets. A pair in it is a mapping of its own. -/
def parseItems (fuel : Nat) (first : Bool) (items : List Node) (x : Context) : Parse Node :=
  match fuel with
  | 0 => none
  | fuel + 1 =>
    if x.next? = some .closeBracket then some (.sequence items.reverse, x.drop)
    else if !first && x.next? ≠ some .comma then none
    else
      let x := if first then x else x.drop
      match x.next? with
      | some .closeBracket => some (.sequence items.reverse, x.drop)
      | some .key =>
        let x := x.drop
        let key :=
          if x.next? = some .value || endsFlowItem x.next? then some (Node.empty, x.drop)
          else parseNode fuel .flow x
        match key with
        | none => none
        | some (key, x) =>
          match x.next? with
          | some .value =>
            let x := x.drop
            match orEmpty (endsFlowItem x.next?) (parseNode fuel .flow) x with
            | some (value, x) => parseItems fuel false (.mapping [(key, value)] :: items) x
            | none => none
          | _ => parseItems fuel false (.mapping [(key, .empty)] :: items) x
      | _ =>
        match parseNode fuel .flow x with
        | some (item, x) => parseItems fuel false (item :: items) x
        | none => none

/-- The rest of a mapping in braces. -/
def parseFields (fuel : Nat) (first : Bool) (entries : List (Node × Node)) (x : Context) :
    Parse Node :=
  match fuel with
  | 0 => none
  | fuel + 1 =>
    if x.next? = some .closeBrace then some (.mapping entries.reverse, x.drop)
    else if !first && x.next? ≠ some .comma then none
    else
      let x := if first then x else x.drop
      match x.next? with
      | some .closeBrace => some (.mapping entries.reverse, x.drop)
      | some .key =>
        let x := x.drop
        match orEmpty (x.next? = some .value || endsFlowField x.next?) (parseNode fuel .flow) x with
        | none => none
        | some (key, x) =>
          match x.next? with
          | some .value =>
            let x := x.drop
            match orEmpty (endsFlowField x.next?) (parseNode fuel .flow) x with
            | some (value, x) => parseFields fuel false ((key, value) :: entries) x
            | none => none
          | _ => parseFields fuel false ((key, .empty) :: entries) x
      | _ =>
        match parseNode fuel .flow x with
        | some (key, x) => parseFields fuel false ((key, .empty) :: entries) x
        | none => none

end

/-- Read the directives before a document. A second version, a version other than 1.1 and 1.2, and
a second meaning for a handle are errors. -/
def readDirectives (versioned : Bool) (handles : List (List Char × Tag)) :
    List Token → Option (List (List Char × Tag) × List Token)
  | .version major minor :: rest =>
    if versioned || major ≠ 1 || !(minor == 1 || minor == 2) then none
    else readDirectives true handles rest
  | .tagDirective handle stem :: rest =>
    if (handles.lookup handle).isSome then none
    else readDirectives versioned ((handle, stem) :: handles) rest
  | rest => some (handles, rest)

/-- Handles that need no declaration. -/
def standardHandles : List (List Char × Tag) :=
  [(['!'], Tag.ofString "!"), (['!', '!'], Tag.ofString "tag:yaml.org,2002:")]

/-- Tokens after which a document's start is at once followed by its end. -/
def endsDocument : Option Token → Bool
  | none | some (.version ..) | some (.tagDirective ..) | some .documentStart
  | some .documentEnd => true
  | _ => false

/-- The document of a stream that holds no more than one. A stream without any token holds none. -/
def Document.ofTokens? (tokens : List Token) : Option (Option Document) :=
  if tokens.isEmpty then some none
  else (readDirectives false [] tokens).bind fun (handles, rest) =>
    let explicit := rest.head? == some .documentStart
    let directed := rest.length ≠ tokens.length
    let x : Context :=
      { tokens := if explicit then rest.tail else rest, handles := handles ++ standardHandles }
    let fuel := 2 * tokens.length + 2
    let root : Parse Node :=
      if explicit then orEmpty (endsDocument x.next?) (parseNode fuel .block) x
      else if directed then none
      else parseNode fuel .block x
    root.bind fun (root, x) =>
      if (x.tokens.dropWhile (· == .documentEnd)).isEmpty then
        some (some { root, anchored := x.anchored })
      else none

end Tether.Yaml
