import Mathlib.Data.List.Forall2
import Tether.Command.Report
import Tether.Proofs.Numerals

/-! What a printed report says. A JSON text is read by the grammar of JSON, which knows nothing of
indentation, and a line by its words and columns; neither mentions how a report is printed. -/

namespace Tether

namespace Json

/-! ### Reading JSON -/

/-- The letters that stand for a character after a backslash. -/
def shortcuts : List (Char × Char) :=
  [('"', '"'), ('\\', '\\'), ('/', '/'), ('b', Char.ofNat 8), ('f', Char.ofNat 12), ('n', '\n'),
    ('r', '\r'), ('t', '\t')]

def hexDigits : List Char :=
  ['0', '1', '2', '3', '4', '5', '6', '7', '8', '9', 'a', 'b', 'c', 'd', 'e', 'f']

/-- The number that hexadecimal digits spell. -/
def hexValue (digits : List Char) : Nat :=
  digits.foldl (fun value digit => 16 * value +
    (if digit.isDigit then digit.toNat - '0'.toNat else digit.toNat - 'a'.toNat + 10)) 0

/-- What may stand for a character inside a quoted text: itself, unless it is a control character or
has a meaning there, a shortcut, or its number. -/
inductive StandsFor : List Char → Char → Prop where
  | itself {c : Char} (printable : 32 ≤ c.toNat) (noQuote : c ≠ '"') (noBackslash : c ≠ '\\') :
      StandsFor [c] c
  | shortcut {letter c : Char} (listed : (letter, c) ∈ shortcuts) : StandsFor ['\\', letter] c
  | number {digits : List Char} {c : Char} (length : digits.length = 4)
      (isDigit : ∀ digit ∈ digits, digit ∈ hexDigits) (value : hexValue digits = c.toNat) :
      StandsFor ('\\' :: 'u' :: digits) c

/-- The text is `s` in quotes, one character after another. -/
def Quotes (t s : String) : Prop :=
  ∃ letters : List (List Char), List.Forall₂ StandsFor letters s.toList ∧
    t.toList = '"' :: (letters.flatten ++ ['"'])

/-- Nothing but what may stand between any two signs of a JSON text. -/
def IsBlank (t : String) : Prop := ∀ c ∈ t.toList, c = ' ' ∨ c = '\n' ∨ c = '\r' ∨ c = '\t'

mutual

/-- The text is JSON for the value. -/
inductive Spells : String → Json → Prop where
  | spaced {before t after : String} {x : Json} (beforehand : IsBlank before) (spells : Spells t x)
      (afterwards : IsBlank after) : Spells (before ++ t ++ after) x
  | text {t s : String} (quotes : Quotes t s) : Spells t (.text s)
  | number {t : String} {n : Nat} (digits : Text.Spells t.toList n) : Spells t (.number n)
  | on : Spells "true" (.switch true)
  | off : Spells "false" (.switch false)
  | noItems : Spells "[]" (.items [])
  | items {t : String} {xs : List Json} (items : SpellsItems t xs) :
      Spells ("[" ++ t ++ "]") (.items xs)
  | noFields : Spells "\x7b\x7d" (.fields [])
  | fields {t : String} {xs : List (String × Json)} (fields : SpellsFields t xs) :
      Spells ("\x7b" ++ t ++ "\x7d") (.fields xs)

/-- The text is JSON for one value or more, with commas in between. -/
inductive SpellsItems : String → List Json → Prop where
  | last {t : String} {x : Json} (item : Spells t x) : SpellsItems t [x]
  | cons {t rest : String} {x : Json} {xs : List Json} (item : Spells t x)
      (others : SpellsItems rest xs) : SpellsItems (t ++ "," ++ rest) (x :: xs)

/-- The text is JSON for one field or more, with commas in between. -/
inductive SpellsFields : String → List (String × Json) → Prop where
  | last {before quoted t name : String} {x : Json} (beforehand : IsBlank before)
      (quotes : Quotes quoted name) (value : Spells t x) :
      SpellsFields (before ++ quoted ++ ":" ++ t) [(name, x)]
  | cons {before quoted t rest name : String} {x : Json} {xs : List (String × Json)}
      (beforehand : IsBlank before) (quotes : Quotes quoted name) (value : Spells t x)
      (others : SpellsFields rest xs) :
      SpellsFields (before ++ quoted ++ ":" ++ t ++ "," ++ rest) ((name, x) :: xs)

end

/-! ### Printed values are read as what they are -/

theorem hex_spec : ∀ n < 32, (hex n).length = 4 ∧ (hex n).all hexDigits.contains = true ∧
    hexValue (hex n) = n := by
  decide +kernel

theorem escape_standsFor (c : Char) : StandsFor (escape c) c := by
  have hOfNat {n : Nat} (h : c.toNat = n) : c = Char.ofNat n := by rw [← h, Char.ofNat_toNat]
  unfold escape
  split_ifs with hSign hLine hReturn hTab hBack hFeed hControl
  · rcases hSign with rfl | rfl <;> exact .shortcut (by decide)
  · exact hLine ▸ .shortcut (by decide)
  · exact hReturn ▸ .shortcut (by decide)
  · exact hTab ▸ .shortcut (by decide)
  · exact hOfNat hBack ▸ .shortcut (by decide)
  · exact hOfNat hFeed ▸ .shortcut (by decide)
  · obtain ⟨hLength, hDigits, hValue⟩ := hex_spec c.toNat hControl
    have hEach := List.all_eq_true.mp hDigits
    exact .number hLength (fun digit hDigit => by simpa using hEach digit hDigit) hValue
  · exact .itself (Nat.le_of_not_lt hControl) (hSign ∘ .inl) (hSign ∘ .inr)

theorem quote_quotes (s : String) : Quotes (quote s) s := by
  refine ⟨s.toList.map escape, ?_, by simp [quote, List.flatMap]⟩
  rw [List.forall₂_map_left_iff]
  exact List.forall₂_same.mpr fun c _ => escape_standsFor c

theorem indentation_isBlank (depth : Nat) : IsBlank (indentation depth) := by
  intro c hc
  rw [indentation, String.toList_ofList] at hc
  exact .inl (List.eq_of_mem_replicate hc)

theorem newline_isBlank {t : String} (h : IsBlank t) : IsBlank ("\n" ++ t) := by
  intro c hc
  rw [String.toList_append, List.mem_append] at hc
  rcases hc with hc | hc
  · exact .inr (.inl (List.mem_singleton.mp hc))
  · exact h c hc

theorem empty_isBlank : IsBlank "" := nofun

/-- Lines as they stand in a block, behind its opening sign. -/
def inner (depth : Nat) (lines : List String) : String :=
  "\n" ++ ",\n".intercalate (lines.map fun line => indentation (depth + 1) ++ line) ++
    ("\n" ++ indentation depth)

theorem block_cons (opening closing : String) (depth : Nat) (line : String) (lines : List String) :
    block opening closing depth (line :: lines) =
      opening ++ inner depth (line :: lines) ++ closing := by
  simp [block, inner, String.append_assoc]

theorem inner_singleton (depth : Nat) (line : String) :
    inner depth [line] = "\n" ++ indentation (depth + 1) ++ line ++ ("\n" ++ indentation depth) := by
  simp [inner, String.append_assoc]

theorem inner_cons_cons (depth : Nat) (line next : String) (lines : List String) :
    inner depth (line :: next :: lines) =
      "\n" ++ indentation (depth + 1) ++ line ++ "," ++ inner depth (next :: lines) := by
  have hComma : ",\n" = "," ++ "\n" := rfl
  simp only [inner, List.map_cons, String.intercalate_cons_cons, String.append_assoc, hComma]

/-- Lines that are JSON for the items are, one below another, JSON for their list. -/
theorem inner_spellsItems {depth : Nat} {x : Json} {xs : List Json}
    (h : ∀ y ∈ x :: xs, Spells (y.print (depth + 1)) y) :
    SpellsItems (inner depth (print.printItems (depth + 1) (x :: xs))) (x :: xs) := by
  have hBefore := newline_isBlank (indentation_isBlank (depth + 1))
  have hItem := h x List.mem_cons_self
  induction xs generalizing x with
  | nil =>
      simp only [print.printItems, inner_singleton]
      exact .last (.spaced hBefore hItem (newline_isBlank (indentation_isBlank depth)))
  | cons next rest ih =>
      have hRest := ih (fun y hy => h y (List.mem_cons_of_mem _ hy)) (h next (by simp))
      have hSpaced := Spells.spaced hBefore hItem empty_isBlank
      rw [String.append_empty] at hSpaced
      simp only [print.printItems, inner_cons_cons] at hRest ⊢
      exact .cons hSpaced hRest

/-- Lines with a name and JSON for its value are, one below another, JSON for the fields. -/
theorem inner_spellsFields {depth : Nat} {name : String} {x : Json} {xs : List (String × Json)}
    (h : ∀ field ∈ (name, x) :: xs, Spells (field.2.print (depth + 1)) field.2) :
    SpellsFields (inner depth (print.printFields (depth + 1) ((name, x) :: xs)))
      ((name, x) :: xs) := by
  have hBefore := newline_isBlank (indentation_isBlank (depth + 1))
  have hSpace : IsBlank " " := fun c hc => .inl (List.mem_singleton.mp hc)
  have hValue : Spells (x.print (depth + 1)) x := h (name, x) List.mem_cons_self
  have hColon : ": " = ":" ++ " " := rfl
  induction xs generalizing name x with
  | nil =>
      have hLast := SpellsFields.last hBefore (quote_quotes name)
        (.spaced hSpace hValue (newline_isBlank (indentation_isBlank depth)))
      simpa only [print.printFields, inner_singleton, hColon, String.append_assoc] using hLast
  | cons next rest ih =>
      obtain ⟨name', y⟩ := next
      have hRest := ih (fun field hField => h field (List.mem_cons_of_mem _ hField))
        (h (name', y) (by simp))
      have hCons := SpellsFields.cons hBefore (quote_quotes name)
        (.spaced hSpace hValue empty_isBlank) hRest
      simpa only [print.printFields, inner_cons_cons, hColon, String.append_assoc,
        String.append_empty] using hCons

mutual

theorem print_spells : ∀ (x : Json) (depth : Nat), Spells (x.print depth) x
  | .text s, _ => .text (quote_quotes s)
  | .number n, _ => .number (by
      rw [print, Nat.toString_eq_ofList_toDigits, String.toList_ofList]
      exact Text.spells_toDigits n)
  | .switch true, _ => .on
  | .switch false, _ => .off
  | .items [], _ => .noItems
  | .items (x :: xs), depth => by
      rw [print, print.printItems, block_cons, ← print.printItems]
      exact .items (inner_spellsItems fun y hy => items_spell (x :: xs) y hy (depth + 1))
  | .fields [], _ => .noFields
  | .fields ((name, x) :: xs), depth => by
      rw [print, print.printFields, block_cons, ← print.printFields]
      exact .fields (inner_spellsFields fun field hField =>
        fields_spell ((name, x) :: xs) field hField (depth + 1))

theorem items_spell : ∀ (xs : List Json), ∀ x ∈ xs, ∀ depth, Spells (x.print depth) x
  | x :: xs, y, hy, depth => by
      rcases List.mem_cons.mp hy with hFirst | hy
      · exact hFirst ▸ print_spells x depth
      · exact items_spell xs y hy depth

theorem fields_spell : ∀ (xs : List (String × Json)), ∀ field ∈ xs, ∀ depth,
    Spells (field.2.print depth) field.2
  | (name, x) :: xs, field, hField, depth => by
      rcases List.mem_cons.mp hField with hFirst | hField
      · exact hFirst ▸ print_spells x depth
      · exact fields_spell xs field hField depth

end

/-- A value is printed in a line as JSON for it. -/
theorem line_spells (x : Json) : Spells x.line x := by
  have hLine := Spells.spaced empty_isBlank (print_spells x 0) (newline_isBlank empty_isBlank)
  rwa [String.empty_append, String.append_empty] at hLine

end Json

/-! ### Reports -/

namespace Statistics

/-- The numbers by the names that they have in lines. -/
def inBrief (s : Statistics) : List (String × Nat) :=
  [("created", s.counters.created), ("reused", s.counters.reused), ("failed", s.counters.failed),
    ("evicted", s.counters.evicted), ("invalidated", s.counters.invalidated), ("live", s.live),
    ("borrows", s.outstanding)]

/-- The numbers by the names that they have in JSON. -/
def inFull (s : Statistics) : List (String × Nat) :=
  [("total_created", s.counters.created), ("total_reused", s.counters.reused),
    ("failed_attempts", s.counters.failed), ("evicted_idle", s.counters.evicted),
    ("invalidated", s.counters.invalidated), ("live_handles", s.live),
    ("outstanding_borrows", s.outstanding)]

theorem json_eq (s : Statistics) :
    s.json = .fields (s.inFull.map fun entry => (entry.1, .number entry.2)) := rfl

/-- The line of the pool has each number after its name. -/
def Told (s : Statistics) (line : String) : Prop :=
  line = "pool:" ++ String.join (s.inBrief.map fun entry =>
    " " ++ entry.1 ++ "=" ++ toString entry.2) ++ "\n"

theorem line_told (s : Statistics) : s.Told s.line := by
  have hPool (rest : String) : "pool:" ++ (" created=" ++ rest) = "pool: created=" ++ rest := by
    rw [← String.append_assoc]
    rfl
  unfold Told line
  -- The words are put together before the brackets are moved.
  simp only [inBrief, List.map_cons, List.map_nil, String.reduceAppend]
  simp only [String.join_cons, String.join_nil, String.append_assoc, String.append_empty, hPool]

end Statistics

namespace ProbeOutcome

/-- Blanks that fill the column of a text, unless the text does. -/
structure Fills (width : Nat) (s blanks : String) : Prop where
  blank : ∀ c ∈ blanks.toList, c = ' '
  length : s.length + blanks.length = max width s.length

/-- The line says whether there is a connection, of which endpoint, after how long, and which peer or
which error there is. A peer that is not known is a dash. -/
inductive Told (o : ProbeOutcome) : String → Prop where
  | connected {peer : Option String} {right left : String} (result : o.result = .ok peer)
      (endpoint : Fills 30 o.endpoint right) (latency : Fills 6 (toString o.latencyMs) left) :
      Told o ("OK    " ++ o.endpoint ++ right ++ " " ++ left ++ toString o.latencyMs ++
        "ms  peer=" ++ peer.getD "-" ++ "\n")
  | failed {error : PoolError} {right left : String} (result : o.result = .error error)
      (endpoint : Fills 30 o.endpoint right) (latency : Fills 6 (toString o.latencyMs) left) :
      Told o ("FAIL  " ++ o.endpoint ++ right ++ " " ++ left ++ toString o.latencyMs ++
        "ms  " ++ error.message ++ "\n")

/-- The entry has the endpoint, whether there is a connection, and after how long; and then the peer,
if there is one and it is known, or the error, and never both. -/
inductive Entered (o : ProbeOutcome) : Json → Prop where
  | connected {peer : String} (result : o.result = .ok (some peer)) :
      Entered o (.fields [("endpoint", .text o.endpoint), ("connected", .switch true),
        ("latency_ms", .number o.latencyMs), ("peer", .text peer)])
  | nameless (result : o.result = .ok none) :
      Entered o (.fields [("endpoint", .text o.endpoint), ("connected", .switch true),
        ("latency_ms", .number o.latencyMs)])
  | failed {error : PoolError} (result : o.result = .error error) :
      Entered o (.fields [("endpoint", .text o.endpoint), ("connected", .switch false),
        ("latency_ms", .number o.latencyMs), ("error", .text error.message)])

theorem fills_replicate (width : Nat) (s : String) :
    Fills width s (String.ofList (List.replicate (width - s.length) ' ')) := by
  refine ⟨fun c hc => ?_, ?_⟩
  · rw [String.toList_ofList] at hc
    exact List.eq_of_mem_replicate hc
  · rw [String.length_ofList, List.length_replicate]
    omega

theorem line_told (o : ProbeOutcome) : o.Told o.line := by
  have hEndpoint := fills_replicate 30 o.endpoint
  have hLatency := fills_replicate 6 (toString o.latencyMs)
  cases hResult : o.result with
  | ok peer =>
      have hTold := Told.connected hResult hEndpoint hLatency
      simpa [line, hResult, columns, padRight, padLeft, String.append_assoc] using hTold
  | error error =>
      have hTold := Told.failed hResult hEndpoint hLatency
      simpa [line, hResult, columns, padRight, padLeft, String.append_assoc] using hTold

theorem json_entered (o : ProbeOutcome) : o.Entered o.json := by
  cases hResult : o.result with
  | ok peer =>
      cases peer with
      | some peer => simpa [json, connected, hResult] using Entered.connected hResult
      | none => simpa [json, connected, hResult] using Entered.nameless hResult
  | error error => simpa [json, connected, hResult] using Entered.failed hResult

end ProbeOutcome

namespace ProbeReport

/-- What a report says in a format: every outcome once, in their order, and then the numbers of the
pool. -/
inductive Printed (r : ProbeReport) : OutputFormat → String → Prop where
  | text {lines : List String} {summary : String}
      (outcomes : List.Forall₂ ProbeOutcome.Told r.outcomes lines)
      (statistics : r.statistics.Told summary) : Printed r .text (String.join lines ++ summary)
  | json {entries : List Json} {document : String}
      (outcomes : List.Forall₂ ProbeOutcome.Entered r.outcomes entries)
      (spells : Json.Spells document (.fields [("outcomes", .items entries),
        ("stats", .fields (r.statistics.inFull.map fun entry =>
          (entry.1, .number entry.2)))])) : Printed r .json document

theorem print_printed (r : ProbeReport) (format : OutputFormat) :
    r.Printed format (r.print format) := by
  cases format with
  | text =>
      have hTold : List.Forall₂ ProbeOutcome.Told r.outcomes (r.outcomes.map ProbeOutcome.line) :=
        List.forall₂_map_right_iff.mpr (List.forall₂_same.mpr fun o _ => o.line_told)
      exact .text hTold r.statistics.line_told
  | json =>
      have hEntered : List.Forall₂ ProbeOutcome.Entered r.outcomes
          (r.outcomes.map ProbeOutcome.json) :=
        List.forall₂_map_right_iff.mpr (List.forall₂_same.mpr fun o _ => o.json_entered)
      have hDocument := Json.line_spells (.fields
        [("outcomes", .items (r.outcomes.map ProbeOutcome.json)), ("stats", r.statistics.json)])
      rw [Statistics.json_eq] at hDocument
      rw [print, Statistics.json_eq]
      exact .json hEntered hDocument

end ProbeReport

end Tether
