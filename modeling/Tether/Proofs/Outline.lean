import Mathlib.Algebra.Order.BigOperators.Group.List
import Mathlib.Algebra.Order.Group.Nat
import Tether.Proofs.Words
import Tether.Yaml.Node

/-! Outlines: YAML texts that consist of headers, with a line for each key under them. The lexer
goes from word to word, and the depth of a line tells it which mapping the key belongs to. -/

namespace Tether.Yaml

/-- A key and the word that is its value. -/
structure Field where
  name : List Char
  value : List Char

/-- A header and the fields under it. -/
structure Block where
  name : List Char
  fields : List Field

namespace Field

def text (f : Field) : List Char := ' ' :: ' ' :: (f.name ++ ':' :: ' ' :: (f.value ++ ['\n']))

def tokens (f : Field) : List Token := [.key, .scalar .plain f.name, .value, .scalar .plain f.value]

structure WellFormed (f : Field) : Prop where
  name : IsKey f.name
  value : IsWord f.value

end Field

namespace Block

def text (b : Block) : List Char := b.name ++ ':' :: '\n' :: b.fields.flatMap Field.text

def tokens (b : Block) : List Token :=
  [.key, .scalar .plain b.name, .value, .blockMapping] ++ b.fields.flatMap Field.tokens ++
    [.blockEnd]

structure WellFormed (b : Block) : Prop where
  name : IsKey b.name
  fields : ∀ f ∈ b.fields, f.WellFormed
  ne_nil : b.fields ≠ []

end Block

variable {p : Char → Bool} {c : Char} {cs word rest lines : List Char} {k : Cursor}
  {l l' : Lexer} {column : Nat} {indents : List Nat} {tokens : List Token}

/-! ### From token to token -/

/-- The text is over, or goes on with something that is not passed over. -/
def Stays (cs : List Char) : Prop := ∀ c ∈ cs.head?, c ≠ ' ' ∧ c ≠ '\t' ∧ c ≠ '#' ∧ c ≠ '\ufeff'

theorem stays_of_word (h : StartsWord cs) : Stays cs := fun c hc =>
  ⟨ne_of_word (h c hc) rfl, ne_of_word (h c hc) rfl, ne_of_word (h c hc) rfl,
    ne_of_word (h c hc) (by decide)⟩

theorem skipWhile_append {front : List Char} (hFront : ∀ c ∈ front, p c)
    (hRest : ∀ c ∈ rest.head?, p c = false) (hk : k.rest = front ++ rest) :
    k.skipWhile p = k.skip front.length := by
  rw [Cursor.skipWhile, Cursor.span, hk, List.takeWhile_append_of_pos hFront,
    takeWhile_of_head? hRest, List.append_nil]

/-- Spaces are passed over, and nothing else in front of what stays. -/
theorem passed_blanks (blanks : Nat) (hRest : Stays rest)
    (hCursor : l.cursor.rest = List.replicate blanks ' ' ++ rest) :
    l.cursor.rest.head? ≠ some '\ufeff' ∧
      (l.cursor.skipWhile fun c => c == ' ' || ((l.inFlow || !l.keyAllowed) && c == '\t')) =
        l.cursor.skip blanks ∧
      (l.cursor.skip blanks).rest.head? ≠ some '#' := by
  refine ⟨fun hHead => ?_, ?_, fun hHead => ?_⟩
  · cases blanks with
    | zero => simpa using hRest '\ufeff' (by simpa [hCursor] using hHead)
    | succ blanks => simp [hCursor, List.replicate_succ] at hHead
  · have hStop : ∀ c ∈ rest.head?,
        (c == ' ' || ((l.inFlow || !l.keyAllowed) && c == '\t')) = false := by
      intro c hc
      simp [hRest c hc]
    simpa using skipWhile_append (by simp) hStop hCursor
  · simpa using hRest '#' (by simpa [Cursor.skip, hCursor] using hHead)

theorem skipToToken_stop (blanks : Nat) (hRest : Stays rest)
    (hCursor : l.cursor.rest = List.replicate blanks ' ' ++ rest)
    (hBreak : (l.cursor.skip blanks).lineBreak? = none) (fuel : Nat) :
    l.skipToToken (fuel + 1) = l.moveTo (l.cursor.skip blanks) := by
  obtain ⟨hMark, hSkip, hNote⟩ := passed_blanks blanks hRest hCursor
  simp only [Lexer.skipToToken, hMark, and_false, if_false, hSkip, hNote, hBreak]

theorem skipToToken_break (hRest : l.cursor.rest = '\n' :: lines) {br : List Char} {next : Cursor}
    (hBreak : l.cursor.lineBreak? = some (br, next)) (fuel : Nat) :
    l.skipToToken (fuel + 1) =
      { l with cursor := next, keyAllowed := l.keyAllowed || !l.inFlow }.skipToToken fuel := by
  have hStays : Stays ('\n' :: lines) := by
    simp [Stays]
  obtain ⟨hMark, hSkip, hNote⟩ := passed_blanks 0 hStays hRest
  rw [skip_zero] at hSkip hNote
  simp only [Lexer.skipToToken, hMark, and_false, if_false, hSkip, hNote, hBreak]

theorem skipToToken_here (hRest : Stays l.cursor.rest) (hBreak : l.cursor.lineBreak? = none)
    (fuel : Nat) : l.skipToToken (fuel + 1) = l := by
  rw [skipToToken_stop 0 hRest rfl (by rwa [skip_zero]), skip_zero]
  rfl

/-- Nothing but a plain scalar begins with a character of a word. -/
theorem fetch_word (h : isWordChar c) (hRest : l.cursor.rest = c :: rest) :
    l.fetch c rest = l.fetchPlain := by
  have hStarts : StartsWord l.cursor.rest := by
    simpa [StartsWord, hRest] using h
  simp [Lexer.fetch, atMarker_of_word hStarts, ne_of_word h, isGap_of_word h, Lexer.isSign,
    isFlowSign, isWordChar]

theorem fetch_colon (hRest : l.cursor.rest = ':' :: c :: rest) (hGap : isGap c)
    (hFlow : l.inFlow = false) : l.fetch ':' (c :: rest) = l.fetchValue := by
  simp [Lexer.fetch, Cursor.atMarker, hRest, atGap, hGap, hFlow]

theorem unroll_of_le {level : Nat} (h : ∀ indent ∈ l.indents.head?, indent < level) :
    l.unroll level = l := by
  have hUnroll : Lexer.unrollTo level l.indents l.tokens = (l.indents, l.tokens) := by
    cases hIndents : l.indents with
    | nil => rfl
    | cons indent outer => simp [Lexer.unrollTo, Nat.not_lt.mpr (h indent (by simp [hIndents]))]
  simp [Lexer.unroll, hUnroll]

theorem approach_of_skip (hSkip : l.skipToToken (l.cursor.rest.length + 1) = l')
    (hFresh : l'.forgetStale = some l') :
    l.approach = some (l'.unroll (l'.cursor.column + 1)) := by
  rw [Lexer.approach, hSkip, hFresh, Option.map_some]

theorem forgetStale_of_none (h : l.places = [none]) : l.forgetStale = some l := by
  cases l
  simp_all [Lexer.forgetStale]

namespace Lexer

/-- With `count` more tokens read, the first lexer has come to where the second is. -/
def LeadsTo (count : Nat) (l l' : Lexer) : Prop := ∀ fuel, run (fuel + count) l = run fuel l'

theorem LeadsTo.trans {first second : Nat} {l l' l'' : Lexer} (h : l.LeadsTo first l')
    (h' : l'.LeadsTo second l'') : l.LeadsTo (first + second) l'' := by
  intro fuel
  rw [Nat.add_comm first second, ← Nat.add_assoc, h, h']

theorem leadsTo_of_fetch {reached : Lexer} (hReached : l.approach = some reached)
    (hRest : reached.cursor.rest = c :: rest) (hFetch : reached.fetch c rest = some l') :
    l.LeadsTo 1 l' := by
  intro fuel
  simp [run, hReached, hRest, hFetch]

/-- On the way to the same token nothing else is left to tell two lexers apart. -/
theorem leadsTo_of_approach (h : l.approach = l'.approach) : l.LeadsTo 0 l' := by
  intro fuel
  cases fuel with
  | zero => rfl
  | succ fuel => simp [run, h]

end Lexer

/-! ### Keys and values -/

/-- The lexer where a line has its first word. -/
def lineStart (k : Cursor) (indents : List Nat) (tokens : List Token) : Lexer :=
  { cursor := k, indents, tokens }

/-- The lexer past the first word of a line, which may turn out to be a key. -/
def pastWord (k : Cursor) (word : List Char) (indents : List Nat) (tokens : List Token) : Lexer :=
  { cursor := k.skip word.length
    tokens := .scalar .plain word :: tokens
    indents
    places := [some { position := tokens.length, required := indents.head? == some k.column
                      index := k.index, line := k.line, column := k.column }]
    keyAllowed := false }

/-- The lexer behind the colon of a key. -/
def behindKey (k : Cursor) (indents : List Nat) (tokens : List Token) : Lexer :=
  { cursor := k, indents, tokens, keyAllowed := false }

/-- Columns of the mappings around a key in that column. -/
def opened (column : Nat) (indents : List Nat) : List Nat :=
  if indents.head? = some column then indents else column :: indents

/-- What stands in front of the key: the start of a mapping, if it is the first in its column. -/
def opening (column : Nat) (indents : List Nat) : List Token :=
  if indents.head? = some column then [] else [.blockMapping]

theorem opened_eq_cons (column : Nat) (indents : List Nat) :
    ∃ outer, opened column indents = column :: outer := by
  cases indents with
  | nil => exact ⟨[], rfl⟩
  | cons indent outer => by_cases h : indent = column <;> simp [opened, h]

theorem approach_lineStart (h : StartsWord k.rest) :
    (lineStart k indents tokens).approach =
      some ((lineStart k indents tokens).unroll (k.column + 1)) :=
  approach_of_skip (skipToToken_here (stays_of_word h) (lineBreak?_of_word h) _)
    (forgetStale_of_none rfl)

theorem word_leadsTo (h : IsWord word) (hGap : isGap c) (hRest : k.rest = word ++ ':' :: c :: rest)
    (hIndents : ∀ indent ∈ indents.head?, indent ≤ k.column) (tokens : List Token) :
    (lineStart k indents tokens).LeadsTo 1 (pastWord k word indents tokens) := by
  have hReached : (lineStart k indents tokens).approach = some (lineStart k indents tokens) := by
    rw [approach_lineStart (hRest ▸ startsWord_append h _), unroll_of_le]
    exact fun indent hIndent => Nat.lt_succ_of_le (hIndents indent hIndent)
  have hFetched : (lineStart k indents tokens).fetchPlain =
      some (pastWord k word indents tokens) := by
    simp [Lexer.fetchPlain, Lexer.markKey, Lexer.forgetKey, lineStart, Lexer.inFlow,
      plainScalar_key h hGap hRest, Lexer.emit, Lexer.moveTo, Lexer.allowKey, pastWord]
  obtain ⟨d, ds, rfl⟩ := List.exists_cons_of_ne_nil h.ne_nil
  apply Lexer.leadsTo_of_fetch hReached hRest
  rw [fetch_word (h.isWordChar d (by simp)) hRest, hFetched]

theorem approach_pastWord (h : IsKey word) (hRest : k.rest = word ++ ':' :: rest)
    (hIndents : ∀ indent ∈ indents.head?, indent ≤ k.column) :
    (pastWord k word indents tokens).approach = some (pastWord k word indents tokens) := by
  have hPast : (k.skip word.length).rest = ':' :: rest := skip_rest hRest
  have hIndex : (k.skip word.length).index ≤ k.index + 1024 := by
    simpa [Cursor.skip, hRest, octetCount_of_word h.isWordChar] using h.length_le
  have hSkip := skipToToken_here (l := pastWord k word indents tokens)
    (by simp [pastWord, hPast, Stays]) (by simp [pastWord, Cursor.lineBreak?, hPast, isBreak])
  have hLine : (k.skip word.length).line = k.line := rfl
  have hFresh : (pastWord k word indents tokens).forgetStale =
      some (pastWord k word indents tokens) := by
    simp [Lexer.forgetStale, Lexer.isFresh, pastWord, hIndex, hLine]
  rw [approach_of_skip (hSkip _) hFresh, unroll_of_le]
  intro indent hIndent
  have hLe := hIndents indent hIndent
  change indent < k.column + word.length + 1
  omega

theorem insertAt_length {later earlier : List Token} (h : l.tokens = later ++ earlier)
    (token : Token) :
    l.insertAt earlier.length token = { l with tokens := later ++ token :: earlier } := by
  simp [Lexer.insertAt, h]

theorem roll_of_le (later earlier : List Token) (h : l.tokens = later ++ earlier)
    (hFlow : l.inFlow = false) (hIndents : ∀ indent ∈ l.indents.head?, indent ≤ column) :
    l.roll column earlier.length .blockMapping =
      { l with indents := opened column l.indents
               tokens := later ++ (opening column l.indents ++ earlier) } := by
  have hLevel : l.level ≤ column ↔ l.indents.head? ≠ some column := by
    cases hAround : l.indents with
    | nil => simp [Lexer.level, hAround]
    | cons indent outer =>
        have hIndent := hIndents indent (by simp [hAround])
        simp only [Lexer.level, hAround, List.head?_cons, ne_eq, Option.some.injEq]
        omega
  by_cases hOpen : l.indents.head? = some column
  · simp [Lexer.roll, hLevel, hOpen, opened, opening, ← h]
  · have hInserted :=
      insertAt_length (l := { l with indents := column :: l.indents }) h .blockMapping
    simp [Lexer.roll, hFlow, hLevel, hOpen, opened, opening, hInserted]

/-- The colon puts in front of the word what shows that it is a key. -/
theorem fetchValue_pastWord (hIndents : ∀ indent ∈ indents.head?, indent ≤ k.column) :
    (pastWord k word indents tokens).fetchValue =
      some (behindKey ((k.skip word.length).skip 1) (opened k.column indents)
        (.value :: .scalar .plain word :: .key :: (opening k.column indents ++ tokens))) := by
  let past : Lexer := { pastWord k word indents tokens with places := [none] }
  have hKey : past.insertAt tokens.length .key =
      { past with tokens := [.scalar .plain word] ++ .key :: tokens } := insertAt_length rfl .key
  have hRoll := roll_of_le (l := { past with tokens := [.scalar .plain word] ++ .key :: tokens })
    [.scalar .plain word, .key] tokens rfl rfl hIndents
  calc (pastWord k word indents tokens).fetchValue
      = some (((((past.insertAt tokens.length .key).roll k.column tokens.length
          .blockMapping).emit .value).moveTo _).allowKey false) := rfl
    _ = _ := by
        rw [hKey, hRoll]
        rfl

/-- A word with a colon behind it is a key. -/
theorem key_leadsTo (h : IsKey word) (hGap : isGap c) (hRest : k.rest = word ++ ':' :: c :: rest)
    (hIndents : ∀ indent ∈ indents.head?, indent ≤ k.column) (tokens : List Token) :
    ∃ next : Cursor, next.rest = c :: rest ∧ k.column ≤ next.column ∧
      (lineStart k indents tokens).LeadsTo 2 (behindKey next (opened k.column indents)
        (.value :: .scalar .plain word :: .key :: (opening k.column indents ++ tokens))) := by
  have hPast : (pastWord k word indents tokens).cursor.rest = ':' :: c :: rest := skip_rest hRest
  have hColon : (pastWord k word indents tokens).LeadsTo 1
      (behindKey ((k.skip word.length).skip 1) (opened k.column indents)
        (.value :: .scalar .plain word :: .key :: (opening k.column indents ++ tokens))) := by
    apply Lexer.leadsTo_of_fetch (approach_pastWord h hRest hIndents) hPast
    rw [fetch_colon hPast hGap rfl, fetchValue_pastWord hIndents]
  have hWord := word_leadsTo h.toIsWord hGap hRest hIndents tokens
  refine ⟨(k.skip word.length).skip 1, ?_, ?_, hWord.trans hColon⟩
  · simp [Cursor.skip, hRest]
  · simp only [Cursor.skip]
    omega

/-- A key at the end of its line goes on with the first word of the next. -/
theorem lineEnd_leadsTo (hRest : k.rest = '\n' :: lines) (hLines : StartsWord (unindented lines))
    (indents : List Nat) (tokens : List Token) :
    ∃ index line, (behindKey k indents tokens).LeadsTo 0
      (lineStart (lineCursor lines index line) indents tokens) := by
  obtain ⟨_, index, column, line⟩ := k
  subst hRest
  obtain ⟨index', hIndented⟩ := skip_indentation lines (index + 1) (line + 1)
  let next := lineStart { rest := lines, index := index + 1, column := 0, line := line + 1 } indents
    tokens
  have hNext : next.skipToToken (lines.length + 1) =
      lineStart (lineCursor lines index' (line + 1)) indents tokens := by
    have hStop : (next.cursor.skip (indentation lines)).lineBreak? = none :=
      lineBreak?_of_word (hIndented ▸ hLines)
    rw [skipToToken_stop (indentation lines) (stays_of_word hLines)
      (replicate_append_unindented lines).symm hStop]
    exact congrArg (Lexer.moveTo · next) hIndented
  have hSkip : (behindKey { rest := '\n' :: lines, index, column, line } indents tokens).skipToToken
      (lines.length + 2) = lineStart (lineCursor lines index' (line + 1)) indents tokens := by
    rw [skipToToken_break rfl (lineBreak?_lineFeed lines index column line)]
    exact hNext
  refine ⟨index', line + 1, Lexer.leadsTo_of_approach ?_⟩
  rw [approach_lineStart hLines]
  exact approach_of_skip hSkip (forgetStale_of_none rfl)

/-- A word behind a key is its value, if no line that it could go on with is indented enough. -/
theorem value_leadsTo (h : IsWord word) (hRest : k.rest = ' ' :: (word ++ '\n' :: lines))
    (hLines : StartsWord (unindented lines)) {indent : Nat} (hIndent : indentation lines ≤ indent)
    (hColumn : indent ≤ k.column) (outer : List Nat) (tokens : List Token) :
    ∃ index line, (behindKey k (indent :: outer) tokens).LeadsTo 1
      (lineStart (lineCursor lines index line) (indent :: outer)
        (.scalar .plain word :: tokens)) := by
  have hWord : (k.skip 1).rest = word ++ '\n' :: lines :=
    skip_rest (show k.rest = [' '] ++ _ from hRest)
  have hStarts := startsWord_append h ('\n' :: lines)
  have hReached : (behindKey k (indent :: outer) tokens).approach =
      some (behindKey (k.skip 1) (indent :: outer) tokens) := by
    have hSkip := skipToToken_stop (l := behindKey k (indent :: outer) tokens) 1
      (stays_of_word hStarts) hRest (lineBreak?_of_word (by exact hWord ▸ hStarts))
    rw [approach_of_skip (hSkip _) (forgetStale_of_none rfl), unroll_of_le]
    · rfl
    · simp only [behindKey, Lexer.moveTo, Cursor.skip, List.head?_cons, Option.mem_some_iff]
      omega
  obtain ⟨index, line, hPlain⟩ :=
    plainScalar_value h hWord hLines (Nat.lt_succ_of_le hIndent)
  have hFetched : (behindKey (k.skip 1) (indent :: outer) tokens).fetchPlain =
      some (lineStart (lineCursor lines index line) (indent :: outer)
        (.scalar .plain word :: tokens)) := by
    simp [Lexer.fetchPlain, Lexer.markKey, behindKey, Lexer.inFlow, Lexer.level, hPlain, Lexer.emit,
      Lexer.moveTo, Lexer.allowKey, lineStart]
  obtain ⟨d, ds, rfl⟩ := List.exists_cons_of_ne_nil h.ne_nil
  refine ⟨index, line, Lexer.leadsTo_of_fetch hReached hWord ?_⟩
  rw [fetch_word (h.isWordChar d (by simp)) hWord, hFetched]

/-- A line that is not indented ends the mapping that is. -/
theorem dedent_leadsTo (hWord : StartsWord k.rest) {indent : Nat} (hIndent : k.column < indent)
    (outer : List Nat) (tokens : List Token) :
    (lineStart k (indent :: outer) tokens).LeadsTo 0 (lineStart k outer (.blockEnd :: tokens)) := by
  apply Lexer.leadsTo_of_approach
  rw [approach_lineStart hWord, approach_lineStart hWord]
  simp [lineStart, Lexer.unroll, Lexer.inFlow, Lexer.unrollTo, hIndent]

/-! ### Fields and blocks -/

/-- What may stand behind a field: nothing, another field or a header. -/
structure Follows (lines : List Char) : Prop where
  startsWord : StartsWord (unindented lines)
  indentation_le : indentation lines ≤ 2

variable {f : Field} {fields : List Field} {b : Block} {blocks : List Block}

theorem indentation_of_word (h : StartsWord lines) : indentation lines = 0 := by
  have hNone : lines.takeWhile (· == ' ') = [] :=
    takeWhile_of_head? fun c hc => by simp [ne_of_word (h c hc), isWordChar]
  simp [indentation, hNone]

theorem unindented_of_word (h : StartsWord lines) : unindented lines = lines := by
  simpa [indentation_of_word h] using replicate_append_unindented lines

namespace Field

theorem text_append (f : Field) (lines : List Char) :
    f.text ++ lines = ' ' :: ' ' :: (f.name ++ ':' :: ' ' :: (f.value ++ '\n' :: lines)) := by
  simp [text]

theorem startsWord_name (h : f.WellFormed) (lines : List Char) :
    StartsWord (f.name ++ ':' :: ' ' :: (f.value ++ '\n' :: lines)) :=
  startsWord_append h.name.toIsWord _

theorem indentation_text (h : f.WellFormed) (lines : List Char) :
    indentation (f.text ++ lines) = 2 := by
  have hName := indentation_of_word (startsWord_name h lines)
  simpa [indentation, text_append] using hName

theorem unindented_text (h : f.WellFormed) (lines : List Char) :
    unindented (f.text ++ lines) = f.name ++ ':' :: ' ' :: (f.value ++ '\n' :: lines) := by
  have hName := unindented_of_word (startsWord_name h lines)
  simpa [unindented, text_append] using hName

theorem follows (h : f.WellFormed) (lines : List Char) : Follows (f.text ++ lines) where
  startsWord := unindented_text h lines ▸ startsWord_name h lines
  indentation_le := (indentation_text h lines).le

/-- A line of its own gives a key and its value. -/
theorem leadsTo (h : f.WellFormed) (hLines : Follows lines)
    (hIndents : ∀ indent ∈ indents.head?, indent ≤ 2) (tokens : List Token) (index line : Nat) :
    ∃ index' line', (lineStart (lineCursor (f.text ++ lines) index line) indents tokens).LeadsTo 3
      (lineStart (lineCursor lines index' line') (opened 2 indents)
        (f.tokens.reverse ++ (opening 2 indents ++ tokens))) := by
  have hTwo : (lineCursor (f.text ++ lines) index line).column = 2 := indentation_text h lines
  obtain ⟨outer, hOuter⟩ := opened_eq_cons 2 indents
  obtain ⟨behind, hBehind, hColumn, hKey⟩ := key_leadsTo h.name (by decide)
    (unindented_text h lines) (hTwo ▸ hIndents) tokens
  rw [hTwo] at hKey hColumn
  obtain ⟨index', line', hValue⟩ := value_leadsTo h.value hBehind hLines.startsWord
    hLines.indentation_le hColumn outer
      (.value :: .scalar .plain f.name :: .key :: (opening 2 indents ++ tokens))
  rw [hOuter] at hKey ⊢
  exact ⟨index', line', hKey.trans hValue⟩

end Field

theorem follows_fields (h : ∀ f ∈ fields, f.WellFormed) (hLines : Follows lines) :
    Follows (fields.flatMap Field.text ++ lines) := by
  cases fields with
  | nil => exact hLines
  | cons f fields => simpa using Field.follows (h f (by simp)) (fields.flatMap Field.text ++ lines)

/-- Fields behind another one belong to the same mapping. -/
theorem fields_leadsTo (h : ∀ f ∈ fields, f.WellFormed) (hLines : Follows lines)
    (outer : List Nat) (tokens : List Token) (index line : Nat) :
    ∃ index' line', (lineStart (lineCursor (fields.flatMap Field.text ++ lines) index line)
      (2 :: outer) tokens).LeadsTo (3 * fields.length)
        (lineStart (lineCursor lines index' line') (2 :: outer)
          ((fields.flatMap Field.tokens).reverse ++ tokens)) := by
  induction fields generalizing index line tokens with
  | nil => exact ⟨index, line, fun fuel => rfl⟩
  | cons f fields ih =>
      have hFields : ∀ f ∈ fields, f.WellFormed := fun g hg => h g (List.mem_cons_of_mem f hg)
      have hIndents : ∀ indent ∈ (2 :: outer).head?, indent ≤ 2 := by simp
      obtain ⟨index₁, line₁, hFirst⟩ := Field.leadsTo (h f (by simp))
        (follows_fields hFields hLines) hIndents tokens index line
      obtain ⟨index₂, line₂, hRest⟩ := ih hFields (f.tokens.reverse ++ tokens) index₁ line₁
      have hBoth := hFirst.trans hRest
      refine ⟨index₂, line₂, ?_⟩
      simpa [opened, opening, Nat.mul_add, Nat.add_comm] using hBoth

/-- The first field of a header begins the mapping of all of them. -/
theorem firstField_leadsTo (h : ∀ f ∈ fields, f.WellFormed) (hNil : fields ≠ [])
    (hLines : Follows lines) (tokens : List Token) (index line : Nat) :
    ∃ index' line', (lineStart (lineCursor (fields.flatMap Field.text ++ lines) index line)
      [0] tokens).LeadsTo (3 * fields.length) (lineStart (lineCursor lines index' line') [2, 0]
        ((.blockMapping :: fields.flatMap Field.tokens).reverse ++ tokens)) := by
  obtain ⟨f, rest, rfl⟩ := List.exists_cons_of_ne_nil hNil
  have hRest : ∀ f ∈ rest, f.WellFormed := fun g hg => h g (List.mem_cons_of_mem f hg)
  have hIndents : ∀ indent ∈ [0].head?, indent ≤ 2 := by simp
  obtain ⟨index₁, line₁, hFirst⟩ := Field.leadsTo (h f (by simp)) (follows_fields hRest hLines)
    hIndents tokens index line
  obtain ⟨index₂, line₂, hFields⟩ := fields_leadsTo hRest hLines [0]
    (f.tokens.reverse ++ .blockMapping :: tokens) index₁ line₁
  have hBoth := hFirst.trans hFields
  refine ⟨index₂, line₂, ?_⟩
  simpa [opened, opening, Nat.mul_add, Nat.add_comm] using hBoth

namespace Block

theorem text_append (b : Block) (lines : List Char) :
    b.text ++ lines = b.name ++ ':' :: '\n' :: (b.fields.flatMap Field.text ++ lines) := by
  simp [text]

theorem startsWord_text (h : b.WellFormed) (lines : List Char) : StartsWord (b.text ++ lines) :=
  text_append b lines ▸ startsWord_append h.name.toIsWord _

/-- A header gives a key whose value is the mapping of the fields under it. -/
theorem leadsTo (h : b.WellFormed) (hIndents : indents = [] ∨ indents = [0])
    (hLines : StartsWord lines) (tokens : List Token) (index line : Nat) :
    ∃ index' line', (lineStart (lineCursor (b.text ++ lines) index line) indents tokens).LeadsTo
      (2 + 3 * b.fields.length) (lineStart (lineCursor lines index' line') [0]
        (b.tokens.reverse ++ (opening 0 indents ++ tokens))) := by
  have hOpened : opened 0 indents = [0] ∧ ∀ indent ∈ indents.head?, indent ≤ 0 := by
    rcases hIndents with rfl | rfl <;> simp [opened]
  have hStarts := startsWord_text h lines
  have hColumn : (lineCursor (b.text ++ lines) index line).column = 0 :=
    indentation_of_word hStarts
  have hRest : (lineCursor (b.text ++ lines) index line).rest = _ :=
    (unindented_of_word hStarts).trans (text_append b lines)
  have hFollows : Follows lines :=
    ⟨(unindented_of_word hLines).symm ▸ hLines, by simp [indentation_of_word hLines]⟩
  let header : List Token :=
    .value :: .scalar .plain b.name :: .key :: (opening 0 indents ++ tokens)
  let fields : List Token := .blockMapping :: b.fields.flatMap Field.tokens
  obtain ⟨behind, hBehind, -, hKey⟩ :=
    key_leadsTo h.name (by decide) hRest (hColumn.symm ▸ hOpened.2) tokens
  rw [hColumn, hOpened.1] at hKey
  obtain ⟨index₁, line₁, hHeader⟩ := lineEnd_leadsTo hBehind
    (follows_fields h.fields hFollows).startsWord [0] header
  obtain ⟨index₂, line₂, hFields⟩ := firstField_leadsTo h.fields h.ne_nil hFollows header index₁
    line₁
  have hLast : (lineCursor lines index₂ line₂).column < 2 := by
    simp [lineCursor, indentation_of_word hLines]
  have hEnd := dedent_leadsTo hFollows.startsWord hLast [0] (fields.reverse ++ header)
  have hAll := ((hKey.trans hHeader).trans hFields).trans hEnd
  refine ⟨index₂, line₂, ?_⟩
  simpa [Block.tokens, header, fields] using hAll

end Block

/-! ### Outlines -/

/-- The text of some blocks. -/
def outlineText (blocks : List Block) : List Char := blocks.flatMap Block.text

/-- The tokens of some blocks, in a mapping of their own. -/
def outlineTokens (blocks : List Block) : List Token :=
  .blockMapping :: blocks.flatMap Block.tokens ++ [.blockEnd]

/-- How many tokens are read from the text of some blocks. -/
def outlineCount : List Block → Nat
  | [] => 0
  | b :: blocks => 2 + 3 * b.fields.length + outlineCount blocks

theorem startsWord_outline (h : ∀ b ∈ blocks, b.WellFormed) :
    StartsWord (outlineText blocks) := by
  cases blocks with
  | nil => simp [StartsWord, outlineText]
  | cons b blocks =>
      simpa [outlineText] using Block.startsWord_text (h b (by simp)) (outlineText blocks)

theorem blocks_leadsTo (h : ∀ b ∈ blocks, b.WellFormed) (tokens : List Token) (index line : Nat) :
    ∃ index' line', (lineStart (lineCursor (outlineText blocks) index line) [0] tokens).LeadsTo
      (outlineCount blocks) (lineStart (lineCursor [] index' line') [0]
        ((blocks.flatMap Block.tokens).reverse ++ tokens)) := by
  induction blocks generalizing index line tokens with
  | nil => exact ⟨index, line, fun fuel => rfl⟩
  | cons b blocks ih =>
      have hBlocks : ∀ b ∈ blocks, b.WellFormed := fun d hd => h d (List.mem_cons_of_mem b hd)
      obtain ⟨index₁, line₁, hFirst⟩ := Block.leadsTo (h b (by simp)) (.inr rfl)
        (startsWord_outline hBlocks) tokens index line
      obtain ⟨index₂, line₂, hRest⟩ := ih hBlocks (b.tokens.reverse ++ tokens) index₁ line₁
      have hBoth := hFirst.trans hRest
      refine ⟨index₂, line₂, ?_⟩
      simpa [opening, outlineText, outlineCount] using hBoth

theorem length_fields_le (fields : List Field) :
    3 * fields.length ≤ (fields.flatMap Field.text).length := by
  induction fields with
  | nil => simp
  | cons f fields ih =>
      simp only [List.flatMap_cons, List.length_append, List.length_cons, Field.text] at ih ⊢
      omega

/-- No token is without a character of its own, so that there are enough steps for all of them. -/
theorem outlineCount_le (blocks : List Block) :
    outlineCount blocks ≤ (outlineText blocks).length := by
  induction blocks with
  | nil => simp [outlineCount]
  | cons b blocks ih =>
      have hFields := length_fields_le b.fields
      simp only [outlineCount, outlineText, List.flatMap_cons, List.length_append, Block.text,
        List.length_cons] at ih ⊢
      omega

theorem isAllowed_outline (h : ∀ b ∈ blocks, b.WellFormed) :
    (outlineText blocks).all isAllowed := by
  have hWord {word : List Char} (hWord : IsWord word) : word.all isAllowed :=
    List.all_eq_true.mpr fun c hc => isAllowed_of_word (hWord.isWordChar c hc)
  have hSigns : isAllowed ' ' ∧ isAllowed ':' ∧ isAllowed '\n' := by decide
  have hField {f : Field} (hf : f.WellFormed) : f.text.all isAllowed := by
    simp [Field.text, -List.all_eq_true, hSigns, hWord hf.name.toIsWord, hWord hf.value]
  have hBlock {b : Block} (hb : b.WellFormed) : b.text.all isAllowed := by
    have hFields : (b.fields.flatMap Field.text).all isAllowed := by
      rw [List.all_flatMap]
      exact List.all_eq_true.mpr fun f hf => hField (hb.fields f hf)
    simp [Block.text, -List.all_eq_true, hSigns, hWord hb.name.toIsWord, hFields]
  rw [outlineText, List.all_flatMap]
  exact List.all_eq_true.mpr fun b hb => hBlock (h b hb)

/-- The end of the text ends the mapping of the headers. -/
theorem run_end (hRest : k.rest = []) (fuel : Nat) (tokens : List Token) :
    Lexer.run (fuel + 1) (lineStart k [0] tokens) = some (tokens.reverse ++ [.blockEnd]) := by
  have hReached : (lineStart k [0] tokens).approach = some (lineStart k [0] tokens) := by
    rw [approach_lineStart (by simp [StartsWord, hRest]), unroll_of_le (by simp [lineStart])]
  have hFinish : (lineStart k [0] tokens).finish = some (tokens.reverse ++ [.blockEnd]) := by
    simp [Lexer.finish, lineStart, Lexer.unroll, Lexer.inFlow, Lexer.unrollTo, Lexer.forgetKey]
  have hEnd : (lineStart k [0] tokens).cursor.rest = [] := hRest
  simp [Lexer.run, hReached, hEnd, hFinish]

/-- The lexer finds in an outline what was written there. -/
theorem ofText?_outline (h : ∀ b ∈ blocks, b.WellFormed) (hNil : blocks ≠ []) :
    Token.ofText? (outlineText blocks) = some (outlineTokens blocks) := by
  have hAllowed := isAllowed_outline h
  have hStarts := startsWord_outline h
  have hStart : lineStart (lineCursor (outlineText blocks) 0 0) [] [] =
      { cursor := { rest := outlineText blocks } } := by
    simp [lineStart, lineCursor, unindented_of_word hStarts, indentation_of_word hStarts]
  obtain ⟨fuel, hFuel⟩ := Nat.exists_eq_add_of_le' (outlineCount_le blocks)
  obtain ⟨b, rest, rfl⟩ := List.exists_cons_of_ne_nil hNil
  have hRest : ∀ b ∈ rest, b.WellFormed := fun d hd => h d (List.mem_cons_of_mem b hd)
  obtain ⟨index₁, line₁, hBlock⟩ := Block.leadsTo (h b (by simp)) (.inl rfl)
    (startsWord_outline hRest) [] 0 0
  obtain ⟨index₂, line₂, hBlocks⟩ :=
    blocks_leadsTo hRest (b.tokens.reverse ++ [.blockMapping]) index₁ line₁
  have hRun := ((hBlock.trans hBlocks) (fuel + 1)).trans (run_end rfl fuel _)
  have hSteps : (outlineText (b :: rest)).length + 1 =
      fuel + 1 + (2 + 3 * b.fields.length + outlineCount rest) := by
    simp only [hFuel, outlineCount]
    omega
  rw [Token.ofText?, if_pos hAllowed, hSteps, ← hStart]
  simpa [outlineTokens, outlineText] using hRun

/-! ### The tree of an outline -/

/-- A word as a node. -/
def wordNode (word : List Char) : Node := .scalar none .plain word

def Field.entry (f : Field) : Node × Node := (wordNode f.name, wordNode f.value)

def Block.entry (b : Block) : Node × Node :=
  (wordNode b.name, .mapping (b.fields.map Field.entry))

variable {behind : List Token} {x : Context} {fuel : Nat} {entries : List (Node × Node)}

theorem parseNode_word (hTokens : x.tokens = .scalar .plain word :: behind) (fuel : Nat)
    (position : Position) :
    parseNode (fuel + 1) position x = some (wordNode word, { x with tokens := behind }) := by
  simp [parseNode, Context.properties, hTokens, Context.tag?, Context.declare, Context.next?,
    Context.drop, Context.finish, wordNode]

theorem parseNode_mapping {position : Position} (hPosition : position ≠ .flow)
    {inside : List Token} (hTokens : x.tokens = .blockMapping :: inside) {node : Node}
    (hPairs : parsePairs fuel [] { x with tokens := inside } =
      some (node, { x with tokens := behind })) :
    parseNode (fuel + 1) position x = some (node, { x with tokens := behind }) := by
  have hDrop : x.drop = { x with tokens := inside } := by
    simp [Context.drop, hTokens]
  have hProperties : x.properties = (none, none, x) := by
    simp [Context.properties, hTokens]
  rw [← hDrop] at hPairs
  rw [parseNode]
  simp [hTokens, hProperties, Context.tag?, Context.declare, Context.next?, hPosition, hPairs,
    Context.finish]

theorem parsePairs_end (hTokens : x.tokens = .blockEnd :: behind) :
    parsePairs (fuel + 1) entries x =
      some (.mapping entries.reverse, { x with tokens := behind }) := by
  simp [parsePairs, Context.next?, hTokens, Context.drop]

/-- A key and the node behind it are one entry more. -/
theorem parsePairs_entry {value : Node} {first : Token} {others : List Token}
    (hTokens : x.tokens = .key :: .scalar .plain word :: .value :: first :: others)
    (hFirst : endsBlockNode (some first) = false)
    (hValue : parseNode (fuel + 1) .blockValue { x with tokens := first :: others } =
      some (value, { x with tokens := behind })) :
    parsePairs (fuel + 2) entries x =
      parsePairs (fuel + 1) ((wordNode word, value) :: entries) { x with tokens := behind } := by
  have hKey := parseNode_word (x := x.drop) (congrArg List.tail hTokens) fuel .blockValue
  have hNext : x.next? = some .key := congrArg List.head? hTokens
  have hWord : endsBlockNode x.drop.next? = false := by
    simp [Context.drop, Context.next?, hTokens, endsBlockNode]
  simp only [parsePairs, hNext, hWord, orEmpty, hKey]
  simp [Context.next?, Context.drop, hFirst, hValue]

theorem parsePairs_fields (hTokens : x.tokens = fields.flatMap Field.tokens ++ .blockEnd :: behind)
    (hFuel : fields.length < fuel) :
    parsePairs fuel entries x =
      some (.mapping (entries.reverse ++ fields.map Field.entry), { x with tokens := behind }) := by
  induction fields generalizing x entries fuel with
  | nil =>
      obtain ⟨fuel, rfl⟩ := Nat.exists_eq_add_of_lt hFuel
      simpa using parsePairs_end hTokens
  | cons f fields ih =>
      rw [List.length_cons] at hFuel
      obtain ⟨fuel, rfl⟩ : ∃ n, fuel = n + 2 := ⟨fuel - 2, by omega⟩
      rw [parsePairs_entry hTokens rfl (parseNode_word rfl fuel .blockValue), ih rfl (by omega)]
      simp [Field.entry]

theorem parsePairs_blocks (hTokens : x.tokens = blocks.flatMap Block.tokens ++ .blockEnd :: behind)
    (hPos : 0 < fuel) (hFuel : ∀ b ∈ blocks, b.fields.length + blocks.length + 2 ≤ fuel) :
    parsePairs fuel entries x =
      some (.mapping (entries.reverse ++ blocks.map Block.entry), { x with tokens := behind }) := by
  induction blocks generalizing x entries fuel with
  | nil =>
      obtain ⟨fuel, rfl⟩ := Nat.exists_eq_add_of_lt hPos
      simpa using parsePairs_end hTokens
  | cons b blocks ih =>
      have hFirst := hFuel b (by simp)
      rw [List.length_cons] at hFuel hFirst
      obtain ⟨fuel, rfl⟩ : ∃ n, fuel = n + 2 := ⟨fuel - 2, by omega⟩
      have hRest : ∀ b ∈ blocks, b.fields.length + blocks.length + 2 ≤ fuel + 1 := by
        intro d hd
        have hOther := hFuel d (List.mem_cons_of_mem b hd)
        omega
      let others : List Token := blocks.flatMap Block.tokens ++ .blockEnd :: behind
      have hFields : parsePairs fuel []
          { x with tokens := b.fields.flatMap Field.tokens ++ .blockEnd :: others } =
            some (.mapping (b.fields.map Field.entry), { x with tokens := others }) :=
        parsePairs_fields rfl (by omega)
      have hTokens' : x.tokens = .key :: .scalar .plain b.name :: .value :: .blockMapping ::
          (b.fields.flatMap Field.tokens ++ .blockEnd :: others) := by
        simpa [Block.tokens] using hTokens
      rw [parsePairs_entry hTokens' rfl (parseNode_mapping (by decide) rfl hFields),
        ih rfl (by omega) hRest]
      simp [Block.entry]

theorem length_le_flatMap {α β : Type} {f : α → List β} (h : ∀ a, f a ≠ []) (as : List α) :
    as.length ≤ (as.flatMap f).length := by
  have hPos : ∀ n ∈ as.map fun a => (f a).length, 1 ≤ n := by
    simpa [Nat.one_le_iff_ne_zero] using fun a _ => h a
  simpa [List.length_flatMap] using List.length_le_sum_of_one_le _ hPos

theorem length_le_tokens (hb : b ∈ blocks) :
    b.fields.length + 5 ≤ (blocks.flatMap Block.tokens).length ∧
      blocks.length ≤ (blocks.flatMap Block.tokens).length := by
  have hFields := length_le_flatMap (f := Field.tokens) (by simp [Field.tokens]) b.fields
  have hBlock : b.tokens.length ≤ (blocks.flatMap Block.tokens).length := by
    rw [List.length_flatMap]
    exact List.single_le_sum (fun n _ => Nat.zero_le n) _ (List.mem_map_of_mem hb)
  refine ⟨le_trans ?_ hBlock, length_le_flatMap (by simp [Block.tokens]) blocks⟩
  simp only [Block.tokens, List.length_append, List.length_cons, List.length_nil]
  omega

/-- The tree of an outline has its headers and fields as they were written. -/
theorem ofTokens?_outline (blocks : List Block) :
    Document.ofTokens? (outlineTokens blocks) =
      some (some { root := .mapping (blocks.map Block.entry) }) := by
  have hPairs : parsePairs (2 * (outlineTokens blocks).length + 1) []
      { tokens := blocks.flatMap Block.tokens ++ [.blockEnd], handles := standardHandles } =
        some (.mapping (blocks.map Block.entry), { tokens := [], handles := standardHandles }) := by
    rw [parsePairs_blocks rfl (by omega)]
    · rfl
    · intro b hb
      have hLength := length_le_tokens hb
      simp only [outlineTokens, List.cons_append, List.length_cons, List.length_append]
      omega
  have hRoot := parseNode_mapping
    (x := { tokens := outlineTokens blocks, handles := standardHandles })
    (show Position.block ≠ .flow by decide) rfl hPairs
  have hOpen : readDirectives false [] (outlineTokens blocks) =
      some ([], outlineTokens blocks) := rfl
  have hHead : (outlineTokens blocks).head? = some .blockMapping := rfl
  have hEmpty : (outlineTokens blocks).isEmpty = false := rfl
  simp [Document.ofTokens?, hOpen, hHead, hEmpty, hRoot, Context.anchored]

end Tether.Yaml
