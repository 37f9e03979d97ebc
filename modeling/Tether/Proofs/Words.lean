import Mathlib.Data.List.TakeWhile
import Tether.Yaml.Lexer

/-! Words in a YAML text: letters, digits and underscores. No sign of the language is among them, so
that a word is always a plain scalar, and it ends where the next character is not one of its own. -/

namespace Tether.Yaml

/-- Letters, digits and the underscore. -/
def isWordChar (c : Char) : Bool := c.isAlphanum || c == '_'

/-- A text of such characters. -/
structure IsWord (cs : List Char) : Prop where
  ne_nil : cs ≠ []
  isWordChar : ∀ c ∈ cs, isWordChar c

/-- A word that is short enough for a key. -/
structure IsKey (cs : List Char) : Prop extends IsWord cs where
  length_le : cs.length ≤ 1024

instance (cs : List Char) : Decidable (IsWord cs) :=
  decidable_of_iff (cs ≠ [] ∧ cs.all isWordChar)
    ⟨fun h => ⟨h.1, List.all_eq_true.mp h.2⟩, fun h => ⟨h.ne_nil, List.all_eq_true.mpr h.isWordChar⟩⟩

instance (cs : List Char) : Decidable (IsKey cs) :=
  decidable_of_iff (IsWord cs ∧ cs.length ≤ 1024)
    ⟨fun h => ⟨h.1, h.2⟩, fun h => ⟨h.toIsWord, h.length_le⟩⟩

/-- The text is over, or goes on with a word. -/
def StartsWord (cs : List Char) : Prop := ∀ c ∈ cs.head?, isWordChar c

variable {p : Char → Bool} {c : Char} {cs rest word : List Char} {k : Cursor}

/-! ### Characters of words -/

/-- Tells a character of a word from any other. -/
theorem ne_of_word (h : isWordChar c) {d : Char} (hd : isWordChar d = false) : c ≠ d := by
  rintro rfl
  simp [h] at hd

theorem toNat_of_word (h : isWordChar c) : 48 ≤ c.toNat ∧ c.toNat ≤ 122 := by
  delta isWordChar Char.isAlphanum Char.isAlpha Char.isUpper Char.isLower Char.isDigit at h
  simp only [Bool.or_eq_true, Bool.and_eq_true, decide_eq_true_eq, UInt32.le_iff_toNat_le,
    ge_iff_le, beq_iff_eq] at h
  change ((65 ≤ c.toNat ∧ c.toNat ≤ 90 ∨ 97 ≤ c.toNat ∧ c.toNat ≤ 122) ∨
    48 ≤ c.toNat ∧ c.toNat ≤ 57) ∨ c = '_' at h
  rcases h with h | rfl
  · omega
  · decide

/-- A word does not end at a character of its own. -/
theorem isGap_of_word (h : isWordChar c) : isGap c = false := by
  simp [isGap, isBlank, isBreak, ne_of_word h, isWordChar]

theorem isAllowed_of_word (h : isWordChar c) : isAllowed c := by
  have hRange := toNat_of_word h
  simp only [isAllowed, Bool.or_eq_true, Bool.and_eq_true, decide_eq_true_eq]
  omega

theorem utf8Size_of_word (h : isWordChar c) : c.utf8Size = 1 := by
  have hRange := toNat_of_word h
  have hVal : c.val.toNat = c.toNat := rfl
  simp only [Char.utf8Size, UInt32.le_iff_toNat_le, UInt32.toNat_ofNatLT]
  rw [if_pos (by omega)]

/-- A word has one octet for each of its characters, so that positions within it can be counted in
either. -/
theorem octetCount_of_word (h : ∀ c ∈ word, isWordChar c) : octetCount word = word.length := by
  induction word with
  | nil => rfl
  | cons c word ih =>
      have hRest := ih fun d hd => h d (List.mem_cons_of_mem c hd)
      simp only [octetCount] at hRest
      simp only [octetCount, List.foldr_cons, hRest, utf8Size_of_word (h c (by simp)),
        List.length_cons]
      omega

/-! ### Where a word ends -/

/-- A colon ends a word before a gap, and so does the end of the line. -/
def EndsWord (rest : List Char) : Prop :=
  (∃ c behind, rest = ':' :: c :: behind ∧ isGap c) ∨ ∃ behind, rest = '\n' :: behind

theorem plainWord_of_end (h : EndsWord rest) : plainWord false rest = some [] := by
  rcases h with ⟨c, behind, rfl, hGap⟩ | ⟨behind, rfl⟩
  · simp [plainWord, atGap, hGap]
  · simp [plainWord, isGap, isBreak]

/-- A plain scalar takes the whole word, and nothing that comes after its end. -/
theorem plainWord_append (h : ∀ c ∈ word, isWordChar c) (hEnd : EndsWord rest) :
    plainWord false (word ++ rest) = some word := by
  induction word with
  | nil => exact plainWord_of_end hEnd
  | cons c word ih =>
      have hc := h c (by simp)
      have hRest := ih fun d hd => h d (List.mem_cons_of_mem c hd)
      simp [plainWord, isGap_of_word hc, ne_of_word hc, isWordChar, hRest]

/-! ### Places where a word begins -/

theorem startsWord_append (h : IsWord word) (rest : List Char) : StartsWord (word ++ rest) := by
  obtain ⟨c, cs, rfl⟩ := List.exists_cons_of_ne_nil h.ne_nil
  simpa [StartsWord] using h.isWordChar c

theorem head?_ne_of_word (h : StartsWord cs) {d : Char} (hd : isWordChar d = false) :
    cs.head? ≠ some d := by
  intro hHead
  simpa [hd] using h d hHead

/-- No sign of the language stands where a word starts. -/
theorem atMarker_of_word (h : StartsWord k.rest) {d : Char} (hd : isWordChar d = false) :
    k.atMarker d = false := by
  cases hRest : k.rest with
  | nil => simp [Cursor.atMarker, hRest]
  | cons c cs => simp [Cursor.atMarker, hRest, ne_of_word (h c (by simp [hRest])) hd]

/-- Neither a document nor a scalar ends where a word begins. -/
theorem not_atEnd_of_word (h : StartsWord k.rest) :
    (k.atDocumentMarker || k.rest.head? == some '#') = false := by
  have hDash := atMarker_of_word h (d := '-') (by decide)
  have hDot := atMarker_of_word h (d := '.') (by decide)
  have hNote := head?_ne_of_word h (d := '#') (by decide)
  simp [Cursor.atDocumentMarker, hDash, hDot, hNote]

theorem lineBreak?_of_word (h : StartsWord k.rest) : k.lineBreak? = none := by
  unfold Cursor.lineBreak?
  split
  · next hRest => simpa [isWordChar] using h '\r' (by simp [hRest])
  · next c cs _ hRest =>
      have hc := h c (by simp [hRest])
      simp [ne_of_word hc, isWordChar, isBreak]
  · rfl

theorem skip_zero (k : Cursor) : k.skip 0 = k := by
  simp [Cursor.skip, octetCount]

theorem takeWhile_of_head? (h : ∀ c ∈ cs.head?, p c = false) : cs.takeWhile p = [] := by
  cases cs with
  | nil => rfl
  | cons c cs => simp [h c rfl]

/-! ### Lines -/

/-- The number of spaces that lines begin with. -/
def indentation (lines : List Char) : Nat := (lines.takeWhile (· == ' ')).length

/-- Lines without the spaces that they begin with. -/
def unindented (lines : List Char) : List Char := lines.dropWhile (· == ' ')

/-- A cursor at the first word of the lines that are left. -/
def lineCursor (lines : List Char) (index line : Nat) : Cursor :=
  { rest := unindented lines, index, column := indentation lines, line }

variable {lines : List Char}

theorem replicate_append_unindented (lines : List Char) :
    List.replicate (indentation lines) ' ' ++ unindented lines = lines := by
  have hSpaces : lines.takeWhile (· == ' ') = List.replicate (indentation lines) ' ' :=
    List.eq_replicate_iff.mpr ⟨rfl, fun c hc => by simpa using List.mem_takeWhile_imp hc⟩
  rw [← hSpaces, unindented, List.takeWhile_append_dropWhile]

/-- No other blank than a space stands before the first word. -/
theorem takeWhile_isBlank (h : StartsWord (unindented lines)) :
    lines.takeWhile isBlank = List.replicate (indentation lines) ' ' := by
  have hSpaces : ∀ c ∈ List.replicate (indentation lines) ' ', isBlank c := by
    simp [isBlank]
  have hWord : (unindented lines).takeWhile isBlank = [] := by
    apply takeWhile_of_head?
    intro c hc
    simp [isBlank, ne_of_word (h c hc), isWordChar]
  calc lines.takeWhile isBlank
      = (List.replicate (indentation lines) ' ' ++ unindented lines).takeWhile isBlank := by
        rw [replicate_append_unindented]
    _ = List.replicate (indentation lines) ' ' := by
        rw [List.takeWhile_append_of_pos hSpaces, hWord, List.append_nil]

/-- The blanks in front of a line are passed over, which leads to its first character. -/
theorem skip_indentation (lines : List Char) (index line : Nat) :
    ∃ index', Cursor.skip (indentation lines) { rest := lines, index, column := 0, line } =
      lineCursor lines index' line := by
  have hDrop : (List.replicate (indentation lines) ' ' ++ unindented lines).drop
      (indentation lines) = unindented lines := List.drop_left' (by simp)
  rw [replicate_append_unindented] at hDrop
  refine ⟨index + octetCount (lines.take (indentation lines)), ?_⟩
  simp [Cursor.skip, lineCursor, hDrop]

theorem lineBreak?_lineFeed (lines : List Char) (index column line : Nat) :
    Cursor.lineBreak? { rest := '\n' :: lines, index, column, line } =
      some (['\n'], { rest := lines, index := index + 1, column := 0, line := line + 1 }) := by
  simp [Cursor.lineBreak?, Cursor.newLine, Cursor.skipTo, Cursor.skip, octetCount]
  rfl

/-- The gap behind the last word of a line goes on to the first word of the next. -/
theorem read_gap (hRest : k.rest = '\n' :: lines) (h : StartsWord (unindented lines))
    (indent fuel : Nat) :
    ∃ gap index line, Gap.read indent (fuel + 2) {} k = some (gap, lineCursor lines index line) ∧
      gap.broken = true := by
  obtain ⟨_, index, column, line⟩ := k
  subst hRest
  obtain ⟨index', hSkip⟩ := skip_indentation lines (index + 1) (line + 1)
  have hFirst : Cursor.span isBlank { rest := '\n' :: lines, index, column, line } =
      ([], { rest := '\n' :: lines, index, column, line }) := by
    simp [Cursor.span, isBlank, skip_zero]
  have hSecond : Cursor.span isBlank
      { rest := lines, index := index + 1, column := 0, line := line + 1 } =
        (List.replicate (indentation lines) ' ', lineCursor lines index' (line + 1)) := by
    simp [Cursor.span, takeWhile_isBlank h, hSkip]
  have hEnd : (lineCursor lines index' (line + 1)).lineBreak? = none := lineBreak?_of_word h
  refine ⟨{ broken := true, firstBreak := ['\n'] }, index', line + 1, ?_, rfl⟩
  simp [Gap.read, hFirst, lineBreak?_lineFeed, Gap.addBreak, hSecond, hEnd]

/-! ### Words as plain scalars -/

theorem skip_rest {front : List Char} (hRest : k.rest = front ++ rest) :
    (k.skip front.length).rest = rest := by
  simp [Cursor.skip, hRest]

/-- A word with a colon and a gap behind it is scanned up to the colon. -/
theorem plainScalar_key (h : IsWord word) (hGap : isGap c)
    (hRest : k.rest = word ++ ':' :: c :: rest) (indent : Nat) :
    plainScalar false indent k = some (word, false, k.skip word.length) := by
  have hWord : plainWord false k.rest = some word :=
    hRest ▸ plainWord_append h.isWordChar (.inl ⟨c, rest, rfl, hGap⟩)
  have hStarts := not_atEnd_of_word (hRest ▸ startsWord_append h _)
  simp only [plainScalar, plainWords, hStarts, hWord]
  simp [h.ne_nil, skip_rest hRest, Gap.text, isGap, isBlank, isBreak]

/-- A word at the end of a line is scanned together with the break and the indentation of the next
line. -/
theorem plainScalar_value (h : IsWord word) (hRest : k.rest = word ++ '\n' :: lines)
    (hLines : StartsWord (unindented lines)) {indent : Nat} (hIndent : indentation lines < indent) :
    ∃ index line, plainScalar false indent k = some (word, true, lineCursor lines index line) := by
  have hWord : plainWord false k.rest = some word :=
    hRest ▸ plainWord_append h.isWordChar (.inr ⟨lines, rfl⟩)
  have hStarts := not_atEnd_of_word (hRest ▸ startsWord_append h _)
  obtain ⟨gap, index, line, hRead, hBroken⟩ :=
    read_gap (skip_rest hRest) hLines indent lines.length
  have hColumn : (lineCursor lines index line).column < indent := hIndent
  refine ⟨index, line, ?_⟩
  simp only [plainScalar, plainWords, hStarts, hWord]
  simp [h.ne_nil, skip_rest hRest, Gap.text, isGap, isBreak, hRead, hColumn, hBroken]

end Tether.Yaml
