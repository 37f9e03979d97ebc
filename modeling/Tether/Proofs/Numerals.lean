import Mathlib.Data.List.DropRight
import Tether.Text.Blank
import Tether.Text.Numeral

/-! Numerals, and texts with something taken off their ends, as relations between what is written and
what it comes to. A number has many numerals, and its printed digits are one of them. -/

namespace Tether.Text

/-! ### Ends taken off -/

/-- What is left of a text when all that is of one kind is taken off its front, and then all that is of
another kind off its back. -/
def Stripped (front back : Char → Bool) (cs core : List Char) : Prop :=
  ∃ before behind, cs = before ++ core ++ behind ∧ (∀ c ∈ before, front c) ∧ (∀ c ∈ behind, back c) ∧
    (∀ c ∈ core.head?, front c = false) ∧ ∀ c ∈ core.getLast?, back c = false

theorem head?_dropWhile (p : Char → Bool) (cs : List Char) :
    ∀ c ∈ (cs.dropWhile p).head?, p c = false := by
  intro c hc
  have hNot := List.head?_dropWhile_not p cs
  rwa [Option.mem_def.mp hc] at hNot

theorem dropWhile_of_head? {p : Char → Bool} {cs : List Char} (h : ∀ c ∈ cs.head?, p c = false) :
    cs.dropWhile p = cs := by
  cases cs with
  | nil => rfl
  | cons c cs => simp [h c rfl]

theorem rdropWhile_append_of_pos {p : Char → Bool} {cs behind : List Char} (h : ∀ c ∈ behind, p c) :
    (cs ++ behind).rdropWhile p = cs.rdropWhile p := by
  simp only [List.rdropWhile, List.reverse_append]
  rw [List.dropWhile_append_of_pos (by simpa using h)]

theorem rdropWhile_of_getLast? {p : Char → Bool} {cs : List Char}
    (h : ∀ c ∈ cs.getLast?, p c = false) : cs.rdropWhile p = cs := by
  rw [List.rdropWhile, dropWhile_of_head? (by simpa using h), List.reverse_reverse]

/-- Whatever is stripped from both ends leaves a core that begins and ends with other characters. -/
theorem stripped_strip (front back : Char → Bool) (cs : List Char) :
    Stripped front back cs ((cs.dropWhile front).rdropWhile back) := by
  have hBack : (cs.dropWhile front).rdropWhile back ++ (cs.dropWhile front).rtakeWhile back =
      cs.dropWhile front := List.rdropWhile_append_rtakeWhile
  refine ⟨cs.takeWhile front, (cs.dropWhile front).rtakeWhile back, ?_,
    fun c => List.mem_takeWhile_imp, ?_, ?_, ?_⟩
  · rw [List.append_assoc, hBack, List.takeWhile_append_dropWhile]
  · intro c hc
    exact List.mem_takeWhile_imp (List.mem_reverse.mp hc)
  -- what is left begins as it did before its back was taken off
  · intro c hc
    apply head?_dropWhile front cs
    rw [← hBack, List.head?_append, Option.mem_def.mp hc]
    rfl
  · intro c hc
    rw [List.rdropWhile, List.getLast?_reverse] at hc
    exact head?_dropWhile back _ c hc

/-- There is only one such core. -/
theorem strip_of_stripped {front back : Char → Bool} {cs core : List Char}
    (h : Stripped front back cs core) : (cs.dropWhile front).rdropWhile back = core := by
  obtain ⟨before, behind, rfl, hBefore, hBehind, hHead, hLast⟩ := h
  rw [List.append_assoc, List.dropWhile_append_of_pos hBefore]
  cases core with
  -- nothing is left, and it does not matter from which end the rest was taken
  | nil =>
      rw [List.nil_append, List.rdropWhile_eq_nil_iff]
      exact fun c hc => hBehind c (List.dropWhile_subset _ hc)
  | cons c core =>
      rw [dropWhile_of_head? (by simpa using hHead), rdropWhile_append_of_pos hBehind,
        rdropWhile_of_getLast? hLast]

theorem strip_eq_iff {front back : Char → Bool} {cs core : List Char} :
    (cs.dropWhile front).rdropWhile back = core ↔ Stripped front back cs core :=
  ⟨fun h => h ▸ stripped_strip front back cs, strip_of_stripped⟩

/-- Nothing but the blanks at the two ends is trimmed. -/
theorem trim_eq_iff {cs core : List Char} : trim cs = core ↔ Stripped isBlank isBlank cs core :=
  strip_eq_iff

/-! ### Numerals -/

/-- One or more digits, and the number that they spell. Leading zeros do not count. -/
@[mk_iff]
structure Spells (digits : List Char) (n : Nat) : Prop where
  ne_nil : digits ≠ []
  isDigit : ∀ c ∈ digits, c.isDigit
  value : Nat.ofDigitChars 10 digits 0 = n

/-- Digits, with or without a plus sign in front, that spell a number in range. -/
def IsNumeral (largest : Nat) (cs : List Char) (n : Nat) : Prop :=
  ∃ digits, (cs = digits ∨ cs = '+' :: digits) ∧ Spells digits n ∧ n ≤ largest

theorem digitsFrom_eq_some_iff {cs : List Char} {value n : Nat} :
    digitsFrom value cs = some n ↔ (∀ c ∈ cs, c.isDigit) ∧ Nat.ofDigitChars 10 cs value = n := by
  induction cs generalizing value with
  | nil => simp [digitsFrom]
  | cons c cs ih =>
      by_cases hDigit : c.isDigit = true
      · simp [digitsFrom, hDigit, ih, Nat.ofDigitChars_cons]
      · simp [digitsFrom, hDigit]

/-- Digits have a value where there is at least one and there are only digits. -/
theorem digitsValue_eq_some_iff {cs : List Char} {n : Nat} :
    digitsValue cs = some n ↔ Spells cs n := by
  cases cs with
  | nil => simp [digitsValue, spells_iff]
  | cons c cs => simp [digitsValue, digitsFrom_eq_some_iff, spells_iff]

/-- No digits begin with a plus sign, so that it is clear what stands behind it. -/
theorem spells_dropPlus_iff {cs : List Char} {n : Nat} :
    Spells (dropPlus cs) n ↔ ∃ digits, (cs = digits ∨ cs = '+' :: digits) ∧ Spells digits n := by
  constructor
  · intro h
    unfold dropPlus at h
    split at h
    · exact ⟨_, .inr rfl, h⟩
    · exact ⟨_, .inl rfl, h⟩
  · rintro ⟨digits, rfl | rfl, h⟩
    · have hFirst : ∀ rest, cs ≠ '+' :: rest := by
        rintro rest rfl
        simpa using h.isDigit '+' (by simp)
      rwa [dropPlus.eq_2 _ hFirst]
    · exact h

/-- A numeral may have a plus in front, and its value must not be too large. -/
theorem numeral_eq_some_iff {largest n : Nat} {cs : List Char} :
    numeral largest cs = some n ↔ IsNumeral largest cs n := by
  simp only [numeral, Option.filter_eq_some_iff, digitsValue_eq_some_iff, spells_dropPlus_iff,
    decide_eq_true_eq, IsNumeral]
  grind

/-- The digits of a number spell it. -/
theorem spells_toDigits (n : Nat) : Spells (Nat.toDigits 10 n) n :=
  ⟨Nat.toDigits_ne_nil, fun _ hc => Nat.isDigit_of_mem_toDigits (by omega) (by omega) hc,
    Nat.ofDigitChars_ten_toDigits⟩

end Tether.Text
