import Tether.Endpoint
import Tether.Proofs.Numerals

/-! Which texts are endpoints, and what is wrong with the others. The host and the port of a text
with a colon are told by its last colon alone, so that a text is an endpoint in one way at most. -/

namespace Tether

/-- The message tells which flaw was found. -/
theorem EndpointError.message_injective (text : String) :
    (EndpointError.message text).Injective := by
  intro error other h
  cases error <;> cases other <;> first
    | rfl
    | exact absurd ((String.append_left_inj (Text.quoted text)).mp h) (by decide)

namespace Endpoint

variable {cs host port before behind : List Char}

/-- The port is what stands behind the last colon. The host is what stands before it, without the
opening brackets in front and then without the closing brackets at the end. -/
def Splits (cs host port : List Char) : Prop :=
  ∃ before, cs = before ++ ':' :: port ∧ ':' ∉ port ∧
    Text.Stripped (· == '[') (· == ']') before host

/-- What is wrong with a text; of two things the one that is found first. -/
inductive Flawed (cs : List Char) : EndpointError → Prop where
  | missingPort (colon : ':' ∉ cs) : Flawed cs .missingPort
  | missingHost (port : List Char) (splits : Splits cs [] port) : Flawed cs .missingHost
  | invalidPort (host port : List Char) (splits : Splits cs host port) (hHost : host ≠ [])
      (hPort : ∀ n, ¬Text.IsNumeral Text.max16 port n) : Flawed cs .invalidPort

theorem splitLast_eq_none_iff : splitLast cs = none ↔ ':' ∉ cs := by
  induction cs with
  | nil => simp [splitLast]
  | cons c rest ih =>
      cases hRest : splitLast rest with
      | none =>
          by_cases hColon : c = ':'
          · simp [splitLast, hRest, hColon]
          · simpa [splitLast, hRest, hColon, Ne.symm hColon] using ih.mp hRest
      | some parts =>
          have hMem : ':' ∈ rest := by
            simpa [hRest] using ih
          simp [splitLast, hRest, hMem]

theorem eq_of_splitLast (h : splitLast cs = some (before, behind)) :
    cs = before ++ ':' :: behind ∧ ':' ∉ behind := by
  induction cs generalizing before with
  | nil => simp [splitLast] at h
  | cons c rest ih =>
      cases hRest : splitLast rest with
      | none =>
          by_cases hColon : c = ':'
          · simp only [splitLast, hRest, hColon, ↓reduceIte, Option.some.injEq, Prod.mk.injEq] at h
            obtain ⟨rfl, rfl⟩ := h
            exact ⟨by simp [hColon], splitLast_eq_none_iff.mp hRest⟩
          · simp [splitLast, hRest, hColon] at h
      | some parts =>
          obtain ⟨front, back⟩ := parts
          simp only [splitLast, hRest, Option.some.injEq, Prod.mk.injEq] at h
          obtain ⟨rfl, rfl⟩ := h
          obtain ⟨rfl, hBehind⟩ := ih hRest
          exact ⟨rfl, hBehind⟩

theorem splitLast_append (before : List Char) (h : ':' ∉ behind) :
    splitLast (before ++ ':' :: behind) = some (before, behind) := by
  induction before with
  | nil => simp [splitLast, splitLast_eq_none_iff.mpr h]
  | cons c before ih => simp [splitLast, ih]

/-- An endpoint splits at a colon behind which there is no other. -/
theorem splitLast_eq_some_iff :
    splitLast cs = some (before, behind) ↔ cs = before ++ ':' :: behind ∧ ':' ∉ behind := by
  constructor
  · exact eq_of_splitLast
  · rintro ⟨rfl, h⟩
    exact splitLast_append before h

/-- The host is what is left between the brackets, however many there are on either side. -/
theorem stripBrackets_eq_iff :
    stripBrackets before = host ↔ Text.Stripped (· == '[') (· == ']') before host :=
  Text.strip_eq_iff

/-- A text with a colon has one host and one port, either of which may be empty. -/
theorem splits_iff :
    Splits cs host port ↔ ∃ before, splitLast cs = some (before, port) ∧
      stripBrackets before = host := by
  simp only [Splits, splitLast_eq_some_iff, stripBrackets_eq_iff, and_assoc]

theorem splits_or_missing (cs : List Char) :
    ':' ∉ cs ∨ ∃ host port, Splits cs host port := by
  cases hSplit : splitLast cs with
  | none => exact .inl (splitLast_eq_none_iff.mp hSplit)
  | some parts => exact .inr ⟨_, _, splits_iff.mpr ⟨parts.1, hSplit, rfl⟩⟩

/-- With host and port known, reading comes to this. -/
theorem Splits.read_eq (h : Splits cs host port) :
    read cs = if host = [] then .error .missingHost
      else match Text.numeral Text.max16 port with
        | none => .error .invalidPort
        | some n => .ok { host, port := n } := by
  obtain ⟨before, hSplit, rfl⟩ := splits_iff.mp h
  cases hPort : Text.numeral Text.max16 port <;> simp [read, hSplit, List.isEmpty_iff, hPort]

/-- An endpoint is read exactly where it splits into a host that is not empty and a numeral for the
port. -/
theorem read_eq_ok_iff {endpoint : Endpoint} :
    read cs = .ok endpoint ↔ ∃ port, Splits cs endpoint.host port ∧ endpoint.host ≠ [] ∧
      Text.IsNumeral Text.max16 port endpoint.port := by
  constructor
  · intro h
    rcases splits_or_missing cs with hColon | ⟨host, port, hSplits⟩
    · simp [read, splitLast_eq_none_iff.mpr hColon] at h
    · rw [hSplits.read_eq] at h
      split at h
      · cases h
      · next hHost =>
          split at h
          · cases h
          · next n hNumeral =>
              cases h
              exact ⟨port, hSplits, hHost, Text.numeral_eq_some_iff.mp hNumeral⟩
  · rintro ⟨port, hSplits, hHost, hNumeral⟩
    simp [hSplits.read_eq, hHost, Text.numeral_eq_some_iff.mpr hNumeral]

theorem numeral_eq_none_iff {largest : Nat} :
    Text.numeral largest cs = none ↔ ∀ n, ¬Text.IsNumeral largest cs n := by
  simp [Option.eq_none_iff_forall_ne_some, Text.numeral_eq_some_iff]

/-- The reader finds the first flaw of those the endpoint has, in the order in which it looks. -/
theorem read_eq_error_iff {error : EndpointError} : read cs = .error error ↔ Flawed cs error := by
  constructor
  · intro h
    rcases splits_or_missing cs with hColon | ⟨host, port, hSplits⟩
    · simp only [read, splitLast_eq_none_iff.mpr hColon, Except.error.injEq] at h
      exact h ▸ .missingPort hColon
    · rw [hSplits.read_eq] at h
      split at h
      · next hHost =>
          cases h
          exact .missingHost port (hHost ▸ hSplits)
      · next hHost =>
          split at h
          · next hNone =>
              cases h
              exact .invalidPort host port hSplits hHost (numeral_eq_none_iff.mp hNone)
          · cases h
  · intro h
    cases h with
    | missingPort hColon => simp [read, splitLast_eq_none_iff.mpr hColon]
    | missingHost port hSplits => simp [hSplits.read_eq]
    | invalidPort host port hSplits hHost hPort =>
        simp [hSplits.read_eq, hHost, numeral_eq_none_iff.mpr hPort]

theorem ofText_eq (text : String) :
    ofText text = (read text.toList).mapError fun error => .resolve (error.message text) := by
  unfold ofText
  cases read text.toList <;> rfl

/-- A text is an endpoint exactly when it has a colon, a host before the last one and a numeral of a
port behind it. Every other text cannot be resolved, and the message says which of the three is
missing; a text without a host is not looked at further. -/
theorem ofText_exact (text : String) :
    (∀ endpoint, ofText text = .ok endpoint ↔
      ∃ port, Splits text.toList endpoint.host port ∧ endpoint.host ≠ [] ∧
        Text.IsNumeral Text.max16 port endpoint.port) ∧
    (∀ flaw, ofText text = .error (.resolve (flaw.message text)) ↔ Flawed text.toList flaw) ∧
    ∀ error, ofText text = .error error → ∃ flaw : EndpointError,
      error = .resolve (flaw.message text) := by
  rw [ofText_eq]
  refine ⟨fun endpoint => ?_, fun flaw => ?_, fun error h => ?_⟩
  · rw [← read_eq_ok_iff]
    cases read text.toList <;> simp [Except.mapError]
  · rw [← read_eq_error_iff]
    cases read text.toList with
    | ok endpoint => simp [Except.mapError]
    | error found =>
        simp [Except.mapError, (EndpointError.message_injective text).eq_iff]
  · cases hRead : read text.toList with
    | ok endpoint => simp [hRead, Except.mapError] at h
    | error found =>
        simp only [hRead, Except.mapError, Except.error.injEq] at h
        exact ⟨found, h.symm⟩

example : read "[[fe80::1]:+0080".toList = .ok { host := "fe80::1".toList, port := 80 } := by decide

end Endpoint

end Tether
