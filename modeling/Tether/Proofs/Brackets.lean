import Tether.Proofs.Objections

/-! Which brackets an endpoint may have around its host. Any number of opening ones may stand before
it and any number of closing ones behind it, so that different texts are read alike. -/

namespace Tether.Endpoint

variable {cs before host port : List Char} {opened closed : Nat}

/-- The host stands behind so many opening and before so many closing brackets, and the port behind
the last colon. The host may have colons, and brackets inside. -/
structure Encloses (cs : List Char) (opened : Nat) (host : List Char) (closed : Nat)
    (port : List Char) : Prop where
  text : cs = List.replicate opened '[' ++ host ++ List.replicate closed ']' ++ ':' :: port
  port : ':' ∉ port
  ne_nil : host ≠ []
  head : host.head? ≠ some '['
  last : host.getLast? ≠ some ']'

/-- What stands before the last colon can be read in one way: as a host without brackets and colons,
or as one without brackets inside a pair of them. -/
inductive Unmistakable (before : List Char) : Prop where
  | bare (opening : '[' ∉ before) (closing : ']' ∉ before) (colon : ':' ∉ before)
  | bracketed (host : List Char) (eq : before = '[' :: host ++ [']']) (opening : '[' ∉ host)
      (closing : ']' ∉ host)

theorem stripped_brackets_iff :
    Text.Stripped (· == '[') (· == ']') before host ↔
      ∃ opened closed, before = List.replicate opened '[' ++ host ++ List.replicate closed ']' ∧
        host.head? ≠ some '[' ∧ host.getLast? ≠ some ']' := by
  constructor
  · rintro ⟨front, back, rfl, hFront, hBack, hHead, hLast⟩
    have hOpened : front = List.replicate front.length '[' :=
      List.eq_replicate_iff.mpr ⟨rfl, by simpa using hFront⟩
    have hClosed : back = List.replicate back.length ']' :=
      List.eq_replicate_iff.mpr ⟨rfl, by simpa using hBack⟩
    refine ⟨front.length, back.length, by rw [← hOpened, ← hClosed], fun h => ?_, fun h => ?_⟩
    · simpa using hHead '[' h
    · simpa using hLast ']' h
  · rintro ⟨opened, closed, rfl, hHead, hLast⟩
    refine ⟨_, _, rfl, by simp, by simp, fun c hc => ?_, fun c hc => ?_⟩
    · simpa using fun h : c = '[' => hHead (h ▸ hc)
    · simpa using fun h : c = ']' => hLast (h ▸ hc)

theorem splits_brackets_iff (hHost : host ≠ []) :
    Splits cs host port ↔ ∃ opened closed, Encloses cs opened host closed port := by
  simp only [Splits, stripped_brackets_iff]
  constructor
  · rintro ⟨_, rfl, hPort, opened, closed, rfl, hHead, hLast⟩
    exact ⟨opened, closed, rfl, hPort, hHost, hHead, hLast⟩
  · rintro ⟨opened, closed, hEncloses⟩
    exact ⟨_, hEncloses.text, hEncloses.port, opened, closed, rfl, hEncloses.head, hEncloses.last⟩

theorem ofText_eq_ok_iff {text : String} {endpoint : Endpoint} :
    ofText text = .ok endpoint ↔ ∃ opened closed port,
      Encloses text.toList opened endpoint.host closed port ∧
        Text.IsNumeral Text.max16 port endpoint.port := by
  have hRead : ofText text = .ok endpoint ↔ read text.toList = .ok endpoint := by
    unfold ofText
    cases read text.toList <;> simp
  rw [hRead, read_eq_ok_iff]
  constructor
  · rintro ⟨port, hSplits, hHost, hPort⟩
    obtain ⟨opened, closed, hEncloses⟩ := (splits_brackets_iff hHost).mp hSplits
    exact ⟨opened, closed, port, hEncloses, hPort⟩
  · rintro ⟨opened, closed, port, hEncloses, hPort⟩
    exact ⟨port, (splits_brackets_iff hEncloses.ne_nil).mpr ⟨opened, closed, hEncloses⟩,
      hEncloses.ne_nil, hPort⟩

theorem Encloses.before_eq (h : Encloses cs opened host closed port)
    {behind : List Char} (hText : cs = before ++ ':' :: behind) (hBehind : ':' ∉ behind) :
    before = List.replicate opened '[' ++ host ++ List.replicate closed ']' := by
  have hSplit := splitLast_eq_some_iff.mpr ⟨h.text, h.port⟩
  rw [splitLast_eq_some_iff.mpr ⟨hText, hBehind⟩] at hSplit
  cases hSplit
  rfl

/-- One pair of brackets around a host that begins with none and ends with none. -/
theorem bracketed_iff (hHost : host ≠ []) (hHead : host.head? ≠ some '[')
    (hLast : host.getLast? ≠ some ']') {inner : List Char} :
    List.replicate opened '[' ++ host ++ List.replicate closed ']' = '[' :: inner ++ [']'] ↔
      ∃ n m, opened = n + 1 ∧ closed = m + 1 ∧
        inner = List.replicate n '[' ++ host ++ List.replicate m ']' := by
  constructor
  · intro h
    cases opened with
    | zero =>
        have hFirst := congrArg List.head? h
        simp only [List.replicate_zero, List.nil_append, List.head?_append_of_ne_nil _ hHost,
          List.cons_append, List.head?_cons] at hFirst
        exact absurd hFirst hHead
    | succ n =>
        cases closed with
        | zero =>
            have hFinal := congrArg List.getLast? h
            rw [List.getLast?_concat] at hFinal
            simp only [List.replicate_zero, List.append_nil,
              List.getLast?_append_of_ne_nil _ hHost] at hFinal
            exact absurd hFinal hLast
        | succ m =>
            rw [List.replicate_succ, List.replicate_succ'] at h
            simp only [List.cons_append, ← List.append_assoc, List.cons.injEq, true_and,
              List.append_cancel_right_eq] at h
            exact ⟨n, m, rfl, rfl, h.symm⟩
  · rintro ⟨n, m, rfl, rfl, rfl⟩
    rw [List.replicate_succ, List.replicate_succ']
    simp

theorem unmistakable_iff (hHost : host ≠ []) (hHead : host.head? ≠ some '[')
    (hLast : host.getLast? ≠ some ']') :
    Unmistakable (List.replicate opened '[' ++ host ++ List.replicate closed ']') ↔
      '[' ∉ host ∧ ']' ∉ host ∧
        (opened = 0 ∧ closed = 0 ∧ ':' ∉ host ∨ opened = 1 ∧ closed = 1) := by
  constructor
  · intro h
    cases h with
    | bare opening closing colon =>
        simp only [List.mem_append, List.mem_replicate, not_or] at opening closing colon
        have hOpened : opened = 0 := by simpa using opening.1.1
        have hClosed : closed = 0 := by simpa using closing.2
        exact ⟨opening.1.2, closing.1.2, Or.inl ⟨hOpened, hClosed, colon.1.2⟩⟩
    | bracketed inner eq opening closing =>
        obtain ⟨n, m, rfl, rfl, rfl⟩ := (bracketed_iff hHost hHead hLast).mp eq
        simp only [List.mem_append, List.mem_replicate, not_or] at opening closing
        have hOpened : n = 0 := by simpa using opening.1.1
        have hClosed : m = 0 := by simpa using closing.2
        exact ⟨opening.1.2, closing.1.2, Or.inr ⟨by rw [hOpened], by rw [hClosed]⟩⟩
  · rintro ⟨hOpening, hClosing, ⟨rfl, rfl, hColon⟩ | ⟨rfl, rfl⟩⟩
    · exact .bare (by simpa) (by simpa) (by simpa)
    · exact .bracketed host rfl hOpening hClosing

/-- A text is an endpoint exactly if it has a host, in any number of brackets on either side of it,
and a port; of arguments the same is accepted, with blanks around it. What stands before the last
colon is unmistakable exactly if the host has no brackets inside, and stands in one pair of brackets,
or in none and without colons. -/
theorem brackets_uncounted (text : String) :
    (∀ endpoint, ofText text = .ok endpoint ↔ ∃ opened closed port,
      Encloses text.toList opened endpoint.host closed port ∧
        Text.IsNumeral Text.max16 port endpoint.port) ∧
    (complaint? text = none ↔ ∃ opened host closed port n,
      Encloses (Text.trim text.toList) opened host closed port ∧
        Text.IsNumeral Text.max16 port n) ∧
    ∀ opened host closed port, Encloses text.toList opened host closed port →
      ∀ before behind, text.toList = before ++ ':' :: behind → ':' ∉ behind →
        (Unmistakable before ↔ '[' ∉ host ∧ ']' ∉ host ∧
          (opened = 0 ∧ closed = 0 ∧ ':' ∉ host ∨ opened = 1 ∧ closed = 1)) := by
  refine ⟨fun endpoint => ofText_eq_ok_iff, ?_, ?_⟩
  · rw [complaint?_eq_none_iff, Accepts]
    simp only [ofText_eq_ok_iff, Text.trimmed, String.toList_ofList]
    constructor
    · rintro ⟨endpoint, opened, closed, port, hEncloses, hPort⟩
      exact ⟨opened, endpoint.host, closed, port, endpoint.port, hEncloses, hPort⟩
    · rintro ⟨opened, host, closed, port, n, hEncloses, hPort⟩
      exact ⟨⟨host, n⟩, opened, closed, port, hEncloses, hPort⟩
  · intro opened host closed port hEncloses before behind hText hBehind
    rw [hEncloses.before_eq hText hBehind]
    exact unmistakable_iff hEncloses.ne_nil hEncloses.head hEncloses.last

theorem doubly_opened : ofText "[[::1]:80" = .ok { host := "::1".toList, port := 80 } ∧
    ¬Unmistakable "[[::1]".toList := by
  have hEncloses : Encloses "[[::1]:80".toList 2 "::1".toList 1 "80".toList :=
    ⟨by decide, by decide, by decide, by decide, by decide⟩
  have hPort : Text.IsNumeral Text.max16 "80".toList 80 :=
    Text.numeral_eq_some_iff.mp (by decide)
  obtain ⟨hRead, _, hMistakable⟩ := brackets_uncounted "[[::1]:80"
  refine ⟨(hRead _).mpr ⟨2, 1, _, hEncloses, hPort⟩, fun h => ?_⟩
  have hCounts := (hMistakable 2 _ 1 _ hEncloses "[[::1]".toList "80".toList (by decide)
    (by decide)).mp h
  simp at hCounts

/-- An address without brackets and without a port is read as another host and port. -/
theorem bare_address_accepted :
    ¬∀ text endpoint, ofText text = .ok endpoint →
      ∃ before port, text.toList = before ++ ':' :: port ∧ ':' ∉ port ∧ Unmistakable before := by
  intro h
  have hRead : ofText "::1" = .ok { host := [':'], port := 1 } := by decide +kernel
  obtain ⟨before, port, hText, hPort, hUnmistakable⟩ := h _ _ hRead
  have hSplit := splitLast_eq_some_iff.mpr ⟨hText, hPort⟩
  cases hSplit
  cases hUnmistakable with
  | bare opening closing colon => exact colon (by decide)
  | bracketed host eq => cases eq

end Tether.Endpoint
