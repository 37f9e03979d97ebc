import Mathlib.Data.List.DropRight
import Tether.Proofs.Separation

/-! How the dials of one endpoint go, told by what was ordered for it. Orders and dials leave a record;
only the part of it behind the last recovery counts, and of a number of failures only what the dials
have not used up. -/

namespace Tether.FixedDialer

variable {γ : Type} {id : String} {d d' : FixedDialer γ}

/-! ### Calls and what goes on record -/

/-- What a dialer is told, and the dials that land in it. -/
inductive Call where
  | failNext (id : String) (count : Nat)
  | failAlways (id : String)
  | recover (id : String)
  | dial (id : String)
  deriving Repr, DecidableEq

/-- The endpoint that a call is about. -/
def Call.endpoint : Call → String
  | failNext id _ => id
  | failAlways id => id
  | recover id => id
  | dial id => id

def take (call : Call) (d : FixedDialer γ) : FixedDialer γ :=
  match call with
  | .failNext id count => d.failNext id count
  | .failAlways id => d.failAlways id
  | .recover id => d.recover id
  | .dial id => (d.land id).2

def takeAll (calls : List Call) (d : FixedDialer γ) : FixedDialer γ :=
  calls.foldl (fun d call => d.take call) d

/-- What goes on an endpoint's record. -/
inductive Entry where
  | failNext (count : Nat)
  | failAlways
  | recover
  | dialed (connected : Bool)
  deriving Repr, DecidableEq

/-- The entry of a call that this dialer takes. -/
def entry (call : Call) (d : FixedDialer γ) : Entry :=
  match call with
  | .failNext _ count => .failNext count
  | .failAlways _ => .failAlways
  | .recover _ => .recover
  | .dial id => .dialed (d.land id).1.isOk

/-- The record of an endpoint: an entry for each call that is about it, and none for the others. -/
def record (id : String) : List Call → FixedDialer γ → List Entry
  | [], _ => []
  | call :: rest, d =>
    (if call.endpoint = id then [d.entry call] else []) ++ record id rest (d.take call)

/-! ### What the record says -/

/-- The entries behind the last recovery. -/
def current (record : List Entry) : List Entry := record.rtakeWhile (· ≠ .recover)

/-- The failed dials among the later entries that came while not every dial had to fail. -/
def spent (earlier : List Entry) : List Entry → Nat
  | [] => 0
  | e :: later =>
    (if e = .dialed false ∧ .failAlways ∉ earlier then 1 else 0) + spent (earlier ++ [e]) later

/-- What is left of the last number of failures that was ordered since the last recovery. -/
def Left (record : List Entry) (left : Nat) : Prop :=
  ∃ earlier count later, current record = earlier ++ .failNext count :: later ∧
    (∀ n, .failNext n ∉ later) ∧ spent earlier later + left = count

/-- The next dial fails: all dials do, or there is a failure left. -/
def Fails (record : List Entry) : Prop :=
  .failAlways ∈ current record ∨ ∃ left, 0 < left ∧ Left record left

theorem current_recover (record : List Entry) : current (record ++ [.recover]) = [] := by
  simp [current]

theorem current_concat {e : Entry} (h : e ≠ .recover) (record : List Entry) :
    current (record ++ [e]) = current record ++ [e] := by
  simp [current, h]

theorem spent_concat (earlier later : List Entry) (e : Entry) :
    spent earlier (later ++ [e]) = spent earlier later +
      if e = .dialed false ∧ .failAlways ∉ earlier ++ later then 1 else 0 := by
  induction later generalizing earlier with
  | nil => simp [spent]
  | cons first later ih =>
      simp only [List.cons_append, spent, ih, List.append_assoc, List.nil_append]
      omega

theorem not_left_recover (record : List Entry) (left : Nat) :
    ¬Left (record ++ [.recover]) left := by
  rintro ⟨earlier, count, later, hCurrent, -⟩
  simp [current_recover] at hCurrent

/-- An entry that stands in a longer list stands at its end or in the shorter one. -/
theorem concat_eq_append_cons {entries earlier later : List Entry} {e e' : Entry}
    (h : entries ++ [e] = earlier ++ e' :: later) :
    (e = e' ∧ later = []) ∨ ∃ before, later = before ++ [e] ∧ entries = earlier ++ e' :: before := by
  rcases List.eq_nil_or_concat' later with rfl | ⟨before, last, rfl⟩
  · exact .inl ⟨(List.append_singleton_inj.mp h).2, rfl⟩
  · rw [← List.cons_append, ← List.append_assoc] at h
    obtain ⟨hEntries, rfl⟩ := List.append_singleton_inj.mp h
    exact .inr ⟨before, rfl, hEntries⟩

/-- A number of failures takes the place of what was left of the one before. -/
theorem left_failNext_iff {record : List Entry} {count left : Nat} :
    Left (record ++ [.failNext count]) left ↔ left = count := by
  rw [Left, current_concat (by simp)]
  constructor
  · rintro ⟨earlier, n, later, hCurrent, hLast, hSpent⟩
    rcases concat_eq_append_cons hCurrent with ⟨hSame, rfl⟩ | ⟨before, rfl, -⟩
    · simp_all [spent]
    · exact absurd (by simp) (hLast count)
  · rintro rfl
    exact ⟨current record, left, [], rfl, by simp, by simp [spent]⟩

/-- Of all other entries only a dial that failed while not every dial had to uses anything up. -/
theorem left_concat_iff (record : List Entry) {e : Entry} (hRecover : e ≠ .recover)
    (hNumber : ∀ n, e ≠ .failNext n) (left : Nat) :
    Left (record ++ [e]) left ↔
      Left record (left + if e = .dialed false ∧ .failAlways ∉ current record then 1 else 0) := by
  have hSame (earlier later : List Entry) (n : Nat) :
      .failAlways ∈ earlier ++ .failNext n :: later ↔ .failAlways ∈ earlier ++ later := by
    simp
  rw [Left, Left, current_concat hRecover]
  constructor
  · rintro ⟨earlier, n, later, hCurrent, hLast, hSpent⟩
    rcases concat_eq_append_cons hCurrent with ⟨hNext, -⟩ | ⟨before, rfl, hBefore⟩
    · exact absurd hNext (hNumber n)
    · refine ⟨earlier, n, before, hBefore, fun k hk => hLast k (by simp [hk]), ?_⟩
      rw [spent_concat] at hSpent
      simp only [hBefore, hSame]
      omega
  · rintro ⟨earlier, n, later, hCurrent, hLast, hSpent⟩
    refine ⟨earlier, n, later ++ [e], by simp [hCurrent], ?_, ?_⟩
    · simpa [hLast] using fun k => (hNumber k).symm
    · simp only [hCurrent, hSame] at hSpent
      rw [spent_concat]
      omega

/-! ### What the dialer knows -/

/-- The order that a dialer holds is what the record says. -/
structure Kept (record : List Entry) (o : FailureOrder) : Prop where
  always : o.always = true ↔ .failAlways ∈ current record
  budget_eq : ∀ left, Left record left → o.budget = left
  left : 0 < o.budget → Left record o.budget

theorem kept_nil : Kept [] {} := by
  refine ⟨by simp [current], ?_, by simp⟩
  rintro left ⟨earlier, n, later, hCurrent, -⟩
  simp [current] at hCurrent

theorem Kept.fails_iff {record : List Entry} {o : FailureOrder} (h : Kept record o) :
    (o.always || decide (0 < o.budget)) = true ↔ Fails record := by
  simp only [Bool.or_eq_true, decide_eq_true_eq, h.always, Fails]
  refine or_congr_right ⟨fun hBudget => ⟨_, hBudget, h.left hBudget⟩, ?_⟩
  rintro ⟨left, hLeft, hRecord⟩
  rwa [h.budget_eq left hRecord]

theorem order_failNext (count : Nat) (d : FixedDialer γ) :
    (d.failNext id count).order id = { d.order id with budget := count } := by
  simp [order, failNext, Table.get?_alter]

theorem order_failAlways (d : FixedDialer γ) :
    (d.failAlways id).order id = { d.order id with always := true } := by
  simp [order, failAlways, Table.get?_alter]

theorem order_recover (d : FixedDialer γ) : (d.recover id).order id = {} := by
  simp [order, recover]

theorem order_land (d : FixedDialer γ) :
    (d.land id).2.order id =
      if !(d.order id).always && decide (0 < (d.order id).budget)
      then { d.order id with budget := (d.order id).budget - 1 } else d.order id := by
  simp only [land]
  split
  · simp [order]
  · rfl

theorem land_fst (d : FixedDialer γ) :
    (d.land id).1 = if (d.order id).always || decide (0 < (d.order id).budget)
      then .error (.refused ("scripted failure for " ++ id)) else .ok d.connection := rfl

theorem isOk_land (d : FixedDialer γ) :
    (d.land id).1.isOk = !((d.order id).always || decide (0 < (d.order id).budget)) := by
  rw [land_fst]
  cases (d.order id).always || decide (0 < (d.order id).budget) <;> rfl

theorem Kept.failNext {record : List Entry} (h : Kept record (d.order id)) (count : Nat) :
    Kept (record ++ [.failNext count]) ((d.failNext id count).order id) := by
  rw [order_failNext]
  refine ⟨?_, fun left hLeft => (left_failNext_iff.mp hLeft).symm, fun _ => left_failNext_iff.mpr rfl⟩
  simp [current_concat, h.always]

theorem Kept.failAlways {record : List Entry} (h : Kept record (d.order id)) :
    Kept (record ++ [.failAlways]) ((d.failAlways id).order id) := by
  have hLeft (left : Nat) : Left (record ++ [.failAlways]) left ↔ Left record left := by
    simp [left_concat_iff]
  rw [order_failAlways]
  exact ⟨by simp [current_concat], fun left hRecord => h.budget_eq left ((hLeft left).mp hRecord),
    fun hBudget => (hLeft _).mpr (h.left hBudget)⟩

theorem Kept.recover {record : List Entry} :
    Kept (record ++ [.recover]) ((d.recover id).order id) := by
  rw [order_recover]
  exact ⟨by simp [current_recover], fun left hLeft => absurd hLeft (not_left_recover record left),
    fun hBudget => absurd hBudget (Nat.lt_irrefl 0)⟩

/-- A dial that is to fail anyway uses nothing up, and one that cannot fail has nothing to use. -/
theorem Kept.dialed {record : List Entry} (h : Kept record (d.order id)) :
    Kept (record ++ [.dialed (d.land id).1.isOk]) ((d.land id).2.order id) := by
  have hIn : .failAlways ∈ current (record ++ [.dialed (d.land id).1.isOk]) ↔
      .failAlways ∈ current record := by
    simp [current_concat]
  have hLeft := left_concat_iff record (e := .dialed (d.land id).1.isOk) (by simp) (by simp)
  rw [order_land]
  by_cases hUses : (d.order id).always = false ∧ 0 < (d.order id).budget
  · have hCost (left : Nat) :
        Left (record ++ [.dialed (d.land id).1.isOk]) left ↔ Left record (left + 1) := by
      simpa [isOk_land, ← h.always, hUses] using hLeft left
    rw [if_pos (by simpa using hUses)]
    refine ⟨h.always.trans hIn.symm, fun left hRecord => ?_, fun _ => (hCost _).mpr ?_⟩
    · have hBudget := h.budget_eq _ ((hCost left).mp hRecord)
      simp [hBudget]
    · simpa [Nat.sub_add_cancel hUses.2] using h.left hUses.2
  · have hFree (left : Nat) :
        Left (record ++ [.dialed (d.land id).1.isOk]) left ↔ Left record left := by
      rw [hLeft, isOk_land, if_neg, Nat.add_zero]
      simp [← h.always]
      grind
    rw [if_neg (by simpa using hUses)]
    exact ⟨h.always.trans hIn.symm, fun left hRecord => h.budget_eq left ((hFree left).mp hRecord),
      fun hBudget => (hFree _).mpr (h.left hBudget)⟩

/-! ### Calls one after another -/

variable {call : Call}

theorem take_elsewhere (h : call.endpoint ≠ id) (d : FixedDialer γ) : d.SameTo id (d.take call) := by
  cases call with
  | failNext other count =>
      exact ⟨rfl, rfl, (Table.get?_alter ..).trans (if_neg (Ne.symm h)), rfl⟩
  | failAlways other => exact ⟨rfl, rfl, (Table.get?_alter ..).trans (if_neg (Ne.symm h)), rfl⟩
  | recover other => exact ⟨rfl, rfl, (Table.get?_erase ..).trans (if_neg (Ne.symm h)), rfl⟩
  | dial other => exact land_elsewhere (Ne.symm h) d

/-- What a call makes of an endpoint depends on nothing but that endpoint. -/
theorem SameTo.take (h : d.SameTo id d') (hOwn : call.endpoint = id) :
    (d.take call).SameTo id (d'.take call) := by
  subst hOwn
  cases call with
  | failNext id count =>
      refine ⟨h.connection, h.latency, ?_, h.tallies⟩
      simp only [FixedDialer.take, FixedDialer.failNext, Table.get?_alter, Call.endpoint]
      rw [show d'.orders.get? id = d.orders.get? id from h.orders]
  | failAlways id =>
      refine ⟨h.connection, h.latency, ?_, h.tallies⟩
      simp only [FixedDialer.take, FixedDialer.failAlways, Table.get?_alter, Call.endpoint]
      rw [show d'.orders.get? id = d.orders.get? id from h.orders]
  | recover id =>
      refine ⟨h.connection, h.latency, ?_, h.tallies⟩
      simp [FixedDialer.take, FixedDialer.recover, Call.endpoint]
  | dial id => exact h.land_snd

theorem sameTo_takeAll_own (calls : List Call) (h : d.SameTo id d') :
    (d.takeAll calls).SameTo id (d'.takeAll (calls.filter fun call => call.endpoint = id)) := by
  induction calls generalizing d d' with
  | nil => exact h
  | cons call rest ih =>
      by_cases hOwn : call.endpoint = id
      · simpa [takeAll, hOwn] using ih (h.take hOwn)
      · have hSkipped : (d.take call).SameTo id d' :=
          (separates.regards id).trans (separates.symm (take_elsewhere hOwn d)) h
        simpa [takeAll, hOwn] using ih hSkipped

theorem takeAll_connection (calls : List Call) (d : FixedDialer γ) :
    (d.takeAll calls).connection = d.connection := by
  induction calls generalizing d with
  | nil => rfl
  | cons call rest ih =>
      refine (ih (d.take call)).trans ?_
      cases call <;> rfl

/-- The entry of one call, or none, keeps the record and the order in step. -/
theorem Kept.take {past : List Entry} (h : Kept past (d.order id)) (call : Call) :
    Kept (past ++ if call.endpoint = id then [d.entry call] else []) ((d.take call).order id) := by
  by_cases hOwn : call.endpoint = id
  · subst hOwn
    rw [if_pos rfl]
    cases call with
    | failNext id count => exact h.failNext count
    | failAlways id => exact h.failAlways
    | recover id => exact Kept.recover
    | dial id => exact h.dialed
  · rw [if_neg hOwn, List.append_nil, (take_elsewhere hOwn d).order_eq]
    exact h

theorem Kept.takeAll {past : List Entry} (h : Kept past (d.order id)) (calls : List Call) :
    Kept (past ++ d.record id calls) ((d.takeAll calls).order id) := by
  induction calls generalizing d past with
  | nil => simpa [record, FixedDialer.takeAll] using h
  | cons call rest ih => simpa [record, FixedDialer.takeAll] using ih (h.take call)

theorem tally_land (d : FixedDialer γ) :
    (d.land id).2.tally id =
      { attempts := (d.tally id).attempts + 1
        connected := (d.tally id).connected + if (d.land id).1.isOk then 1 else 0 } := by
  rw [isOk_land]
  simp only [tally, land, Table.get?_alter, ↓reduceIte, Option.getD_some]
  cases (d.order id).always || decide (0 < (d.order id).budget) <;> rfl

/-- Of all calls only a dial of the endpoint itself is counted for it. -/
theorem tally_take (h : call ≠ .dial id) (d : FixedDialer γ) :
    (d.take call).tally id = d.tally id := by
  cases call with
  | failNext other count | failAlways other | recover other => rfl
  | dial other =>
      have hOther : id ≠ other := fun hSame => h (hSame ▸ rfl)
      exact congrArg (·.getD {}) (land_elsewhere hOther d).tallies

theorem entry_ne_dialed (h : call ≠ .dial id) (d : FixedDialer γ) :
    .dialed true ∉ if call.endpoint = id then [d.entry call] else [] := by
  cases call with
  | failNext other count | failAlways other | recover other => split <;> simp [entry]
  | dial other =>
      have hOther : other ≠ id := fun hSame => h (hSame ▸ rfl)
      simp [Call.endpoint, hOther]

theorem tally_takeAll (calls : List Call) (d : FixedDialer γ) (id : String) :
    (d.takeAll calls).tally id =
      { attempts := (d.tally id).attempts + calls.count (.dial id)
        connected := (d.tally id).connected + (d.record id calls).count (.dialed true) } := by
  induction calls generalizing d with
  | nil => rfl
  | cons call rest ih =>
      refine (ih (d.take call)).trans ?_
      rw [record, List.count_append]
      by_cases hDial : call = .dial id
      · subst hDial
        simp only [take, tally_land, entry, Call.endpoint, ↓reduceIte, List.count_cons,
          List.count_nil, beq_self_eq_true]
        cases (d.land id).1.isOk <;> simp <;> omega
      · rw [tally_take hDial, List.count_cons_of_ne hDial,
          List.count_eq_zero_of_not_mem (entry_ne_dialed hDial d), Nat.zero_add]

/-- However often it was told to fail, and whatever was done about other endpoints: a dial fails
exactly when the record of its endpoint says so, the answer depends on the calls about its endpoint
alone, and the tally counts the dials that landed and those that gave a connection. -/
theorem dials_as_ordered (connection : γ) (latency : Duration) (calls : List Call) (id : String) :
    let start : FixedDialer γ := { connection, latency }
    let d := start.takeAll calls
    (Fails (start.record id calls) →
      (d.land id).1 = .error (.refused ("scripted failure for " ++ id))) ∧
    (¬Fails (start.record id calls) → (d.land id).1 = .ok connection) ∧
    (∀ others : List Call, (others.filter fun call => call.endpoint = id) =
        (calls.filter fun call => call.endpoint = id) →
      ((start.takeAll others).land id).1 = (d.land id).1) ∧
    (d.tally id).attempts = calls.count (.dial id) ∧
    (d.tally id).connected = (start.record id calls).count (.dialed true) := by
  intro start d
  have hKept : Kept ([] ++ start.record id calls) (d.order id) := kept_nil.takeAll calls
  have hTally := tally_takeAll calls start id
  refine ⟨fun hFails => ?_, fun hFails => ?_, fun others hOwn => ?_, ?_, ?_⟩
  · rw [land_fst, if_pos (hKept.fails_iff.mpr hFails)]
  · rw [land_fst, if_neg (mt hKept.fails_iff.mp hFails), takeAll_connection]
  · have hSelf : start.SameTo id start := (separates.regards id).refl start
    have hOthers := sameTo_takeAll_own others hSelf
    rw [hOwn] at hOthers
    exact hOthers.land_fst.symm.trans (sameTo_takeAll_own calls hSelf).land_fst
  · simpa [start, tally, Table.get?_nil] using congrArg DialTally.attempts hTally
  · simpa [start, tally, Table.get?_nil] using congrArg DialTally.connected hTally

end Tether.FixedDialer
