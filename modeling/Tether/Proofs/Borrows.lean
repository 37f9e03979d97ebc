import Mathlib.Algebra.Ring.Int.Defs
import Tether.Dialer.Fixed
import Tether.Proofs.Granted

/-! Borrow accounting. Over every run the count of a handle is what was taken on it, by requests
that were granted it and by direct borrows, less what came back. -/

namespace Tether

variable {δ γ : Type}

namespace World

open Surroundings Pool

section Uses

variable {α : Type} {w w' : World δ γ} {ref : HandleRef} {now : Instant} {h : Handle γ} {p : Pool γ}

theorem ScannedTo.handle?_eq (hScanned : ScannedTo w w') (ref : HandleRef) :
    w'.handle? ref = w.handle? ref := by
  unfold handle?
  cases hp : w.pools[ref.home]? with
  | none =>
      have hNone : w'.pools[ref.home]? = none := by
        rw [List.getElem?_eq_none_iff] at hp ⊢
        exact hScanned.length ▸ hp
      rw [hNone]
  | some p =>
      obtain ⟨p', hp', hSame⟩ := hScanned.pools _ p hp
      rw [hp']
      exact congrArg (·[ref.index]?) hSame.handles_eq

theorem use_of_shown (f : Instant → Handle γ → α × Handle γ) (hShown : w.env.shown = some now)
    (hHandle : w.handle? ref = some h) :
    w.use ref f = (some (f now h).1,
      w.reading.2.updatePool ref.home (Pool.modifyHandle ref.index fun _ => (f now h).2)) := by
  have hRead : ScannedTo w w.reading.2 := probeElsewhere_spec 1 w
  have hReading : w.reading = (some now, w.reading.2) :=
    Prod.ext (hRead.record.shown.trans hShown) rfl
  unfold use
  rw [hReading]
  dsimp only
  rw [hRead.handle?_eq, hHandle]

/-- A use that the clock or the lack of a handle prevents leaves nothing but scans. -/
theorem use_of_none (f : Instant → Handle γ → α × Handle γ)
    (hNone : w.env.shown = none ∨ w.handle? ref = none) : w.use ref f = (none, w.reading.2) := by
  have hRead : ScannedTo w w.reading.2 := probeElsewhere_spec 1 w
  have hReading : w.reading = (w.env.shown, w.reading.2) := Prod.ext hRead.record.shown rfl
  unfold use
  rw [hReading]
  rcases hNone with hBlind | hNone
  · rw [hBlind]
  · cases w.env.shown with
    | none => rfl
    | some now =>
        dsimp only
        rw [hRead.handle?_eq, hNone]

/-- What a use of a handle does to its count. -/
theorem use_pool (f : Instant → Handle γ → α × Handle γ) (hp : w.pools[ref.home]? = some p) :
    ∃ p', (w.use ref f).2.pools[ref.home]? = some p' ∧ p'.requests = p.requests ∧
      ((w.use ref f).1 = none ∧ p'.refCount ref.index = p.refCount ref.index ∨
        ∃ now h, p.handles[ref.index]? = some h ∧ (w.use ref f).1 = some (f now h).1 ∧
          p'.refCount ref.index = (f now h).2.refCount) := by
  have hRead : ScannedTo w w.reading.2 := probeElsewhere_spec 1 w
  obtain ⟨q, hq, hScanned⟩ := hRead.pools _ p hp
  by_cases hNone : w.env.shown = none ∨ w.handle? ref = none
  · rw [use_of_none f hNone]
    exact ⟨q, hq, hScanned.requests_eq,
      Or.inl ⟨rfl, refCount_congr hScanned.handles_eq ref.index⟩⟩
  · rw [not_or, ← ne_eq, ← ne_eq, Option.ne_none_iff_exists', Option.ne_none_iff_exists'] at hNone
    obtain ⟨⟨now, hShown⟩, h, hHandle⟩ := hNone
    have hMade : p.handles[ref.index]? = some h := by
      simpa [handle?, hp] using hHandle
    rw [use_of_shown f hShown hHandle]
    refine ⟨q.modifyHandle ref.index fun _ => (f now h).2, by simp [updatePool, hq],
      hScanned.requests_eq, Or.inr ⟨now, h, hMade, rfl, ?_⟩⟩
    rw [refCount_modifyHandle, if_pos rfl, hScanned.handles_eq, hMade]
    rfl

theorem giveBack_answer (w : World δ γ) (ref : HandleRef) :
    (w.giveBack ref).1 = (w.use ref Handle.release).1 := by
  unfold giveBack
  split
  · next h => rw [h]
  · rfl

theorem giveBack_pools (w : World δ γ) (ref : HandleRef) :
    (w.giveBack ref).2.pools = (w.use ref Handle.release).2.pools := by
  unfold giveBack
  split
  · next h => rw [h]
  · rfl

theorem giveBack_of_shown (hShown : w.env.shown = some now)
    (hHandle : w.handle? ref = some h) :
    (w.giveBack ref).1 = some (if h.refCount = 0
      then .error (.mismatchedRelease h.endpointId) else .ok ()) := by
  rw [giveBack_answer, use_of_shown _ hShown hHandle]
  unfold Handle.release
  split <;> rfl

/-- A direct borrow raises the count exactly when it has an answer. -/
theorem borrow_refCount (hp : w.pools[ref.home]? = some p) :
    ∃ p', (w.borrow ref).2.pools[ref.home]? = some p' ∧ p'.requests = p.requests ∧
      p'.refCount ref.index = p.refCount ref.index + (w.borrow ref).1.isSome.toNat := by
  obtain ⟨p', hp', hRequests, hAnswer⟩ := use_pool (fun now (h : Handle γ) => ((), h.borrow now)) hp
  have hBorrow : w.borrow ref = w.use ref fun now h => ((), h.borrow now) := rfl
  rw [hBorrow]
  refine ⟨p', hp', hRequests, ?_⟩
  rcases hAnswer with ⟨hNone, hSame⟩ | ⟨now, h, hMade, hSome, hCount⟩
  · rw [hNone, hSame]
    rfl
  · rw [hSome, hCount, refCount_of_getElem? hMade]
    rfl

/-- A direct release lowers the count exactly when it has a borrow to give back. -/
theorem giveBack_refCount (hp : w.pools[ref.home]? = some p) :
    ∃ p', (w.giveBack ref).2.pools[ref.home]? = some p' ∧ p'.requests = p.requests ∧
      p'.refCount ref.index + ((w.giveBack ref).1.any Except.isOk).toNat =
        p.refCount ref.index := by
  obtain ⟨p', hp', hRequests, hAnswer⟩ := use_pool Handle.release hp
  rw [giveBack_pools, giveBack_answer]
  refine ⟨p', hp', hRequests, ?_⟩
  rcases hAnswer with ⟨hNone, hSame⟩ | ⟨now, h, hMade, hSome, hCount⟩
  · rw [hNone, hSame]
    rfl
  · rw [hSome, hCount, refCount_of_getElem? hMade]
    unfold Handle.release
    split
    · rfl
    · next hHeld => exact Nat.sub_add_cancel (Nat.pos_of_ne_zero hHeld)

end Uses

/-! ### What is taken and given back along a run -/

section Ledger

variable {w : World δ γ} {ref : HandleRef} {act : Act δ}

/-- The act takes a borrow on the handle without a request. -/
def takes (ref : HandleRef) (w : World δ γ) : Act δ → Bool
  | .borrow other => other == ref && (w.borrow other).1.isSome
  | _ => false

/-- The act gives back a borrow on the handle, directly or through a pool. -/
def returns (ref : HandleRef) (w : World δ γ) : Act δ → Bool
  | .giveBack other => other == ref && (w.giveBack other).1.any Except.isOk
  | .release pool other => other == ref && (w.release pool other).1.any Except.isOk
  | _ => false

/-- Requests that were granted the handle. -/
def grants (ref : HandleRef) (w : World δ γ) : Nat :=
  (w.pools[ref.home]?.map fun p => p.granted.count ref.index).getD 0

/-- Borrows of the handle that are out. -/
def refCount (ref : HandleRef) (w : World δ γ) : Nat :=
  (w.pools[ref.home]?.map fun p => p.refCount ref.index).getD 0

theorem takes_of_unused (hUnused : ¬act.Uses ref) : takes ref w act = false := by
  cases act with
  | borrow other =>
      have hOther : (other == ref) = false :=
        beq_eq_false_iff_ne.mpr fun h => hUnused (Or.inl (h ▸ rfl))
      rw [takes, hOther, Bool.false_and]
  | _ => rfl

theorem returns_of_unused (hUnused : ¬act.Uses ref) : returns ref w act = false := by
  cases act with
  | giveBack other =>
      have hOther : (other == ref) = false :=
        beq_eq_false_iff_ne.mpr fun h => hUnused (Or.inr (Or.inl (h ▸ rfl)))
      rw [returns, hOther, Bool.false_and]
  | release pool other =>
      have hOther : (other == ref) = false :=
        beq_eq_false_iff_ne.mpr fun h => hUnused (Or.inr (Or.inr ⟨pool, h ▸ rfl⟩))
      rw [returns, hOther, Bool.false_and]
  | _ => rfl

theorem release_eq (number : Nat) (ref : HandleRef) (w : World δ γ) :
    w.release number ref =
      if w.isClosed number then (some (.error .closed), w) else w.giveBack ref := rfl

/-- Nothing is taken on a handle that is not there, and nothing comes back. -/
theorem not_used_of_missing (act : Act δ) (hNone : w.handle? ref = none) :
    takes ref w act = false ∧ returns ref w act = false := by
  have hBorrow : (w.borrow ref).1 = none :=
    congrArg Prod.fst (use_of_none _ (Or.inr hNone))
  have hGiveBack : (w.giveBack ref).1 = none := by
    rw [giveBack_answer, use_of_none Handle.release (Or.inr hNone)]
  by_cases hUses : act.Uses ref
  · rcases hUses with rfl | rfl | ⟨pool, rfl⟩
    · simp [takes, returns, hBorrow]
    · simp [takes, returns, hGiveBack]
    · refine ⟨rfl, ?_⟩
      cases hClosed : w.isClosed pool with
      | true => simp [returns, release_eq, hClosed, Except.isOk, Except.toBool]
      | false => simp [returns, release_eq, hClosed, hGiveBack]
  · exact ⟨takes_of_unused hUses, returns_of_unused hUses⟩

end Ledger

section Runs

variable [Dialer δ γ] {w : World δ γ} {ref : HandleRef}

/-- Direct borrows of the handle in a run. -/
def taken (ref : HandleRef) (acts : List (Act δ)) (w : World δ γ) : Nat :=
  countAlong (takes ref) acts w

/-- Releases of the handle in a run that had a borrow to give back. -/
def returned (ref : HandleRef) (acts : List (Act δ)) (w : World δ γ) : Nat :=
  countAlong (returns ref) acts w

/-- One act in a world that has the pool: the count of a handle changes by what requests were
granted and by direct borrows and releases. -/
theorem perform_refCount_of_pool {p : Pool γ} (hSound : p.Sound p.requests)
    (hp : w.pools[ref.home]? = some p) (act : Act δ) :
    ∃ p', (w.perform act).pools[ref.home]? = some p' ∧
      p'.refCount ref.index + (returns ref w act).toNat + p.granted.count ref.index =
        p.refCount ref.index + (takes ref w act).toNat + p'.granted.count ref.index := by
  by_cases hUses : act.Uses ref
  · rcases hUses with rfl | rfl | ⟨pool, rfl⟩
    · obtain ⟨p', hp', hRequests, hCount⟩ := borrow_refCount hp
      refine ⟨p', hp', ?_⟩
      rw [granted_congr hRequests, hCount]
      simp [takes, returns]
    · obtain ⟨p', hp', hRequests, hCount⟩ := giveBack_refCount hp
      refine ⟨p', hp', ?_⟩
      rw [granted_congr hRequests, ← hCount]
      simp [takes, returns]
    · show ∃ p', (w.release pool ref).2.pools[ref.home]? = some p' ∧ _
      cases hClosed : w.isClosed pool with
      | true =>
          refine ⟨p, by simpa [release_eq, hClosed] using hp, ?_⟩
          simp [takes, returns, release_eq, hClosed, Except.isOk, Except.toBool]
      | false =>
          obtain ⟨p', hp', hRequests, hCount⟩ := giveBack_refCount hp
          refine ⟨p', by simpa [release_eq, hClosed] using hp', ?_⟩
          rw [granted_congr hRequests, ← hCount]
          simp [takes, returns, release_eq, hClosed]
  · obtain ⟨p', hp', hChange⟩ := (perform_spec act w).pools ref.home p hp
    obtain ⟨given, hDealt⟩ := hChange.dealt hSound
    refine ⟨p', hp', ?_⟩
    rw [takes_of_unused hUses, returns_of_unused hUses, hDealt.refCount ref.index hUses,
      hDealt.granted.count_eq, List.count_append, Bool.toNat_false]
    omega

/-- One act, also where the pool is not there yet. -/
theorem perform_refCount (hReachable : w.Reachable) (ref : HandleRef) (act : Act δ) :
    (w.perform act).refCount ref + (returns ref w act).toNat + w.grants ref =
      w.refCount ref + (takes ref w act).toNat + (w.perform act).grants ref := by
  cases hp : w.pools[ref.home]? with
  | some p =>
      obtain ⟨p', hp', hStep⟩ := perform_refCount_of_pool (hReachable.sound hp) hp act
      simpa [refCount, grants, hp, hp'] using hStep
  | none =>
      have hNone : w.handle? ref = none := by simp [handle?, hp]
      obtain ⟨hTakes, hReturns⟩ := not_used_of_missing act hNone
      cases hp' : (w.perform act).pools[ref.home]? with
      | none => simp [refCount, grants, hp, hp', hTakes, hReturns]
      | some p' =>
          obtain ⟨linger, rfl, _⟩ := (perform_spec act w).opened ref.home p' hp hp'
          simp [refCount, grants, hp, hp', hTakes, hReturns, Pool.refCount, Pool.granted]

/-- A whole run keeps the accounts of a handle. -/
theorem performAll_refCount (hReachable : w.Reachable) (ref : HandleRef) (acts : List (Act δ)) :
    (w.performAll acts).refCount ref + returned ref acts w + w.grants ref =
      w.refCount ref + taken ref acts w + (w.performAll acts).grants ref := by
  induction acts generalizing w with
  | nil => rfl
  | cons act rest ih =>
      have hStep := perform_refCount hReachable ref act
      have hRest := ih (hReachable.perform act)
      show ((w.perform act).performAll rest).refCount ref +
          ((returns ref w act).toNat + returned ref rest (w.perform act)) + w.grants ref =
        w.refCount ref + ((takes ref w act).toNat + taken ref rest (w.perform act)) +
          ((w.perform act).performAll rest).grants ref
      omega

variable {env : Surroundings δ} {acts : List (Act δ)} {number : Nat} {p : Pool γ}

/-- What a run from the beginning took on the handle, by requests that were granted it and by direct
borrows, less what came back. -/
def balance (env : Surroundings δ) (acts : List (Act δ)) (ref : HandleRef) : Int :=
  (performAll acts { env }).grants ref + taken ref acts { env } - returned ref acts { env }

/-- The balance is what the handle has out. -/
theorem refCount_eq_balance (hRun : w = performAll acts { env }) (hp : w.pools[number]? = some p)
    (handle : Nat) : (p.refCount handle : Int) = balance env acts ⟨number, handle⟩ := by
  have hReachable : ({ env } : World δ γ).Reachable := ⟨env, [], rfl⟩
  have hAccounts := performAll_refCount hReachable ⟨number, handle⟩ acts
  have hNone : ({ env } : World δ γ).grants ⟨number, handle⟩ = 0 := rfl
  have hNothing : ({ env } : World δ γ).refCount ⟨number, handle⟩ = 0 := rfl
  have hCount : w.refCount ⟨number, handle⟩ = p.refCount handle := by simp [refCount, hp]
  rw [← hRun] at hAccounts
  rw [balance, ← hRun]
  omega

theorem outstanding_eq_sum (p : Pool γ) :
    (p.outstanding : Int) = (p.registry.map fun entry => (p.refCount entry.2 : Int)).sum := by
  unfold outstanding
  induction p.registry with
  | nil => rfl
  | cons entry rest ih =>
      rw [List.foldr_cons, List.map_cons, List.sum_cons, ← ih]
      exact Int.natCast_add ..

/-- In every run, and for every handle that a pool ever made, the count is the number of requests
that were granted it and of direct borrows, less the releases that were accepted. So the borrows
that a pool says are out are those of the registered handles, and a release that reaches the handle
is refused as mismatched exactly when the balance is zero. -/
theorem borrow_accounting (hRun : w = performAll acts { env }) (hp : w.pools[number]? = some p) :
    (∀ (handle : Nat) h, p.handles[handle]? = some h →
      (h.refCount : Int) = balance env acts ⟨number, handle⟩) ∧
    (p.statistics.outstanding : Int) =
      (p.registry.map fun entry => balance env acts ⟨number, entry.2⟩).sum ∧
    ∀ (handle : Nat) h now, p.handles[handle]? = some h → w.env.shown = some now →
      ((w.giveBack ⟨number, handle⟩).1 = some (.error (.mismatchedRelease h.endpointId)) ↔
        balance env acts ⟨number, handle⟩ = 0) ∧
      ((w.giveBack ⟨number, handle⟩).1 = some (.ok ()) ↔
        balance env acts ⟨number, handle⟩ ≠ 0) ∧
      ∀ pool, (w.release pool ⟨number, handle⟩).1 =
        if w.isClosed pool then some (.error .closed) else (w.giveBack ⟨number, handle⟩).1 := by
  have hBalance := refCount_eq_balance hRun hp
  refine ⟨?_, ?_, ?_⟩
  · intro handle h hMade
    rw [← hBalance, refCount_of_getElem? hMade]
  · show (p.outstanding : Int) = _
    simp only [outstanding_eq_sum, hBalance]
  · intro handle h now hMade hShown
    have hHandle : w.handle? ⟨number, handle⟩ = some h := by simp [handle?, hp, hMade]
    rw [giveBack_of_shown hShown hHandle, ← hBalance, refCount_of_getElem? hMade]
    refine ⟨?_, ?_, fun pool => ?_⟩
    · by_cases hFree : h.refCount = 0 <;> simp [hFree]
    · by_cases hFree : h.refCount = 0 <;> simp [hFree]
    · rw [release_eq]
      cases w.isClosed pool with
      | true => rfl
      | false => exact giveBack_of_shown hShown hHandle

/-- Three requests for one endpoint, of which one goes away while it waits, then a direct borrow and
three releases. -/
def evening : List (Act (FixedDialer Nat)) :=
  [.openPool 10, .get 0 "db", .get 0 "db", .get 0 "db", .drop 0 1, .pass 5, .resume 0 0,
    .resume 0 2, .borrow ⟨0, 0⟩, .release 0 ⟨0, 0⟩, .giveBack ⟨0, 0⟩, .release 0 ⟨0, 0⟩]

/-- Nothing is left of what was taken. -/
def evened : World (FixedDialer Nat) Nat :=
  performAll evening { env := { factory := { dialer := { connection := 7, latency := 5 } } } }

theorem evened_mismatched :
    (evened.release 0 ⟨0, 0⟩).1 = some (.error (.mismatchedRelease "db")) := by
  have hMade : ∃ p h, evened.pools[0]? = some p ∧ p.handles[0]? = some h ∧ h.endpointId = "db" :=
    ⟨_, _, rfl, rfl, rfl⟩
  obtain ⟨p, h, hp, hMade, hId⟩ := hMade
  have hRun : evened = performAll evening _ := rfl
  obtain ⟨hMismatched, _, hRelease⟩ := (borrow_accounting hRun hp).2.2 0 h 5 hMade rfl
  rw [hRelease 0, if_neg (by decide), hMismatched.mpr rfl, hId]

end Runs

end World

end Tether
