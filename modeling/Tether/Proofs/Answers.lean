import Tether.Proofs.Audit
import Tether.Proofs.Borrows

/-! How requests end. Every failure that is counted is one that some caller was told of, no answer is
lost while the clock can be read, and whoever was granted a handle can give it back. -/

namespace Tether

variable {δ γ : Type}

namespace RequestState

def isRefused : RequestState → Bool
  | refused _ => true
  | _ => false

/-- Nobody will ever get an answer to the request. -/
def isLost : RequestState → Bool
  | dropped | broken => true
  | _ => false

end RequestState

namespace Pool

variable {allowed : Prop} {clock : Option Instant} {number gate index : Nat}
  {id dialed : String} {act : Act δ} {p p' : Pool γ} {state old new : RequestState} {now : Instant}

/-- Requests that were refused. -/
def refusals (p : Pool γ) : Nat := p.requests.countP fun r => r.state.isRefused

/-- The handle that the request with this number was granted. -/
def grantedTo (p : Pool γ) (request : Nat) : Option Nat :=
  p.requests[request]?.bind fun r => r.state.granted?

/-! ### Requests that an act leaves behind -/

theorem refusals_congr (hRequests : p'.requests = p.requests) : p'.refusals = p.refusals := by
  rw [refusals, refusals, hRequests]

theorem refusals_append : refusals { p with requests := p.requests ++ [{ endpointId := id, state }] } =
    p.refusals + state.isRefused.toNat := by
  cases hState : state.isRefused <;> simp [refusals, hState]

theorem refusals_setRequest
    (hOld : p.requests[index]? = some { endpointId := id, state := old })
    (hLive : old.isLive = true) :
    (p.setRequest index new).refusals = p.refusals + new.isRefused.toNat := by
  obtain ⟨hBound, hAt⟩ := List.getElem?_eq_some_iff.mp hOld
  have hRefused : old.isRefused = false := by
    cases old <;> first | rfl | cases hLive
  rw [refusals, requests_setRequest hOld, List.countP_set hBound, hAt, refusals]
  cases new.isRefused <;> simp [hRefused]

theorem Followed.failed_le {progress : DialProgress γ}
    (h : Followed clock gate id dialed p progress state p') :
    p'.counters.failed ≤ p.counters.failed + state.isRefused.toNat := by
  cases h <;> simp [countFailure, openGate, enroll, count, RequestState.isRefused]

theorem Looked.failed_le (h : Looked allowed clock id p state p') :
    p'.counters.failed ≤ p.counters.failed + state.isRefused.toNat := by
  cases h with
  | dials lacks scanned follows =>
      have hFailed := follows.failed_le
      rwa [← scanned.counted_eq.2.2]
  | _ => exact Nat.le_add_right ..

theorem Entered.failed_le (h : Entered allowed clock id p state p') :
    p'.counters.failed ≤ p.counters.failed + state.isRefused.toNat := by
  cases h with
  | looked open_ named looks => exact looks.failed_le
  | _ => exact Nat.le_add_right ..

theorem Passed.failed_le (h : Passed allowed clock gate id p state p') :
    p'.counters.failed ≤ p.counters.failed + state.isRefused.toNat := by
  cases h with
  | looked decided looks => exact looks.failed_le
  | _ => exact Nat.le_add_right ..

/-- Where a failure is counted, a request is refused. -/
theorem Change.failed_le (h : Change allowed clock number act p p') :
    p'.counters.failed + p.refusals ≤ p.counters.failed + p'.refusals := by
  cases h with
  | tended scanned same =>
      obtain ⟨_, _, _, _, rfl, _⟩ := same
      exact Nat.le_of_eq (congrArg₂ (· + ·) scanned.counted_eq.2.2
        (refusals_congr scanned.requests_eq).symm)
  | borrowed scanned | givenBack scanned | touched scanned =>
      exact Nat.le_of_eq (congrArg₂ (· + ·) scanned.counted_eq.2.2
        (refusals_congr scanned.requests_eq).symm)
  | held | reported | closed => exact Nat.le_refl _
  | entered enters =>
      have hFailed := enters.failed_le
      rw [refusals_append, refusals_congr enters.requests_eq]
      show _ + _ ≤ _
      dsimp only
      omega
  | passed waits passes =>
      have hFailed := passes.failed_le
      rw [refusals_setRequest (passes.requests_eq ▸ waits) rfl, refusals_congr passes.requests_eq]
      show _ + _ ≤ _
      dsimp only [setRequest]
      omega
  | followed dials scanned follows =>
      have hRequests := follows.requests_eq.trans scanned.requests_eq
      have hFailed := follows.failed_le
      rw [scanned.counted_eq.2.2] at hFailed
      rw [refusals_setRequest (hRequests ▸ dials) rfl, refusals_congr hRequests]
      dsimp only [setRequest]
      omega
  | left waits =>
      rw [refusals_setRequest waits rfl]
      exact Nat.le_refl _
  | @gaveUp _ gate id _ _ dials =>
      rw [refusals_setRequest (p := p.openGate gate id .givenUp) dials rfl]
      exact Nat.le_refl _

/-- Only asking makes more requests. -/
theorem Change.requests_length (h : Change allowed clock number act p p')
    (hGet : ∀ id, act ≠ .get number id) : p'.requests.length = p.requests.length := by
  cases h with
  | tended scanned same =>
      obtain ⟨_, _, _, _, rfl, _⟩ := same
      exact congrArg List.length scanned.requests_eq
  | borrowed scanned | givenBack scanned | touched scanned =>
      exact congrArg List.length scanned.requests_eq
  | entered => exact absurd rfl (hGet _)
  | passed waits passes =>
      exact (List.length_modify ..).trans (congrArg List.length passes.requests_eq)
  | followed dials scanned follows =>
      exact (List.length_modify ..).trans
        (congrArg List.length (follows.requests_eq.trans scanned.requests_eq))
  | left | gaveUp => exact List.length_modify ..
  | held | reported | closed => rfl

theorem Followed.unlost {progress : DialProgress γ}
    (h : Followed (some now) gate id dialed p progress state p') : state.isLost = false := by
  cases h with
  | unread blind => cases blind
  | _ => rfl

theorem Looked.unlost (h : Looked allowed (some now) id p state p') : state.isLost = false := by
  cases h with
  | unread registered blind => cases blind
  | dials lacks scanned follows => exact follows.unlost
  | _ => rfl

theorem Entered.unlost (h : Entered allowed (some now) id p state p') : state.isLost = false := by
  cases h with
  | looked open_ named looks => exact looks.unlost
  | _ => rfl

theorem Passed.unlost (h : Passed allowed (some now) gate id p state p') :
    state.isLost = false := by
  cases h with
  | looked decided looks => exact looks.unlost
  | _ => rfl

/-- Where the clock can be read, no answer is lost but to a caller who goes away. -/
theorem Change.unlost (h : Change allowed (some now) number act p p')
    (hDrop : ∀ index, act ≠ .drop number index)
    (hUnlost : ∀ r ∈ p.requests, r.state.isLost = false) :
    ∀ r ∈ p'.requests, r.state.isLost = false := by
  have hSet {q : Pool γ} {index : Nat} {id : String} {old new : RequestState}
      (hRequests : q.requests = p.requests)
      (hOld : p.requests[index]? = some { endpointId := id, state := old })
      (hNew : new.isLost = false) :
      ∀ r ∈ (q.setRequest index new).requests, r.state.isLost = false := by
    intro r hr
    rw [requests_setRequest (hRequests ▸ hOld), hRequests] at hr
    rcases List.mem_or_eq_of_mem_set hr with hr | rfl
    · exact hUnlost r hr
    · exact hNew
  cases h with
  | tended scanned same =>
      obtain ⟨_, _, _, _, rfl, _⟩ := same
      exact scanned.requests_eq ▸ hUnlost
  | borrowed scanned | givenBack scanned | touched scanned =>
      exact scanned.requests_eq ▸ hUnlost
  | held | reported | closed => exact hUnlost
  | entered enters =>
      intro r hr
      rw [enters.requests_eq] at hr
      rcases List.mem_append.mp hr with hr | hr
      · exact hUnlost r hr
      · cases List.mem_singleton.mp hr
        exact enters.unlost
  | passed waits passes => exact hSet passes.requests_eq waits passes.unlost
  | followed dials scanned follows =>
      exact hSet (follows.requests_eq.trans scanned.requests_eq) dials follows.unlost
  | left | gaveUp => exact absurd rfl (hDrop _)

end Pool

namespace World

open Pool

variable {w : World δ γ} {number : Nat} {p : Pool γ}

/-- A pool that is open takes a borrow back from whoever has one. -/
theorem release_ok {handle : Nat} {now : Instant} (hp : w.pools[number]? = some p)
    (hOpen : p.closed = false) (hShown : w.env.shown = some now) (hHeld : 0 < p.refCount handle) :
    (w.release number ⟨number, handle⟩).1 = some (.ok ()) := by
  have hClosed : w.isClosed number = false := by simp [isClosed, hp, hOpen]
  cases hMade : p.handles[handle]? with
  | none => simp [Pool.refCount, hMade] at hHeld
  | some held =>
      have hHandle : w.handle? ⟨number, handle⟩ = some held := by simp [handle?, hp, hMade]
      rw [refCount_of_getElem? hMade] at hHeld
      rw [release_eq, hClosed]
      exact (giveBack_of_shown hShown hHandle).trans (by rw [if_neg (Nat.ne_of_gt hHeld)])

variable [Dialer δ γ]

/-- As many failures are counted as requests were refused at most. -/
theorem Reachable.failed_le (hReachable : w.Reachable) (hp : w.pools[number]? = some p) :
    p.counters.failed ≤ p.refusals := by
  have hNew (p : Pool γ) : IsNew p → p.counters.failed ≤ p.refusals := by
    rintro ⟨linger, rfl, _⟩
    exact Nat.le_refl _
  refine hReachable.pool hNew (fun _ _ _ _ _ _ hChange h => ?_) hp
  have hStep := hChange.failed_le
  omega

/-- A new request comes after all others. -/
theorem get_next (hp : w.pools[number]? = some p) (id : String) :
    (w.visit number (Site.get id)).1 = some p.requests.length ∧
      ∃ p', (w.perform (.get number id)).pools[number]? = some p' ∧
        p'.requests.length = p.requests.length + 1 := by
  have hEntered := (Site.enter_spec id (w.site number p)).2
  have hLength : ((w.site number p).enter id).2.pool.requests.length = p.requests.length :=
    congrArg List.length hEntered.requests_eq
  refine ⟨?_, _, visit_pool hp (Site.get_recorded id (w.site number p)), ?_⟩
  · rw [visit_answer hp]
    exact congrArg some hLength
  · exact (List.length_append ..).trans (congrArg (· + 1) hLength)

end World

end Tether
