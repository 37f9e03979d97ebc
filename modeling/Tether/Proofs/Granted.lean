import Mathlib.Data.List.Perm.Basic
import Tether.Proofs.Registry

/-! Which handles requests were granted. Whatever an act grants is borrowed and counted in the same
act, as a handle that was created or as one that was there already. -/

namespace Tether

variable {δ γ : Type}

/-- The handle that the caller was granted, if the request ended well. -/
def RequestState.granted? : RequestState → Option Nat
  | granted handle => some handle
  | _ => none

/-- Something is done directly with the borrows of this handle, without a request. -/
def Act.Uses (ref : HandleRef) (act : Act δ) : Prop :=
  act = .borrow ref ∨ act = .giveBack ref ∨ ∃ pool, act = .release pool ref

namespace Pool

/-- The handles that requests were granted, one entry for each request that ended well. -/
def granted (p : Pool γ) : List Nat := p.requests.filterMap fun r => r.state.granted?

/-- A turn that ends in `state`, as it shows in the borrows and in the counters: what the caller is
granted is borrowed once and counted once. -/
structure Lends (state : RequestState) (p p' : Pool γ) : Prop where
  refCount : ∀ handle,
    p'.refCount handle = p.refCount handle + state.granted?.toList.count handle
  counted : p'.counters.created + p'.counters.reused =
    p.counters.created + p.counters.reused + state.granted?.toList.length

/-- What an act that granted the `given` handles did to the pool. A handle that the act used
directly is not spoken of. -/
structure Dealt (number : Nat) (act : Act δ) (given : List Nat) (p p' : Pool γ) : Prop where
  granted : p'.granted.Perm (given ++ p.granted)
  refCount : ∀ handle, ¬act.Uses ⟨number, handle⟩ →
    p'.refCount handle = p.refCount handle + given.count handle
  counted : p'.counters.created + p'.counters.reused =
    p.counters.created + p.counters.reused + given.length

variable {allowed : Prop} {clock : Option Instant} {number gate handle index : Nat}
  {id dialed : String} {act : Act δ} {p p' q : Pool γ} {requests : List Request}
  {state old new : RequestState} {now : Instant}

theorem refCount_of_getElem? {h : Handle γ} (hMade : p.handles[handle]? = some h) :
    p.refCount handle = h.refCount := by
  simp [refCount, hMade]

theorem refCount_congr (hHandles : p'.handles = p.handles) (handle : Nat) :
    p'.refCount handle = p.refCount handle := by
  simp [refCount, hHandles]

theorem refCount_modifyHandle (f : Handle γ → Handle γ) (index handle : Nat) :
    (p.modifyHandle index f).refCount handle =
      if index = handle then ((p.handles[handle]?.map f).map Handle.refCount).getD 0
      else p.refCount handle := by
  unfold refCount modifyHandle
  rw [List.getElem?_modify]
  split
  · rfl
  · simp

theorem Lends.of_same (hGranted : state.granted? = none) (hHandles : p'.handles = p.handles)
    (hCreated : p'.counters.created = p.counters.created)
    (hReused : p'.counters.reused = p.counters.reused) : Lends state p p' := by
  refine ⟨fun handle => ?_, ?_⟩
  · rw [refCount_congr hHandles, hGranted]
    rfl
  · rw [hCreated, hReused, hGranted]
    rfl

theorem Scanned.counted_eq (h : Scanned allowed clock p q) :
    q.counters.created = p.counters.created ∧ q.counters.reused = p.counters.reused ∧
      q.counters.failed = p.counters.failed := by
  rw [h.counters_eq]
  exact ⟨rfl, rfl, rfl⟩

/-- Scans lend nothing and take nothing back. -/
theorem Scanned.lends (h : Scanned allowed clock p q) (hLends : Lends state q p') :
    Lends state p p' := by
  refine ⟨fun handle => ?_, ?_⟩
  · rw [hLends.refCount, refCount_congr h.handles_eq]
  · rw [hLends.counted, h.counted_eq.1, h.counted_eq.2.1]

theorem lends_lend {h : Handle γ} (hMade : p.handles[handle]? = some h) :
    Lends (.granted handle) p (p.lend now handle) := by
  refine ⟨fun other => ?_, ?_⟩
  · show (p.modifyHandle handle (Handle.borrow now)).refCount other = _
    rw [refCount_modifyHandle]
    by_cases hOther : handle = other
    · subst hOther
      simp [hMade, refCount, RequestState.granted?, Handle.borrow]
    · simp [hOther, RequestState.granted?]
  · simp [lend, count, RequestState.granted?, modifyHandle, Nat.add_assoc]

theorem lends_enroll (connection : γ) :
    Lends (.granted p.handles.length) p (p.enroll now id connection) := by
  refine ⟨fun other => ?_, ?_⟩
  · have hFresh : ((Handle.fresh now id connection).borrow now).refCount = 1 := rfl
    show ((p.handles ++ [(Handle.fresh now id connection).borrow now])[other]?.map
      Handle.refCount).getD 0 = _
    rcases Nat.lt_trichotomy other p.handles.length with hOld | rfl | hBeyond
    · rw [List.getElem?_append_left hOld]
      simp [refCount, RequestState.granted?, Nat.ne_of_gt hOld]
    · simp [refCount, RequestState.granted?, hFresh]
    · rw [List.getElem?_eq_none (by simp; omega)]
      simp [refCount, List.getElem?_eq_none (Nat.le_of_lt hBeyond), RequestState.granted?,
        Nat.ne_of_lt hBeyond]
  · show p.counters.created + 1 + p.counters.reused = p.counters.created + p.counters.reused + 1
    omega

theorem Followed.lends {progress : DialProgress γ}
    (h : Followed clock gate id dialed p progress state p') : Lends state p p' := by
  cases h with
  | waiting | failed | unread | discarded => exact .of_same rfl rfl rfl rfl
  | created => exact ⟨(lends_enroll _).refCount, (lends_enroll _).counted⟩

theorem Looked.lends (h : Looked allowed clock id p state p') (hSound : p.Sound requests) :
    Lends state p p' := by
  cases h with
  | closed | unread | queued => exact .of_same rfl rfl rfl rfl
  | reused open_ registered =>
      obtain ⟨_, _, hMade, _⟩ := hSound.registered _ _ registered
      exact lends_lend hMade
  | dials lacks scanned follows =>
      exact scanned.lends ⟨follows.lends.refCount, follows.lends.counted⟩

theorem Entered.lends (h : Entered allowed clock id p state p') (hSound : p.Sound requests) :
    Lends state p p' := by
  cases h with
  | closed | unnamed => exact .of_same rfl rfl rfl rfl
  | looked open_ named looks =>
      have hLends := looks.lends (hSound.tended (roused_tended p))
      exact ⟨hLends.refCount, hLends.counted⟩

theorem Passed.lends (h : Passed allowed clock gate id p state p') (hSound : p.Sound requests) :
    Lends state p p' := by
  cases h with
  | failed | closed | queued => exact .of_same rfl rfl rfl rfl
  | looked decided looks => exact looks.lends hSound

/-! ### The list of granted handles -/

theorem granted_congr (hRequests : p'.requests = p.requests) : p'.granted = p.granted := by
  rw [granted, granted, hRequests]

/-- A request that had nothing yet comes to `new`. -/
theorem granted_setRequest
    (hOld : p.requests[index]? = some { endpointId := id, state := old })
    (hNothing : old.granted? = none) :
    (p.setRequest index new).granted.Perm (new.granted?.toList ++ p.granted) := by
  obtain ⟨hBound, hAt⟩ := List.getElem?_eq_some_iff.mp hOld
  let f : Request → Option Nat := fun r => r.state.granted?
  have hSet := (List.set_perm_cons_eraseIdx hBound
    ({ endpointId := id, state := new } : Request)).filterMap f
  have hErase := (List.getElem_cons_eraseIdx_perm hBound).filterMap f
  rw [hAt, List.filterMap_cons_none (f := f) hNothing] at hErase
  have hCons : List.filterMap f (({ endpointId := id, state := new } : Request) ::
      p.requests.eraseIdx index) =
        new.granted?.toList ++ (p.requests.eraseIdx index).filterMap f := by
    cases hNew : new.granted? <;> simp [f, hNew]
  rw [hCons] at hSet
  rw [granted, requests_setRequest hOld]
  exact hSet.trans (hErase.append_left _)

theorem granted_append :
    granted { p with requests := p.requests ++ [{ endpointId := id, state := new }] } |>.Perm
      (new.granted?.toList ++ p.granted) := by
  have hLast : [({ endpointId := id, state := new } : Request)].filterMap
      (fun r => r.state.granted?) = new.granted?.toList := by
    cases hNew : new.granted? <;> simp [hNew]
  rw [granted, List.filterMap_append, hLast]
  exact List.perm_append_comm

/-! ### Acts -/

/-- What a turn lends, once it is written down. -/
theorem Lends.dealt {r : Pool γ} (h : Lends state p p')
    (hGranted : r.granted.Perm (state.granted?.toList ++ p.granted))
    (hHandles : r.handles = p'.handles) (hCounters : r.counters = p'.counters) :
    Dealt number act state.granted?.toList p r := by
  refine ⟨hGranted, fun handle _ => ?_, ?_⟩
  · rw [refCount_congr hHandles, h.refCount]
  · rw [hCounters, h.counted]

theorem Dealt.of_same (hRequests : p'.requests = p.requests)
    (hRefCount : ∀ handle, ¬act.Uses ⟨number, handle⟩ → p'.refCount handle = p.refCount handle)
    (hCreated : p'.counters.created = p.counters.created)
    (hReused : p'.counters.reused = p.counters.reused) : Dealt number act [] p p' := by
  refine ⟨by rw [granted_congr hRequests]; exact .refl _, hRefCount, ?_⟩
  rw [hCreated, hReused]
  rfl

/-- Whatever an act does to a handle directly, it does to no other. -/
theorem Dealt.of_modifyHandle {f : Handle γ → Handle γ} (hScanned : Scanned allowed clock p q)
    (hUses : ∀ handle, ¬act.Uses ⟨number, handle⟩ → index = handle →
      ∀ h, (f h).refCount = h.refCount) : Dealt number act [] p (q.modifyHandle index f) := by
  refine .of_same hScanned.requests_eq (fun handle hUnused => ?_) hScanned.counted_eq.1
    hScanned.counted_eq.2.1
  · rw [refCount_modifyHandle, refCount_congr hScanned.handles_eq]
    split
    · next hSame =>
      rw [hScanned.handles_eq, Option.map_map]
      exact congrArg (Option.getD · 0)
        (Option.map_congr fun h _ => hUses handle hUnused hSame h)
    · rfl

theorem Change.dealt (h : Change allowed clock number act p p') (hSound : p.Sound p.requests) :
    ∃ given, Dealt number act given p p' := by
  cases h with
  | tended scanned same =>
      obtain ⟨_, _, _, _, rfl, _⟩ := same
      exact ⟨[], .of_same scanned.requests_eq
        (fun handle _ => refCount_congr scanned.handles_eq handle) scanned.counted_eq.1
        scanned.counted_eq.2.1⟩
  | held | reported | closed => exact ⟨[], .of_same rfl (fun _ _ => rfl) rfl rfl⟩
  | entered enters =>
      have hGranted := granted_congr enters.requests_eq
      refine ⟨_, (enters.lends hSound).dealt ?_ rfl rfl⟩
      rw [← hGranted]
      exact granted_append
  | passed waits passes =>
      have hGranted := granted_congr passes.requests_eq
      refine ⟨_, (passes.lends hSound).dealt ?_ rfl rfl⟩
      rw [← hGranted]
      exact granted_setRequest (passes.requests_eq ▸ waits) rfl
  | followed dials scanned follows =>
      have hRequests := follows.requests_eq.trans scanned.requests_eq
      refine ⟨_, (scanned.lends follows.lends).dealt ?_ rfl rfl⟩
      rw [← granted_congr hRequests]
      exact granted_setRequest (hRequests ▸ dials) rfl
  | left waits =>
      exact ⟨_, (Lends.of_same rfl rfl rfl rfl : Lends .dropped p p).dealt
        (granted_setRequest waits rfl) rfl rfl⟩
  | @gaveUp other gate' id' _ _ dials =>
      have hLends : Lends .dropped p (p.openGate gate' id' .givenUp) := .of_same rfl rfl rfl rfl
      exact ⟨_, hLends.dealt
        (granted_setRequest (p := p.openGate gate' id' .givenUp) dials rfl) rfl rfl⟩
  | borrowed scanned =>
      refine ⟨[], .of_modifyHandle scanned fun handle hUnused hSame => ?_⟩
      exact absurd (Or.inl (hSame ▸ rfl)) hUnused
  | givenBack scanned shown gives =>
      refine ⟨[], .of_modifyHandle scanned fun handle hUnused hSame => ?_⟩
      subst hSame
      exact absurd (Or.inr gives) hUnused
  | touched scanned => exact ⟨[], .of_modifyHandle scanned fun _ _ _ _ => rfl⟩

end Pool

end Tether
