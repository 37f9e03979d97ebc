import Tether.Proofs.Borrows

/-! Reports of broken handles. A report acts on the handle that it names, not on whatever stands for
the same endpoint. What has left the registry does not come back, so no later report and no later
request meets it. -/

namespace Tether

variable {δ γ : Type}

namespace Pool

/-- The handle was made, and stands for no endpoint. -/
structure Gone (handle : Nat) (p : Pool γ) : Prop where
  made : handle < p.handles.length
  unregistered : ∀ id, p.registry.get? id ≠ some handle

/-- A handle that was reported is taken out, and counted. -/
def expel (id : String) (p : Pool γ) : Pool γ :=
  { p with registry := p.registry.erase id }.count fun c =>
    { c with invalidated := c.invalidated + 1 }

variable {allowed : Prop} {clock : Option Instant} {number handle index gate : Nat}
  {id dialed : String} {act : Act δ} {p p' q : Pool γ} {requests : List Request}

/-- A handle can only be registered for its own endpoint. -/
theorem Sound.isRegistered_iff (h : p.Sound requests) :
    p.isRegistered handle = true ↔ ∃ id, p.registry.get? id = some handle := by
  unfold isRegistered
  constructor
  · intro hRegistered
    split at hRegistered
    · exact ⟨_, beq_iff_eq.mp hRegistered⟩
    · cases hRegistered
  · rintro ⟨id, hFound⟩
    obtain ⟨_, made, hMade, rfl⟩ := h.registered id handle hFound
    rw [hMade]
    exact beq_iff_eq.mpr hFound

/-- Taking the entry of an endpoint out takes out its handle, and no other. -/
theorem Sound.registry_expel {made : Handle γ} (h : p.Sound requests)
    (hMade : p.handles[handle]? = some made)
    (hFound : p.registry.get? made.endpointId = some handle) (id : String) (other : Nat) :
    (p.expel made.endpointId).registry.get? id = some other ↔
      p.registry.get? id = some other ∧ other ≠ handle := by
  show (p.registry.erase made.endpointId).get? id = some other ↔ _
  rw [Table.get?_erase]
  by_cases hId : id = made.endpointId
  · rw [if_pos hId, hId, hFound]
    refine ⟨nofun, ?_⟩
    rintro ⟨hOther, hNot⟩
    exact absurd (Option.some.inj hOther).symm hNot
  · rw [if_neg hId]
    refine (and_iff_left_of_imp ?_).symm
    rintro hOther rfl
    obtain ⟨_, made', hMade', hId'⟩ := h.registered id other hOther
    cases hMade.symm.trans hMade'
    exact hId hId'.symm

theorem Scanned.found (h : Scanned allowed clock p q) (hKeys : p.registry.keys.Nodup)
    (hFound : q.registry.get? id = some handle) : p.registry.get? id = some handle := by
  rcases h with rfl | ⟨_, _, now, _, rfl⟩
  · exact hFound
  · rw [swept_registry, Table.get?_filter hKeys, Option.filter_eq_some_iff] at hFound
    exact hFound.1

/-- Only a fresh handle is ever put into the registry. -/
theorem Registered.gone (h : Registered allowed clock number act p p')
    (hKeys : p.registry.keys.Nodup) (hGone : p.Gone handle) : p'.Gone handle := by
  obtain ⟨hMade, hUnregistered⟩ := hGone
  cases h with
  | kept scanned registry handles =>
      refine ⟨handles ▸ hMade, fun id hFound => ?_⟩
      rw [registry] at hFound
      exact hUnregistered id (scanned.found hKeys hFound)
  | @filled _ id' _ _ _ scanned registry handles =>
      refine ⟨?_, fun id hFound => ?_⟩
      · rw [handles, List.length_append]
        exact Nat.lt_add_right _ hMade
      · rw [registry, Table.get?_insert] at hFound
        split at hFound
        · cases hFound
          exact Nat.lt_irrefl _ hMade
        · exact hUnregistered id (scanned.found hKeys hFound)
  | reported cause told found registry handles =>
      refine ⟨handles ▸ hMade, fun id hFound => ?_⟩
      rw [registry, Table.get?_erase] at hFound
      split at hFound
      · cases hFound
      · exact hUnregistered id hFound
  | closed told registry handles =>
      refine ⟨handles ▸ hMade, fun id hFound => ?_⟩
      rw [registry] at hFound
      cases hFound

/-! ### What a request can be granted -/

theorem Followed.handle_of_granted {progress : DialProgress γ}
    (h : Followed clock gate id dialed p progress (.granted handle) p') :
    handle = p.handles.length := by
  cases h with
  | created => rfl

/-- A request is granted what it finds registered, or a handle made for it. -/
theorem Looked.handle_of_granted (h : Looked allowed clock id p (.granted handle) p') :
    p.registry.get? id = some handle ∨ handle = p.handles.length := by
  cases h with
  | reused open_ registered shown => exact Or.inl registered
  | dials lacks scanned follows =>
      refine Or.inr (follows.handle_of_granted.trans ?_)
      exact congrArg List.length scanned.handles_eq

theorem Gone.not_looked (hGone : p.Gone handle) :
    ¬Looked allowed clock id p (.granted handle) p' := by
  intro hLooked
  rcases hLooked.handle_of_granted with hFound | hFresh
  · exact hGone.unregistered id hFound
  · exact Nat.ne_of_lt hGone.made hFresh

theorem Gone.not_entered (hGone : p.Gone handle) :
    ¬Entered allowed clock id p (.granted handle) p' := by
  rintro ⟨⟩
  next looks => exact Gone.not_looked (p := p.roused) ⟨hGone.made, hGone.unregistered⟩ looks

theorem Gone.not_passed (hGone : p.Gone handle) :
    ¬Passed allowed clock gate id p (.granted handle) p' := by
  rintro ⟨⟩
  next looks => exact hGone.not_looked looks

/-- A request that has been granted a handle which is out of the registry had it before. -/
theorem Change.granted_of_gone (h : Change allowed clock number act p p') (hGone : p.Gone handle)
    {r : Request} (hRequest : p'.requests[index]? = some r) (hGranted : r.state = .granted handle) :
    p.requests[index]? = some r := by
  cases hOld : p.requests[index]? with
  | none =>
      obtain ⟨_, _, hEntered⟩ := h.request_of_new hOld hRequest
      rw [hGranted] at hEntered
      exact absurd hEntered hGone.not_entered
  | some old =>
      by_cases hTurn : act = .resume number index
      · subst hTurn
        obtain ⟨id, before⟩ := old
        obtain ⟨state, hState, hWay⟩ := h.request_of_turn hOld
        cases hRequest.symm.trans hState
        cases hGranted
        rcases hWay with rfl | ⟨_, _, _, hPassed⟩ | ⟨_, _, _, _, _, _, hScanned, hFollowed⟩
        · rfl
        · exact absurd hPassed hGone.not_passed
        · have hFresh := hFollowed.handle_of_granted
          rw [hScanned.handles_eq] at hFresh
          exact absurd hFresh (Nat.ne_of_lt hGone.made)
      · by_cases hDrop : act = .drop number index
        · subst hDrop
          rcases h.request_of_drop hOld with hSame | hDropped
          · exact hSame.symm.trans hRequest
          · cases hRequest.symm.trans hDropped
            cases hGranted
        · exact (h.request_of_unmoved (fun _ => ⟨hTurn, hDrop⟩) hOld).symm.trans hRequest

end Pool

namespace World

open Pool

variable {w : World δ γ} {number : Nat} {p : Pool γ} {ref : HandleRef} {h : Handle γ}
  {cause : String}

/-- A report as an open pool sees it. -/
theorem report_of_open (hp : w.pools[number]? = some p) (hOpen : p.closed = false)
    (hMade : w.handle? ref = some h) :
    w.report number ref cause =
      if ref.home = number ∧ p.isRegistered ref.index = true then
        (.ok true, { w.updatePool number (Pool.expel h.endpointId) with
          env := w.env.note (.broken h.endpointId h.refCount cause) })
      else (.ok false, { w with env := w.env.note (.unregistered h.endpointId cause) }) := by
  unfold report
  rw [hp, hMade]
  dsimp only
  rw [hOpen]
  rfl

/-- Only an open pool answers that the handle was registered, and only of one of its own. -/
theorem registered_of_report (hReport : (w.report number ref cause).1 = .ok true) :
    ∃ p h, w.pools[number]? = some p ∧ w.handle? ref = some h ∧ p.closed = false ∧
      ref.home = number ∧ p.isRegistered ref.index = true := by
  unfold report at hReport
  split at hReport
  · next p h hp hMade =>
    split at hReport
    · cases hReport
    · next hOpen =>
      split at hReport
      · next hRegistered => exact ⟨p, h, hp, hMade, by simpa using hOpen, hRegistered⟩
      · cases hReport
  · cases hReport

section Runs

variable [Dialer δ γ] {act : Act δ}

/-- What has left the registry stays out of it, and nobody is granted it any more. -/
theorem performAll_gone (hReachable : w.Reachable) (hp : w.pools[number]? = some p)
    {handle : Nat} (hGone : p.Gone handle) (acts : List (Act δ)) :
    ∃ p', (w.performAll acts).pools[number]? = some p' ∧ p'.Gone handle ∧
      ∀ (index : Nat) r, p'.requests[index]? = some r → r.state = .granted handle →
        p.requests[index]? = some r := by
  induction acts generalizing w p with
  | nil => exact ⟨p, hp, hGone, fun _ _ hRequest _ => hRequest⟩
  | cons act rest ih =>
      have hSound := hReachable.sound hp
      obtain ⟨q, hq, hChange⟩ := (perform_spec act w).pools number p hp
      obtain ⟨p', hp', hGone', hGranted⟩ := ih (hReachable.perform act) hq
        ((hChange.registered hSound).gone hSound.keys hGone)
      refine ⟨p', hp', hGone', fun index r hRequest hState => ?_⟩
      exact hChange.granted_of_gone hGone (hGranted index r hRequest hState) hState

/-- The act reports this handle to some pool, and is told that it was registered there. -/
def reportsTrue (ref : HandleRef) (w : World δ γ) : Act δ → Bool
  | .report number other cause =>
    other == ref && (w.report number other cause).1.toOption == some true
  | _ => false

/-- Whoever is told so has taken the handle out of its own pool. -/
theorem gone_of_reportsTrue (hReachable : w.Reachable) (hReported : reportsTrue ref w act = true) :
    ∃ p p', w.pools[ref.home]? = some p ∧ p.isRegistered ref.index = true ∧
      (w.perform act).pools[ref.home]? = some p' ∧ p'.Gone ref.index := by
  cases act with
  | report number other cause =>
      obtain ⟨hOther, hAnswer⟩ := (Bool.and_eq_true ..).mp hReported
      cases beq_iff_eq.mp hOther
      have hAnswer : (w.report number ref cause).1 = .ok true := by
        cases hResult : (w.report number ref cause).1 with
        | error error =>
            rw [hResult] at hAnswer
            cases hAnswer
        | ok told =>
            rw [hResult] at hAnswer
            exact congrArg Except.ok (Option.some.inj (beq_iff_eq.mp hAnswer))
      obtain ⟨p, h, hp, hMade, hOpen, rfl, hRegistered⟩ := registered_of_report hAnswer
      have hSound := hReachable.sound hp
      have hHandle : p.handles[ref.index]? = some h := by simpa [handle?, hp] using hMade
      have hFound : p.registry.get? h.endpointId = some ref.index := by
        simpa [isRegistered, hHandle] using hRegistered
      refine ⟨p, p.expel h.endpointId, hp, hRegistered, ?_, ?_, fun id hKept => ?_⟩
      · show (w.report ref.home ref cause).2.pools[ref.home]? = _
        rw [report_of_open hp hOpen hMade, if_pos ⟨rfl, hRegistered⟩]
        simp [updatePool, hp]
      · exact (List.getElem?_eq_some_iff.mp hHandle).1
      · exact ((hSound.registry_expel hHandle hFound id ref.index).mp hKept).2 rfl
  | _ => cases hReported

theorem countAlong_reportsTrue_of_gone (hReachable : w.Reachable)
    (hp : w.pools[ref.home]? = some p) (hGone : p.Gone ref.index) (acts : List (Act δ)) :
    countAlong (reportsTrue ref) acts w = 0 := by
  induction acts generalizing w p with
  | nil => rfl
  | cons act rest ih =>
      have hUntold : reportsTrue ref w act = false := by
        rw [← Bool.not_eq_true]
        intro hReported
        obtain ⟨q, _, hq, hRegistered, _⟩ := gone_of_reportsTrue hReachable hReported
        cases hp.symm.trans hq
        obtain ⟨id, hFound⟩ := (hReachable.sound hp).isRegistered_iff.mp hRegistered
        exact hGone.unregistered id hFound
      obtain ⟨p', hp', hGone', _⟩ := performAll_gone hReachable hp hGone [act]
      rw [countAlong, hUntold, ih (hReachable.perform act) hp' hGone']
      rfl

/-- No handle is reported with success twice. -/
theorem countAlong_reportsTrue_le (hReachable : w.Reachable) (ref : HandleRef)
    (acts : List (Act δ)) : countAlong (reportsTrue ref) acts w ≤ 1 := by
  induction acts generalizing w with
  | nil => exact Nat.zero_le 1
  | cons act rest ih =>
      rw [countAlong]
      cases hReported : reportsTrue ref w act with
      | false =>
          rw [Bool.toNat_false, Nat.zero_add]
          exact ih (hReachable.perform act)
      | true =>
          obtain ⟨_, p', _, _, hp', hGone⟩ := gone_of_reportsTrue hReachable hReported
          rw [countAlong_reportsTrue_of_gone (hReachable.perform act) hp' hGone]
          rfl

/-- In every world that a run leads to, an open pool answers a report on a handle: it was registered
or it was not, and it was exactly when this very handle stands for an endpoint in this very pool,
whoever holds it. Then the report takes out its entry and no other, and counts it; otherwise it
changes nothing at all. So no handle is ever reported with success twice, and a handle that is out
of the registry never comes back into it, and no request that did not have it already ever has it.
-/
theorem report_by_identity (hReachable : w.Reachable) (hp : w.pools[number]? = some p) :
    (∀ ref h cause, p.closed = false → w.handle? ref = some h →
      ((w.report number ref cause).1 = .ok true ∨ (w.report number ref cause).1 = .ok false) ∧
      ((w.report number ref cause).1 = .ok true ↔
        ref.home = number ∧ ∃ id, p.registry.get? id = some ref.index) ∧
      ((w.report number ref cause).1 = .ok true →
        (w.report number ref cause).2 = { w.updatePool number (Pool.expel h.endpointId) with
          env := w.env.note (.broken h.endpointId h.refCount cause) } ∧
        ∀ id handle, (p.expel h.endpointId).registry.get? id = some handle ↔
          p.registry.get? id = some handle ∧ handle ≠ ref.index) ∧
      ((w.report number ref cause).1 = .ok false → (w.report number ref cause).2 =
        { w with env := w.env.note (.unregistered h.endpointId cause) })) ∧
    (∀ ref acts, countAlong (reportsTrue ref) acts w ≤ 1) ∧
    ∀ handle, handle < p.handles.length → (∀ id, p.registry.get? id ≠ some handle) →
      ∀ acts, ∃ p', (w.performAll acts).pools[number]? = some p' ∧
        (∀ id, p'.registry.get? id ≠ some handle) ∧
        ∀ (index : Nat) r, p'.requests[index]? = some r → r.state = .granted handle →
          p.requests[index]? = some r := by
  have hSound := hReachable.sound hp
  have hTold : (.ok true : Except PoolError Bool) ≠ .ok false := by simp
  refine ⟨?_, countAlong_reportsTrue_le hReachable, ?_⟩
  · intro ref h cause hOpen hMade
    rw [report_of_open hp hOpen hMade, ← hSound.isRegistered_iff]
    by_cases hHere : ref.home = number ∧ p.isRegistered ref.index = true
    · rw [if_pos hHere]
      refine ⟨Or.inl rfl, iff_of_true rfl hHere, fun _ => ⟨rfl, fun id handle => ?_⟩,
        fun hFalse => absurd hFalse hTold⟩
      obtain ⟨rfl, hRegistered⟩ := hHere
      have hHandle : p.handles[ref.index]? = some h := by simpa [handle?, hp] using hMade
      have hFound : p.registry.get? h.endpointId = some ref.index := by
        simpa [isRegistered, hHandle] using hRegistered
      exact hSound.registry_expel hHandle hFound id handle
    · rw [if_neg hHere]
      exact ⟨Or.inr rfl, iff_of_false hTold.symm hHere, fun hTrue => absurd hTrue.symm hTold,
        fun _ => rfl⟩
  · intro handle hMade hUnregistered acts
    obtain ⟨p', hp', hGone, hGranted⟩ :=
      performAll_gone hReachable hp ⟨hMade, hUnregistered⟩ acts
    exact ⟨p', hp', hGone.unregistered, hGranted⟩

/-- A handle was reported and another one dialed in its place. -/
def redialed : World (FixedDialer Nat) Nat :=
  performAll [.openPool 10, .get 0 "db", .pass 5, .resume 0 0, .report 0 ⟨0, 0⟩ "reset",
      .get 0 "db", .pass 10, .resume 0 1]
    { env := { factory := { dialer := { connection := 7, latency := 5 } } } }

theorem redialed_reported :
    (redialed.report 0 ⟨0, 0⟩ "late").1 = .ok false ∧
      (redialed.report 0 ⟨0, 1⟩ "reset").1 = .ok true ∧
      ∀ acts, ∃ p, (redialed.performAll acts).pools[0]? = some p ∧
        ∀ id, p.registry.get? id ≠ some 0 := by
  have hReachable : redialed.Reachable := ⟨_, _, rfl⟩
  have hPool : ∃ p h h', redialed.pools[0]? = some p ∧ p.closed = false ∧
      p.registry = [("db", 1)] ∧ p.handles[0]? = some h ∧ p.handles[1]? = some h' :=
    ⟨_, _, _, rfl, rfl, rfl, rfl, rfl⟩
  obtain ⟨p, h, h', hp, hOpen, hRegistry, hFirst, hSecond⟩ := hPool
  have hNot (id : String) : p.registry.get? id ≠ some 0 := by
    rw [hRegistry, Table.get?_cons, Table.get?_nil]
    split <;> nofun
  obtain ⟨hReport, _, hGone⟩ := report_by_identity hReachable hp
  have hAt (index : Nat) : redialed.handle? ⟨0, index⟩ = p.handles[index]? := by
    simp [handle?, hp]
  obtain ⟨hAnswer, hTrue, _⟩ := hReport ⟨0, 0⟩ h "late" hOpen ((hAt 0).trans hFirst)
  obtain ⟨_, hTrue', _⟩ := hReport ⟨0, 1⟩ h' "reset" hOpen ((hAt 1).trans hSecond)
  refine ⟨hAnswer.resolve_left fun hTold => ?_, hTrue'.mpr ⟨rfl, "db", ?_⟩, fun acts => ?_⟩
  · obtain ⟨_, id, hFound⟩ := hTrue.mp hTold
    exact hNot id hFound
  · rw [hRegistry]
    rfl
  · obtain ⟨p', hp', hNever, _⟩ :=
      hGone 0 (List.getElem?_eq_some_iff.mp hFirst).1 hNot acts
    exact ⟨p', hp', hNever⟩

end Runs

end World

end Tether
