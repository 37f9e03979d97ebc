import Tether.Proofs.SingleFlight

/-! A registered handle that somebody holds stays, and whoever asks for its endpoint gets that very
handle at once. -/

namespace Tether

variable {δ γ : Type}

namespace Site

open Surroundings Pool

variable [Dialer δ γ]

/-- A new request for a registered endpoint has its answer before it could be suspended. -/
theorem get_of_registered {id : String} {handle : Nat} {now : Instant} {s : Site δ γ}
    (hOpen : s.pool.closed = false) (hNamed : id ≠ "")
    (hFound : s.pool.registry.get? id = some handle) (hShown : s.env.shown = some now) :
    Still s.env (s.get id).2.env ∧ (s.get id).1 = s.pool.requests.length ∧
      (s.get id).2.pool = { s.pool.roused.lend now handle with
        requests := s.pool.requests ++ [{ endpointId := id, state := .granted handle }] } := by
  obtain ⟨hStill, hRoused⟩ := startReaper_spec s
  obtain ⟨hStill', hReuse⟩ := reuse_spec handle id s.startReaper
  have hEnter : s.enter id = s.startReaper.reuse handle id := by
    have hOpen' : s.startReaper.pool.closed = false := hRoused ▸ hOpen
    have hFound' : s.startReaper.pool.registry.get? id = some handle := hRoused ▸ hFound
    simp [enter, look, hOpen, hOpen', hFound', hNamed]
  rcases hReuse with ⟨hBlind, _⟩ | ⟨now', hShown', hState, hPool⟩
  · cases hBlind.symm.trans (hStill.shown.trans hShown)
  · cases (hStill.shown.trans hShown).symm.trans hShown'
    rw [hRoused] at hPool
    unfold get
    rw [hEnter]
    dsimp only
    rw [hState]
    refine ⟨hStill.trans hStill', ?_, ?_⟩
    · rw [hPool]
      rfl
    · simp only [update, hPool]
      rfl

end Site

namespace World

open Surroundings Pool

variable [Dialer δ γ]

/-- Somebody holds the handle. -/
def IsHeld (w : World δ γ) (ref : HandleRef) : Prop :=
  ∃ h, w.handle? ref = some h ∧ 0 < h.refCount

/-- A run during which the handle is held all the time, never reported to its pool, and not lost
with the pool. Anything else may happen. -/
inductive Holding (number handle : Nat) : World δ γ → World δ γ → Prop where
  | stop {w : World δ γ} (held : w.IsHeld ⟨number, handle⟩) : Holding number handle w w
  | step {w w' : World δ γ} (act : Act δ) (held : w.IsHeld ⟨number, handle⟩)
      (unreported : ∀ cause, act ≠ .report number ⟨number, handle⟩ cause)
      (unclosed : act ≠ .close number) (rest : Holding number handle (w.perform act) w') :
      Holding number handle w w'

variable {w w' : World δ γ} {number handle : Nat} {id : String} {p : Pool γ}

theorem Holding.reachable (h : Holding number handle w w') (hReachable : w.Reachable) :
    w'.Reachable := by
  induction h with
  | stop => exact hReachable
  | step act _ _ _ _ ih => exact ih (hReachable.perform act)

/-- One act leaves a held handle registered. -/
theorem perform_registered (hReachable : w.Reachable) {act : Act δ}
    (hp : w.pools[number]? = some p) (hFound : p.registry.get? id = some handle)
    (hHeld : w.IsHeld ⟨number, handle⟩)
    (hReport : ∀ cause, act ≠ .report number ⟨number, handle⟩ cause)
    (hClose : act ≠ .close number) :
    ∃ p', (w.perform act).pools[number]? = some p' ∧ p'.registry.get? id = some handle := by
  have hSound := hReachable.sound hp
  obtain ⟨p', hp', hChange⟩ := (perform_spec act w).pools number p hp
  refine ⟨p', hp', ?_⟩
  rcases (hChange.registered hSound).fate hSound.keys hFound with hKept | ⟨_, hWay⟩
  · exact hKept
  · rcases hWay with ⟨now, _, _, h, hMade, hFree, _⟩ | ⟨cause, hAct⟩ | hAct
    · obtain ⟨h', hMade', hBorrowed⟩ := hHeld
      have hMade' : p.handles[handle]? = some h' := by simpa [handle?, hp] using hMade'
      cases hMade.symm.trans hMade'
      omega
    · exact absurd hAct (hReport cause)
    · exact absurd hAct hClose

/-- A whole run leaves a held handle registered. -/
theorem Holding.registered (h : Holding number handle w w') (hReachable : w.Reachable)
    (hp : w.pools[number]? = some p) (hFound : p.registry.get? id = some handle) :
    ∃ p', w'.pools[number]? = some p' ∧ p'.registry.get? id = some handle := by
  induction h generalizing p with
  | stop => exact ⟨p, hp, hFound⟩
  | step act held unreported unclosed _ ih =>
      obtain ⟨p', hp', hFound'⟩ :=
        perform_registered hReachable hp hFound held unreported unclosed
      exact ih (hReachable.perform act) hp' hFound'

/-- A get for a registered endpoint borrows the handle in the same step. No time passes, the factory
is not asked for anything, and no sequence of dials starts. -/
theorem perform_get_of_registered {now : Instant} {h : Handle γ} (hp : w.pools[number]? = some p)
    (hOpen : p.closed = false) (hNamed : id ≠ "") (hFound : p.registry.get? id = some handle)
    (hMade : p.handles[handle]? = some h) (hShown : w.env.shown = some now) :
    (∃ p', (w.perform (.get number id)).pools[number]? = some p' ∧
        p'.requests = p.requests ++ [{ endpointId := id, state := .granted handle }] ∧
        p'.handles[handle]? = some (h.borrow now)) ∧
      (w.perform (.get number id)).env.now = w.env.now ∧
      (w.perform (.get number id)).env.factory = w.env.factory ∧
      ∀ other, ¬w.Starts (.get number id) other := by
  obtain ⟨hStill, _, hPool⟩ :=
    Site.get_of_registered (s := w.site number p) hOpen hNamed hFound hShown
  have hRecord : Recorded (Event.StartsOnly fun _ => False) (w.site number p).env
      (Site.get id (w.site number p)).2.env := hStill.toRecorded.startsOnly
  obtain ⟨_, hVisited⟩ := visit_spec hp (Site.get id) hRecord
  refine ⟨⟨_, hVisited.pool, ?_, ?_⟩, hVisited.record.now,
    hVisited.factory.trans hStill.factory, ?_⟩
  · rw [hPool]
    rfl
  · rw [hPool]
    show (p.handles.modify handle (Handle.borrow now))[handle]? = _
    rw [List.getElem?_modify_eq, hMade]
    rfl
  · exact fun other h => h.kind hVisited.record.events

/-- A registered handle leaves the registry only in a scan that finds it unheld and unused for
longer than the linger, through a report on this very handle, or with the pool. As long as it is
held and neither reported nor lost with the pool, it therefore stays registered under its endpoint,
and every get for the endpoint whose reading of the clock succeeds has it at once. -/
theorem shared_while_held (hReachable : w.Reachable) (hp : w.pools[number]? = some p)
    (hFound : p.registry.get? id = some handle) :
    (∀ act p', (w.perform act).pools[number]? = some p' → p'.registry.get? id ≠ some handle →
      (∃ now, w.Scans number act ∧ w.env.shown = some now ∧ p.StaleAt now handle) ∨
        (∃ cause, act = .report number ⟨number, handle⟩ cause) ∨ act = .close number) ∧
    ∀ w', Holding number handle w w' →
      ∃ p' h, w'.pools[number]? = some p' ∧ p'.closed = false ∧
        p'.registry.get? id = some handle ∧ p'.handles[handle]? = some h ∧ h.endpointId = id ∧
        ∀ now, w'.env.shown = some now →
          (∃ q, (w'.perform (.get number id)).pools[number]? = some q ∧
            q.requests = p'.requests ++ [{ endpointId := id, state := .granted handle }] ∧
            q.handles[handle]? = some (h.borrow now)) ∧
          (w'.perform (.get number id)).env.now = w'.env.now ∧
          (w'.perform (.get number id)).env.factory = w'.env.factory ∧
          ∀ other, ¬w'.Starts (.get number id) other := by
  refine ⟨?_, ?_⟩
  · intro act p' hp' hGone
    have hSound := hReachable.sound hp
    obtain ⟨q, hq, hChange⟩ := (perform_spec act w).pools number p hp
    cases hq.symm.trans hp'
    exact (((hChange.registered hSound).fate hSound.keys hFound).resolve_left hGone).2
  · intro w' hHolding
    obtain ⟨p', hp', hFound'⟩ := hHolding.registered hReachable hp hFound
    have hSound := (hHolding.reachable hReachable).sound hp'
    obtain ⟨hNamed, h, hMade, hId⟩ := hSound.registered id handle hFound'
    have hOpen : p'.closed = false := by
      rw [← Bool.not_eq_true]
      intro hClosed
      rw [(hSound.emptied hClosed).2] at hFound'
      cases hFound'
    exact ⟨p', h, hp', hOpen, hFound', hMade, hId, fun now hShown =>
      perform_get_of_registered hp' hOpen hNamed hFound' hMade hShown⟩

/-- A handle was made for the first request and is held. -/
def borrowed : World (FixedDialer Nat) Nat :=
  performAll [.openPool 10, .get 0 "db"] { env := { factory := { dialer := { connection := 7 } } } }

/-- Many times the linger later, and after two scans. -/
def longBorrowed : World (FixedDialer Nat) Nat :=
  performAll [.pass 1000, .evictIdle 0, .reap 0] borrowed

theorem longBorrowed_shared : ∃ p, (longBorrowed.perform (.get 0 "db")).pools[0]? = some p ∧
    p.requests.map Request.state = [.granted 0, .granted 0] ∧ p.refCount 0 = 2 := by
  have hReachable : borrowed.Reachable := ⟨_, _, rfl⟩
  have hFound : ∃ p, borrowed.pools[0]? = some p ∧ p.registry.get? "db" = some 0 := ⟨_, rfl, rfl⟩
  have hHolding : Holding 0 0 borrowed longBorrowed :=
    .step (.pass 1000) ⟨_, rfl, by decide⟩ nofun nofun
      (.step (.evictIdle 0) ⟨_, rfl, by decide⟩ nofun nofun
        (.step (.reap 0) ⟨_, rfl, by decide⟩ nofun nofun (.stop ⟨_, rfl, by decide⟩)))
  obtain ⟨p, hp, hRegistered⟩ := hFound
  obtain ⟨p', h, hp', _, _, hMade, _, hGet⟩ :=
    (shared_while_held hReachable hp hRegistered).2 longBorrowed hHolding
  obtain ⟨⟨q, hq, hRequests, hBorrowed⟩, _⟩ := hGet 1000 rfl
  cases hp'
  cases hMade
  exact ⟨q, hq, by rw [hRequests]; rfl, by rw [Pool.refCount, hBorrowed]; rfl⟩

end World

end Tether
