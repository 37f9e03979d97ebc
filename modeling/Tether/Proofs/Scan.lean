import Tether.Pool.Site
import Tether.Proofs.Record
import Tether.Proofs.Table

/-! What readings of the clock and eviction scans do to a pool. A reading may be probed by a scan,
and everything that follows in the operation then meets the pool that the scan left behind. -/

namespace Tether

variable {δ γ : Type}

namespace Pool

/-- The pool after a scan at this moment. -/
def swept (now : Instant) (p : Pool γ) : Pool γ :=
  { p with registry := p.registry.filter fun entry => !Site.isStale now p entry.2 }.count fun c =>
    { c with evicted := c.evicted +
        p.registry.countP fun entry : String × Nat => Site.isStale now p entry.2 }

/-- A scan at this moment would take the handle out: nobody holds it, and it has been unused for
longer than the linger. -/
def StaleAt (now : Instant) (p : Pool γ) (handle : Nat) : Prop :=
  ∃ h, p.handles[handle]? = some h ∧ h.refCount = 0 ∧ h.lastUse + p.linger < now

/-- What a number of scans at the time that the clock shows leave of a pool, if scans were `allowed`
to run at all. A clock that cannot be read and a registry held elsewhere prevent them. -/
def Scanned (allowed : Prop) (clock : Option Instant) (p p' : Pool γ) : Prop :=
  p' = p ∨ allowed ∧ p.busy = false ∧ ∃ now, clock = some now ∧ p' = p.swept now

@[simp]
theorem swept_registry (now : Instant) (p : Pool γ) :
    (p.swept now).registry = p.registry.filter fun entry => !Site.isStale now p entry.2 := rfl

/-- A second scan at the same moment finds nothing more to evict. -/
theorem swept_swept (now : Instant) (p : Pool γ) : (p.swept now).swept now = p.swept now := by
  have hStale (handle : Nat) : Site.isStale now (p.swept now) handle = Site.isStale now p handle :=
    rfl
  have hKept : ((p.swept now).registry.filter fun entry => !Site.isStale now p entry.2) =
      (p.swept now).registry := by
    simp [List.filter_filter]
  have hNone : ((p.swept now).registry.countP fun entry => Site.isStale now p entry.2) = 0 := by
    simp [List.countP_eq_zero]
  rw [swept]
  simp only [hStale, hKept, hNone]
  rfl

theorem Scanned.refl {allowed : Prop} {clock : Option Instant} (p : Pool γ) :
    Scanned allowed clock p p := Or.inl rfl

theorem Scanned.mono {allowed wider : Prop} {clock : Option Instant} {p p' : Pool γ}
    (h : Scanned allowed clock p p') (hWider : allowed → wider) : Scanned wider clock p p' :=
  h.imp id fun ⟨hAllowed, hRest⟩ => ⟨hWider hAllowed, hRest⟩

theorem Scanned.trans {allowed : Prop} {clock : Option Instant} {p p' p'' : Pool γ}
    (first : Scanned allowed clock p p') (second : Scanned allowed clock p' p'') :
    Scanned allowed clock p p'' := by
  rcases first with rfl | ⟨hAllowed, hFree, now, hClock, rfl⟩
  · exact second
  · rcases second with rfl | ⟨_, _, later, hLater, rfl⟩
    · exact Or.inr ⟨hAllowed, hFree, now, hClock, rfl⟩
    · cases hClock.symm.trans hLater
      exact Or.inr ⟨hAllowed, hFree, now, hClock, swept_swept now p⟩

/-- Nobody scans who cannot read the clock. -/
theorem Scanned.of_blind {allowed : Prop} {p p' : Pool γ} (h : Scanned allowed none p p') :
    p' = p := by
  rcases h with rfl | ⟨_, _, now, hClock, _⟩
  · rfl
  · cases hClock

/-- Scans read nothing of a pool but its handles and its linger, so they can be moved to before any
change to the rest. -/
theorem Scanned.before {allowed : Prop} {clock : Option Instant} {p p' : Pool γ}
    (f : Pool γ → Pool γ) (h : Scanned allowed clock (f p) p') (hBusy : (f p).busy = p.busy)
    (hSwept : ∀ now, (f p).swept now = f (p.swept now)) :
    ∃ q, Scanned allowed clock p q ∧ p' = f q := by
  rcases h with rfl | ⟨hAllowed, hFree, now, hClock, rfl⟩
  · exact ⟨p, .refl p, rfl⟩
  · exact ⟨p.swept now, Or.inr ⟨hAllowed, hBusy ▸ hFree, now, hClock, rfl⟩, hSwept now⟩

/-- Scans touch only the registry and the counters. -/
theorem Scanned.eq {allowed : Prop} {clock : Option Instant} {p p' : Pool γ}
    (h : Scanned allowed clock p p') :
    p' = { p with registry := p'.registry, counters := p'.counters } := by
  rcases h with rfl | ⟨_, _, now, _, rfl⟩ <;> rfl

/-- Of the counters scans touch only that of evicted handles. -/
theorem Scanned.counters_eq {allowed : Prop} {clock : Option Instant} {p p' : Pool γ}
    (h : Scanned allowed clock p p') :
    p'.counters = { p.counters with evicted := p'.counters.evicted } := by
  rcases h with rfl | ⟨_, _, now, _, rfl⟩ <;> rfl

/-- Scans register nothing. -/
theorem Scanned.registry_none {allowed : Prop} {clock : Option Instant} {p p' : Pool γ}
    (h : Scanned allowed clock p p') {id : String} (hNone : p.registry.get? id = none) :
    p'.registry.get? id = none := by
  rcases h with rfl | ⟨_, _, now, _, rfl⟩
  · exact hNone
  · exact Table.get?_filter_of_none hNone _

end Pool

namespace Site

open Surroundings Pool

theorem isStale_iff {now : Instant} {p : Pool γ} {handle : Nat} :
    isStale now p handle = true ↔ p.StaleAt now handle := by
  unfold isStale StaleAt
  split
  · next h hHandle =>
    have hSpan : p.linger < now - h.lastUse ↔ h.lastUse + p.linger < now := by
      unfold Instant Duration at *
      omega
    simp only [Handle.isEvictable, Handle.idleFor, Bool.and_eq_true, beq_iff_eq, hHandle,
      Option.some.injEq, exists_eq_left', ← hSpan]
    exact and_congr_right fun _ => decide_eq_true_iff
  · next hHandle => simp [hHandle]

theorem sweep_pool (now : Instant) (s : Site δ γ) : (s.sweep now).2.pool = s.pool.swept now := by
  have hCount : (s.pool.registry.countP fun entry => isStale now s.pool entry.2) =
      (s.pool.registry.filter fun entry => isStale now s.pool entry.2).length :=
    List.countP_eq_length_filter
  unfold sweep
  simp only [List.partition_eq_filter_filter]
  split
  · next hNone =>
    rw [List.isEmpty_iff] at hNone
    have hKept : (s.pool.registry.filter fun entry => !isStale now s.pool entry.2) =
        s.pool.registry := by
      rw [List.filter_eq_self]
      intro entry he
      simpa using List.filter_eq_nil_iff.mp hNone entry he
    rw [swept, hCount, hNone, hKept]
    rfl
  · rw [swept, hCount]
    rfl

private theorem foldl_still {α : Type} (event : α → Event) (hQuiet : ∀ a, (event a).StartsNone)
    (list : List α) (env : Surroundings δ) :
    Still env (list.foldl (fun env a => env.note (event a)) env) := by
  induction list generalizing env with
  | nil => exact .refl env
  | cons a rest ih => exact (still_note (hQuiet a) env).trans (ih _)

theorem sweep_still (now : Instant) (s : Site δ γ) : Still s.env (s.sweep now).2.env := by
  unfold sweep
  dsimp only
  split
  · exact .refl _
  · exact (foldl_still _ (by rintro _ _ ⟨_, _, ⟨⟩⟩) _ _).trans
      (still_note (by rintro _ ⟨_, _, ⟨⟩⟩) _)

/-- A probe does not scan while the registry is locked. -/
theorem probe_spec (locked : Bool) (s : Site δ γ) :
    Still s.env (s.probe locked).env ∧
      Scanned (locked = false) s.env.shown s.pool (s.probe locked).pool := by
  have hPut (result : Except PoolError Nat) (env : Surroundings δ) :
      Still env { env with probes := result :: env.probes } :=
    ⟨⟨⟨rfl, rfl, [], rfl, by simp⟩, rfl⟩, rfl⟩
  unfold probe
  dsimp only
  split
  · exact ⟨hPut _ _, .refl _⟩
  · split
    · exact ⟨hPut _ _, .refl _⟩
    · next hFree =>
      simp only [Bool.or_eq_true, not_or, Bool.not_eq_true] at hFree
      split
      · exact ⟨.refl _, .refl _⟩
      · next now hShown =>
        exact ⟨(sweep_still now s).trans (hPut _ _),
          Or.inr ⟨hFree.1, hFree.2, now, hShown, sweep_pool now s⟩⟩

/-- A reading answers what the clock shows. Only while readings are probed, and only with the
registry free, does it change the pool. -/
theorem reading_spec (locked : Bool) (s : Site δ γ) :
    (s.reading locked).1 = s.env.shown ∧ Still s.env (s.reading locked).2.env ∧
      Scanned (s.env.probing = true ∧ locked = false) s.env.shown s.pool
        (s.reading locked).2.pool := by
  have hCount (env : Surroundings δ) : Still env { env with readings := env.readings + 1 } :=
    ⟨⟨⟨rfl, rfl, [], rfl, by simp⟩, rfl⟩, rfl⟩
  unfold reading
  dsimp only
  by_cases hProbing : s.env.probing = true
  · obtain ⟨hStill, hScanned⟩ := probe_spec locked s
    rw [if_pos hProbing]
    exact ⟨hStill.shown, hStill.trans (hCount _), hScanned.mono fun h => ⟨hProbing, h⟩⟩
  · rw [if_neg hProbing]
    exact ⟨rfl, hCount _, .refl _⟩

/-- With the registry locked a reading leaves the pool as it is. -/
theorem reading_locked_pool (s : Site δ γ) : (s.reading true).2.pool = s.pool := by
  rcases (reading_spec true s).2.2 with h | ⟨⟨_, h⟩, _⟩
  · exact h
  · cases h

theorem scan_spec (s : Site δ γ) :
    Still s.env s.scan.2.env ∧ Scanned True s.env.shown s.pool s.scan.2.pool := by
  unfold scan
  split
  · exact ⟨.refl _, .refl _⟩
  · next hFree =>
    obtain ⟨hShown, hStill, _⟩ := reading_spec true s
    have hPool := reading_locked_pool s
    split
    · next s' hRead =>
      rw [hRead] at hStill hPool
      exact ⟨hStill, Or.inl hPool⟩
    · next now s' hRead =>
      rw [hRead] at hShown hStill hPool
      refine ⟨hStill.trans (sweep_still now s'), Or.inr ⟨trivial, by simpa using hFree, now,
        hShown.symm, ?_⟩⟩
      exact (sweep_pool now s').trans (congrArg (swept now) hPool)

theorem evictIdle_spec (s : Site δ γ) :
    Still s.env s.evictIdle.2.env ∧ Scanned True s.env.shown s.pool s.evictIdle.2.pool := by
  unfold evictIdle
  split
  · exact ⟨.refl _, .refl _⟩
  · exact scan_spec s

end Site

end Tether
