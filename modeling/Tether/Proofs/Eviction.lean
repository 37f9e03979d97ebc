import Mathlib.Data.List.Perm.Basic
import Tether.Proofs.Closing
import Tether.Proofs.Idleness

/-! What an eviction scan does, exactly: which handles it takes out, how many it says these were, and
that it changes nothing else. As long as the clock shows the moment of a scan, no other scan finds
anything more, whatever happens in between. -/

namespace Tether

variable {δ γ : Type}

namespace Clock

variable {clock clock' : Clock} {now later seen : Instant}

/-- What the clock shows if it can be read, and the last moment there is if it cannot. -/
def floor (now : Instant) : Clock → Instant
  | system => now
  | manual elapsed => min elapsed (Instant.limit - 1)

theorem floor_of_read (h : clock.read now = some seen) : clock.floor now = seen := by
  cases clock with
  | system => exact Option.some.inj h
  | manual elapsed =>
      obtain ⟨hBound, hSame⟩ := Option.ite_none_right_eq_some.mp h
      cases hSame
      exact Nat.min_eq_left (Nat.le_sub_one_of_lt hBound)

theorem floor_le_later (clock : Clock) (hLater : now ≤ later) :
    clock.floor now ≤ clock.floor later := by
  cases clock with
  | system => exact hLater
  | manual elapsed => exact Nat.le_refl _

theorem floor_le_advance {span : Duration} (hMoved : clock.advance span = some clock') :
    clock.floor now ≤ clock'.floor now := by
  cases clock with
  | system => cases hMoved
  | manual elapsed =>
      obtain ⟨_, hSame⟩ := Option.ite_none_right_eq_some.mp hMoved
      cases hSame
      have hLonger : elapsed ≤ elapsed + span := Nat.le_add_right ..
      exact Nat.le_min.mpr ⟨Nat.le_trans (Nat.min_le_left ..) hLonger, Nat.min_le_right ..⟩

theorem floor_mended (clock : Clock) (now : Instant) : clock.mended.floor now = clock.floor now := by
  cases clock with
  | system => rfl
  | manual elapsed => simp [mended, floor]

end Clock

namespace Pool

/-- How many registered handles a scan at this moment takes out. -/
def stale (now : Instant) (p : Pool γ) : Nat :=
  p.registry.countP fun entry => Site.isStale now p entry.2

/-- A scan at this moment took `count` handles out of the pool: those that nobody holds and that have
been unused for more than the linger. The others stay, in their order. -/
structure Evicts (now : Instant) (count : Nat) (p p' : Pool γ) : Prop where
  kept : ∀ id handle h, p.handles[handle]? = some h →
    ((id, handle) ∈ p'.registry ↔
      (id, handle) ∈ p.registry ∧ (0 < h.refCount ∨ h.idleFor now ≤ p.linger))
  sublist : p'.registry.Sublist p.registry
  removed : p'.registry.length + count = p.registry.length
  rest : p' = { p with
    registry := p'.registry
    counters := { p.counters with evicted := p.counters.evicted + count } }

variable {now : Instant} {p : Pool γ} {handle : Nat} {h : Handle γ}

theorem not_isStale_iff (hMade : p.handles[handle]? = some h) :
    Site.isStale now p handle = false ↔ 0 < h.refCount ∨ h.idleFor now ≤ p.linger := by
  simp only [Site.isStale, hMade, Handle.isEvictable, Bool.and_eq_false_iff, beq_eq_false_iff_ne,
    decide_eq_false_iff_not, Nat.not_lt, Nat.pos_iff_ne_zero, ne_eq]

theorem swept_evicts (now : Instant) (p : Pool γ) : p.Evicts now (p.stale now) (p.swept now) := by
  refine ⟨fun id handle h hMade => ?_, List.filter_sublist, ?_, rfl⟩
  · rw [swept_registry, List.mem_filter, Bool.not_eq_true', not_isStale_iff hMade]
  · have hSplit := List.length_eq_countP_add_countP
      (fun entry : String × Nat => Site.isStale now p entry.2) (l := p.registry)
    rw [swept_registry, ← List.countP_eq_length_filter, stale, hSplit, Nat.add_comm]
    simp only [Bool.not_eq_true, Bool.decide_eq_false]

/-- Nothing that a scan took out is found by another one at the same moment. -/
theorem stale_swept (now : Instant) (p : Pool γ) : (p.swept now).stale now = 0 := by
  have hLength := (swept_evicts now (p.swept now)).removed
  rw [swept_swept] at hLength
  exact Nat.left_eq_add.mp hLength.symm

/-- A scan goes by what is registered, not by the order in which it is visited. -/
theorem swept_perm {registry : Table Nat} (hPerm : registry.Perm p.registry) (now : Instant) :
    stale now { p with registry } = stale now p ∧
      ∃ kept, kept.Perm (p.swept now).registry ∧
        swept now { p with registry } = { p.swept now with registry := kept } := by
  have hStale : stale now { p with registry } = stale now p :=
    hPerm.countP_eq (fun entry : String × Nat => Site.isStale now p entry.2)
  refine ⟨hStale, _, hPerm.filter fun entry => !Site.isStale now p entry.2, ?_⟩
  show ({ p with registry := _, counters := { p.counters with
    evicted := p.counters.evicted + stale now { p with registry } } } : Pool γ) = _
  rw [hStale]
  rfl

/-- Nothing that is registered has been unused for more than a linger without being held. -/
def Fresh (now : Instant) (p : Pool γ) : Prop :=
  ∀ id handle h, p.Unheld id handle h → now ≤ h.lastUse + p.linger

theorem Fresh.stale_eq (hFresh : p.Fresh now) (hKeys : p.registry.keys.Nodup) :
    p.stale now = 0 := by
  refine List.countP_eq_zero.mpr fun ⟨id, handle⟩ hEntry hStale => ?_
  obtain ⟨h, hMade, hUnused, hLate⟩ := Site.isStale_iff.mp hStale
  exact absurd (hFresh id handle h ⟨Table.get?_of_mem hKeys hEntry, hMade, hUnused⟩)
    (Nat.not_le_of_lt hLate)

theorem fresh_swept (hKeys : p.registry.keys.Nodup) : (p.swept now).Fresh now :=
  fun _ _ _ hUnheld => Unheld.of_swept (p := p) hKeys hUnheld

/-- What is used at the moment of a scan is not stale then; and nothing is used at another one if the
clock shows none. -/
theorem Change.fresh {allowed : Prop} {clock : Option Instant} {number : Nat} {act : Act δ}
    {p' : Pool γ} (h : Change allowed clock number act p p')
    (hShown : ∀ seen, clock = some seen → seen = now) (hSound : p.Sound p.requests)
    (hFresh : p.Fresh now) : p'.Fresh now := by
  intro id handle h' hUnheld
  rw [h.linger_eq]
  rcases h.unheld hSound hUnheld with hWas | hUsed
  · exact hFresh id handle h' hWas
  · exact Nat.le_trans (Nat.le_of_eq (hShown _ hUsed).symm) (Nat.le_add_right ..)

end Pool

namespace Site

open Pool

variable {s : Site δ γ} {now : Instant}

/-- A scan that finds the registry free and can read the clock says how many handles it took out. -/
theorem scan_of_shown {count : Nat} (hFree : s.pool.busy = false) (hShown : s.env.shown = some now)
    (hCount : s.pool.stale now = count) :
    s.scan.1 = some (.ok count) ∧ s.scan.2.pool = s.pool.swept now := by
  subst hCount
  obtain ⟨hRead, _, _⟩ := reading_spec true s
  have hPool := reading_locked_pool s
  unfold scan
  rw [if_neg (Bool.eq_false_iff.mp hFree)]
  split
  · next s' h =>
    rw [h] at hRead
    cases hRead.trans hShown
  · next shown s' h =>
    rw [h] at hRead hPool
    cases Option.some.inj (hRead.trans hShown)
    have hSwept : (sweep now s').1 = s.pool.stale now :=
      (sweep_answer now s').trans (congrArg (stale now) hPool)
    dsimp only
    exact ⟨by rw [hSwept], (sweep_pool now s').trans (congrArg (swept now) hPool)⟩

/-- Conversely, a scan says how many handles it took out only then. -/
theorem shown_of_scan {count : Nat} (h : s.scan.1 = some (.ok count)) :
    s.pool.busy = false ∧ ∃ now, s.env.shown = some now ∧ count = s.pool.stale now ∧
      s.scan.2.pool = s.pool.swept now := by
  cases hBusy : s.pool.busy with
  | true =>
      simp only [scan, hBusy, ↓reduceIte, Option.some.injEq, reduceCtorEq] at h
  | false =>
      rcases (scan_of_free hBusy).2 with ⟨_, hNone, _⟩ | ⟨now, _, hShown, _⟩
      · cases h.symm.trans hNone
      · obtain ⟨hAnswer, hPool⟩ := scan_of_shown hBusy hShown rfl
        cases h.symm.trans hAnswer
        exact ⟨rfl, now, hShown, rfl, hPool⟩

/-- A scan fails only because the registry is held elsewhere, and then it has done nothing. -/
theorem scan_of_error {error : PoolError} (h : s.scan.1 = some (.error error)) :
    error = .busy ∧ s.scan.2 = s := by
  cases hBusy : s.pool.busy with
  | true =>
      have hScan : s.scan = (some (.error .busy), s) := if_pos hBusy
      rw [hScan] at h ⊢
      cases h
      exact ⟨rfl, rfl⟩
  | false =>
      rcases (scan_of_free hBusy).2 with ⟨_, hNone, _⟩ | ⟨_, _, _, hAnswer, _⟩
      · cases h.symm.trans hNone
      · cases h.symm.trans hAnswer

end Site

namespace World

open Surroundings Pool

variable [Dialer δ γ] {w : World δ γ} {number count : Nat} {p p' : Pool γ} {now later : Instant}
  {acts : List (Act δ)}

/-! ### No more at the same moment -/

theorem floor_of_shown {env : Surroundings δ} (h : env.shown = some now) :
    env.clock.floor env.now = now := Clock.floor_of_read h

/-- No act turns the clock back, not even one that makes it readable again. -/
theorem floor_le_perform (act : Act δ) (w : World δ γ) :
    w.env.clock.floor w.env.now ≤ (w.perform act).env.clock.floor (w.perform act).env.now := by
  refine Nat.le_trans (w.env.clock.floor_le_later (now_le_performAll [act] w)) ?_
  rcases perform_clock act w with hSame | ⟨span, hMoved⟩ | hMended
  · rw [hSame]
    exact Nat.le_refl _
  · exact Clock.floor_le_advance hMoved
  · rw [hMended, Clock.floor_mended]
    exact Nat.le_refl _

theorem floor_le_performAll (acts : List (Act δ)) (w : World δ γ) :
    w.env.clock.floor w.env.now ≤
      (w.performAll acts).env.clock.floor (w.performAll acts).env.now := by
  induction acts generalizing w with
  | nil => exact Nat.le_refl _
  | cons act rest ih => exact Nat.le_trans (floor_le_perform act w) (ih (w.perform act))

theorem perform_fresh (act : Act δ) (hReachable : w.Reachable)
    (hShown : ∀ seen, w.env.shown = some seen → seen = now)
    (hp : w.pools[number]? = some p) (hFresh : p.Fresh now) :
    ∃ p', (w.perform act).pools[number]? = some p' ∧ p'.Fresh now := by
  obtain ⟨p', hp', hChange⟩ := (perform_spec act w).pools number p hp
  exact ⟨p', hp', hChange.fresh hShown (hReachable.sound hp) hFresh⟩

/-- As long as the clock shows no other moment nothing becomes stale. -/
theorem performAll_fresh (hReachable : w.Reachable) (hFloor : now ≤ w.env.clock.floor w.env.now)
    (hLater : (w.performAll acts).env.shown = some now) (hp : w.pools[number]? = some p)
    (hFresh : p.Fresh now) :
    ∃ p', (w.performAll acts).pools[number]? = some p' ∧ p'.Fresh now := by
  induction acts generalizing w p with
  | nil => exact ⟨p, hp, hFresh⟩
  | cons act rest ih =>
      have hShown (seen : Instant) (hSeen : w.env.shown = some seen) : seen = now := by
        have hBefore := floor_le_performAll (act :: rest) w
        rw [floor_of_shown hLater, floor_of_shown hSeen] at hBefore
        rw [floor_of_shown hSeen] at hFloor
        exact Nat.le_antisymm hBefore hFloor
      obtain ⟨p', hp', hFresh'⟩ := perform_fresh act hReachable hShown hp hFresh
      exact ih (hReachable.perform act) (Nat.le_trans hFloor (floor_le_perform act w)) hLater hp'
        hFresh'

/-- A scan at the request of a caller leaves nothing to be found at the same moment. -/
theorem scan_again (hReachable : w.Reachable) (hp : w.pools[number]? = some p)
    (hOpen : p.closed = false) (hScan : (w.site number p).scan.1 = some (.ok count))
    (hShown : w.env.shown = some now)
    (hLater : ((w.perform (.evictIdle number)).performAll acts).env.shown = some now)
    (hp' : ((w.perform (.evictIdle number)).performAll acts).pools[number]? = some p') :
    p'.stale now = 0 := by
  have hKeys := (hReachable.sound hp).keys
  obtain ⟨_, shown, hSeen, _, hSwept⟩ := Site.shown_of_scan hScan
  cases hShown.symm.trans hSeen
  have hEvict : (w.site number p).evictIdle = (w.site number p).scan :=
    if_neg (Bool.eq_false_iff.mp hOpen)
  have hPool : (w.perform (.evictIdle number)).pools[number]? = some (p.swept now) := by
    refine (visit_pool hp (Site.evictIdle_serves (w.site number p)).toRecorded).trans ?_
    rw [hEvict, hSwept]
    rfl
  have hReached := hReachable.perform (.evictIdle number)
  have hFloor := floor_le_perform (.evictIdle number) w
  rw [floor_of_shown hShown] at hFloor
  obtain ⟨q, hq, hFresh⟩ := performAll_fresh hReached hFloor hLater hPool (fresh_swept hKeys)
  cases hp'.symm.trans hq
  exact hFresh.stale_eq ((hReached.performAll acts).sound hp').keys

/-- A scan that finds the registry free and can read the clock takes out exactly the handles that
nobody holds and that have been unused for more than a linger, and says how many; but for the
registry and that count, the pool stays as it was. Which handles these are does not depend on the
order of the registry. As long as the clock shows that moment, another scan takes out nothing:
neither at once nor after anything else that is done meanwhile. A scan that is refused does
nothing, and only a closed pool or a registry held elsewhere refuses one. -/
theorem eviction_exact (hp : w.pools[number]? = some p) :
    ((w.site number p).evictIdle =
      if p.closed then (some (.error .closed), w.site number p) else (w.site number p).scan) ∧
    (∀ error, (w.site number p).scan.1 = some (.error error) →
      error = .busy ∧ (w.site number p).scan.2 = w.site number p) ∧
    (∀ now, p.busy = false → w.env.shown = some now →
      ∃ count, (w.site number p).scan.1 = some (.ok count)) ∧
    ∀ count, (w.site number p).scan.1 = some (.ok count) → ∃ now, w.env.shown = some now ∧
      p.Evicts now count (w.site number p).scan.2.pool ∧
      (∀ registry : Table Nat, registry.Perm p.registry →
        (w.site number { p with registry }).scan.1 = some (.ok count) ∧
        ∃ kept, kept.Perm (w.site number p).scan.2.pool.registry ∧
          (w.site number { p with registry }).scan.2.pool =
            { (w.site number p).scan.2.pool with registry := kept }) ∧
      (∀ env : Surroundings δ, env.shown = some now →
        (Site.mk env (w.site number p).scan.2.pool).scan.1 = some (.ok 0) ∧
        (Site.mk env (w.site number p).scan.2.pool).scan.2.pool =
          (w.site number p).scan.2.pool) ∧
      (w.Reachable → p.closed = false → ∀ acts p' again,
        ((w.perform (.evictIdle number)).performAll acts).env.shown = some now →
        ((w.perform (.evictIdle number)).performAll acts).pools[number]? = some p' →
        (((w.perform (.evictIdle number)).performAll acts).site number p').scan.1 =
          some (.ok again) → again = 0) := by
  refine ⟨rfl, fun error h => Site.scan_of_error h, fun now hFree hShown =>
    ⟨_, (Site.scan_of_shown (s := w.site number p) hFree hShown rfl).1⟩, fun count hScan => ?_⟩
  obtain ⟨hFree, now, hShown, hCount, hSwept⟩ :
      p.busy = false ∧ ∃ now, w.env.shown = some now ∧ count = p.stale now ∧
        (w.site number p).scan.2.pool = p.swept now := Site.shown_of_scan hScan
  refine ⟨now, hShown, ?_, fun registry hPerm => ?_, fun env hSame => ?_,
    fun hReachable hOpen acts p' again hLater hp' hAgain => ?_⟩
  · rw [hCount, hSwept]
    exact swept_evicts now p
  · obtain ⟨hStale, kept, hKept, hReordered⟩ := swept_perm hPerm now
    obtain ⟨hAnswer, hPool⟩ := Site.scan_of_shown (s := w.site number { p with registry })
      hFree hShown (hStale.trans hCount.symm)
    rw [hSwept]
    exact ⟨hAnswer, kept, hKept, hPool.trans hReordered⟩
  · rw [hSwept]
    obtain ⟨hAnswer, hPool⟩ :=
      Site.scan_of_shown (s := ⟨env, p.swept now⟩) hFree hSame (stale_swept now p)
    exact ⟨hAnswer, hPool.trans (swept_swept now p)⟩
  · obtain ⟨_, later, hSeen, hCounted, _⟩ := Site.shown_of_scan hAgain
    cases hLater.symm.trans hSeen
    rw [hCounted]
    exact scan_again hReachable hp hOpen hScan hShown hLater hp'

/-- Two handles, one of them given back, and then more than a linger without a scan. -/
def halfHeld : List (Act (FixedDialer Nat)) :=
  [.openPool 10, .get 0 "a", .get 0 "b", .giveBack ⟨0, 1⟩, .pass 11]

theorem halfHeld_evicted :
    let w : World (FixedDialer Nat) Nat := performAll halfHeld { env := lingeringEnv }
    w.env.shown = some 11 ∧ ∃ p, w.pools[0]? = some p ∧ p.registry = [("a", 0), ("b", 1)] ∧
      (w.site 0 p).scan.2.pool.registry = [("a", 0)] ∧
      p.Evicts 11 1 (w.site 0 p).scan.2.pool := by
  intro w
  have hShown : w.env.shown = some 11 := by decide +kernel
  have hSeen : w.pools[0]?.map (fun p =>
      (p.busy, p.registry, (w.site 0 p).scan.2.pool.registry)) =
      some (false, [("a", 0), ("b", 1)], [("a", 0)]) := by decide +kernel
  obtain ⟨p, hp, hView⟩ := Option.map_eq_some_iff.mp hSeen
  simp only [Prod.mk.injEq] at hView
  obtain ⟨hFree, hBefore, hAfter⟩ := hView
  obtain ⟨_, _, hAnswers, hExact⟩ := eviction_exact hp
  obtain ⟨count, hScan⟩ := hAnswers 11 hFree hShown
  obtain ⟨now, hNow, hEvicts, _⟩ := hExact count hScan
  cases hShown.symm.trans hNow
  have hRemoved := hEvicts.removed
  rw [hBefore, hAfter] at hRemoved
  obtain rfl : count = 1 := by simpa [Nat.add_comm] using hRemoved
  exact ⟨hShown, p, hp, hBefore, hAfter, hEvicts⟩

end World

end Tether
