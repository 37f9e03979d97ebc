import Tether.Proofs.Reports
import Tether.Proofs.Upkeep

/-! How long a handle stays that nobody holds. The reaper is never more than a linger away from its
next scan, and a scan keeps only what has been unused for at most a linger: so no handle is unused
for two lingers. -/

namespace Tether

variable {δ γ : Type}

theorem Duration.slept_le (span : Duration) : span.slept ≤ span := Nat.min_le_left ..

/-- Within a linger of a moment that is within a linger of the last use. -/
theorem Instant.within_two {moment now last : Nat} {linger : Nat} (hSoon : moment ≤ now + linger)
    (hUsed : now ≤ last + linger) : moment ≤ last + 2 * linger := by
  omega

theorem Instant.idle_of_lt {now last linger : Nat} (hSome : now < now + linger)
    (hUsed : now < last + 2 * linger) : now - last < 2 * linger := by
  omega

namespace Pool

/-- The handle stands for the endpoint, and nobody holds it. -/
structure Unheld (p : Pool γ) (id : String) (handle : Nat) (h : Handle γ) : Prop where
  registered : p.registry.get? id = some handle
  made : p.handles[handle]? = some h
  unused : h.refCount = 0

variable {allowed : Prop} {clock : Option Instant} {now : Instant} {number handle gate : Nat}
  {id dialed : String} {act : Act δ} {p p' q : Pool γ} {state : RequestState} {made : Handle γ}

/-! ### Handles and their last use -/

/-- What is registered after an act was registered before it, or was made in it. -/
theorem Registered.found (h : Registered allowed clock number act p p')
    (hKeys : p.registry.keys.Nodup) (hFound : p'.registry.get? id = some handle) :
    p.registry.get? id = some handle ∨ p.handles.length ≤ handle := by
  cases h with
  | kept scanned registry =>
      rw [registry] at hFound
      exact Or.inl (scanned.found hKeys hFound)
  | filled open_ empty scanned registry =>
      rw [registry, Table.get?_insert] at hFound
      split at hFound
      · exact Or.inr (Nat.le_of_eq (Option.some.inj hFound))
      · exact Or.inl (scanned.found hKeys hFound)
  | reported cause told found registry =>
      rw [registry, Table.get?_erase] at hFound
      split at hFound
      · cases hFound
      · exact Or.inl hFound
  | closed told registry =>
      rw [registry] at hFound
      cases hFound

theorem getElem?_modifyHandle {f : Handle γ → Handle γ} {index : Nat} (hShown : clock = some now)
    (hUse : ∀ h, (f h).lastUse = now)
    (hMade : (p.modifyHandle index f).handles[handle]? = some made) :
    p.handles[handle]? = some made ∨ clock = some made.lastUse := by
  by_cases hIndex : index = handle
  · subst hIndex
    rw [modifyHandle, List.getElem?_modify_eq] at hMade
    obtain ⟨h, _, rfl⟩ := Option.map_eq_some_iff.mp hMade
    exact Or.inr ((hUse h).symm ▸ hShown)
  · exact Or.inl ((List.getElem?_modify_ne f p.handles hIndex).symm.trans hMade)

theorem Followed.handle_used {progress : DialProgress γ}
    (h : Followed clock gate id dialed p progress state p')
    (hMade : p'.handles[handle]? = some made) :
    p.handles[handle]? = some made ∨ clock = some made.lastUse := by
  cases h with
  | @created now connection shown =>
      have hMade : (p.handles ++ [(Handle.fresh now id connection).borrow now])[handle]? =
          some made := hMade
      rw [List.getElem?_append] at hMade
      split at hMade
      · exact Or.inl hMade
      · rw [List.mem_singleton.mp (List.mem_of_getElem? hMade)]
        exact Or.inr shown
  | _ => exact Or.inl hMade

theorem Looked.handle_used (h : Looked allowed clock id p state p')
    (hMade : p'.handles[handle]? = some made) :
    p.handles[handle]? = some made ∨ clock = some made.lastUse := by
  cases h with
  | reused open_ registered shown =>
      exact getElem?_modifyHandle shown (fun _ => rfl) hMade
  | dials lacks scanned follows =>
      exact (follows.handle_used hMade).imp_left fun h => scanned.handles_eq ▸ h
  | _ => exact Or.inl hMade

/-- A handle that an act leaves is one that was there already, or has been used just now, as the clock
shows. -/
theorem Change.handle_used (h : Change allowed clock number act p p')
    (hMade : p'.handles[handle]? = some made) :
    p.handles[handle]? = some made ∨ clock = some made.lastUse := by
  cases h with
  | tended scanned same =>
      obtain ⟨_, _, _, _, rfl, _⟩ := same
      exact Or.inl (scanned.handles_eq ▸ hMade)
  | held | left | gaveUp | reported | closed => exact Or.inl hMade
  | entered enters =>
      cases enters with
      | looked open_ named looks => exact looks.handle_used hMade
      | _ => exact Or.inl hMade
  | passed waits passes =>
      cases passes with
      | looked decided looks => exact looks.handle_used hMade
      | _ => exact Or.inl hMade
  | followed dials scanned follows =>
      exact (follows.handle_used hMade).imp_left fun h => scanned.handles_eq ▸ h
  | borrowed scanned shown | touched scanned shown =>
      refine (getElem?_modifyHandle shown (fun h => ?_) hMade).imp_left fun h =>
        scanned.handles_eq ▸ h
      rfl
  | givenBack scanned shown =>
      refine (getElem?_modifyHandle shown (fun h => ?_) hMade).imp_left fun h =>
        scanned.handles_eq ▸ h
      unfold Handle.release
      split <;> rfl

/-- Whoever is unheld after an act was so before, or has been used just now. -/
theorem Change.unheld (h : Change allowed clock number act p p')
    (hSound : p.Sound p.requests) (hUnheld : p'.Unheld id handle made) :
    p.Unheld id handle made ∨ clock = some made.lastUse := by
  rcases h.handle_used hUnheld.made with hMade | hUsed
  · refine Or.inl ⟨?_, hMade, hUnheld.unused⟩
    refine ((h.registered hSound).found hSound.keys hUnheld.registered).resolve_right fun hFresh => ?_
    exact absurd hFresh (Nat.not_le_of_lt (List.getElem?_eq_some_iff.mp hMade).1)
  · exact Or.inr hUsed

/-- A scan leaves no unheld handle that has been unused for more than a linger. -/
theorem Unheld.of_swept (hKeys : p.registry.keys.Nodup)
    (h : (p.swept now).Unheld id handle made) : now ≤ made.lastUse + p.linger := by
  obtain ⟨hRegistered, hMade, hUnused⟩ := h
  rw [swept_registry, Table.get?_filter hKeys, Option.filter_eq_some_iff] at hRegistered
  have hFresh : ¬p.StaleAt now handle := by
    rw [← Site.isStale_iff]
    simpa using hRegistered.2
  exact Nat.le_of_not_lt fun hLate => hFresh ⟨made, hMade, hUnused, hLate⟩

/-! ### The reaper's hours -/

/-- As long as nobody ever asked a pool for anything, nothing is in it; a reaper about to go to
sleep has missed nothing; and one asleep wakes up within a linger, and before anything in the
registry can have been unused for two. -/
structure Timely (now : Instant) (p : Pool γ) : Prop where
  unasked : p.reaper = .idle → p.closed = false → p.requests = [] ∧ p.registry = []
  starting : p.reaper = .starting → ∀ id handle made, p.Unheld id handle made → now ≤ made.lastUse
  soon : ∀ ends, p.reaper = .asleep ends → ends ≤ now + p.linger
  asleep : ∀ ends, p.reaper = .asleep ends → ∀ id handle made, p.Unheld id handle made →
    ends ≤ made.lastUse + 2 * p.linger
  unbroken : p.reaper ≠ .broken
  stopped : p.reaper = .stopped → p.shutdown = true

theorem timely_of_isNew (h : World.IsNew p) : p.Timely now := by
  obtain ⟨linger, rfl, _⟩ := h
  exact ⟨fun _ _ => ⟨rfl, rfl⟩, nofun, nofun, nofun, nofun, nofun⟩

/-- Nothing comes into a pool that nobody asks and that has nothing in it. -/
theorem Change.unasked (h : Change allowed clock number act p p')
    (hUnasked : ∀ id, act ≠ .get number id) (hRequests : p.requests = [])
    (hRegistry : p.registry = []) : p'.requests = [] ∧ p'.registry = [] := by
  have hScanned {q : Pool γ} (h : Scanned allowed clock p q) :
      q.requests = [] ∧ q.registry = [] := by
    refine ⟨h.requests_eq.trans hRequests, ?_⟩
    rcases h with rfl | ⟨_, _, _, _, rfl⟩
    · exact hRegistry
    · rw [swept_registry, hRegistry]
      rfl
  have hNone {index : Nat} {r : Request} (h : p.requests[index]? = some r) : False := by
    rw [hRequests] at h
    cases h
  cases h with
  | tended scanned same =>
      obtain ⟨_, _, _, _, rfl, _⟩ := same
      exact ⟨(hScanned scanned).1, (hScanned scanned).2⟩
  | held => exact ⟨hRequests, hRegistry⟩
  | borrowed scanned | givenBack scanned | touched scanned =>
      exact ⟨(hScanned scanned).1, (hScanned scanned).2⟩
  | entered => exact absurd rfl (hUnasked _)
  | passed waits => exact (hNone waits).elim
  | followed dials => exact (hNone dials).elim
  | left waits => exact (hNone waits).elim
  | gaveUp dials => exact (hNone dials).elim
  | reported open_ made registered =>
      rw [hRegistry] at registered
      cases registered
  | closed => exact ⟨hRequests, rfl⟩

/-- A handle that is used now is used after everything that the reaper waits for. -/
theorem Timely.same (h : p.Timely now) (hLinger : p'.linger = p.linger)
    (hReaper : p'.reaper = p.reaper) (hShutdown : p.shutdown = true → p'.shutdown = true)
    (hUnasked : p'.reaper = .idle → p'.closed = false → p'.requests = [] ∧ p'.registry = [])
    (hUnheld : ∀ id handle made, p'.Unheld id handle made →
      p.Unheld id handle made ∨ made.lastUse = now) : p'.Timely now := by
  refine ⟨hUnasked, fun hStarting id handle made hIs => ?_, fun ends hAsleep => ?_,
    fun ends hAsleep id handle made hIs => ?_, ?_, fun hStopped => ?_⟩
  · rcases hUnheld id handle made hIs with hWas | hUsed
    · exact h.starting (hReaper ▸ hStarting) id handle made hWas
    · exact Nat.le_of_eq hUsed.symm
  · rw [hLinger]
    exact h.soon ends (hReaper ▸ hAsleep)
  · rw [hLinger]
    rcases hUnheld id handle made hIs with hWas | hUsed
    · exact h.asleep ends (hReaper ▸ hAsleep) id handle made hWas
    · exact Instant.within_two (h.soon ends (hReaper ▸ hAsleep))
        (Nat.le_trans (Nat.le_of_eq hUsed.symm) (Nat.le_add_right ..))
  · rw [hReaper]
    exact h.unbroken
  · exact hShutdown (h.stopped (hReaper ▸ hStopped))

/-- Acts other than its own turns do not change the hours of the reaper; the first request starts
it. -/
theorem Timely.attended (h : p.Timely now) (hSound : p.Sound p.requests)
    (hChange : Change allowed (some now) number act p p') (hAttended : Attended number act p p') :
    p'.Timely now := by
  have hUnheld (id : String) (handle : Nat) (made : Handle γ) (hIs : p'.Unheld id handle made) :
      p.Unheld id handle made ∨ made.lastUse = now :=
    (hChange.unheld hSound hIs).imp_right fun hUsed => (Option.some.inj hUsed).symm
  cases hAttended with
  | apart unasked unclosed same =>
      refine h.same hChange.linger_eq same.reaper (fun h => same.shutdown.trans h) ?_ hUnheld
      intro hIdle hOpen
      have hOpen : p.closed = false := same.closed.symm.trans hOpen
      obtain ⟨hRequests, hRegistry⟩ := h.unasked (same.reaper.symm.trans hIdle) hOpen
      refine hChange.unasked (fun id hGet => ?_) hRequests hRegistry
      cases (unasked id hGet).symm.trans hOpen
  | asked open_ same =>
      by_cases hIdle : p.reaper = .idle
      -- the first request: nothing was in the pool until now, so what is there was used just now
      · have hReaper : p'.reaper = .starting := by
          rw [same.reaper, roused, hIdle]
        refine ⟨?_, fun _ id handle made hIs => ?_, ?_, ?_, ?_, ?_⟩
        · simp [hReaper]
        · rcases hUnheld id handle made hIs with hWas | hUsed
          · have hFound := hWas.registered
            rw [(h.unasked hIdle open_).2] at hFound
            cases hFound
          · exact Nat.le_of_eq hUsed.symm
        all_goals simp [hReaper]
      · have hReaper : p'.reaper = p.reaper := by
          rw [same.reaper, roused]
          dsimp only
          split
          · next hIs => exact absurd hIs hIdle
          · rfl
        refine h.same hChange.linger_eq hReaper (fun h => same.shutdown.trans h) ?_ hUnheld
        intro hIs
        exact absurd (hReaper.symm.trans hIs) hIdle
  | closed open_ closed shutdown reaper =>
      refine ⟨?_, ?_, ?_, ?_, ?_, fun _ => shutdown⟩
      all_goals simp [reaper]

/-- A reaper that goes to sleep now is in time if nothing has been unused for more than a linger. -/
theorem timely_asleep (hReaper : p.reaper = .asleep (now + p.linger.slept))
    (hUsed : ∀ id handle made, p.Unheld id handle made → now ≤ made.lastUse + p.linger) :
    p.Timely now := by
  have hSoon : now + p.linger.slept ≤ now + p.linger :=
    Nat.add_le_add_left (Duration.slept_le _) now
  refine ⟨?_, ?_, fun ends hAsleep => ?_, fun ends hAsleep id handle made hIs => ?_, ?_, ?_⟩
  · rw [hReaper]
    nofun
  · rw [hReaper]
    nofun
  · cases hReaper.symm.trans hAsleep
    exact hSoon
  · cases hReaper.symm.trans hAsleep
    exact Instant.within_two hSoon (hUsed id handle made hIs)
  · rw [hReaper]
    nofun
  · rw [hReaper]
    nofun

/-- In its turn the reaper goes to sleep for a linger, or sleeps on. -/
theorem Timely.turned {attempt : ScanAttempt} (h : p.Timely now)
    (hKeys : p.registry.keys.Nodup) (hTurned : p.Turned now (some now) attempt p')
    (hFree : attempt ≠ .skipped) : p'.Timely now := by
  cases hTurned with
  | off ended shutdown lasting leaves =>
      exact h.same rfl rfl lasting h.unasked fun _ _ _ hIs =>
        Or.inl ⟨hIs.registered, hIs.made, hIs.unused⟩
  | stopped => exact ⟨nofun, nofun, nofun, nofun, nofun, fun _ => rfl⟩
  | rested starts stays =>
      refine timely_asleep rfl fun id handle made hIs => ?_
      have hFresh := h.starting starts id handle made ⟨hIs.registered, hIs.made, hIs.unused⟩
      exact Nat.le_trans hFresh (Nat.le_add_right ..)
  | slept => exact h
  | scanned running stays wakes =>
      have hBusy : p.busy = false := by
        cases hBusy : p.busy with
        | false => rfl
        | true => exact absurd (if_pos hBusy) hFree
      have hReaped : p.reaped now (some now) =
          { p.swept now with reaper := .asleep (now + p.linger.slept) } := by
        simp [reaped, hBusy]
      rw [hReaped]
      refine timely_asleep rfl fun id handle made hIs => ?_
      have hKept : (p.swept now).Unheld id handle made :=
        ⟨hIs.registered, hIs.made, hIs.unused⟩
      have hUsed := hKept.of_swept hKeys
      exact hUsed

/-- Time does not pass while the reaper is about to go to sleep. -/
theorem Timely.passed {moment : Instant} (h : p.Timely now)
    (hAwaits : now < moment → World.reaperReady now p = false) : p.Timely (max now moment) := by
  by_cases hLater : now < moment
  · have hReady := hAwaits hLater
    refine ⟨h.unasked, fun hStarting => ?_, fun ends hAsleep => ?_, h.asleep, h.unbroken,
      h.stopped⟩
    · rw [World.reaperReady, hStarting] at hReady
      cases hReady
    · exact Nat.le_trans (h.soon ends hAsleep) (Nat.add_le_add_right (Nat.le_max_left ..) _)
  · rw [Nat.max_eq_left (Nat.le_of_not_lt hLater)]
    exact h

end Pool

namespace World

open Surroundings Pool

variable [Dialer δ γ] {w : World δ γ} {number : Nat} {p : Pool γ}

/-- No act changes the clock but one that moves it on, and one that makes it readable again. -/
theorem perform_clock (act : Act δ) (w : World δ γ) :
    (w.perform act).env.clock = w.env.clock ∨
      (∃ span, w.env.clock.advance span = some (w.perform act).env.clock) ∨
      (w.perform act).env.clock = w.env.clock.mended := by
  by_cases hConcerns : ∃ number, act.Concerns number
  · obtain ⟨number, hConcerns⟩ := hConcerns
    exact Or.inl (perform_beside hConcerns w).clock
  · cases act with
    | openPool linger => exact Or.inl (perform_openPool linger w).clock
    | look => exact Or.inl (probeElsewhere_beside 1 w).clock
    | create id token => exact Or.inl (DialSequence.start_noted id _ w.env).clock
    | resumeCreation creation =>
        refine Or.inl ?_
        show (w.resumeCreation creation).env.clock = _
        unfold resumeCreation
        split
        · exact (DialSequence.resume_noted ..).clock
        · rfl
    | advance span =>
        rw [perform_advance_eq]
        cases hMoved : w.env.clock.advance span with
        | none => exact Or.inl rfl
        | some clock => exact Or.inr (Or.inl ⟨span, hMoved⟩)
    | mend => exact Or.inr (Or.inr rfl)
    | dropCreation _ | cancel _ | firstContact _ | shutFactory | order _ | pass _ | probe _ =>
        exact Or.inl rfl
    | _ => exact absurd ⟨_, rfl⟩ hConcerns

/-- A clock that follows the run goes on doing so. -/
theorem perform_system (hClock : w.env.clock = .system) (act : Act δ) :
    (w.perform act).env.clock = .system := by
  rcases perform_clock act w with hSame | ⟨span, hMoved⟩ | hMended
  · exact hSame.trans hClock
  · rw [hClock] at hMoved
    cases hMoved
  · rw [hMended, hClock]
    rfl

/-- What the pool with this number makes of its time. -/
def TimelyAt (number : Nat) (w : World δ γ) : Prop :=
  ∀ p, w.pools[number]? = some p → p.Timely w.env.now

theorem perform_timely {act : Act δ} (hReachable : w.Reachable) (hClock : w.env.clock = .system)
    (hAwaits : w.Awaits number act) (hFree : act = .reap number → ¬w.ReaperSkips number)
    (hTimely : w.TimelyAt number) : (w.perform act).TimelyAt number := by
  have hShown : w.env.shown = some w.env.now := by
    rw [shown, hClock]
    rfl
  intro p' hp'
  cases hp : w.pools[number]? with
  | none => exact timely_of_isNew ((perform_spec act w).opened number p' hp hp')
  | some p =>
      have hWas := hTimely p hp
      have hSound := hReachable.sound hp
      by_cases hPass : ∃ moment, act = .pass moment
      · obtain ⟨moment, rfl⟩ := hPass
        cases hp.symm.trans hp'
        exact hWas.passed fun hLater => hAwaits moment rfl hLater p' hp
      · rw [perform_now w (not_exists.mp hPass)]
        by_cases hTurn : act = .reap number
        · subst hTurn
          obtain ⟨attempt, q, hq, hTurned, _, hSkips⟩ := perform_reaped hp
          cases hq.symm.trans hp'
          rw [hShown] at hTurned
          exact hWas.turned hSound.keys hTurned (mt hSkips.mpr (hFree rfl))
        · obtain ⟨q, hq, hAttended⟩ := perform_attended hTurn hp
          obtain ⟨q', hq', hChange⟩ := (perform_spec act w).pools number p hp
          cases hq.symm.trans hp'
          cases hq'.symm.trans hp'
          rw [hShown] at hChange
          exact hWas.attended hSound hChange hAttended

theorem performAll_timely {acts : List (Act δ)} (hReachable : w.Reachable)
    (hClock : w.env.clock = .system) (hAwaits : Throughout (Awaits number) acts w)
    (hFree : Throughout (fun w act => act = .reap number → ¬w.ReaperSkips number) acts w)
    (hTimely : w.TimelyAt number) : (w.performAll acts).TimelyAt number := by
  induction acts generalizing w with
  | nil => exact hTimely
  | cons act rest ih =>
      exact ih (hReachable.perform act) (perform_system hClock act) hAwaits.2 hFree.2
        (perform_timely hReachable hClock hAwaits.1 hFree.1 hTimely)

/-- On a clock that follows the run, a pool whose reaper is prompt and never has to skip a scan
keeps no handle unused for two lingers that nobody holds: whatever was done to the pool, and
whenever, at every moment at which the reaper has done what is due, the last use of such a handle
is less than two lingers ago. -/
theorem idle_within_two_lingers {env : Surroundings δ} {acts : List (Act δ)}
    (hClock : env.clock = .system) (hAwaits : Throughout (Awaits number) acts { env })
    (hFree : Throughout (fun w act => act = .reap number → ¬w.ReaperSkips number) acts { env })
    (hp : (performAll acts { env }).pools[number]? = some p) (hKept : p.Kept)
    (hDone : reaperReady (performAll acts { env }).env.now p = false) (id : String) (handle : Nat)
    (h : Handle γ) (hUnheld : p.Unheld id handle h) :
    h.idleFor (performAll acts { env }).env.now < 2 * p.linger := by
  have hReachable : (performAll acts ({ env } : World δ γ)).Reachable := ⟨env, acts, rfl⟩
  have hTimely := performAll_timely ⟨env, [], rfl⟩ hClock hAwaits hFree
    (fun p hp => by cases hp) p hp
  have hShut (hShutdown : p.shutdown = true) : False := by
    have hFound := hUnheld.registered
    rw [(hReachable.shut hp (hKept hShutdown)).registry] at hFound
    cases hFound
  cases hReaper : p.reaper with
  | idle =>
      cases hClosed : p.closed with
      | true => exact (hShut (hReachable.shut hp hClosed).shutdown).elim
      | false =>
          have hFound := hUnheld.registered
          rw [(hTimely.unasked hReaper hClosed).2] at hFound
          cases hFound
  | starting =>
      rw [reaperReady, hReaper] at hDone
      cases hDone
  | asleep ends =>
      have hSoon := hTimely.soon ends hReaper
      have hBound := hTimely.asleep ends hReaper id handle h hUnheld
      rw [reaperReady, hReaper] at hDone
      simp only [Bool.or_eq_false_iff, decide_eq_false_iff_not, Nat.not_le] at hDone
      exact Instant.idle_of_lt (Nat.lt_of_lt_of_le hDone.2 hSoon)
        (Nat.lt_of_lt_of_le hDone.2 hBound)
  | broken => exact absurd hReaper hTimely.unbroken
  | stopped => exact (hShut (hTimely.stopped hReaper)).elim

/-- A handle given back at once, after one scan that found it unused for exactly a linger. -/
def lingering : List (Act (FixedDialer Nat)) :=
  [.openPool 10, .get 0 "db", .giveBack ⟨0, 0⟩, .reap 0, .pass 10, .reap 0, .pass 19]

def lingeringEnv : Surroundings (FixedDialer Nat) :=
  { factory := { dialer := { connection := 7 } } }

theorem lingering_bounded : ∃ p h,
    (performAll lingering { env := lingeringEnv }).pools[0]? = some p ∧ p.linger = 10 ∧
      p.handles[0]? = some h ∧
      h.idleFor (performAll lingering { env := lingeringEnv }).env.now = 19 ∧
      h.idleFor (performAll lingering { env := lingeringEnv }).env.now < 2 * p.linger := by
  have hReady {w : World (FixedDialer Nat) Nat} {moment : Instant} {p : Pool Nat}
      (hp : w.pools[0]? = some p) (hDone : reaperReady w.env.now p = false) :
      w.Awaits 0 (.pass moment) := by
    rintro _ ⟨⟩ _ q hq
    cases hp.symm.trans hq
    exact hDone
  have hFree {w : World (FixedDialer Nat) Nat} {p : Pool Nat} (hp : w.pools[0]? = some p)
      (hFree : p.busy = false) : Act.reap 0 = (.reap 0 : Act (FixedDialer Nat)) →
        ¬w.ReaperSkips 0 := fun _ hSkips => by
    cases hFree.symm.trans (busy_of_reaperSkips hp hSkips)
  have hAwaits : Throughout (Awaits 0) lingering ({ env := lingeringEnv } : World _ Nat) :=
    ⟨nofun, nofun, nofun, nofun, hReady rfl rfl, nofun, hReady rfl rfl, trivial⟩
  have hMade : Throughout (fun w act => act = .reap 0 → ¬w.ReaperSkips 0) lingering
      ({ env := lingeringEnv } : World _ Nat) :=
    ⟨nofun, nofun, nofun, hFree rfl rfl, nofun, hFree rfl rfl, nofun, trivial⟩
  refine ⟨_, _, rfl, rfl, rfl, rfl, ?_⟩
  exact idle_within_two_lingers rfl hAwaits hMade rfl (by nofun) rfl "db" 0 _ ⟨rfl, rfl, rfl⟩

end World

end Tether
