import Tether.Proofs.Signals

/-! When a reaper scans. Asleep, it keeps at most two of the signals that call on it; about to go to
sleep, at most one. After its last scan it sleeps for a whole linger, unless another signal reaches
it or the pool is closed. -/

namespace Tether

variable {δ γ : Type}

namespace World

open Surroundings Pool

variable {w : World δ γ} {number : Nat} {p : Pool γ} [Dialer δ γ] {act : Act δ}

/-! ### Calls on the reaper -/

/-- How often the reaper of the pool has been called on since it last ran, once this act is done. -/
def callsAfter (number : Nat) (w : World δ γ) (calls : Nat) (act : Act δ) : Nat :=
  match w.pools[number]?, act with
  | some _, .wake pool => if pool = number then calls + 1 else calls
  | some p, .reap pool => if pool = number ∧ p.reaper.isRunning then 0 else calls
  | _, _ => calls

/-- And once a run is done. -/
def callsAlong (number : Nat) : List (Act δ) → World δ γ → Nat → Nat
  | [], _, calls => calls
  | act :: rest, w, calls => callsAlong number rest (w.perform act) (w.callsAfter number calls act)

/-- The reaper of the pool with this number, if it was opened, keeps what it was told. -/
structure HearsAt (number calls : Nat) (w : World δ γ) : Prop where
  unopened : w.pools[number]? = none → calls = 0
  opened : ∀ p, w.pools[number]? = some p → p.Hears calls

end World

namespace Pool

variable {number calls : Nat} {act : Act δ} {p p' : Pool γ}

theorem hears_of_isNew (h : World.IsNew p) : p.Hears 0 := by
  obtain ⟨linger, rfl, _⟩ := h
  exact ⟨fun _ => rfl, fun _ _ => rfl⟩

theorem Hears.attended (h : p.Hears calls) (hAttended : Attended number act p p')
    (hWakes : p'.wakes = p.wakes) : p'.Hears calls := by
  cases hAttended with
  | apart unasked unclosed same =>
      refine ⟨fun hAwake => ?_, fun ends hAsleep => ?_⟩
      · rw [same.reaper] at hAwake
        exact hWakes.trans (h.awake hAwake)
      · rw [same.reaper] at hAsleep
        exact hWakes.trans (h.asleep ends hAsleep)
  | asked open_ same =>
      have hRoused : p.roused.reaper = p.reaper ∨ p.reaper = .idle ∧ p.roused.reaper = .starting := by
        unfold roused
        cases p.reaper <;> simp
      rw [← same.reaper] at hRoused
      refine ⟨fun hAwake => hWakes.trans (h.awake ?_), fun ends hAsleep => ?_⟩
      · rcases hRoused with hSame | ⟨hIdle, _⟩
        · exact hSame ▸ hAwake
        · exact Or.inl hIdle
      · rcases hRoused with hSame | ⟨_, hStarting⟩
        · exact hWakes.trans (h.asleep ends (hSame ▸ hAsleep))
        · cases hStarting.symm.trans hAsleep
  | closed open_ closed shutdown reaper =>
      exact ⟨fun hAwake => by simp [reaper] at hAwake, fun ends hAsleep => by simp [reaper] at hAsleep⟩

end Pool

namespace World

open Surroundings Pool

variable {w : World δ γ} {number calls : Nat} {p : Pool γ} [Dialer δ γ] {act : Act δ}

theorem perform_hears_of_pool (hp : w.pools[number]? = some p) (h : p.Hears calls) (act : Act δ) :
    ∃ p', (w.perform act).pools[number]? = some p' ∧
      p'.Hears (w.callsAfter number calls act) := by
  by_cases hWake : act = .wake number
  · subst hWake
    refine ⟨p.wake, updatePool_self hp _, ?_⟩
    simp only [callsAfter, hp, ↓reduceIte]
    exact h.wake
  by_cases hTurn : act = .reap number
  · subst hTurn
    refine ⟨_, reap_pool hp, ?_⟩
    cases hRunning : p.reaper.isRunning with
    | true =>
        simp only [callsAfter, hp, hRunning, and_self, ↓reduceIte]
        exact Site.tend_hears hRunning
    | false =>
        simp only [callsAfter, hp, hRunning, Bool.false_eq_true, and_false, ↓reduceIte]
        obtain ⟨attempt, hTurned, _⟩ := Site.tend_turned (w.site number p)
        generalize (w.site number p).tend.pool = p' at hTurned ⊢
        have hEnded : (w.site number p).pool.reaper.isRunning = false := hRunning
        cases hTurned with
        | off => exact ⟨h.awake, h.asleep⟩
        | stopped running => cases hEnded.symm.trans running
        | rested starts => simp [starts, Reaper.isRunning] at hEnded
        | slept asleep => simp [asleep, Reaper.isRunning] at hEnded
        | scanned running => cases hEnded.symm.trans running
  · obtain ⟨p', hp', hAttended⟩ := perform_attended hTurn hp
    obtain ⟨q, hq, hWakes⟩ := perform_wakes hTurn hWake hp
    cases hp'.symm.trans hq
    refine ⟨p', hp', ?_⟩
    have hSame : w.callsAfter number calls act = calls := by
      unfold callsAfter
      split
      · next pool _ =>
        exact if_neg fun hPool => hWake (by rw [hPool])
      · next pool _ =>
        exact if_neg fun hPool => hTurn (by rw [hPool.1])
      · rfl
    rw [hSame]
    exact h.attended hAttended hWakes

theorem perform_hears (h : w.HearsAt number calls) (act : Act δ) :
    (w.perform act).HearsAt number (w.callsAfter number calls act) := by
  cases hp : w.pools[number]? with
  | none =>
      have hNone : w.callsAfter number calls act = 0 := by
        simp only [callsAfter, hp]
        exact h.unopened hp
      rw [hNone]
      exact ⟨fun _ => rfl, fun p' hp' =>
        hears_of_isNew ((perform_spec act w).opened number p' hp hp')⟩
  | some p =>
      obtain ⟨p', hp', hHears⟩ := perform_hears_of_pool hp (h.opened p hp) act
      refine ⟨fun hNone => ?_, fun q hq => ?_⟩
      · cases hNone.symm.trans hp'
      · cases hp'.symm.trans hq
        exact hHears

theorem performAll_hears (acts : List (Act δ)) (h : w.HearsAt number calls) :
    (w.performAll acts).HearsAt number (callsAlong number acts w calls) := by
  induction acts generalizing w calls with
  | nil => exact h
  | cons act rest ih => exact ih (perform_hears h act)

/-! ### Sleep -/

/-- The reaper of the pool is asleep until this moment, and has no signal to answer. -/
def Slumbers (number : Nat) (ends : Instant) (w : World δ γ) : Prop :=
  ∃ p, w.pools[number]? = some p ∧ p.closed = false ∧ p.shutdown = false ∧
    p.reaper = .asleep ends ∧ p.wakes = 0 ∧ w.env.now ≤ ends

/-- Between its scans nothing wakes the reaper but a signal and nothing ends its sleep but a close. -/
theorem perform_slumbers {ends : Instant} (h : w.Slumbers number ends)
    (hOrderly : w.Orderly number act) (hCalls : act ≠ .wake number ∧ act ≠ .close number)
    (hNone : act = .reap number → w.reaperAttempts number = 0) :
    (w.perform act).Slumbers number ends := by
  obtain ⟨p, hp, hOpen, hStays, hAsleep, hWakes, hEarly⟩ := h
  by_cases hPass : ∃ moment, act = .pass moment
  · obtain ⟨moment, rfl⟩ := hPass
    refine ⟨p, hp, hOpen, hStays, hAsleep, hWakes, ?_⟩
    by_cases hLater : w.env.now < moment
    · exact Nat.max_le.mpr ⟨hEarly, hOrderly.prompt.within moment rfl hLater p hp ends hAsleep⟩
    · exact Nat.max_le.mpr ⟨hEarly, Nat.le_trans (Nat.le_of_not_lt hLater) hEarly⟩
  have hNow : (w.perform act).env.now ≤ ends := by
    rw [perform_now w (not_exists.mp hPass)]
    exact hEarly
  by_cases hTurn : act = .reap number
  · subst hTurn
    obtain ⟨attempt, p', hp', hTurned, hReads, hSkips⟩ := perform_reaped hp
    cases hTurned with
    | off ended => simp [hAsleep, Reaper.isRunning] at ended
    | stopped =>
        have hClosed := hOrderly.kept _ hp' rfl
        cases hOpen.symm.trans hClosed
    | rested starts => cases starts.symm.trans hAsleep
    | slept => exact ⟨p, hp', hOpen, hStays, hAsleep, hWakes, hNow⟩
    | scanned =>
        have hScans : w.ReaperScans number := by
          cases hBusy : p.busy with
          | true => exact Or.inr (hSkips.mpr (if_pos hBusy))
          | false => exact Or.inl (hReads.mpr (if_neg (Bool.eq_false_iff.mp hBusy)))
        have hSome := (reaperAttempts_pos_iff hp).mpr hScans
        rw [hNone rfl] at hSome
        cases hSome
  · obtain ⟨p', hp', hAttended⟩ := perform_attended hTurn hp
    obtain ⟨q, hq, hSame⟩ := perform_wakes hTurn hCalls.1 hp
    cases hp'.symm.trans hq
    cases hAttended with
    | apart unasked unclosed same =>
        exact ⟨p', hp', same.closed.trans hOpen, same.shutdown.trans hStays,
          same.reaper.trans hAsleep, hSame.trans hWakes, hNow⟩
    | asked open_ same =>
        have hReaper : p.roused.reaper = p.reaper := by
          rw [roused, hAsleep]
        exact ⟨p', hp', same.closed.trans hOpen, same.shutdown.trans hStays,
          same.reaper.trans (hReaper.trans hAsleep), hSame.trans hWakes, hNow⟩
    | closed => exact absurd rfl hCalls.2

theorem performAll_slumbers {ends : Instant} {acts : List (Act δ)} (h : w.Slumbers number ends)
    (hOrderly : Throughout (Orderly number) acts w)
    (hCalls : ∀ act ∈ acts, act ≠ .wake number ∧ act ≠ .close number)
    (hNone : Throughout (fun w act => act = .reap number → w.reaperAttempts number = 0) acts w) :
    (w.performAll acts).Slumbers number ends := by
  induction acts generalizing w with
  | nil => exact h
  | cons act rest ih =>
      exact ih (perform_slumbers h hOrderly.1 (hCalls act List.mem_cons_self) hNone.1) hOrderly.2
        (fun act hAct => hCalls act (List.mem_cons_of_mem _ hAct)) hNone.2

/-- After its scans the reaper sleeps for a linger. -/
theorem slumbers_of_scans (hReachable : w.Reachable) (hp : w.pools[number]? = some p)
    (hOrderly : w.Orderly number (.reap number)) (hScans : w.ReaperScans number) :
    (w.perform (.reap number)).Slumbers number (w.env.now + p.linger.slept) := by
  obtain ⟨q, hq, hRunning, hStays⟩ := reaperScans_spec hScans
  cases hp.symm.trans hq
  have hOpen : p.closed = false := by
    cases hClosed : p.closed with
    | false => rfl
    | true => cases hStays.symm.trans (hReachable.shut hp hClosed).shutdown
  have hHears := Site.tend_hears (s := w.site number p) hRunning
  obtain ⟨attempt, p', hp', hTurned, hReads, hSkips⟩ := perform_reaped hp
  cases (reap_pool hp).symm.trans hp'
  generalize (w.site number p).tend.pool = p' at hp' hTurned hHears
  have hAttempt : attempt ≠ .none := by
    rintro rfl
    rcases hScans with h | h
    · cases hReads.mp h
    · cases hSkips.mp h
  cases hTurned with
  | scanned running stays wakes =>
      have hSees (hFree : p.busy = false) : w.env.shown ≠ none :=
        hOrderly.sees rfl (hReads.mpr (if_neg (Bool.eq_false_iff.mp hFree)))
      have hSteady := reaped_steady w.env.now hSees
      have hNow : (w.perform (.reap number)).env.now = w.env.now := perform_now w nofun
      refine ⟨_, hp', hSteady.closed.trans hOpen, hSteady.shutdown.trans hStays, hSteady.reaper,
        hHears.asleep _ hSteady.reaper, ?_⟩
      rw [hNow]
      exact Nat.le_add_right ..
  | _ => exact absurd rfl hAttempt

/-- Calls on a reaper that is asleep, since it last ran, come to two scans, or to one if there was
only one; calls on a reaper that has just been started, since its pool was opened, come to one scan.
They are made without time passing. After the last of its scans, whatever it was due to, the next one
comes after exactly a linger, unless it is called on or the pool is closed before. Only a registry
held elsewhere makes it skip a scan. -/
theorem wake_schedule {env : Surroundings δ} {acts : List (Act δ)}
    (hRun : w = performAll acts { env }) (hp : w.pools[number]? = some p)
    (hSleep : p.linger.slept = p.linger) (hOrderly : w.Orderly number (.reap number)) :
    (∀ ends, p.reaper = .asleep ends → 1 ≤ callsAlong number acts { env } 0 →
      reaperReady w.env.now p = true ∧
        w.reaperAttempts number = min (callsAlong number acts { env } 0) 2) ∧
    (p.reaper = .starting → 1 ≤ callsAlong number acts { env } 0 →
      reaperReady w.env.now p = true ∧ w.reaperAttempts number = 1) ∧
    (0 < w.reaperAttempts number → ∀ later w', w' = (w.perform (.reap number)).performAll later →
      Throughout (Orderly number) later (w.perform (.reap number)) →
      (∀ act ∈ later, act ≠ .wake number ∧ act ≠ .close number) →
      Throughout (fun w act => act = .reap number → w.reaperAttempts number = 0) later
        (w.perform (.reap number)) →
      w'.Orderly number (.reap number) →
      w'.env.now ≤ w.env.now + p.linger ∧
        w'.reaperAttempts number = if w'.env.now = w.env.now + p.linger then 1 else 0) ∧
    (w.ReaperSkips number → p.busy = true) := by
  have hReachable : w.Reachable := ⟨env, acts, hRun⟩
  have hHears : p.Hears (callsAlong number acts ({ env } : World δ γ) 0) := by
    have hStart : ({ env } : World δ γ).HearsAt number 0 := ⟨fun _ => rfl, nofun⟩
    exact (performAll_hears acts hStart).opened p (hRun ▸ hp)
  have hOpen (hRunning : p.reaper.isRunning = true) : p.closed = false := by
    cases hClosed : p.closed with
    | false => rfl
    | true =>
        rw [(hReachable.shut hp hClosed).reaper] at hRunning
        cases hRunning
  have hDue (hRunning : p.reaper.isRunning = true) :
      w.reaperAttempts number = p.scansDue w.env.now :=
    perform_scansDue hp (hReachable.linger_pos hp) hRunning (hOpen hRunning) hOrderly
  refine ⟨fun ends hAsleep hCalled => ?_, fun hStarting hCalled => ?_, ?_,
    busy_of_reaperSkips hp⟩
  · have hWakes := hHears.asleep ends hAsleep
    have hSome : 0 < p.wakes := by omega
    refine ⟨by simp [reaperReady, hAsleep, hSome], ?_⟩
    rw [hDue (by rw [hAsleep]; rfl), scansDue_of_wakes hSome, hWakes]
  · have hWakes := hHears.awake (Or.inr hStarting)
    have hOne : p.wakes = 1 := by omega
    refine ⟨by simp [reaperReady, hStarting], ?_⟩
    rw [hDue (by rw [hStarting]; rfl), scansDue_of_wakes (by omega), hOne]
  · rintro hSome later w' rfl hThroughout hCalls hNone hLast
    have hScans := (reaperAttempts_pos_iff hp).mp hSome
    have hSlumbers := slumbers_of_scans hReachable hp hOrderly hScans
    rw [hSleep] at hSlumbers
    obtain ⟨q, hq, hOpen, _, hAsleep, hWakes, hEarly⟩ :=
      performAll_slumbers hSlumbers hThroughout hCalls hNone
    have hPositive := ((hReachable.perform (.reap number)).performAll later).linger_pos hq
    refine ⟨hEarly, ?_⟩
    rw [perform_scansDue hq hPositive (by rw [hAsleep]; rfl) hOpen hLast,
      scansDue_of_asleep hWakes hAsleep]
    exact if_congr ⟨fun hLate => Nat.le_antisymm hEarly hLate, fun h => Nat.le_of_eq h.symm⟩ rfl rfl

/-- A reaper that was called on before it was started, and three times once it was asleep. -/
def calledOn : List (Act (FixedDialer Nat)) :=
  [.openPool 10, .wake 0, .get 0 "", .reap 0, .wake 0, .wake 0, .wake 0]

def calledOnEnv : Surroundings (FixedDialer Nat) :=
  { factory := { dialer := { connection := 7 } } }

theorem calledOn_scans :
    let w : World (FixedDialer Nat) Nat := performAll calledOn { env := calledOnEnv }
    w.reaperAttempts 0 = 2 ∧
      ((w.perform (.reap 0)).performAll [.pass 10]).reaperAttempts 0 = 1 := by
  intro w
  have hSees (w : World (FixedDialer Nat) Nat) (act : Act (FixedDialer Nat))
      (hClock : w.env.clock = .system) : w.Sees 0 act := fun _ _ hBlind => by
    rw [Surroundings.shown, hClock] at hBlind
    cases hBlind
  have hPrompt (w : World (FixedDialer Nat) Nat) (act : Act (FixedDialer Nat))
      (hAct : ∀ moment, act ≠ .pass moment) : w.Prompt 0 act :=
    ⟨fun moment h => absurd h (hAct moment), fun moment h => absurd h (hAct moment)⟩
  have hKept {w : World (FixedDialer Nat) Nat} (hStays : w.pools[0]?.map Pool.shutdown = some false)
      (r : Pool Nat) (hr : w.pools[0]? = some r) : r.Kept := by
    rw [hr] at hStays
    exact fun hShutdown => by cases (Option.some.inj hStays).symm.trans hShutdown
  have hSeen : w.pools[0]?.map (fun p => (p.linger, p.reaper)) = some (10, .asleep 10) := by
    decide +kernel
  obtain ⟨p, hp, hView⟩ := Option.map_eq_some_iff.mp hSeen
  obtain ⟨hLinger, hReaper⟩ := Prod.mk.inj hView
  obtain ⟨hAsleep, _, hAfter, _⟩ := wake_schedule (w := w) rfl hp (by rw [hLinger]; decide)
    ⟨hPrompt _ _ (by simp), hSees _ _ (by decide +kernel), hKept (by decide +kernel)⟩
  have hCalls : callsAlong 0 calledOn ({ env := calledOnEnv } : World _ Nat) 0 = 3 := by
    decide +kernel
  rw [hCalls] at hAsleep
  obtain ⟨_, hTwo⟩ := hAsleep 10 hReaper (by decide)
  refine ⟨hTwo, ?_⟩
  have hPass : (w.perform (.reap 0)).Orderly 0 (.pass 10) := by
    have hNext : (w.perform (.reap 0)).nextDue = some 10 := by decide +kernel
    refine ⟨prompt_of_settled (by decide +kernel) fun due hDue => ?_, hSees _ _ (by decide +kernel),
      hKept (by decide +kernel)⟩
    cases hNext.symm.trans hDue
    exact Nat.le_refl _
  obtain ⟨_, hOne⟩ := hAfter (by rw [hTwo]; decide) [.pass 10] _ rfl ⟨hPass, trivial⟩ (by simp)
    ⟨by simp, trivial⟩
    ⟨hPrompt _ _ (by simp), hSees _ _ (by decide +kernel), hKept (by decide +kernel)⟩
  rw [hOne, hLinger]
  decide +kernel

end World

end Tether
