import Tether.Proofs.Timetable
import Tether.Proofs.Vigil

/-! The signals that call on a reaper, and how many scans it makes of them. Nothing but such calls and
its own turns touches the signals that it keeps, and in its turn it answers every one with a scan. -/

namespace Tether

variable {δ γ : Type}

/-- Whether the event is that a scan was skipped. -/
def Event.isSkip : Event → Bool
  | .scanSkipped _ => true
  | _ => false

/-- Scans attempted so far: each reads the clock or is noted as skipped. -/
def Surroundings.attempts (env : Surroundings δ) : Nat :=
  env.readings + env.events.countP Event.isSkip

theorem Event.Serves.not_skip {e : Event} (h : e.Serves) : e.isSkip = false := by
  cases e <;> first | rfl | cases h

namespace Pool

variable {allowed : Prop} {clock : Option Instant} {now : Instant} {number : Nat} {act : Act δ}
  {p p' : Pool γ} {state : RequestState}

theorem linger_pos_of_isNew (h : World.IsNew p) : 0 < p.linger := by
  obtain ⟨linger, rfl, hSome⟩ := h
  exact hSome

/-- How many scans the reaper has to make now, if it runs. -/
def scansDue (now : Instant) (p : Pool γ) : Nat :=
  match p.wakes, p.reaper with
  | 0, .asleep ends => if ends ≤ now then 1 else 0
  | wakes, _ => wakes

theorem scansDue_of_wakes (h : 0 < p.wakes) : p.scansDue now = p.wakes := by
  unfold scansDue
  split
  · next hNone _ => simp [hNone] at h
  · rfl

/-- Where nobody called, a scan is due once the sleep is over. -/
theorem scansDue_of_asleep {ends : Instant} (hWakes : p.wakes = 0) (hAsleep : p.reaper = .asleep ends) :
    p.scansDue now = if ends ≤ now then 1 else 0 := by
  simp [scansDue, hWakes, hAsleep]

/-- The pool cannot be scanned, because the registry is free and the clock cannot be read. -/
def Blind (clock : Option Instant) (p : Pool γ) : Prop := p.busy = false ∧ clock = none

/-! ### The signals that are kept -/

theorem Scanned.wakes_eq (h : Scanned allowed clock p p') : p'.wakes = p.wakes := by
  rw [h.eq]

theorem Followed.wakes_eq {gate : Nat} {id dialed : String} {progress : DialProgress γ}
    (h : Followed clock gate id dialed p progress state p') : p'.wakes = p.wakes := by
  cases h <;> rfl

theorem Looked.wakes_eq {id : String} (h : Looked allowed clock id p state p') :
    p'.wakes = p.wakes := by
  cases h with
  | dials lacks scanned follows => exact follows.wakes_eq.trans scanned.wakes_eq
  | _ => rfl

theorem Entered.wakes_eq {id : String} (h : Entered allowed clock id p state p') :
    p'.wakes = p.wakes := by
  cases h with
  | looked open_ named looks => exact looks.wakes_eq
  | _ => rfl

theorem Passed.wakes_eq {gate : Nat} {id : String} (h : Passed allowed clock gate id p state p') :
    p'.wakes = p.wakes := by
  cases h with
  | looked decided looks => exact looks.wakes_eq
  | _ => rfl

/-- After its scan the reaper sleeps for a linger, unless it broke. -/
theorem reaped_reaper (now : Instant) (clock : Option Instant) (p : Pool γ) :
    (p.reaped now clock).reaper = .asleep (now + p.linger.slept) ∨
      (p.reaped now clock).reaper = .broken := by
  unfold reaped
  split
  · exact Or.inl rfl
  · cases clock with
    | none => exact Or.inr rfl
    | some shown => exact Or.inl rfl

/-- The reaper of the pool keeps what it was told since it last ran, as far as it keeps such signals
at all: two while it is asleep, and one until then. -/
structure Hears (calls : Nat) (p : Pool γ) : Prop where
  awake : p.reaper = .idle ∨ p.reaper = .starting → p.wakes = min calls 1
  asleep : ∀ ends, p.reaper = .asleep ends → p.wakes = min calls 2

theorem Hears.wake {calls : Nat} (h : p.Hears calls) : p.wake.Hears (calls + 1) := by
  refine ⟨fun hAwake => ?_, fun ends hAsleep => ?_⟩
  · have hWakes := h.awake hAwake
    rcases hAwake with hReaper | hReaper
    all_goals
      simp only [Pool.wake] at hReaper ⊢
      simp only [hReaper, hWakes]
      omega
  · have hWakes := h.asleep ends hAsleep
    simp only [Pool.wake] at hAsleep ⊢
    simp only [hAsleep, hWakes]
    omega

end Pool

namespace Site

open Surroundings Pool

variable {s : Site δ γ}

theorem scan_wakes (s : Site δ γ) : s.scan.2.pool.wakes = s.pool.wakes := (scan_spec s).2.wakes_eq

/-- A scan that finds the registry free is one attempt, with whatever answer. -/
theorem scan_attempts (hFree : s.pool.busy = false) :
    s.scan.2.env.attempts = s.env.attempts + 1 := by
  obtain ⟨fresh, hFresh, hServes⟩ := (scan_serves s).events
  have hNone : fresh.countP Event.isSkip = 0 :=
    List.countP_eq_zero.mpr fun e he => by simp [(hServes e he).not_skip]
  simp only [attempts, (scan_of_free hFree).1, hFresh, List.countP_append, hNone]
  omega

/-- One more scan was attempted, and no signal was answered by it. -/
theorem reap_attempts (s : Site δ γ) :
    s.reap.env.attempts = s.env.attempts + 1 ∧ s.reap.pool.wakes = s.pool.wakes := by
  cases hBusy : s.pool.busy with
  | true =>
      have hReap : s.reap = (s.note (.scanSkipped .busy)).rest := by
        simp [reap, scan, hBusy]
      rw [hReap]
      refine ⟨?_, rfl⟩
      show s.env.readings + (Event.scanSkipped .busy :: s.env.events).countP Event.isSkip = _
      rw [List.countP_cons_of_pos rfl]
      rfl
  | false =>
      have hScan := scan_attempts hBusy
      have hWakes := scan_wakes s
      unfold reap
      split
      · next h =>
        rw [h] at hScan hWakes
        exact ⟨hScan, hWakes⟩
      · next h =>
        rw [h] at hScan hWakes
        split
        · exact ⟨hScan, hWakes⟩
        · exact ⟨hScan, hWakes⟩
      · next h =>
        have hError := congrArg Prod.fst h
        rcases (scan_of_free hBusy).2 with ⟨_, hNone, _⟩ | ⟨_, _, _, hOk, _⟩
        · cases hError.symm.trans hNone
        · cases hError.symm.trans hOk

theorem Scouted.blind_iff {s' : Site δ γ} (h : Scouted s s') :
    s'.pool.Blind s'.env.shown ↔ s.pool.Blind s.env.shown := by
  obtain ⟨wakes, hPool⟩ := h.pool
  have hBusy : s'.pool.busy = s.pool.busy := by
    rw [hPool]
    exact busy_reaped ..
  rw [Pool.Blind, Pool.Blind, hBusy, h.shows.shown]

/-- After scans that could be made or were skipped the reaper sleeps for a linger. -/
theorem Scouted.asleep {s' : Site δ γ} (h : Scouted s s') (hSees : ¬s.pool.Blind s.env.shown) :
    s'.pool.reaper = .asleep (s.env.now + s.pool.linger.slept) := by
  obtain ⟨wakes, hPool⟩ := h.pool
  rw [hPool]
  exact (reaped_steady s.env.now fun hFree hBlind => hSees ⟨hFree, hBlind⟩).reaper

/-- A reaper that can read the clock scans once for each call. The induction is on the calls that
are left. -/
theorem answerWakes_attempts (count : Nat) (hRunning : s.pool.reaper.isRunning = true)
    (hSees : ¬s.pool.Blind s.env.shown) :
    (s.answerWakes count).env.attempts = s.env.attempts + count ∧
      (s.answerWakes count).pool.wakes = s.pool.wakes - count := by
  induction count generalizing s with
  | zero => exact ⟨rfl, rfl⟩
  | succ count ih =>
      let woken := (s.update fun p => { p with wakes := p.wakes - 1 }).note .reaperWoken
      have hAnswer : s.answerWakes (count + 1) = woken.reap.answerWakes count := if_pos hRunning
      have hScouted : Scouted s woken.reap := (reap_scouted woken).woken
      have hStill : woken.reap.pool.reaper.isRunning = true := by
        rw [hScouted.asleep hSees]
        rfl
      obtain ⟨hAttempts, hWakes⟩ := ih hStill (mt hScouted.blind_iff.mp hSees)
      obtain ⟨hFirst, hSecond⟩ := reap_attempts woken
      have hWoken : woken.env.attempts = s.env.attempts := by
        simp only [attempts]
        exact congrArg _ (List.countP_cons_of_neg nofun)
      have hLess : woken.pool.wakes = s.pool.wakes - 1 := rfl
      rw [hAnswer, hAttempts, hWakes, hFirst, hSecond, hWoken, hLess]
      omega

/-- No turn leaves signals unanswered, unless the reaper breaks off in it. -/
theorem answerWakes_wakes (count : Nat) (s : Site δ γ) :
    (s.answerWakes count).pool.reaper.isRunning = true →
      (s.answerWakes count).pool.wakes = s.pool.wakes - count := by
  induction count generalizing s with
  | zero => exact fun _ => rfl
  | succ count ih =>
      unfold answerWakes
      split
      · intro hRunning
        rw [ih _ hRunning, (reap_attempts _).2]
        show s.pool.wakes - 1 - count = _
        omega
      · next hEnded => exact fun hRunning => absurd hRunning hEnded

theorem sleep_wakes (s : Site δ γ) : s.sleep.pool.wakes = s.pool.wakes := by
  unfold sleep
  split
  · rfl
  · split
    · exact (reap_attempts s).2
    · rfl
  · rfl

theorem reaperTurn_eq (hRunning : s.pool.reaper.isRunning = true)
    (hStays : s.pool.shutdown = false) :
    s.reaperTurn = (s.answerWakes s.pool.wakes).sleep := by
  simp [reaperTurn, hRunning, hStays]

/-- Where a scan is due the turn of the reaper comes to scans. -/
theorem reaperTurn_scouted (hRunning : s.pool.reaper.isRunning = true)
    (hStays : s.pool.shutdown = false) (hDue : 0 < s.pool.scansDue s.env.now) :
    Scouted s s.reaperTurn := by
  rw [reaperTurn_eq hRunning hStays]
  cases hWakes : s.pool.wakes with
  | succ count => exact (answerWakes_scouted count hRunning).sleep
  | zero =>
      simp only [scansDue, hWakes] at hDue
      cases hReaper : s.pool.reaper with
      | asleep ends =>
          simp only [hReaper] at hDue
          have hEnds : ends ≤ s.env.now := by
            by_contra hEarly
            simp [hEarly] at hDue
          have hSleep : s.sleep = s.reap := by
            simp [sleep, hReaper, hEnds]
          show Scouted s s.sleep
          rw [hSleep]
          exact reap_scouted s
      | _ => simp [hReaper] at hDue

/-- In its turn the reaper makes as many scans as are due. -/
theorem reaperTurn_attempts (hRunning : s.pool.reaper.isRunning = true)
    (hStays : s.pool.shutdown = false) (hLinger : 0 < s.pool.linger)
    (hSees : 0 < s.pool.scansDue s.env.now → ¬s.pool.Blind s.env.shown) :
    s.reaperTurn.env.attempts = s.env.attempts + s.pool.scansDue s.env.now ∧
      s.reaperTurn.pool.wakes = 0 := by
  rw [reaperTurn_eq hRunning hStays]
  cases hWakes : s.pool.wakes with
  | zero =>
      refine ⟨?_, (sleep_wakes s).trans hWakes⟩
      show s.sleep.env.attempts = _
      cases hReaper : s.pool.reaper with
      | starting => simp [sleep, scansDue, hReaper, hWakes, rest, update]
      | asleep ends =>
          by_cases hEnds : ends ≤ s.env.now
          · simp [sleep, scansDue, hReaper, hWakes, hEnds, (reap_attempts s).1]
          · simp [sleep, scansDue, hReaper, hWakes, hEnds]
      | idle | broken | stopped =>
          rw [hReaper] at hRunning
          cases hRunning
  | succ count =>
      have hDue : s.pool.scansDue s.env.now = count + 1 := by
        simp [scansDue, hWakes]
      have hSees := hSees (hDue ▸ Nat.succ_pos count)
      obtain ⟨hAttempts, hLeft⟩ := answerWakes_attempts (count + 1) hRunning hSees
      have hScouted := answerWakes_scouted count hRunning
      -- the sleep that the last of these scans began is not over yet
      have hSleep : (s.answerWakes (count + 1)).sleep = s.answerWakes (count + 1) := by
        have hNow : (s.answerWakes (count + 1)).env.now = s.env.now := hScouted.shows.now
        have hLong : 0 < s.pool.linger.slept := Duration.slept_pos hLinger
        have hEarly : ¬s.env.now + s.pool.linger.slept ≤ s.env.now :=
          Nat.not_le_of_lt (Nat.lt_add_of_pos_right hLong)
        simp [sleep, hScouted.asleep hSees, hNow, hEarly]
      rw [hSleep, hAttempts, hLeft, hDue, hWakes]
      exact ⟨rfl, Nat.sub_self _⟩

/-- After its turn the reaper has no signal left to answer. -/
theorem reaperTurn_hears (hRunning : s.pool.reaper.isRunning = true)
    (hStays : s.pool.shutdown = false) : s.reaperTurn.pool.Hears 0 := by
  rw [reaperTurn_eq hRunning hStays]
  cases hStill : (s.answerWakes s.pool.wakes).pool.reaper.isRunning with
  | true =>
      have hNone : (s.answerWakes s.pool.wakes).sleep.pool.wakes = 0 := by
        rw [sleep_wakes, answerWakes_wakes _ s hStill, Nat.sub_self]
      exact ⟨fun _ => by simp [hNone], fun _ _ => by simp [hNone]⟩
  | false =>
      have hBroken : (s.answerWakes s.pool.wakes).pool.reaper = .broken := by
        cases hWakes : s.pool.wakes with
        | zero =>
            rw [hWakes] at hStill
            cases hRunning.symm.trans hStill
        | succ count =>
            rw [hWakes] at hStill
            obtain ⟨wakes, hPool⟩ := (answerWakes_scouted count hRunning).pool
            rw [hPool] at hStill ⊢
            exact (reaped_reaper ..).resolve_left fun hAsleep => by
              simp [hAsleep, Reaper.isRunning] at hStill
      have hSame : (s.answerWakes s.pool.wakes).sleep = s.answerWakes s.pool.wakes := by
        simp [sleep, hBroken]
      rw [hSame]
      exact ⟨fun hAwake => by simp [hBroken] at hAwake, fun _ hAsleep => by simp [hBroken] at hAsleep⟩

/-- A pool that is still somebody's has no more of a turn than its reaper. -/
theorem tend_of_here (hHere : World.isGone s.pool = false) : s.tend = s.reaperTurn := by
  simp [tend, hHere, update]

theorem tend_of_gone (hGone : World.isGone s.pool = true) :
    s.tend.pool.shutdown = true ∧ s.tend.pool.closed = s.pool.closed := by
  let marked := s.update fun p => if World.isGone p then { p with shutdown := true } else p
  have hMarked : marked.pool = { s.pool with shutdown := true } := if_pos hGone
  obtain ⟨hPool, _⟩ := reaperTurn_shut (s := marked) (by rw [hMarked])
  show marked.reaperTurn.pool.shutdown = true ∧ marked.reaperTurn.pool.closed = s.pool.closed
  rw [hPool, hMarked]
  split <;> exact ⟨rfl, rfl⟩

/-- After a turn of a reaper that runs, no call is left over. -/
theorem tend_hears (hRunning : s.pool.reaper.isRunning = true) : s.tend.pool.Hears 0 := by
  let marked := s.update fun p => if World.isGone p then { p with shutdown := true } else p
  have hReaper : marked.pool.reaper = s.pool.reaper := by
    show (if World.isGone s.pool then { s.pool with shutdown := true } else s.pool).reaper = _
    split <;> rfl
  rw [← hReaper] at hRunning
  show marked.reaperTurn.pool.Hears 0
  cases hShut : marked.pool.shutdown with
  | false => exact reaperTurn_hears hRunning hShut
  | true =>
      rw [(reaperTurn_shut hShut).1, if_pos hRunning]
      exact ⟨fun hAwake => by simp at hAwake, nofun⟩

theorem drop_wakes (index : Nat) (s : Site δ γ) : (s.drop index).pool.wakes = s.pool.wakes := by
  unfold drop
  split <;> rfl

theorem close_wakes (s : Site δ γ) : s.close.pool.wakes = s.pool.wakes := by
  cases hClosed : s.pool.closed with
  | true => rw [close_of_closed hClosed]
  | false => rw [(close_of_open hClosed).2.2]

theorem resume_wakes [Dialer δ γ] (index : Nat) (s : Site δ γ) :
    (s.resume index).pool.wakes = s.pool.wakes := by
  unfold resume
  split
  · next id gate _ => exact (pass_spec gate id s).2.wakes_eq
  · next id gate sequence _ =>
    obtain ⟨_, p, hScanned, hFollowed⟩ := follow_spec gate id sequence.endpointId
      (sequence.resume (γ := γ) s.pool.shutdown s.env).1
      { s with env := (sequence.resume s.pool.shutdown s.env).2 }
      fun _ h => DialSequence.resume_endpointId h
    exact hFollowed.wakes_eq.trans hScanned.wakes_eq
  · rfl

end Site

namespace World

open Surroundings Pool

variable {α : Type} {w : World δ γ} {number : Nat} {p : Pool γ}

theorem use_wakes {ref : HandleRef} (f : Instant → Handle γ → α × Handle γ)
    (hp : w.pools[ref.home]? = some p) :
    ∃ p', (w.use ref f).2.pools[ref.home]? = some p' ∧ p'.wakes = p.wakes := by
  obtain ⟨q, hq, hScanned⟩ := spared_reading hp
  by_cases hNone : w.env.shown = none ∨ w.handle? ref = none
  · rw [use_of_none f hNone]
    exact ⟨q, hq, hScanned.wakes_eq⟩
  · rw [not_or, ← ne_eq, ← ne_eq, Option.ne_none_iff_exists', Option.ne_none_iff_exists'] at hNone
    obtain ⟨⟨now, hShown⟩, h, hHandle⟩ := hNone
    rw [use_of_shown f hShown hHandle]
    exact ⟨_, updatePool_self hq _, hScanned.wakes_eq⟩

theorem giveBack_wakes {ref : HandleRef} (hp : w.pools[ref.home]? = some p) :
    ∃ p', (w.giveBack ref).2.pools[ref.home]? = some p' ∧ p'.wakes = p.wakes := by
  rw [giveBack_pools]
  exact use_wakes Handle.release hp

theorem release_wakes {ref : HandleRef} (pool : Nat) (hp : w.pools[ref.home]? = some p) :
    ∃ p', (w.release pool ref).2.pools[ref.home]? = some p' ∧ p'.wakes = p.wakes := by
  unfold release
  split
  · exact ⟨p, hp, rfl⟩
  · exact giveBack_wakes hp

theorem report_wakes (ref : HandleRef) (cause : String) (hp : w.pools[number]? = some p) :
    ∃ p', (w.report number ref cause).2.pools[number]? = some p' ∧ p'.wakes = p.wakes := by
  unfold report
  split
  · split
    · exact ⟨p, hp, rfl⟩
    · split
      · exact ⟨_, updatePool_self hp _, rfl⟩
      · exact ⟨p, hp, rfl⟩
  · exact ⟨p, hp, rfl⟩

variable [Dialer δ γ] {act : Act δ}

theorem Reachable.linger_pos (h : w.Reachable) (hp : w.pools[number]? = some p) :
    0 < p.linger := by
  refine h.pool (fun p => linger_pos_of_isNew) (fun _ _ _ _ _ _ hChange hPos => ?_) hp
  rw [hChange.linger_eq]
  exact hPos

/-- Nothing but calls on the reaper and its own turns touches the signals that it has not answered. -/
theorem perform_wakes (hTurn : act ≠ .reap number) (hWake : act ≠ .wake number)
    (hp : w.pools[number]? = some p) :
    ∃ p', (w.perform act).pools[number]? = some p' ∧ p'.wakes = p.wakes := by
  by_cases hConcerns : act.Concerns number
  · cases act with
    | abandon pool | hold pool taken =>
        cases hConcerns
        exact ⟨_, updatePool_self hp _, rfl⟩
    | wake pool =>
        cases hConcerns
        exact absurd rfl hWake
    | reap pool =>
        cases hConcerns
        exact absurd rfl hTurn
    | get pool id =>
        cases hConcerns
        exact ⟨_, visit_pool hp (Site.get_recorded id (w.site number p)),
          (Site.enter_spec id (w.site number p)).2.wakes_eq⟩
    | resume pool request =>
        cases hConcerns
        exact ⟨_, visit_pool (f := fun s => ((), s.resume request)) hp
          (Site.resume_recorded request (w.site number p)), Site.resume_wakes request _⟩
    | drop pool request =>
        cases hConcerns
        exact ⟨_, visit_pool (f := fun s => ((), s.drop request)) hp
          (Site.drop_serves request (w.site number p)).toRecorded, Site.drop_wakes request _⟩
    | release pool ref =>
        cases hConcerns
        exact release_wakes pool hp
    | report pool ref cause =>
        cases hConcerns
        exact report_wakes ref cause hp
    | evictIdle pool =>
        cases hConcerns
        exact ⟨_, visit_pool hp (Site.evictIdle_serves (w.site number p)).toRecorded,
          (Site.evictIdle_spec (w.site number p)).2.wakes_eq⟩
    | close pool =>
        cases hConcerns
        exact ⟨_, visit_pool (f := fun s => ((), s.close)) hp
          (Site.close_housekeeps (w.site number p)).toRecorded, Site.close_wakes _⟩
    | borrow ref | connection ref =>
        cases hConcerns
        exact use_wakes _ hp
    | giveBack ref =>
        cases hConcerns
        exact giveBack_wakes hp
    | _ => exact absurd hConcerns id
  · obtain ⟨p', hp', hScanned⟩ := perform_elsewhere hConcerns hp
    exact ⟨p', hp', hScanned.wakes_eq⟩

/-! ### Turns of the reaper -/

/-- How many scans the reaper of the pool attempts in the turn that it would have now. -/
def reaperAttempts (number : Nat) (w : World δ γ) : Nat :=
  (w.perform (.reap number : Act δ)).env.readings +
    (w.noted (.reap number : Act δ)).countP Event.isSkip

theorem reap_eq (number : Nat) (w : World δ γ) :
    w.perform (.reap number) = (w.visit number fun s => ((), s.tend)).2 := turnReaper_eq number w

theorem reap_pool (hp : w.pools[number]? = some p) :
    (w.perform (.reap number)).pools[number]? = some (w.site number p).tend.pool := by
  rw [reap_eq]
  exact visit_pool (f := fun s => ((), s.tend)) hp
    (Site.tend_housekeeps (w.site number p)).toRecorded

theorem reaperAttempts_eq (hp : w.pools[number]? = some p) :
    w.reaperAttempts number + w.env.events.countP Event.isSkip =
      (w.site number p).tend.env.attempts := by
  obtain ⟨fresh, hFresh, _⟩ := (Site.tend_housekeeps (w.site number p)).events
  obtain ⟨hReadings, extra, hExtra, hServes⟩ := visit_env hp fun s : Site δ γ => ((), s.tend)
  rw [← reap_eq] at hReadings hExtra
  have hNoted : w.noted (.reap number) = extra ++ fresh :=
    noted_eq (hExtra.trans ((congrArg (extra ++ ·) hFresh).trans (List.append_assoc ..).symm))
  have hNone : extra.countP Event.isSkip = 0 :=
    List.countP_eq_zero.mpr fun e he => by simp [(hServes e he).not_skip]
  have hEvents : (w.site number p).env.events = w.env.events := rfl
  rw [reaperAttempts, hNoted, hReadings, attempts, hFresh, hEvents]
  simp only [List.countP_append, hNone]
  omega

/-- A turn scans exactly where the reaper is said to scan in it. -/
theorem reaperAttempts_pos_iff (hp : w.pools[number]? = some p) :
    0 < w.reaperAttempts number ↔ w.ReaperScans number := by
  have hSkips : w.ReaperSkips number ↔
      0 < (w.noted (.reap number : Act δ)).countP Event.isSkip := by
    rw [List.countP_pos_iff]
    refine ⟨fun ⟨error, he⟩ => ⟨_, he, rfl⟩, fun ⟨e, he, hSkip⟩ => ?_⟩
    cases e <;> first | exact ⟨_, he⟩ | cases hSkip
  have hReads : w.ReaperReads number ↔ 0 < (w.perform (.reap number : Act δ)).env.readings :=
    and_iff_right ⟨p, hp⟩
  rw [ReaperScans, hSkips, hReads, reaperAttempts]
  omega

theorem stays_of_orderly (hp : w.pools[number]? = some p) (hRunning : p.reaper.isRunning = true)
    (hOpen : p.closed = false) (hOrderly : w.Orderly number (.reap number)) :
    p.shutdown = false := by
  obtain ⟨attempt, p', hp', hTurned, _⟩ := perform_reaped hp
  cases hTurned with
  | off ended => cases ended.symm.trans hRunning
  | stopped =>
      have hClosed := hOrderly.kept _ hp' rfl
      cases hOpen.symm.trans hClosed
  | rested starts stays => exact stays
  | slept asleep early stays => exact stays
  | scanned running stays => exact stays

/-- A turn in good order makes the scans that are due. -/
theorem perform_scansDue (hp : w.pools[number]? = some p) (hLinger : 0 < p.linger)
    (hRunning : p.reaper.isRunning = true) (hOpen : p.closed = false)
    (hOrderly : w.Orderly number (.reap number)) :
    w.reaperAttempts number = p.scansDue w.env.now := by
  have hStays := stays_of_orderly hp hRunning hOpen hOrderly
  have hHere : isGone p = false := by
    rw [Bool.eq_false_iff]
    intro hGone
    obtain ⟨hShut, hClosed⟩ := Site.tend_of_gone (s := w.site number p) hGone
    have hKept := hOrderly.kept _ (reap_pool hp) hShut
    cases (hClosed.symm.trans hKept).symm.trans hOpen
  have hTend := Site.tend_of_here (s := w.site number p) hHere
  have hSees (hDue : 0 < p.scansDue w.env.now) : ¬p.Blind w.env.shown := by
    rintro ⟨hFree, hBlind⟩
    have hScouted := Site.reaperTurn_scouted (s := w.site number p) hRunning hStays hDue
    have hMade : (w.site number p).env.readings < (w.site number p).reaperTurn.env.readings :=
      hScouted.shows.made.mpr (if_neg (Bool.eq_false_iff.mp hFree))
    refine hOrderly.sees rfl ⟨⟨p, hp⟩, ?_⟩ hBlind
    rw [reap_eq, (visit_env hp _).1, hTend]
    exact Nat.zero_lt_of_lt hMade
  have hTurn := (Site.reaperTurn_attempts (s := w.site number p) hRunning hStays hLinger hSees).1
  have hCount := reaperAttempts_eq hp
  have hStart : (w.site number p).env.attempts = w.env.events.countP Event.isSkip :=
    Nat.zero_add _
  have hDue : (w.site number p).pool.scansDue (w.site number p).env.now = p.scansDue w.env.now :=
    rfl
  rw [hTend, hTurn, hStart, hDue] at hCount
  omega

end World

end Tether
