import Tether.Proofs.Blindness
import Tether.Proofs.Frame
import Tether.Proofs.Probing

/-! The reaper of a pool, one act at a time. In its own turn it goes to sleep, sleeps on, scans,
breaks off or stops; the first request starts it, closing the pool ends it, and nothing else
touches it. -/

namespace Tether

variable {δ γ : Type}

/-- What a turn of the reaper makes of a scan. Where the registry is held elsewhere it is skipped.
-/
inductive ScanAttempt where
  | none
  | skipped
  | made
  deriving Repr, DecidableEq

namespace Pool

/-- The pool after a scan by its reaper, which then goes to sleep. It ends where the clock cannot be
read. -/
def reaped (now : Instant) (clock : Option Instant) (p : Pool γ) : Pool γ :=
  if p.busy then { p with reaper := .asleep (now + p.linger.slept) }
  else match clock with
    | none => { p with reaper := .broken }
    | some shown => { p.swept shown with reaper := .asleep (now + p.linger.slept) }

/-- What becomes of a scan that the reaper of the pool is to make. -/
def attempt (p : Pool γ) : ScanAttempt := if p.busy then .skipped else .made

/-- What a turn of its reaper does to a pool, by what it makes of a scan. -/
inductive Turned (now : Instant) (clock : Option Instant) (p : Pool γ) :
    ScanAttempt → Pool γ → Prop where
  | off (ended : p.reaper.isRunning = false) (shutdown : Bool)
      (lasting : p.shutdown = true → shutdown = true)
      (leaves : shutdown = true → p.shutdown = true ∨ World.isGone p = true) :
      Turned now clock p .none { p with shutdown }
  | stopped (running : p.reaper.isRunning = true)
      (leaves : p.shutdown = true ∨ World.isGone p = true) :
      Turned now clock p .none { p with shutdown := true, reaper := .stopped }
  | rested (starts : p.reaper = .starting) (stays : p.shutdown = false) :
      Turned now clock p .none { p with reaper := .asleep (now + p.linger.slept) }
  | slept {ends : Instant} (asleep : p.reaper = .asleep ends) (early : now < ends)
      (stays : p.shutdown = false) : Turned now clock p .none p
  | scanned (running : p.reaper.isRunning = true) (stays : p.shutdown = false) (wakes : Nat) :
      Turned now clock p p.attempt { p.reaped now clock with wakes }

/-- Nobody let go of the pool without closing it. -/
def Kept (p : Pool γ) : Prop := p.shutdown = true → p.closed = true

/-- A second scan at the same moment changes nothing. -/
theorem reaped_reaped (now : Instant) (clock : Option Instant) (p : Pool γ) (wakes : Nat) :
    ({ p.reaped now clock with wakes } : Pool γ).reaped now clock =
      { p.reaped now clock with wakes } := by
  cases hBusy : p.busy with
  | true => simp [reaped, hBusy]
  | false =>
      cases clock with
      | none => simp [reaped, hBusy]
      | some shown =>
          have hReaped : p.reaped now (some shown) =
              { p.swept shown with reaper := .asleep (now + p.linger.slept) } := by
            simp [reaped, hBusy]
          have hSwept := congrArg (fun q : Pool γ => { q with
            wakes, reaper := .asleep (now + p.linger.slept) }) (swept_swept shown p)
          rw [hReaped]
          exact (if_neg (Bool.eq_false_iff.mp hBusy)).trans hSwept

theorem reaped_ne_starting (now : Instant) (clock : Option Instant) (p : Pool γ) :
    (p.reaped now clock).reaper ≠ .starting := by
  unfold reaped
  split
  · nofun
  · cases clock <;> nofun

theorem busy_reaped (now : Instant) (clock : Option Instant) (p : Pool γ) :
    (p.reaped now clock).busy = p.busy := by
  unfold reaped
  split
  · rfl
  · cases clock <;> rfl

theorem shutdown_reaped (now : Instant) (clock : Option Instant) (p : Pool γ) :
    (p.reaped now clock).shutdown = p.shutdown := by
  unfold reaped
  split
  · rfl
  · cases clock <;> rfl

/-- Unless the clock cannot be read, the reaper goes to sleep after a scan. -/
theorem reaped_steady (now : Instant) {clock : Option Instant} {p : Pool γ}
    (hShown : p.busy = false → clock ≠ none) :
    ({ p with reaper := .asleep (now + p.linger.slept) } : Pool γ).Steady (p.reaped now clock) := by
  unfold reaped
  split
  · exact ⟨rfl, rfl, rfl⟩
  · next hFree =>
    split
    · exact absurd rfl (hShown (Bool.eq_false_iff.mpr hFree))
    · exact ⟨rfl, rfl, rfl⟩

theorem reaped_wakes (now : Instant) (clock : Option Instant) (p : Pool γ) (wakes : Nat) :
    ({ p with wakes } : Pool γ).reaped now clock = { p.reaped now clock with wakes } := by
  unfold reaped
  dsimp only
  split
  · rfl
  · cases clock <;> rfl

theorem attempt_reaped (now : Instant) (clock : Option Instant) (p : Pool γ) :
    (p.reaped now clock).attempt = p.attempt := by
  rw [attempt, busy_reaped, attempt]

end Pool

namespace Site

open Surroundings Pool

/-- What a turn of the reaper shows of a scan: one that is made reads the clock, and one that is
skipped is noted. -/
structure Shows (attempt : ScanAttempt) (env env' : Surroundings δ) : Prop where
  now : env'.now = env.now
  clock : env'.clock = env.clock
  mono : env.readings ≤ env'.readings
  made : env.readings < env'.readings ↔ attempt = .made
  skipped : ∃ fresh, env'.events = fresh ++ env.events ∧
    ((∃ error, .scanSkipped error ∈ fresh) ↔ attempt = .skipped)

variable {attempt : ScanAttempt} {env env' env'' : Surroundings δ} {s s' s'' : Site δ γ}

theorem Shows.shown (h : Shows attempt env env') : env'.shown = env.shown := by
  simp [Surroundings.shown, h.now, h.clock]

theorem Shows.join {attempt' joint : ScanAttempt} (first : Shows attempt env env')
    (second : Shows attempt' env' env'')
    (hMade : joint = .made ↔ attempt = .made ∨ attempt' = .made)
    (hSkipped : joint = .skipped ↔ attempt = .skipped ∨ attempt' = .skipped) :
    Shows joint env env'' := by
  obtain ⟨early, hEarly, hFirst⟩ := first.skipped
  obtain ⟨late, hLate, hSecond⟩ := second.skipped
  refine ⟨second.now.trans first.now, second.clock.trans first.clock,
    Nat.le_trans first.mono second.mono, ?_, late ++ early, by simp [hLate, hEarly], ?_⟩
  · rw [hMade, ← first.made, ← second.made]
    have hFirst := first.mono
    have hSecond := second.mono
    omega
  · rw [hSkipped, ← hFirst, ← hSecond]
    simp only [List.mem_append, exists_or]
    exact or_comm

theorem Shows.again (first : Shows attempt env env') (second : Shows attempt env' env'') :
    Shows attempt env env'' :=
  first.join second (or_self_iff).symm (or_self_iff).symm

theorem Shows.after (h : Shows attempt env' env'') (first : Shows .none env env') :
    Shows attempt env env'' :=
  first.join h (by simp) (by simp)

theorem Shows.before (h : Shows attempt env env') (second : Shows .none env' env'') :
    Shows attempt env env'' :=
  h.join second (by simp) (by simp)

theorem shows_refl (env : Surroundings δ) : Shows .none env env :=
  ⟨rfl, rfl, Nat.le_refl _, by simp, [], rfl, by simp⟩

theorem shows_note {event : Event} (h : ∀ error, event ≠ .scanSkipped error)
    (env : Surroundings δ) : Shows .none env (env.note event) :=
  ⟨rfl, rfl, Nat.le_refl _, by simp [Surroundings.note], [event], rfl, by
    simpa using fun error => (h error).symm⟩

theorem shows_of_apart (h : Apart Event.Serves env env') (hMono : env.readings ≤ env'.readings)
    (hMade : env.readings < env'.readings ↔ attempt = .made) (hNot : attempt ≠ .skipped) :
    Shows attempt env env' := by
  obtain ⟨fresh, hFresh, hServes⟩ := h.events
  refine ⟨h.now, h.clock, hMono, hMade, fresh, hFresh, iff_of_false ?_ hNot⟩
  rintro ⟨error, he⟩
  cases hServes _ he

theorem reading_readings (locked : Bool) (s : Site δ γ) :
    (s.reading locked).2.env.readings = s.env.readings + 1 := by
  obtain ⟨_, _, hProbed⟩ := probe_attempted locked s
  unfold reading
  dsimp only
  split
  · exact congrArg (· + 1) hProbed.readings
  · rfl

/-- With the registry free a scan reads the clock once, and sweeps the pool if it can. -/
theorem scan_of_free (hFree : s.pool.busy = false) :
    s.scan.2.env.readings = s.env.readings + 1 ∧
      (s.env.shown = none ∧ s.scan.1 = none ∧ s.scan.2.pool = s.pool ∨
        ∃ shown evicted, s.env.shown = some shown ∧ s.scan.1 = some (.ok evicted) ∧
          s.scan.2.pool = s.pool.swept shown) := by
  obtain ⟨hShown, _, _⟩ := reading_spec true s
  have hReadings := reading_readings true s
  have hPool := reading_locked_pool s
  unfold scan
  rw [if_neg (Bool.eq_false_iff.mp hFree)]
  split
  · next s' h =>
    rw [h] at hShown hReadings hPool
    exact ⟨hReadings, Or.inl ⟨hShown.symm, rfl, hPool⟩⟩
  · next shown s' h =>
    rw [h] at hShown hReadings hPool
    refine ⟨(sweep_unread shown s').readings.trans hReadings, Or.inr ⟨shown, _, hShown.symm, rfl, ?_⟩⟩
    exact (sweep_pool shown s').trans (congrArg (swept shown) hPool)

/-- The reaper has scanned its pool at this moment, once or several times. -/
structure Scouted (s s' : Site δ γ) : Prop where
  pool : ∃ wakes, s'.pool = { s.pool.reaped s.env.now s.env.shown with wakes }
  shows : Shows s.pool.attempt s.env s'.env

theorem reap_skipped (hBusy : s.pool.busy = true) : Scouted s s.reap := by
  have hReap : s.reap = (s.note (.scanSkipped .busy)).rest := by
    simp [reap, scan, hBusy]
  have hReaped : s.pool.reaped s.env.now s.env.shown =
      { s.pool with reaper := .asleep (s.env.now + s.pool.linger.slept) } := by
    simp [reaped, hBusy]
  have hAttempt : s.pool.attempt = .skipped := by simp [attempt, hBusy]
  rw [hReap]
  refine ⟨⟨s.pool.wakes, hReaped ▸ rfl⟩, ?_⟩
  rw [hAttempt]
  exact ⟨rfl, rfl, Nat.le_refl _, by simp [rest, update, note, Surroundings.note],
    [.scanSkipped .busy], rfl, by simp⟩

theorem reap_made (hFree : s.pool.busy = false) : Scouted s s.reap := by
  have hScan := scan_serves s
  obtain ⟨hReadings, hCases⟩ := scan_of_free hFree
  have hAttempt : s.pool.attempt = .made := by simp [attempt, hFree]
  have hShows : Shows .made s.env s.scan.2.env :=
    shows_of_apart hScan (by omega) (by simp [hReadings]) (by simp)
  rw [← hAttempt] at hShows
  have hNow : s.scan.2.env.now = s.env.now := hScan.now
  unfold reap
  rcases hCases with ⟨hBlind, hAnswer, hPool⟩ | ⟨shown, evicted, hShown, hAnswer, hPool⟩
  · have hReaped : s.pool.reaped s.env.now s.env.shown = { s.pool with reaper := .broken } := by
      simp [reaped, hFree, hBlind]
    split
    · next s' h =>
      rw [h] at hPool hShows
      refine ⟨⟨s.pool.wakes, ?_⟩, hShows⟩
      rw [hReaped]
      exact congrArg (fun q : Pool γ => { q with reaper := .broken }) hPool
    · next h => cases (congrArg Prod.fst h).symm.trans hAnswer
    · next h => cases (congrArg Prod.fst h).symm.trans hAnswer
  · have hReaped : s.pool.reaped s.env.now s.env.shown =
        { s.pool.swept shown with reaper := .asleep (s.env.now + s.pool.linger.slept) } := by
      simp [reaped, hFree, hShown]
    have hRest (s' : Site δ γ) (hNow : s'.env.now = s.env.now)
        (hPool : s'.pool = s.pool.swept shown) (hShows : Shows s.pool.attempt s.env s'.env) :
        Scouted s s'.rest := by
      refine ⟨⟨s.pool.wakes, ?_⟩, hShows⟩
      rw [hReaped]
      unfold rest update
      rw [hNow, hPool]
      rfl
    split
    · next h => cases (congrArg Prod.fst h).symm.trans hAnswer
    · next evicted s' h =>
      rw [h] at hPool hShows hNow
      split
      · exact hRest s' hNow hPool hShows
      · exact hRest _ hNow hPool (hShows.before (shows_note (by nofun) _))
    · next h => cases (congrArg Prod.fst h).symm.trans hAnswer

theorem reap_scouted (s : Site δ γ) : Scouted s s.reap := by
  cases hBusy : s.pool.busy with
  | true => exact reap_skipped hBusy
  | false => exact reap_made hBusy

/-- Scanning again at the same moment makes no difference to the pool. -/
theorem Scouted.again (first : Scouted s s') (second : Scouted s' s'') : Scouted s s'' := by
  obtain ⟨⟨early, hEarly⟩, hFirst⟩ := first
  obtain ⟨⟨late, hLate⟩, hSecond⟩ := second
  have hAttempt : s'.pool.attempt = s.pool.attempt := by
    rw [hEarly]
    exact attempt_reaped ..
  rw [hAttempt] at hSecond
  refine ⟨⟨late, ?_⟩, hFirst.again hSecond⟩
  rw [hLate, hFirst.now, hFirst.shown, hEarly, reaped_reaped]

theorem Scouted.woken {wakes : Nat}
    (h : Scouted ((s.update fun p => { p with wakes }).note .reaperWoken) s') : Scouted s s' := by
  obtain ⟨⟨late, hLate⟩, hShows⟩ := h
  refine ⟨⟨late, ?_⟩, hShows.after (shows_note (by nofun) s.env)⟩
  rw [hLate]
  show ({ ({ s.pool with wakes } : Pool γ).reaped s.env.now s.env.shown with wakes := late } :
    Pool γ) = _
  rw [reaped_wakes]

theorem answerWakes_of_ended (count : Nat) (hEnded : s.pool.reaper.isRunning = false) :
    s.answerWakes count = s := by
  cases count with
  | zero => rfl
  | succ count =>
      unfold answerWakes
      exact if_neg (Bool.eq_false_iff.mp hEnded)

/-- The reaper answers its wake signals with scans, unless it breaks off. -/
theorem answerWakes_scouted (count : Nat) (hRunning : s.pool.reaper.isRunning = true) :
    Scouted s (s.answerWakes (count + 1)) := by
  induction count generalizing s with
  | zero =>
      unfold answerWakes
      rw [if_pos hRunning]
      exact (reap_scouted _).woken
  | succ count ih =>
      let woken := (s.update fun p => { p with wakes := p.wakes - 1 }).note .reaperWoken
      have hFirst : Scouted s woken.reap := (reap_scouted woken).woken
      have hRest : s.answerWakes (count + 1 + 1) = woken.reap.answerWakes (count + 1) := by
        show (if s.pool.reaper.isRunning then _ else s) = _
        exact if_pos hRunning
      rw [hRest]
      cases hStill : woken.reap.pool.reaper.isRunning with
      | true => exact hFirst.again (ih hStill)
      | false =>
          rw [answerWakes_of_ended _ hStill]
          exact hFirst

theorem Scouted.sleep (h : Scouted s s') : Scouted s s'.sleep := by
  unfold Site.sleep
  split
  · next hStarting =>
    obtain ⟨wakes, hPool⟩ := h.pool
    rw [hPool] at hStarting
    exact (reaped_ne_starting _ _ _ hStarting).elim
  · split
    · exact h.again (reap_scouted s')
    · exact h
  · exact h

theorem Scouted.turned (h : Scouted s s') (hRunning : s.pool.reaper.isRunning = true)
    (hStays : s.pool.shutdown = false) :
    ∃ attempt, Turned s.env.now s.env.shown s.pool attempt s'.pool ∧ Shows attempt s.env s'.env := by
  obtain ⟨wakes, hPool⟩ := h.pool
  rw [hPool]
  exact ⟨_, .scanned hRunning hStays wakes, h.shows⟩

/-- A pool that has been shut down stops its reaper. -/
theorem reaperTurn_shut (hShutdown : s.pool.shutdown = true) :
    s.reaperTurn.pool = (if s.pool.reaper.isRunning then { s.pool with reaper := .stopped }
        else s.pool) ∧ Shows .none s.env s.reaperTurn.env := by
  unfold reaperTurn
  rw [hShutdown]
  cases s.pool.reaper.isRunning with
  | false => exact ⟨rfl, shows_refl _⟩
  | true => exact ⟨rfl, shows_note (by nofun) s.env⟩

theorem reaperTurn_turned (hRunning : s.pool.reaper.isRunning = true)
    (hStays : s.pool.shutdown = false) :
    ∃ attempt, Turned s.env.now s.env.shown s.pool attempt s.reaperTurn.pool ∧
      Shows attempt s.env s.reaperTurn.env := by
  have hTurn : s.reaperTurn = (s.answerWakes s.pool.wakes).sleep := by
    simp [reaperTurn, hRunning, hStays]
  rw [hTurn]
  cases s.pool.wakes with
  | succ count => exact (answerWakes_scouted count hRunning).sleep.turned hRunning hStays
  | zero =>
      show ∃ attempt, Turned _ _ _ attempt s.sleep.pool ∧ Shows attempt _ s.sleep.env
      unfold Site.sleep
      cases hReaper : s.pool.reaper with
      | starting => exact ⟨.none, .rested hReaper hStays, shows_refl _⟩
      | asleep ends =>
          dsimp only
          split
          · exact (reap_scouted s).turned hRunning hStays
          · next hEarly =>
            exact ⟨.none, .slept hReaper (Nat.lt_of_not_le hEarly) hStays, shows_refl _⟩
      | idle | broken | stopped =>
          rw [hReaper] at hRunning
          cases hRunning

/-- A turn of the reaper, in cases. -/
theorem tend_turned (s : Site δ γ) :
    ∃ attempt, Turned s.env.now s.env.shown s.pool attempt s.tend.pool ∧
      Shows attempt s.env s.tend.env := by
  let marked := s.update fun p => if World.isGone p then { p with shutdown := true } else p
  show ∃ attempt, Turned _ _ _ attempt marked.reaperTurn.pool ∧ Shows attempt _ marked.reaperTurn.env
  by_cases hShut : s.pool.shutdown = true ∨ World.isGone s.pool = true
  · have hMarked : marked.pool = { s.pool with shutdown := true } := by
      show (if World.isGone s.pool then { s.pool with shutdown := true } else s.pool) = _
      split
      · rfl
      · next hStays => rw [← hShut.resolve_right hStays]
    obtain ⟨hPool, hShows⟩ := reaperTurn_shut (s := marked) (by rw [hMarked])
    refine ⟨.none, ?_, hShows⟩
    rw [hPool, hMarked]
    cases hRunning : s.pool.reaper.isRunning with
    | false => exact .off hRunning true (fun _ => rfl) fun _ => hShut
    | true => exact .stopped hRunning hShut
  · rw [not_or, Bool.not_eq_true, Bool.not_eq_true] at hShut
    have hMarked : marked = s := by
      simp [marked, update, hShut.2]
    rw [hMarked]
    cases hRunning : s.pool.reaper.isRunning with
    | false =>
        have hTurn : s.reaperTurn = s := by
          simp [reaperTurn, hRunning]
        rw [hTurn]
        exact ⟨.none, .off hRunning s.pool.shutdown id Or.inl, shows_refl _⟩
    | true => exact reaperTurn_turned hRunning hShut.1

end Site

/-! ### Other acts -/

namespace Pool

/-- What an act other than a turn of the reaper means to it. A request that the pool takes in starts
it, if it was never started, and closing the pool ends it. -/
inductive Attended (number : Nat) : Act δ → Pool γ → Pool γ → Prop where
  | apart {act : Act δ} {p p' : Pool γ} (unasked : ∀ id, act = .get number id → p.closed = true)
      (unclosed : act = .close number → p.closed = true) (same : p.Steady p') :
      Attended number act p p'
  | asked {id : String} {p p' : Pool γ} (open_ : p.closed = false) (same : p.roused.Steady p') :
      Attended number (.get number id) p p'
  | closed {p p' : Pool γ} (open_ : p.closed = false) (closed : p'.closed = true)
      (shutdown : p'.shutdown = true) (reaper : p'.reaper = .stopped) :
      Attended number (.close number) p p'

variable {allowed : Prop} {clock : Option Instant} {number : Nat} {id : String} {act : Act δ}
  {p p' : Pool γ} {state : RequestState}

theorem Steady.refl (p : Pool γ) : p.Steady p := ⟨rfl, rfl, rfl⟩

theorem Scanned.linger_eq (h : Scanned allowed clock p p') : p'.linger = p.linger := by
  rw [h.eq]

theorem Followed.linger_eq {gate : Nat} {dialed : String} {progress : DialProgress γ}
    (h : Followed clock gate id dialed p progress state p') : p'.linger = p.linger := by
  cases h <;> rfl

theorem Looked.linger_eq (h : Looked allowed clock id p state p') : p'.linger = p.linger := by
  cases h with
  | dials lacks scanned follows => exact follows.linger_eq.trans scanned.linger_eq
  | _ => rfl

/-- The linger of a pool is settled when it is opened. -/
theorem Change.linger_eq (h : Change allowed clock number act p p') : p'.linger = p.linger := by
  cases h with
  | tended scanned same =>
      obtain ⟨_, _, _, _, rfl, _⟩ := same
      exact scanned.linger_eq
  | entered enters =>
      cases enters with
      | looked open_ named looks => exact looks.linger_eq
      | _ => rfl
  | passed waits passes =>
      cases passes with
      | looked decided looks => exact looks.linger_eq
      | _ => rfl
  | followed dials scanned follows => exact follows.linger_eq.trans scanned.linger_eq
  | borrowed scanned | givenBack scanned | touched scanned => exact scanned.linger_eq
  | held | left | gaveUp | reported | closed => rfl

theorem Entered.attended (h : Entered allowed clock id p state p') :
    Attended (δ := δ) number (.get number id) p
      { p' with requests := p'.requests ++ [{ endpointId := id, state }] } := by
  cases h with
  | closed late => exact .apart (fun _ _ => late) nofun ⟨rfl, rfl, rfl⟩
  | unnamed open_ => exact .asked open_ ⟨rfl, rfl, rfl⟩
  | looked open_ named looks =>
      have hSteady := looks.steady
      exact .asked open_ ⟨hSteady.closed, hSteady.shutdown, hSteady.reaper⟩

end Pool

namespace Site

open Pool

variable {s : Site δ γ}

theorem drop_steady (index : Nat) (s : Site δ γ) : s.pool.Steady (s.drop index).pool := by
  unfold drop
  split <;> exact ⟨rfl, rfl, rfl⟩

theorem resume_steady [Dialer δ γ] (index : Nat) (s : Site δ γ) :
    s.pool.Steady (s.resume index).pool := by
  unfold resume
  split
  · next id gate _ =>
    have hSteady := (pass_spec gate id s).2.steady
    exact ⟨hSteady.closed, hSteady.shutdown, hSteady.reaper⟩
  · next id gate sequence _ =>
    obtain ⟨_, p, hScanned, hFollowed⟩ := follow_spec gate id sequence.endpointId
      (sequence.resume (γ := γ) s.pool.shutdown s.env).1
      { s with env := (sequence.resume s.pool.shutdown s.env).2 }
      fun _ h => DialSequence.resume_endpointId h
    have hSteady := hScanned.steady.trans hFollowed.steady
    exact ⟨hSteady.closed, hSteady.shutdown, hSteady.reaper⟩
  · exact .refl _

theorem close_attended (number : Nat) (s : Site δ γ) :
    Attended (δ := δ) number (.close number) s.pool s.close.pool := by
  cases hClosed : s.pool.closed with
  | true =>
      rw [close_of_closed hClosed]
      exact .apart (fun _ _ => hClosed) (fun _ => hClosed) (.refl _)
  | false =>
      rw [(close_of_open hClosed).2.2]
      exact .closed hClosed rfl rfl rfl

end Site

namespace World

open Surroundings Pool

variable {α : Type} {w : World δ γ} {number : Nat} {p : Pool γ}

theorem probeElsewhere_readings (count : Nat) (w : World δ γ) :
    (w.probeElsewhere count).env.readings = w.env.readings := by
  induction count generalizing w with
  | zero => rw [probeElsewhere_zero]
  | succ count ih =>
      unfold probeElsewhere
      split
      · next hCount _ =>
        cases hCount
        split
        · next number _ _ pool _ =>
          obtain ⟨_, _, hProbed⟩ := Site.probe_attempted false { env := w.env, pool }
          exact (ih _).trans hProbed.readings
        · rfl
      · rfl

/-- What a visit adds to the surroundings in which its operation ended. -/
theorem visit_env (hp : w.pools[number]? = some p) (f : Site δ γ → α × Site δ γ) :
    (w.visit number f).2.env.readings = (f (w.site number p)).2.env.readings ∧
      ∃ extra, (w.visit number f).2.env.events = extra ++ (f (w.site number p)).2.env.events ∧
        ∀ e ∈ extra, e.Serves := by
  unfold visit
  rw [hp]
  dsimp only
  split
  · exact ⟨rfl, [], rfl, by simp⟩
  · exact ⟨probeElsewhere_readings .., (probeElsewhere_serves _ _).events⟩

theorem updatePool_self (hp : w.pools[number]? = some p) (f : Pool γ → Pool γ) :
    (w.updatePool number f).pools[number]? = some (f p) := by
  simp [updatePool, hp]

theorem use_steady {ref : HandleRef} (f : Instant → Handle γ → α × Handle γ)
    (hp : w.pools[ref.home]? = some p) :
    ∃ p', (w.use ref f).2.pools[ref.home]? = some p' ∧ p.Steady p' := by
  obtain ⟨q, hq, hScanned⟩ := spared_reading hp
  by_cases hNone : w.env.shown = none ∨ w.handle? ref = none
  · rw [use_of_none f hNone]
    exact ⟨q, hq, hScanned.steady⟩
  · rw [not_or, ← ne_eq, ← ne_eq, Option.ne_none_iff_exists', Option.ne_none_iff_exists'] at hNone
    obtain ⟨⟨now, hShown⟩, h, hHandle⟩ := hNone
    rw [use_of_shown f hShown hHandle]
    refine ⟨_, updatePool_self hq _, ?_⟩
    exact ⟨hScanned.steady.closed, hScanned.steady.shutdown, hScanned.steady.reaper⟩

theorem giveBack_steady {ref : HandleRef} (hp : w.pools[ref.home]? = some p) :
    ∃ p', (w.giveBack ref).2.pools[ref.home]? = some p' ∧ p.Steady p' := by
  rw [giveBack_pools]
  exact use_steady Handle.release hp

theorem release_steady {ref : HandleRef} (pool : Nat) (hp : w.pools[ref.home]? = some p) :
    ∃ p', (w.release pool ref).2.pools[ref.home]? = some p' ∧ p.Steady p' := by
  unfold release
  split
  · exact ⟨p, hp, .refl p⟩
  · exact giveBack_steady hp

theorem report_steady (ref : HandleRef) (cause : String) (hp : w.pools[number]? = some p) :
    ∃ p', (w.report number ref cause).2.pools[number]? = some p' ∧ p.Steady p' := by
  unfold report
  split
  · split
    · exact ⟨p, hp, .refl p⟩
    · split
      · exact ⟨_, updatePool_self hp _, rfl, rfl, rfl⟩
      · exact ⟨p, hp, .refl p⟩
  · exact ⟨p, hp, .refl p⟩

/-! ### Time and the reaper -/

theorem earlier_of_some {first second : Option Instant} {due : Instant}
    (h : first = some due ∨ second = some due) :
    ∃ moment, earlier first second = some moment ∧ moment ≤ due := by
  rcases h with rfl | rfl
  · cases second with
    | none => exact ⟨due, rfl, Nat.le_refl _⟩
    | some other => exact ⟨_, rfl, Nat.min_le_left ..⟩
  · cases first with
    | none => exact ⟨due, rfl, Nat.le_refl _⟩
    | some other => exact ⟨_, rfl, Nat.min_le_right ..⟩

theorem foldl_earlier {due : Instant} (list : List (Option Instant)) (first : Option Instant)
    (h : first = some due ∨ some due ∈ list) :
    ∃ moment, list.foldl earlier first = some moment ∧ moment ≤ due := by
  induction list generalizing first due with
  | nil => exact ⟨due, h.resolve_right List.not_mem_nil, Nat.le_refl _⟩
  | cons next rest ih =>
      rw [List.mem_cons, eq_comm (b := next), ← or_assoc] at h
      rcases h with h | h
      · obtain ⟨middle, hMiddle, hLe⟩ := earlier_of_some h
        obtain ⟨moment, hMoment, hLe'⟩ := ih _ (Or.inl hMiddle)
        exact ⟨moment, hMoment, Nat.le_trans hLe' hLe⟩
      · exact ih _ (Or.inr h)

theorem poolDue_of_asleep {ends : Instant} (hAsleep : p.reaper = .asleep ends) :
    ∃ moment, poolDue p = some moment ∧ moment ≤ ends := by
  unfold poolDue
  rw [hAsleep]
  exact foldl_earlier _ _ (Or.inl rfl)

/-- Time passes only once the reaper of the pool has done what was due. -/
def Awaits (number : Nat) (w : World δ γ) (act : Act δ) : Prop :=
  ∀ moment, act = .pass moment → w.env.now < moment → ∀ p, w.pools[number]? = some p →
    reaperReady w.env.now p = false

/-- And it does not pass beyond the end of the reaper's sleep. -/
structure Prompt (number : Nat) (w : World δ γ) (act : Act δ) : Prop where
  awaits : w.Awaits number act
  within : ∀ moment, act = .pass moment → w.env.now < moment → ∀ p, w.pools[number]? = some p →
    ∀ ends, p.reaper = .asleep ends → moment ≤ ends

/-- Once a world has settled, it is prompt to pass to the next moment at which something is due. -/
theorem prompt_of_settled {moment : Instant} (hSettled : w.isSettled = true)
    (hDue : ∀ due, w.nextDue = some due → moment ≤ due) : w.Prompt number (.pass moment) := by
  simp only [isSettled, Bool.not_eq_true', Bool.or_eq_false_iff, List.any_eq_false] at hSettled
  refine ⟨?_, ?_⟩
  · rintro _ ⟨⟩ _ p hp
    have hReady := hSettled.1 p (List.mem_of_getElem? hp)
    simp only [poolReady, Bool.or_eq_true, not_or, Bool.not_eq_true] at hReady
    exact hReady.1.2
  · rintro _ ⟨⟩ _ p hp ends hAsleep
    obtain ⟨first, hFirst, hEnds⟩ := poolDue_of_asleep hAsleep
    have hMem := List.mem_map.mpr ⟨p, List.mem_of_getElem? hp, hFirst⟩
    obtain ⟨due, hNext, hBefore⟩ := foldl_earlier
      (w.pools.map poolDue ++ w.creations.map creationDue) none
      (Or.inr (List.mem_append_left _ hMem))
    exact Nat.le_trans (hDue due hNext) (Nat.le_trans hBefore hEnds)

section Performing

variable [Dialer δ γ]

theorem perform_attended {act : Act δ} (hTurn : act ≠ .reap number)
    (hp : w.pools[number]? = some p) :
    ∃ p', (w.perform act).pools[number]? = some p' ∧ Attended number act p p' := by
  by_cases hConcerns : act.Concerns number
  · have hApart {w' : World δ γ}
        (hUnasked : ∀ id, act = .get number id → p.closed = true)
        (hUnclosed : act = .close number → p.closed = true)
        (h : ∃ p', w'.pools[number]? = some p' ∧ p.Steady p') :
        ∃ p', w'.pools[number]? = some p' ∧ Attended number act p p' := by
      obtain ⟨p', hp', hSteady⟩ := h
      exact ⟨p', hp', .apart hUnasked hUnclosed hSteady⟩
    cases act with
    | abandon pool | wake pool | hold pool taken =>
        cases hConcerns
        exact hApart nofun nofun ⟨_, updatePool_self hp _, rfl, rfl, rfl⟩
    | get pool id =>
        cases hConcerns
        refine ⟨_, visit_pool hp (Site.get_recorded id (w.site number p)), ?_⟩
        exact (Site.enter_spec id (w.site number p)).2.attended
    | resume pool request =>
        cases hConcerns
        refine hApart nofun nofun ⟨_, ?_, Site.resume_steady request (w.site number p)⟩
        exact visit_pool (f := fun s => ((), s.resume request)) hp
          (Site.resume_recorded request (w.site number p))
    | drop pool request =>
        cases hConcerns
        refine hApart nofun nofun ⟨_, ?_, Site.drop_steady request (w.site number p)⟩
        exact visit_pool (f := fun s => ((), s.drop request)) hp
          (Site.drop_serves request (w.site number p)).toRecorded
    | release pool ref =>
        cases hConcerns
        exact hApart nofun nofun (release_steady pool hp)
    | report pool ref cause =>
        cases hConcerns
        exact hApart nofun nofun (report_steady ref cause hp)
    | evictIdle pool =>
        cases hConcerns
        refine hApart nofun nofun ⟨_, ?_, (Site.evictIdle_spec (w.site number p)).2.steady⟩
        exact visit_pool hp (Site.evictIdle_serves (w.site number p)).toRecorded
    | reap pool =>
        cases hConcerns
        exact absurd rfl hTurn
    | close pool =>
        cases hConcerns
        refine ⟨_, visit_pool (f := fun s => ((), s.close)) hp
          (Site.close_housekeeps (w.site number p)).toRecorded, ?_⟩
        exact Site.close_attended number (w.site number p)
    | borrow ref | connection ref =>
        cases hConcerns
        exact hApart nofun nofun (use_steady _ hp)
    | giveBack ref =>
        cases hConcerns
        exact hApart nofun nofun (giveBack_steady hp)
    | _ => exact absurd hConcerns id
  · obtain ⟨p', hp', hScanned⟩ := perform_elsewhere hConcerns hp
    refine ⟨p', hp', .apart ?_ ?_ hScanned.steady⟩
    · rintro id rfl
      exact absurd rfl hConcerns
    · rintro rfl
      exact absurd rfl hConcerns

/-! ### Turns of the reaper in a world -/

/-- In the turn that it would have now the reaper of the pool reads the clock. -/
def ReaperReads (w : World δ γ) (number : Nat) : Prop :=
  (∃ p, w.pools[number]? = some p) ∧ 0 < (w.perform (.reap number : Act δ)).env.readings

/-- In the turn that it would have now the reaper of the pool skips its scan. -/
def ReaperSkips (w : World δ γ) (number : Nat) : Prop :=
  ∃ error, .scanSkipped error ∈ w.noted (.reap number : Act δ)

/-- In the turn that it would have now the reaper of the pool attempts a scan. -/
def ReaperScans (w : World δ γ) (number : Nat) : Prop :=
  w.ReaperReads number ∨ w.ReaperSkips number

theorem perform_reaped (hp : w.pools[number]? = some p) :
    ∃ attempt p', (w.perform (.reap number)).pools[number]? = some p' ∧
      p.Turned w.env.now w.env.shown attempt p' ∧
      (w.ReaperReads number ↔ attempt = .made) ∧ (w.ReaperSkips number ↔ attempt = .skipped) := by
  obtain ⟨attempt, hTurned, hShows⟩ := Site.tend_turned (w.site number p)
  obtain ⟨fresh, hFresh, hSkipped⟩ := hShows.skipped
  have hReap : w.perform (.reap number) = (w.visit number fun s => ((), s.tend)).2 :=
    turnReaper_eq number w
  obtain ⟨hReadings, extra, hExtra, hServes⟩ := visit_env hp fun s : Site δ γ => ((), s.tend)
  rw [← hReap] at hReadings hExtra
  refine ⟨attempt, _, ?_, hTurned, ?_, ?_⟩
  · rw [hReap]
    exact visit_pool (f := fun s => ((), s.tend)) hp
      (Site.tend_housekeeps (w.site number p)).toRecorded
  · rw [← hShows.made, ReaperReads, hReadings]
    exact and_iff_right ⟨p, hp⟩
  · rw [← hSkipped, ReaperSkips, noted_eq (hExtra.trans ((congrArg (extra ++ ·) hFresh).trans
      (List.append_assoc ..).symm))]
    refine exists_congr fun error => ⟨fun he => ?_, List.mem_append_right _⟩
    exact (List.mem_append.mp he).resolve_left fun hExtra => by cases hServes _ hExtra

/-- A reaper attempts scans only while it runs and its pool has not been shut down. -/
theorem reaperScans_spec (h : w.ReaperScans number) :
    ∃ p, w.pools[number]? = some p ∧ p.reaper.isRunning = true ∧ p.shutdown = false := by
  cases hp : w.pools[number]? with
  | none =>
      have hReap : w.perform (.reap number) = w :=
        (turnReaper_eq number w).trans (congrArg Prod.snd (visit_of_none hp _))
      rcases h with ⟨⟨p, hp'⟩, _⟩ | ⟨error, he⟩
      · cases hp.symm.trans hp'
      · rw [noted_of_same hReap] at he
        cases he
  | some p =>
      obtain ⟨attempt, p', _, hTurned, hReads, hSkips⟩ := perform_reaped hp
      have hAttempt : attempt ≠ .none := by
        rintro rfl
        rcases h with h | h
        · cases hReads.mp h
        · cases hSkips.mp h
      cases hTurned with
      | scanned running stays => exact ⟨p, rfl, running, stays⟩
      | _ => exact absurd rfl hAttempt

/-- A scan is skipped only while the registry is held elsewhere. -/
theorem busy_of_reaperSkips (hp : w.pools[number]? = some p) (h : w.ReaperSkips number) :
    p.busy = true := by
  obtain ⟨attempt, p', _, hTurned, _, hSkips⟩ := perform_reaped hp
  cases hSkips.mp h
  generalize hAttempt : ScanAttempt.skipped = attempt at hTurned
  cases hTurned with
  | scanned =>
      cases hBusy : p.busy with
      | true => rfl
      | false =>
          rw [Pool.attempt, hBusy] at hAttempt
          cases hAttempt
  | _ => cases hAttempt

/-! ### Along a run -/

/-- Some act of the run is of this kind, judged in the world that it meets. -/
def Occurs (kind : World δ γ → Act δ → Prop) : List (Act δ) → World δ γ → Prop
  | [], _ => False
  | act :: rest, w => kind w act ∨ Occurs kind rest (w.perform act)

/-- Every act of the run is of this kind, judged in the world that it meets. -/
def Throughout (kind : World δ γ → Act δ → Prop) : List (Act δ) → World δ γ → Prop
  | [], _ => True
  | act :: rest, w => kind w act ∧ Throughout kind rest (w.perform act)

end Performing

end World

end Tether
