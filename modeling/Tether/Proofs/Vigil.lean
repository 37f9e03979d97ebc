import Tether.Proofs.Upkeep

/-! The life of a reaper. The first request starts it, it is started once, and it then runs until
its pool is closed. A scan that is skipped does not end it: another one follows within a linger. -/

namespace Tether

variable {δ γ : Type}

/-- Whether the event is the start of a reaper. -/
def Event.startsReaper : Event → Bool
  | .reaperStarted _ => true
  | _ => false

theorem Event.not_startsReaper {e : Event} (h : e.topic ≠ .reaping) : e.startsReaper = false := by
  cases e <;> first | rfl | exact absurd rfl h

namespace Pool

variable {allowed : Prop} {clock : Option Instant} {now : Instant} {number : Nat} {act : Act δ}
  {attempt : ScanAttempt} {asked called : Prop} {p p' : Pool γ}

/-- The pool of a reaper that is on duty: where it was `called` off the pool is closed, and until
then it is idle exactly as long as nobody `asked` the pool for anything. -/
structure Vigil (asked called : Prop) (p : Pool γ) : Prop where
  closed : p.closed = true ↔ called
  idle : p.closed = false → (p.reaper = .idle ↔ ¬asked)
  stopped : p.closed = false → p.reaper = .stopped → p.shutdown = true
  unbroken : p.reaper ≠ .broken

theorem vigil_of_isNew (h : World.IsNew p) (hAsked : ¬asked) (hCalled : ¬called) :
    p.Vigil asked called := by
  obtain ⟨linger, rfl, _⟩ := h
  exact ⟨iff_of_false nofun hCalled, fun _ => iff_of_true rfl hAsked, nofun, nofun⟩

theorem Vigil.congr (h : p.Vigil asked called) (same : p.Steady p') : p'.Vigil asked called := by
  refine ⟨?_, ?_, ?_, ?_⟩
  · rw [same.closed]
    exact h.closed
  · rw [same.closed, same.reaper]
    exact h.idle
  · rw [same.closed, same.reaper, same.shutdown]
    exact h.stopped
  · rw [same.reaper]
    exact h.unbroken

theorem Vigil.asked_of_running (h : p.Vigil asked called) (hOpen : p.closed = false)
    (hRunning : p.reaper.isRunning = true) : ¬¬asked := by
  intro hUnasked
  rw [(h.idle hOpen).mpr hUnasked] at hRunning
  cases hRunning

/-- A request that an open pool takes in makes its reaper run, if it did not yet. -/
theorem Vigil.roused (h : p.Vigil asked called) : p.roused.Vigil True called := by
  have hReaper (reaper : Reaper) (hKept : reaper ≠ .idle) (h : p.roused.reaper = reaper) :
      p.reaper = reaper ∨ reaper = .starting := by
    unfold Pool.roused at h
    dsimp only at h
    split at h
    · exact Or.inr h.symm
    · exact Or.inl h
  refine ⟨h.closed, fun _ => iff_of_false ?_ (not_not_intro trivial), fun hOpen hStopped => ?_, ?_⟩
  · unfold Pool.roused
    dsimp only
    split
    · nofun
    · next hRunning => exact hRunning
  · exact h.stopped hOpen ((hReaper .stopped nofun hStopped).resolve_right nofun)
  · exact fun hBroken => h.unbroken ((hReaper .broken nofun hBroken).resolve_right nofun)

/-- A reaper that runs may well go to sleep. -/
theorem Vigil.asleep (h : p.Vigil asked called) (hRunning : p.reaper.isRunning = true)
    (ends : Instant) : ({ p with reaper := .asleep ends } : Pool γ).Vigil asked called :=
  ⟨h.closed, fun hOpen => iff_of_false nofun (h.asked_of_running hOpen hRunning), nofun, nofun⟩

/-- No turn starts a reaper or opens its pool, and if the clock can be read none breaks off. -/
theorem Vigil.turned (h : p.Vigil asked called) (hTurned : p.Turned now clock attempt p')
    (hShown : attempt = .made → clock ≠ none) : p'.Vigil asked called := by
  cases hTurned with
  | off ended shutdown lasting leaves =>
      exact ⟨h.closed, h.idle, fun hOpen hStopped => lasting (h.stopped hOpen hStopped), h.unbroken⟩
  | stopped running leaves =>
      exact ⟨h.closed, fun hOpen => iff_of_false nofun (h.asked_of_running hOpen running),
        fun _ _ => rfl, nofun⟩
  | rested starts stays => exact h.asleep (by rw [starts]; rfl) _
  | slept => exact h
  | scanned running stays wakes =>
      have hSteady := reaped_steady now fun hFree : p.busy = false =>
        hShown (by simp [Pool.attempt, hFree])
      exact (h.asleep running _).congr ⟨hSteady.closed, hSteady.shutdown, hSteady.reaper⟩

/-- The reaper of a pool that nobody let go of runs exactly if somebody asked the pool for something
and it was not called off. -/
theorem Vigil.running_iff (h : p.Vigil asked called) (hShut : p.closed = true → p.Shut)
    (hKept : p.Kept) : p.reaper.isRunning = true ↔ asked ∧ ¬called := by
  cases hClosed : p.closed with
  | true =>
      rw [(hShut hClosed).reaper]
      exact iff_of_false nofun fun hBoth => hBoth.2 (h.closed.mp hClosed)
  | false =>
      have hUncalled : ¬called := fun hCalled => by
        cases hClosed.symm.trans (h.closed.mpr hCalled)
      rw [and_iff_left hUncalled]
      have hAsked (hRunning : p.reaper.isRunning = true) : asked :=
        Classical.not_not.mp (h.asked_of_running hClosed hRunning)
      cases hReaper : p.reaper with
      | idle => exact iff_of_false nofun ((h.idle hClosed).mp hReaper)
      | starting | asleep ends => exact iff_of_true rfl (hAsked (by rw [hReaper]; rfl))
      | broken => exact absurd hReaper h.unbroken
      | stopped => cases hClosed.symm.trans (hKept (h.stopped hClosed hReaper))

end Pool

namespace World

open Surroundings Pool

variable [Dialer δ γ] {w : World δ γ} {number : Nat} {p : Pool γ} {act : Act δ}
  {asked called : Prop}

/-! ### Starts -/

/-- How many reapers the act starts for the pool with this number. -/
def starts (number : Nat) (w : World δ γ) : Act δ → Nat
  | .get pool id => if pool = number then (w.noted (.get pool id)).countP Event.startsReaper else 0
  | _ => 0

/-- How many reapers a run starts for the pool. -/
def startsAlong (number : Nat) : List (Act δ) → World δ γ → Nat
  | [], _ => 0
  | act :: rest, w => w.starts number act + startsAlong number rest (w.perform act)

/-- How many reapers the pool can still be given. -/
def startsLeft (number : Nat) (w : World δ γ) : Nat :=
  match w.pools[number]? with
  | some p => if p.reaper = .idle then 1 else 0
  | none => 1

omit [Dialer δ γ] in
theorem startsLeft_le (number : Nat) (w : World δ γ) : w.startsLeft number ≤ 1 := by
  unfold startsLeft
  split
  · split
    · exact Nat.le_refl _
    · exact Nat.zero_le _
  · exact Nat.le_refl _

theorem starts_of_none (hNone : w.pools[number]? = none) (act : Act δ) : w.starts number act = 0 := by
  unfold starts
  split
  · next pool id =>
    split
    · next hPool =>
      subst hPool
      have hGet : w.perform (.get pool id) = w := congrArg Prod.snd (visit_of_none hNone _)
      rw [noted_of_same hGet]
      rfl
    · rfl
  · rfl

/-- A request starts a reaper in an open pool that never had one, and nowhere else. -/
theorem starts_get (hp : w.pools[number]? = some p) (id : String) :
    w.starts number (.get number id) = 0 ∨
      w.starts number (.get number id) = 1 ∧ p.closed = false ∧ p.reaper = .idle := by
  obtain ⟨_, extra, hExtra, hServes⟩ := visit_env hp (Site.get id)
  obtain ⟨fresh, hFresh, hDone⟩ := (Site.get_roused id (w.site number p)).events
  have hNone : (extra ++ fresh).countP Event.startsReaper = 0 := by
    rw [List.countP_eq_zero]
    intro e he
    rw [Event.not_startsReaper]
    · nofun
    · rcases List.mem_append.mp he with he | he
      · exact fun h => by cases (hServes e he).symm.trans h
      · exact hDone e he
  have hCount : w.starts number (.get number id) =
      (w.noted (.get number id)).countP Event.startsReaper := if_pos rfl
  rw [hCount]
  rcases (w.site number p).rousedEnv_eq with hSame | ⟨hOpen, hIdle, hNoted⟩
  · have hAll : w.noted (.get number id) = extra ++ fresh := by
      refine noted_eq (hExtra.trans ?_)
      rw [hFresh, hSame]
      exact (List.append_assoc ..).symm
    rw [hAll]
    exact Or.inl hNone
  · have hAll : w.noted (.get number id) = extra ++ fresh ++ [.reaperStarted p.linger] := by
      refine noted_eq (hExtra.trans ?_)
      rw [hFresh, hNoted, List.append_assoc, List.append_assoc]
      rfl
    rw [hAll, List.countP_append, hNone]
    exact Or.inr ⟨rfl, hOpen, hIdle⟩

/-- A reaper that was started is never idle again, and neither is one that a request finds idle. -/
theorem perform_idle (act : Act δ) (hp : w.pools[number]? = some p) :
    ∃ p', (w.perform act).pools[number]? = some p' ∧
      (p'.reaper = .idle → p.reaper = .idle ∧ ∀ id, act = .get number id → p.closed = true) := by
  by_cases hTurn : act = .reap number
  · subst hTurn
    obtain ⟨attempt, p', hp', hTurned, _⟩ := perform_reaped hp
    refine ⟨p', hp', fun hIdle => ⟨?_, nofun⟩⟩
    cases hTurned with
    | off | slept => exact hIdle
    | scanned running =>
        unfold reaped at hIdle
        split at hIdle
        · cases hIdle
        · split at hIdle <;> cases hIdle
    | _ => cases hIdle
  · obtain ⟨p', hp', hAttended⟩ := perform_attended hTurn hp
    refine ⟨p', hp', fun hIdle => ?_⟩
    cases hAttended with
    | apart unasked unclosed same => exact ⟨same.reaper.symm.trans hIdle, unasked⟩
    | asked open_ same =>
        have hRoused := same.reaper.symm.trans hIdle
        unfold roused at hRoused
        dsimp only at hRoused
        split at hRoused
        · cases hRoused
        · next hStarted => exact absurd hRoused hStarted
    | closed open_ closed shutdown reaper => cases reaper.symm.trans hIdle

theorem starts_spec (number : Nat) (w : World δ γ) (act : Act δ) :
    w.starts number act + (w.perform act).startsLeft number ≤ w.startsLeft number := by
  cases hp : w.pools[number]? with
  | none =>
      have hLeft : w.startsLeft number = 1 := by
        rw [startsLeft, hp]
      rw [starts_of_none hp, Nat.zero_add, hLeft]
      exact startsLeft_le number _
  | some p =>
      obtain ⟨p', hp', hIdle⟩ := perform_idle act hp
      have hLeft : w.startsLeft number = if p.reaper = .idle then 1 else 0 := by
        rw [startsLeft, hp]
      have hLeft' : (w.perform act).startsLeft number = if p'.reaper = .idle then 1 else 0 := by
        rw [startsLeft, hp']
      have hLess : (w.perform act).startsLeft number ≤ w.startsLeft number := by
        rw [hLeft, hLeft']
        split
        · next h =>
          rw [if_pos (hIdle h).1]
        · exact Nat.zero_le _
      by_cases hGet : ∃ id, act = .get number id
      · obtain ⟨id, rfl⟩ := hGet
        rcases starts_get hp id with hNone | ⟨hOne, hOpen, hWas⟩
        · rw [hNone, Nat.zero_add]
          exact hLess
        -- the start that was left is spent: an open pool that is asked has no idle reaper after it
        · have hStarted : p'.reaper ≠ .idle := fun h => by
            cases hOpen.symm.trans ((hIdle h).2 id rfl)
          rw [hOne, hLeft, hLeft', if_pos hWas, if_neg hStarted]
      · have hNone : w.starts number act = 0 := by
          unfold starts
          split
          · next pool id =>
            exact if_neg fun hPool => hGet ⟨id, by rw [hPool]⟩
          · rfl
        rw [hNone, Nat.zero_add]
        exact hLess

theorem startsAlong_le (number : Nat) (acts : List (Act δ)) (w : World δ γ) :
    startsAlong number acts w + (w.performAll acts).startsLeft number ≤ w.startsLeft number := by
  induction acts generalizing w with
  | nil => exact Nat.le_of_eq (Nat.zero_add _)
  | cons act rest ih =>
      have hStep := starts_spec number w act
      have hRest := ih (w.perform act)
      show w.starts number act + startsAlong number rest (w.perform act) +
        ((w.perform act).performAll rest).startsLeft number ≤ _
      omega

/-! ### On duty -/

/-- The act asks the pool, which is open, for something. -/
def Asks (number : Nat) (w : World δ γ) (act : Act δ) : Prop :=
  ∃ id p, act = .get number id ∧ w.pools[number]? = some p ∧ p.closed = false

/-- The act closes the pool, or would if it were not closed yet. -/
def Closes (number : Nat) (w : World δ γ) (act : Act δ) : Prop :=
  act = .close number ∧ ∃ p, w.pools[number]? = some p

/-- No turn of the reaper breaks off because the clock cannot be read. -/
def Sees (number : Nat) (w : World δ γ) (act : Act δ) : Prop :=
  act = .reap number → w.ReaperReads number → w.env.shown ≠ none

/-- The pool with this number, if it was opened, has its reaper on duty. -/
structure VigilAt (number : Nat) (asked called : Prop) (w : World δ γ) : Prop where
  unopened : w.pools[number]? = none → ¬asked ∧ ¬called
  opened : ∀ p, w.pools[number]? = some p → p.Vigil asked called

theorem perform_vigil (hVigil : w.VigilAt number asked called) (hSees : w.Sees number act) :
    (w.perform act).VigilAt number (asked ∨ w.Asks number act) (called ∨ w.Closes number act) := by
  cases hp : w.pools[number]? with
  | none =>
      obtain ⟨hUnasked, hUncalled⟩ := hVigil.unopened hp
      have hNot : ¬(asked ∨ w.Asks number act) ∧ ¬(called ∨ w.Closes number act) := by
        refine ⟨?_, ?_⟩
        · rintro (h | ⟨_, _, _, hp', _⟩)
          · exact hUnasked h
          · cases hp.symm.trans hp'
        · rintro (h | ⟨_, _, hp'⟩)
          · exact hUncalled h
          · cases hp.symm.trans hp'
      exact ⟨fun _ => hNot, fun p' hp' =>
        vigil_of_isNew ((perform_spec act w).opened number p' hp hp') hNot.1 hNot.2⟩
  | some p =>
      have hWas := hVigil.opened p hp
      suffices h : ∃ p', (w.perform act).pools[number]? = some p' ∧
          p'.Vigil (asked ∨ w.Asks number act) (called ∨ w.Closes number act) by
        obtain ⟨p', hp', hNow⟩ := h
        refine ⟨fun hNone => ?_, fun q hq => ?_⟩
        · cases hNone.symm.trans hp'
        · cases hp'.symm.trans hq
          exact hNow
      by_cases hTurn : act = .reap number
      · subst hTurn
        obtain ⟨attempt, p', hp', hTurned, hReads, _⟩ := perform_reaped hp
        refine ⟨p', hp', ?_⟩
        have hUnasked : ¬w.Asks number (.reap number) := by
          rintro ⟨_, _, ⟨⟩, _⟩
        have hUncalled : ¬w.Closes number (.reap number) := by
          rintro ⟨⟨⟩, _⟩
        rw [or_iff_left hUnasked, or_iff_left hUncalled]
        exact hWas.turned hTurned fun hMade => hSees rfl (hReads.mpr hMade)
      · obtain ⟨p', hp', hAttended⟩ := perform_attended hTurn hp
        refine ⟨p', hp', ?_⟩
        cases hAttended with
        | apart unasked unclosed same =>
            refine Vigil.congr ?_ same
            cases hClosed : p.closed with
            | true =>
                -- a closed pool can be asked and closed again, which its reaper does not notice
                have hCalled := hWas.closed.mp hClosed
                have hNever (hOpen : p.closed = false) :
                    p.reaper = .idle ↔ ¬(asked ∨ w.Asks number act) := by
                  cases hOpen.symm.trans hClosed
                exact ⟨iff_of_true hClosed (Or.inl hCalled), hNever, hWas.stopped, hWas.unbroken⟩
            | false =>
                have hUnasked : ¬w.Asks number act := by
                  rintro ⟨id, _, hGet, _⟩
                  cases hClosed.symm.trans (unasked id hGet)
                have hUncalled : ¬w.Closes number act := by
                  rintro ⟨hClose, _⟩
                  cases hClosed.symm.trans (unclosed hClose)
                rw [or_iff_left hUnasked, or_iff_left hUncalled]
                exact hWas
        | @asked id _ _ open_ same =>
            have hAsked : asked ∨ w.Asks number (.get number id) :=
              Or.inr ⟨id, p, rfl, hp, open_⟩
            have hUncalled : ¬w.Closes number (.get number id) := by
              rintro ⟨⟨⟩, _⟩
            rw [or_iff_left hUncalled, iff_true_intro hAsked]
            exact hWas.roused.congr same
        | closed open_ closed shutdown reaper =>
            refine ⟨iff_of_true closed (Or.inr ⟨rfl, p, hp⟩), fun hOpen => ?_, fun _ _ => shutdown, ?_⟩
            · cases closed.symm.trans hOpen
            · rw [reaper]
              nofun

theorem performAll_vigil (acts : List (Act δ)) (hVigil : w.VigilAt number asked called)
    (hSees : Throughout (Sees number) acts w) :
    (w.performAll acts).VigilAt number (asked ∨ Occurs (Asks number) acts w)
      (called ∨ Occurs (Closes number) acts w) := by
  induction acts generalizing w asked called with
  | nil =>
      rw [Occurs, Occurs, or_false, or_false]
      exact hVigil
  | cons act rest ih =>
      have hRest := ih (perform_vigil hVigil hSees.1) hSees.2
      rw [or_assoc, or_assoc] at hRest
      exact hRest

/-! ### After a skipped scan -/

/-- Time passes no faster than the reaper of the pool can follow, which can read the clock, and
nobody lets go of the pool without closing it. -/
structure Orderly (number : Nat) (w : World δ γ) (act : Act δ) : Prop where
  prompt : w.Prompt number act
  sees : w.Sees number act
  kept : ∀ p, (w.perform act).pools[number]? = some p → p.Kept

/-- The reaper of the pool is asleep and will wake up by this moment. -/
def WakesBy (number : Nat) (limit : Instant) (w : World δ γ) : Prop :=
  ∃ p ends, w.pools[number]? = some p ∧ p.closed = false ∧ p.shutdown = false ∧
    p.reaper = .asleep ends ∧ w.env.now ≤ ends ∧ ends ≤ limit

/-- The act closes the pool by this moment, or is a turn of its reaper with a scan. -/
def EndsWatch (number : Nat) (limit : Instant) (w : World δ γ) (act : Act δ) : Prop :=
  w.env.now ≤ limit ∧ (w.Closes number act ∨ act = .reap number ∧ w.ReaperScans number)

/-- After a scan that was skipped the reaper is asleep for at most a linger. -/
theorem perform_skipped (hp : w.pools[number]? = some p) (hShut : p.closed = true → p.Shut)
    (hSkips : w.ReaperSkips number) :
    (w.perform (.reap number)).WakesBy number (w.env.now + p.linger) := by
  obtain ⟨attempt, p', hp', hTurned, _, hSkipped⟩ := perform_reaped hp
  have hAttempt := hSkipped.mp hSkips
  have hBusy := busy_of_reaperSkips hp hSkips
  cases hTurned with
  | scanned running stays wakes =>
      have hShown (hFree : p.busy = false) : w.env.shown ≠ none := by
        cases hFree.symm.trans hBusy
      have hSteady := reaped_steady w.env.now hShown
      have hOpen : p.closed = false := by
        cases hClosed : p.closed with
        | false => rfl
        | true => cases stays.symm.trans (hShut hClosed).shutdown
      have hNow : (w.perform (.reap number)).env.now = w.env.now := perform_now w nofun
      refine ⟨_, w.env.now + p.linger.slept, hp', hSteady.closed.trans hOpen,
        hSteady.shutdown.trans stays, hSteady.reaper, ?_, ?_⟩
      · rw [hNow]
        exact Nat.le_add_right ..
      · exact Nat.add_le_add_left (Nat.min_le_left ..) _
  | _ => cases hAttempt

/-- A reaper that will wake up in time goes on sleeping, unless its watch ends. -/
theorem perform_wakesBy {limit : Instant} (hWakes : w.WakesBy number limit)
    (hOrderly : w.Orderly number act) :
    w.EndsWatch number limit act ∨ (w.perform act).WakesBy number limit := by
  obtain ⟨p, ends, hp, hOpen, hStays, hAsleep, hEarly, hLimit⟩ := hWakes
  have hSoon : w.env.now ≤ limit := Nat.le_trans hEarly hLimit
  by_cases hPass : ∃ moment, act = .pass moment
  · obtain ⟨moment, rfl⟩ := hPass
    refine Or.inr ⟨p, ends, hp, hOpen, hStays, hAsleep, ?_, hLimit⟩
    by_cases hLater : w.env.now < moment
    · exact Nat.max_le.mpr ⟨hEarly, hOrderly.prompt.within moment rfl hLater p hp ends hAsleep⟩
    · exact Nat.max_le.mpr ⟨hEarly, Nat.le_trans (Nat.le_of_not_lt hLater) hEarly⟩
  · have hNow := perform_now w (not_exists.mp hPass)
    by_cases hTurn : act = .reap number
    · subst hTurn
      obtain ⟨attempt, p', hp', hTurned, hReads, hSkips⟩ := perform_reaped hp
      cases hTurned with
      | off ended =>
          rw [hAsleep] at ended
          cases ended
      | stopped =>
          have hClosed := hOrderly.kept _ hp' rfl
          cases hOpen.symm.trans hClosed
      | rested starts => cases starts.symm.trans hAsleep
      | slept =>
          refine Or.inr ⟨p, ends, hp', hOpen, hStays, hAsleep, ?_, hLimit⟩
          rw [hNow]
          exact hEarly
      | scanned =>
          refine Or.inl ⟨hSoon, Or.inr ⟨rfl, ?_⟩⟩
          cases hBusy : p.busy with
          | true => exact Or.inr (hSkips.mpr (if_pos hBusy))
          | false => exact Or.inl (hReads.mpr (if_neg (Bool.eq_false_iff.mp hBusy)))
    · obtain ⟨p', hp', hAttended⟩ := perform_attended hTurn hp
      have hSame (same : p.Steady p') : (w.perform act).WakesBy number limit := by
        refine ⟨p', ends, hp', same.closed.trans hOpen, same.shutdown.trans hStays,
          same.reaper.trans hAsleep, ?_, hLimit⟩
        rw [hNow]
        exact hEarly
      cases hAttended with
      | apart unasked unclosed same => exact Or.inr (hSame same)
      | asked open_ same =>
          have hReaper : p.roused.reaper = p.reaper := by
            rw [roused, hAsleep]
          exact Or.inr (hSame ⟨same.closed, same.shutdown, same.reaper.trans hReaper⟩)
      | closed => exact Or.inl ⟨hSoon, Or.inl ⟨rfl, p, hp⟩⟩

theorem performAll_wakesBy {limit : Instant} {acts : List (Act δ)}
    (hWakes : w.WakesBy number limit) (hOrderly : Throughout (Orderly number) acts w) :
    Occurs (EndsWatch number limit) acts w ∨ (w.performAll acts).WakesBy number limit := by
  induction acts generalizing w with
  | nil => exact Or.inr hWakes
  | cons act rest ih =>
      rcases perform_wakesBy hWakes hOrderly.1 with hEnds | hStill
      · exact Or.inl (Or.inl hEnds)
      · exact (ih hStill hOrderly.2).imp_left Or.inr

/-- As long as the clock can be read in its turns, the reaper of a pool is started by a request, at
most once, and it runs exactly from the first request to the open pool until the pool is closed; in
between are all its scans. A scan that it has to skip does not end it: once a linger has passed since
then, and all that was due has been done, there was another scan within that linger, or the pool was
closed before it was over. -/
theorem reaper_lifecycle {env : Surroundings δ} {acts : List (Act δ)}
    (hRun : w = performAll acts { env })
    (hSees : Throughout (Sees number) acts ({ env } : World δ γ)) :
    startsAlong number acts ({ env } : World δ γ) ≤ 1 ∧
    (∀ (w' : World δ γ) act interval, .reaperStarted interval ∈ w'.noted act →
      ∃ pool id, act = .get pool id) ∧
    (∀ p, w.pools[number]? = some p → p.Kept →
      (p.reaper.isRunning = true ↔ Occurs (Asks number) acts ({ env } : World δ γ) ∧
        ¬Occurs (Closes number) acts ({ env } : World δ γ))) ∧
    (w.ReaperScans number → Occurs (Asks number) acts ({ env } : World δ γ) ∧
      ¬Occurs (Closes number) acts ({ env } : World δ γ)) ∧
    (w.ReaperSkips number → ∃ p, (w.perform (.reap number)).pools[number]? = some p ∧
      p.reaper.isRunning = true ∧
      ∀ later w', w' = (w.perform (.reap number)).performAll later →
        Throughout (Orderly number) later (w.perform (.reap number)) →
        (∀ p', w'.pools[number]? = some p' → reaperReady w'.env.now p' = false) →
        w.env.now + p.linger ≤ w'.env.now →
        Occurs (EndsWatch number (w.env.now + p.linger)) later (w.perform (.reap number))) := by
  have hReachable : w.Reachable := ⟨env, acts, hRun⟩
  have hVigil : w.VigilAt number (Occurs (Asks number) acts ({ env } : World δ γ))
      (Occurs (Closes number) acts ({ env } : World δ γ)) := by
    have hStart : ({ env } : World δ γ).VigilAt number False False :=
      ⟨fun _ => ⟨id, id⟩, nofun⟩
    have hEnd := performAll_vigil acts hStart hSees
    rw [false_or, false_or] at hEnd
    exact hRun ▸ hEnd
  have hRunning (p : Pool γ) (hp : w.pools[number]? = some p) (hKept : p.Kept) :=
    (hVigil.opened p hp).running_iff (hReachable.shut hp) hKept
  refine ⟨?_, ?_, hRunning, ?_, ?_⟩
  · have hBound := startsAlong_le number acts ({ env } : World δ γ)
    exact Nat.le_trans (Nat.le_of_add_right_le hBound) (startsLeft_le number _)
  · intro w' act interval hStarted
    have hAllowed := noted_allowed hStarted
    cases act with
    | get pool id => exact ⟨pool, id, rfl⟩
    | resume => exact absurd rfl hAllowed
    | reap | close =>
        rcases hAllowed with hServes | hTends
        · cases hServes
        · exact absurd rfl (hTends.2 interval)
    | _ => cases hAllowed
  · intro hScans
    obtain ⟨p, hp, hRuns, hStays⟩ := reaperScans_spec hScans
    refine (hRunning p hp fun hShutdown => ?_).mp hRuns
    cases hStays.symm.trans hShutdown
  · intro hSkips
    obtain ⟨p, hp, _⟩ := reaperScans_spec (Or.inr hSkips)
    obtain ⟨p', hp', hChange⟩ := (perform_spec (.reap number) w).pools number p hp
    have hWakes := perform_skipped hp (hReachable.shut hp) hSkips
    have hRuns : p'.reaper.isRunning = true := by
      obtain ⟨q, ends, hq, _, _, hAsleep, _⟩ := hWakes
      cases hp'.symm.trans hq
      rw [hAsleep]
      rfl
    refine ⟨p', hp', hRuns, ?_⟩
    rintro later w' rfl hOrderly hDone hPassed
    rw [hChange.linger_eq] at hPassed ⊢
    refine (performAll_wakesBy hWakes hOrderly).resolve_right ?_
    rintro ⟨r, ends, hr, _, _, hAsleep, hEarly, hLimit⟩
    have hReady := hDone r hr
    rw [reaperReady, hAsleep] at hReady
    simp only [Bool.or_eq_false_iff, decide_eq_false_iff_not] at hReady
    exact hReady.2 (Nat.le_trans hLimit hPassed)

/-- A request without an endpoint started the reaper, which now finds the registry taken. -/
def watched : World (FixedDialer Nat) Nat :=
  performAll [.openPool 10, .get 0 "", .reap 0, .hold 0 true, .pass 10]
    { env := { factory := { dialer := { connection := 7 } } } }

theorem watched_scans_again : watched.ReaperSkips 0 ∧
    Occurs (EndsWatch 0 20) [.hold 0 false, .pass 20, .reap 0] (watched.perform (.reap 0)) := by
  have hSkips : watched.ReaperSkips 0 := ⟨.busy, by decide +kernel⟩
  have hSees (w : World (FixedDialer Nat) Nat) (act : Act (FixedDialer Nat))
      (hClock : w.env.clock = .system) : w.Sees 0 act := fun _ _ hBlind => by
    rw [Surroundings.shown, hClock] at hBlind
    cases hBlind
  obtain ⟨_, _, _, _, hAgain⟩ := reaper_lifecycle (w := watched) rfl
    ⟨hSees _ _ rfl, hSees _ _ rfl, hSees _ _ rfl, hSees _ _ rfl, hSees _ _ rfl, trivial⟩
  obtain ⟨p, hp, _, hLater⟩ := hAgain hSkips
  have hPrompt (w : World (FixedDialer Nat) Nat) (act : Act (FixedDialer Nat))
      (hAct : ∀ moment, act ≠ .pass moment) : w.Prompt 0 act :=
    ⟨fun moment h => absurd h (hAct moment), fun moment h => absurd h (hAct moment)⟩
  have hKept {w : World (FixedDialer Nat) Nat} {q : Pool Nat} (hq : w.pools[0]? = some q)
      (hStays : q.shutdown = false) (r : Pool Nat) (hr : w.pools[0]? = some r) : r.Kept := by
    cases hq.symm.trans hr
    exact fun hShutdown => by cases hStays.symm.trans hShutdown
  cases (Option.some.inj hp : _ = p)
  refine ⟨hSkips, hLater _ _ rfl ⟨?_, ?_, ?_, trivial⟩ ?_ (by decide)⟩
  · exact ⟨hPrompt _ _ (by simp), hSees _ _ rfl, hKept rfl rfl⟩
  · refine ⟨prompt_of_settled (by decide +kernel) fun due hDue => ?_, hSees _ _ rfl, hKept rfl rfl⟩
    cases (hDue : some 20 = some due)
    exact Nat.le_refl _
  · exact ⟨hPrompt _ _ (by simp), hSees _ _ rfl, hKept rfl rfl⟩
  · intro q hq
    cases (Option.some.inj hq : _ = q)
    rfl

end World

end Tether
