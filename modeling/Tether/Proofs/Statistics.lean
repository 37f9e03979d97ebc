import Tether.Proofs.Granted
import Tether.Proofs.SharedOutcome

/-! The counters of a pool. They only grow, and they account for every handle that was made, every
request that was granted one, and every sequence of dials that failed. -/

namespace Tether

variable {δ γ : Type}

/-- No counter is below what it was. -/
structure Counters.Grown (c c' : Counters) : Prop where
  created : c.created ≤ c'.created
  reused : c.reused ≤ c'.reused
  failed : c.failed ≤ c'.failed
  evicted : c.evicted ≤ c'.evicted
  invalidated : c.invalidated ≤ c'.invalidated

namespace Counters

variable {c c' c'' : Counters}

theorem Grown.refl (c : Counters) : c.Grown c :=
  ⟨Nat.le_refl _, Nat.le_refl _, Nat.le_refl _, Nat.le_refl _, Nat.le_refl _⟩

theorem Grown.trans (first : c.Grown c') (second : c'.Grown c'') : c.Grown c'' :=
  ⟨Nat.le_trans first.created second.created, Nat.le_trans first.reused second.reused,
    Nat.le_trans first.failed second.failed, Nat.le_trans first.evicted second.evicted,
    Nat.le_trans first.invalidated second.invalidated⟩

end Counters

/-- The sequence is over and has failed. -/
def DialProgress.isFailed : DialProgress γ → Bool
  | failed _ => true
  | _ => false

namespace Pool

/-- What happens to a pool as its counters show it. While the pool is open they and the registry
keep their balance; once it is closed only failures are counted. -/
structure Counted (p p' : Pool γ) : Prop where
  grown : p.counters.Grown p'.counters
  live : p'.closed = false →
    p'.counters.created + (p.size + p.counters.evicted + p.counters.invalidated) =
      p.counters.created + (p'.size + p'.counters.evicted + p'.counters.invalidated)
  frozen : p.closed = true → p'.closed = true ∧
    p'.counters = { p.counters with failed := p'.counters.failed }

variable {allowed : Prop} {clock : Option Instant} {number gate handle index : Nat}
  {id dialed : String} {act : Act δ} {p p' p'' q : Pool γ} {requests : List Request}
  {state : RequestState} {now : Instant}

theorem Counted.refl (p : Pool γ) : Counted p p := ⟨.refl _, fun _ => rfl, fun h => ⟨h, rfl⟩⟩

theorem Counted.trans (first : Counted p p') (second : Counted p' p'') : Counted p p'' := by
  refine ⟨first.grown.trans second.grown, fun hOpen => ?_, fun hClosed => ?_⟩
  · have hOpen' : p'.closed = false := by
      rw [← Bool.not_eq_true]
      intro hClosed
      cases hOpen.symm.trans (second.frozen hClosed).1
    have hFirst := first.live hOpen'
    have hSecond := second.live hOpen
    omega
  · obtain ⟨hClosed', hFirst⟩ := first.frozen hClosed
    obtain ⟨hClosed'', hSecond⟩ := second.frozen hClosed'
    exact ⟨hClosed'', by rw [hSecond, hFirst]⟩

/-- Nothing is counted, and the registry stays as it is. -/
theorem Counted.of_same (hClosed : p'.closed = p.closed) (hRegistry : p'.registry = p.registry)
    (hCounters : p'.counters = p.counters) : Counted p p' := by
  have hSize : p'.size = p.size := congrArg List.length hRegistry
  refine ⟨hCounters ▸ .refl _, fun _ => by rw [hCounters, hSize], fun h => ?_⟩
  exact ⟨hClosed.trans h, by rw [hCounters]⟩

theorem Counted.of_failed (hClosed : p'.closed = p.closed) (hRegistry : p'.registry = p.registry)
    (hCounters : p'.counters = { p.counters with failed := p.counters.failed + 1 }) :
    Counted p p' := by
  have hSize : p'.size = p.size := congrArg List.length hRegistry
  refine ⟨?_, fun _ => by rw [hCounters, hSize], fun h => ⟨hClosed.trans h, by rw [hCounters]⟩⟩
  rw [hCounters]
  exact ⟨Nat.le_refl _, Nat.le_refl _, Nat.le_succ _, Nat.le_refl _, Nat.le_refl _⟩

/-- What leaves the registry in a scan is counted as evicted. -/
theorem counted_swept (hEmptied : p.closed = true → p.registry = []) :
    Counted p (p.swept now) := by
  refine ⟨⟨Nat.le_refl _, Nat.le_refl _, Nat.le_refl _, Nat.le_add_right _ _, Nat.le_refl _⟩,
    fun _ => ?_, fun hClosed => ⟨hClosed, ?_⟩⟩
  · let stale : String × Nat → Bool := fun entry => Site.isStale now p entry.2
    have hSplit : p.size = p.registry.countP stale + (p.swept now).size := by
      rw [size, size, swept_registry, ← List.countP_eq_length_filter,
        List.length_eq_countP_add_countP stale]
      simp [stale]
    show p.counters.created + (p.size + p.counters.evicted + p.counters.invalidated) =
      p.counters.created + ((p.swept now).size + (p.counters.evicted + p.registry.countP stale) +
        p.counters.invalidated)
    omega
  · show ({ p.counters with evicted := p.counters.evicted + p.registry.countP _ } : Counters) = _
    rw [hEmptied hClosed]
    rfl

theorem Scanned.counted (h : Scanned allowed clock p q)
    (hEmptied : p.closed = true → p.registry = []) : Counted p q := by
  rcases h with rfl | ⟨_, _, now, _, rfl⟩
  · exact .refl _
  · exact counted_swept hEmptied

/-- A fresh handle for an endpoint that has none. -/
theorem counted_enroll (connection : γ) (hOpen : p.closed = false)
    (hVacant : p.registry.get? id = none) : Counted p (p.enroll now id connection) := by
  refine ⟨⟨Nat.le_succ _, Nat.le_refl _, Nat.le_refl _, Nat.le_refl _, Nat.le_refl _⟩,
    fun _ => ?_, fun hClosed => ?_⟩
  · have hSize : (p.enroll now id connection).size = p.size + 1 :=
      Table.length_insert hVacant p.handles.length
    show p.counters.created + 1 + (p.size + p.counters.evicted + p.counters.invalidated) =
      p.counters.created + ((p.enroll now id connection).size + p.counters.evicted +
        p.counters.invalidated)
    omega
  · cases hOpen.symm.trans hClosed

theorem counted_lend (hOpen : p.closed = false) : Counted p (p.lend now handle) := by
  refine ⟨⟨Nat.le_refl _, Nat.le_succ _, Nat.le_refl _, Nat.le_refl _, Nat.le_refl _⟩,
    fun _ => rfl, fun hClosed => ?_⟩
  cases hOpen.symm.trans hClosed

theorem counted_reported (hOpen : p.closed = false) (hKeys : p.registry.keys.Nodup)
    (hFound : p.registry.get? id = some handle) :
    Counted p ({ p with registry := p.registry.erase id }.count fun c =>
      { c with invalidated := c.invalidated + 1 }) := by
  refine ⟨⟨Nat.le_refl _, Nat.le_refl _, Nat.le_refl _, Nat.le_refl _, Nat.le_succ _⟩,
    fun _ => ?_, fun hClosed => ?_⟩
  · have hSize : (p.registry.erase id).length + 1 = p.size := Table.length_erase hKeys hFound
    show p.counters.created + (p.size + p.counters.evicted + p.counters.invalidated) =
      p.counters.created + ((p.registry.erase id).length + p.counters.evicted +
        (p.counters.invalidated + 1))
    omega
  · cases hOpen.symm.trans hClosed

/-- What is counted when the pool is written down with its requests or its reaper changed. -/
theorem Counted.congr {r : Pool γ} (h : Counted p p') (hClosed : r.closed = p'.closed)
    (hRegistry : r.registry = p'.registry) (hCounters : r.counters = p'.counters) :
    Counted p r :=
  h.trans (.of_same hClosed hRegistry hCounters)

theorem Followed.counted {progress : DialProgress γ}
    (h : Followed clock gate id dialed p progress state p')
    (hVacant : p.closed = false → p.registry.get? id = none) : Counted p p' := by
  cases h with
  | waiting => exact .refl _
  | failed error => exact .of_failed rfl rfl rfl
  | unread | discarded => exact .of_same rfl rfl rfl
  | created shown open_ => exact (counted_enroll _ open_ (hVacant open_)).congr rfl rfl rfl

theorem Looked.counted (h : Looked allowed clock id p state p') : Counted p p' := by
  cases h with
  | closed | unread | queued => exact .refl _
  | reused open_ => exact counted_lend open_
  | @dials _ _ q _ lacks scanned follows =>
      have hScanned : Counted p q := scanned.counted fun hClosed => by
        cases lacks.open_.symm.trans hClosed
      have hRaised : Counted q (q.raiseGate id) := .of_same rfl rfl rfl
      have hLacks := lacks.scanned scanned
      exact hScanned.trans (hRaised.trans (follows.counted fun _ => hLacks.unregistered))

theorem Entered.counted (h : Entered allowed clock id p state p') : Counted p p' := by
  have hRoused : Counted p p.roused := .of_same rfl rfl rfl
  cases h with
  | closed => exact .refl _
  | unnamed => exact hRoused
  | looked open_ named looks => exact hRoused.trans looks.counted

theorem Passed.counted (h : Passed allowed clock gate id p state p') : Counted p p' := by
  cases h with
  | failed | closed | queued => exact .refl _
  | looked decided looks => exact looks.counted

theorem Change.counted (h : Change allowed clock number act p p') (hSound : p.Sound p.requests) :
    Counted p p' := by
  have hEmptied (hClosed : p.closed = true) : p.registry = [] := (hSound.emptied hClosed).2
  cases h with
  | tended scanned same =>
      obtain ⟨_, _, _, _, rfl, _⟩ := same
      exact (scanned.counted hEmptied).congr rfl rfl rfl
  | held | left | gaveUp => exact .of_same rfl rfl rfl
  | entered enters => exact enters.counted.congr rfl rfl rfl
  | passed waits passes => exact passes.counted.congr rfl rfl rfl
  | followed dials scanned follows =>
      have hVacant := hSound.vacant
      refine ((scanned.counted hEmptied).trans (follows.counted fun hOpen => ?_)).congr rfl rfl rfl
      exact scanned.registry_none (hVacant (scanned.closed_eq ▸ hOpen) _ _ _ ⟨_, dials⟩)
  | borrowed scanned | givenBack scanned | touched scanned =>
      exact (scanned.counted hEmptied).congr rfl rfl rfl
  | reported open_ made registered => exact counted_reported open_ hSound.keys registered
  | closed open_ =>
      refine ⟨.refl _, nofun, fun hClosed => ?_⟩
      cases open_.symm.trans hClosed

/-! ### What the counters add up to -/

/-- Every handle that was made is registered, was evicted or was reported, as long as the pool is
open; every request that was granted a handle counts as one that created it or as one that found it.
-/
structure Balanced (p : Pool γ) : Prop where
  live : p.closed = false →
    p.counters.created = p.size + p.counters.evicted + p.counters.invalidated
  granted : p.counters.created + p.counters.reused = p.granted.length

theorem balanced_of_isNew (h : World.IsNew p) : p.Balanced := by
  obtain ⟨linger, rfl, _⟩ := h
  exact ⟨fun _ => rfl, rfl⟩

theorem Balanced.changed (h : p.Balanced) (hSound : p.Sound p.requests)
    (hChange : Change allowed clock number act p p') : p'.Balanced := by
  have hCounted := hChange.counted hSound
  obtain ⟨given, hDealt⟩ := hChange.dealt hSound
  refine ⟨fun hOpen => ?_, ?_⟩
  · have hOpen' : p.closed = false := by
      rw [← Bool.not_eq_true]
      intro hClosed
      cases hOpen.symm.trans (hCounted.frozen hClosed).1
    have hBefore := h.live hOpen'
    have hStep := hCounted.live hOpen
    omega
  · rw [hDealt.counted, h.granted, hDealt.granted.length_eq, List.length_append, Nat.add_comm]

/-! ### Failed sequences -/

theorem Followed.failed_eq {progress : DialProgress γ}
    (h : Followed clock gate id dialed p progress state p') :
    p'.counters.failed = p.counters.failed + progress.isFailed.toNat := by
  cases h <;> rfl

theorem Looked.failed_eq (h : Looked allowed clock id p state p') (hHas : ¬p.Lacks id) :
    p'.counters.failed = p.counters.failed := by
  cases h with
  | dials lacks => exact absurd lacks hHas
  | _ => rfl

end Pool

namespace World

open Pool

variable [Dialer δ γ] {w : World δ γ} {number : Nat} {p p' : Pool γ} {act : Act δ}

/-- A sequence of dials that a request of the pool runs ends in a failure in this act. -/
def Fails (number : Nat) (w : World δ γ) (act : Act δ) : Prop :=
  ∃ p index id gate error, w.pools[number]? = some p ∧
    w.Dials number p index id gate act (.failed error)

open Classical in
/-- Sequences of dials, started by requests of the pool, that ended in a failure in a run. -/
noncomputable def failures (number : Nat) (acts : List (Act δ)) (w : World δ γ) : Nat :=
  countAlong (fun w act => decide (Fails number w act)) acts w

theorem Dials.failed_eq {index gate : Nat} {id : String} {progress : DialProgress γ}
    (hDials : w.Dials number p index id gate act progress) (hSound : p.Sound p.requests)
    (hp : w.pools[number]? = some p) (hp' : (w.perform act).pools[number]? = some p') :
    p'.counters.failed = p.counters.failed + progress.isFailed.toNat := by
  obtain ⟨state, q, ⟨r, s, hReady, hFollowed, hq⟩, hPool, _⟩ := hDials.turned hSound hp
  cases hPool.symm.trans hp'
  rw [hq]
  show s.counters.failed = _
  rw [hFollowed.failed_eq, hReady.counters]

/-- An act in which no request of the pool is at its sequence of dials counts no failure. -/
theorem dials_or_failed_eq {allowed : Prop} {clock : Option Instant}
    (hChange : Change allowed clock number act p p') :
    (∃ index id gate progress, w.Dials number p index id gate act progress) ∨
      p'.counters.failed = p.counters.failed := by
  cases hChange with
  | tended scanned same =>
      obtain ⟨_, _, _, _, rfl, _⟩ := same
      exact Or.inr scanned.counted_eq.2.2
  | held | left | gaveUp | reported | closed => exact Or.inr rfl
  | borrowed scanned | givenBack scanned | touched scanned => exact Or.inr scanned.counted_eq.2.2
  | @entered id _ _ _ enters =>
      cases enters with
      | closed | unnamed => exact Or.inr rfl
      | looked open_ named looks =>
          by_cases hLacks : p.Lacks id
          · exact Or.inl ⟨_, _, _, _, .started named hLacks rfl rfl⟩
          · refine Or.inr (looks.failed_eq fun h => hLacks ?_)
            exact ⟨h.open_, h.unregistered, h.undialed⟩
  | @passed index gate id _ _ _ waits passes =>
      cases passes with
      | failed | closed | queued => exact Or.inr rfl
      | looked decided looks =>
          by_cases hLacks : p.Lacks id
          · exact Or.inl ⟨_, _, _, _, .restarted waits decided hLacks rfl⟩
          · exact Or.inr (looks.failed_eq hLacks)
  | followed dials => exact Or.inl ⟨_, _, _, _, .resumed dials⟩

open Classical in
theorem perform_failed (hReachable : w.Reachable) (hp : w.pools[number]? = some p)
    (hp' : (w.perform act).pools[number]? = some p') :
    p'.counters.failed = p.counters.failed + (decide (Fails number w act)).toNat := by
  have hSound := hReachable.sound hp
  by_cases hFails : Fails number w act
  · obtain ⟨q, index, id, gate, error, hq, hDials⟩ := hFails
    cases hp.symm.trans hq
    rw [hDials.failed_eq hSound hp hp', decide_eq_true ⟨p, index, id, gate, error, hp, hDials⟩]
    rfl
  · obtain ⟨q, hq, hChange⟩ := (perform_spec act w).pools number p hp
    cases hp'.symm.trans hq
    rw [decide_eq_false hFails]
    rcases dials_or_failed_eq hChange with ⟨index, id, gate, progress, hDials⟩ | hSame
    · rw [hDials.failed_eq hSound hp hp']
      cases progress with
      | failed error => exact absurd ⟨p, index, id, gate, error, hp, hDials⟩ hFails
      | _ => rfl
    · exact hSame

/-- Failures that the pool counted, none before it was opened. -/
def failed (number : Nat) (w : World δ γ) : Nat :=
  (w.pools[number]?.map fun p => p.counters.failed).getD 0

theorem performAll_failed (hReachable : w.Reachable) (number : Nat) (acts : List (Act δ)) :
    (w.performAll acts).failed number = w.failed number + failures number acts w := by
  classical
  induction acts generalizing w with
  | nil => rfl
  | cons act rest ih =>
      have hStep : (w.perform act).failed number =
          w.failed number + (decide (Fails number w act)).toNat := by
        cases hp : w.pools[number]? with
        | some p =>
            obtain ⟨p', hp', _⟩ := (perform_spec act w).pools number p hp
            simpa [failed, hp, hp'] using perform_failed hReachable hp hp'
        | none =>
            have hNot : ¬Fails number w act := by
              rintro ⟨p, _, _, _, _, hp', _⟩
              cases hp.symm.trans hp'
            cases hp' : (w.perform act).pools[number]? with
            | none => simp [failed, hp, hp', hNot]
            | some p' =>
                obtain ⟨linger, rfl, _⟩ := (perform_spec act w).opened number p' hp hp'
                simp [failed, hp, hp', hNot]
      show ((w.perform act).performAll rest).failed number = w.failed number +
        ((decide (Fails number w act)).toNat + failures number rest (w.perform act))
      rw [ih (hReachable.perform act), hStep, Nat.add_assoc]

theorem performAll_counted (hReachable : w.Reachable) (hp : w.pools[number]? = some p)
    (acts : List (Act δ)) :
    ∃ p', (w.performAll acts).pools[number]? = some p' ∧ Counted p p' := by
  induction acts generalizing w p with
  | nil => exact ⟨p, hp, .refl p⟩
  | cons act rest ih =>
      obtain ⟨q, hq, hChange⟩ := (perform_spec act w).pools number p hp
      obtain ⟨p', hp', hCounted⟩ := ih (hReachable.perform act) hq
      exact ⟨p', hp', (hChange.counted (hReachable.sound hp)).trans hCounted⟩

theorem Reachable.balanced (hReachable : w.Reachable) (hp : w.pools[number]? = some p) :
    p.Balanced := by
  have hNew (p : Pool γ) (h : IsNew p) : p.Sound p.requests ∧ p.Balanced :=
    ⟨sound_of_isNew h, balanced_of_isNew h⟩
  exact (hReachable.pool hNew
    (fun _ _ _ _ _ _ hChange h => ⟨h.1.changed hChange, h.2.changed h.1 hChange⟩) hp).2

/-- Closing an open pool drops what it has registered, and says how many handles these were. -/
theorem perform_close_of_open (hp : w.pools[number]? = some p) (hOpen : p.closed = false) :
    (∃ events, (w.perform (.close number)).env.events = .closed p.size :: events) ∧
      ∃ p', (w.perform (.close number)).pools[number]? = some p' ∧ p'.registry = [] := by
  obtain ⟨hReadings, ⟨events, hEvents⟩, hPool⟩ := Site.close_of_open (s := w.site number p) hOpen
  have hVisit : w.perform (.close number) = (w.visit number fun s => ((), s.close)).2 := rfl
  rw [hVisit, visit_of_unread hp _ hReadings]
  refine ⟨⟨events, hEvents⟩, _,
    List.getElem?_set_self (List.getElem?_eq_some_iff.mp hp).1, ?_⟩
  rw [hPool]

variable {env : Surroundings δ} {acts : List (Act δ)}

/-- After every run: in an open pool every handle that was created is registered, evicted or
reported; those created and those found again are as many as the requests that were granted one; and
as many failures are counted as sequences of dials of its requests have failed. No counter ever
falls. Closing drops what was neither evicted nor reported, and after it only failures are counted.
-/
theorem statistics_conserved (hRun : w = performAll acts { env }) (hp : w.pools[number]? = some p) :
    (p.closed = false → p.statistics.counters.created =
      p.statistics.live + p.statistics.counters.evicted + p.statistics.counters.invalidated) ∧
    p.statistics.counters.created + p.statistics.counters.reused = p.granted.length ∧
    p.statistics.counters.failed = failures number acts { env } ∧
    (∀ more p', (w.performAll more).pools[number]? = some p' →
      p.counters.Grown p'.counters ∧
        (p.closed = true → p'.counters = { p.counters with failed := p'.counters.failed })) ∧
    (p.closed = false →
      (∃ events, (w.perform (.close number)).env.events =
        .closed (p.counters.created - p.counters.evicted - p.counters.invalidated) :: events) ∧
      ∃ p', (w.perform (.close number)).pools[number]? = some p' ∧ p'.registry = []) := by
  have hReachable : w.Reachable := ⟨env, acts, hRun⟩
  have hBalanced := hReachable.balanced hp
  refine ⟨hBalanced.live, hBalanced.granted, ?_, ?_, ?_⟩
  · have hStart : ({ env } : World δ γ).Reachable := ⟨env, [], rfl⟩
    have hFailed := performAll_failed hStart number acts
    have hNone : ({ env } : World δ γ).failed number = 0 := rfl
    rw [← hRun, hNone, Nat.zero_add] at hFailed
    rw [← hFailed, failed, hp]
    rfl
  · intro more p' hp'
    obtain ⟨q, hq, hCounted⟩ := performAll_counted hReachable hp more
    cases hq.symm.trans hp'
    exact ⟨hCounted.grown, fun hClosed => (hCounted.frozen hClosed).2⟩
  · intro hOpen
    have hDropped : p.counters.created - p.counters.evicted - p.counters.invalidated = p.size := by
      have hLive := hBalanced.live hOpen
      omega
    rw [hDropped]
    exact perform_close_of_open hp hOpen

/-- Of three handles one is reported and one evicted, and a fourth endpoint cannot be dialed. -/
def tally : List (Act (FixedDialer Nat)) :=
  [.openPool 10, .get 0 "a", .get 0 "a", .report 0 ⟨0, 0⟩ "reset", .get 0 "a", .release 0 ⟨0, 1⟩,
    .pass 100, .evictIdle 0, .get 0 "b", .order (FixedDialer.failAlways "c"), .get 0 "c"]

def tallyEnv : Surroundings (FixedDialer Nat) :=
  { factory := { dialer := { connection := 7 }, policy := { initialRetries := 0 } } }

def tallied : World (FixedDialer Nat) Nat := performAll tally { env := tallyEnv }

theorem tallied_conserved : failures 0 tally ({ env := tallyEnv } : World _ Nat) = 1 ∧ ∃ p events,
    tallied.pools[0]? = some p ∧ p.granted = [0, 0, 1, 2] ∧
      p.counters.created + p.counters.reused = p.granted.length ∧
      (tallied.perform (.close 0)).env.events = .closed 1 :: events := by
  have hRun : tallied = performAll tally { env := tallyEnv } := rfl
  have hSeen : tallied.pools[0]?.map (fun p => (p.closed, p.counters, p.granted)) = some (false,
      { created := 3, reused := 1, failed := 1, evicted := 1, invalidated := 1 },
      [0, 0, 1, 2]) := by decide +kernel
  obtain ⟨p, hp, hView⟩ := Option.map_eq_some_iff.mp hSeen
  simp only [Prod.mk.injEq] at hView
  obtain ⟨hOpen, hCounters, hGranted⟩ := hView
  obtain ⟨_, hSum, hFailed, _, hClose⟩ := statistics_conserved hRun hp
  obtain ⟨⟨events, hEvents⟩, _⟩ := hClose hOpen
  have hOne : p.statistics.counters.failed = 1 := by rw [Pool.statistics, hCounters]
  rw [hCounters] at hEvents
  exact ⟨hFailed.symm.trans hOne, p, events, hp, hGranted, hSum, hEvents⟩

end World

end Tether
