import Mathlib.Algebra.Ring.Nat
import Tether.Proofs.Pace
import Tether.World

/-! What a sequence of dials comes to, and when. As long as nobody gets in between its dials, all of
that is settled when it starts, but for the moment at which it is told to stop. -/

namespace Tether

variable {δ γ : Type}

theorem Duration.slept_pos {span : Duration} (h : 0 < span) : 0 < span.slept :=
  Nat.lt_min.mpr ⟨h, by decide⟩

/-- The relation holds between dialers only if they are the same to one endpoint, and dials of that
endpoint do not undo it. -/
structure Dialer.Regards [Dialer δ γ] (id : String) (same : δ → δ → Prop) : Prop where
  refl : ∀ d, same d d
  trans : ∀ {d d' d''}, same d d' → same d' d'' → same d d''
  ticket : ∀ {d d'}, same d d' → (Dialer.launch id d').ticket = (Dialer.launch id d).ticket
  delay : ∀ {d d'}, same d d' → (Dialer.launch id d').delay = (Dialer.launch id d).delay
  launch : ∀ {d d'}, same d d' →
    same (Dialer.launch id d).dialer (Dialer.launch id d').dialer
  answer : ∀ {d d'} (ticket : Nat), same d d' →
    (Dialer.land id ticket d').1 = (Dialer.land id ticket d).1
  land : ∀ {d d'} (ticket : Nat), same d d' →
    same (Dialer.land id ticket d).2 (Dialer.land id ticket d').2

/-- All that a sequence of dials goes by when it starts. -/
structure Timetable (δ : Type) where
  endpointId : String
  tier : Tier
  policy : RetryPolicy
  start : Instant
  dialer : δ

namespace Timetable

def grace (t : Timetable δ) : Duration := t.policy.grace t.tier

/-- Dials allowed. -/
def most (t : Timetable δ) : Nat := t.policy.maxAttempts t.tier

section Dials

variable [Dialer δ γ]

/-- The dialer once so many of the dials have landed. -/
def after (t : Timetable δ) : Nat → δ
  | 0 => t.dialer
  | n + 1 =>
    let launch := Dialer.launch t.endpointId (after t n)
    (Dialer.land t.endpointId launch.ticket launch.dialer).2

/-- A dial as it is launched. The first one has the number zero. -/
def launch (t : Timetable δ) (n : Nat) : Launch δ := Dialer.launch t.endpointId (t.after n)

def answer (t : Timetable δ) (n : Nat) : Except DialError γ :=
  (Dialer.land t.endpointId (t.launch n).ticket (t.launch n).dialer).1

/-- The moment at which a dial lands, if all dials before it fail and no wait is cut short. -/
def lands (t : Timetable δ) : Nat → Instant
  | 0 => t.start + (t.launch 0).delay
  | n + 1 => lands t n + t.grace.slept + (t.launch (n + 1)).delay

def Fails (t : Timetable δ) (n : Nat) : Prop := ∃ error, t.answer n = .error error

/-- The sequence gets as far as this dial: it is allowed, all dials before it fail, and the waits
after them are over before the sequence is told to stop, if it is. -/
structure Reaches (t : Timetable δ) (cut : Option Instant) (n : Nat) : Prop where
  allowed : n < t.most
  fails : ∀ i < n, t.Fails i
  waits : ∀ i < n, ∀ moment, cut = some moment → t.lands i + t.grace.slept ≤ moment

/-- The sequence gets as far as this dial, which fails, and another one is allowed after it. -/
structure Retries (t : Timetable δ) (cut : Option Instant) (n : Nat) : Prop where
  reaches : t.Reaches cut n
  fails : t.Fails n
  more : n + 1 < t.most

/-- What the sequence comes to, after how many dials, and when. -/
inductive Outcome (t : Timetable δ) (cut : Option Instant) :
    CreationState γ → Nat → Instant → Prop where
  | connected {n : Nat} {connection : γ} (reaches : t.Reaches cut n)
      (answers : t.answer n = .ok connection) :
      Outcome t cut (.connected connection) (n + 1) (t.lands n)
  | exhausted {n : Nat} {error : DialError} (reaches : t.Reaches cut n)
      (answers : t.answer n = .error error) (last : n + 1 = t.most) :
      Outcome t cut (.failed (.exhausted t.endpointId (n + 1) error)) (n + 1) (t.lands n)
  | cancelled {n : Nat} {moment : Instant} (retries : t.Retries cut n) (told : cut = some moment)
      (early : moment < t.lands n + t.grace.slept) :
      Outcome t cut (.failed (.cancelled t.endpointId (n + 1))) (n + 1) (max moment (t.lands n))

variable {t : Timetable δ} {cut : Option Instant} {n k : Nat} {state : CreationState γ}
  {moment : Instant}

theorem reaches_zero (t : Timetable δ) (cut : Option Instant) : t.Reaches cut 0 :=
  ⟨t.policy.maxAttempts_pos t.tier, nofun, nofun⟩

theorem Retries.fails_le (h : t.Retries cut n) {i : Nat} (hi : i ≤ n) : t.Fails i := by
  rcases Nat.lt_or_eq_of_le hi with hi | rfl
  · exact h.reaches.fails i hi
  · exact h.fails

theorem Retries.next (h : t.Retries cut n)
    (hWaits : ∀ moment, cut = some moment → t.lands n + t.grace.slept ≤ moment) :
    t.Reaches cut (n + 1) := by
  refine ⟨h.more, fun i hi => ?_, fun i hi => ?_⟩
  · exact h.fails_le (Nat.le_of_lt_succ hi)
  · rcases Nat.lt_succ_iff_lt_or_eq.mp hi with hi | rfl
    · exact h.reaches.waits i hi
    · exact hWaits

theorem lands_mono (t : Timetable δ) {i j : Nat} (h : i ≤ j) : t.lands i ≤ t.lands j := by
  induction h with
  | refl => exact Nat.le_refl _
  | step _ ih =>
      refine Nat.le_trans ih ?_
      rw [lands, Nat.add_assoc]
      exact Nat.le_add_right _ _

/-- The dials take the time that they take, and there is one grace between any two. -/
theorem lands_eq (t : Timetable δ) (n : Nat) :
    t.lands n = t.start + ((List.range (n + 1)).map fun i => (t.launch i).delay).sum +
      n * t.grace.slept := by
  induction n with
  | zero => simp [lands, List.range_succ]
  | succ n ih =>
      rw [lands, List.range_succ, List.map_append, List.sum_append, List.map_singleton,
        List.sum_singleton, Nat.succ_mul, ih]
      ac_rfl

/-- The sequence does not go beyond the dial with which it is over. -/
theorem Outcome.lt (h : t.Outcome cut state k moment) (hReaches : t.Reaches cut n) : n < k := by
  refine Nat.lt_of_not_le fun hBeyond => ?_
  cases h with
  | connected reaches answers =>
      obtain ⟨error, hError⟩ := hReaches.fails _ hBeyond
      cases answers.symm.trans hError
  | exhausted reaches answers last =>
      have hAllowed := hReaches.allowed
      omega
  | cancelled retries told early =>
      exact absurd (hReaches.waits _ hBeyond _ told) (Nat.not_le_of_lt early)

theorem Outcome.reaches (h : t.Outcome cut state k moment) :
    ∃ n, k = n + 1 ∧ t.Reaches cut n ∧ t.lands n ≤ moment := by
  cases h with
  | connected reaches answers => exact ⟨_, rfl, reaches, Nat.le_refl _⟩
  | exhausted reaches answers last => exact ⟨_, rfl, reaches, Nat.le_refl _⟩
  | cancelled retries told early => exact ⟨_, rfl, retries.reaches, Nat.le_max_right _ _⟩

theorem Reaches.cut_late (h : t.Reaches none n)
    (hLate : ∀ n, t.Retries none n → ∀ moment, cut = some moment →
      t.lands n + t.grace.slept ≤ moment) : t.Reaches cut n := by
  refine ⟨h.allowed, h.fails, fun i hi => hLate i ⟨⟨?_, ?_, nofun⟩, h.fails i hi, ?_⟩⟩
  · exact Nat.lt_trans hi h.allowed
  · exact fun j hj => h.fails j (Nat.lt_trans hj hi)
  · exact Nat.lt_of_le_of_lt hi h.allowed

/-- Told only after its waits, the sequence comes to what it would have come to untold. -/
theorem Outcome.cut_late (h : t.Outcome none state k moment)
    (hLate : ∀ n, t.Retries none n → ∀ moment, cut = some moment →
      t.lands n + t.grace.slept ≤ moment) : t.Outcome cut state k moment := by
  cases h with
  | connected reaches answers => exact .connected (reaches.cut_late hLate) answers
  | exhausted reaches answers last => exact .exhausted (reaches.cut_late hLate) answers last
  | cancelled _ told => nomatch told

/-- A sequence comes to one thing only. -/
theorem Outcome.unique {k' : Nat} {state' : CreationState γ} {moment' : Instant}
    (h : t.Outcome cut state k moment) (h' : t.Outcome cut state' k' moment') :
    state' = state ∧ k' = k ∧ moment' = moment := by
  obtain ⟨n, rfl, hReaches, _⟩ := h.reaches
  obtain ⟨n', rfl, hReaches', _⟩ := h'.reaches
  have hSame : n' = n := by
    have hLt := h.lt hReaches'
    have hLt' := h'.lt hReaches
    omega
  subst hSame
  cases h with
  | connected reaches answers =>
      cases h' with
      | connected _ answers' =>
          cases answers.symm.trans answers'
          exact ⟨rfl, rfl, rfl⟩
      | exhausted _ answers' => cases answers.symm.trans answers'
      | cancelled retries =>
          obtain ⟨error, answers'⟩ := retries.fails
          cases answers.symm.trans answers'
  | exhausted reaches answers last =>
      cases h' with
      | connected _ answers' => cases answers.symm.trans answers'
      | exhausted _ answers' =>
          cases answers.symm.trans answers'
          exact ⟨rfl, rfl, rfl⟩
      | cancelled retries =>
          have hMore := retries.more
          omega
  | cancelled retries told early =>
      cases h' with
      | connected _ answers' =>
          obtain ⟨error, answers⟩ := retries.fails
          cases answers.symm.trans answers'
      | exhausted _ _ last =>
          have hMore := retries.more
          omega
      | cancelled _ told' =>
          cases told.symm.trans told'
          exact ⟨rfl, rfl, rfl⟩

/-- Every sequence comes to something. -/
theorem Reaches.exists_outcome {n : Nat} (h : t.Reaches cut n) :
    ∃ state k moment, t.Outcome cut state k moment := by
  cases hAnswer : t.answer n with
  | ok connection => exact ⟨_, _, _, .connected h hAnswer⟩
  | error error =>
      have hFails : t.Fails n := ⟨error, hAnswer⟩
      have hAllowed := h.allowed
      by_cases hLast : n + 1 = t.most
      · exact ⟨_, _, _, .exhausted h hAnswer hLast⟩
      · have hRetries : t.Retries cut n := ⟨h, hFails, by omega⟩
        by_cases hCut : ∃ moment, cut = some moment ∧ moment < t.lands n + t.grace.slept
        · obtain ⟨moment, hTold, hEarly⟩ := hCut
          exact ⟨_, _, _, .cancelled hRetries hTold hEarly⟩
        · have hWaits (moment : Instant) (hTold : cut = some moment) :
              t.lands n + t.grace.slept ≤ moment :=
            Nat.le_of_not_lt fun hEarly => hCut ⟨moment, hTold, hEarly⟩
          exact (hRetries.next hWaits).exists_outcome
termination_by t.most - n

end Dials

/-- The sequence is told to stop at this moment, or never; whether it has been told by now agrees
with that. -/
structure Heard (cut : Option Instant) (told : Bool) (now : Instant) : Prop where
  stop : told = true → ∃ moment, cut = some moment ∧ moment ≤ now
  goOn : told = false → ∀ moment, cut = some moment → now ≤ moment

/-- Where the sequence is told to stop, its waits are not empty, and it is not told just as one of them
ends. -/
structure Clear [Dialer δ γ] (t : Timetable δ) (cut : Option Instant) : Prop where
  grace : ∀ moment, cut = some moment → 0 < t.grace
  apart : ∀ n moment, t.Retries cut n → cut = some moment → moment ≠ t.lands n + t.grace.slept

section Stages

variable [Dialer δ γ]

/-- How far the sequence has got at a moment, with the dialer as it is then. -/
inductive Stage (t : Timetable δ) (same : δ → δ → Prop) (cut : Option Instant) (now : Instant)
    (d : δ) : CreationState γ → Prop where
  | flying {n : Nat} (reaches : t.Reaches cut n) (dialed : same (t.launch n).dialer d)
      (ahead : now ≤ t.lands n) :
      Stage t same cut now d (.running
        { endpointId := t.endpointId, tier := t.tier, attempt := n + 1,
          remaining := t.most - (n + 1),
          phase := .flying (t.launch n).ticket (t.lands n) })
  | resting {n : Nat} (retries : t.Retries cut n)
      (dialed : same (t.after (n + 1)) d) (landed : t.lands n ≤ now)
      (ahead : now ≤ t.lands n + t.grace.slept)
      (untold : ∀ moment, cut = some moment → now ≤ max moment (t.lands n)) :
      Stage t same cut now d (.running
        { endpointId := t.endpointId, tier := t.tier, attempt := n + 1,
          remaining := t.most - (n + 1),
          phase := .resting (t.lands n + t.grace.slept) })
  | ended {state : CreationState γ} {k : Nat} {moment : Instant}
      (outcome : t.Outcome cut state k moment) (late : moment ≤ now)
      (dialed : same (t.after k) d) : Stage t same cut now d state

variable {t : Timetable δ} {same : δ → δ → Prop} {cut : Option Instant} {now : Instant} {d d' : δ}
  {state state' : CreationState γ} {n k : Nat} {moment : Instant} {env : Surroundings δ}
  {told : Bool} {s : DialSequence}

/-- What others do to the dialer does not matter. -/
theorem Stage.elsewhere (h : t.Stage same cut now d state)
    (hRegards : Dialer.Regards t.endpointId same) (hSame : same d d') :
    t.Stage same cut now d' state := by
  cases h with
  | flying reaches dialed ahead => exact .flying reaches (hRegards.trans dialed hSame) ahead
  | resting retries dialed landed ahead untold =>
      exact .resting retries (hRegards.trans dialed hSame) landed ahead untold
  | ended outcome late dialed => exact .ended outcome late (hRegards.trans dialed hSame)

/-- The numbers of a sequence under way stay within those of its tier. -/
theorem Stage.allowance (h : t.Stage same cut now d (.running s)) :
    1 ≤ s.attempt ∧ s.attempt + s.remaining = t.most := by
  cases h with
  | flying reaches dialed ahead =>
      exact ⟨Nat.le_add_left .., Nat.add_sub_cancel' reaches.allowed⟩
  | resting retries dialed landed ahead untold =>
      exact ⟨Nat.le_add_left .., Nat.add_sub_cancel' retries.reaches.allowed⟩
  | ended outcome late dialed => nomatch outcome

/-- The sequence is under way until the moment at which it is over. -/
theorem Stage.running_le (h : t.Stage same cut now d (.running s))
    (hOutcome : t.Outcome cut state k moment) : now ≤ moment := by
  obtain ⟨last, rfl, hReaches, hLast⟩ := hOutcome.reaches
  cases h with
  | flying reaches dialed ahead =>
      have hLe := t.lands_mono (Nat.le_of_lt_succ (hOutcome.lt reaches))
      exact Nat.le_trans ahead (Nat.le_trans hLe hLast)
  | @resting n retries dialed landed ahead untold =>
      rcases Nat.lt_succ_iff_lt_or_eq.mp (hOutcome.lt retries.reaches) with hLt | rfl
      · have hNext : t.lands n + t.grace.slept ≤ t.lands (n + 1) := Nat.le_add_right _ _
        have hLe := t.lands_mono hLt
        exact Nat.le_trans ahead (Nat.le_trans hNext (Nat.le_trans hLe hLast))
      · obtain ⟨error, hError⟩ := retries.fails
        have hMore := retries.more
        cases hOutcome with
        | connected _ answers => cases answers.symm.trans hError
        | exhausted _ _ last => omega
        | cancelled _ told => exact untold _ told
  | ended outcome late dialed => nomatch outcome

/-- Time passes, but not beyond the moment that the sequence waits for, and a wait between two dials
is not over yet. -/
theorem Stage.later {later : Instant} (h : t.Stage same cut now d state) (hLater : now ≤ later)
    (hDue : ∀ s, state = .running s → later ≤ s.due)
    (hUntold : ∀ s ends, state = .running s → s.phase = .resting ends →
      ∀ moment, cut = some moment → later ≤ moment) : t.Stage same cut later d state := by
  cases h with
  | flying reaches dialed ahead => exact .flying reaches dialed (hDue _ rfl)
  | resting retries dialed landed ahead untold =>
      exact .resting retries dialed (Nat.le_trans landed hLater) (hDue _ rfl) fun moment hCut =>
        Nat.le_trans (hUntold _ _ rfl rfl moment hCut) (Nat.le_max_left _ _)
  | ended outcome late dialed => exact .ended outcome (Nat.le_trans late hLater) dialed

/-- Once the sequence is over, it has come to what was settled for it. -/
theorem Stage.of_over (h : t.Stage same cut now d state') (hOver : state'.isLive = false)
    (hOutcome : t.Outcome cut state k moment) :
    state' = state ∧ moment ≤ now ∧ same (t.after k) d := by
  cases h with
  | flying | resting => cases hOver
  | ended outcome late dialed =>
      obtain ⟨rfl, rfl, rfl⟩ := hOutcome.unique outcome
      exact ⟨rfl, late, dialed⟩

/-! ### Turns -/

/-- The turn leaves the sequence in step with its timetable. -/
def Keeps (t : Timetable δ) (same : δ → δ → Prop) (cut : Option Instant)
    (turn : DialProgress γ × Surroundings δ) : Prop :=
  t.Stage same cut turn.2.now turn.2.factory.dialer (World.ofProgress turn.1)

/-- The turn meets the factory's policy, and the sequence has been told to stop or not by then as
the timetable has it. -/
structure Meets (t : Timetable δ) (cut : Option Instant) (told : Bool) (env : Surroundings δ) :
    Prop where
  policy : env.factory.policy = t.policy
  heard : Heard cut told env.now

variable (hRegards : Dialer.Regards t.endpointId same)

include hRegards in
/-- A launch keeps to the timetable if the landing does that may follow at once. -/
theorem launch_keeps_of {remaining : Nat} (hReaches : t.Reaches cut n)
    (hNow : env.now + (t.launch n).delay = t.lands n) (hDialer : same (t.after n) env.factory.dialer)
    (hRemaining : remaining = t.most - (n + 1))
    (hLand : ∀ dialer, env.now = t.lands n → same (t.launch n).dialer dialer →
      t.Keeps same cut (DialSequence.land t.endpointId t.tier told remaining (n + 1)
        (t.launch n).ticket (env.setDialer dialer))) :
    t.Keeps same cut
      (DialSequence.launch t.endpointId t.tier told remaining (n + 1) env) := by
  have hTicket := hRegards.ticket hDialer
  have hDelay := hRegards.delay hDialer
  have hDialed := hRegards.launch hDialer
  unfold DialSequence.launch
  dsimp only
  rw [hTicket, hDelay]
  split
  · next hAtOnce =>
    exact hLand _ (by rw [← hNow]; exact hAtOnce ▸ (Nat.add_zero _).symm) hDialed
  · subst hRemaining
    have hFlies : t.Stage same cut env.now _ _ :=
      .flying hReaches hDialed (hNow ▸ Nat.le_add_right _ _)
    rw [← hNow] at hFlies
    exact hFlies

include hRegards in
/-- A dial lands as the timetable has it. -/
theorem exists_landing (hDialed : same (t.launch n).dialer d) :
    ∃ d', Dialer.land t.endpointId (t.launch n).ticket d = (t.answer n, d') ∧
      same (t.after (n + 1)) d' :=
  ⟨(Dialer.land t.endpointId (t.launch n).ticket d).2, Prod.ext (hRegards.answer _ hDialed) rfl,
    hRegards.land _ hDialed⟩

/-- Told to stop when a dial has just failed, the sequence does not wait for the next one. -/
theorem Retries.stage_told (h : t.Retries cut n) (hClear : t.Clear cut) (hHeard : Heard cut true now)
    (hNow : now = t.lands n) (hAfter : same (t.after (n + 1)) d) :
    t.Stage same cut now d (.failed (.cancelled t.endpointId (n + 1))) := by
  obtain ⟨moment, hCut, hPast⟩ := hHeard.stop rfl
  have hPositive : 0 < t.grace := hClear.grace moment hCut
  have hEarly : moment < t.lands n + t.grace.slept :=
    Nat.lt_of_le_of_lt (hNow ▸ hPast) (Nat.lt_add_of_pos_right (Duration.slept_pos hPositive))
  exact .ended (.cancelled h hCut hEarly) (Nat.max_le.mpr ⟨hPast, Nat.le_of_eq hNow.symm⟩) hAfter

theorem Retries.stage_resting (h : t.Retries cut n) (hNow : now = t.lands n)
    (hAfter : same (t.after (n + 1)) d) :
    t.Stage same cut now d (.running
      { endpointId := t.endpointId, tier := t.tier, attempt := n + 1,
        remaining := t.most - (n + 1), phase := .resting (now + t.grace.slept) }) := by
  subst hNow
  exact .resting h hAfter (Nat.le_refl _) (Nat.le_add_right _ _) fun _ _ => Nat.le_max_right _ _

include hRegards in
theorem land_keeps {remaining : Nat} (hClear : t.Clear cut)
    (hMeets : t.Meets cut told env) (hReaches : t.Reaches cut n)
    (hNow : env.now = t.lands n) (hDialed : same (t.launch n).dialer env.factory.dialer)
    (hRemaining : remaining = t.most - (n + 1)) :
    t.Keeps same cut (DialSequence.land t.endpointId t.tier told remaining (n + 1)
      (t.launch n).ticket env) := by
  have hAllowed := hReaches.allowed
  induction remaining generalizing n env with
  | zero =>
      obtain ⟨dialer, hLand, hAfter⟩ := exists_landing hRegards hDialed
      unfold DialSequence.land
      rw [hLand]
      cases hAnswer : t.answer n with
      | ok connection =>
          exact .ended (.connected hReaches hAnswer) (Nat.le_of_eq hNow.symm) hAfter
      | error error =>
          exact .ended (.exhausted hReaches hAnswer (by omega)) (Nat.le_of_eq hNow.symm) hAfter
  | succ left ih =>
      obtain ⟨dialer, hLand, hAfter⟩ := exists_landing hRegards hDialed
      unfold DialSequence.land
      rw [hLand]
      cases hAnswer : t.answer n with
      | ok connection =>
          exact .ended (.connected hReaches hAnswer) (Nat.le_of_eq hNow.symm) hAfter
      | error error =>
          have hRetries : t.Retries cut n := ⟨hReaches, ⟨error, hAnswer⟩, by omega⟩
          have hPause : (env.setDialer dialer).factory.policy.grace t.tier = t.grace :=
            congrArg (·.grace t.tier) hMeets.policy
          dsimp only
          rw [hPause, hRemaining]
          split
          · next hTold => exact hRetries.stage_told hClear (hTold ▸ hMeets.heard) hNow hAfter
          · next hUntold =>
            have hGoOn := hMeets.heard.goOn (Bool.eq_false_iff.mpr hUntold)
            split
            · next hNone =>
              have hStill : t.lands n + t.grace.slept = env.now := by
                rw [hNone, hNow]
                rfl
              have hNext := hRetries.next fun moment hCut => hStill ▸ hGoOn moment hCut
              let env' := (env.setDialer dialer).note
                (.retrying t.endpointId (n + 1) (t.most - (n + 1)) t.grace error)
              have hNext' : env'.now + (t.launch (n + 1)).delay = t.lands (n + 1) :=
                congrArg (· + (t.launch (n + 1)).delay) hStill.symm
              exact launch_keeps_of hRegards hNext hNext' hAfter (by omega)
                fun dialer hNow hDialed => ih ⟨hMeets.policy, hMeets.heard⟩ hNext hNow hDialed
                  (by omega) hNext.allowed
            · exact hRetries.stage_resting hNow hAfter

include hRegards in
theorem launch_keeps {remaining : Nat} (hClear : t.Clear cut)
    (hMeets : t.Meets cut told env) (hReaches : t.Reaches cut n)
    (hNow : env.now + (t.launch n).delay = t.lands n)
    (hDialer : same (t.after n) env.factory.dialer) (hRemaining : remaining = t.most - (n + 1)) :
    t.Keeps same cut
      (DialSequence.launch t.endpointId t.tier told remaining (n + 1) env) :=
  launch_keeps_of hRegards hReaches hNow hDialer hRemaining fun _ hNow hDialed =>
    land_keeps hRegards hClear ⟨hMeets.policy, hMeets.heard⟩ hReaches hNow hDialed hRemaining

/-- What a sequence of dials to this endpoint goes by that starts in these surroundings. -/
def ofStart (id : String) (env : Surroundings δ) : Timetable δ :=
  { endpointId := id, tier := Factory.tierOf (env.factory.firstContact id).1,
    policy := env.factory.policy, start := env.now, dialer := env.factory.dialer }

theorem start_keeps {id : String} (hRegards : Dialer.Regards id same)
    (hClear : (ofStart id env).Clear cut)
    (hHeard : Heard cut (told || env.factory.shutdown) env.now) :
    (ofStart id env).Keeps same cut (DialSequence.start id told env) := by
  have hFactory : (env.factory.firstContact id).2.policy = env.factory.policy ∧
      (env.factory.firstContact id).2.dialer = env.factory.dialer := by
    unfold Factory.firstContact
    split <;> exact ⟨rfl, rfl⟩
  let t : Timetable δ := ofStart id env
  let env' := (env.firstContact id).2.note (.dialing id t.tier
    ((env.factory.firstContact id).2.policy.maxAttempts t.tier))
  have hDialer : same (t.after 0) env'.factory.dialer := hFactory.2 ▸ hRegards.refl _
  have hMeets : t.Meets cut (told || env.factory.shutdown) env' := ⟨hFactory.1, hHeard⟩
  exact launch_keeps hRegards hClear hMeets (reaches_zero t cut) rfl hDialer
    (congrArg (·.maxAttempts t.tier - 1) hFactory.1)

include hRegards in
/-- Every turn keeps to the timetable. -/
theorem resume_keeps (hClear : t.Clear cut) (hPolicy : env.factory.policy = t.policy)
    (hHeard : Heard cut (told || env.factory.shutdown) env.now)
    (h : t.Stage same cut env.now env.factory.dialer (.running s)) :
    t.Keeps same cut (s.resume told env) := by
  have hMeets : t.Meets cut (told || env.factory.shutdown) env := ⟨hPolicy, hHeard⟩
  unfold DialSequence.resume
  cases h with
  | @flying n reaches dialed ahead =>
      dsimp only
      split
      · next hLanded =>
        exact land_keeps hRegards hClear hMeets reaches (Nat.le_antisymm ahead hLanded) dialed rfl
      · exact .flying reaches dialed ahead
  | @resting n retries dialed landed ahead untold =>
      dsimp only
      split
      · next hTold =>
        obtain ⟨moment, hCut, hPast⟩ := hHeard.stop hTold
        have hEarly : moment < t.lands n + t.grace.slept :=
          Nat.lt_of_le_of_ne (Nat.le_trans hPast ahead) (hClear.apart n moment retries hCut)
        exact .ended (.cancelled retries hCut hEarly) (Nat.max_le.mpr ⟨hPast, landed⟩) dialed
      · next hUntold =>
        split
        · next hEnded =>
          have hNow : env.now = t.lands n + t.grace.slept := Nat.le_antisymm ahead hEnded
          have hNext := retries.next fun moment hCut =>
            hNow ▸ hHeard.goOn (Bool.eq_false_iff.mpr hUntold) moment hCut
          exact launch_keeps hRegards hClear hMeets hNext
            (congrArg (· + (t.launch (n + 1)).delay) hNow) dialed (Nat.sub_sub ..)
        · exact .resting retries dialed landed ahead untold
  | ended outcome => nomatch outcome

end Stages

end Timetable

end Tether
