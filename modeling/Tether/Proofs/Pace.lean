import Tether.Proofs.Record

/-! How a sequence of dials keeps to its tier. As soon as it has started, the number of dials that
it may make and the grace between two of them are settled, and whatever it notes agrees with them.
-/

namespace Tether

/-- The event is one of a sequence of dials to this endpoint that has started: it goes by the grace
of this tier, and so many dials are allowed in all. -/
def Event.Paced (policy : RetryPolicy) (id : String) (tier : Tier) (most : Nat) : Event → Prop
  | connected other attempt tier' => other = id ∧ attempt ≤ most ∧ tier' = tier
  | retrying other attempt remaining grace _ =>
    other = id ∧ attempt + remaining = most ∧ grace = policy.grace tier
  | gaveUp other attempts _ => other = id ∧ attempts = most
  | cancelled other attempts => other = id ∧ attempts < most
  | _ => False

theorem RetryPolicy.maxAttempts_pos (policy : RetryPolicy) (tier : Tier) :
    0 < policy.maxAttempts tier :=
  Nat.lt_min.mpr ⟨Nat.succ_pos _, by decide⟩

namespace DialSequence

open Surroundings

/-- The sequence has just been suspended at this moment. If it is between two dials, one more is
allowed, and it waits for the whole grace of its tier. -/
structure Keeps (policy : RetryPolicy) (now : Instant) (id : String) (tier : Tier) (most : Nat)
    (s : DialSequence) : Prop where
  endpoint : s.endpointId = id
  pace : s.tier = tier
  allowance : s.attempt + s.remaining = most
  rests : ∀ ends, s.phase = .resting ends →
    0 < s.remaining ∧ ends = now + (policy.grace tier).slept

/-- What is settled about a suspended sequence, whenever that was: the dials that it has made and
those that it may still make are those of its tier. -/
structure Settled (policy : RetryPolicy) (s : DialSequence) : Prop where
  allowance : s.attempt + s.remaining = policy.maxAttempts s.tier
  rests : ∀ ends, s.phase = .resting ends → 0 < s.remaining

theorem Keeps.settled {policy : RetryPolicy} {now : Instant} {id : String} {tier : Tier}
    {s : DialSequence} (h : s.Keeps policy now id tier (policy.maxAttempts tier)) :
    s.Settled policy :=
  ⟨h.pace ▸ h.allowance, fun ends hPhase => (h.rests ends hPhase).1⟩

variable {δ γ : Type}

/-- A turn of a sequence of dials that has started. Of the factory it touches only the dialer. -/
structure Goes (id : String) (tier : Tier) (most : Nat) (env : Surroundings δ)
    (turn : DialProgress γ × Surroundings δ) : Prop where
  noted : Noted (Event.Paced env.factory.policy id tier most) env turn.2
  factory : ∃ dialer, turn.2.factory = { env.factory with dialer }
  waits : ∀ s, turn.1 = .waiting s → s.Keeps env.factory.policy env.now id tier most

variable {id : String} {tier : Tier} {most : Nat} {env env' : Surroundings δ}
  {turn : DialProgress γ × Surroundings δ}

/-- A turn can begin with something noted about the sequence or done to the dialer. -/
theorem Goes.after (h : Goes id tier most env' turn) (dialer : δ)
    (hNoted : Noted (Event.Paced env.factory.policy id tier most) env env')
    (hFactory : env'.factory = { env.factory with dialer }) : Goes id tier most env turn := by
  obtain ⟨hLater, ⟨later, hDialer⟩, hWaits⟩ := h
  have hPolicy : env'.factory.policy = env.factory.policy := by rw [hFactory]
  rw [hPolicy] at hLater hWaits
  rw [hNoted.now] at hWaits
  exact ⟨hNoted.trans hLater, ⟨later, by rw [hDialer, hFactory]⟩, hWaits⟩

/-- A turn can end with something noted about the sequence. -/
theorem goes_ended {event : Event} {progress : DialProgress γ} (dialer : δ)
    (hPaced : event.Paced env.factory.policy id tier most)
    (hEnded : ∀ s, progress ≠ .waiting s) :
    Goes id tier most env (progress, (env.setDialer dialer).note event) :=
  ⟨(noted_setDialer dialer env).trans (noted_note hPaced _), ⟨dialer, rfl⟩,
    fun s hWaits => absurd hWaits (hEnded s)⟩

/-- A turn can end with a dial in the air. -/
theorem goes_flying (dialer : δ) {attempt remaining ticket : Nat} {lands : Instant}
    (hMost : attempt + remaining = most) :
    Goes (γ := γ) id tier most env
      (.waiting { endpointId := id, tier, attempt, remaining, phase := .flying ticket lands },
        env.setDialer dialer) := by
  refine ⟨noted_setDialer dialer env, ⟨dialer, rfl⟩, ?_⟩
  rintro s ⟨⟩
  exact ⟨rfl, rfl, hMost, nofun⟩

variable [Dialer δ γ]

theorem land_goes (cancelled : Bool) {remaining attempt : Nat} (ticket : Nat)
    (env : Surroundings δ) (hMost : attempt + remaining = most) :
    Goes (γ := γ) id tier most env (land id tier cancelled remaining attempt ticket env) := by
  induction remaining generalizing attempt ticket env with
  | zero =>
      unfold land
      split
      · exact goes_ended _ ⟨rfl, by omega, rfl⟩ nofun
      · exact goes_ended _ ⟨rfl, hMost⟩ nofun
  | succ left ih =>
      unfold land
      split
      · exact goes_ended _ ⟨rfl, by omega, rfl⟩ nofun
      · next error dialer _ =>
        let retrying : Event :=
          .retrying id attempt (left + 1) (env.factory.policy.grace tier) error
        have hRetry : Noted (Event.Paced env.factory.policy id tier most) env
            ((env.setDialer dialer).note retrying) :=
          (noted_setDialer dialer env).trans (noted_note ⟨rfl, hMost, rfl⟩ _)
        dsimp only
        split
        · refine ⟨hRetry.trans (noted_note ⟨rfl, by omega⟩ _), ⟨dialer, rfl⟩, nofun⟩
        · split
          · split
            · exact ((ih _ _ (by omega)).after _ (noted_setDialer _ _) rfl).after _ hRetry rfl
            · exact (goes_flying _ (by omega)).after _ hRetry rfl
          · refine ⟨hRetry, ⟨dialer, rfl⟩, ?_⟩
            rintro s ⟨⟩
            refine ⟨rfl, rfl, hMost, ?_⟩
            rintro ends ⟨⟩
            exact ⟨Nat.succ_pos left, rfl⟩

theorem launch_goes (cancelled : Bool) {remaining attempt : Nat} (env : Surroundings δ)
    (hMost : attempt + remaining = most) :
    Goes (γ := γ) id tier most env (launch id tier cancelled remaining attempt env) := by
  unfold launch
  dsimp only
  split
  · exact (land_goes cancelled _ _ hMost).after _ (noted_setDialer _ env) rfl
  · exact goes_flying _ hMost

/-- The first turn of a sequence of dials to the endpoint, of this tier: it asks the factory for
first contact and notes its start before anything else. -/
structure Begins (id : String) (tier : Tier) (env : Surroundings δ)
    (turn : DialProgress γ × Surroundings δ) : Prop where
  noted : ∃ fresh, turn.2.events =
      fresh ++ .dialing id tier (env.factory.policy.maxAttempts tier) :: env.events ∧
    ∀ e ∈ fresh, e.Paced env.factory.policy id tier (env.factory.policy.maxAttempts tier)
  factory : ∃ dialer, turn.2.factory = { (env.factory.firstContact id).2 with dialer }
  waits : ∀ s, turn.1 = .waiting s →
    s.Keeps env.factory.policy env.now id tier (env.factory.policy.maxAttempts tier)

/-- A sequence of dials has the tier that goes with the answer it got. -/
theorem start_begins (id : String) (told : Bool) (env : Surroundings δ) :
    Begins (γ := γ) id (Factory.tierOf (env.factory.firstContact id).1) env
      (start id told env) := by
  have hPolicy : (env.factory.firstContact id).2.policy = env.factory.policy := by
    unfold Factory.firstContact
    split <;> rfl
  let tier := Factory.tierOf (env.factory.firstContact id).1
  let most := env.factory.policy.maxAttempts tier
  let marked : Surroundings δ := (env.firstContact id).2.note (.dialing id tier most)
  have hStart : start (γ := γ) id told env =
      launch id tier (told || env.factory.shutdown) (most - 1) 1 marked := by
    show _ = launch id tier _ (env.factory.policy.maxAttempts tier - 1) 1
      ((env.firstContact id).2.note (.dialing id tier (env.factory.policy.maxAttempts tier)))
    rw [← hPolicy]
    rfl
  obtain ⟨hNoted, hFactory, hWaits⟩ : Goes (γ := γ) id tier most marked
      (launch id tier (told || env.factory.shutdown) (most - 1) 1 marked) :=
    launch_goes _ marked (Nat.add_sub_cancel' (env.factory.policy.maxAttempts_pos tier))
  have hMarked : marked.factory.policy = env.factory.policy := hPolicy
  rw [hMarked] at hNoted hWaits
  rw [hStart]
  exact ⟨hNoted.events, hFactory, hWaits⟩

/-- In a later turn a sequence goes on with its tier and with the dials that it has left, or it is
not its time yet. -/
theorem resume_goes (told : Bool) (s : DialSequence) (env : Surroundings δ) :
    s.resume (γ := γ) told env = (.waiting s, env) ∨
      ∃ most, Goes (γ := γ) s.endpointId s.tier most env (s.resume told env) ∧
        (s.Settled env.factory.policy → most = env.factory.policy.maxAttempts s.tier) := by
  unfold resume
  dsimp only
  split
  · split
    · exact Or.inr ⟨_, land_goes _ _ env rfl, Settled.allowance⟩
    · exact Or.inl rfl
  · next ends hPhase =>
    have hMost (h : s.Settled env.factory.policy) :
        s.attempt + 1 + (s.remaining - 1) = env.factory.policy.maxAttempts s.tier := by
      have hLeft := h.rests ends hPhase
      rw [← h.allowance]
      omega
    split
    · exact Or.inr ⟨_, ⟨noted_note ⟨rfl, by omega⟩ env, ⟨env.factory.dialer, rfl⟩, nofun⟩, hMost⟩
    · split
      · exact Or.inr ⟨_, launch_goes _ env rfl, hMost⟩
      · exact Or.inl rfl

end DialSequence

end Tether
