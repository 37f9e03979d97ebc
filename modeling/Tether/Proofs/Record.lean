import Tether.DialSequence

/-! What a step may add to the record of events. A step takes no time and leaves the clock alone, so
that all its readings show the same moment. Whether a sequence of dials began in a step is read off
the events that the step added. -/

namespace Tether

/-- The event marks the start of a sequence of dials to this endpoint. -/
def Event.Starts (id : String) (e : Event) : Prop := ∃ tier most, e = .dialing id tier most

/-- The event marks the start of no sequence of dials. -/
def Event.StartsNone (e : Event) : Prop := ∀ id, ¬e.Starts id

/-- A sequence of dials whose start the event marks is one to an endpoint of this kind. -/
def Event.StartsOnly (kind : String → Prop) (e : Event) : Prop := ∀ id, e.Starts id → kind id

/-- Whether the event marks the start of a sequence of dials to this endpoint. -/
def Event.isStart (id : String) : Event → Bool
  | dialing other _ _ => other == id
  | _ => false

theorem Event.isStart_eq_false {e : Event} (h : e.StartsNone) (id : String) :
    e.isStart id = false := by
  cases e with
  | dialing other tier most => exact absurd ⟨tier, most, rfl⟩ (h other)
  | _ => rfl

namespace Surroundings

variable {δ : Type}

/-- Sequences of dials to this endpoint that have begun. -/
def begun (id : String) (env : Surroundings δ) : Nat := env.events.countP (Event.isStart id)

/-- No time passes between `env` and `env'`, and the clock stays; all events noted in between are of
the `allowed` kind. -/
structure Recorded (allowed : Event → Prop) (env env' : Surroundings δ) : Prop where
  now : env'.now = env.now
  clock : env'.clock = env.clock
  events : ∃ fresh, env'.events = fresh ++ env.events ∧ ∀ e ∈ fresh, allowed e

/-- A step of an operation: readings go on being probed, or not, as they were. -/
structure Noted (allowed : Event → Prop) (env env' : Surroundings δ) : Prop
    extends Recorded allowed env env' where
  probing : env'.probing = env.probing

/-- A step that starts no sequence of dials and does not touch the factory at all. -/
structure Still (env env' : Surroundings δ) : Prop extends Noted Event.StartsNone env env' where
  factory : env'.factory = env.factory

variable {allowed wider : Event → Prop} {env env' env'' : Surroundings δ}

/-- A step that leaves the clock alone leaves alone what it shows. -/
theorem Recorded.shown (h : Recorded allowed env env') : env'.shown = env.shown := by
  simp [Surroundings.shown, h.now, h.clock]

theorem Recorded.refl (env : Surroundings δ) : Recorded allowed env env :=
  ⟨rfl, rfl, [], rfl, by simp⟩

theorem Recorded.trans (first : Recorded allowed env env') (second : Recorded allowed env' env'') :
    Recorded allowed env env'' := by
  obtain ⟨early, hEarly, allowedEarly⟩ := first.events
  obtain ⟨late, hLate, allowedLate⟩ := second.events
  refine ⟨second.now.trans first.now, second.clock.trans first.clock, late ++ early,
    by simp [hLate, hEarly], ?_⟩
  intro e he
  rcases List.mem_append.mp he with he | he
  · exact allowedLate e he
  · exact allowedEarly e he

theorem Recorded.mono (h : Recorded allowed env env') (hWider : ∀ e, allowed e → wider e) :
    Recorded wider env env' := by
  obtain ⟨fresh, hFresh, hAllowed⟩ := h.events
  exact ⟨h.now, h.clock, fresh, hFresh, fun e he => hWider e (hAllowed e he)⟩

theorem Recorded.startsOnly {kind : String → Prop} (h : Recorded Event.StartsNone env env') :
    Recorded (Event.StartsOnly kind) env env' :=
  h.mono fun _ he id hs => absurd hs (he id)

/-- A step that starts no sequence of dials leaves the number of those begun. -/
theorem Recorded.begun_eq (h : Recorded Event.StartsNone env env') (id : String) :
    env'.begun id = env.begun id := by
  obtain ⟨fresh, hFresh, hAllowed⟩ := h.events
  have hNone : fresh.countP (Event.isStart id) = 0 :=
    List.countP_eq_zero.mpr fun e he => by simp [Event.isStart_eq_false (hAllowed e he) id]
  rw [begun, hFresh, List.countP_append, hNone, Nat.zero_add, begun]

theorem Noted.refl (env : Surroundings δ) : Noted allowed env env := ⟨.refl env, rfl⟩

theorem Noted.trans (first : Noted allowed env env') (second : Noted allowed env' env'') :
    Noted allowed env env'' :=
  ⟨first.toRecorded.trans second.toRecorded, second.probing.trans first.probing⟩

theorem Noted.mono (h : Noted allowed env env') (hWider : ∀ e, allowed e → wider e) :
    Noted wider env env' :=
  ⟨h.toRecorded.mono hWider, h.probing⟩

theorem Noted.startsOnly {kind : String → Prop} (h : Noted Event.StartsNone env env') :
    Noted (Event.StartsOnly kind) env env' :=
  ⟨h.toRecorded.startsOnly, h.probing⟩

/-- An event of the kind may be noted. -/
theorem noted_note {event : Event} (h : allowed event) (env : Surroundings δ) :
    Noted allowed env (env.note event) :=
  ⟨⟨rfl, rfl, [event], rfl, by simpa using h⟩, rfl⟩

theorem noted_setDialer (dialer : δ) (env : Surroundings δ) :
    Noted allowed env (env.setDialer dialer) :=
  ⟨⟨rfl, rfl, [], rfl, by simp⟩, rfl⟩

/-- That an endpoint was seen is remembered by the factory, not in the record. -/
theorem noted_firstContact (id : String) (env : Surroundings δ) :
    Noted allowed env (env.firstContact id).2 :=
  ⟨⟨rfl, rfl, [], rfl, by simp⟩, rfl⟩

theorem Still.refl (env : Surroundings δ) : Still env env := ⟨.refl env, rfl⟩

theorem Still.trans (first : Still env env') (second : Still env' env'') : Still env env'' :=
  ⟨first.toNoted.trans second.toNoted, second.factory.trans first.factory⟩

theorem still_note {event : Event} (h : event.StartsNone) (env : Surroundings δ) :
    Still env (env.note event) :=
  ⟨noted_note h env, rfl⟩

end Surroundings

namespace DialSequence

open Surroundings

variable {δ γ : Type} [Dialer δ γ]

/-- Once started, a sequence of dials goes on without another start. -/
theorem land_noted (id : String) (tier : Tier) (cancelled : Bool) (remaining attempt ticket : Nat)
    (env : Surroundings δ) :
    Noted Event.StartsNone env (land id tier cancelled remaining attempt ticket env).2 := by
  induction remaining generalizing attempt ticket env with
  | zero =>
      unfold land
      split
      · exact (noted_setDialer _ env).trans (noted_note (by rintro _ ⟨_, _, ⟨⟩⟩) _)
      · exact (noted_setDialer _ env).trans (noted_note (by rintro _ ⟨_, _, ⟨⟩⟩) _)
  | succ left ih =>
      unfold land
      split
      · exact (noted_setDialer _ env).trans (noted_note (by rintro _ ⟨_, _, ⟨⟩⟩) _)
      · next error dialer _ =>
        have hRetry : Noted Event.StartsNone env ((env.setDialer dialer).note
            (.retrying id attempt (left + 1) (env.factory.policy.grace tier) error)) :=
          (noted_setDialer _ env).trans (noted_note (by rintro _ ⟨_, _, ⟨⟩⟩) _)
        dsimp only
        split
        · exact hRetry.trans (noted_note (by rintro _ ⟨_, _, ⟨⟩⟩) _)
        · split
          · split
            · exact (hRetry.trans (noted_setDialer _ _)).trans (ih _ _ _)
            · exact hRetry.trans (noted_setDialer _ _)
          · exact hRetry

/-- An attempt that starts is no new sequence. -/
theorem launch_noted (id : String) (tier : Tier) (cancelled : Bool) (remaining attempt : Nat)
    (env : Surroundings δ) :
    Noted Event.StartsNone env (launch id tier cancelled remaining attempt env).2 := by
  unfold launch
  dsimp only
  split
  · exact (noted_setDialer _ env).trans (land_noted ..)
  · exact noted_setDialer _ env

/-- The only start noted is that of the sequence itself. -/
theorem start_noted (id : String) (told : Bool) (env : Surroundings δ) :
    Noted (Event.StartsOnly (· = id)) env (start id told env).2 := by
  have hStart (tier : Tier) (most : Nat) :
      Event.StartsOnly (· = id) (.dialing id tier most) := by
    rintro other ⟨_, _, he⟩
    cases he
    rfl
  let tier := Factory.tierOf (env.firstContact id).1
  let most := (env.firstContact id).2.factory.policy.maxAttempts tier
  have hMarked : Noted (Event.StartsOnly (· = id)) env
      ((env.firstContact id).2.note (.dialing id tier most)) :=
    (noted_firstContact id env).trans (noted_note (hStart tier most) _)
  exact hMarked.trans (launch_noted ..).startsOnly

/-- Each sequence of dials is begun once. -/
theorem start_begun (id : String) (told : Bool) (env : Surroundings δ) :
    (start id told env).2.begun id = env.begun id + 1 := by
  let tier := Factory.tierOf (env.firstContact id).1
  let most := (env.firstContact id).2.factory.policy.maxAttempts tier
  have hMarked : ((env.firstContact id).2.note (.dialing id tier most)).begun id =
      env.begun id + 1 :=
    List.countP_cons_of_pos (by simp [Event.isStart])
  exact ((launch_noted ..).begun_eq id).trans hMarked

theorem resume_noted (told : Bool) (s : DialSequence) (env : Surroundings δ) :
    Noted Event.StartsNone env (s.resume told env).2 := by
  unfold resume
  dsimp only
  split
  · split
    · exact land_noted ..
    · exact .refl env
  · split
    · exact noted_note (by rintro _ ⟨_, _, ⟨⟩⟩) env
    · split
      · exact launch_noted ..
      · exact .refl env

/-- However far a sequence of dials gets, it stays with its endpoint. -/
theorem land_endpointId {id : String} {tier : Tier} {cancelled : Bool}
    {remaining attempt ticket : Nat} {env : Surroundings δ} {s : DialSequence}
    (h : (land id tier cancelled remaining attempt ticket env).1 = .waiting s) :
    s.endpointId = id := by
  induction remaining generalizing attempt ticket env with
  | zero =>
      unfold land at h
      split at h <;> cases h
  | succ left ih =>
      unfold land at h
      split at h
      · cases h
      · dsimp only at h
        split at h
        · cases h
        · split at h
          · split at h
            · exact ih h
            · cases h
              rfl
          · cases h
            rfl

theorem launch_endpointId {id : String} {tier : Tier} {cancelled : Bool}
    {remaining attempt : Nat} {env : Surroundings δ} {s : DialSequence}
    (h : (launch id tier cancelled remaining attempt env).1 = .waiting s) : s.endpointId = id := by
  unfold launch at h
  dsimp only at h
  split at h
  · exact land_endpointId h
  · cases h
    rfl

theorem start_endpointId {id : String} {told : Bool} {env : Surroundings δ} {s : DialSequence}
    (h : (start id told env).1 = .waiting s) : s.endpointId = id :=
  launch_endpointId h

/-- A sequence of dials stays with its endpoint for as long as it goes on. -/
theorem resume_endpointId {told : Bool} {s s' : DialSequence} {env : Surroundings δ}
    (h : (s.resume told env).1 = .waiting s') : s'.endpointId = s.endpointId := by
  unfold resume at h
  dsimp only at h
  split at h
  · split at h
    · exact land_endpointId h
    · cases h
      rfl
  · split at h
    · cases h
    · split at h
      · exact launch_endpointId h
      · cases h
        rfl

end DialSequence

end Tether
