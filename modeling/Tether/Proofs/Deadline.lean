import Tether.Proofs.Objections

/-! How long a soak can last. Its deadline has to be a moment, and moments end some way below the
longest duration that the arguments can ask for. -/

namespace Tether

namespace Soak

variable {δ γ : Type} [Dialer δ γ] {pool : Nat} {endpoint : String} {duration interval : Duration}
  {hold : Bool}

/-- There is a report exactly if the deadline is a moment. -/
theorem run_isSome_iff {w : World δ γ} :
    (run pool endpoint duration interval hold w).isSome ↔ w.env.now + duration < Instant.limit := by
  unfold run
  dsimp only
  split
  · next hMoment => exact iff_of_true rfl hMoment
  · next hBeyond => exact iff_of_false nofun hBeyond

theorem round_rounds (t : Tally) (w : World δ γ) :
    (round pool endpoint interval hold t w).1.rounds = t.rounds + 1 := by
  unfold round
  dsimp only
  split <;> rfl

theorem rounds_succ {deadline : Instant} {w : World δ γ} (h : w.env.now < deadline) (count : Nat)
    (t : Tally) :
    rounds pool endpoint interval hold deadline (count + 1) t w =
      rounds pool endpoint interval hold deadline count
        (round pool endpoint interval hold t w).1 (round pool endpoint interval hold t w).2 := by
  rw [rounds, if_pos h]

/-- Rounds are never taken back. -/
theorem rounds_le (deadline : Instant) (count : Nat) (t : Tally) (w : World δ γ) :
    t.rounds ≤ (rounds pool endpoint interval hold deadline count t w).1.rounds := by
  induction count generalizing t w with
  | zero => exact Nat.le_refl _
  | succ count ih =>
      by_cases hTime : w.env.now < deadline
      · calc t.rounds
          _ ≤ (round pool endpoint interval hold t w).1.rounds := by
            rw [round_rounds]
            exact Nat.le_succ _
          _ ≤ _ := by
            rw [rounds_succ hTime]
            exact ih _ _
      · rw [rounds, if_neg hTime]

/-- A soak that lasts for some time makes a round at least. -/
theorem run_rounds_pos {w w' : World δ γ} {report : SoakReport} (hLasts : 0 < duration)
    (h : run pool endpoint duration interval hold w = some (report, w')) : 0 < report.rounds := by
  unfold run at h
  dsimp only at h
  split at h
  · cases h
    have hStarts : w.env.now < w.env.now + duration := Nat.lt_add_of_pos_right hLasts
    rw [rounds_succ hStarts]
    refine Nat.lt_of_lt_of_le ?_ (rounds_le _ _ _ _)
    rw [round_rounds]
    exact Nat.succ_pos _
  · cases h

end Soak

/-! ### Settings that were loaded -/

namespace Settings

variable {s : Settings}

theorem ofText_usable {text : String} (h : ofText text = .ok s) : s.complaint? = none := by
  unfold ofText at h
  split at h
  · cases h
  · split at h
    · cases h
    · next hNone =>
      cases h
      exact hNone

theorem ofEnvironment_usable {source : SettingsSource} (h : ofEnvironment source = .ok s) :
    s.complaint? = none := by
  unfold ofEnvironment at h
  dsimp only at h
  split at h
  · cases h
  · next hNone =>
    cases h
    exact hNone

theorem load_usable {path : Option String} {source : SettingsSource}
    (h : load path source = .ok s) : s.complaint? = none := by
  cases path with
  | none => exact ofEnvironment_usable h
  | some path =>
      simp only [load, ofFile] at h
      split at h
      · cases h
      · exact ofText_usable h

/-- A pool can be opened with settings that were loaded, and nothing has happened then. -/
theorem openPool_of_usable (h : s.complaint? = none) (network : Network) :
    ∃ w, s.openPool network = .ok (0, w) ∧ w.env.now = 0 := by
  have hSecs : s.lingerSecs ≠ 0 := by
    intro hZero
    rw [complaint?, if_pos hZero] at h
    cases h
  have hLinger : s.linger ≠ 0 := Nat.mul_ne_zero (by decide) hSecs
  unfold openPool World.openPool Pool.ofLinger
  rw [if_neg hLinger]
  exact ⟨_, rfl, rfl⟩

end Settings

theorem Arguments.load_of_prepare {a : Arguments} {source : SettingsSource} {s : Settings}
    (h : a.prepare source = .ok s) : Settings.load a.config source = .ok s := by
  unfold prepare at h
  split at h
  · cases h
  · split at h
    · next hLoaded =>
      cases h
      exact hLoaded
    · cases h

namespace Soak

theorem ofSeconds_lt_limit_iff {durationSecs : Nat} :
    Duration.ofSeconds durationSecs < Instant.limit ↔ durationSecs < Nat.pow 2 63 :=
  Nat.mul_lt_mul_left (by decide)

/-- Carried out from the first moment on, a soak is done, or has no deadline. -/
theorem perform_conclusion {s : Settings} (hUsable : s.complaint? = none) (network : Network)
    (format : OutputFormat) (endpoint : String) (durationSecs intervalMs : Nat) (hold : Bool) :
    (Command.perform s network format (.soak endpoint durationSecs intervalMs hold)).conclusion =
      if durationSecs < Nat.pow 2 63 then .done else .crashed := by
  obtain ⟨w, hOpened, hStart⟩ := Settings.openPool_of_usable hUsable network
  have hRuns : (run 0 endpoint (.ofSeconds durationSecs) (.ofMillis intervalMs) hold w).isSome ↔
      durationSecs < Nat.pow 2 63 := by
    rw [run_isSome_iff, hStart, Nat.zero_add, ofSeconds_lt_limit_iff]
  simp only [Command.perform, Settings.soak, hOpened]
  cases hRun : run 0 endpoint (.ofSeconds durationSecs) (.ofMillis intervalMs) hold w with
  | none =>
      rw [hRun] at hRuns
      exact (if_neg fun hShort => by cases hRuns.mpr hShort).symm
  | some ended =>
      rw [hRun] at hRuns
      exact (if_pos (hRuns.mp rfl)).symm

variable {δ γ : Type} [Dialer δ γ]

/-- A soak is accepted however long it is to last. From any moment on it has a deadline exactly if
that comes before the moments end, and then it makes a round at least. The command is carried out
from the first moment on; there it is done if the soak is to last for less than `2 ^ 63` seconds, and
crashes if not. From a later moment on it would crash that much sooner, as for every world. -/
theorem deadline_exact (endpoint : String) (durationSecs intervalMs : Nat) (hold : Bool) :
    ((Command.soak endpoint durationSecs intervalMs hold).complaint? = none ↔
      Endpoint.Accepts endpoint ∧ 0 < durationSecs ∧ 0 < intervalMs) ∧
    (∀ pool (w : World δ γ),
      ((run pool endpoint (.ofSeconds durationSecs) (.ofMillis intervalMs) hold w).isSome ↔
        w.env.now + Duration.ofSeconds durationSecs < Instant.limit) ∧
      ∀ report w', run pool endpoint (.ofSeconds durationSecs) (.ofMillis intervalMs) hold w =
        some (report, w') → 0 < durationSecs → 0 < report.rounds) ∧
    ∀ (a : Arguments) source network settings,
      a.command = .soak endpoint durationSecs intervalMs hold → a.prepare source = .ok settings →
        (a.run source network).conclusion =
          if durationSecs < Nat.pow 2 63 then .done else .crashed := by
  refine ⟨Command.complaint?_soak_eq_none_iff, fun pool w => ⟨run_isSome_iff, ?_⟩, ?_⟩
  · exact fun report w' hRun hLasts => run_rounds_pos (Nat.mul_pos (by decide) hLasts) hRun
  · intro a source network settings hSoak hPrepared
    have hUsable := Settings.load_usable (Arguments.load_of_prepare hPrepared)
    simp only [Arguments.run, hPrepared, hSoak]
    exact perform_conclusion hUsable network a.format endpoint durationSecs intervalMs hold

/-- A soak of this many seconds. -/
def lasting (durationSecs : Nat) : Arguments := { command := .soak "a:1" durationSecs 1 false }

/-- From the first moment on the longest soak that comes to its end lasts a second less than the
shortest that crashes. -/
theorem lasting_at_limit :
    ((lasting (Nat.pow 2 63 - 1)).run {} fun _ _ => .blocked "").conclusion = .done ∧
    ((lasting (Nat.pow 2 63)).run {} fun _ _ => .blocked "").conclusion = .crashed := by
  have hLast : (lasting (Nat.pow 2 63 - 1)).prepare {} = .ok {} := rfl
  have hNext : (lasting (Nat.pow 2 63)).prepare {} = .ok {} := rfl
  constructor
  · have hDone := (deadline_exact (δ := NetworkDialer) "a:1" (Nat.pow 2 63 - 1) 1 false).2.2
      (lasting (Nat.pow 2 63 - 1)) {} (fun _ _ => .blocked "") {} rfl hLast
    rwa [if_pos (by decide)] at hDone
  · have hCrashed := (deadline_exact (δ := NetworkDialer) "a:1" (Nat.pow 2 63) 1 false).2.2
      (lasting (Nat.pow 2 63)) {} (fun _ _ => .blocked "") {} rfl hNext
    rwa [if_neg (by decide)] at hCrashed

/-- Not every soak within the range of the numbers that is accepted comes to its first round. -/
theorem longest_has_no_deadline :
    ¬∀ endpoint durationSecs intervalMs hold, durationSecs ≤ Text.max64 → intervalMs ≤ Text.max64 →
      (Command.soak endpoint durationSecs intervalMs hold).complaint? = none →
        ∀ pool (w : World NetworkDialer NetworkConnection),
          (run pool endpoint (.ofSeconds durationSecs) (.ofMillis intervalMs) hold w).isSome := by
  intro h
  have hAccepted : (Command.soak "a:1" Text.max64 1000 false).complaint? = none := by
    decide +kernel
  have hRuns := h "a:1" Text.max64 1000 false (Nat.le_refl _) (by decide) hAccepted 0
    { env := { factory := { dialer := { settings := {}, network := fun _ _ => .blocked "" } } } }
  rw [run_isSome_iff] at hRuns
  exact absurd hRuns (by decide)

end Soak

end Tether
