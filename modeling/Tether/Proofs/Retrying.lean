import Tether.Dialer.Scripted
import Tether.Proofs.Contact
import Tether.Proofs.Table
import Tether.Proofs.Timetable
import Tether.Proofs.Upkeep

/-! Sequences of dials that callers run on the factory, from their start to their end. Whatever else
goes on meanwhile, the sequence keeps to the timetable that was settled when it started, if its
caller stays, its dials are left alone and time does not run past it. -/

namespace Tether

variable {δ γ : Type}

namespace DialSequence

/-- How far a suspended sequence has got. -/
def rank (s : DialSequence) : Nat :=
  match s.phase with
  | .flying _ _ => 2 * s.attempt
  | .resting _ => 2 * s.attempt + 1

variable [Dialer δ γ] {env : Surroundings δ} {s : DialSequence}

theorem land_rank {id : String} {tier : Tier} {told : Bool} {remaining attempt ticket : Nat}
    (h : (land id tier told remaining attempt ticket env).1 = .waiting s) :
    2 * attempt < s.rank := by
  induction remaining generalizing attempt ticket env with
  | zero =>
      unfold land at h
      split at h <;> cases h
  | succ left ih =>
      unfold land at h
      split at h
      · cases h
      · dsimp only at h
        split at h
        · cases h
        · split at h
          · split at h
            · have hLater := ih h
              omega
            · cases h
              exact Nat.mul_lt_mul_of_pos_left (Nat.lt_succ_self _) Nat.two_pos
          · cases h
            exact Nat.lt_succ_self _

theorem launch_rank {id : String} {tier : Tier} {told : Bool} {remaining attempt : Nat}
    (h : (launch id tier told remaining attempt env).1 = .waiting s) : 2 * attempt ≤ s.rank := by
  unfold launch at h
  dsimp only at h
  split at h
  · exact Nat.le_of_lt (land_rank h)
  · cases h
    exact Nat.le_refl _

/-- A sequence that can go on gets further. -/
theorem resume_rank {told : Bool} {s' : DialSequence} (hReady : s.isReady told env = true)
    (h : (s.resume told env).1 = .waiting s') : s.rank < s'.rank := by
  unfold resume at h
  dsimp only at h
  split at h
  · next ticket lands hPhase =>
    have hRank : s.rank = 2 * s.attempt := by rw [rank, hPhase]
    rw [isReady, hPhase] at hReady
    rw [if_pos (of_decide_eq_true hReady)] at h
    rw [hRank]
    exact land_rank h
  · next ends hPhase =>
    have hRank : s.rank = 2 * s.attempt + 1 := by rw [rank, hPhase]
    rw [isReady, hPhase] at hReady
    split at h
    · cases h
    · next hUntold =>
      have hEnds : ends ≤ env.now := by simpa [Bool.eq_false_iff.mpr hUntold] using hReady
      rw [if_pos hEnds] at h
      have hNext := launch_rank h
      omega

end DialSequence

namespace World

open Surroundings Timetable

variable {w : World δ γ} {index : Nat} {token : Option String} {cut : Option Instant}
  {same : δ → δ → Prop} {t : Timetable δ}

/-- Whether a sequence of dials that a caller runs with this token has been told to stop. -/
def isTold (token : Option String) (w : World δ γ) : Bool :=
  w.isCancelled token || w.env.factory.shutdown

/-- By now the token and the factory's shutdown have not been cancelled before that moment, and one
of them has been after it. -/
def Hears (cut : Option Instant) (token : Option String) (w : World δ γ) : Prop :=
  Heard cut (w.isTold token) w.env.now

section Performing

variable [Dialer δ γ] {act : Act δ} {acts : List (Act δ)}

/-- It holds in every world of the run. -/
def Always (kind : World δ γ → Prop) : List (Act δ) → World δ γ → Prop
  | [], w => kind w
  | act :: rest, w => kind w ∧ Always kind rest (w.perform act)

theorem Always.first {kind : World δ γ → Prop} (h : Always kind acts w) : kind w := by
  cases acts with
  | nil => exact h
  | cons act rest => exact h.1

theorem Always.last {kind : World δ γ → Prop} (h : Always kind acts w) :
    kind (w.performAll acts) := by
  induction acts generalizing w with
  | nil => exact h
  | cons act rest ih => exact ih h.2

/-- The act leaves a sequence of dials on the factory to itself: its caller stays, its dials go as
they would have gone, and time passes only once it has had its turn, and only up to the moment that
it waits for. -/
structure Lets (index : Nat) (same : δ → δ → Prop) (w : World δ γ) (act : Act δ) : Prop where
  stays : act ≠ .dropCreation index
  apart : act ≠ .resumeCreation index →
    same w.env.factory.dialer (w.perform act).env.factory.dialer
  prompt : ∀ moment, act = .pass moment → w.env.now < moment →
    ∀ token s, w.creations[index]? = some { token, state := .running s } →
      s.isReady (w.isCancelled token) w.env = false ∧ moment ≤ s.due

/-- A run that leaves the sequence to itself, and in which the token or the factory's shutdown is
cancelled just at that moment, or neither ever. -/
structure Conducts (index : Nat) (same : δ → δ → Prop) (cut : Option Instant)
    (token : Option String) (acts : List (Act δ)) (w : World δ γ) : Prop where
  lets : Throughout (Lets index same) acts w
  hears : Always (Hears cut token) acts w

theorem Conducts.nil (h : w.Hears cut token) : Conducts index same cut token [] w := ⟨trivial, h⟩

theorem Conducts.cons (hHears : w.Hears cut token) (hLets : w.Lets index same act)
    (h : Conducts index same cut token acts (w.perform act)) :
    Conducts index same cut token (act :: acts) w :=
  ⟨⟨hLets, h.lets⟩, ⟨hHears, h.hears⟩⟩

theorem Conducts.append {more : List (Act δ)} (first : Conducts index same cut token acts w)
    (second : Conducts index same cut token more (w.performAll acts)) :
    Conducts index same cut token (acts ++ more) w := by
  induction acts generalizing w with
  | nil => exact second
  | cons act rest ih =>
      exact .cons first.hears.1 first.lets.1 (ih ⟨first.lets.2, first.hears.2⟩ second)

/-- The sequence with this number keeps to its timetable. -/
structure Follows (t : Timetable δ) (same : δ → δ → Prop) (cut : Option Instant) (index : Nat)
    (token : Option String) (w : World δ γ) : Prop where
  policy : w.env.factory.policy = t.policy
  stage : ∃ state, w.creations[index]? = some { token, state } ∧
    t.Stage same cut w.env.now w.env.factory.dialer state

theorem perform_creation_of_ne (hBound : index < w.creations.length)
    (hResume : act ≠ .resumeCreation index) (hDrop : act ≠ .dropCreation index) :
    (w.perform act).creations[index]? = w.creations[index]? := by
  by_cases hCreates : act.Creates
  · cases act with
    | create id token => exact List.getElem?_append_left hBound
    | resumeCreation other =>
        have hOther : other ≠ index := fun h => hResume (congrArg _ h)
        show (w.resumeCreation other).creations[index]? = _
        unfold resumeCreation
        split
        · exact List.getElem?_set_ne hOther
        · rfl
    | dropCreation other =>
        have hOther : other ≠ index := fun h => hDrop (congrArg _ h)
        exact List.getElem?_modify_ne _ _ hOther
    | _ => exact hCreates.elim
  · rw [perform_creations hCreates w]

theorem Follows.pass (h : w.Follows t same cut index token) (moment : Instant)
    (hHears : (w.passTo moment).Hears cut token) (hLets : w.Lets index same (.pass moment)) :
    (w.passTo moment).Follows t same cut index token := by
  obtain ⟨hPolicy, state, hCreation, hStage⟩ := h
  refine ⟨hPolicy, state, hCreation, ?_⟩
  by_cases hLater : w.env.now < moment
  · have hNow : (w.passTo moment).env.now = moment := Nat.max_eq_right (Nat.le_of_lt hLater)
    rw [hNow]
    refine hStage.later (Nat.le_of_lt hLater) ?_ ?_
    · rintro s rfl
      exact (hLets.prompt moment rfl hLater token s hCreation).2
    · rintro s ends rfl hPhase
      have hReady := (hLets.prompt moment rfl hLater token s hCreation).1
      rw [DialSequence.isReady, hPhase, Bool.or_eq_false_iff] at hReady
      exact hNow ▸ hHears.goOn hReady.1
  · have hNow : (w.passTo moment).env.now = w.env.now :=
      Nat.max_eq_left (Nat.le_of_not_lt hLater)
    rw [hNow]
    exact hStage

theorem Follows.resume (h : w.Follows t same cut index token)
    (hRegards : Dialer.Regards t.endpointId same) (hClear : t.Clear cut)
    (hHears : w.Hears cut token) :
    (w.resumeCreation index).Follows t same cut index token := by
  obtain ⟨hPolicy, state, hCreation, hStage⟩ := h
  refine ⟨(perform_policy (.resumeCreation index) w).trans hPolicy, ?_⟩
  have hBound := (List.getElem?_eq_some_iff.mp hCreation).1
  unfold resumeCreation
  rw [hCreation]
  cases state with
  | running s =>
      exact ⟨_, List.getElem?_set_self hBound, resume_keeps hRegards hClear hPolicy hHears hStage⟩
  | _ => exact ⟨_, hCreation, hStage⟩

theorem Follows.perform (h : w.Follows t same cut index token)
    (hRegards : Dialer.Regards t.endpointId same) (hClear : t.Clear cut)
    (hHears : w.Hears cut token) (hHears' : (w.perform act).Hears cut token)
    (hLets : w.Lets index same act) : (w.perform act).Follows t same cut index token := by
  by_cases hPass : ∃ moment, act = .pass moment
  · obtain ⟨moment, rfl⟩ := hPass
    exact h.pass moment hHears' hLets
  · by_cases hResume : act = .resumeCreation index
    · subst hResume
      exact h.resume hRegards hClear hHears
    · obtain ⟨hPolicy, state, hCreation, hStage⟩ := h
      have hBound := (List.getElem?_eq_some_iff.mp hCreation).1
      refine ⟨(perform_policy act w).trans hPolicy, state, ?_, ?_⟩
      · rw [perform_creation_of_ne hBound hResume hLets.stays, hCreation]
      · rw [perform_now w (not_exists.mp hPass)]
        exact hStage.elsewhere hRegards (hLets.apart hResume)

theorem Follows.performAll (h : w.Follows t same cut index token)
    (hRegards : Dialer.Regards t.endpointId same) (hClear : t.Clear cut)
    (hRun : Conducts index same cut token acts w) :
    (w.performAll acts).Follows t same cut index token := by
  induction acts generalizing w with
  | nil => exact h
  | cons act rest ih =>
      have hRest : Conducts index same cut token rest (w.perform act) :=
        ⟨hRun.lets.2, hRun.hears.2⟩
      exact ih (h.perform hRegards hClear hRun.hears.1 hRest.hears.first hRun.lets.1) hRest

theorem create_follows {id : String} (hRegards : Dialer.Regards id same)
    (hClear : (ofStart id w.env).Clear cut)
    (hHears : (w.perform (.create id token)).Hears cut token) :
    (w.perform (.create id token)).Follows (ofStart id w.env) same cut w.creations.length
      token := by
  have hNow : (w.perform (.create id token)).env.now = w.env.now := perform_now w nofun
  have hSettings : Configured w.env (w.perform (.create id token)).env :=
    perform_configured (by nofun) w
  have hTold : (w.perform (.create id token)).isTold token = w.isTold token :=
    congrArg (w.isCancelled token || ·) hSettings.shutdown
  unfold Hears at hHears
  rw [hNow, hTold] at hHears
  exact ⟨perform_policy _ w, _, List.getElem?_concat_length,
    start_keeps hRegards hClear hHears⟩

/-! ### Getting to the end -/

omit [Dialer δ γ] in
theorem Hears.later (h : w.Hears cut token) (moment : Instant)
    (hUntold : w.isTold token = false → ∀ c, cut = some c → moment ≤ c) :
    (w.passTo moment).Hears cut token := by
  refine ⟨fun hTold => ?_, fun hOn c hCut => ?_⟩
  · obtain ⟨c, hCut, hPast⟩ := h.stop hTold
    exact ⟨c, hCut, Nat.le_trans hPast (Nat.le_max_left _ _)⟩
  · exact Nat.max_le.mpr ⟨h.goOn hOn c hCut, hUntold hOn c hCut⟩

omit [Dialer δ γ] in
theorem isReady_of_due {s : DialSequence} {told : Bool} {env : Surroundings δ}
    (h : s.due ≤ env.now) : s.isReady told env = true := by
  unfold DialSequence.due at h
  unfold DialSequence.isReady
  split
  · next hPhase =>
    rw [hPhase] at h
    exact decide_eq_true h
  · next hPhase =>
    rw [hPhase] at h
    rw [decide_eq_true h, Bool.or_true]

/-- A run of acts beside the sequence brings it to where it can go on. -/
def Ripens (index : Nat) (same : δ → δ → Prop) (cut : Option Instant) (token : Option String)
    (s : DialSequence) (w : World δ γ) : Prop :=
  ∃ acts : List (Act δ), Conducts index same cut token acts w ∧
    (w.performAll acts).creations[index]? = some { token, state := .running s } ∧
    s.isReady ((w.performAll acts).isCancelled token) (w.performAll acts).env = true

theorem lets_pass {s : DialSequence} {moment : Instant} (hSame : ∀ d, same d d)
    (hCreation : w.creations[index]? = some { token, state := .running s })
    (hReady : s.isReady (w.isCancelled token) w.env = false) (hDue : moment ≤ s.due) :
    w.Lets index same (.pass moment) := by
  refine ⟨nofun, fun _ => hSame _, ?_⟩
  rintro _ ⟨⟩ _ token' s' hCreation'
  cases hCreation.symm.trans hCreation'
  exact ⟨hReady, hDue⟩

/-- If it is not to be told to stop before that, time passes to the moment that it waits for. -/
theorem ripens_of_pass {s : DialSequence} (hSame : ∀ d, same d d)
    (hCreation : w.creations[index]? = some { token, state := .running s })
    (hHears : w.Hears cut token)
    (hUntold : w.isTold token = false → ∀ c, cut = some c → s.due ≤ c) :
    Ripens index same cut token s w := by
  cases hReady : s.isReady (w.isCancelled token) w.env with
  | true => exact ⟨[], .nil hHears, hCreation, hReady⟩
  | false =>
      refine ⟨[.pass s.due], ?_, hCreation, isReady_of_due (Nat.le_max_right _ _)⟩
      exact .cons hHears (lets_pass hSame hCreation hReady (Nat.le_refl _))
        (.nil (hHears.later s.due hUntold))

theorem ripens {s : DialSequence} (hSame : ∀ d, same d d)
    (hCreation : w.creations[index]? = some { token, state := .running s })
    (hHears : w.Hears cut token) : Ripens index same cut token s w := by
  by_cases hCut : w.isTold token = false ∧ ∃ c, cut = some c ∧ c < s.due
  · obtain ⟨hOn, c, hCut, hBefore⟩ := hCut
    cases hReady : s.isReady (w.isCancelled token) w.env with
    | true => exact ⟨[], .nil hHears, hCreation, hReady⟩
    | false =>
        -- The sequence is told while it waits: time passes to that moment only, and on from there.
        let late : World δ γ := w.passTo c
        let told : World δ γ := late.perform .shutFactory
        have hTold : told.isTold token = true := Bool.or_true _
        have hLate : late.Hears cut token :=
          hHears.later c fun _ c' hCut' => Nat.le_of_eq (Option.some.inj (hCut.symm.trans hCut'))
        have hStopped : told.Hears cut token :=
          ⟨fun _ => ⟨c, hCut, Nat.le_max_right _ _⟩, fun h => nomatch hTold.symm.trans h⟩
        have hCreation' : told.creations[index]? = some { token, state := .running s } := hCreation
        obtain ⟨acts, hRun, hEnd⟩ := ripens_of_pass hSame hCreation' hStopped
          fun h => nomatch hTold.symm.trans h
        have hShut : late.Lets index same .shutFactory := ⟨nofun, fun _ => hSame _, nofun⟩
        exact ⟨.pass c :: .shutFactory :: acts,
          .cons hHears (lets_pass hSame hCreation hReady (Nat.le_of_lt hBefore))
            (.cons hLate hShut hRun), hEnd⟩
  · refine ripens_of_pass hSame hCreation hHears fun hOn c hSome => Nat.le_of_not_lt fun hBefore => ?_
    exact hCut ⟨hOn, c, hSome, hBefore⟩

theorem resumeCreation_eq {s : DialSequence}
    (hCreation : w.creations[index]? = some { token, state := .running s }) :
    w.resumeCreation index =
      { w with
        env := (s.resume (γ := γ) (w.isCancelled token) w.env).2
        creations := w.creations.set index
          { token, state := ofProgress (s.resume (w.isCancelled token) w.env).1 } } := by
  unfold resumeCreation
  rw [hCreation]

theorem waiting_of_running {s s' : DialSequence}
    (hCreation : w.creations[index]? = some { token, state := .running s })
    (hStill : (w.resumeCreation index).creations[index]? =
      some { token, state := .running s' }) :
    (s.resume (γ := γ) (w.isCancelled token) w.env).1 = .waiting s' := by
  rw [resumeCreation_eq hCreation,
    List.getElem?_set_self (List.getElem?_eq_some_iff.mp hCreation).1] at hStill
  generalize (s.resume (γ := γ) (w.isCancelled token) w.env).1 = progress at hStill ⊢
  cases progress with
  | waiting sequence =>
      cases hStill
      rfl
  | _ => cases hStill

theorem Hears.resume (h : w.Hears cut token) (index : Nat) :
    (w.resumeCreation index).Hears cut token := by
  have hCancelled : (w.resumeCreation index).cancelled = w.cancelled := by
    unfold resumeCreation
    split <;> rfl
  have hNow : (w.perform (.resumeCreation index)).env.now = w.env.now := perform_now w nofun
  have hSettings : Configured w.env (w.perform (.resumeCreation index)).env :=
    perform_configured (by nofun) w
  have hTold : (w.resumeCreation index).isTold token = w.isTold token := by
    unfold isTold isCancelled
    rw [hCancelled]
    exact congrArg (_ || ·) hSettings.shutdown
  unfold Hears
  rw [hTold]
  exact hNow ▸ h

/-- However far the sequence has got, it can be brought to its end, which comes at its moment. -/
theorem Follows.finishes {w : World δ γ} {s : DialSequence} {state : CreationState γ} {k : Nat}
    {moment : Instant} (h : w.Follows t same cut index token) (hRegards : Dialer.Regards t.endpointId same)
    (hClear : t.Clear cut) (hHears : w.Hears cut token)
    (hOutcome : t.Outcome cut state k moment)
    (hCreation : w.creations[index]? = some { token, state := .running s }) :
    ∃ acts, Conducts index same cut token acts w ∧
      (w.performAll acts).creations[index]? = some { token, state } ∧
      (w.performAll acts).env.now = moment := by
  obtain ⟨acts, hRun, hThen, hReady⟩ := ripens hRegards.refl hCreation hHears
  let ripe : World δ γ := w.performAll acts
  let next : World δ γ := ripe.perform (.resumeCreation index)
  have hRipe : ripe.Follows t same cut index token := h.performAll hRegards hClear hRun
  have hRipeHears : ripe.Hears cut token := hRun.hears.last
  have hNextHears : next.Hears cut token := hRipeHears.resume index
  have hTurn : ripe.Lets index same (.resumeCreation index) :=
    ⟨nofun, fun hOther => absurd rfl hOther, nofun⟩
  have hNow : next.env.now = ripe.env.now := perform_now ripe nofun
  have hNext : next.Follows t same cut index token := hRipe.resume hRegards hClear hRipeHears
  have hJoin {more : List (Act δ)} (hMore : Conducts index same cut token more next) :
      Conducts index same cut token (acts ++ .resumeCreation index :: more) w :=
    hRun.append (.cons hRipeHears hTurn hMore)
  have hEnd (more : List (Act δ)) :
      w.performAll (acts ++ .resumeCreation index :: more) = next.performAll more :=
    List.foldl_append ..
  obtain ⟨state', hCreation', hStage⟩ := hNext.stage
  cases hLive : state'.isLive with
  | false =>
      obtain ⟨rfl, hLate, _⟩ := hStage.of_over hLive hOutcome
      obtain ⟨_, hRunning, hBefore⟩ := hRipe.stage
      cases hThen.symm.trans hRunning
      refine ⟨_, hJoin (.nil hNextHears), ?_⟩
      rw [hEnd]
      exact ⟨hCreation', Nat.le_antisymm (hNow ▸ hBefore.running_le hOutcome) hLate⟩
  | true =>
      cases state' with
      | running s' =>
          have hFurther : s.rank < s'.rank :=
            DialSequence.resume_rank hReady (waiting_of_running hThen hCreation')
          have hAllowed : s'.attempt ≤ t.most := hStage.allowance.2 ▸ Nat.le_add_right _ _
          have hRank : s'.rank ≤ 2 * t.most + 1 := by
            unfold DialSequence.rank
            split <;> omega
          obtain ⟨more, hMore, hLast⟩ :=
            hNext.finishes hRegards hClear hNextHears hOutcome hCreation'
          exact ⟨_, hJoin hMore, hEnd more ▸ hLast⟩
      | _ => cases hLive
termination_by 2 * t.most + 2 - s.rank

/-! ### From the start to the end -/

/-- The sequence with this number is under way up to that moment, within its allowance, and can be
brought to its end. Then it is over, and the dialer has had that many dials for it. -/
structure Concludes (index : Nat) (same : δ → δ → Prop) (cut : Option Instant)
    (token : Option String) (t : Timetable δ) (k : Nat) (state : CreationState γ)
    (moment : Instant) (w : World δ γ) : Prop where
  running : ∀ s, w.creationState index = some (.running s) →
    w.env.now ≤ moment ∧ 1 ≤ s.attempt ∧ s.attempt + s.remaining = t.most ∧
      ∃ acts, Conducts index same cut token acts w ∧
        (w.performAll acts).creationState index = some state ∧
        (w.performAll acts).env.now = moment
  ended : (∀ s, w.creationState index ≠ some (.running s)) →
    w.creationState index = some state ∧ moment ≤ w.env.now ∧
      same (t.after k) w.env.factory.dialer

omit [Dialer δ γ] in
theorem creationState_of_creation {state : CreationState γ}
    (h : w.creations[index]? = some { token, state }) : w.creationState index = some state := by
  rw [creationState, h]
  rfl

theorem Follows.concludes {state : CreationState γ} {k : Nat} {moment : Instant}
    (h : w.Follows t same cut index token) (hRegards : Dialer.Regards t.endpointId same)
    (hClear : t.Clear cut) (hHears : w.Hears cut token)
    (hOutcome : t.Outcome cut state k moment) :
    w.Concludes index same cut token t k state moment := by
  obtain ⟨state', hCreation, hStage⟩ := h.stage
  have hState := creationState_of_creation hCreation
  refine ⟨fun s hRunning => ?_, fun hEnded => ?_⟩
  · cases hState.symm.trans hRunning
    obtain ⟨hFirst, hAllowance⟩ := hStage.allowance
    obtain ⟨acts, hRun, hEnd, hNow⟩ := h.finishes hRegards hClear hHears hOutcome hCreation
    exact ⟨hStage.running_le hOutcome, hFirst, hAllowance, acts, hRun,
      creationState_of_creation hEnd, hNow⟩
  · have hOver : state'.isLive = false := by
      cases state' with
      | running s => exact absurd hState (hEnded s)
      | _ => rfl
    obtain ⟨rfl, hLate, hDialed⟩ := hStage.of_over hOver hOutcome
    exact ⟨hState, hLate, hDialed⟩

/-- A sequence of dials to this endpoint that starts now, with this token, comes to that state with
the dial of that number and at that moment, whatever goes on beside it. -/
def CreatesTo (id : String) (token : Option String) (same : δ → δ → Prop) (cut : Option Instant)
    (t : Timetable δ) (k : Nat) (state : CreationState γ) (moment : Instant) (w : World δ γ) :
    Prop :=
  ∀ acts, Conducts w.creations.length same cut token acts (w.perform (.create id token)) →
    ((w.perform (.create id token)).performAll acts).Concludes w.creations.length same cut token t
      k state moment

variable {id : String} {state : CreationState γ} {k : Nat} {moment : Instant}

theorem creates_outcome (hRegards : Dialer.Regards id same) (hTimetable : t = ofStart id w.env)
    (hClear : t.Clear cut) (hOutcome : t.Outcome cut state k moment) :
    w.CreatesTo id token same cut t k state moment := by
  subst hTimetable
  intro acts hRun
  have hStart := create_follows hRegards hClear hRun.hears.first
  exact (hStart.performAll hRegards hClear hRun).concludes hRegards hClear hRun.hears.last hOutcome

/-- A sequence of dials that is never told to stop dials until the first success, or as often as its
tier allows, which is once more than its retries, but never more than `2 ^ 32 - 1` times. It comes to
that connection, or to the error of the last dial; and it takes the time of its dials and one grace
between any two of them, if sleeping takes the time that it is meant to. -/
theorem create_retries (token : Option String) (hRegards : Dialer.Regards id same)
    (hTimetable : t = ofStart id w.env) (hSleep : t.grace.slept = t.grace) :
    t.most = min (w.env.factory.policy.retries t.tier + 1) (2 ^ 32 - 1) ∧
    ∃ k state, 1 ≤ k ∧ k ≤ t.most ∧ (∀ i, i + 1 < k → t.Fails i) ∧
      ((∃ connection, t.answer (k - 1) = .ok connection ∧ state = .connected connection) ∨
        k = t.most ∧ ∃ error, t.answer (k - 1) = .error error ∧
          state = .failed (.exhausted id t.most error)) ∧
      w.CreatesTo id token same none t k state
        (w.env.now + ((List.range k).map fun i => (t.launch i).delay).sum + (k - 1) * t.grace) := by
  have hEndpoint : t.endpointId = id := congrArg Timetable.endpointId hTimetable
  have hStart : t.start = w.env.now := congrArg Timetable.start hTimetable
  have hPolicy : t.policy = w.env.factory.policy := congrArg Timetable.policy hTimetable
  refine ⟨by rw [most, hPolicy]; rfl, ?_⟩
  have hClear : t.Clear none := ⟨nofun, nofun⟩
  obtain ⟨state, k, moment, hOutcome⟩ := (reaches_zero t none).exists_outcome
  obtain ⟨n, rfl, hReaches, _⟩ := hOutcome.reaches
  have hMoment : moment = w.env.now + ((List.range (n + 1)).map fun i => (t.launch i).delay).sum +
      n * t.grace := by
    rw [← hStart, ← hSleep, ← lands_eq]
    cases hOutcome with
    | connected | exhausted => rfl
    | cancelled _ told => nomatch told
  refine ⟨n + 1, state, Nat.le_add_left .., hReaches.allowed,
    fun i hi => hReaches.fails i (Nat.lt_of_succ_lt_succ hi), ?_, ?_⟩
  · cases hOutcome with
    | connected _ answers => exact Or.inl ⟨_, answers, rfl⟩
    | exhausted _ answers last =>
        exact Or.inr ⟨last, _, answers, by rw [hEndpoint, last]⟩
    | cancelled _ told => nomatch told
  · exact hMoment ▸ creates_outcome hRegards hTimetable hClear hOutcome

/-- A sequence of dials that is told to stop at the moment `c`, by its token or because the factory
shuts down, stops in the first wait that is not over by then: after the dial before it, at that
moment or when the dial has failed. If there is no such wait, it comes to what it would have come to
without being told. So a dial in the air is awaited, its connection is handed over, and the failure
of the last dial allowed is that of the sequence. -/
theorem create_cancelled (token : Option String) {c : Instant} (hRegards : Dialer.Regards id same)
    (hTimetable : t = ofStart id w.env) (hSleep : t.grace.slept = t.grace) (hGrace : 0 < t.grace)
    (hApart : ∀ n, (∀ i ≤ n, t.Fails i) → n + 1 < t.most → c ≠ t.lands n + t.grace) :
    (∀ n, (∀ i ≤ n, t.Fails i) → n + 1 < t.most → c < t.lands n + t.grace →
      (∀ i < n, t.lands i + t.grace ≤ c) →
      w.CreatesTo id token same (some c) t (n + 1) (.failed (.cancelled id (n + 1)))
        (max c (t.lands n))) ∧
    ((∀ n, (∀ i ≤ n, t.Fails i) → n + 1 < t.most → t.lands n + t.grace ≤ c) →
      ∀ k state moment, t.Outcome none state k moment →
        w.CreatesTo id token same (some c) t k state moment) ∧
    (∀ n connection, n < t.most → (∀ i < n, t.Fails i ∧ t.lands i + t.grace ≤ c) →
      t.answer n = .ok connection →
      w.CreatesTo id token same (some c) t (n + 1) (.connected connection) (t.lands n)) ∧
    ∀ n error, n + 1 = t.most → (∀ i < n, t.Fails i ∧ t.lands i + t.grace ≤ c) →
      t.answer n = .error error →
      w.CreatesTo id token same (some c) t t.most (.failed (.exhausted id t.most error))
        (t.lands n) := by
  have hEndpoint : t.endpointId = id := congrArg Timetable.endpointId hTimetable
  have hClear : t.Clear (some c) := by
    refine ⟨fun _ _ => hGrace, fun n moment hRetries hCut => ?_⟩
    cases hCut
    rw [hSleep]
    exact hApart n (fun i hi => hRetries.fails_le hi) hRetries.more
  have hReaches {n : Nat} (hAllowed : n < t.most) (hFails : ∀ i < n, t.Fails i)
      (hWaits : ∀ i < n, t.lands i + t.grace ≤ c) : t.Reaches (some c) n := by
    refine ⟨hAllowed, hFails, fun i hi moment hCut => ?_⟩
    cases hCut
    exact hSleep.symm ▸ hWaits i hi
  refine ⟨fun n hFails hMore hEarly hWaits => ?_, fun hWaits k state moment hOutcome => ?_,
    fun n connection hAllowed hBefore hAnswer => ?_, fun n error hLast hBefore hAnswer => ?_⟩
  · have hRetries : t.Retries (some c) n :=
      ⟨hReaches (Nat.lt_of_succ_lt hMore) (fun i hi => hFails i (Nat.le_of_lt hi)) hWaits,
        hFails n (Nat.le_refl n), hMore⟩
    rw [← hSleep] at hEarly
    rw [← hEndpoint] at hRegards hTimetable ⊢
    exact creates_outcome hRegards hTimetable hClear (.cancelled hRetries rfl hEarly)
  · refine creates_outcome hRegards hTimetable hClear (hOutcome.cut_late fun n hRetries => ?_)
    rintro _ ⟨⟩
    rw [hSleep]
    exact hWaits n (fun i hi => hRetries.fails_le hi) hRetries.more
  · have hThere := hReaches hAllowed (fun i hi => (hBefore i hi).1) fun i hi => (hBefore i hi).2
    exact creates_outcome hRegards hTimetable hClear (.connected hThere hAnswer)
  · have hThere := hReaches (Nat.lt_of_succ_le (Nat.le_of_eq hLast)) (fun i hi => (hBefore i hi).1)
      fun i hi => (hBefore i hi).2
    have hOutcome := Outcome.exhausted hThere hAnswer hLast
    rw [hEndpoint, hLast] at hOutcome
    exact creates_outcome hRegards hTimetable hClear hOutcome

end Performing

end World

namespace ScriptedDialer

/-- The dialers follow one script for the endpoint and are at the same place in it. -/
structure SameTo (id : String) (d d' : ScriptedDialer γ) : Prop where
  fallback : d'.fallback = d.fallback
  cues : d'.cues.get? id = d.cues.get? id
  launched : d'.launched.get? id = d.launched.get? id

theorem SameTo.cue_eq {id : String} {d d' : ScriptedDialer γ} (h : d.SameTo id d') (number : Nat) :
    d'.cue id number = d.cue id number := by
  unfold cue
  rw [h.cues, h.fallback]

theorem regards (id : String) : Dialer.Regards id (SameTo (γ := γ) id) where
  refl d := ⟨rfl, rfl, rfl⟩
  trans first second := ⟨second.fallback.trans first.fallback, second.cues.trans first.cues,
    second.launched.trans first.launched⟩
  ticket h := congrArg (·.getD 0) h.launched
  delay {d d'} h := by
    show (d'.cue id ((d'.launched.get? id).getD 0)).delay.slept = _
    rw [h.launched, h.cue_eq]
    rfl
  launch {d d'} h := by
    refine ⟨h.fallback, h.cues, ?_⟩
    show (d'.launched.insert id _).get? id = (d.launched.insert id _).get? id
    rw [Table.get?_insert, Table.get?_insert, if_pos rfl, if_pos rfl, h.launched]
  answer ticket h := congrArg Cue.answer (h.cue_eq ticket)
  land ticket h := h

end ScriptedDialer

namespace World

/-- Two dials that fail, and then one that connects. -/
def script : ScriptedDialer Nat :=
  { cues := [("a", [{ delay := 3, answer := .error (.refused "busy") },
      { delay := 4, answer := .error (.refused "busy") }, { delay := 5, answer := .ok 7 }])]
    fallback := 0 }

def scripted : World (ScriptedDialer Nat) Nat :=
  { env := { factory := { dialer := script, policy := { initialGrace := 10 } } } }

def scriptTimes : Timetable (ScriptedDialer Nat) := .ofStart "a" scripted.env

theorem scriptTimes_third : ¬scriptTimes.Fails 2 := by
  rintro ⟨error, hError⟩
  cases (rfl : scriptTimes.answer 2 = .ok 7).symm.trans hError

/-- The sequence that the script is for, just started. -/
def scriptStarted : World (ScriptedDialer Nat) Nat := scripted.perform (.create "a" none)

theorem scriptStarted_running : scriptStarted.creationState 0 =
    some (.running
      { endpointId := "a", tier := .initial, attempt := 1, remaining := 4,
        phase := .flying 0 3 }) := rfl

theorem script_connects : ∃ acts,
    (scriptStarted.performAll acts).creationState 0 = some (.connected 7) ∧
      (scriptStarted.performAll acts).env.now = 3 + 10 + 4 + 10 + 5 := by
  obtain ⟨_, k, state, hPos, _, hFails, hEnd, hComes⟩ :=
    create_retries (w := scripted) (t := scriptTimes) none (ScriptedDialer.regards "a") rfl rfl
  have hLast : k ≤ 3 := by
    by_contra hMany
    exact scriptTimes_third (hFails 2 (by omega))
  have hMost : scriptTimes.most = 5 := rfl
  obtain ⟨connection, hAnswer, rfl⟩ := hEnd.resolve_right fun hAll => by omega
  have hThird : k = 3 := by
    by_contra hOther
    obtain rfl | rfl : k = 1 ∨ k = 2 := by omega
    · cases (rfl : scriptTimes.answer 0 = .error (.refused "busy")).symm.trans hAnswer
    · cases (rfl : scriptTimes.answer 1 = .error (.refused "busy")).symm.trans hAnswer
  subst hThird
  cases (rfl : scriptTimes.answer 2 = .ok 7).symm.trans hAnswer
  have hUntold : scriptStarted.isTold none = false := rfl
  have hHears : scriptStarted.Hears none none :=
    ⟨fun hTold => absurd hTold (by simp [hUntold]), nofun⟩
  obtain ⟨_, _, _, acts, _, hState, hNow⟩ :=
    (hComes [] (.nil hHears)).running _ scriptStarted_running
  exact ⟨acts, hState, hNow⟩

/-- Told to stop while its second dial is in the air, the sequence waits for it to land. -/
theorem script_cancelled : ∃ acts,
    (scriptStarted.performAll acts).creationState 0 = some (.failed (.cancelled "a" 2)) ∧
      (scriptStarted.performAll acts).env.now = 17 := by
  have hFails : ∀ i ≤ 1, scriptTimes.Fails i := by
    intro i hi
    obtain rfl | rfl : i = 0 ∨ i = 1 := by omega
    · exact ⟨.refused "busy", rfl⟩
    · exact ⟨.refused "busy", rfl⟩
  have hApart : ∀ n, (∀ i ≤ n, scriptTimes.Fails i) → n + 1 < scriptTimes.most →
      15 ≠ scriptTimes.lands n + scriptTimes.grace := by
    intro n hBefore _
    have hEarly : n < 2 := by
      by_contra hLate
      exact scriptTimes_third (hBefore 2 (by omega))
    obtain rfl | rfl : n = 0 ∨ n = 1 := by omega
    · decide
    · decide
  obtain ⟨hStops, _⟩ := create_cancelled (w := scripted) (t := scriptTimes) none
    (ScriptedDialer.regards "a") rfl rfl (by decide) hApart
  have hComes := hStops 1 hFails (by decide) (by decide) fun i hi => by
    obtain rfl : i = 0 := by omega
    decide
  have hUntold : scriptStarted.isTold none = false := rfl
  have hHears : scriptStarted.Hears (some 15) none := by
    refine ⟨fun hTold => absurd hTold (by simp [hUntold]), fun _ moment hCut => ?_⟩
    cases hCut
    exact Nat.zero_le _
  obtain ⟨_, _, _, acts, _, hState, hNow⟩ :=
    (hComes [] (.nil hHears)).running _ scriptStarted_running
  exact ⟨acts, hState, hNow⟩

end World

end Tether
