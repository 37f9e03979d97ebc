import Tether.Proofs.Borrows
import Tether.Proofs.Breaking
import Tether.Proofs.Notes

/-! What an act leaves alone. It changes the pool that it concerns; every other pool it can only
scan, where that pool is the probed one. The sequences of dials that callers run on the factory are
left alone by all acts but those on them, and the settings of the factory by all acts but one. -/

namespace Tether

variable {δ γ : Type}

/-- The act is one on the pool with this number, on a request of it or on a handle that it made. -/
def Act.Concerns (number : Nat) : Act δ → Prop
  | .abandon pool | .get pool _ | .resume pool _ | .drop pool _ | .report pool _ _
  | .evictIdle pool | .wake pool | .reap pool | .close pool | .hold pool _ => pool = number
  | .release _ handle | .borrow handle | .giveBack handle | .connection handle =>
    handle.home = number
  | _ => False

/-- The act is one on a sequence of dials that a caller runs on the factory. -/
def Act.Creates : Act δ → Prop
  | .create .. | .resumeCreation _ | .dropCreation _ => True
  | _ => False

/-- A step that does not come near the factory leaves its settings alone. -/
theorem Surroundings.Apart.configured {allowed : Event → Prop} {env env' : Surroundings δ}
    (h : Apart allowed env env') : Configured env env' :=
  ⟨congrArg Factory.policy h.factory, congrArg Factory.shutdown h.factory⟩

namespace World

open Surroundings Pool

variable {α : Type} {w w' : World δ γ} {number : Nat} {p : Pool γ}

/-! ### Pools that an act does not concern -/

/-- The pool is where it was, and only scanned, if it is the probed one. -/
def Spared (w : World δ γ) (number : Nat) (p : Pool γ) (w' : World δ γ) : Prop :=
  ∃ p', w'.pools[number]? = some p' ∧ Scanned (w.probed = some number) w.env.shown p p'

/-- An act that leaves the pools as they are spares every one of them. -/
theorem spared_of_pools (hp : w.pools[number]? = some p) (hPools : w'.pools = w.pools) :
    w.Spared number p w' :=
  ⟨p, hPools ▸ hp, .refl p⟩

/-- A change to another pool spares this one. -/
theorem spared_updatePool {other : Nat} (hOther : other ≠ number) (f : Pool γ → Pool γ)
    (h : w.Spared number p w') : w.Spared number p (w'.updatePool other f) := by
  obtain ⟨q, hq, hScanned⟩ := h
  exact ⟨q, (List.getElem?_modify_ne f w'.pools hOther).trans hq, hScanned⟩

/-- A reading of the clock outside all pools can bring scans of the probed pool, and nothing else.
-/
theorem spared_reading (hp : w.pools[number]? = some p) : w.Spared number p w.reading.2 :=
  (probeElsewhere_spec 1 w).pools number p hp

/-- A call on a handle of another pool reads the clock and changes that handle. -/
theorem spared_use {ref : HandleRef} (hOther : ref.home ≠ number)
    (f : Instant → Handle γ → α × Handle γ) (hp : w.pools[number]? = some p) :
    w.Spared number p (w.use ref f).2 := by
  by_cases hNone : w.env.shown = none ∨ w.handle? ref = none
  · rw [use_of_none f hNone]
    exact spared_reading hp
  · rw [not_or, ← ne_eq, ← ne_eq, Option.ne_none_iff_exists', Option.ne_none_iff_exists'] at hNone
    obtain ⟨⟨now, hShown⟩, h, hHandle⟩ := hNone
    rw [use_of_shown f hShown hHandle]
    exact spared_updatePool hOther _ (spared_reading hp)

theorem spared_giveBack {ref : HandleRef} (hOther : ref.home ≠ number)
    (hp : w.pools[number]? = some p) : w.Spared number p (w.giveBack ref).2 := by
  obtain ⟨q, hq, hScanned⟩ := spared_use hOther Handle.release hp
  exact ⟨q, (congrArg (·[number]?) (giveBack_pools w ref)).trans hq, hScanned⟩

/-- An operation on another pool spares this one, whatever it notes. Scans of the probed pool come
with the readings it makes. -/
theorem spared_visit {other : Nat} {allowed : Pool γ → Event → Prop}
    {f : Site δ γ → α × Site δ γ} (hOther : other ≠ number) (hp : w.pools[number]? = some p)
    (hNoted : ∀ q, Recorded (allowed q) (w.site other q).env (f (w.site other q)).2.env) :
    w.Spared number p (w.visit other f).2 := by
  cases hPool : w.pools[other]? with
  | none =>
      rw [visit_of_none hPool]
      exact spared_of_pools hp rfl
  | some q =>
      have hAny : Recorded (Event.StartsOnly fun _ => True) (w.site other q).env
          (f (w.site other q)).2.env := (hNoted q).mono fun _ _ _ _ => trivial
      exact (visit_spec hPool f hAny).2.others number p (Ne.symm hOther) hp

/-! ### What lies beside the pools -/

/-- Beside the pools nothing changed but the record, the dialer and which endpoints were ever
dialed. -/
structure Beside (w w' : World δ γ) : Prop where
  now : w'.env.now = w.env.now
  clock : w'.env.clock = w.env.clock
  settings : Configured w.env w'.env
  creations : w'.creations = w.creations
  cancelled : w'.cancelled = w.cancelled
  probed : w'.probed = w.probed

theorem Beside.refl (w : World δ γ) : Beside w w := ⟨rfl, rfl, .refl _, rfl, rfl, rfl⟩

theorem Beside.trans {w'' : World δ γ} (first : Beside w w') (second : Beside w' w'') :
    Beside w w'' :=
  ⟨second.now.trans first.now, second.clock.trans first.clock,
    first.settings.trans second.settings, second.creations.trans first.creations,
    second.cancelled.trans first.cancelled, second.probed.trans first.probed⟩

/-- Scans stay within the pools. The induction is on the readings of the clock that bring them. -/
theorem probeElsewhere_beside (count : Nat) (w : World δ γ) :
    Beside w (w.probeElsewhere count) := by
  induction count generalizing w with
  | zero =>
      rw [probeElsewhere_zero]
      exact .refl w
  | succ count ih =>
      unfold probeElsewhere
      split
      · next hCount _ =>
        cases hCount
        split
        · next number _ _ pool _ =>
          let s : Site δ γ := Site.probe false { env := w.env, pool }
          let scanned : World δ γ := { w with env := s.env, pools := w.pools.set number s.pool }
          have hStill := (Site.probe_spec false { env := w.env, pool }).1
          have hScanned : Beside w scanned :=
            ⟨hStill.now, hStill.clock, hStill.configured, rfl, rfl, rfl⟩
          exact hScanned.trans (ih scanned)
        · exact .refl w
      · exact .refl w

/-- An operation on a pool changes beside the pools only what the operation itself does. -/
theorem visit_beside {allowed : Pool γ → Event → Prop} {f : Site δ γ → α × Site δ γ}
    (hNoted : ∀ q, Recorded (allowed q) (w.site number q).env (f (w.site number q)).2.env)
    (hSettings : ∀ q, Configured (w.site number q).env (f (w.site number q)).2.env) :
    Beside w (w.visit number f).2 := by
  cases hPool : w.pools[number]? with
  | none =>
      rw [visit_of_none hPool]
      exact .refl w
  | some q =>
      have hVisit : Beside w { w with
          env := (f (w.site number q)).2.env
          pools := w.pools.set number (f (w.site number q)).2.pool } :=
        ⟨(hNoted q).now, (hNoted q).clock, ⟨(hSettings q).policy, (hSettings q).shutdown⟩, rfl, rfl,
          rfl⟩
      unfold visit
      rw [hPool]
      dsimp only
      split
      · exact hVisit
      · exact hVisit.trans (probeElsewhere_beside _ _)

theorem use_beside (ref : HandleRef) (f : Instant → Handle γ → α × Handle γ) (w : World δ γ) :
    Beside w (w.use ref f).2 := by
  have hRead : Beside w w.reading.2 := probeElsewhere_beside 1 w
  unfold use
  split
  · next h =>
    rw [h] at hRead
    exact hRead
  · next h =>
    rw [h] at hRead
    split
    · exact hRead
    · exact hRead.trans ⟨rfl, rfl, .refl _, rfl, rfl, rfl⟩

theorem giveBack_beside (ref : HandleRef) (w : World δ γ) : Beside w (w.giveBack ref).2 := by
  have hUse := use_beside ref Handle.release w
  unfold giveBack
  split
  · next w' h =>
    rw [h] at hUse
    cases w'.handle? ref with
    | none => exact hUse
    | some held => exact hUse.trans ⟨rfl, rfl, configured_note .., rfl, rfl, rfl⟩
  · exact hUse

/-! ### The factory -/

/-- An operation that stays apart from the factory does so with the scans that come in between. -/
theorem visit_factory {allowed : Event → Prop} {f : Site δ γ → α × Site δ γ}
    (hApart : ∀ q, Apart allowed (w.site number q).env (f (w.site number q)).2.env) :
    (w.visit number f).2.env.factory = w.env.factory := by
  cases hPool : w.pools[number]? with
  | none => rw [visit_of_none hPool]
  | some q =>
      unfold visit
      rw [hPool]
      dsimp only
      split
      · exact (hApart q).factory
      · exact (probeElsewhere_spec ..).factory.trans (hApart q).factory

theorem use_factory (ref : HandleRef) (f : Instant → Handle γ → α × Handle γ) (w : World δ γ) :
    (w.use ref f).2.env.factory = w.env.factory := by
  have hRead : w.reading.2.env.factory = w.env.factory := (probeElsewhere_spec 1 w).factory
  unfold use
  split
  · next h =>
    rw [h] at hRead
    exact hRead
  · next h =>
    rw [h] at hRead
    split <;> exact hRead

theorem giveBack_factory (ref : HandleRef) (w : World δ γ) :
    (w.giveBack ref).2.env.factory = w.env.factory := by
  have hUse := use_factory ref Handle.release w
  unfold giveBack
  split
  · next w' h =>
    rw [h] at hUse
    cases w'.handle? ref <;> exact hUse
  · exact hUse

section Performing

variable [Dialer δ γ]

/-- An act spares every pool that it does not concern. -/
theorem perform_elsewhere {act : Act δ} (hAct : ¬act.Concerns number)
    (hp : w.pools[number]? = some p) : w.Spared number p (w.perform act) := by
  cases act with
  | openPool linger =>
      rw [perform_openPool_eq]
      split
      · exact spared_of_pools hp rfl
      · have hBound := (List.getElem?_eq_some_iff.mp hp).1
        exact ⟨p, (List.getElem?_append_left hBound).trans hp, .refl p⟩
  | abandon pool | wake pool | hold pool taken =>
      exact spared_updatePool hAct _ (spared_of_pools hp rfl)
  | get pool id =>
      exact spared_visit hAct hp fun q => Site.get_recorded id (w.site pool q)
  | resume pool request =>
      exact spared_visit (f := fun s => ((), s.resume request)) hAct hp fun q =>
        Site.resume_recorded request (w.site pool q)
  | drop pool request =>
      exact spared_visit (f := fun s => ((), s.drop request)) hAct hp fun q =>
        (Site.drop_serves request (w.site pool q)).toRecorded
  | release pool ref =>
      show w.Spared number p (w.release pool ref).2
      unfold release
      split
      · exact spared_of_pools hp rfl
      · exact spared_giveBack hAct hp
  | report pool ref cause =>
      show w.Spared number p (w.report pool ref cause).2
      unfold report
      split
      · split
        · exact spared_of_pools hp rfl
        · split
          · exact spared_updatePool hAct _ (spared_of_pools hp rfl)
          · exact spared_of_pools hp rfl
      · exact spared_of_pools hp rfl
  | evictIdle pool =>
      exact spared_visit hAct hp fun q => (Site.evictIdle_serves (w.site pool q)).toRecorded
  | reap pool =>
      show w.Spared number p (w.turnReaper pool)
      rw [turnReaper_eq]
      exact spared_visit (f := fun s => ((), s.tend)) hAct hp fun q =>
        (Site.tend_housekeeps (w.site pool q)).toRecorded
  | close pool =>
      exact spared_visit (f := fun s => ((), s.close)) hAct hp fun q =>
        (Site.close_housekeeps (w.site pool q)).toRecorded
  | borrow ref | connection ref => exact spared_use hAct _ hp
  | giveBack ref => exact spared_giveBack hAct hp
  | look => exact spared_reading hp
  | resumeCreation creation =>
      show w.Spared number p (w.resumeCreation creation)
      unfold resumeCreation
      split <;> exact spared_of_pools hp rfl
  | advance span =>
      rw [perform_advance_eq]
      exact spared_of_pools hp rfl
  | create _ _ | dropCreation _ | cancel _ | firstContact _ | shutFactory | order _ | mend
  | pass _ | probe _ => exact spared_of_pools hp rfl

/-- An act on a pool stays within the pools, but for the record and what it dials. -/
theorem perform_beside {act : Act δ} (hAct : act.Concerns number) (w : World δ γ) :
    Beside w (w.perform act) := by
  cases act with
  | abandon _ | wake _ | hold _ _ => exact ⟨rfl, rfl, .refl _, rfl, rfl, rfl⟩
  | get pool id =>
      exact visit_beside (fun q => Site.get_recorded id (w.site pool q)) fun q =>
        Site.get_configured id (w.site pool q)
  | resume pool request =>
      exact visit_beside (f := fun s => ((), s.resume request))
        (fun q => Site.resume_recorded request (w.site pool q)) fun q =>
          Site.resume_configured request (w.site pool q)
  | drop pool request =>
      have hApart (q : Pool γ) := Site.drop_serves request (w.site pool q)
      exact visit_beside (f := fun s => ((), s.drop request)) (fun q => (hApart q).toRecorded)
        fun q => (hApart q).configured
  | release pool ref =>
      show Beside w (w.release pool ref).2
      unfold release
      split
      · exact .refl w
      · exact giveBack_beside ref w
  | report pool ref cause =>
      show Beside w (w.report pool ref cause).2
      unfold report
      split
      · split
        · exact .refl w
        · split <;> exact ⟨rfl, rfl, configured_note .., rfl, rfl, rfl⟩
      · exact .refl w
  | evictIdle pool =>
      have hApart (q : Pool γ) := Site.evictIdle_serves (w.site pool q)
      exact visit_beside (fun q => (hApart q).toRecorded) fun q => (hApart q).configured
  | reap pool =>
      have hApart (q : Pool γ) := Site.tend_housekeeps (w.site pool q)
      show Beside w (w.turnReaper pool)
      rw [turnReaper_eq]
      exact visit_beside (f := fun s => ((), s.tend)) (fun q => (hApart q).toRecorded)
        fun q => (hApart q).configured
  | close pool =>
      have hApart (q : Pool γ) := Site.close_housekeeps (w.site pool q)
      exact visit_beside (f := fun s => ((), s.close)) (fun q => (hApart q).toRecorded)
        fun q => (hApart q).configured
  | borrow ref | connection ref => exact use_beside ref _ w
  | giveBack ref => exact giveBack_beside ref w
  | _ => exact absurd hAct id

/-- Of the acts on a pool only the turns of its requests come near the factory. -/
theorem perform_factory {act : Act δ} (hAct : act.Concerns number)
    (hGet : ∀ id, act ≠ .get number id) (hResume : ∀ index, act ≠ .resume number index)
    (w : World δ γ) : (w.perform act).env.factory = w.env.factory := by
  cases act with
  | get pool id =>
      cases hAct
      exact absurd rfl (hGet id)
  | resume pool request =>
      cases hAct
      exact absurd rfl (hResume request)
  | abandon _ | wake _ | hold _ _ => rfl
  | drop pool request =>
      exact visit_factory (f := fun s => ((), s.drop request)) fun q =>
        Site.drop_serves request (w.site pool q)
  | release pool ref =>
      show (w.release pool ref).2.env.factory = _
      unfold release
      split
      · rfl
      · exact giveBack_factory ref w
  | report pool ref cause =>
      show (w.report pool ref cause).2.env.factory = _
      unfold report
      split
      · split
        · rfl
        · split <;> rfl
      · rfl
  | evictIdle pool => exact visit_factory fun q => Site.evictIdle_serves (w.site pool q)
  | reap pool =>
      show (w.turnReaper pool).env.factory = _
      rw [turnReaper_eq]
      exact visit_factory (f := fun s => ((), s.tend)) fun q => Site.tend_housekeeps (w.site pool q)
  | close pool =>
      exact visit_factory (f := fun s => ((), s.close)) fun q =>
        Site.close_housekeeps (w.site pool q)
  | borrow ref | connection ref => exact use_factory ref _ w
  | giveBack ref => exact giveBack_factory ref w
  | _ => exact absurd hAct id

/-- A pool that is opened, or refused, changes nothing beside the pools. -/
theorem perform_openPool (linger : Duration) (w : World δ γ) :
    Beside w (w.perform (.openPool linger)) := by
  rw [perform_openPool_eq]
  split
  · exact .refl w
  · exact ⟨rfl, rfl, .refl _, rfl, rfl, rfl⟩

/-- Only shutting the factory down changes its settings. -/
theorem perform_configured {act : Act δ} (hAct : act ≠ .shutFactory) (w : World δ γ) :
    Configured w.env (w.perform act).env := by
  by_cases hConcerns : ∃ number, act.Concerns number
  · obtain ⟨number, hConcerns⟩ := hConcerns
    exact (perform_beside hConcerns w).settings
  · cases act with
    | openPool linger => exact (perform_openPool linger w).settings
    | look => exact (probeElsewhere_beside 1 w).settings
    | create id token => exact DialSequence.start_configured ..
    | resumeCreation creation =>
        show Configured w.env (w.resumeCreation creation).env
        unfold resumeCreation
        split
        · exact DialSequence.resume_configured ..
        · exact .refl _
    | firstContact id => exact configured_firstContact id w.env
    | shutFactory => exact absurd rfl hAct
    | order f => exact configured_setDialer ..
    | advance span =>
        rw [perform_advance_eq]
        exact ⟨rfl, rfl⟩
    | dropCreation _ | cancel _ | mend | pass _ | probe _ => exact ⟨rfl, rfl⟩
    | _ => exact absurd ⟨_, rfl⟩ hConcerns

/-- Only acts on them change the sequences of dials that callers run on the factory. -/
theorem perform_creations {act : Act δ} (hAct : ¬act.Creates) (w : World δ γ) :
    (w.perform act).creations = w.creations := by
  by_cases hConcerns : ∃ number, act.Concerns number
  · obtain ⟨number, hConcerns⟩ := hConcerns
    exact (perform_beside hConcerns w).creations
  · cases act with
    | openPool linger => exact (perform_openPool linger w).creations
    | look => exact (probeElsewhere_beside 1 w).creations
    | create _ _ | resumeCreation _ | dropCreation _ => exact absurd trivial hAct
    | advance span =>
        rw [perform_advance_eq]
    | cancel _ | firstContact _ | shutFactory | order _ | mend | pass _ | probe _ => rfl
    | _ => exact absurd ⟨_, rfl⟩ hConcerns

end Performing

end World

end Tether
