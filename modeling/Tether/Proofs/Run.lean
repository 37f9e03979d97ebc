import Tether.Proofs.Change
import Tether.World.Settle

/-! Runs of a world: any acts in any order, from a world without pools. Main statement: seen from
one pool, every act is a number of scans followed by one change. -/

namespace Tether

variable {δ γ : Type}

/-- A clock that has gone past every moment shows the last one there is. Any other is as it was. -/
def Clock.mended : Clock → Clock
  | system => system
  | manual elapsed => manual (min elapsed (Instant.limit - 1))

namespace World

open Surroundings Pool

section Performing

variable [Dialer δ γ]

/-- Let one act happen. An act on a pool, a request or a handle that is not there does nothing. -/
def perform (act : Act δ) (w : World δ γ) : World δ γ :=
  match act with
  | .openPool linger =>
    match w.openPool linger with
    | .ok (_, w) => w
    | .error _ => w
  | .abandon pool => w.updatePool pool fun p => { p with abandoned := true }
  | .get pool id => (w.visit pool (Site.get id)).2
  | .resume pool request => w.visit' pool (Site.resume request)
  | .drop pool request => w.visit' pool (Site.drop request)
  | .release pool handle => (w.release pool handle).2
  | .report pool handle cause => (w.report pool handle cause).2
  | .evictIdle pool => (w.visit pool Site.evictIdle).2
  | .wake pool => w.updatePool pool Pool.wake
  | .reap pool => w.turnReaper pool
  | .close pool => w.visit' pool Site.close
  | .hold pool taken => w.updatePool pool fun p => { p with busy := taken }
  | .borrow handle => (w.borrow handle).2
  | .giveBack handle => (w.giveBack handle).2
  | .connection handle => (w.connection handle).2
  | .look => w.reading.2
  | .create id token => (w.create id token).2
  | .resumeCreation creation => w.resumeCreation creation
  | .dropCreation creation => w.dropCreation creation
  | .cancel token => { w with cancelled := token :: w.cancelled }
  | .firstContact id => { w with env := (w.env.firstContact id).2 }
  | .shutFactory =>
    { w with env := { w.env with factory := { w.env.factory with shutdown := true } } }
  | .order f => { w with env := w.env.setDialer (f w.env.factory.dialer) }
  | .advance span =>
    match w.env.clock.advance span with
    | some clock => { w with env := { w.env with clock } }
    | none => w
  | .mend => { w with env := { w.env with clock := w.env.clock.mended } }
  | .pass moment => w.passTo moment
  | .probe pool => { w with probed := pool }

/-- A pool is opened at the end of the pools, unless its linger is zero. -/
theorem perform_openPool_eq (linger : Duration) (w : World δ γ) :
    w.perform (.openPool linger) =
      if linger = 0 then w else { w with pools := w.pools ++ [{ linger }] } := by
  by_cases h : linger = 0 <;> simp [perform, openPool, Pool.ofLinger, Except.map, h]

/-- A clock that cannot be advanced so far stays as it is. -/
theorem perform_advance_eq (span : Duration) (w : World δ γ) :
    w.perform (.advance span) =
      { w with env := { w.env with clock := (w.env.clock.advance span).getD w.env.clock } } := by
  cases h : w.env.clock.advance span <;> simp [perform, h]

/-- Let acts happen one after another. -/
def performAll (acts : List (Act δ)) (w : World δ γ) : World δ γ :=
  acts.foldl (fun w act => w.perform act) w

/-- How many acts of a run are of a kind, each judged in the world that it meets. -/
def countAlong (kind : World δ γ → Act δ → Bool) : List (Act δ) → World δ γ → Nat
  | [], _ => 0
  | act :: rest, w => (kind w act).toNat + countAlong kind rest (w.perform act)

/-- A world that some run leads to. It begins without pools, with whatever dialer, clock and record.
-/
def Reachable (w : World δ γ) : Prop :=
  ∃ (env : Surroundings δ) (acts : List (Act δ)), w = World.performAll acts { env }

theorem Reachable.perform {w : World δ γ} (h : w.Reachable) (act : Act δ) :
    (w.perform act).Reachable := by
  obtain ⟨env, acts, rfl⟩ := h
  exact ⟨env, acts ++ [act], by simp [performAll]⟩

theorem Reachable.performAll {w : World δ γ} (h : w.Reachable) (acts : List (Act δ)) :
    (w.performAll acts).Reachable := by
  induction acts generalizing w with
  | nil => exact h
  | cons act rest ih => exact ih (h.perform act)

end Performing

/-- The act scans the pool with this number on its own account or at probed readings. -/
def Scans (w : World δ γ) (number : Nat) (act : Act δ) : Prop :=
  act = .evictIdle number ∨ act = .reap number ∨ w.probed = some number

/-- The pool as an operation on it finds it. -/
def site (w : World δ γ) (number : Nat) (p : Pool γ) : Site δ γ :=
  { env := { w.env with probing := w.probed == some number, readings := 0 }, pool := p }

/-! ### Scans at readings made for others -/

/-- Nothing happened but scans of the probed pool. -/
structure ScannedTo (w w' : World δ γ) : Prop where
  record : Recorded Event.StartsNone w.env w'.env
  factory : w'.env.factory = w.env.factory
  probed : w'.probed = w.probed
  length : w'.pools.length = w.pools.length
  pools : ∀ number p, w.pools[number]? = some p → ∃ p', w'.pools[number]? = some p' ∧
    Scanned (w.probed = some number) w.env.shown p p'

theorem ScannedTo.refl (w : World δ γ) : ScannedTo w w :=
  ⟨.refl _, rfl, rfl, rfl, fun _ p hp => ⟨p, hp, .refl p⟩⟩

theorem probeElsewhere_spec (count : Nat) (w : World δ γ) :
    ScannedTo w (w.probeElsewhere count) := by
  induction count generalizing w with
  | zero => exact .refl w
  | succ count ih =>
      unfold probeElsewhere
      split
      · next count' number hCount hProbed =>
        cases hCount
        split
        · next pool hPool =>
          obtain ⟨hStill, hScanned⟩ := Site.probe_spec false { env := w.env, pool }
          have hRest := ih { w with
            env := (Site.probe false { env := w.env, pool }).env
            pools := w.pools.set number (Site.probe false { env := w.env, pool }).pool }
          refine ⟨hStill.toRecorded.trans hRest.record, hRest.factory.trans hStill.factory,
            hRest.probed, hRest.length.trans List.length_set, ?_⟩
          intro other p hp
          by_cases hOther : number = other
          · subst hOther
            cases hPool.symm.trans hp
            have hBound := (List.getElem?_eq_some_iff.mp hPool).1
            obtain ⟨p', hp', hScanned'⟩ := hRest.pools number _
              (List.getElem?_set_self hBound)
            exact ⟨p', hp', (hScanned.mono fun _ => hProbed).trans (hStill.shown ▸ hScanned')⟩
          · obtain ⟨p', hp', hScanned'⟩ := hRest.pools other p
              ((List.getElem?_set_ne hOther).trans hp)
            exact ⟨p', hp', hStill.shown ▸ hScanned'⟩
        · exact .refl w
      · exact .refl w

/-- The world after a visit to the pool with this number that ended at the site `s`. All that
happened to other pools are scans. -/
structure Visited (kind : String → Prop) (number : Nat) (s : Site δ γ) (w w' : World δ γ) :
    Prop where
  record : Recorded (Event.StartsOnly kind) w.env w'.env
  factory : w'.env.factory = s.env.factory
  probed : w'.probed = w.probed
  length : w'.pools.length = w.pools.length
  pool : w'.pools[number]? = some s.pool
  others : ∀ other q, other ≠ number → w.pools[other]? = some q →
    ∃ q', w'.pools[other]? = some q' ∧ Scanned (w.probed = some other) w.env.shown q q'

theorem visit_spec {α : Type} {kind : String → Prop} {w : World δ γ} {number : Nat} {p : Pool γ}
    (hp : w.pools[number]? = some p) (f : Site δ γ → α × Site δ γ)
    (hNoted : Recorded (Event.StartsOnly kind) (w.site number p).env
      (f (w.site number p)).2.env) :
    (w.visit number f).1 = some (f (w.site number p)).1 ∧
      Visited kind number (f (w.site number p)).2 w (w.visit number f).2 := by
  have hSite : Recorded (Event.StartsOnly kind) w.env (w.site number p).env :=
    ⟨rfl, rfl, [], rfl, by simp⟩
  have hBound := (List.getElem?_eq_some_iff.mp hp).1
  let s : Site δ γ := (f (w.site number p)).2
  let visited : World δ γ := { w with env := s.env, pools := w.pools.set number s.pool }
  have hVisit : w.visit number f = (some (f (w.site number p)).1,
      if w.probed == some number then visited else visited.probeElsewhere s.env.readings) := by
    unfold visit
    rw [hp]
    rfl
  have hSelf : visited.pools[number]? = some s.pool := List.getElem?_set_self hBound
  have hOthers (other : Nat) (hOther : other ≠ number) :
      visited.pools[other]? = w.pools[other]? := List.getElem?_set_ne hOther.symm
  rw [hVisit]
  refine ⟨rfl, ?_⟩
  by_cases hProbing : w.probed = some number
  · simp only [hProbing, beq_self_eq_true, ↓reduceIte]
    refine ⟨hSite.trans hNoted, rfl, rfl, List.length_set, hSelf, ?_⟩
    intro other q hOther hq
    exact ⟨q, (hOthers other hOther).trans hq, .refl q⟩
  · simp only [beq_eq_false_iff_ne.mpr hProbing, Bool.false_eq_true, ↓reduceIte]
    have hRest := probeElsewhere_spec s.env.readings visited
    refine ⟨(hSite.trans hNoted).trans hRest.record.startsOnly, hRest.factory,
      hRest.probed, hRest.length.trans List.length_set, ?_, ?_⟩
    · obtain ⟨q, hq, hScanned⟩ := hRest.pools number s.pool hSelf
      rcases hScanned with rfl | ⟨hProbed, _⟩
      · exact hq
      · exact absurd hProbed hProbing
    · intro other q hOther hq
      obtain ⟨q', hq', hScanned⟩ := hRest.pools other q ((hOthers other hOther).trans hq)
      have hShown : visited.env.shown = w.env.shown := (hSite.trans hNoted).shown
      exact ⟨q', hq', hShown ▸ hScanned⟩

theorem visit_of_none {α : Type} {w : World δ γ} {number : Nat} (h : w.pools[number]? = none)
    (f : Site δ γ → α × Site δ γ) : w.visit number f = (none, w) := by
  unfold visit
  rw [h]

theorem probeElsewhere_zero (w : World δ γ) : w.probeElsewhere 0 = w := by
  unfold probeElsewhere
  rfl

/-- A visit that does not read the clock touches no other pool. -/
theorem visit_of_unread {α : Type} {w : World δ γ} {number : Nat} {p : Pool γ}
    (hp : w.pools[number]? = some p) (f : Site δ γ → α × Site δ γ)
    (hUnread : (f (w.site number p)).2.env.readings = 0) :
    w.visit number f = (some (f (w.site number p)).1,
      { w with
        env := (f (w.site number p)).2.env
        pools := w.pools.set number (f (w.site number p)).2.pool }) := by
  unfold visit
  rw [hp]
  dsimp only
  split
  · rfl
  · show (_, probeElsewhere (f (w.site number p)).2.env.readings _) = _
    rw [hUnread, probeElsewhere_zero]
    rfl

/-! ### Acts as they look from one pool -/

/-- The pool has just been opened. -/
def IsNew (p : Pool γ) : Prop := ∃ linger : Duration, p = { linger := linger } ∧ 0 < linger

/-- What a single act can come to. Every pool there is changes as the act allows, a new pool is
empty, and sequences of dials start only to endpoints of this kind. -/
structure Performed (kind : String → Prop) (act : Act δ) (w w' : World δ γ) : Prop where
  events : ∃ fresh, w'.env.events = fresh ++ w.env.events ∧ ∀ e ∈ fresh, Event.StartsOnly kind e
  pools : ∀ number p, w.pools[number]? = some p → ∃ p', w'.pools[number]? = some p' ∧
    Change (w.Scans number act) w.env.shown number act p p'
  opened : ∀ (number : Nat) (p' : Pool γ), w.pools[number]? = none → w'.pools[number]? = some p' →
    IsNew p'

variable {kind : String → Prop} {act : Act δ} {w w' : World δ γ}

theorem opened_of_length (hLength : w'.pools.length = w.pools.length) (number : Nat)
    (p' : Pool γ) (hNone : w.pools[number]? = none) (hSome : w'.pools[number]? = some p') :
    IsNew p' := by
  have hBound := (List.getElem?_eq_some_iff.mp hSome).1
  have hBeyond := List.getElem?_eq_none_iff.mp hNone
  omega

theorem performed_of_pools (hPools : w'.pools = w.pools)
    (hEvents : ∃ fresh, w'.env.events = fresh ++ w.env.events ∧
      ∀ e ∈ fresh, Event.StartsOnly kind e) : Performed kind act w w' :=
  ⟨hEvents, fun _ p hp => ⟨p, hPools ▸ hp, .same p⟩, opened_of_length (congrArg List.length hPools)⟩

/-- A probed reading is one of the scans that an act may make. -/
theorem scans_of_probed {number : Nat} (h : w.probed = some number) : w.Scans number act :=
  Or.inr (Or.inr h)

theorem scans_of_probing {number : Nat} {p : Pool γ} (h : (w.site number p).env.probing = true) :
    w.Scans number act :=
  scans_of_probed (by simpa [site] using h)

theorem ScannedTo.performed (h : ScannedTo w w') : Performed kind act w w' := by
  refine ⟨h.record.startsOnly.events, ?_, opened_of_length h.length⟩
  intro number p hp
  obtain ⟨p', hp', hScanned⟩ := h.pools number p hp
  exact ⟨p', hp', .tended (hScanned.mono scans_of_probed) (.refl p')⟩

theorem ScannedTo.performed_update {number : Nat} {f : Pool γ → Pool γ} (h : ScannedTo w w')
    (hChange : ∀ p q, w'.pools[number]? = some q →
      Scanned (w.Scans number act) w.env.shown p q →
        Change (w.Scans number act) w.env.shown number act p (f q)) :
    Performed kind act w (w'.updatePool number f) := by
  refine ⟨h.record.startsOnly.events, ?_,
    opened_of_length ((List.length_modify ..).trans h.length)⟩
  intro other p hp
  obtain ⟨q, hq, hScanned⟩ := h.pools other p hp
  by_cases hOther : number = other
  · subst hOther
    exact ⟨f q, by simp [updatePool, hq], hChange p q hq (hScanned.mono scans_of_probed)⟩
  · exact ⟨q, by simp [updatePool, hq, hOther],
      .tended (hScanned.mono scans_of_probed) (.refl q)⟩

theorem performed_update {number : Nat} {f : Pool γ → Pool γ}
    (hChange : ∀ p, w.pools[number]? = some p →
      Change (w.Scans number act) w.env.shown number act p (f p)) :
    Performed kind act w (w.updatePool number f) := by
  refine ⟨⟨[], rfl, by simp⟩, ?_, opened_of_length (List.length_modify ..)⟩
  intro other p hp
  by_cases hOther : number = other
  · subst hOther
    exact ⟨f p, by simp [updatePool, hp], hChange p hp⟩
  · exact ⟨p, by simp [updatePool, hp, hOther], .same p⟩

theorem performed_visit {α : Type} {number : Nat} {f : Site δ γ → α × Site δ γ}
    (hNoted : ∀ p, w.pools[number]? = some p →
      Recorded (Event.StartsOnly kind) (w.site number p).env (f (w.site number p)).2.env)
    (hChange : ∀ p, w.pools[number]? = some p →
      Change (w.Scans number act) w.env.shown number act p (f (w.site number p)).2.pool) :
    Performed kind act w (w.visit number f).2 := by
  cases hPool : w.pools[number]? with
  | none =>
      rw [visit_of_none hPool]
      exact performed_of_pools rfl ⟨[], rfl, by simp⟩
  | some p =>
      obtain ⟨_, hVisited⟩ := visit_spec hPool f (hNoted p hPool)
      refine ⟨hVisited.record.events, ?_, opened_of_length hVisited.length⟩
      intro other q hq
      by_cases hOther : other = number
      · subst hOther
        cases hPool.symm.trans hq
        exact ⟨_, hVisited.pool, hChange p hPool⟩
      · obtain ⟨q', hq', hScanned⟩ := hVisited.others other q hOther hq
        exact ⟨q', hq', .tended (hScanned.mono scans_of_probed) (.refl q')⟩

/-- Using a handle reads the clock first; what the use does to the handle depends on nothing else.
-/
theorem use_performed {α : Type} {handle : HandleRef} (f : Instant → Handle γ → α × Handle γ)
    (hChange : ∀ now p q, Scanned (w.Scans handle.home act) w.env.shown p q →
      w.env.shown = some now → Change (w.Scans handle.home act) w.env.shown handle.home act p
        (q.modifyHandle handle.index fun h => (f now h).2)) :
    Performed kind act w (w.use handle f).2 := by
  have hRead : ScannedTo w w.reading.2 := probeElsewhere_spec 1 w
  have hShown : w.reading.1 = w.env.shown := hRead.record.shown
  unfold use
  split
  · next w' h =>
    rw [h] at hRead
    exact hRead.performed
  · next now w' h =>
    rw [h] at hRead hShown
    split
    · exact hRead.performed
    · next held hHandle =>
      refine hRead.performed_update fun p q hq hScanned => ?_
      have hMade : q.handles[handle.index]? = some held := by
        simpa [handle?, hq] using hHandle
      have hList : q.handles.modify handle.index (fun _ => (f now held).2) =
          q.handles.modify handle.index fun h => (f now h).2 := by
        apply List.ext_getElem?
        intro i
        by_cases hi : handle.index = i
        · subst hi
          simp [hMade]
        · simp [hi]
      have hSame : q.modifyHandle handle.index (fun _ => (f now held).2) =
          q.modifyHandle handle.index fun h => (f now h).2 := by
        rw [modifyHandle, hList]
        rfl
      rw [hSame]
      exact hChange now p q hScanned hShown.symm

theorem Performed.note {event : Event} (h : Performed kind act w w')
    (hQuiet : event.StartsNone) :
    Performed kind act w { w' with env := w'.env.note event } := by
  refine ⟨?_, h.pools, h.opened⟩
  obtain ⟨fresh, hFresh, hAllowed⟩ := h.events
  refine ⟨event :: fresh, by simp [Surroundings.note, hFresh], ?_⟩
  intro e he
  rcases List.mem_cons.mp he with rfl | he
  · exact fun id hs => absurd hs (hQuiet id)
  · exact hAllowed e he

theorem openPool_performed {linger : Duration} (hSome : linger ≠ 0) :
    Performed kind act w { w with pools := w.pools ++ [{ linger }] } := by
  refine ⟨⟨[], rfl, by simp⟩, ?_, ?_⟩
  · intro other p hp
    have hBound := (List.getElem?_eq_some_iff.mp hp).1
    exact ⟨p, (List.getElem?_append_left hBound).trans hp, .same p⟩
  · intro other p hNone hp
    rw [List.getElem?_append_right (List.getElem?_eq_none_iff.mp hNone)] at hp
    exact ⟨linger, List.mem_singleton.mp (List.mem_of_getElem? hp), Nat.pos_of_ne_zero hSome⟩

theorem giveBack_performed (handle : HandleRef)
    (hGives : act = .giveBack handle ∨ ∃ pool, act = .release pool handle) :
    Performed kind act w (w.giveBack handle).2 := by
  have hUse : Performed kind act w (w.use handle Handle.release).2 :=
    use_performed Handle.release fun now p q hScanned hShown => .givenBack hScanned hShown hGives
  unfold giveBack
  split
  · next error w' h =>
    rw [h] at hUse
    cases w'.handle? handle with
    | none => exact hUse
    | some held => exact hUse.note (by rintro _ ⟨_, _, ⟨⟩⟩)
  · exact hUse

theorem release_performed (number : Nat) (handle : HandleRef) :
    Performed kind (.release number handle : Act δ) w (w.release number handle).2 := by
  unfold release
  split
  · exact performed_of_pools rfl ⟨[], rfl, by simp⟩
  · exact giveBack_performed handle (Or.inr ⟨number, rfl⟩)

theorem report_performed (number : Nat) (handle : HandleRef) (cause : String) :
    Performed kind (.report number handle cause : Act δ) w (w.report number handle cause).2 := by
  have hSame : Performed kind (.report number handle cause : Act δ) w w :=
    performed_of_pools rfl ⟨[], rfl, by simp⟩
  unfold report
  split
  · next p held hPool hHandle =>
    split
    · exact hSame
    · next hOpen =>
      split
      · next hRegistered =>
        obtain ⟨rfl, hRegistered⟩ := hRegistered
        have hMade : p.handles[handle.index]? = some held := by
          simpa [handle?, hPool] using hHandle
        have hFound : p.registry.get? held.endpointId = some handle.index := by
          simpa [isRegistered, hMade] using hRegistered
        have hUpdate : Performed kind (.report handle.home handle cause : Act δ) w
            (w.updatePool handle.home fun p =>
              { p with registry := p.registry.erase held.endpointId }.count fun c =>
                { c with invalidated := c.invalidated + 1 }) := by
          refine performed_update fun q hq => ?_
          cases hPool.symm.trans hq
          exact .reported (by simpa using hOpen) hMade hFound
        exact hUpdate.note (by rintro _ ⟨_, _, ⟨⟩⟩)
      · exact hSame.note (by rintro _ ⟨_, _, ⟨⟩⟩)
  · exact hSame

/-- A pool that is gone learns it just before its reaper's turn. -/
theorem turnReaper_eq (number : Nat) (w : World δ γ) :
    w.turnReaper number = w.visit' number fun s =>
      (s.update fun p => if isGone p then { p with shutdown := true } else p).reaperTurn := by
  cases hPool : w.pools[number]? with
  | none =>
      have hSame (f : Pool γ → Pool γ) : w.pools.modify number f = w.pools :=
        List.modify_eq_self (List.getElem?_eq_none_iff.mp hPool)
      simp [turnReaper, visit', updatePool, hSame, visit_of_none hPool]
  | some p =>
      have hGot (f : Pool γ → Pool γ) : (w.pools.modify number f)[number]? = some (f p) := by
        simp [hPool]
      have hSet (f : Pool γ → Pool γ) (q : Pool γ) :
          (w.pools.modify number f).set number q = w.pools.set number q := by
        apply List.ext_getElem?
        intro i
        rw [List.getElem?_set, List.getElem?_set, List.length_modify, List.getElem?_modify]
        by_cases hi : number = i
        · rw [if_pos hi, if_pos hi]
        · simp [hi]
      unfold turnReaper visit' visit updatePool
      dsimp only
      rw [hGot, hPool]
      dsimp only
      rw [hSet]
      rfl

/-- Scans of other pools that come with a visit start no sequence of dials. -/
theorem visit_begun {α : Type} {number : Nat} {p : Pool γ} (hp : w.pools[number]? = some p)
    (f : Site δ γ → α × Site δ γ) (id : String) :
    (w.visit number f).2.env.begun id = (f (w.site number p)).2.env.begun id := by
  unfold visit
  rw [hp]
  dsimp only
  split
  · rfl
  · exact (probeElsewhere_spec _ _).record.begun_eq id

/-! ### Time -/

theorem visit_now {α : Type} {number : Nat} {f : Site δ γ → α × Site δ γ}
    (hNow : ∀ p, (f (w.site number p)).2.env.now = w.env.now) :
    (w.visit number f).2.env.now = w.env.now := by
  cases hPool : w.pools[number]? with
  | none => rw [visit_of_none hPool]
  | some p =>
      unfold visit
      rw [hPool]
      dsimp only
      split
      · exact hNow p
      · exact (probeElsewhere_spec _ _).record.now.trans (hNow p)

theorem use_now {α : Type} (ref : HandleRef) (f : Instant → Handle γ → α × Handle γ)
    (w : World δ γ) : (w.use ref f).2.env.now = w.env.now := by
  have hRead : w.reading.2.env.now = w.env.now := (probeElsewhere_spec 1 w).record.now
  unfold use
  split
  · next w' h =>
    rw [h] at hRead
    exact hRead
  · next now w' h =>
    rw [h] at hRead
    split <;> exact hRead

theorem giveBack_now (ref : HandleRef) (w : World δ γ) :
    (w.giveBack ref).2.env.now = w.env.now := by
  have hUse := use_now ref Handle.release w
  unfold giveBack
  split
  · next error w' h =>
    rw [h] at hUse
    cases w'.handle? ref <;> exact hUse
  · exact hUse

section Performing

variable [Dialer δ γ]

/-- No act but the passing of time takes any time. -/
theorem perform_now (w : World δ γ) {act : Act δ} (hAct : ∀ moment, act ≠ .pass moment) :
    (w.perform act).env.now = w.env.now := by
  cases act with
  | openPool linger =>
      rw [perform_openPool_eq]
      split <;> rfl
  | get pool id =>
      exact visit_now (f := Site.get id) fun p => (Site.get_spec pool id _ fun h => h).1.now
  | resume pool request =>
      exact visit_now (f := fun s => ((), s.resume request)) fun p =>
        (Site.resume_spec pool request (w.site pool p) fun h => h).1.now
  | drop pool request =>
      refine visit_now (f := fun s => ((), s.drop request)) fun p => ?_
      rw [(Site.drop_spec pool request True (w.site pool p)).1]
      rfl
  | close pool =>
      exact visit_now (f := fun s => ((), s.close)) fun p =>
        (Site.close_spec pool True (w.site pool p)).1.now
  | evictIdle pool => exact visit_now fun p => (Site.evictIdle_spec (w.site pool p)).1.now
  | reap pool =>
      show (w.turnReaper pool).env.now = w.env.now
      rw [turnReaper_eq]
      exact visit_now fun p => (Site.reaperTurn_spec _).1.now
  | release pool ref =>
      show (w.release pool ref).2.env.now = w.env.now
      unfold release
      split
      · rfl
      · exact giveBack_now ref w
  | report pool ref cause =>
      show (w.report pool ref cause).2.env.now = w.env.now
      unfold report
      split
      · split
        · rfl
        · split <;> rfl
      · rfl
  | borrow ref | connection ref => exact use_now ref _ w
  | giveBack ref => exact giveBack_now ref w
  | look => exact (probeElsewhere_spec 1 w).record.now
  | create id token => exact (DialSequence.start_noted id _ w.env).now
  | resumeCreation creation =>
      show (w.resumeCreation creation).env.now = w.env.now
      unfold resumeCreation
      split
      · exact (DialSequence.resume_noted _ _ w.env).now
      · rfl
  | advance span =>
      rw [perform_advance_eq]
  | pass moment => exact absurd rfl (hAct moment)
  | abandon _ | wake _ | hold _ _ | dropCreation _ | cancel _ | firstContact _ | shutFactory
  | order _ | mend | probe _ => rfl

/-- Time does not go back, whatever happens. -/
theorem now_le_performAll (acts : List (Act δ)) (w : World δ γ) :
    w.env.now ≤ (w.performAll acts).env.now := by
  induction acts generalizing w with
  | nil => exact Nat.le_refl _
  | cons act rest ih =>
      refine Nat.le_trans ?_ (ih _)
      by_cases hPass : ∃ moment, act = .pass moment
      · obtain ⟨moment, rfl⟩ := hPass
        exact Nat.le_max_left _ _
      · exact Nat.le_of_eq (perform_now w (not_exists.mp hPass)).symm

/-- The act lets a sequence of dials to this endpoint begin: one that a caller runs on the factory,
or one of a pool that lacks the endpoint, for a new request or for one that waited. -/
def CanStart (w : World δ γ) (act : Act δ) (id : String) : Prop :=
  (∃ token, act = .create id token) ∨
    ∃ number p, w.pools[number]? = some p ∧ p.Lacks id ∧
      (act = .get number id ∨ ∃ index gate, act = .resume number index ∧
        p.requests[index]? = some { endpointId := id, state := .waiting gate })

theorem perform_get (number : Nat) (id : String) (w : World δ γ) :
    Performed (w.CanStart (.get number id)) (.get number id) w (w.perform (.get number id)) := by
  apply performed_visit
  · intro p hp
    refine (Site.get_spec number id (w.site number p) fun h => h).1.toRecorded.mono ?_
    intro e he other hs
    obtain ⟨rfl, hLacks⟩ := he other hs
    exact Or.inr ⟨number, p, hp, hLacks, Or.inl rfl⟩
  · intro p _
    exact (Site.get_spec number id (w.site number p) scans_of_probing).2

theorem perform_resume (number index : Nat) (w : World δ γ) :
    Performed (w.CanStart (.resume number index)) (.resume number index) w
      (w.perform (.resume number index)) := by
  apply performed_visit
  · intro p hp
    refine (Site.resume_spec number index (w.site number p) fun h => h).1.toRecorded.mono ?_
    intro e he id hs
    obtain ⟨hLacks, gate, hWaits⟩ := he id hs
    exact Or.inr ⟨number, p, hp, hLacks, Or.inr ⟨index, gate, rfl, hWaits⟩⟩
  · intro p _
    exact (Site.resume_spec number index (w.site number p) scans_of_probing).2

theorem perform_reap {kind : String → Prop} (number : Nat) (w : World δ γ) :
    Performed kind (.reap number : Act δ) w (w.perform (.reap number)) := by
  have hTurn (p : Pool γ) : Site.Reaped (w.site number p)
      ((w.site number p).update fun p =>
        if isGone p then { p with shutdown := true } else p).reaperTurn := by
    refine .trans (Site.reaped_of_tended (.refl _) ?_) (Site.reaperTurn_spec _)
    dsimp only
    split
    · exact ⟨_, _, _, _, rfl, id, fun _ => rfl⟩
    · exact .refl _
  show Performed kind (.reap number) w (w.turnReaper number)
  rw [turnReaper_eq]
  apply performed_visit
  · intro p _
    exact (hTurn p).1.toRecorded.startsOnly
  · intro p _
    obtain ⟨_, q, hScanned, hTended⟩ := hTurn p
    exact .tended (hScanned.mono fun _ => Or.inr (Or.inl rfl)) hTended

theorem perform_create {act : Act δ} (id : String) (token : Option String) (w : World δ γ)
    (hAct : act = .create id token) :
    Performed (w.CanStart act) act w (w.create id token).2 := by
  refine performed_of_pools rfl ?_
  refine ((DialSequence.start_noted id (w.isCancelled token) w.env).toRecorded.mono ?_).events
  intro e he other hs
  cases he other hs
  exact Or.inl ⟨token, hAct⟩

theorem perform_resumeCreation {kind : String → Prop} {act : Act δ} (index : Nat)
    (w : World δ γ) : Performed kind act w (w.resumeCreation index) := by
  unfold resumeCreation
  split
  · refine performed_of_pools rfl ?_
    exact (DialSequence.resume_noted ..).toRecorded.startsOnly.events
  · exact performed_of_pools rfl ⟨[], rfl, by simp⟩

/-- What any act comes to, whatever world it meets. -/
theorem perform_spec (act : Act δ) (w : World δ γ) :
    Performed (w.CanStart act) act w (w.perform act) := by
  have hSame : Performed (w.CanStart act) act w w := performed_of_pools rfl ⟨[], rfl, by simp⟩
  cases act with
  | openPool linger =>
      rw [perform_openPool_eq]
      split
      · exact hSame
      · next hSome => exact openPool_performed hSome
  | abandon pool => exact performed_update fun p _ => .tended (.refl p) ⟨_, _, _, _, rfl, id, id⟩
  | get pool id => exact perform_get pool id w
  | resume pool request => exact perform_resume pool request w
  | drop pool request =>
      apply performed_visit
      · intro p _
        exact (Site.drop_spec pool request True (w.site pool p)).1 ▸ .refl _
      · intro p _
        exact (Site.drop_spec pool request _ (w.site pool p)).2
  | release pool handle => exact release_performed pool handle
  | report pool handle cause => exact report_performed pool handle cause
  | evictIdle pool =>
      apply performed_visit
      · intro p _
        exact (Site.evictIdle_spec (w.site pool p)).1.toRecorded.startsOnly
      · intro p _
        obtain ⟨_, hScanned⟩ := Site.evictIdle_spec (w.site pool p)
        exact .tended (hScanned.mono fun _ => Or.inl rfl) (.refl _)
  | wake pool => exact performed_update fun p _ => .tended (.refl p) ⟨_, _, _, _, rfl, id, id⟩
  | reap pool => exact perform_reap pool w
  | close pool =>
      apply performed_visit
      · intro p _
        exact (Site.close_spec pool True (w.site pool p)).1.toRecorded.startsOnly
      · intro p _
        exact (Site.close_spec pool _ (w.site pool p)).2
  | hold pool taken => exact performed_update fun p _ => .held p taken
  | borrow handle => exact use_performed _ fun now p q hScanned hShown => .borrowed hScanned hShown
  | giveBack handle => exact giveBack_performed handle (Or.inl rfl)
  | connection handle =>
      exact use_performed _ fun now p q hScanned hShown => .touched hScanned hShown
  | look => exact (probeElsewhere_spec 1 w).performed
  | create id token => exact perform_create id token w rfl
  | resumeCreation creation => exact perform_resumeCreation creation w
  | advance span =>
      rw [perform_advance_eq]
      exact performed_of_pools rfl ⟨[], rfl, by simp⟩
  | dropCreation _ | cancel _ | firstContact _ | shutFactory | order _ | mend | pass _ | probe _ =>
      exact performed_of_pools rfl ⟨[], rfl, by simp⟩

/-- What every new pool has, and every change keeps, goes on to hold of all pools. -/
theorem performAll_pools {Inv : Pool γ → Prop} (hNew : ∀ p, IsNew p → Inv p)
    (hChange : ∀ allowed clock number (act : Act δ) p p',
      Change allowed clock number act p p' → Inv p → Inv p')
    (acts : List (Act δ)) (w : World δ γ)
    (hInv : ∀ (number : Nat) p, w.pools[number]? = some p → Inv p) (number : Nat) (p : Pool γ)
    (hp : (w.performAll acts).pools[number]? = some p) : Inv p := by
  induction acts generalizing w with
  | nil => exact hInv number p hp
  | cons act rest ih =>
      refine ih (w.perform act) (fun number p' hp' => ?_) hp
      cases hPool : w.pools[number]? with
      | none => exact hNew p' ((perform_spec act w).opened number p' hPool hp')
      | some p =>
          obtain ⟨q, hq, hChanged⟩ := (perform_spec act w).pools number p hPool
          cases hq.symm.trans hp'
          exact hChange _ _ _ act p p' hChanged (hInv number p hPool)

theorem Reachable.pool {Inv : Pool γ → Prop} {w : World δ γ} (hReachable : w.Reachable)
    (hNew : ∀ p, IsNew p → Inv p)
    (hChange : ∀ allowed clock number (act : Act δ) p p',
      Change allowed clock number act p p' → Inv p → Inv p')
    {number : Nat} {p : Pool γ} (hp : w.pools[number]? = some p) : Inv p := by
  obtain ⟨env, acts, rfl⟩ := hReachable
  exact performAll_pools hNew hChange acts { env } (fun _ _ h => by simp at h) number p hp

end Performing

end World

end Tether
