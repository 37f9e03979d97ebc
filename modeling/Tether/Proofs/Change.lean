import Tether.Proofs.Turn
import Tether.World

/-! Everything that can happen in a world, one act at a time, and what a single act can do to a
single pool. Suspended requests and sequences of dials go on in whatever order the acts say: the
order that the rounds of a world keep is one of many. -/

namespace Tether

variable {δ γ : Type}

/-- One thing that happens. Pools, requests and sequences of dials go by their numbers. -/
inductive Act (δ : Type) where
  | openPool (linger : Duration)
  /-- No name leads to the pool any more. -/
  | abandon (pool : Nat)
  | get (pool : Nat) (id : String)
  /-- A suspended request gets a turn. -/
  | resume (pool request : Nat)
  /-- The caller of a suspended request goes away. -/
  | drop (pool request : Nat)
  | release (pool : Nat) (handle : HandleRef)
  | report (pool : Nat) (handle : HandleRef) (cause : String)
  | evictIdle (pool : Nat)
  | wake (pool : Nat)
  /-- The reaper gets a turn. -/
  | reap (pool : Nat)
  | close (pool : Nat)
  /-- Somebody outside takes the registry or lets go of it. -/
  | hold (pool : Nat) (taken : Bool)
  | borrow (handle : HandleRef)
  | giveBack (handle : HandleRef)
  | connection (handle : HandleRef)
  /-- The clock is read for nobody's sake. -/
  | look
  | create (id : String) (token : Option String)
  | resumeCreation (creation : Nat)
  | dropCreation (creation : Nat)
  | cancel (token : String)
  | firstContact (id : String)
  | shutFactory
  /-- The owner of the dialer does something to it. -/
  | order (f : δ → δ)
  /-- A clock moved by hand is moved. -/
  | advance (span : Duration)
  /-- A clock that could not be read can be read again. -/
  | mend
  /-- Time passes. -/
  | pass (moment : Instant)
  /-- From now on a scan of this pool is attempted before every reading of the clock. -/
  | probe (pool : Option Nat)

namespace Pool

/-- The pool differs only in its reaper and in who can still reach it. A reaper that was stopped is
not started again, and no shutdown is taken back. -/
def Tended (p p' : Pool γ) : Prop :=
  ∃ reaper wakes abandoned shutdown, p' = { p with reaper, wakes, abandoned, shutdown } ∧
    (p.reaper = .stopped → reaper = .stopped) ∧ (p.shutdown = true → shutdown = true)

theorem Tended.refl (p : Pool γ) : p.Tended p := ⟨_, _, _, _, rfl, id, id⟩

theorem Tended.trans {p p' p'' : Pool γ} (first : p.Tended p') (second : p'.Tended p'') :
    p.Tended p'' := by
  obtain ⟨_, _, _, _, rfl, hStopped, hShutdown⟩ := first
  obtain ⟨_, _, _, _, rfl, hStopped', hShutdown'⟩ := second
  exact ⟨_, _, _, _, rfl, hStopped' ∘ hStopped, hShutdown' ∘ hShutdown⟩

/-- What an act does to the pool with this number. Scans come before everything else that reads the
clock without the registry locked, if they are `allowed` at all. -/
inductive Change (allowed : Prop) (clock : Option Instant) (number : Nat) :
    Act δ → Pool γ → Pool γ → Prop where
  | tended {act : Act δ} {p q p' : Pool γ} (scanned : Scanned allowed clock p q)
      (same : q.Tended p') : Change allowed clock number act p p'
  | held (p : Pool γ) (taken : Bool) :
      Change allowed clock number (.hold number taken) p { p with busy := taken }
  | entered {id : String} {p p' : Pool γ} {state : RequestState}
      (enters : Entered allowed clock id p state p') :
      Change allowed clock number (.get number id) p
        { p' with requests := p'.requests ++ [{ endpointId := id, state }] }
  | passed {index gate : Nat} {id : String} {p p' : Pool γ} {state : RequestState}
      (waits : p.requests[index]? = some { endpointId := id, state := .waiting gate })
      (passes : Passed allowed clock gate id p state p') :
      Change allowed clock number (.resume number index) p (p'.setRequest index state)
  | followed {index gate : Nat} {id : String} {sequence : DialSequence}
      {progress : DialProgress γ} {p q p' : Pool γ} {state : RequestState}
      (dials : p.requests[index]? = some { endpointId := id, state := .dialing gate sequence })
      (scanned : Scanned allowed clock p q)
      (follows : Followed clock gate id sequence.endpointId q progress state p') :
      Change allowed clock number (.resume number index) p (p'.setRequest index state)
  | left {index gate : Nat} {id : String} {p : Pool γ}
      (waits : p.requests[index]? = some { endpointId := id, state := .waiting gate }) :
      Change allowed clock number (.drop number index) p (p.setRequest index .dropped)
  | gaveUp {index gate : Nat} {id : String} {sequence : DialSequence} {p : Pool γ}
      (dials : p.requests[index]? = some { endpointId := id, state := .dialing gate sequence }) :
      Change allowed clock number (.drop number index) p
        ((p.openGate gate id .givenUp).setRequest index .dropped)
  | borrowed {index : Nat} {now : Instant} {p q : Pool γ} (scanned : Scanned allowed clock p q)
      (shown : clock = some now) :
      Change allowed clock number (.borrow ⟨number, index⟩) p
        (q.modifyHandle index (Handle.borrow now))
  | givenBack {act : Act δ} {index : Nat} {now : Instant} {p q : Pool γ}
      (scanned : Scanned allowed clock p q) (shown : clock = some now)
      (gives : act = .giveBack ⟨number, index⟩ ∨ ∃ pool, act = .release pool ⟨number, index⟩) :
      Change allowed clock number act p (q.modifyHandle index fun h => (h.release now).2)
  | touched {index : Nat} {now : Instant} {p q : Pool γ} (scanned : Scanned allowed clock p q)
      (shown : clock = some now) :
      Change allowed clock number (.connection ⟨number, index⟩) p
        (q.modifyHandle index (Handle.touch now))
  | reported {index : Nat} {cause : String} {h : Handle γ} {p : Pool γ} (open_ : p.closed = false)
      (made : p.handles[index]? = some h) (registered : p.registry.get? h.endpointId = some index) :
      Change allowed clock number (.report number ⟨number, index⟩ cause) p
        ({ p with registry := p.registry.erase h.endpointId }.count fun c =>
          { c with invalidated := c.invalidated + 1 })
  | closed {p : Pool γ} (open_ : p.closed = false) :
      Change allowed clock number (.close number) p
        { p with
          closed := true, creating := [], registry := [], shutdown := true,
          reaper := .stopped }

theorem Change.same {allowed : Prop} {clock : Option Instant} {number : Nat} {act : Act δ}
    (p : Pool γ) : Change allowed clock number act p p :=
  .tended (.refl p) (.refl p)

end Pool

namespace Site

open Surroundings Pool

/-- Scans of a pool, and then care for its reaper. -/
def Reaped (s s' : Site δ γ) : Prop :=
  Still s.env s'.env ∧
    ∃ p, Scanned True s.env.shown s.pool p ∧ p.Tended s'.pool

theorem Reaped.refl (s : Site δ γ) : Reaped s s := ⟨.refl _, s.pool, .refl _, .refl _⟩

/-- Whatever happened to the reaper before a scan could as well have happened after it. -/
theorem Reaped.trans {s s' s'' : Site δ γ} (first : Reaped s s') (second : Reaped s' s'') :
    Reaped s s'' := by
  obtain ⟨hStill, p, hScanned, reaper, wakes, abandoned, shutdown, hTended, hLasting⟩ := first
  obtain ⟨hStill', p', hScanned', hTended'⟩ := second
  rw [hStill.shown, hTended] at hScanned'
  obtain ⟨q, hq, rfl⟩ := hScanned'.before
    (fun p : Pool γ => { p with reaper, wakes, abandoned, shutdown }) rfl fun _ => rfl
  have hLasting' : (q.reaper = .stopped → reaper = .stopped) ∧
      (q.shutdown = true → shutdown = true) := by
    rw [hq.eq]
    exact hLasting
  exact ⟨hStill.trans hStill', q, hScanned.trans hq,
    Tended.trans ⟨_, _, _, _, rfl, hLasting'⟩ hTended'⟩

theorem reaped_of_tended {s : Site δ γ} {env : Surroundings δ} {p : Pool γ}
    (hStill : Still s.env env) (hTended : s.pool.Tended p) : Reaped s { env, pool := p } :=
  ⟨hStill, s.pool, .refl _, hTended⟩

theorem ne_stopped_of_isRunning {reaper : Reaper} (h : reaper.isRunning = true) :
    reaper ≠ .stopped := by
  rintro rfl
  cases h

/-- A reaper that runs scans, and goes to sleep or breaks off. -/
theorem reap_spec (s : Site δ γ) (hRunning : s.pool.reaper.isRunning = true) :
    Reaped s s.reap := by
  obtain ⟨hStill, hScanned⟩ := scan_spec s
  have hTended {q : Pool γ} (h : Scanned True s.env.shown s.pool q) (reaper : Reaper) :
      q.Tended { q with reaper } := by
    have hNot : q.reaper ≠ .stopped := by
      rw [h.eq]
      exact ne_stopped_of_isRunning hRunning
    exact ⟨_, _, _, _, rfl, fun hStopped => absurd hStopped hNot, id⟩
  unfold reap
  split
  · next s' hScan =>
    rw [hScan] at hStill hScanned
    exact ⟨hStill, s'.pool, hScanned, hTended hScanned _⟩
  · next evicted s' hScan =>
    rw [hScan] at hStill hScanned
    split
    · exact ⟨hStill, s'.pool, hScanned, hTended hScanned _⟩
    · exact ⟨hStill.trans (still_note (by rintro _ ⟨_, _, ⟨⟩⟩) _), s'.pool, hScanned,
        hTended hScanned _⟩
  · next error s' hScan =>
    rw [hScan] at hStill hScanned
    exact ⟨hStill.trans (still_note (by rintro _ ⟨_, _, ⟨⟩⟩) _), s'.pool, hScanned,
      hTended hScanned _⟩

theorem answerWakes_spec (count : Nat) (s : Site δ γ) : Reaped s (s.answerWakes count) := by
  induction count generalizing s with
  | zero => exact .refl s
  | succ count ih =>
      unfold answerWakes
      split
      · next hRunning =>
        have hWoken : Reaped s
            ((s.update fun p => { p with wakes := p.wakes - 1 }).note .reaperWoken) :=
          reaped_of_tended (still_note (by rintro _ ⟨_, _, ⟨⟩⟩) _) ⟨_, _, _, _, rfl, id, id⟩
        exact (hWoken.trans (reap_spec _ hRunning)).trans (ih _)
      · exact .refl s

theorem sleep_spec (s : Site δ γ) : Reaped s s.sleep := by
  unfold sleep
  split
  · next hStarting =>
    have hNot : s.pool.reaper ≠ .stopped := by
      rw [hStarting]
      nofun
    exact reaped_of_tended (.refl _)
      ⟨_, _, _, _, rfl, fun hStopped => absurd hStopped hNot, id⟩
  · next hAsleep =>
    split
    · exact reap_spec s (by rw [hAsleep]; rfl)
    · exact .refl s
  · exact .refl s

theorem reaperTurn_spec (s : Site δ γ) : Reaped s s.reaperTurn := by
  unfold reaperTurn
  split
  · exact .refl s
  · split
    · exact reaped_of_tended (still_note (by rintro _ ⟨_, _, ⟨⟩⟩) _)
        ⟨_, _, _, _, rfl, fun _ => rfl, id⟩
    · exact (answerWakes_spec _ s).trans (sleep_spec _)

/-- A pool that is still open is closed at once: it says how many handles it drops, and the clock is
not read for it. -/
theorem close_of_open {s : Site δ γ} (hOpen : s.pool.closed = false) :
    s.close.env.readings = s.env.readings ∧
      (∃ events, s.close.env.events = .closed s.pool.size :: events) ∧
      s.close.pool = { s.pool with
        closed := true, creating := [], registry := [], shutdown := true, reaper := .stopped } := by
  unfold close
  rw [hOpen]
  refine ⟨?_, ⟨_, rfl⟩, ?_⟩
  · show (dismissReaper _).env.readings = s.env.readings
    unfold dismissReaper
    dsimp only
    split <;> rfl
  · show (dismissReaper _).pool = _
    unfold dismissReaper
    dsimp only
    split <;> rfl

variable (number index : Nat)

theorem close_spec (allowed : Prop) (s : Site δ γ) :
    Still s.env s.close.env ∧
      Change allowed s.env.shown number (.close number : Act δ) s.pool s.close.pool := by
  unfold close
  split
  · exact ⟨.refl _, .same _⟩
  · next hOpen =>
    have hOpen : s.pool.closed = false := by simpa using hOpen
    dsimp only
    refine ⟨Still.trans ?_ (still_note (by rintro _ ⟨_, _, ⟨⟩⟩) _), ?_⟩
    · unfold dismissReaper
      dsimp only
      split <;> first | exact .refl _ | exact still_note (by rintro _ ⟨_, _, ⟨⟩⟩) _
    · have hClosed : Change allowed s.env.shown number (.close number : Act δ) s.pool
          { s.pool with
            closed := true, creating := [], registry := [], shutdown := true,
            reaper := .stopped } :=
        .closed hOpen
      unfold dismissReaper
      dsimp only
      split <;> exact hClosed

theorem drop_spec (allowed : Prop) (s : Site δ γ) :
    (s.drop index).env = s.env ∧
      Change allowed s.env.shown number (.drop number index : Act δ) s.pool
        (s.drop index).pool := by
  unfold drop
  split
  · next hWaits => exact ⟨rfl, .left hWaits⟩
  · next hDials => exact ⟨rfl, .gaveUp hDials⟩
  · exact ⟨rfl, .same _⟩

variable [Dialer δ γ] {allowed : Prop}

theorem get_spec (id : String) (s : Site δ γ) (hAllowed : s.env.probing = true → allowed) :
    Noted (Event.StartsOnly fun other => other = id ∧ s.pool.Lacks id) s.env (s.get id).2.env ∧
      Change allowed s.env.shown number (.get number id : Act δ) s.pool (s.get id).2.pool := by
  obtain ⟨hNoted, hEntered⟩ := enter_spec id s
  exact ⟨hNoted, .entered (hEntered.mono hAllowed)⟩

/-- Only a request that waits at a gate can start a sequence of dials in a later turn. -/
theorem resume_spec (s : Site δ γ) (hAllowed : s.env.probing = true → allowed) :
    Noted (Event.StartsOnly fun id => s.pool.Lacks id ∧ ∃ gate,
        s.pool.requests[index]? = some { endpointId := id, state := .waiting gate })
        s.env (s.resume index).env ∧
      Change allowed s.env.shown number (.resume number index : Act δ) s.pool
        (s.resume index).pool := by
  unfold resume
  split
  · next id gate hWaits =>
    obtain ⟨hNoted, hPassed⟩ := pass_spec gate id s
    refine ⟨hNoted.mono ?_, .passed hWaits (hPassed.mono hAllowed)⟩
    rintro e he other hs
    obtain ⟨rfl, hLacks⟩ := he other hs
    exact ⟨hLacks, gate, hWaits⟩
  · next id gate sequence hDials =>
    let resumed : DialProgress γ × Surroundings δ := sequence.resume s.pool.shutdown s.env
    have hNoted : Noted Event.StartsNone s.env resumed.2 := DialSequence.resume_noted _ sequence _
    obtain ⟨hStill, p, hScanned, hFollowed⟩ := follow_spec gate id sequence.endpointId resumed.1
      { s with env := resumed.2 } fun _ h => DialSequence.resume_endpointId h
    simp only [hNoted.shown, hNoted.probing] at hScanned hFollowed
    exact ⟨(hNoted.trans hStill.toNoted).startsOnly,
      .followed hDials (hScanned.mono hAllowed) hFollowed⟩
  · exact ⟨.refl _, .same _⟩

end Site

end Tether
