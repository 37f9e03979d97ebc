import Tether.Pool.Request
import Tether.Proofs.Scan

/-! What a request does to its pool in one turn, as relations between the pool before and the pool
after. A turn runs from one moment at which the request can be suspended to the next; the relations
name every outcome that such a turn has, and where in it scans at probed readings can come. -/

namespace Tether

variable {δ γ : Type}

namespace Pool

/-- The pool is open, and nobody has or dials the connection to this endpoint. -/
structure Lacks (p : Pool γ) (id : String) : Prop where
  open_ : p.closed = false
  unregistered : p.registry.get? id = none
  undialed : p.creating.get? id = none

/-- A registered handle is handed out. -/
def lend (now : Instant) (handle : Nat) (p : Pool γ) : Pool γ :=
  (p.modifyHandle handle (Handle.borrow now)).count fun c => { c with reused := c.reused + 1 }

/-- A gate is set up for the endpoint. -/
def raiseGate (id : String) (p : Pool γ) : Pool γ :=
  { p with gates := p.gates ++ [.pending], creating := p.creating.insert id p.gates.length }

/-- A fresh connection gets a handle, borrowed once and registered. -/
def enroll (now : Instant) (id : String) (connection : γ) (p : Pool γ) : Pool γ :=
  { p with
    handles := p.handles ++ [(Handle.fresh now id connection).borrow now]
    registry := p.registry.insert id p.handles.length }.count fun c =>
      { c with created := c.created + 1 }

def countFailure (p : Pool γ) : Pool γ := p.count fun c => { c with failed := c.failed + 1 }

/-- The reaper has been started, if it never was before. -/
def roused (p : Pool γ) : Pool γ :=
  { p with reaper := match p.reaper with
      | .idle => .starting
      | reaper => reaper }

/-- What becomes of a request behind `gate` and of its pool when its sequence of dials has gone on
for a while, by how far the sequence got. The sequence is one to `dialed`. -/
inductive Followed (clock : Option Instant) (gate : Nat) (id dialed : String) (p : Pool γ) :
    DialProgress γ → RequestState → Pool γ → Prop where
  | waiting {sequence : DialSequence} (same : sequence.endpointId = dialed) :
      Followed clock gate id dialed p (.waiting sequence) (.dialing gate sequence) p
  | failed (error : ConnectError) :
      Followed clock gate id dialed p (.failed error) (.refused (.connect error))
        (p.countFailure.openGate gate id (.failed error))
  | unread {connection : γ} (blind : clock = none) :
      Followed clock gate id dialed p (.connected connection) .broken
        (p.openGate gate id .givenUp)
  | discarded {now : Instant} {connection : γ} (shown : clock = some now) (late : p.closed = true) :
      Followed clock gate id dialed p (.connected connection) (.refused .closed)
        (p.openGate gate id .closed)
  | created {now : Instant} {connection : γ} (shown : clock = some now) (open_ : p.closed = false) :
      Followed clock gate id dialed p (.connected connection) (.granted p.handles.length)
        ((p.enroll now id connection).openGate gate id .created)

/-- What becomes of a request that looks into the registry, and of its pool. Where it dials, scans
can come after the look, if they are `allowed` at all. -/
inductive Looked (allowed : Prop) (clock : Option Instant) (id : String) (p : Pool γ) :
    RequestState → Pool γ → Prop where
  | closed (late : p.closed = true) : Looked allowed clock id p (.refused .closed) p
  | unread {handle : Nat} (registered : p.registry.get? id = some handle)
      (blind : clock = none) : Looked allowed clock id p .broken p
  | reused {handle : Nat} {now : Instant} (open_ : p.closed = false)
      (registered : p.registry.get? id = some handle) (shown : clock = some now) :
      Looked allowed clock id p (.granted handle) (p.lend now handle)
  | queued {gate : Nat} (open_ : p.closed = false) (unregistered : p.registry.get? id = none)
      (dialed : p.creating.get? id = some gate) : Looked allowed clock id p (.waiting gate) p
  | dials {progress : DialProgress γ} {state : RequestState} {q p' : Pool γ} (lacks : p.Lacks id)
      (scanned : Scanned allowed clock p q)
      (follows : Followed clock q.gates.length id id (q.raiseGate id) progress state p') :
      Looked allowed clock id p state p'

/-- What becomes of a new request before it is suspended or answered, and of its pool. -/
inductive Entered (allowed : Prop) (clock : Option Instant) (id : String) (p : Pool γ) :
    RequestState → Pool γ → Prop where
  | closed (late : p.closed = true) : Entered allowed clock id p (.refused .closed) p
  | unnamed (open_ : p.closed = false) (empty : id = "") :
      Entered allowed clock id p (.refused .invalidEndpointId) p.roused
  | looked {state : RequestState} {p' : Pool γ} (open_ : p.closed = false) (named : id ≠ "")
      (looks : Looked allowed clock id p.roused state p') : Entered allowed clock id p state p'

/-- What becomes of a request that waits at `gate` when it gets a turn, and of its pool. -/
inductive Passed (allowed : Prop) (clock : Option Instant) (gate : Nat) (id : String) (p : Pool γ) :
    RequestState → Pool γ → Prop where
  | failed {error : ConnectError} (decided : p.gates[gate]? = some (.failed error)) :
      Passed allowed clock gate id p (.refused (.connect error)) p
  | closed (decided : p.gates[gate]? = some .closed) :
      Passed allowed clock gate id p (.refused .closed) p
  | queued (undecided : p.gates[gate]? = some .pending ∨ p.gates[gate]? = none) :
      Passed allowed clock gate id p (.waiting gate) p
  | looked {state : RequestState} {p' : Pool γ}
      (decided : p.gates[gate]? = some .created ∨ p.gates[gate]? = some .givenUp)
      (looks : Looked allowed clock id p state p') : Passed allowed clock gate id p state p'

section Weakening

variable {allowed wider : Prop} {clock : Option Instant} {gate : Nat} {id : String} {p p' : Pool γ}
  {state : RequestState}

theorem Looked.mono (h : Looked allowed clock id p state p') (hWider : allowed → wider) :
    Looked wider clock id p state p' := by
  cases h with
  | closed late => exact .closed late
  | unread registered blind => exact .unread registered blind
  | reused open_ registered shown => exact .reused open_ registered shown
  | queued open_ unregistered dialed => exact .queued open_ unregistered dialed
  | dials lacks scanned follows => exact .dials lacks (scanned.mono hWider) follows

theorem Entered.mono (h : Entered allowed clock id p state p') (hWider : allowed → wider) :
    Entered wider clock id p state p' := by
  cases h with
  | closed late => exact .closed late
  | unnamed open_ empty => exact .unnamed open_ empty
  | looked open_ named looks => exact .looked open_ named (looks.mono hWider)

theorem Passed.mono (h : Passed allowed clock gate id p state p') (hWider : allowed → wider) :
    Passed wider clock gate id p state p' := by
  cases h with
  | failed decided => exact .failed decided
  | closed decided => exact .closed decided
  | queued undecided => exact .queued undecided
  | looked decided looks => exact .looked decided (looks.mono hWider)

end Weakening

end Pool

namespace Site

open Surroundings Pool

theorem startReaper_spec (s : Site δ γ) :
    Still s.env s.startReaper.env ∧ s.startReaper.pool = s.pool.roused := by
  unfold startReaper
  cases hReaper : s.pool.reaper with
  | idle =>
      refine ⟨still_note (by rintro _ ⟨_, _, ⟨⟩⟩) _, ?_⟩
      simp only [roused, hReaper]
      rfl
  | starting | asleep | broken | stopped =>
      refine ⟨.refl _, ?_⟩
      simp only [roused, hReaper]
      rw [← hReaper]

/-- A request that finds a handle registered has it at once, or breaks off at the reading. -/
theorem reuse_spec (handle : Nat) (id : String) (s : Site δ γ) :
    Still s.env (s.reuse handle id).2.env ∧
      ((s.env.shown = none ∧ (s.reuse handle id).1 = .broken ∧
          (s.reuse handle id).2.pool = s.pool) ∨
        ∃ now, s.env.shown = some now ∧ (s.reuse handle id).1 = .granted handle ∧
          (s.reuse handle id).2.pool = s.pool.lend now handle) := by
  obtain ⟨hShown, hStill, _⟩ := reading_spec true s
  have hPool := reading_locked_pool s
  unfold reuse
  split
  · next s' hRead =>
    rw [hRead] at hShown hStill hPool
    exact ⟨hStill, Or.inl ⟨hShown.symm, rfl, hPool⟩⟩
  · next now s' hRead =>
    rw [hRead] at hShown hStill hPool
    refine ⟨hStill.trans (still_note (by rintro _ ⟨_, _, ⟨⟩⟩) _),
      Or.inr ⟨now, hShown.symm, rfl, ?_⟩⟩
    exact congrArg (lend now handle) hPool

/-- The two readings of a request that received a connection show the same moment. -/
theorem receive_spec (gate : Nat) (id dialed : String) (connection : γ) (s : Site δ γ) :
    Still s.env (s.receive gate id connection).2.env ∧
      ∃ p, Scanned (s.env.probing = true) s.env.shown s.pool p ∧
        Followed s.env.shown gate id dialed p (.connected connection)
          (s.receive gate id connection).1 (s.receive gate id connection).2.pool := by
  obtain ⟨hShown, hStill, hScanned⟩ := reading_spec false s
  have hScanned := hScanned.mono And.left
  unfold receive
  split
  · next s' hRead =>
    rw [hRead] at hShown hStill hScanned
    exact ⟨hStill, s'.pool, hScanned, .unread hShown.symm⟩
  · next made s' hRead =>
    rw [hRead] at hShown hStill hScanned
    simp only at hShown hStill hScanned
    split
    · next hClosed =>
      exact ⟨hStill.trans (still_note (by rintro _ ⟨_, _, ⟨⟩⟩) _), s'.pool, hScanned,
        .discarded hShown.symm hClosed⟩
    · next hOpen =>
      obtain ⟨hShown', hStill', _⟩ := reading_spec true s'
      have hPool := reading_locked_pool s'
      split
      · next s'' hRead' =>
        rw [hRead'] at hShown'
        exact absurd (hShown'.trans (hStill.shown.trans hShown.symm)) (by simp)
      · next now s'' hRead' =>
        rw [hRead'] at hShown' hStill' hPool
        cases (hShown'.trans (hStill.shown.trans hShown.symm))
        refine ⟨(hStill.trans hStill').trans (still_note (by rintro _ ⟨_, _, ⟨⟩⟩) _), s'.pool,
          hScanned, ?_⟩
        rw [← hPool]
        exact .created hShown.symm
          ((congrArg Pool.closed hPool).trans (by simpa using hOpen))

theorem follow_spec (gate : Nat) (id dialed : String) (progress : DialProgress γ) (s : Site δ γ)
    (hWaiting : ∀ sequence, progress = .waiting sequence → sequence.endpointId = dialed) :
    Still s.env (s.follow gate id progress).2.env ∧
      ∃ p, Scanned (s.env.probing = true) s.env.shown s.pool p ∧
        Followed s.env.shown gate id dialed p progress (s.follow gate id progress).1
          (s.follow gate id progress).2.pool := by
  cases progress with
  | waiting sequence => exact ⟨.refl _, s.pool, .refl _, .waiting (hWaiting sequence rfl)⟩
  | connected connection => exact receive_spec gate id dialed connection s
  | failed error => exact ⟨.refl _, s.pool, .refl _, .failed error⟩

variable [Dialer δ γ]

theorem dial_spec (id : String) (s : Site δ γ) :
    Noted (Event.StartsOnly (· = id)) s.env (s.dial id).2.env ∧
      ∃ p, Scanned (s.env.probing = true) s.env.shown s.pool p ∧
        Followed s.env.shown p.gates.length id id (p.raiseGate id)
          (DialSequence.start id s.pool.shutdown s.env).1 (s.dial id).1 (s.dial id).2.pool := by
  let raised : Site δ γ := s.update (raiseGate id)
  let started : DialProgress γ × Surroundings δ := DialSequence.start id s.pool.shutdown s.env
  let env := started.2
  have hNoted : Noted (Event.StartsOnly (· = id)) s.env env :=
    DialSequence.start_noted id _ s.env
  obtain ⟨hStill, p, hScanned, hFollowed⟩ := follow_spec s.pool.gates.length id id started.1
    { raised with env } fun _ h => DialSequence.start_endpointId h
  have hShown : env.shown = s.env.shown := hNoted.shown
  simp only [hShown, hNoted.probing] at hScanned hFollowed
  obtain ⟨q, hq, rfl⟩ := hScanned.before (raiseGate id) rfl fun _ => rfl
  refine ⟨hNoted.trans hStill.startsOnly, q, hq, ?_⟩
  rw [hq.eq]
  rw [hq.eq] at hFollowed
  exact hFollowed

/-- A request that looks into the registry starts a sequence of dials only where the pool is open
and has neither a handle nor a gate for the endpoint. -/
theorem look_spec (id : String) (s : Site δ γ) :
    Noted (Event.StartsOnly fun other => other = id ∧ s.pool.Lacks id) s.env (s.look id).2.env ∧
      Looked (s.env.probing = true) s.env.shown id s.pool (s.look id).1 (s.look id).2.pool := by
  unfold look
  split
  · next hClosed => exact ⟨(Still.refl _).startsOnly, .closed hClosed⟩
  · next hOpen =>
    have hOpen : s.pool.closed = false := by simpa using hOpen
    split
    · next handle hRegistered =>
      obtain ⟨hStill, ⟨hBlind, hState, hPool⟩ | ⟨now, hShown, hState, hPool⟩⟩ :=
        reuse_spec handle id s
      · rw [hState, hPool]
        exact ⟨hStill.startsOnly, .unread hRegistered hBlind⟩
      · rw [hState, hPool]
        exact ⟨hStill.startsOnly, .reused hOpen hRegistered hShown⟩
    · next hUnregistered =>
      split
      · next gate hDialed =>
        exact ⟨(Still.refl _).startsOnly, .queued hOpen hUnregistered hDialed⟩
      · next hUndialed =>
        obtain ⟨hNoted, p, hScanned, hFollowed⟩ := dial_spec id s
        have hLacks : s.pool.Lacks id := ⟨hOpen, hUnregistered, hUndialed⟩
        exact ⟨hNoted.mono fun _ he other hs => ⟨he other hs, hLacks⟩,
          .dials hLacks hScanned hFollowed⟩

theorem enter_spec (id : String) (s : Site δ γ) :
    Noted (Event.StartsOnly fun other => other = id ∧ s.pool.Lacks id) s.env (s.enter id).2.env ∧
      Entered (s.env.probing = true) s.env.shown id s.pool (s.enter id).1 (s.enter id).2.pool := by
  obtain ⟨hStill, hRoused⟩ := startReaper_spec s
  unfold enter
  split
  · next hClosed => exact ⟨(Still.refl _).startsOnly, .closed hClosed⟩
  · next hOpen =>
    have hOpen : s.pool.closed = false := by simpa using hOpen
    dsimp only
    split
    · next hEmpty =>
      rw [hRoused]
      exact ⟨hStill.startsOnly, .unnamed hOpen (by simpa using hEmpty)⟩
    · next hNamed =>
      obtain ⟨hNoted, hLooked⟩ := look_spec id s.startReaper
      rw [hStill.shown, hStill.probing, hRoused] at hLooked
      refine ⟨hStill.startsOnly.trans (hNoted.mono fun _ he other hs => ?_),
        .looked hOpen (by simpa using hNamed) hLooked⟩
      obtain ⟨hSame, hLacks⟩ := he other hs
      rw [hRoused] at hLacks
      exact ⟨hSame, hLacks.open_, hLacks.unregistered, hLacks.undialed⟩

theorem pass_spec (gate : Nat) (id : String) (s : Site δ γ) :
    Noted (Event.StartsOnly fun other => other = id ∧ s.pool.Lacks id) s.env
        (s.pass gate id).2.env ∧
      Passed (s.env.probing = true) s.env.shown gate id s.pool (s.pass gate id).1
        (s.pass gate id).2.pool := by
  have hLook (hDecided : s.pool.gates[gate]? = some .created ∨
      s.pool.gates[gate]? = some .givenUp) :
      Noted (Event.StartsOnly fun other => other = id ∧ s.pool.Lacks id) s.env
          ((s.note (.rechecking id)).look id).2.env ∧
        Passed (s.env.probing = true) s.env.shown gate id s.pool
          ((s.note (.rechecking id)).look id).1 ((s.note (.rechecking id)).look id).2.pool := by
    obtain ⟨hNoted, hLooked⟩ := look_spec id (s.note (.rechecking id))
    refine ⟨(noted_note ?_ _).trans hNoted, .looked hDecided hLooked⟩
    rintro other ⟨_, _, ⟨⟩⟩
  unfold pass
  split
  · next error hDecided => exact ⟨.refl _, .failed hDecided⟩
  · next hDecided => exact ⟨.refl _, .closed hDecided⟩
  · next hDecided => exact hLook (Or.inl hDecided)
  · next hDecided => exact hLook (Or.inr hDecided)
  · next hUndecided => exact ⟨.refl _, .queued (Or.inl hUndecided)⟩
  · next hUndecided => exact ⟨.refl _, .queued (Or.inr hUndecided)⟩

end Site

end Tether
