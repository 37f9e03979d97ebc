import Tether.Dialer.Fixed
import Tether.Proofs.Granted

/-! Eviction scans that are attempted in the middle of a request, at every moment at which it reads
the clock. Between finding a handle and borrowing it, and between borrowing a new handle and
registering it, the registry is locked, and such a scan does not get at it. -/

namespace Tether

variable {δ γ : Type}

namespace Surroundings

/-- So many readings of the clock were made, and the scans attempted at them came to these answers,
the latest first. -/
structure Probed (readings : Nat) (answers : List (Except PoolError Nat))
    (env env' : Surroundings δ) : Prop where
  readings : env'.readings = env.readings + readings
  probes : env'.probes = answers ++ env.probes

variable {env env' env'' : Surroundings δ} {early late : Nat}
  {first second : List (Except PoolError Nat)}

theorem Probed.refl (env : Surroundings δ) : Probed 0 [] env env := ⟨rfl, rfl⟩

theorem Probed.trans (hFirst : Probed early first env env')
    (hSecond : Probed late second env' env'') : Probed (early + late) (second ++ first) env env'' :=
  ⟨by rw [hSecond.readings, hFirst.readings, Nat.add_assoc],
    by rw [hSecond.probes, hFirst.probes, List.append_assoc]⟩

/-- Whatever goes on before a reading does not read the clock. -/
theorem Probed.after {readings : Nat} {answers : List (Except PoolError Nat)}
    (h : Probed readings answers env' env'') (hUnread : Probed 0 [] env env') :
    Probed readings answers env env'' := by
  simpa using hUnread.trans h

theorem Probed.before {readings : Nat} {answers : List (Except PoolError Nat)}
    (h : Probed readings answers env env') (hUnread : Probed 0 [] env' env'') :
    Probed readings answers env env'' := by
  simpa using h.trans hUnread

end Surroundings

namespace DialSequence

open Surroundings

variable [Dialer δ γ]

/-- Dialing reads no clock. -/
theorem land_unread (id : String) (tier : Tier) (cancelled : Bool) (remaining attempt ticket : Nat)
    (env : Surroundings δ) :
    Probed 0 [] env (land id tier cancelled remaining attempt ticket env).2 := by
  induction remaining generalizing attempt ticket env with
  | zero =>
      unfold land
      split <;> exact ⟨rfl, rfl⟩
  | succ left ih =>
      unfold land
      split
      · exact ⟨rfl, rfl⟩
      · dsimp only
        split
        · exact ⟨rfl, rfl⟩
        · split
          · split
            · exact (ih _ _ _).after ⟨rfl, rfl⟩
            · exact ⟨rfl, rfl⟩
          · exact ⟨rfl, rfl⟩

theorem launch_unread (id : String) (tier : Tier) (cancelled : Bool) (remaining attempt : Nat)
    (env : Surroundings δ) :
    Probed 0 [] env (launch id tier cancelled remaining attempt env).2 := by
  unfold launch
  dsimp only
  split
  · exact (land_unread ..).after ⟨rfl, rfl⟩
  · exact ⟨rfl, rfl⟩

theorem start_unread (id : String) (told : Bool) (env : Surroundings δ) :
    Probed 0 [] env (start id told env).2 := by
  let tier := Factory.tierOf (env.firstContact id).1
  let most := (env.firstContact id).2.factory.policy.maxAttempts tier
  have hMarked : Probed 0 [] env ((env.firstContact id).2.note (.dialing id tier most)) :=
    ⟨rfl, rfl⟩
  exact (launch_unread ..).after hMarked

theorem resume_unread (told : Bool) (s : DialSequence) (env : Surroundings δ) :
    Probed 0 [] env (s.resume told env).2 := by
  unfold resume
  dsimp only
  split
  · split
    · exact land_unread ..
    · exact .refl env
  · split
    · exact ⟨rfl, rfl⟩
    · split
      · exact launch_unread ..
      · exact .refl env

end DialSequence

namespace Pool

/-- What a scan that is attempted at a reading of the clock answers, and what it leaves of the pool.
If it finds no clock to read itself, it answers nothing. -/
inductive Attempted (clock : Option Instant) (locked : Bool) (p : Pool γ) :
    Option (Except PoolError Nat) → Pool γ → Prop where
  | closed (late : p.closed = true) : Attempted clock locked p (some (.error .closed)) p
  | busy (open_ : p.closed = false) (held : locked = true ∨ p.busy = true) :
      Attempted clock locked p (some (.error .busy)) p
  | blind (open_ : p.closed = false) (unlocked : locked = false) (unread : clock = none) :
      Attempted clock locked p none p
  | swept {now : Instant} (open_ : p.closed = false) (unlocked : locked = false)
      (free : p.busy = false) (shown : clock = some now) :
      Attempted clock locked p
        (some (.ok (p.registry.countP fun entry => Site.isStale now p entry.2))) (p.swept now)

/-- What a turn of a request for this endpoint comes to if a scan is attempted at every reading: how
many readings there are, what the scans answer, the latest first, how far the request gets, and the
pool after the turn. Here `p` is the pool as the first reading finds it. -/
inductive Watched (clock : Option Instant) (id : String) (p : Pool γ) :
    Nat → List (Except PoolError Nat) → RequestState → Pool γ → Prop where
  /-- Nothing is granted without a reading. -/
  | unread {state : RequestState} {p' : Pool γ} (nothing : state.granted? = none)
      (registry : p'.registry = p.registry) (handles : p'.handles = p.handles) :
      Watched clock id p 0 [] state p'
  /-- A handle was found, and the scan comes before it is borrowed. -/
  | found {handle : Nat} {now : Instant} (registered : p.registry.get? id = some handle)
      (shown : clock = some now) :
      Watched clock id p 1 [.error .busy] (.granted handle) (p.lend now handle)
  | foundBlind {handle : Nat} (registered : p.registry.get? id = some handle)
      (blind : clock = none) : Watched clock id p 1 [.error .busy] .broken p
  /-- A connection arrived, and the scan comes before there is a handle for it. -/
  | arrivedBlind {gate : Nat} {answer : Option (Except PoolError Nat)}
      (attempt : Attempted clock false p answer p) (blind : clock = none) :
      Watched clock id p 1 answer.toList .broken (p.openGate gate id .givenUp)
  | arrivedLate {gate : Nat} (late : p.closed = true) :
      Watched clock id p 1 [.error .closed] (.refused .closed) (p.openGate gate id .closed)
  /-- The first scan comes before there is a handle, and the second one between borrowing the handle
  and registering it. -/
  | created {gate : Nat} {now : Instant} {connection : γ} {answer : Except PoolError Nat}
      {q : Pool γ} (open_ : p.closed = false) (attempt : Attempted clock false p (some answer) q)
      (shown : clock = some now) :
      Watched clock id p 2 [.error .busy, answer] (.granted q.handles.length)
        ((q.enroll now id connection).openGate gate id .created)

/-- What a request may do before it reads the clock: start the reaper and set up a gate. -/
def Prepared (p q : Pool γ) : Prop :=
  q = { p with reaper := q.reaper, gates := q.gates, creating := q.creating }

variable {clock : Option Instant} {locked : Bool} {id : String} {p p' q r : Pool γ}
  {answer : Option (Except PoolError Nat)} {readings : Nat}
  {answers : List (Except PoolError Nat)} {state : RequestState}

theorem Prepared.refl (p : Pool γ) : p.Prepared p := rfl

theorem Prepared.trans (first : p.Prepared q) (second : q.Prepared r) : p.Prepared r := by
  unfold Prepared at *
  rw [second, first]

theorem Attempted.scanned (h : Attempted clock locked p answer q) :
    Scanned (locked = false) clock p q := by
  cases h with
  | closed | busy | blind => exact .refl p
  | swept open_ unlocked free shown => exact Or.inr ⟨unlocked, free, _, shown, rfl⟩

/-- With the registry locked no scan gets at it. -/
theorem Attempted.of_locked (h : Attempted clock true p answer q) (hOpen : p.closed = false) :
    answer = some (.error .busy) ∧ q = p := by
  cases h with
  | closed late => cases hOpen.symm.trans late
  | busy => exact ⟨rfl, rfl⟩
  | blind open_ unlocked | swept open_ unlocked => cases unlocked

theorem Attempted.of_closed (h : Attempted clock locked p answer q) (hClosed : p.closed = true) :
    answer = some (.error .closed) ∧ q = p := by
  cases h with
  | closed => exact ⟨rfl, rfl⟩
  | busy open_ | blind open_ | swept open_ => cases open_.symm.trans hClosed

theorem Attempted.of_blind (h : Attempted none locked p answer q) : q = p := by
  cases h with
  | swept open_ unlocked free shown => cases shown
  | _ => rfl

theorem Attempted.of_shown {now : Instant} (h : Attempted (some now) locked p answer q) :
    ∃ told, answer = some told := by
  cases h with
  | blind open_ unlocked unread => cases unread
  | _ => exact ⟨_, rfl⟩

end Pool

namespace Site

open Surroundings Pool

theorem sweep_answer (now : Instant) (s : Site δ γ) :
    (s.sweep now).1 = s.pool.registry.countP fun entry => isStale now s.pool entry.2 := by
  unfold sweep
  simp only [List.partition_eq_filter_filter]
  rw [List.countP_eq_length_filter]
  split
  · next hNone =>
    rw [List.isEmpty_iff.mp hNone]
    rfl
  · rfl

theorem sweep_unread (now : Instant) (s : Site δ γ) : Probed 0 [] s.env (s.sweep now).2.env := by
  have hNotes (stale : List (String × Nat)) (env : Surroundings δ) :
      Probed 0 [] env (stale.foldl (fun env entry =>
        env.note (.evicted entry.1 (idle now s.pool entry.2))) env) := by
    induction stale generalizing env with
    | nil => exact .refl env
    | cons entry rest ih => exact (ih _).after ⟨rfl, rfl⟩
  unfold sweep
  dsimp only
  split
  · exact .refl _
  · exact (hNotes _ _).before ⟨rfl, rfl⟩

theorem probe_attempted (locked : Bool) (s : Site δ γ) :
    ∃ answer, Attempted s.env.shown locked s.pool answer (s.probe locked).pool ∧
      Probed 0 answer.toList s.env (s.probe locked).env := by
  unfold probe
  dsimp only
  split
  · next hClosed => exact ⟨_, .closed hClosed, rfl, rfl⟩
  · next hOpen =>
    have hOpen : s.pool.closed = false := by simpa using hOpen
    split
    · next hHeld => exact ⟨_, .busy hOpen (by simpa using hHeld), rfl, rfl⟩
    · next hFree =>
      simp only [Bool.or_eq_true, not_or, Bool.not_eq_true] at hFree
      split
      · next hBlind => exact ⟨none, .blind hOpen hFree.1 hBlind, .refl _⟩
      · next now hShown =>
        obtain ⟨hReadings, hProbes⟩ := sweep_unread now s
        refine ⟨some (.ok (s.sweep now).1), ?_, hReadings, congrArg _ hProbes⟩
        rw [sweep_answer, sweep_pool]
        exact .swept hOpen hFree.1 hFree.2 hShown

/-- No reading goes without an attempt. -/
theorem reading_attempted (locked : Bool) {s : Site δ γ} (hProbing : s.env.probing = true) :
    ∃ answer, Attempted s.env.shown locked s.pool answer (s.reading locked).2.pool ∧
      Probed 1 answer.toList s.env (s.reading locked).2.env := by
  obtain ⟨answer, hAttempted, hReadings, hProbes⟩ := probe_attempted locked s
  unfold reading
  rw [if_pos hProbing]
  exact ⟨answer, hAttempted, congrArg (· + 1) hReadings, hProbes⟩

/-- A turn of a request for this endpoint, watched from before it prepares to read the clock. -/
def Watches (id : String) (s : Site δ γ) (turn : RequestState × Site δ γ) : Prop :=
  ∃ readings answers p, s.pool.Prepared p ∧ Probed readings answers s.env turn.2.env ∧
    Watched s.env.shown id p readings answers turn.1 turn.2.pool

theorem watches_of_unread {id : String} {s s' : Site δ γ} {state : RequestState}
    (hNothing : state.granted? = none) (hUnread : Probed 0 [] s.env s'.env)
    (hRegistry : s'.pool.registry = s.pool.registry) (hHandles : s'.pool.handles = s.pool.handles) :
    Watches id s (state, s') :=
  ⟨0, [], s.pool, .refl _, hUnread, .unread hNothing hRegistry hHandles⟩

/-- Preparations come before the turn as well as in it. -/
theorem Watches.of_prepared {id : String} {s s' : Site δ γ} {turn : RequestState × Site δ γ}
    (h : Watches id s' turn) (hPrepared : s.pool.Prepared s'.pool)
    (hUnread : Probed 0 [] s.env s'.env) (hShown : s'.env.shown = s.env.shown) :
    Watches id s turn := by
  obtain ⟨readings, answers, p, hLater, hProbed, hWatched⟩ := h
  exact ⟨readings, answers, p, hPrepared.trans hLater, hProbed.after hUnread, hShown ▸ hWatched⟩

theorem reuse_watches {id : String} {handle : Nat} {s : Site δ γ} (hProbing : s.env.probing = true)
    (hOpen : s.pool.closed = false) (hRegistered : s.pool.registry.get? id = some handle) :
    Watches id s (s.reuse handle id) := by
  obtain ⟨answer, hAttempted, hProbed⟩ := reading_attempted true hProbing
  obtain ⟨hShown, -, -⟩ := reading_spec true s
  obtain ⟨rfl, hPool⟩ := hAttempted.of_locked hOpen
  unfold reuse
  split
  · next s' hRead =>
    rw [hRead] at hShown hProbed hPool
    refine ⟨1, _, s.pool, .refl _, hProbed, ?_⟩
    rw [hPool]
    exact .foundBlind hRegistered hShown.symm
  · next now s' hRead =>
    rw [hRead] at hShown hProbed hPool
    refine ⟨1, _, s.pool, .refl _, hProbed.before ⟨rfl, rfl⟩, ?_⟩
    show Watched _ id _ _ _ (.granted handle) (s'.pool.lend now handle)
    rw [hPool]
    exact .found hRegistered hShown.symm

theorem receive_watches (gate : Nat) (id : String) (connection : γ) {s : Site δ γ}
    (hProbing : s.env.probing = true) : Watches id s (s.receive gate id connection) := by
  obtain ⟨answer, hAttempted, hProbed⟩ := reading_attempted false hProbing
  obtain ⟨hShown, hStill, -⟩ := reading_spec false s
  unfold receive
  split
  · next s' hRead =>
    rw [hRead] at hShown hProbed hAttempted
    rw [← hShown] at hAttempted
    have hSame : s'.pool = s.pool := hAttempted.of_blind
    refine ⟨1, _, s.pool, .refl _, hProbed, ?_⟩
    show Watched _ id _ _ _ .broken (s'.pool.openGate gate id .givenUp)
    rw [← hShown, hSame]
    exact .arrivedBlind (hSame ▸ hAttempted) rfl
  · next made s' hRead =>
    rw [hRead] at hShown hStill hProbed hAttempted
    have hClosed := hAttempted.scanned.closed_eq
    split
    · next hLate =>
      have hLate : s'.pool.closed = true := hLate
      obtain ⟨rfl, hSame⟩ := hAttempted.of_closed (hClosed.symm.trans hLate)
      refine ⟨1, _, s.pool, .refl _, hProbed.before ⟨rfl, rfl⟩, ?_⟩
      show Watched _ id _ _ _ (.refused .closed) (s'.pool.openGate gate id .closed)
      rw [hSame] at hLate ⊢
      exact .arrivedLate hLate
    · next hOpen =>
      have hOpen : s'.pool.closed = false := by simpa using hOpen
      obtain ⟨busy, hAttempted', hProbed'⟩ :=
        reading_attempted true (hStill.probing.trans hProbing)
      obtain ⟨hShown', -, -⟩ := reading_spec true s'
      obtain ⟨rfl, hPool⟩ := hAttempted'.of_locked hOpen
      have hSame : (s'.reading true).1 = some made :=
        hShown'.trans (hStill.shown.trans hShown.symm)
      split
      · next s'' hRead' => simp [hRead'] at hSame
      · next now s'' hRead' =>
        rw [hRead'] at hSame hProbed' hPool
        cases hSame
        rw [← hShown] at hAttempted
        obtain ⟨told, rfl⟩ := hAttempted.of_shown
        refine ⟨2, _, s.pool, .refl _, (hProbed.trans hProbed').before ⟨rfl, rfl⟩, ?_⟩
        show Watched _ id _ _ _ (.granted s''.pool.handles.length)
          ((s''.pool.enroll made id connection).openGate gate id .created)
        rw [← hShown, hPool]
        exact .created (hClosed.symm.trans hOpen) hAttempted rfl

theorem follow_watches (gate : Nat) (id : String) (progress : DialProgress γ) {s : Site δ γ}
    (hProbing : s.env.probing = true) : Watches id s (s.follow gate id progress) := by
  cases progress with
  | waiting sequence | failed error => exact watches_of_unread rfl (.refl _) rfl rfl
  | connected connection => exact receive_watches gate id connection hProbing

variable [Dialer δ γ]

theorem dial_watches (id : String) {s : Site δ γ} (hProbing : s.env.probing = true) :
    Watches id s (s.dial id) := by
  let raised : Site δ γ := s.update (raiseGate id)
  let started : DialProgress γ × Surroundings δ := DialSequence.start id s.pool.shutdown s.env
  let env := started.2
  have hNoted : Noted (Event.StartsOnly (· = id)) s.env env := DialSequence.start_noted id _ s.env
  have hFollow : Watches id { raised with env }
      (Site.follow s.pool.gates.length id started.1 { raised with env }) :=
    follow_watches _ id started.1 (hNoted.probing.trans hProbing)
  exact hFollow.of_prepared rfl (DialSequence.start_unread id _ s.env) hNoted.shown

theorem look_watches (id : String) {s : Site δ γ} (hProbing : s.env.probing = true) :
    Watches id s (s.look id) := by
  unfold look
  split
  · exact watches_of_unread rfl (.refl _) rfl rfl
  · next hOpen =>
    have hOpen : s.pool.closed = false := by simpa using hOpen
    split
    · next handle hRegistered => exact reuse_watches hProbing hOpen hRegistered
    · split
      · exact watches_of_unread rfl (.refl _) rfl rfl
      · exact dial_watches id hProbing

theorem enter_watches (id : String) {s : Site δ γ} (hProbing : s.env.probing = true) :
    Watches id s (s.enter id) := by
  obtain ⟨hStill, hRoused⟩ := startReaper_spec s
  have hUnread : Probed 0 [] s.env s.startReaper.env := by
    unfold startReaper
    split <;> exact ⟨rfl, rfl⟩
  have hPrepared : s.pool.Prepared s.startReaper.pool := by
    rw [hRoused]
    rfl
  unfold enter
  split
  · exact watches_of_unread rfl (.refl _) rfl rfl
  · dsimp only
    split
    · exact watches_of_unread rfl hUnread (by rw [hRoused]; rfl) (by rw [hRoused]; rfl)
    · exact (look_watches id (hStill.probing.trans hProbing)).of_prepared hPrepared hUnread
        hStill.shown

theorem pass_watches (gate : Nat) (id : String) {s : Site δ γ} (hProbing : s.env.probing = true) :
    Watches id s (s.pass gate id) := by
  have hLook : Watches id s ((s.note (.rechecking id)).look id) :=
    (look_watches id (s := s.note (.rechecking id)) hProbing).of_prepared rfl ⟨rfl, rfl⟩ rfl
  unfold pass
  split
  · exact watches_of_unread rfl (.refl _) rfl rfl
  · exact watches_of_unread rfl (.refl _) rfl rfl
  · exact hLook
  · exact hLook
  · exact watches_of_unread rfl (.refl _) rfl rfl
  · exact watches_of_unread rfl (.refl _) rfl rfl

theorem get_watches (id : String) {s : Site δ γ} (hProbing : s.env.probing = true) :
    ∃ turn, Watches id s turn ∧ turn.2.pool.requests = s.pool.requests ∧
      (s.get id).2 = turn.2.update fun p =>
        { p with requests := p.requests ++ [{ endpointId := id, state := turn.1 }] } :=
  ⟨s.enter id, enter_watches id hProbing, (enter_spec id s).2.requests_eq, rfl⟩

theorem resume_watches {index : Nat} {id : String} {state : RequestState} {s : Site δ γ}
    (hProbing : s.env.probing = true)
    (hOld : s.pool.requests[index]? = some { endpointId := id, state := state })
    (hLive : state.isLive = true) :
    ∃ turn, Watches id s turn ∧ turn.2.pool.requests = s.pool.requests ∧
      s.resume index = turn.2.update (setRequest index turn.1) := by
  cases state with
  | waiting gate =>
      refine ⟨s.pass gate id, pass_watches gate id hProbing, (pass_spec gate id s).2.requests_eq,
        ?_⟩
      unfold resume
      rw [hOld]
  | dialing gate sequence =>
      let resumed : DialProgress γ × Surroundings δ := sequence.resume s.pool.shutdown s.env
      have hNoted : Noted Event.StartsNone s.env resumed.2 :=
        DialSequence.resume_noted _ sequence _
      obtain ⟨-, q, hScanned, hFollowed⟩ := follow_spec gate id sequence.endpointId resumed.1
        { s with env := resumed.2 } fun _ h => DialSequence.resume_endpointId h
      have hFollow : Watches id { s with env := resumed.2 }
          (Site.follow gate id resumed.1 { s with env := resumed.2 }) :=
        follow_watches gate id resumed.1 (hNoted.probing.trans hProbing)
      have hUnread : Probed 0 [] s.env resumed.2 := DialSequence.resume_unread _ sequence _
      refine ⟨_, hFollow.of_prepared (.refl _) hUnread hNoted.shown,
        hFollowed.requests_eq.trans hScanned.requests_eq, ?_⟩
      unfold resume
      rw [hOld]
  | _ => cases hLive

end Site

namespace Pool

/-- The act is a turn of the request with this number: the one in which it comes in, or a later
one. -/
inductive TurnOf (number : Nat) (p : Pool γ) (id : String) : Nat → Act δ → Prop where
  | first : TurnOf number p id p.requests.length (.get number id)
  | later {index : Nat} {state : RequestState}
      (asked : p.requests[index]? = some { endpointId := id, state := state })
      (live : state.isLive = true) : TurnOf number p id index (.resume number index)

variable {clock : Option Instant} {id : String} {p p' : Pool γ} {readings handle : Nat}
  {answers : List (Except PoolError Nat)} {requests : List Request}

/-- What a request is granted is registered, and counts at least its own borrow. -/
theorem Watched.held (h : Watched clock id p readings answers (.granted handle) p')
    (hMade : ∀ handle, p.registry.get? id = some handle →
      ∃ made, p.handles[handle]? = some made ∧ made.endpointId = id) :
    p'.registry.get? id = some handle ∧
      ∃ made, p'.handles[handle]? = some made ∧ made.endpointId = id ∧ 1 ≤ made.refCount := by
  cases h with
  | unread nothing => cases nothing
  | @found _ now registered shown =>
      obtain ⟨made, hAt, hId⟩ := hMade handle registered
      refine ⟨registered, made.borrow now, ?_, hId, Nat.le_add_left 1 _⟩
      show (p.handles.modify handle (Handle.borrow now))[handle]? = _
      rw [List.getElem?_modify_eq, hAt]
      rfl
  | @created gate now connection answer q open_ attempt shown =>
      refine ⟨?_, (Handle.fresh now id connection).borrow now, ?_, rfl, Nat.le_refl 1⟩
      · show (q.registry.insert id q.handles.length).get? id = _
        rw [Table.get?_insert, if_pos rfl]
      · exact List.getElem?_concat_length ..

end Pool

namespace World

open Pool

variable {w : World δ γ} {number index : Nat} {id : String} {p : Pool γ} {act : Act δ}

/-- While the pool itself is the probed one, its own readings are those that are probed. -/
theorem visit_of_probed {α : Type} (hp : w.pools[number]? = some p)
    (hProbed : w.probed = some number) (f : Site δ γ → α × Site δ γ) :
    (w.visit number f).2 = { w with
      env := (f (w.site number p)).2.env
      pools := w.pools.set number (f (w.site number p)).2.pool } := by
  unfold visit
  rw [hp]
  dsimp only
  rw [if_pos (beq_iff_eq.mpr hProbed)]
  rfl

variable [Dialer δ γ]

/-- A turn of a request, and what the world keeps of it. -/
theorem perform_watched (hp : w.pools[number]? = some p) (hProbed : w.probed = some number)
    (hTurn : p.TurnOf number id index act) :
    ∃ turn requests, Site.Watches id (w.site number p) turn ∧
      requests[index]? = some { endpointId := id, state := turn.1 } ∧
      w.perform act = { w with
        env := turn.2.env
        pools := w.pools.set number { turn.2.pool with requests } } := by
  have hProbing : (w.site number p).env.probing = true := beq_iff_eq.mpr hProbed
  cases hTurn with
  | first =>
      obtain ⟨turn, hWatches, hRequests, hGet⟩ := Site.get_watches id hProbing
      have hVisit := visit_of_probed hp hProbed (Site.get id)
      rw [hGet] at hVisit
      refine ⟨turn, _, hWatches, ?_, hVisit⟩
      show (turn.2.pool.requests ++ [_])[p.requests.length]? = _
      rw [hRequests]
      exact List.getElem?_concat_length ..
  | @later _ state asked live =>
      obtain ⟨turn, hWatches, hRequests, hResume⟩ :=
        Site.resume_watches (s := w.site number p) hProbing asked live
      have hVisit := visit_of_probed hp hProbed fun s => ((), s.resume index)
      rw [hResume] at hVisit
      refine ⟨turn, (turn.2.pool.setRequest index turn.1).requests, hWatches, ?_, hVisit⟩
      rw [requests_setRequest (hRequests ▸ asked), hRequests]
      exact List.getElem?_set_self (List.getElem?_eq_some_iff.mp asked).1

/-- In every world that a run leads to, and in every turn of every request: if a scan is attempted
at each reading of the clock, then those attempted between finding a handle and borrowing it, and
between borrowing a new handle and registering it, are told that the registry is busy and change
nothing. The turn leaves every handle registered, unless nobody held it and it had been unused for
longer than the linger. What it grants is registered under the endpoint asked for, and borrowed. -/
theorem lookup_atomic (hReachable : w.Reachable) (hp : w.pools[number]? = some p)
    (hProbed : w.probed = some number) (hTurn : p.TurnOf number id index act) :
    ∃ answers state q p' r, (w.perform act).pools[number]? = some r ∧
      r = { p' with requests := r.requests } ∧
      r.requests[index]? = some { endpointId := id, state := state } ∧
      (w.perform act).env.probes = answers ++ w.env.probes ∧ p.Prepared q ∧
      Watched w.env.shown id q (w.perform act).env.readings answers state p' ∧
      (∀ id' handle, p.registry.get? id' = some handle →
        r.registry.get? id' = some handle ∨ r.registry.get? id' = none ∧
          ∃ now, w.env.shown = some now ∧ p.StaleAt now handle) ∧
      ∀ handle, state = .granted handle → r.registry.get? id = some handle ∧
        ∃ h, r.handles[handle]? = some h ∧ h.endpointId = id ∧ 1 ≤ h.refCount := by
  have hSound := hReachable.sound hp
  obtain ⟨r, hr, hChange⟩ := (perform_spec act w).pools number p hp
  obtain ⟨turn, requests, hWatches, hRequest, hAfter⟩ := perform_watched hp hProbed hTurn
  obtain ⟨readings, answers, q, hPrepared, hNoticed, hWatched⟩ := hWatches
  have hReadings : (w.perform act).env.readings = readings := by
    rw [hAfter]
    exact hNoticed.readings.trans (Nat.zero_add _)
  have hPool : r = { turn.2.pool with requests } := by
    rw [hAfter, List.getElem?_set_self (List.getElem?_eq_some_iff.mp hp).1] at hr
    exact (Option.some.inj hr).symm
  subst hPool
  refine ⟨answers, turn.1, q, turn.2.pool, _, hr, rfl, hRequest, ?_, hPrepared, ?_, ?_, ?_⟩
  · rw [hAfter]
    exact hNoticed.probes
  · rw [hReadings]
    exact hWatched
  · intro id' handle hFound
    refine ((hChange.registered hSound).fate hSound.keys hFound).imp_right fun ⟨hGone, hWay⟩ => ?_
    rcases hWay with ⟨now, -, hStale⟩ | ⟨_, hAct⟩ | hAct
    · exact ⟨hGone, now, hStale⟩
    · subst hAct
      cases hTurn
    · subst hAct
      cases hTurn
  · intro handle hGranted
    rw [hGranted] at hWatched
    refine hWatched.held fun handle hFound => ?_
    rw [hPrepared] at hFound ⊢
    exact (hSound.registered id handle hFound).2

/-- A connection is about to arrive while an older one has been unused for too long. -/
def arriving : World (FixedDialer Nat) Nat :=
  performAll [.openPool 10, .get 0 "db", .pass 5, .resume 0 0, .release 0 ⟨0, 0⟩, .pass 20,
      .get 0 "web", .pass 25, .probe (some 0)]
    { env := { factory := { dialer := { connection := 7, latency := 5 } } } }

theorem arriving_probed : ∃ p r, arriving.pools[0]? = some p ∧
    (arriving.perform (.resume 0 1)).pools[0]? = some r ∧
    (arriving.perform (.resume 0 1)).env.probes = [.error .busy, .ok 1] ∧
    (∃ now, arriving.env.shown = some now ∧ p.StaleAt now 0) ∧
    r.registry.get? "db" = none ∧ r.registry.get? "web" = some 1 ∧
    ∃ h, r.handles[1]? = some h ∧ h.endpointId = "web" ∧ 1 ≤ h.refCount := by
  have hReachable : arriving.Reachable := ⟨_, _, rfl⟩
  have hPool : ∃ p s, arriving.pools[0]? = some p ∧ p.registry.get? "db" = some 0 ∧
      p.requests[1]? = some { endpointId := "web", state := .dialing 1 s } := ⟨_, _, rfl, rfl, rfl⟩
  have hAfter : ∃ r, (arriving.perform (.resume 0 1)).pools[0]? = some r ∧
      r.registry.get? "db" = none ∧
      r.requests[1]? = some { endpointId := "web", state := .granted 1 } := ⟨_, rfl, rfl, rfl⟩
  obtain ⟨p, s, hp, hFound, hDials⟩ := hPool
  obtain ⟨r', hr', hGone, hGranted⟩ := hAfter
  obtain ⟨_, state, _, _, r, hr, _, hState, _, _, _, hFate, hHeld⟩ :=
    lookup_atomic hReachable hp rfl (.later hDials rfl)
  cases hr.symm.trans hr'
  cases hState.symm.trans hGranted
  obtain ⟨hRegistered, hMade⟩ := hHeld 1 rfl
  refine ⟨p, r', hp, hr, rfl, ?_, hGone, hRegistered, hMade⟩
  rcases hFate "db" 0 hFound with hKept | ⟨_, hStale⟩
  · cases hGone.symm.trans hKept
  · exact hStale

end World

end Tether
