import Mathlib.Algebra.Ring.Nat
import Tether.Proofs.Upkeep

/-! The record of events as a journal of a pool. Where one pool has its factory to itself, every
counter can be read off the record: each is the number of the events that go with it. -/

namespace Tether

variable {δ γ : Type}

namespace Event

/-- What the field of this name says in the event, if it has one. -/
def field? (name : String) (e : Event) : Option String := e.fields.lookup name

/-- The number that goes with a handle's creation. -/
def total? : Event → Option Nat
  | created _ total => some total
  | _ => none

/-- How many handles a scan has evicted, where it says so. -/
def cleaned? : Event → Option Nat
  | cleanedUp count _ => some count
  | _ => none

/-- How many handles a pool dropped when it was closed. -/
def dropped? : Event → Option Nat
  | closed count => some count
  | _ => none

/-- No counter goes with the event, and it tells neither how a dial nor how a pool ended. -/
def IsAside : Event → Prop
  | connected .. | gaveUp .. | cancelled .. | reused .. | created .. | discarded .. | broken ..
  | evicted .. | cleanedUp .. | closed _ => False
  | _ => True

end Event

/-- How many of the events have this message. -/
def told (message : String) (events : List Event) : Nat :=
  events.countP fun e => e.message == message

@[simp]
theorem told_cons (message : String) (e : Event) (events : List Event) :
    told message (e :: events) = told message events + (e.message == message).toNat := by
  rw [told, told, List.countP_cons]
  cases e.message == message <;> rfl

@[simp]
theorem told_append (message : String) (late early : List Event) :
    told message (late ++ early) = told message late + told message early :=
  List.countP_append ..

/-- The record of a pool with these counters, the latest event first. So many dials have brought a
connection that has not been received yet, and so many sequences of dials have failed that have not
been counted yet. -/
structure Ledger (farewell : List Nat) (hits misses : Nat) (events : List Event) (c : Counters) :
    Prop where
  created : events.filterMap Event.total? = (List.range' 1 c.created).reverse
  reused : told "Reusing connection" events = c.reused
  evicted : told "Evicting idle connection" events = c.evicted
  cleaned : (events.filterMap Event.cleaned?).sum = c.evicted
  invalidated : told "Connection reported broken, removed from pool" events = c.invalidated
  failed : told "Giving up on connection" events + told "Connection attempt cancelled" events =
    c.failed + misses
  connected : told "Connected" events = c.created +
    told "Pool closed while connecting, discarding connection" events + hits
  closed : events.filterMap Event.dropped? = farewell

namespace Ledger

variable {farewell : List Nat} {hits misses : Nat} {events : List Event} {c : Counters}

/-- Nothing is noted yet, and every counter stands at zero. -/
theorem blank : Ledger [] 0 0 [] {} := ⟨rfl, rfl, rfl, rfl, rfl, rfl, rfl, rfl⟩

/-- An event that no counter goes with can be noted at any time. -/
theorem aside {e : Event} (h : Ledger farewell hits misses events c) (hAside : e.IsAside) :
    Ledger farewell hits misses (e :: events) c := by
  obtain ⟨created, reused, evicted, cleaned, invalidated, failed, connected, closed⟩ := h
  cases e <;> first
    | exact hAside.elim
    | exact ⟨created, reused, evicted, cleaned, invalidated, failed, connected, closed⟩

/-- A dial lands with a connection. -/
theorem hit (h : Ledger farewell 0 misses events c) (id : String) (attempt : Nat) (tier : Tier) :
    Ledger farewell 1 misses (.connected id attempt tier :: events) c := by
  obtain ⟨created, reused, evicted, cleaned, invalidated, failed, connected, closed⟩ := h
  refine ⟨created, reused, evicted, cleaned, invalidated, failed, ?_, closed⟩
  simpa [Event.message] using connected

/-- A sequence of dials ends without one. -/
theorem miss {e : Event} (h : Ledger farewell hits 0 events c)
    (hMiss : (∃ id attempts error, e = .gaveUp id attempts error) ∨
      ∃ id attempts, e = .cancelled id attempts) :
    Ledger farewell hits 1 (e :: events) c := by
  obtain ⟨created, reused, evicted, cleaned, invalidated, failed, connected, closed⟩ := h
  rcases hMiss with ⟨id, attempts, error, rfl⟩ | ⟨id, attempts, rfl⟩
  · refine ⟨created, reused, evicted, cleaned, invalidated, ?_, connected, closed⟩
    simp [Event.message]
    omega
  · refine ⟨created, reused, evicted, cleaned, invalidated, ?_, connected, closed⟩
    simp [Event.message]
    omega

/-- The pool hears of a sequence that failed, and counts it. -/
theorem countFailed (h : Ledger farewell hits 1 events c) :
    Ledger farewell hits 0 events { c with failed := c.failed + 1 } :=
  ⟨h.created, h.reused, h.evicted, h.cleaned, h.invalidated, h.failed, h.connected, h.closed⟩

/-- The pool receives the connection that was brought, and makes a handle of it. The events number
the handles without a gap. -/
theorem created_cons (h : Ledger farewell 1 misses events c) (id : String) :
    Ledger farewell 0 misses (.created id (c.created + 1) :: events)
      { c with created := c.created + 1 } := by
  obtain ⟨created, reused, evicted, cleaned, invalidated, failed, connected, closed⟩ := h
  refine ⟨?_, reused, evicted, cleaned, invalidated, failed, ?_, closed⟩
  · rw [List.range'_1_concat, List.reverse_append, ← created, Nat.add_comm 1]
    rfl
  · simp [Event.message]
    omega

/-- The pool is closed already when it receives the connection. No counter goes with a connection
that is discarded, but its event does. -/
theorem discarded_cons (h : Ledger farewell 1 misses events c) (id : String) :
    Ledger farewell 0 misses (.discarded id :: events) c := by
  obtain ⟨created, reused, evicted, cleaned, invalidated, failed, connected, closed⟩ := h
  refine ⟨created, reused, evicted, cleaned, invalidated, failed, ?_, closed⟩
  simp [Event.message]
  omega

/-- A handle is lent again. -/
theorem reused_cons (h : Ledger farewell hits misses events c) (id : String) (count : Nat) :
    Ledger farewell hits misses (.reused id count :: events)
      { c with reused := c.reused + 1 } := by
  obtain ⟨created, reused, evicted, cleaned, invalidated, failed, connected, closed⟩ := h
  refine ⟨created, ?_, evicted, cleaned, invalidated, failed, connected, closed⟩
  simpa [Event.message] using reused

/-- A handle is reported broken, and is still registered. -/
theorem broken_cons (h : Ledger farewell hits misses events c) (id : String) (count : Nat)
    (cause : String) :
    Ledger farewell hits misses (.broken id count cause :: events)
      { c with invalidated := c.invalidated + 1 } := by
  obtain ⟨created, reused, evicted, cleaned, invalidated, failed, connected, closed⟩ := h
  refine ⟨created, reused, evicted, cleaned, ?_, failed, connected, closed⟩
  simpa [Event.message] using invalidated

/-- The pool takes its leave, which it can do only once. -/
theorem closed_cons (h : Ledger [] hits misses events c) (count : Nat) :
    Ledger [count] hits misses (.closed count :: events) c := by
  obtain ⟨created, reused, evicted, cleaned, invalidated, failed, connected, closed⟩ := h
  refine ⟨created, reused, evicted, cleaned, invalidated, failed, connected, ?_⟩
  exact congrArg (count :: ·) closed

/-- A scan names every handle that it evicts, and then says how many these were. -/
theorem swept {gone : List Event} (h : Ledger farewell hits misses events c)
    (hGone : ∀ e ∈ gone, ∃ id idle, e = .evicted id idle) (remaining : Nat) :
    Ledger farewell hits misses (.cleanedUp gone.length remaining :: (gone ++ events))
      { c with evicted := c.evicted + gone.length } := by
  obtain ⟨created, reused, evicted, cleaned, invalidated, failed, connected, closed⟩ := h
  have hAll : told "Evicting idle connection" gone = gone.length := by
    refine List.countP_eq_length.mpr fun e he => ?_
    obtain ⟨id, idle, rfl⟩ := hGone e he
    rfl
  have hNone (message : String) (hOther : "Evicting idle connection" ≠ message) :
      told message gone = 0 := by
    refine List.countP_eq_zero.mpr fun e he => ?_
    obtain ⟨id, idle, rfl⟩ := hGone e he
    simpa [Event.message] using hOther
  have hSilent (f : Event → Option Nat) (hf : ∀ id idle, f (.evicted id idle) = none) :
      (gone ++ events).filterMap f = events.filterMap f := by
    rw [List.filterMap_append, List.filterMap_eq_nil_iff.mpr fun e he => ?_, List.nil_append]
    obtain ⟨id, idle, rfl⟩ := hGone e he
    exact hf id idle
  constructor
  · exact (hSilent Event.total? fun _ _ => rfl).trans created
  · simp [hNone, Event.message, reused]
  · simp [hAll, Event.message, evicted, Nat.add_comm]
  · show (gone.length :: (gone ++ events).filterMap Event.cleaned?).sum = _
    rw [hSilent Event.cleaned? fun _ _ => rfl, List.sum_cons, cleaned, Nat.add_comm]
  · simp [hNone, Event.message, invalidated]
  · simp [hNone, Event.message, failed]
  · simp [hNone, Event.message, connected]
  · exact (hSilent Event.dropped? fun _ _ => rfl).trans closed

end Ledger

/-- The sequence of dials has brought a connection. -/
def DialProgress.isConnected : DialProgress γ → Bool
  | connected _ => true
  | _ => false

namespace DialSequence

variable [Dialer δ γ] {farewell : List Nat} {env : Surroundings δ} {c : Counters}

/-- The record is that of a pool with these counters for which a sequence of dials got so far. -/
def Booked (farewell : List Nat) (c : Counters) (turn : DialProgress γ × Surroundings δ) : Prop :=
  Ledger farewell turn.1.isConnected.toNat turn.1.isFailed.toNat turn.2.events c

/-- A dial that lands, and the attempts that follow it without a wait, keep the account. The
induction is on the attempts that are left. -/
theorem land_booked (id : String) (tier : Tier) (cancelled : Bool) (remaining attempt ticket : Nat)
    (h : Ledger farewell 0 0 env.events c) :
    Booked (γ := γ) farewell c (land id tier cancelled remaining attempt ticket env) := by
  induction remaining generalizing attempt ticket env with
  | zero =>
      unfold land
      split
      · exact h.hit id attempt tier
      · next error _ _ => exact h.miss (Or.inl ⟨id, attempt, error, rfl⟩)
  | succ left ih =>
      unfold land
      split
      · exact h.hit id attempt tier
      · next error dialer _ =>
        have hRetry : Ledger farewell 0 0 (.retrying id attempt (left + 1)
            (env.factory.policy.grace tier) error :: env.events) c :=
          h.aside trivial
        dsimp only
        split
        · exact hRetry.miss (Or.inr ⟨id, attempt, rfl⟩)
        · split
          · split
            · exact ih _ _ hRetry
            · exact hRetry
          · exact hRetry

theorem launch_booked (id : String) (tier : Tier) (cancelled : Bool) (remaining attempt : Nat)
    (h : Ledger farewell 0 0 env.events c) :
    Booked (γ := γ) farewell c (launch id tier cancelled remaining attempt env) := by
  unfold launch
  dsimp only
  split
  · refine land_booked id tier cancelled remaining attempt _ ?_
    exact h
  · exact h

/-- However far a sequence of dials gets at once, it has told of one connection, of one failure, or
of neither. -/
theorem start_booked (id : String) (told : Bool) (h : Ledger farewell 0 0 env.events c) :
    Booked (γ := γ) farewell c (start id told env) := by
  unfold start
  exact launch_booked _ _ _ _ _ (h.aside trivial)

/-- The same goes for a sequence that was waiting. -/
theorem resume_booked (told : Bool) (s : DialSequence) (h : Ledger farewell 0 0 env.events c) :
    Booked (γ := γ) farewell c (s.resume told env) := by
  unfold resume
  dsimp only
  split
  · split
    · exact land_booked _ _ _ _ _ _ h
    · exact h
  · split
    · exact h.miss (Or.inr ⟨_, _, rfl⟩)
    · split
      · exact launch_booked _ _ _ _ _ h
      · exact h

end DialSequence

namespace Site

open Pool

variable {farewell : List Nat} {hits misses : Nat} {s : Site δ γ}

/-- The record around the pool agrees with its counters, but for the dials that brought a connection
and the sequences that failed which the pool has not heard of yet. -/
def Booked (farewell : List Nat) (hits misses : Nat) (s : Site δ γ) : Prop :=
  Ledger farewell hits misses s.env.events s.pool.counters

/-- The site's form of `Ledger.aside`. -/
theorem Booked.note {e : Event} (h : s.Booked farewell hits misses) (hAside : e.IsAside) :
    (s.note e).Booked farewell hits misses :=
  h.aside hAside

/-! ### Scans and readings -/

/-- What is noted one by one stands in the record in the opposite order. -/
theorem foldl_note_events {α : Type} (event : α → Event) (list : List α) (env : Surroundings δ) :
    (list.foldl (fun env a => env.note (event a)) env).events =
      (list.map event).reverse ++ env.events := by
  induction list generalizing env with
  | nil => rfl
  | cons a rest ih =>
      rw [List.foldl_cons, ih, List.map_cons, List.reverse_cons, List.append_assoc]
      rfl

/-- A sweep evicts as many handles as it names. -/
theorem sweep_booked (now : Instant) (h : s.Booked farewell hits misses) :
    (s.sweep now).2.Booked farewell hits misses := by
  unfold sweep
  simp only [List.partition_eq_filter_filter]
  split
  · exact h
  · let stale := s.pool.registry.filter fun entry => isStale now s.pool entry.2
    let event (entry : String × Nat) : Event := .evicted entry.1 (idle now s.pool entry.2)
    have hGone : ∀ e ∈ (stale.map event).reverse, ∃ id idle, e = .evicted id idle := by
      intro e he
      obtain ⟨entry, _, rfl⟩ := List.mem_map.mp (List.mem_reverse.mp he)
      exact ⟨_, _, rfl⟩
    have hSwept := h.swept hGone
      (s.pool.registry.filter fun entry => !isStale now s.pool entry.2).length
    rw [List.length_reverse, List.length_map, ← foldl_note_events event stale s.env] at hSwept
    exact hSwept

theorem probe_booked (locked : Bool) (h : s.Booked farewell hits misses) :
    (s.probe locked).Booked farewell hits misses := by
  unfold probe
  dsimp only
  split
  · exact h
  · split
    · exact h
    · split
      · exact h
      · exact sweep_booked _ h

/-- A scan that comes with a reading of the clock keeps its own account. -/
theorem reading_booked (locked : Bool) (h : s.Booked farewell hits misses) :
    (s.reading locked).2.Booked farewell hits misses := by
  unfold reading
  dsimp only
  split
  · exact probe_booked locked h
  · exact h

theorem scan_booked (h : s.Booked farewell hits misses) :
    s.scan.2.Booked farewell hits misses := by
  have hRead := reading_booked true h
  unfold scan
  split
  · exact h
  · split
    · next s' hs =>
      rw [hs] at hRead
      exact hRead
    · next now s' hs =>
      rw [hs] at hRead
      exact sweep_booked now hRead

theorem evictIdle_booked (h : s.Booked farewell hits misses) :
    s.evictIdle.2.Booked farewell hits misses := by
  unfold evictIdle
  split
  · exact h
  · exact scan_booked h

/-! ### Requests -/

theorem startReaper_booked (h : s.Booked farewell hits misses) :
    s.startReaper.Booked farewell hits misses := by
  unfold startReaper
  split
  · exact h.aside trivial
  · exact h

theorem reuse_booked (handle : Nat) (id : String) (h : s.Booked farewell hits misses) :
    (s.reuse handle id).2.Booked farewell hits misses := by
  have hRead := reading_booked true h
  unfold reuse
  split
  · next s' hs =>
    rw [hs] at hRead
    exact hRead
  · next now s' hs =>
    rw [hs] at hRead
    exact hRead.reused_cons id _

/-- Unless the clock cannot be read, a connection that arrives is counted or noted as discarded. -/
theorem receive_booked (gate : Nat) (id : String) (connection : γ)
    (h : s.Booked farewell 1 0) (hRead : (s.receive gate id connection).1 ≠ .broken) :
    (s.receive gate id connection).2.Booked farewell 0 0 := by
  have hMade := reading_booked false h
  unfold receive at hRead ⊢
  split
  · next s' hs =>
    rw [hs] at hRead
    exact absurd rfl hRead
  · next made s' hs =>
    rw [hs] at hMade hRead
    dsimp only at hMade hRead ⊢
    have hBorrowed := reading_booked true hMade
    split
    · exact hMade.discarded_cons id
    · next hOpen =>
      rw [if_neg hOpen] at hRead
      split
      · next s'' hs' =>
        rw [hs'] at hRead
        exact absurd rfl hRead
      · next now s'' hs' =>
        rw [hs'] at hBorrowed
        exact hBorrowed.created_cons id

/-- A request settles what its sequence of dials has left open: a connection is received, a failure
is counted. -/
theorem follow_booked (gate : Nat) (id : String) (progress : DialProgress γ)
    (h : s.Booked farewell progress.isConnected.toNat progress.isFailed.toNat)
    (hRead : (s.follow gate id progress).1 ≠ .broken) :
    (s.follow gate id progress).2.Booked farewell 0 0 := by
  cases progress with
  | waiting sequence => exact h
  | connected connection => exact receive_booked gate id connection h hRead
  | failed error => exact h.countFailed

theorem drop_booked (index : Nat) (h : s.Booked farewell hits misses) :
    (s.drop index).Booked farewell hits misses := by
  unfold drop
  split <;> exact h

variable [Dialer δ γ]

theorem dial_booked (id : String) (h : s.Booked farewell 0 0) (hRead : (s.dial id).1 ≠ .broken) :
    (s.dial id).2.Booked farewell 0 0 :=
  follow_booked _ id _ (DialSequence.start_booked id s.pool.shutdown h) hRead

/-- A request that looks into the registry leaves nothing open, unless the clock cannot be read. -/
theorem look_booked (id : String) (h : s.Booked farewell 0 0) (hRead : (s.look id).1 ≠ .broken) :
    (s.look id).2.Booked farewell 0 0 := by
  unfold look at hRead ⊢
  split
  · exact h
  · next hOpen =>
    rw [if_neg hOpen] at hRead
    split
    · exact reuse_booked _ id h
    · next hNone =>
      rw [hNone] at hRead
      dsimp only at hRead
      split
      · exact h
      · next hUndialed =>
        rw [hUndialed] at hRead
        exact dial_booked id h hRead

theorem enter_booked (id : String) (h : s.Booked farewell 0 0) (hRead : (s.enter id).1 ≠ .broken) :
    (s.enter id).2.Booked farewell 0 0 := by
  have hRoused := startReaper_booked h
  unfold enter at hRead ⊢
  split
  · exact h
  · next hOpen =>
    rw [if_neg hOpen] at hRead
    dsimp only at hRead ⊢
    split
    · exact hRoused
    · next hNamed =>
      rw [if_neg hNamed] at hRead
      exact look_booked id hRoused hRead

theorem pass_booked (gate : Nat) (id : String) (h : s.Booked farewell 0 0)
    (hRead : (s.pass gate id).1 ≠ .broken) : (s.pass gate id).2.Booked farewell 0 0 := by
  have hLook (hRead : ((s.note (.rechecking id)).look id).1 ≠ .broken) :
      ((s.note (.rechecking id)).look id).2.Booked farewell 0 0 :=
    look_booked id (h.note trivial) hRead
  unfold pass at hRead ⊢
  split
  · exact h
  · exact h
  · next hDecided =>
    rw [hDecided] at hRead
    exact hLook hRead
  · next hDecided =>
    rw [hDecided] at hRead
    exact hLook hRead
  · exact h
  · exact h

/-- A new request leaves nothing open. -/
theorem get_booked (id : String) (h : s.Booked farewell 0 0) (hRead : (s.enter id).1 ≠ .broken) :
    (s.get id).2.Booked farewell 0 0 :=
  enter_booked id h hRead

/-- Neither does a request that goes on, since its sequence of dials is settled within the turn. -/
theorem resume_booked (index : Nat) (h : s.Booked farewell 0 0)
    (hRead : ∀ r, (s.resume index).pool.requests[index]? = some r → r.state ≠ .broken) :
    (s.resume index).Booked farewell 0 0 := by
  have hAnswer {id : String} {old state : RequestState} {q : Pool γ}
      (hOld : s.pool.requests[index]? = some { endpointId := id, state := old })
      (hSame : q.requests = s.pool.requests) :
      (q.setRequest index state).requests[index]? =
        some { endpointId := id, state := state } := by
    rw [requests_setRequest (hSame ▸ hOld), hSame]
    exact List.getElem?_set_self (List.getElem?_eq_some_iff.mp hOld).1
  unfold resume at hRead ⊢
  split
  · next id gate hWaits =>
    rw [hWaits] at hRead
    refine pass_booked gate id h (hRead _ (hAnswer hWaits ?_))
    exact (pass_spec gate id s).2.requests_eq
  · next id gate sequence hDials =>
    rw [hDials] at hRead
    let resumed : DialProgress γ × Surroundings δ := sequence.resume s.pool.shutdown s.env
    refine follow_booked (s := { s with env := resumed.2 }) gate id resumed.1
      (DialSequence.resume_booked s.pool.shutdown sequence h) (hRead _ (hAnswer hDials ?_))
    obtain ⟨_, q, hScanned, hFollowed⟩ := follow_spec gate id sequence.endpointId resumed.1
      { s with env := resumed.2 } fun _ h => DialSequence.resume_endpointId h
    exact hFollowed.requests_eq.trans hScanned.requests_eq
  · exact h

end Site

namespace Site

variable {farewell : List Nat} {s : Site δ γ}

/-! ### The reaper and the end of a pool -/

theorem reap_booked (h : s.Booked farewell 0 0) : s.reap.Booked farewell 0 0 := by
  have hScan := scan_booked h
  unfold reap
  split
  · next s' hs =>
    rw [hs] at hScan
    exact hScan
  · next evicted s' hs =>
    rw [hs] at hScan
    dsimp only at hScan ⊢
    split
    · exact hScan
    · exact hScan.note trivial
  · next error s' hs =>
    rw [hs] at hScan
    exact hScan.note trivial

theorem answerWakes_booked (count : Nat) (h : s.Booked farewell 0 0) :
    (s.answerWakes count).Booked farewell 0 0 := by
  induction count generalizing s with
  | zero => exact h
  | succ count ih =>
      unfold answerWakes
      split
      · exact ih (reap_booked (h.aside trivial))
      · exact h

/-- The reaper notes its own life aside, and its scans keep their account. -/
theorem reaperTurn_booked (h : s.Booked farewell 0 0) : s.reaperTurn.Booked farewell 0 0 := by
  unfold reaperTurn
  split
  · exact h
  · split
    · exact h.aside trivial
    · have hAnswered := answerWakes_booked s.pool.wakes h
      unfold sleep
      split
      · exact hAnswered
      · split
        · exact reap_booked hAnswered
        · exact hAnswered
      · exact hAnswered

/-- That a pool learns that it is gone is not noted. -/
theorem tend_booked (h : s.Booked farewell 0 0) : s.tend.Booked farewell 0 0 := by
  refine reaperTurn_booked ?_
  unfold update Booked
  dsimp only
  split <;> exact h

/-- A pool says once how many handles it drops. -/
theorem close_booked (hOpen : s.pool.closed = false) (h : s.Booked [] 0 0) :
    s.close.Booked [s.pool.size] 0 0 := by
  unfold close
  rw [hOpen]
  refine Ledger.closed_cons ?_ s.pool.size
  unfold dismissReaper
  dsimp only
  split <;> first | exact h | exact h.aside trivial

end Site
end Tether
