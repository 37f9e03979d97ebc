import Tether.Proofs.Sharing
import Tether.Proofs.Waiting

/-! One sequence of dials, one outcome: all who waited behind its gate learn what the request learns
that dialed. The dialer takes the outcome from the sequence itself, the others from the gate or from
the registry. -/

namespace Tether

variable {δ γ : Type}

/-- The answer that a decided gate has for those who wait there, if it is a refusal. -/
def Gate.refusal : Gate → Option PoolError
  | failed error => some (.connect error)
  | closed => some .closed
  | _ => none

namespace Site

open Surroundings Pool

variable [Dialer δ γ] {s : Site δ γ} {gate handle : Nat} {id : String} {outcome : Gate}
  {error : PoolError} {now : Instant}

theorem pass_of_refusal (hDecided : s.pool.gates[gate]? = some outcome)
    (hRefusal : outcome.refusal = some error) : s.pass gate id = (.refused error, s) := by
  unfold pass
  rw [hDecided]
  cases outcome <;> cases hRefusal <;> rfl

theorem enter_of_lacks (hNamed : id ≠ "") (hLacks : s.pool.Lacks id) :
    s.enter id = s.startReaper.dial id := by
  obtain ⟨hOpen, hUnregistered, hUndialed⟩ := hLacks
  obtain ⟨_, hRoused⟩ := startReaper_spec s
  have hOpen' : s.startReaper.pool.closed = false := hRoused ▸ hOpen
  have hUnregistered' : s.startReaper.pool.registry.get? id = none := hRoused ▸ hUnregistered
  have hUndialed' : s.startReaper.pool.creating.get? id = none := hRoused ▸ hUndialed
  simp [enter, look, hOpen, hNamed, hOpen', hUnregistered', hUndialed']

theorem pass_of_lacks
    (hDecided : s.pool.gates[gate]? = some .created ∨ s.pool.gates[gate]? = some .givenUp)
    (hLacks : s.pool.Lacks id) : s.pass gate id = (s.note (.rechecking id)).dial id := by
  obtain ⟨hOpen, hUnregistered, hUndialed⟩ := hLacks
  unfold pass
  rcases hDecided with hDecided | hDecided
  · rw [hDecided]
    simp [look, note, hOpen, hUnregistered, hUndialed]
  · rw [hDecided]
    simp [look, note, hOpen, hUnregistered, hUndialed]

theorem resume_of_dialing {index : Nat} {sequence : DialSequence}
    (hDials : s.pool.requests[index]? =
      some { endpointId := id, state := .dialing gate sequence }) :
    s.resume index =
      (follow gate id (sequence.resume s.pool.shutdown s.env).1
        { s with env := (sequence.resume s.pool.shutdown s.env).2 }).2.update
          (Pool.setRequest index (follow gate id (sequence.resume s.pool.shutdown s.env).1
            { s with env := (sequence.resume s.pool.shutdown s.env).2 }).1) := by
  unfold resume
  rw [hDials]

/-- A gate that has no answer of its own lets those who waited look, and a handle that they find is
handed to them. -/
theorem pass_of_registered
    (hDecided : s.pool.gates[gate]? = some .created ∨ s.pool.gates[gate]? = some .givenUp)
    (hOpen : s.pool.closed = false) (hFound : s.pool.registry.get? id = some handle)
    (hShown : s.env.shown = some now) :
    Still s.env (s.pass gate id).2.env ∧ (s.pass gate id).1 = .granted handle ∧
      (s.pass gate id).2.pool = s.pool.lend now handle := by
  have hPass : s.pass gate id = (s.note (.rechecking id)).reuse handle id := by
    unfold pass
    rcases hDecided with hDecided | hDecided
    · rw [hDecided]
      simp [look, note, hOpen, hFound]
    · rw [hDecided]
      simp [look, note, hOpen, hFound]
  have hNote : Still s.env (s.note (.rechecking id)).env :=
    still_note (by rintro _ ⟨_, _, ⟨⟩⟩) _
  obtain ⟨hStill, hReuse⟩ := reuse_spec handle id (s.note (.rechecking id))
  rw [hPass]
  rcases hReuse with ⟨hBlind, _⟩ | ⟨now', hShown', hState, hPool⟩
  · cases hBlind.symm.trans (hNote.shown.trans hShown)
  · cases (hNote.shown.trans hShown).symm.trans hShown'
    exact ⟨hNote.trans hStill, hState, hPool⟩

end Site

namespace Pool

variable {p q : Pool γ} {handle count index : Nat} {now : Instant} {state : RequestState}

/-- The handle has been handed out that many times, and apart from the requests the pool is
otherwise as it was. -/
structure Lent (p : Pool γ) (handle count : Nat) (q : Pool γ) : Prop where
  closed : q.closed = p.closed
  gates : q.gates = p.gates
  creating : q.creating = p.creating
  registry : q.registry = p.registry
  counters : q.counters = { p.counters with reused := p.counters.reused + count }
  handle : ∀ h, p.handles[handle]? = some h → ∃ h', q.handles[handle]? = some h' ∧
    h'.refCount = h.refCount + count ∧ h'.connection = h.connection ∧ h'.endpointId = h.endpointId

theorem Lent.refl (p : Pool γ) : p.Lent handle 0 p :=
  ⟨rfl, rfl, rfl, rfl, rfl, fun h hMade => ⟨h, hMade, rfl, rfl, rfl⟩⟩

theorem Lent.lend (hLent : p.Lent handle count q) :
    p.Lent handle (count + 1) ((q.lend now handle).setRequest index state) := by
  refine ⟨hLent.closed, hLent.gates, hLent.creating, hLent.registry, ?_, ?_⟩
  · show { q.counters with reused := q.counters.reused + 1 } = _
    rw [hLent.counters]
    simp only [Nat.add_assoc]
  · intro h hMade
    obtain ⟨h', hMade', hCount, hConnection, hId⟩ := hLent.handle h hMade
    refine ⟨h'.borrow now, ?_, ?_, hConnection, hId⟩
    · show (q.handles.modify handle (Handle.borrow now))[handle]? = _
      rw [List.getElem?_modify_eq, hMade']
      rfl
    · show h'.refCount + 1 = _
      rw [hCount, Nat.add_assoc]

/-- The pool at the moment at which a sequence of dials behind `gate` goes on, compared with what it
was before the turn. -/
structure Ready (p : Pool γ) (id : String) (gate : Nat) (q : Pool γ) : Prop where
  closed : q.closed = p.closed
  handles : q.handles = p.handles
  counters : q.counters = { p.counters with evicted := q.counters.evicted }
  vacant : q.registry.get? id = none
  emptied : p.closed = true → q.registry = []
  raised : gate < q.gates.length
  listed : q.creating.get? id = some gate ∨ q.creating = []

variable {allowed : Prop} {clock : Option Instant} {id : String} {gate : Nat}

/-- Whatever the gate has for those who wait there, it no longer stands for the endpoint. -/
theorem Ready.creating_openGate (h : p.Ready id gate q) (outcome : Gate) :
    (q.openGate gate id outcome).creating.get? id = none := by
  unfold openGate
  rcases h.listed with hListed | hEmpty
  · simp [hListed]
  · simp [hEmpty, Table.get?_nil]

/-- How a sequence of dials ended, for the request with this number that dialed and for all those
who waited, from the pool before to the pool after. -/
inductive Ended (p : Pool γ) (id : String) (index : Nat) (waiters : List Nat) :
    DialProgress γ → Pool γ → Prop where
  | granted {connection : γ} {h : Handle γ} {p' : Pool γ} (open_ : p.closed = false)
      (answers : ∀ caller ∈ index :: waiters, p'.requests[caller]? =
        some { endpointId := id, state := .granted p.handles.length })
      (made : p'.handles[p.handles.length]? = some h) (owner : h.endpointId = id)
      (dialed : h.connection = connection) (held : h.refCount = waiters.length + 1)
      (registered : p'.registry.get? id = some p.handles.length)
      (created : p'.counters.created = p.counters.created + 1)
      (reused : p'.counters.reused = p.counters.reused + waiters.length) :
      Ended p id index waiters (.connected connection) p'
  | refused {error : ConnectError} {p' : Pool γ}
      (answers : ∀ caller ∈ index :: waiters, p'.requests[caller]? =
        some { endpointId := id, state := .refused (.connect error) })
      (failed : p'.counters.failed = p.counters.failed + 1)
      (unregistered : p'.registry.get? id = none) (handles : p'.handles = p.handles)
      (ungated : p'.creating.get? id = none) : Ended p id index waiters (.failed error) p'
  | discarded {connection : γ} {p' : Pool γ} (late : p.closed = true)
      (answers : ∀ caller ∈ index :: waiters, p'.requests[caller]? =
        some { endpointId := id, state := .refused .closed })
      (registry : p'.registry = []) (handles : p'.handles = p.handles)
      (created : p'.counters.created = p.counters.created) :
      Ended p id index waiters (.connected connection) p'

/-- A sequence of dials that was suspended goes on. -/
theorem Scanned.ready {s : DialSequence} (h : Scanned allowed clock p q)
    (hSound : p.Sound p.requests)
    (hDials : p.requests[index]? = some { endpointId := id, state := .dialing gate s }) :
    p.Ready id gate q := by
  have hDialsAt : DialsAt p.requests index id gate := ⟨s, hDials⟩
  have hGate := (List.getElem?_eq_some_iff.mp (hSound.undecided index id gate hDialsAt)).1
  have hRegistry : p.registry.get? id = none := by
    cases hClosed : p.closed with
    | false => exact hSound.vacant hClosed index id gate hDialsAt
    | true => rw [(hSound.emptied hClosed).2, Table.get?_nil]
  refine ⟨h.closed_eq, h.handles_eq, h.counters_eq, h.registry_none hRegistry, ?_, ?_, ?_⟩
  · intro hClosed
    rcases h with rfl | ⟨_, _, now, _, rfl⟩
    · exact (hSound.emptied hClosed).2
    · rw [swept_registry, (hSound.emptied hClosed).2, List.filter_nil]
  · rw [h.eq]
    exact hGate
  · rw [h.eq]
    cases hClosed : p.closed with
    | false => exact Or.inl ((hSound.listed hClosed id gate).mpr ⟨index, hDialsAt⟩)
    | true => exact Or.inr (hSound.emptied hClosed).1

/-- A sequence of dials starts behind a gate of its own. -/
theorem Scanned.ready_raised (h : Scanned allowed clock p q) (hLacks : p.Lacks id) :
    p.Ready id p.gates.length (q.raiseGate id) := by
  have hGates : q.gates = p.gates := by rw [h.eq]
  refine ⟨h.closed_eq, h.handles_eq, h.counters_eq, h.registry_none hLacks.unregistered, ?_, ?_,
    Or.inl ?_⟩
  · intro hClosed
    cases hLacks.open_.symm.trans hClosed
  · show p.gates.length < (q.gates ++ [Gate.pending]).length
    rw [hGates, List.length_append, List.length_singleton]
    exact Nat.lt_succ_self _
  · show (q.creating.insert id q.gates.length).get? id = some p.gates.length
    rw [Table.get?_insert, if_pos rfl, hGates]

end Pool

namespace World

open Surroundings Pool

/-- No time passes, no sequence of dials starts, and nobody asks the factory for anything. -/
structure Quiet (w w' : World δ γ) : Prop where
  record : Recorded Event.StartsNone w.env w'.env
  factory : w'.env.factory = w.env.factory

theorem Quiet.refl (w : World δ γ) : Quiet w w := ⟨.refl _, rfl⟩

theorem Quiet.trans {w w' w'' : World δ γ} (first : Quiet w w') (second : Quiet w' w'') :
    Quiet w w'' :=
  ⟨first.record.trans second.record, second.factory.trans first.factory⟩

variable [Dialer δ γ] {w : World δ γ} {number index gate handle : Nat} {id : String}
  {p : Pool γ} {now : Instant}

/-- A turn of a request that waits, if it touches nothing but the pool. -/
theorem perform_resume_still (hp : w.pools[number]? = some p)
    (hWaits : p.requests[index]? = some { endpointId := id, state := .waiting gate })
    (hStill : Still (w.site number p).env ((w.site number p).pass gate id).2.env) :
    Quiet w (w.perform (.resume number index)) ∧
      (w.perform (.resume number index)).pools[number]? =
        some (((w.site number p).pass gate id).2.pool.setRequest index
          ((w.site number p).pass gate id).1) := by
  have hTurn : (w.site number p).resume index =
      ((w.site number p).pass gate id).2.update
        (Pool.setRequest index ((w.site number p).pass gate id).1) :=
    Site.resume_of_waiting hWaits
  have hRecord : Recorded (Event.StartsOnly fun _ => False) (w.site number p).env
      ((w.site number p).resume index).env := by
    rw [hTurn]
    exact hStill.toRecorded.startsOnly
  obtain ⟨_, hVisited⟩ := visit_spec hp (fun s => ((), s.resume index)) hRecord
  have hPool := hVisited.pool
  have hFactory := hVisited.factory
  rw [hTurn] at hPool hFactory
  refine ⟨⟨hVisited.record.mono fun e he id hs => he id hs, hFactory.trans hStill.factory⟩, hPool⟩

/-- One after another, in any order, all who wait behind a gate get their turn. What one turn does
to the pool, given the number of turns before it, they do together. -/
theorem performAll_resume (state : RequestState) (Inv : Nat → Pool γ → Prop)
    (hTurn : ∀ (w : World δ γ) (p : Pool γ) (count index : Nat), w.pools[number]? = some p →
      w.env.shown = some now → Inv count p →
      p.requests[index]? = some { endpointId := id, state := .waiting gate } →
        Quiet w (w.perform (.resume number index)) ∧
          ∃ p', (w.perform (.resume number index)).pools[number]? = some p' ∧ Inv (count + 1) p' ∧
            p'.requests = p.requests.set index { endpointId := id, state := state })
    (order : List Nat) (hNodup : order.Nodup) (count : Nat) (w : World δ γ) (p : Pool γ)
    (hp : w.pools[number]? = some p) (hShown : w.env.shown = some now) (hInv : Inv count p)
    (hWaits : ∀ index ∈ order,
      p.requests[index]? = some { endpointId := id, state := .waiting gate }) :
    Quiet w (w.performAll (order.map (.resume number))) ∧
      ∃ p', (w.performAll (order.map (.resume number))).pools[number]? = some p' ∧
        Inv (count + order.length) p' ∧
        (∀ index ∈ order, p'.requests[index]? = some { endpointId := id, state := state }) ∧
        ∀ index, index ∉ order → p'.requests[index]? = p.requests[index]? := by
  induction order generalizing count w p with
  | nil => exact ⟨.refl w, p, hp, hInv, nofun, fun _ _ => rfl⟩
  | cons first rest ih =>
      obtain ⟨hFirst, hRest⟩ := List.nodup_cons.mp hNodup
      have hWaitsFirst := hWaits first (List.mem_cons_self ..)
      obtain ⟨hQuiet, p', hp', hInv', hRequests⟩ := hTurn w p count first hp hShown hInv hWaitsFirst
      have hOthers (index : Nat) (hOther : index ≠ first) :
          p'.requests[index]? = p.requests[index]? := by
        rw [hRequests, List.getElem?_set_ne hOther.symm]
      have hWaits' (index : Nat) (hIndex : index ∈ rest) :
          p'.requests[index]? = some { endpointId := id, state := .waiting gate } := by
        rw [hOthers index fun he => hFirst (he ▸ hIndex)]
        exact hWaits index (List.mem_cons_of_mem _ hIndex)
      obtain ⟨hQuiet', p'', hp'', hInv'', hAnswered, hLeft⟩ :=
        ih hRest (count + 1) _ p' hp' (hQuiet.record.shown.trans hShown) hInv' hWaits'
      have hCount : count + (first :: rest).length = count + 1 + rest.length := by
        rw [List.length_cons]
        omega
      refine ⟨hQuiet.trans hQuiet', p'', hp'', hCount ▸ hInv'', ?_, ?_⟩
      · intro index hIndex
        rcases List.mem_cons.mp hIndex with rfl | hIndex
        · rw [hLeft index hFirst, hRequests]
          exact List.getElem?_set_self (List.getElem?_eq_some_iff.mp hWaitsFirst).1
        · exact hAnswered index hIndex
      · intro index hIndex
        have hOther : index ≠ first := by
          rintro rfl
          exact hIndex (List.mem_cons_self ..)
        rw [hLeft index fun h => hIndex (List.mem_cons_of_mem _ h), hOthers index hOther]

/-- Behind a gate that was decided against them, all are refused, and the pool is left as it was. -/
theorem performAll_refused {outcome : Gate} {error : PoolError} {order : List Nat}
    (hp : w.pools[number]? = some p) (hShown : w.env.shown = some now) (hNodup : order.Nodup)
    (hWaits : ∀ index ∈ order,
      p.requests[index]? = some { endpointId := id, state := .waiting gate })
    (hDecided : p.gates[gate]? = some outcome) (hRefusal : outcome.refusal = some error) :
    Quiet w (w.performAll (order.map (.resume number))) ∧
      ∃ p', (w.performAll (order.map (.resume number))).pools[number]? = some p' ∧
        p' = { p with requests := p'.requests } ∧
        (∀ index ∈ order,
          p'.requests[index]? = some { endpointId := id, state := .refused error }) ∧
        ∀ index, index ∉ order → p'.requests[index]? = p.requests[index]? := by
  refine performAll_resume (.refused error) (fun _ q => q = { p with requests := q.requests })
    (fun w q count index hq _ hInv hWaits => ?_) order hNodup 0 w p hp hShown rfl hWaits
  have hGate : (w.site number q).pool.gates[gate]? = some outcome := by
    show q.gates[gate]? = some outcome
    rw [hInv]
    exact hDecided
  have hPass : (w.site number q).pass gate id = (.refused error, w.site number q) :=
    Site.pass_of_refusal hGate hRefusal
  obtain ⟨hQuiet, hq'⟩ := perform_resume_still hq hWaits (hPass ▸ .refl _)
  rw [hPass] at hq'
  refine ⟨hQuiet, _, hq', ?_, requests_setRequest hWaits⟩
  show q.setRequest index _ = { p with requests := (q.setRequest index _).requests }
  rw [hInv]
  rfl

/-- Behind a gate that has no answer of its own, everybody is handed the handle that is registered.
-/
theorem performAll_granted {order : List Nat}
    (hp : w.pools[number]? = some p) (hShown : w.env.shown = some now) (hNodup : order.Nodup)
    (hWaits : ∀ index ∈ order,
      p.requests[index]? = some { endpointId := id, state := .waiting gate })
    (hDecided : p.gates[gate]? = some .created ∨ p.gates[gate]? = some .givenUp)
    (hOpen : p.closed = false) (hFound : p.registry.get? id = some handle) :
    Quiet w (w.performAll (order.map (.resume number))) ∧
      ∃ p', (w.performAll (order.map (.resume number))).pools[number]? = some p' ∧
        p.Lent handle order.length p' ∧
        (∀ index ∈ order,
          p'.requests[index]? = some { endpointId := id, state := .granted handle }) ∧
        ∀ index, index ∉ order → p'.requests[index]? = p.requests[index]? := by
  have hLent := performAll_resume (.granted handle) (fun count q => p.Lent handle count q)
    (fun w q count index hq hShown hInv hWaits => ?_) order hNodup 0 w p hp hShown (.refl p) hWaits
  · rwa [Nat.zero_add] at hLent
  · have hGate : (w.site number q).pool.gates[gate]? = some .created ∨
        (w.site number q).pool.gates[gate]? = some .givenUp := hInv.gates ▸ hDecided
    have hRegistry : (w.site number q).pool.registry.get? id = some handle := hInv.registry ▸ hFound
    obtain ⟨hStill, hState, hPool⟩ :=
      Site.pass_of_registered hGate (hInv.closed.trans hOpen) hRegistry hShown
    obtain ⟨hQuiet, hq'⟩ := perform_resume_still hq hWaits hStill
    rw [hState, hPool] at hq'
    exact ⟨hQuiet, _, hq', hInv.lend, requests_setRequest (p := q.lend now handle) hWaits⟩

/-- In this act the request with this number starts its sequence of dials behind `gate`, or takes it
up again, and the sequence gets this far. -/
inductive Dials (w : World δ γ) (number : Nat) (p : Pool γ) (index : Nat) (id : String)
    (gate : Nat) : Act δ → DialProgress γ → Prop where
  | resumed {s : DialSequence}
      (dials : p.requests[index]? = some { endpointId := id, state := .dialing gate s }) :
      Dials w number p index id gate (.resume number index)
        (s.resume p.shutdown (w.site number p).env).1
  | started (named : id ≠ "") (lacks : p.Lacks id) (place : index = p.requests.length)
      (raised : gate = p.gates.length) :
      Dials w number p index id gate (.get number id)
        (DialSequence.start id p.shutdown (w.site number p).startReaper.env).1
  | restarted {old : Nat}
      (waited : p.requests[index]? = some { endpointId := id, state := .waiting old })
      (decided : p.gates[old]? = some .created ∨ p.gates[old]? = some .givenUp)
      (lacks : p.Lacks id) (raised : gate = p.gates.length) :
      Dials w number p index id gate (.resume number index)
        (DialSequence.start id p.shutdown ((w.site number p).note (.rechecking id)).env).1

variable {act : Act δ} {progress : DialProgress γ}

/-- What such an act comes to: the request with this number has got to `state`, the others have not
moved, and no time has passed. -/
structure Turned (w : World δ γ) (number : Nat) (p : Pool γ) (index : Nat) (id : String)
    (gate : Nat) (progress : DialProgress γ) (state : RequestState) (p' : Pool γ)
    (w' : World δ γ) : Prop where
  followed : ∃ q r, p.Ready id gate q ∧ Followed w.env.shown gate id id q progress state r ∧
    p' = { r with requests := p'.requests }
  pool : w'.pools[number]? = some p'
  now : w'.env.now = w.env.now
  shown : w'.env.shown = w.env.shown
  answer : p'.requests[index]? = some { endpointId := id, state := state }
  others : ∀ (other : Nat) r, other ≠ index → p.requests[other]? = some r →
    p'.requests[other]? = some r

/-- A turn in which a request that the pool lists already follows its sequence of dials. -/
theorem turned_of_resume {old : RequestState} {r : Pool γ} (hp : w.pools[number]? = some p)
    (hOld : p.requests[index]? = some { endpointId := id, state := old })
    {s : Site δ γ} (hTurn : (w.site number p).resume index = s.update (Pool.setRequest index state))
    (hRecord : Recorded (fun _ => True) (w.site number p).env s.env)
    (hReady : p.Ready id gate r) (hRequests : r.requests = p.requests)
    (hFollowed : Followed w.env.shown gate id id r progress state s.pool) :
    ∃ p', Turned w number p index id gate progress state p' (w.perform (.resume number index)) := by
  have hRecord' : Recorded (Event.StartsOnly fun _ => True) (w.site number p).env
      ((w.site number p).resume index).env := by
    rw [hTurn]
    exact hRecord.mono fun _ _ _ _ => trivial
  obtain ⟨_, hVisited⟩ := visit_spec hp (fun s => ((), s.resume index)) hRecord'
  have hPool := hVisited.pool
  have hSame : s.pool.requests = p.requests := hFollowed.requests_eq.trans hRequests
  rw [hTurn] at hPool
  have hListed : (s.pool.setRequest index state).requests =
      p.requests.set index { endpointId := id, state := state } := by
    rw [requests_setRequest (hSame ▸ hOld), hSame]
  refine ⟨_, ⟨r, s.pool, hReady, hFollowed, rfl⟩, hPool, hVisited.record.now,
    hVisited.record.shown, ?_, ?_⟩
  · show (s.pool.setRequest index state).requests[index]? = _
    rw [hListed]
    exact List.getElem?_set_self (List.getElem?_eq_some_iff.mp hOld).1
  · intro other request hOther hRequest
    show (s.pool.setRequest index state).requests[other]? = _
    rw [hListed, List.getElem?_set_ne hOther.symm]
    exact hRequest

/-- The first turn of a new request, if it dials. -/
theorem turned_of_get {s : Site δ γ} {r : Pool γ} (hp : w.pools[number]? = some p)
    (hTurn : (w.site number p).enter id = (state, s))
    (hRecord : Recorded (fun _ => True) (w.site number p).env s.env)
    (hReady : p.Ready id gate r) (hRequests : r.requests = p.requests)
    (hFollowed : Followed w.env.shown gate id id r progress state s.pool) :
    ∃ p', Turned w number p p.requests.length id gate progress state p'
      (w.perform (.get number id)) := by
  have hGet : Site.get id (w.site number p) = (s.pool.requests.length,
      s.update fun p => { p with requests := p.requests ++ [{ endpointId := id, state }] }) := by
    unfold Site.get
    rw [hTurn]
  have hRecord' : Recorded (Event.StartsOnly fun _ => True) (w.site number p).env
      (Site.get id (w.site number p)).2.env := by
    rw [hGet]
    exact hRecord.mono fun _ _ _ _ => trivial
  obtain ⟨_, hVisited⟩ := visit_spec hp (Site.get id) hRecord'
  have hPool := hVisited.pool
  have hSame : s.pool.requests = p.requests := hFollowed.requests_eq.trans hRequests
  rw [hGet] at hPool
  refine ⟨_, ⟨r, s.pool, hReady, hFollowed, rfl⟩, hPool, hVisited.record.now,
    hVisited.record.shown, ?_, ?_⟩
  · show (s.pool.requests ++ [_])[p.requests.length]? = _
    rw [hSame, List.getElem?_concat_length]
  · intro other request _ hRequest
    show (s.pool.requests ++ [_])[other]? = _
    rw [hSame, List.getElem?_append_left (List.getElem?_eq_some_iff.mp hRequest).1]
    exact hRequest

theorem Dials.turned (hDials : Dials w number p index id gate act progress)
    (hSound : p.Sound p.requests) (hp : w.pools[number]? = some p) :
    ∃ state p', Turned w number p index id gate progress state p' (w.perform act) := by
  cases hDials with
  | @resumed s dials =>
      let resumed : DialProgress γ × Surroundings δ := s.resume p.shutdown (w.site number p).env
      have hNoted : Noted Event.StartsNone (w.site number p).env resumed.2 :=
        DialSequence.resume_noted ..
      obtain ⟨hStill, q, hScanned, hFollowed⟩ := Site.follow_spec gate id id resumed.1
        { w.site number p with env := resumed.2 } fun s' h =>
          (DialSequence.resume_endpointId h).trans (hSound.sequence index id gate s dials)
      simp only [hNoted.shown] at hScanned hFollowed
      have hTurn := Site.resume_of_dialing (s := w.site number p) dials
      have hRecord := (hNoted.trans hStill.toNoted).toRecorded.mono fun _ _ => trivial
      obtain ⟨p', hTurned⟩ := turned_of_resume hp dials hTurn hRecord (hScanned.ready hSound dials)
        hScanned.requests_eq hFollowed
      exact ⟨_, p', hTurned⟩
  | started named lacks place raised =>
      subst place raised
      obtain ⟨hStill, hRoused⟩ := Site.startReaper_spec (w.site number p)
      have hEnter := Site.enter_of_lacks (s := w.site number p) named lacks
      obtain ⟨hNoted, q, hScanned, hFollowed⟩ := Site.dial_spec id (w.site number p).startReaper
      rw [hRoused, hStill.shown] at hScanned
      rw [hRoused, hStill.shown] at hFollowed
      have hGates : q.gates = p.gates := by rw [hScanned.eq]; rfl
      rw [hGates] at hFollowed
      have hRecord := ((hStill.toNoted.mono fun _ _ => trivial).trans
        (hNoted.mono fun _ _ => trivial)).toRecorded
      have hLacks : (roused p).Lacks id := ⟨lacks.open_, lacks.unregistered, lacks.undialed⟩
      have hReady := hScanned.ready_raised hLacks
      obtain ⟨p', hTurned⟩ := turned_of_get hp hEnter hRecord
        ⟨hReady.closed, hReady.handles, hReady.counters, hReady.vacant, hReady.emptied,
          hReady.raised, hReady.listed⟩ hScanned.requests_eq hFollowed
      exact ⟨_, p', hTurned⟩
  | @restarted old waited decided lacks raised =>
      subst raised
      have hPass := Site.pass_of_lacks (s := w.site number p) decided lacks
      obtain ⟨hNoted, q, hScanned, hFollowed⟩ :=
        Site.dial_spec id ((w.site number p).note (.rechecking id))
      have hTurn := Site.resume_of_waiting (s := w.site number p) waited
      rw [hPass] at hTurn
      have hGates : q.gates = p.gates := by rw [hScanned.eq]; rfl
      rw [hGates] at hFollowed
      have hRecord := ((noted_note trivial _).trans
        (hNoted.mono fun _ _ => trivial)).toRecorded
      obtain ⟨p', hTurned⟩ := turned_of_resume hp waited hTurn hRecord
        (hScanned.ready_raised lacks) hScanned.requests_eq hFollowed
      exact ⟨_, p', hTurned⟩

/-- Those who wait behind the gate of a sequence of dials want the same endpoint, and none of them
is the request that dials. -/
theorem Dials.waiters (hDials : Dials w number p index id gate act progress)
    (hSound : p.Sound p.requests) {other : Nat} {id' : String}
    (hWaits : p.requests[other]? = some { endpointId := id', state := .waiting gate }) :
    id' = id ∧ other ≠ index := by
  obtain ⟨hBound, hJoined⟩ := hSound.joined other id' gate hWaits
  cases hDials with
  | resumed dials =>
      refine ⟨(hJoined index id ⟨_, dials⟩).symm, ?_⟩
      rintro rfl
      cases hWaits.symm.trans dials
  | started named lacks place raised =>
      subst raised
      exact absurd hBound (Nat.lt_irrefl _)
  | restarted waited decided lacks raised =>
      subst raised
      exact absurd hBound (Nat.lt_irrefl _)

theorem answers_of {p' p'' : Pool γ} {waiters : List Nat}
    (hOwner : p'.requests[index]? = some { endpointId := id, state := state })
    (hNot : index ∉ waiters)
    (hAnswered : ∀ caller ∈ waiters,
      p''.requests[caller]? = some { endpointId := id, state := state })
    (hLeft : ∀ other, other ∉ waiters → p''.requests[other]? = p'.requests[other]?) (caller : Nat)
    (hCaller : caller ∈ index :: waiters) :
    p''.requests[caller]? = some { endpointId := id, state := state } := by
  rcases List.mem_cons.mp hCaller with rfl | hWaiter
  · rw [hLeft caller hNot]
    exact hOwner
  · exact hAnswered caller hWaiter

/-- A handle was made, and those who waited have it too, whatever gate it was that let them look. -/
theorem ended_enrolled {now : Instant} {waiters : List Nat} {w' : World δ γ} {q p' : Pool γ}
    {connection : γ} {raised : Nat} (hReady : p.Ready id raised q)
    (hp : w'.pools[number]? = some p') (hShown : w'.env.shown = some now) (hNodup : waiters.Nodup)
    (hNot : index ∉ waiters)
    (hWaits : ∀ other ∈ waiters,
      p'.requests[other]? = some { endpointId := id, state := .waiting gate })
    (hDecided : p'.gates[gate]? = some .created ∨ p'.gates[gate]? = some .givenUp)
    (hOpen : q.closed = false)
    (hp' : p' = { (q.enroll now id connection).openGate raised id .created with
      requests := p'.requests })
    (hOwner : p'.requests[index]? =
      some { endpointId := id, state := .granted q.handles.length }) :
    Quiet w' (w'.performAll (waiters.map (.resume number))) ∧
      ∃ p'', (w'.performAll (waiters.map (.resume number))).pools[number]? = some p'' ∧
        p.Ended id index waiters (.connected connection) p'' := by
  have hFound : p'.registry.get? id = some q.handles.length := by
    rw [hp']
    show (q.registry.insert id q.handles.length).get? id = _
    rw [Table.get?_insert, if_pos rfl]
  have hMade : p'.handles[q.handles.length]? =
      some ((Handle.fresh now id connection).borrow now) := by
    rw [hp']
    exact List.getElem?_concat_length
  have hCounters : p'.counters = { q.counters with created := q.counters.created + 1 } := by
    rw [hp']
    rfl
  have hOpen' : p'.closed = false := by
    rw [hp']
    exact hOpen
  obtain ⟨hQuiet, p'', hp'', hLent, hAnswered, hLeft⟩ :=
    performAll_granted hp hShown hNodup hWaits hDecided hOpen' hFound
  obtain ⟨h, hMade', hCount, hConnection, hId⟩ := hLent.handle _ hMade
  rw [hReady.handles] at hOwner hAnswered hMade' hFound
  refine ⟨hQuiet, p'', hp'', .granted (hReady.closed.symm.trans hOpen)
    (answers_of hOwner hNot hAnswered hLeft) hMade' hId hConnection
    (hCount.trans (Nat.add_comm ..)) ?_ ?_ ?_⟩
  · rw [hLent.registry]
    exact hFound
  · rw [hLent.counters, hCounters, hReady.counters]
  · rw [hLent.counters, hCounters, hReady.counters]

section Endings

variable {now : Instant} {waiters : List Nat} {w' : World δ γ} {q p' : Pool γ}
  (hReady : p.Ready id gate q) (hp : w'.pools[number]? = some p') (hShown : w'.env.shown = some now)
  (hNodup : waiters.Nodup) (hNot : index ∉ waiters)
  (hWaits : ∀ other ∈ waiters,
    p'.requests[other]? = some { endpointId := id, state := .waiting gate })

include hReady hp hShown hNodup hNot hWaits

/-- The sequence failed. -/
theorem ended_refused {error : ConnectError}
    (hp' : p' = { q.countFailure.openGate gate id (.failed error) with requests := p'.requests })
    (hOwner : p'.requests[index]? =
      some { endpointId := id, state := .refused (.connect error) }) :
    Quiet w' (w'.performAll (waiters.map (.resume number))) ∧
      ∃ p'', (w'.performAll (waiters.map (.resume number))).pools[number]? = some p'' ∧
        p.Ended id index waiters (.failed error) p'' := by
  have hGate : p'.gates[gate]? = some (.failed error) := by
    rw [hp']
    exact List.getElem?_set_self hReady.raised
  obtain ⟨hQuiet, p'', hp'', hSame, hAnswered, hLeft⟩ :=
    performAll_refused hp hShown hNodup hWaits hGate rfl
  rw [hp'] at hSame
  refine ⟨hQuiet, p'', hp'', .refused (answers_of hOwner hNot hAnswered hLeft) ?_ ?_ ?_ ?_⟩
  · have hCounters : p''.counters = { q.counters with failed := q.counters.failed + 1 } := by
      rw [hSame]
      rfl
    rw [hCounters, hReady.counters]
  · rw [hSame]
    exact hReady.vacant
  · rw [hSame]
    exact hReady.handles
  · rw [hSame]
    exact hReady.creating_openGate (.failed error)

/-- The connection came after the pool was closed. -/
theorem ended_discarded {connection : γ} (hClosed : q.closed = true)
    (hp' : p' = { q.openGate gate id .closed with requests := p'.requests })
    (hOwner : p'.requests[index]? = some { endpointId := id, state := .refused .closed }) :
    Quiet w' (w'.performAll (waiters.map (.resume number))) ∧
      ∃ p'', (w'.performAll (waiters.map (.resume number))).pools[number]? = some p'' ∧
        p.Ended id index waiters (.connected connection) p'' := by
  have hGate : p'.gates[gate]? = some .closed := by
    rw [hp']
    exact List.getElem?_set_self hReady.raised
  obtain ⟨hQuiet, p'', hp'', hSame, hAnswered, hLeft⟩ :=
    performAll_refused hp hShown hNodup hWaits hGate rfl
  rw [hp'] at hSame
  have hLate : p.closed = true := hReady.closed.symm.trans hClosed
  refine ⟨hQuiet, p'', hp'', .discarded hLate (answers_of hOwner hNot hAnswered hLeft) ?_ ?_ ?_⟩
  · rw [hSame]
    exact hReady.emptied hLate
  · rw [hSame]
    exact hReady.handles
  · have hCounters : p''.counters = q.counters := by
      rw [hSame]
      rfl
    rw [hCounters, hReady.counters]

/-- The connection came, and a handle was made for it. -/
theorem ended_granted {connection : γ} (hOpen : q.closed = false)
    (hp' : p' = { (q.enroll now id connection).openGate gate id .created with
      requests := p'.requests })
    (hOwner : p'.requests[index]? =
      some { endpointId := id, state := .granted q.handles.length }) :
    Quiet w' (w'.performAll (waiters.map (.resume number))) ∧
      ∃ p'', (w'.performAll (waiters.map (.resume number))).pools[number]? = some p'' ∧
        p.Ended id index waiters (.connected connection) p'' := by
  have hGate : p'.gates[gate]? = some .created := by
    rw [hp']
    exact List.getElem?_set_self hReady.raised
  exact ended_enrolled hReady hp hShown hNodup hNot hWaits (Or.inl hGate) hOpen hp' hOwner

end Endings

/-- When a sequence of dials ends, everybody who waits behind its gate gets the same outcome as the
request that dialed, in whatever order they have their turns. Until they all have it no time passes,
and none of those who waited dials. -/
theorem shared_outcome {now : Instant} {waiters : List Nat} (hReachable : w.Reachable)
    (hp : w.pools[number]? = some p) (hShown : w.env.shown = some now)
    (hDials : Dials w number p index id gate act progress)
    (hEnded : ∀ s, progress ≠ .waiting s) (hNodup : waiters.Nodup)
    (hWaiters : ∀ other, other ∈ waiters ↔
      ∃ id', p.requests[other]? = some { endpointId := id', state := .waiting gate }) :
    (w.perform act).env.now = w.env.now ∧
      Quiet (w.perform act) ((w.perform act).performAll (waiters.map (.resume number))) ∧
      ∃ p', ((w.perform act).performAll (waiters.map (.resume number))).pools[number]? = some p' ∧
        p.Ended id index waiters progress p' := by
  have hSound := hReachable.sound hp
  obtain ⟨state, p₁, ⟨q, r, hReady, hFollowed, hp₁⟩, hPool, hNow, hShown₁, hOwner, hOthers⟩ :=
    hDials.turned hSound hp
  have hWaits (other : Nat) (hOther : other ∈ waiters) :
      p₁.requests[other]? = some { endpointId := id, state := .waiting gate } := by
    obtain ⟨id', hRequest⟩ := (hWaiters other).mp hOther
    obtain ⟨rfl, hNot⟩ := hDials.waiters hSound hRequest
    exact hOthers other _ hNot hRequest
  have hNot : index ∉ waiters := by
    intro hIndex
    obtain ⟨id', hRequest⟩ := (hWaiters index).mp hIndex
    exact (hDials.waiters hSound hRequest).2 rfl
  rw [hShown] at hFollowed hShown₁
  refine ⟨hNow, ?_⟩
  cases hFollowed with
  | waiting => exact absurd rfl (hEnded _)
  | unread blind => cases blind
  | failed error => exact ended_refused hReady hPool hShown₁ hNodup hNot hWaits hp₁ hOwner
  | discarded shown late =>
      exact ended_discarded hReady hPool hShown₁ hNodup hNot hWaits late hp₁ hOwner
  | created shown open_ =>
      cases shown
      exact ended_granted hReady hPool hShown₁ hNodup hNot hWaits open_ hp₁ hOwner

/-- Three requests for one endpoint, at the moment at which the dial of the first one lands. -/
def landing : World (FixedDialer Nat) Nat :=
  performAll [.openPool 10, .get 0 "db", .get 0 "db", .get 0 "db", .pass 5]
    { env := { factory := { dialer := { connection := 7, latency := 5 } } } }

theorem landing_shared :
    ∃ p, (performAll [.resume 0 0, .resume 0 2, .resume 0 1] landing).pools[0]? = some p ∧
      p.requests[1]? = some { endpointId := "db", state := .granted 0 } ∧
      p.requests[2]? = some { endpointId := "db", state := .granted 0 } ∧ p.refCount 0 = 3 := by
  have hReachable : landing.Reachable := ⟨_, _, rfl⟩
  have hPool : ∃ p, landing.pools[0]? = some p ∧ p.closed = false ∧ p.handles = [] ∧ ∃ s,
      p.requests = [⟨"db", .dialing 0 s⟩, ⟨"db", .waiting 0⟩, ⟨"db", .waiting 0⟩] ∧
        (s.resume p.shutdown (landing.site 0 p).env).1 = .connected 7 :=
    ⟨_, rfl, rfl, rfl, _, rfl, rfl⟩
  obtain ⟨p, hp, hOpen, hHandles, s, hRequests, hConnected⟩ := hPool
  have hDials : landing.Dials 0 p 0 "db" 0 (.resume 0 0) (.connected 7) := by
    rw [← hConnected]
    exact .resumed (by rw [hRequests]; rfl)
  have hWaiters (other : Nat) : other ∈ [2, 1] ↔
      ∃ id, p.requests[other]? = some { endpointId := id, state := .waiting 0 } := by
    rw [hRequests]
    match other with
    | 0 | 1 | 2 => simp
    | other + 3 => simp
  obtain ⟨_, _, p', hp', hEnded⟩ :=
    shared_outcome hReachable hp rfl hDials nofun (by decide) hWaiters
  cases hEnded with
  | granted _ answers made _ _ held =>
      rw [hHandles] at answers made
      have hMade : p'.handles[0]? = some _ := made
      refine ⟨p', hp', answers 1 (by decide), answers 2 (by decide), ?_⟩
      rw [Pool.refCount, hMade]
      exact held
  | discarded late => cases hOpen.symm.trans late

end World

end Tether
