import Tether.Proofs.Frame
import Tether.Proofs.Reports
import Tether.Proofs.Separation
import Tether.Proofs.SharedOutcome

/-! What one call about an endpoint leaves behind. A call asks for a connection, gives a borrow back
or reports a handle as broken. Where it is over at once, its imprint says all that it changes: a
handle that there was, a handle that is new, an entry of the registry, counters, and what factory
and dialer know of the endpoint. -/

namespace Tether

variable {δ γ : Type}

/-- An operation of a caller on a pool. -/
inductive Call where
  | get (id : String)
  | release (ref : HandleRef)
  | report (ref : HandleRef) (cause : String)
  deriving Repr, DecidableEq

/-- What a caller is told. -/
inductive Reply where
  | got (state : Option RequestState)
  | released (result : Option (Except PoolError Unit))
  | reported (result : Except PoolError Bool)
  deriving DecidableEq

/-- The call is over: nobody waits for anything. -/
def Reply.IsFinal : Reply → Prop
  | got state => ∀ s ∈ state, s.isLive = false
  | released _ | reported _ => True

def Call.act (number : Nat) : Call → Act δ
  | get id => .get number id
  | release ref => .release number ref
  | report ref cause => .report number ref cause

/-- Counters that grow by those of one call. -/
def Counters.plus (c more : Counters) : Counters :=
  { created := c.created + more.created
    reused := c.reused + more.reused
    failed := c.failed + more.failed
    evicted := c.evicted + more.evicted
    invalidated := c.invalidated + more.invalidated }

theorem Counters.plus_right_comm (c d e : Counters) : (c.plus d).plus e = (c.plus e).plus d := by
  simp only [plus, Nat.add_right_comm]

/-- What a call changes. -/
structure Imprint (δ γ : Type) where
  endpointId : String
  /-- A handle that there was, as the call leaves it. -/
  used : Option (HandleRef × Handle γ) := none
  made : Option (Handle γ) := none
  /-- A gate that was set up, as it is once it has been opened. -/
  gate : Option Gate := none
  /-- The endpoint is taken out of the registry. -/
  expels : Bool := false
  /-- The reaper is started, if it never was before. -/
  rouses : Bool := false
  counted : Counters := {}
  /-- The dialer after a sequence of dials. -/
  dialed : Option δ := none
  /-- The answer, given the number that a new handle gets. -/
  reply : Nat → Reply

namespace Imprint

/-! The ways in which a call can be over at once. -/

def unnamed : Imprint δ γ :=
  { endpointId := "", rouses := true
    reply := fun _ => .got (some (.refused .invalidEndpointId)) }

/-- A registered handle is handed out. -/
def reused (id : String) (ref : HandleRef) (lent : Handle γ) : Imprint δ γ :=
  { endpointId := id, used := some (ref, lent), rouses := true, counted := { reused := 1 }
    reply := fun _ => .got (some (.granted ref.index)) }

def connected (id : String) (lent : Handle γ) (dialer : δ) : Imprint δ γ :=
  { endpointId := id, made := some lent, gate := some .created, rouses := true
    counted := { created := 1 }, dialed := some dialer
    reply := fun count => .got (some (.granted count)) }

def failed (id : String) (error : ConnectError) (dialer : δ) : Imprint δ γ :=
  { endpointId := id, gate := some (.failed error), rouses := true, counted := { failed := 1 }
    dialed := some dialer, reply := fun _ => .got (some (.refused (.connect error))) }

def released (ref : HandleRef) (result : Except PoolError Unit × Handle γ) : Imprint δ γ :=
  { endpointId := result.2.endpointId, used := some (ref, result.2)
    reply := fun _ => .released (some result.1) }

/-- A registered handle is reported as broken. -/
def reported (id : String) : Imprint δ γ :=
  { endpointId := id, expels := true, counted := { invalidated := 1 }
    reply := fun _ => .reported (.ok true) }

def unregistered (id : String) : Imprint δ γ :=
  { endpointId := id, reply := fun _ => .reported (.ok false) }

/-- The handles of this pool that there were, as the call leaves them. -/
def handlesOf (d : Imprint δ γ) (home : Nat) (handles : List (Handle γ)) : List (Handle γ) :=
  match d.used with
  | some (ref, h) => if ref.home = home then handles.set ref.index h else handles
  | none => handles

/-- What the registry has for the endpoint afterwards. -/
def entry (d : Imprint δ γ) (count : Nat) (old : Option Nat) : Option Nat :=
  if d.expels then none else if d.made.isSome then some count else old

/-- The request that the call was, if it was one. -/
def asked (d : Imprint δ γ) (count : Nat) : List Request :=
  match d.reply count with
  | .got (some state) => [{ endpointId := d.endpointId, state }]
  | _ => []

/-- In pools that did not make the handle nothing changes. -/
theorem map_handlesOf (d : Imprint δ γ) {home other : Nat}
    (hHome : ∀ ref h, d.used = some (ref, h) → ref.home = home) (hOther : other ≠ home)
    (found : Option (Pool γ)) :
    (found.map fun q => { q with handles := d.handlesOf other q.handles }) = found := by
  have hSame (q : Pool γ) : d.handlesOf other q.handles = q.handles := by
    unfold handlesOf
    split
    · next ref h hUsed => exact if_neg fun hHere => hOther (hHere.symm.trans (hHome ref h hUsed))
    · rfl
  cases found with
  | none => rfl
  | some q => exact congrArg (fun handles : List (Handle γ) => some { q with handles }) (hSame q)

end Imprint

namespace Pool

/-- What calls leave alone in a pool. -/
structure Untouched (p p' : Pool γ) : Prop where
  linger : p'.linger = p.linger
  closed : p'.closed = p.closed
  shutdown : p'.shutdown = p.shutdown
  busy : p'.busy = p.busy
  abandoned : p'.abandoned = p.abandoned
  wakes : p'.wakes = p.wakes

theorem Untouched.symm {p p' : Pool γ} (h : p.Untouched p') : p'.Untouched p :=
  ⟨h.linger.symm, h.closed.symm, h.shutdown.symm, h.busy.symm, h.abandoned.symm, h.wakes.symm⟩

theorem Untouched.trans {p p' p'' : Pool γ} (first : p.Untouched p') (second : p'.Untouched p'') :
    p.Untouched p'' :=
  ⟨second.linger.trans first.linger, second.closed.trans first.closed,
    second.shutdown.trans first.shutdown, second.busy.trans first.busy,
    second.abandoned.trans first.abandoned, second.wakes.trans first.wakes⟩

/-- The pool has changed as the imprint says, and in nothing else but its requests. -/
structure Bears (number : Nat) (d : Imprint δ γ) (p p' : Pool γ) : Prop where
  untouched : p.Untouched p'
  counters : p'.counters = p.counters.plus d.counted
  reaper : p'.reaper = if d.rouses then p.roused.reaper else p.reaper
  handles : p'.handles = d.handlesOf number p.handles ++ d.made.toList
  gates : p'.gates = p.gates ++ d.gate.toList
  registry : ∀ id, p'.registry.get? id =
    if id = d.endpointId then d.entry p.handles.length (p.registry.get? id)
    else p.registry.get? id
  creating : ∀ id, p'.creating.get? id = p.creating.get? id

section Bearing

variable {number : Nat} {d : Imprint δ γ} {p q : Pool γ} {id : String}

theorem Bears.relist (h : p.Bears number d q) (requests : List Request) :
    p.Bears number d { q with requests } :=
  { h with
    untouched := ⟨h.untouched.linger, h.untouched.closed, h.untouched.shutdown, h.untouched.busy,
      h.untouched.abandoned, h.untouched.wakes⟩ }

theorem modifyHandle_const (index : Nat) (h : Handle γ) (p : Pool γ) :
    (p.modifyHandle index fun _ => h) = { p with handles := p.handles.set index h } := by
  refine congrArg (fun handles : List (Handle γ) => { p with handles }) ?_
  rw [List.modify_eq_set_getElem?]
  cases hAt : p.handles[index]? with
  | none => exact (List.set_eq_of_length_le (List.getElem?_eq_none_iff.mp hAt)).symm
  | some _ => rfl

/-- A gate that was set up and opened again is only one gate more. -/
theorem openGate_raised (hGates : q.gates = p.gates ++ [.pending])
    (hCreating : q.creating = p.creating.insert id p.gates.length)
    (hUndialed : p.creating.get? id = none) (outcome : Gate) :
    (q.openGate p.gates.length id outcome).gates = p.gates ++ [outcome] ∧
      ∀ other, (q.openGate p.gates.length id outcome).creating.get? other =
        p.creating.get? other := by
  have hListed : q.creating.get? id = some p.gates.length := by
    rw [hCreating, Table.get?_insert, if_pos rfl]
  refine ⟨?_, fun other => ?_⟩
  · show q.gates.set _ _ = _
    rw [hGates, List.set_append_right _ _ (Nat.le_refl _), Nat.sub_self]
    rfl
  · show Table.get? (if _ then _ else _) other = _
    rw [if_pos hListed, Table.get?_erase, hCreating, Table.get?_insert]
    split
    · next h => rw [h, hUndialed]
    · rfl

theorem bears_unnamed (number : Nat) (p : Pool γ) :
    p.Bears number (.unnamed : Imprint δ γ) p.roused where
  untouched := ⟨rfl, rfl, rfl, rfl, rfl, rfl⟩
  counters := rfl
  reaper := rfl
  handles := (List.append_nil _).symm
  gates := (List.append_nil _).symm
  registry _ := (ite_self _).symm
  creating _ := rfl

theorem bears_reused {handle : Nat} {h : Handle γ} (number : Nat) (now : Instant) (id : String)
    (hMade : p.handles[handle]? = some h) :
    p.Bears number (.reused id ⟨number, handle⟩ (h.borrow now) : Imprint δ γ)
      (p.roused.lend now handle) where
  untouched := ⟨rfl, rfl, rfl, rfl, rfl, rfl⟩
  counters := rfl
  reaper := rfl
  handles := by
    show p.handles.modify handle _ = (if number = number then _ else _) ++ []
    rw [if_pos rfl, List.append_nil, List.modify_eq_set_getElem?, hMade]
    rfl
  gates := (List.append_nil _).symm
  registry _ := (ite_self _).symm
  creating _ := rfl

theorem bears_connected {dialer : δ} (number : Nat) (now : Instant) (connection : γ)
    (hUndialed : p.creating.get? id = none) :
    p.Bears number
      (.connected id ((Handle.fresh now id connection).borrow now) dialer : Imprint δ γ)
      (((p.roused.raiseGate id).enroll now id connection).openGate p.gates.length id .created) := by
  obtain ⟨hGates, hCreating⟩ := openGate_raised (p := p)
    (q := (p.roused.raiseGate id).enroll now id connection) rfl rfl hUndialed .created
  exact ⟨⟨rfl, rfl, rfl, rfl, rfl, rfl⟩, rfl, rfl, rfl, hGates,
    fun _ => Table.get?_insert .., hCreating⟩

theorem bears_failed {dialer : δ} (number : Nat) (error : ConnectError)
    (hUndialed : p.creating.get? id = none) :
    p.Bears number (.failed id error dialer : Imprint δ γ)
      ((p.roused.raiseGate id).countFailure.openGate p.gates.length id (.failed error)) := by
  obtain ⟨hGates, hCreating⟩ := openGate_raised (p := p)
    (q := (p.roused.raiseGate id).countFailure) rfl rfl hUndialed (.failed error)
  exact ⟨⟨rfl, rfl, rfl, rfl, rfl, rfl⟩, rfl, rfl, (List.append_nil _).symm, hGates,
    fun _ => (ite_self _).symm, hCreating⟩

/-- The pool to which a handle is given back need not be the one that made it. -/
theorem bears_released (number : Nat) (ref : HandleRef) (result : Except PoolError Unit × Handle γ)
    (p : Pool γ) : p.Bears number (.released ref result : Imprint δ γ)
      { p with handles := (.released ref result : Imprint δ γ).handlesOf number p.handles } where
  untouched := ⟨rfl, rfl, rfl, rfl, rfl, rfl⟩
  counters := rfl
  reaper := rfl
  handles := (List.append_nil _).symm
  gates := (List.append_nil _).symm
  registry _ := (ite_self _).symm
  creating _ := rfl

theorem bears_reported (number : Nat) (id : String) (p : Pool γ) :
    p.Bears number (.reported id : Imprint δ γ) (p.expel id) where
  untouched := ⟨rfl, rfl, rfl, rfl, rfl, rfl⟩
  counters := rfl
  reaper := rfl
  handles := (List.append_nil _).symm
  gates := (List.append_nil _).symm
  registry _ := Table.get?_erase ..
  creating _ := rfl

theorem bears_unregistered (number : Nat) (id : String) (p : Pool γ) :
    p.Bears number (.unregistered id : Imprint δ γ) p where
  untouched := ⟨rfl, rfl, rfl, rfl, rfl, rfl⟩
  counters := rfl
  reaper := rfl
  handles := (List.append_nil _).symm
  gates := (List.append_nil _).symm
  registry _ := (ite_self _).symm
  creating _ := rfl

theorem Followed.isLive_of_waiting {clock : Option Instant} {gate : Nat} {dialed : String}
    {sequence : DialSequence} {state : RequestState}
    (h : Followed clock gate id dialed p (.waiting sequence) state q) : state.isLive = true := by
  cases h
  rfl

end Bearing

end Pool

namespace Site

open Surroundings Pool

variable [Dialer δ γ] {s : Site δ γ} {id : String} {now : Instant}

theorem enter_of_unnamed (hOpen : s.pool.closed = false) :
    s.enter "" = (.refused .invalidEndpointId, s.startReaper) := by
  unfold enter
  rw [hOpen]
  rfl

theorem enter_of_registered {handle : Nat} (hNamed : id ≠ "") (hOpen : s.pool.closed = false)
    (hRegistered : s.pool.registry.get? id = some handle) :
    s.enter id = s.startReaper.reuse handle id := by
  obtain ⟨_, hRoused⟩ := startReaper_spec s
  have hOpen' : s.startReaper.pool.closed = false := hRoused ▸ hOpen
  have hRegistered' : s.startReaper.pool.registry.get? id = some handle := hRoused ▸ hRegistered
  simp [enter, look, hOpen, hNamed, hOpen', hRegistered']

theorem enter_of_dialed {gate : Nat} (hNamed : id ≠ "") (hOpen : s.pool.closed = false)
    (hUnregistered : s.pool.registry.get? id = none)
    (hDialed : s.pool.creating.get? id = some gate) :
    s.enter id = (.waiting gate, s.startReaper) := by
  obtain ⟨_, hRoused⟩ := startReaper_spec s
  have hOpen' : s.startReaper.pool.closed = false := hRoused ▸ hOpen
  have hUnregistered' : s.startReaper.pool.registry.get? id = none := hRoused ▸ hUnregistered
  have hDialed' : s.startReaper.pool.creating.get? id = some gate := hRoused ▸ hDialed
  simp [enter, look, hOpen, hNamed, hOpen', hUnregistered', hDialed']

/-- A request that dials, where no reading is probed. -/
theorem enter_dials (hNamed : id ≠ "") (hLacks : s.pool.Lacks id)
    (hUnprobed : s.env.probing = false) (hShown : s.env.shown = some now) :
    (s.enter id).2.env.factory =
        (DialSequence.start (γ := γ) id s.pool.shutdown s.startReaper.env).2.factory ∧
      Followed (some now) s.pool.gates.length id id (s.pool.roused.raiseGate id)
        (DialSequence.start id s.pool.shutdown s.startReaper.env).1 (s.enter id).1
        (s.enter id).2.pool := by
  obtain ⟨hStill, hRoused⟩ := startReaper_spec s
  rw [enter_of_lacks hNamed hLacks]
  obtain ⟨_, q, hScanned, hFollowed⟩ := dial_spec id s.startReaper
  have hFactory := (dial_pursues id s.startReaper).apart.factory
  rw [hStill.probing, hUnprobed] at hScanned
  rw [hStill.shown, hShown] at hFollowed
  rw [hRoused] at hScanned hFollowed hFactory
  rcases hScanned with rfl | ⟨hProbing, _⟩
  · exact ⟨hFactory, hFollowed⟩
  · cases hProbing

end Site

namespace World

open Surroundings Pool DialSequence

variable {same : String → δ → δ → Prop} {number : Nat} {now : Instant}
  {w w' : World δ γ} {p q : Pool γ} {d : Imprint δ γ} {call : Call} {id : String}

/-- The pool is open, the clock can be read, and no scan is attempted at its readings. -/
structure Serves (w : World δ γ) (number : Nat) (p : Pool γ) (now : Instant) : Prop where
  pool : w.pools[number]? = some p
  open_ : p.closed = false
  shown : w.env.shown = some now
  unprobed : w.probed = none

/-! ### Visits to a pool whose readings nobody probes -/

theorem probeElsewhere_of_unprobed (hUnprobed : w.probed = none) (count : Nat) :
    w.probeElsewhere count = w := by
  unfold probeElsewhere
  rw [hUnprobed]
  cases count <;> rfl

theorem visit_of_unprobed {α : Type} (hp : w.pools[number]? = some p) (hUnprobed : w.probed = none)
    (f : Site δ γ → α × Site δ γ) : w.visit number f = (some (f (w.site number p)).1,
      { w with
        env := (f (w.site number p)).2.env
        pools := w.pools.set number (f (w.site number p)).2.pool }) := by
  let visited : World δ γ := { w with
    env := (f (w.site number p)).2.env
    pools := w.pools.set number (f (w.site number p)).2.pool }
  refine Prod.ext (visit_answer hp f) ?_
  unfold visit
  rw [hp]
  dsimp only
  split
  · rfl
  · exact probeElsewhere_of_unprobed (w := visited) hUnprobed _

/-! ### Handles of a pool -/

theorem handle?_here (hp : w.pools[number]? = some p) (index : Nat) :
    w.handle? ⟨number, index⟩ = p.handles[index]? := by
  rw [handle?, hp]
  rfl

theorem release_of_open (h : w.Serves number p now) (ref : HandleRef) :
    w.release number ref = w.giveBack ref := by
  have hOpen : w.isClosed number = false := by
    rw [isClosed, h.pool]
    exact h.open_
  rw [release, hOpen, if_neg Bool.false_ne_true]

/-- Whether a handle is registered is asked about the pool that made it. -/
theorem isRegistered_iff {ref : HandleRef} {held : Handle γ} (hp : w.pools[number]? = some p)
    (hMade : w.handle? ref = some held) : ref.home = number ∧ p.isRegistered ref.index = true ↔
      ref.home = number ∧ p.registry.get? held.endpointId = some ref.index := by
  refine and_congr_right fun hHome => ?_
  rw [handle?, hHome, hp] at hMade
  rw [isRegistered, show p.handles[ref.index]? = some held from hMade]
  exact beq_iff_eq

/-! ### Imprints of calls -/

variable [Dialer δ γ]

/-- What the caller is told. -/
def reply (number : Nat) (w : World δ γ) : Call → Reply
  | .get id =>
    let (index, w) := w.visit number (Site.get id)
    .got (index.bind fun index => w.requestState number index)
  | .release ref => .released (w.release number ref).1
  | .report ref cause => .reported (w.report number ref cause).1

/-- The endpoint that the call is about. -/
def IsAbout (w : World δ γ) (id : String) : Call → Prop
  | .get other => other = id
  | .release ref | .report ref _ => ∃ h, w.handle? ref = some h ∧ h.endpointId = id

/-- Factory and dialer know of the endpoint what they learned from its dials, if there were any, and
of others what they knew. -/
structure Learned (same : String → δ → δ → Prop) (id : String) (dialed : Option δ)
    (env env' : Surroundings δ) : Prop where
  seen : ∀ other, env'.factory.hasSeen other =
    (dialed.isSome && other == id || env.factory.hasSeen other)
  own : same id (dialed.getD env.factory.dialer) env'.factory.dialer
  others : ∀ other, other ≠ id → same other env.factory.dialer env'.factory.dialer

/-- The world has changed as the imprint says. Otherwise only more has been noted. -/
structure Imprinted (same : String → δ → δ → Prop) (number : Nat) (d : Imprint δ γ)
    (w w' : World δ γ) : Prop where
  beside : Beside w w'
  learned : Learned same d.endpointId d.dialed w.env w'.env
  used : ∀ ref h, d.used = some (ref, h) →
    h.endpointId = d.endpointId ∧ ∃ old, w.handle? ref = some old ∧ old.endpointId = d.endpointId
  others : ∀ other, other ≠ number → w'.pools[other]? =
    w.pools[other]?.map fun q => { q with handles := d.handlesOf other q.handles }
  pool : ∀ p, w.pools[number]? = some p → ∃ p', w'.pools[number]? = some p' ∧
    p.Bears number d p' ∧ p'.requests = p.requests ++ d.asked p.handles.length

/-- The call has this imprint, and its caller is told what goes with it. -/
structure Leaves (same : String → δ → δ → Prop) (number : Nat) (w : World δ γ) (p : Pool γ)
    (call : Call) (d : Imprint δ γ) : Prop where
  told : w.reply number call = d.reply p.handles.length
  imprinted : Imprinted same number d w (w.perform (call.act number))

/-- How a call is over at once, and with what imprint. The dialer may be any that knows the same of
the endpoint. -/
inductive Does (same : String → δ → δ → Prop) (number : Nat) (now : Instant) (w : World δ γ)
    (p : Pool γ) : Call → Imprint δ γ → Prop where
  | unnamed : Does same number now w p (.get "") .unnamed
  | reused {id : String} {handle : Nat} {h : Handle γ} (named : id ≠ "")
      (registered : p.registry.get? id = some handle) (made : w.handle? ⟨number, handle⟩ = some h)
      (endpoint : h.endpointId = id) :
      Does same number now w p (.get id) (.reused id ⟨number, handle⟩ (h.borrow now))
  | connected {id : String} {connection : γ} {dialer : δ} (named : id ≠ "") (lacks : p.Lacks id)
      (dials : (start id p.shutdown w.env).1 = .connected connection)
      (dialed : same id dialer (start (γ := γ) id p.shutdown w.env).2.factory.dialer) :
      Does same number now w p (.get id)
        (.connected id ((Handle.fresh now id connection).borrow now) dialer)
  | failed {id : String} {error : ConnectError} {dialer : δ} (named : id ≠ "") (lacks : p.Lacks id)
      (dials : (start (γ := γ) id p.shutdown w.env).1 = .failed error)
      (dialed : same id dialer (start (γ := γ) id p.shutdown w.env).2.factory.dialer) :
      Does same number now w p (.get id) (.failed id error dialer)
  | released {ref : HandleRef} {h : Handle γ} (made : w.handle? ref = some h) :
      Does same number now w p (.release ref) (.released ref (h.release now))
  | reported {ref : HandleRef} {h : Handle γ} {cause : String} (made : w.handle? ref = some h)
      (home : ref.home = number) (registered : p.registry.get? h.endpointId = some ref.index) :
      Does same number now w p (.report ref cause) (.reported h.endpointId)
  | unregistered {ref : HandleRef} {h : Handle γ} {cause : String} (made : w.handle? ref = some h)
      (gone : ¬(ref.home = number ∧ p.registry.get? h.endpointId = some ref.index)) :
      Does same number now w p (.report ref cause) (.unregistered h.endpointId)

/-! ### The factory and the dialer -/

theorem learned_of_factory {env env' : Surroundings δ} (hSeparates : Dialer.Separates same)
    (h : env'.factory = env.factory) (id : String) : Learned same id none env env' := by
  refine ⟨fun other => ?_, ?_, fun other _ => ?_⟩ <;> rw [h]
  · rfl
  · exact (hSeparates.regards id).refl _
  · exact (hSeparates.regards other).refl _

/-- What a sequence of dials did is what its first turn did. -/
theorem learned_of_start {told : Bool} {before env env' : Surroundings δ} {dialer : δ}
    (hSeparates : Dialer.Separates same) (hBefore : env.factory = before.factory)
    (hFactory : env'.factory = (start (γ := γ) id told env).2.factory)
    (hDialed : same id dialer (start (γ := γ) id told env).2.factory.dialer) :
    Learned same id (some dialer) before env' := by
  obtain ⟨later, hStarted⟩ := (start_begins (γ := γ) id told env).factory
  refine ⟨fun other => ?_, ?_, fun other hOther => ?_⟩ <;> rw [hFactory]
  · rw [hStarted, ← hBefore]
    exact (Factory.firstContact_eq id env.factory).2 other
  · exact hDialed
  · rw [← hBefore]
    exact start_elsewhere hSeparates hOther told env

/-! ### Requests -/

theorem visit_get (h : w.Serves number p now)
    (hRequests : ((w.site number p).enter id).2.pool.requests = p.requests) :
    w.visit number (Site.get id) = (some p.requests.length,
      { w with
        env := ((w.site number p).enter id).2.env
        pools := w.pools.set number { ((w.site number p).enter id).2.pool with
          requests := p.requests ++
            [{ endpointId := id, state := ((w.site number p).enter id).1 }] } }) := by
  rw [visit_of_unprobed h.pool h.unprobed, ← hRequests]
  rfl

theorem reply_get (h : w.Serves number p now)
    (hRequests : ((w.site number p).enter id).2.pool.requests = p.requests) :
    w.reply number (.get id) = .got (some ((w.site number p).enter id).1) := by
  let asked : Pool γ := { ((w.site number p).enter id).2.pool with
    requests := p.requests ++ [{ endpointId := id, state := ((w.site number p).enter id).1 }] }
  have hPool : (w.pools.set number asked)[number]? = some asked :=
    List.getElem?_set_self (List.getElem?_eq_some_iff.mp h.pool).1
  show Reply.got ((w.visit number (Site.get id)).1.bind fun index =>
    (w.visit number (Site.get id)).2.requestState number index) = _
  rw [visit_get h hRequests]
  show Reply.got ((w.pools.set number asked)[number]?.bind fun q =>
    q.requests[p.requests.length]?.map Request.state) = _
  rw [hPool]
  show Reply.got ((p.requests ++ [_])[p.requests.length]?.map _) = _
  rw [List.getElem?_concat_length]
  rfl

/-- What is left to show of a request that is over at once. -/
theorem leaves_of_enter (h : w.Serves number p now)
    (hRequests : ((w.site number p).enter id).2.pool.requests = p.requests)
    (hReply : d.reply p.handles.length = .got (some ((w.site number p).enter id).1))
    (hEndpoint : d.endpointId = id)
    (hUsed : ∀ ref lent, d.used = some (ref, lent) → ref.home = number ∧ lent.endpointId = id ∧
      ∃ old, w.handle? ref = some old ∧ old.endpointId = id)
    (hBears : p.Bears number d ((w.site number p).enter id).2.pool)
    (hLearned : Learned same id d.dialed (w.site number p).env
      ((w.site number p).enter id).2.env) :
    w.Leaves same number p (.get id) d := by
  have hConcerns : Act.Concerns number (.get number id : Act δ) := rfl
  have hBeside := perform_beside hConcerns w
  let asked : Pool γ := { ((w.site number p).enter id).2.pool with
    requests := p.requests ++ [{ endpointId := id, state := ((w.site number p).enter id).1 }] }
  have hPool : (w.pools.set number asked)[number]? = some asked :=
    List.getElem?_set_self (List.getElem?_eq_some_iff.mp h.pool).1
  have hPerform : w.perform (.get number id) = { w with
      env := ((w.site number p).enter id).2.env
      pools := w.pools.set number asked } := congrArg Prod.snd (visit_get h hRequests)
  refine ⟨(reply_get h hRequests).trans hReply.symm, ?_⟩
  show Imprinted same number d w (w.perform (.get number id))
  rw [hPerform] at hBeside ⊢
  refine ⟨hBeside, ?_, ?_, ?_, ?_⟩
  · rw [hEndpoint]
    exact ⟨hLearned.seen, hLearned.own, hLearned.others⟩
  · rw [hEndpoint]
    exact fun ref lent hAt => (hUsed ref lent hAt).2
  · intro other hOther
    rw [d.map_handlesOf (fun ref lent hAt => (hUsed ref lent hAt).1) hOther]
    exact List.getElem?_set_ne hOther.symm
  · intro p' hp'
    cases h.pool.symm.trans hp'
    refine ⟨asked, hPool, hBears.relist _, ?_⟩
    rw [Imprint.asked, hReply, hEndpoint]

theorem leaves_unnamed (h : w.Serves number p now) (hSeparates : Dialer.Separates same) :
    w.Leaves same number p (.get "") .unnamed := by
  obtain ⟨hStill, hRoused⟩ := Site.startReaper_spec (w.site number p)
  have hEnter := Site.enter_of_unnamed (s := w.site number p) h.open_
  refine leaves_of_enter h ?_ ?_ rfl nofun ?_ ?_ <;> rw [hEnter]
  · rw [hRoused]
    rfl
  · rfl
  · rw [hRoused]
    exact bears_unnamed number p
  · exact learned_of_factory hSeparates hStill.factory ""

theorem leaves_reused {handle : Nat} {lent : Handle γ} (h : w.Serves number p now)
    (hSeparates : Dialer.Separates same) (hNamed : id ≠ "")
    (hRegistered : p.registry.get? id = some handle)
    (hMade : w.handle? ⟨number, handle⟩ = some lent) (hEndpoint : lent.endpointId = id) :
    w.Leaves same number p (.get id) (.reused id ⟨number, handle⟩ (lent.borrow now)) := by
  obtain ⟨hStill, hRoused⟩ := Site.startReaper_spec (w.site number p)
  have hReuse := Site.enter_of_registered hNamed (s := w.site number p) h.open_ hRegistered
  obtain ⟨hLater, hBlind | ⟨shown, hShown, hState, hPool⟩⟩ :=
    Site.reuse_spec handle id (w.site number p).startReaper
  · exact absurd (hBlind.1.symm.trans (hStill.shown.trans h.shown)) nofun
  · cases hShown.symm.trans (hStill.shown.trans h.shown)
    rw [hRoused] at hPool
    have hFactory := hLater.factory.trans hStill.factory
    rw [← hReuse] at hState hPool hFactory
    refine leaves_of_enter h ?_ ?_ rfl ?_ ?_ ?_
    · rw [hPool]
      rfl
    · rw [hState]
      rfl
    · rintro ref lent' ⟨⟩
      exact ⟨rfl, hEndpoint, lent, hMade, hEndpoint⟩
    · rw [hPool]
      exact bears_reused number now id ((handle?_here h.pool handle).symm.trans hMade)
    · exact learned_of_factory hSeparates hFactory id

/-- A request that dials goes by what its sequence of dials comes to, whatever is noted first. -/
theorem enter_follows (h : w.Serves number p now) (hSeparates : Dialer.Separates same)
    (hNamed : id ≠ "") (hLacks : p.Lacks id) :
    Followed (some now) p.gates.length id id (p.roused.raiseGate id)
        (start id p.shutdown w.env).1 ((w.site number p).enter id).1
        ((w.site number p).enter id).2.pool ∧
      ∀ dialer, same id dialer (start (γ := γ) id p.shutdown w.env).2.factory.dialer →
        Learned same id (some dialer) (w.site number p).env
          ((w.site number p).enter id).2.env := by
  obtain ⟨hStill, _⟩ := Site.startReaper_spec (w.site number p)
  have hProbing : (w.site number p).env.probing = false := by
    show (w.probed == some number) = false
    rw [h.unprobed]
    rfl
  obtain ⟨hFactory, hFollowed⟩ :=
    Site.enter_dials (s := w.site number p) hNamed hLacks hProbing h.shown
  have hMeets : Meets (same id) w.env (w.site number p).startReaper.env := by
    refine ⟨hStill.now, ⟨congrArg Factory.policy hStill.factory,
      congrArg Factory.shutdown hStill.factory⟩, ?_⟩
    rw [hStill.factory]
    exact (hSeparates.regards id).refl _
  obtain ⟨hProgress, hParallel⟩ : Parallel (same id) (start (γ := γ) id p.shutdown w.env)
      (start id (w.site number p).pool.shutdown (w.site number p).startReaper.env) :=
    start_parallel (hSeparates.regards id) hMeets (congrArg (Factory.hasSeen id) hStill.factory)
  rw [hProgress] at hFollowed
  exact ⟨hFollowed, fun dialer hDialed => learned_of_start hSeparates hStill.factory hFactory
    ((hSeparates.regards id).trans hDialed hParallel)⟩

/-- A request that dials and is over at once. -/
theorem leaves_dialed {progress : DialProgress γ} {dialer : δ} (h : w.Serves number p now)
    (hSeparates : Dialer.Separates same) (hNamed : id ≠ "") (hLacks : p.Lacks id)
    (hDials : (start id p.shutdown w.env).1 = progress)
    (hDialed : same id dialer (start (γ := γ) id p.shutdown w.env).2.factory.dialer)
    (hUnused : d.used = none) (hEndpoint : d.endpointId = id) (hDialer : d.dialed = some dialer)
    (hFollows : ∀ state q,
      Followed (some now) p.gates.length id id (p.roused.raiseGate id) progress state q →
        d.reply p.handles.length = .got (some state) ∧ p.Bears number d q) :
    w.Leaves same number p (.get id) d := by
  obtain ⟨hFollowed, hLearned⟩ := enter_follows h hSeparates hNamed hLacks
  rw [hDials] at hFollowed
  obtain ⟨hReply, hBears⟩ := hFollows _ _ hFollowed
  refine leaves_of_enter h hFollowed.requests_eq hReply hEndpoint ?_ hBears ?_
  · rw [hUnused]
    nofun
  · rw [hDialer]
    exact hLearned dialer hDialed

/-! ### Handles -/

/-- What a handle that is given back does to the pools, whichever of them made it. -/
theorem release_pools {ref : HandleRef} {held : Handle γ} (h : w.Serves number p now)
    (hMade : w.handle? ref = some held) (other : Nat) :
    (w.perform (.release number ref)).pools[other]? = w.pools[other]?.map fun q =>
      { q with handles :=
          (.released ref (held.release now) : Imprint δ γ).handlesOf other q.handles } := by
  have hRead : w.reading.2 = w := probeElsewhere_of_unprobed h.unprobed 1
  have hPools : (w.perform (.release number ref)).pools =
      w.pools.modify ref.home (Pool.modifyHandle ref.index fun _ => (held.release now).2) := by
    show (w.release number ref).2.pools = _
    rw [release_of_open h, giveBack_pools, use_of_shown _ h.shown hMade, hRead]
    rfl
  rw [hPools]
  by_cases hOther : ref.home = other
  · rw [hOther, List.getElem?_modify_eq]
    refine congrArg (Option.map · _) (funext fun q => ?_)
    rw [modifyHandle_const, Imprint.handlesOf]
    exact congrArg (fun handles : List (Handle γ) => { q with handles }) (if_pos hOther).symm
  · let d : Imprint δ γ := .released ref (held.release now)
    rw [List.getElem?_modify_ne _ _ hOther]
    refine (d.map_handlesOf ?_ (Ne.symm hOther) _).symm
    rintro _ _ ⟨⟩
    rfl

theorem leaves_released {ref : HandleRef} {held : Handle γ} (h : w.Serves number p now)
    (hSeparates : Dialer.Separates same) (hMade : w.handle? ref = some held) :
    w.Leaves same number p (.release ref) (.released ref (held.release now)) := by
  have hConcerns : Act.Concerns ref.home (.release number ref : Act δ) := rfl
  have hEndpoint := Handle.release_endpointId now held
  have hPools := release_pools h hMade
  refine ⟨?_, perform_beside hConcerns w, ?_, ?_, fun other _ => hPools other, ?_⟩
  · show Reply.released (w.release number ref).1 = _
    rw [release_of_open h, giveBack_answer, use_of_shown _ h.shown hMade]
    rfl
  · exact learned_of_factory hSeparates (perform_factory hConcerns nofun nofun w) _
  · rintro ref' lent ⟨⟩
    exact ⟨rfl, held, hMade, hEndpoint.symm⟩
  · intro p' hp'
    cases h.pool.symm.trans hp'
    refine ⟨_, (hPools number).trans (congrArg _ h.pool), bears_released number ref _ p, ?_⟩
    exact (List.append_nil _).symm

theorem leaves_reported {ref : HandleRef} {held : Handle γ} {cause : String}
    (h : w.Serves number p now) (hSeparates : Dialer.Separates same)
    (hMade : w.handle? ref = some held) (hHome : ref.home = number)
    (hRegistered : p.registry.get? held.endpointId = some ref.index) :
    w.Leaves same number p (.report ref cause) (.reported held.endpointId) := by
  have hConcerns : Act.Concerns number (.report number ref cause : Act δ) := rfl
  have hReport : w.report number ref cause = (.ok true,
      { w.updatePool number (Pool.expel held.endpointId) with
        env := w.env.note (.broken held.endpointId held.refCount cause) }) := by
    rw [report_of_open h.pool h.open_ hMade]
    exact if_pos ((isRegistered_iff h.pool hMade).mpr ⟨hHome, hRegistered⟩)
  have hPools : (w.perform ((Call.report ref cause).act number)).pools =
      w.pools.modify number (Pool.expel held.endpointId) :=
    congrArg (fun answer => answer.2.pools) hReport
  refine ⟨?_, perform_beside hConcerns w,
    learned_of_factory hSeparates (perform_factory hConcerns nofun nofun w) _, nofun, ?_, ?_⟩
  · show Reply.reported (w.report number ref cause).1 = _
    rw [hReport]
    rfl
  · intro other hOther
    let d : Imprint δ γ := .reported held.endpointId
    refine Eq.trans ?_ (d.map_handlesOf nofun hOther _).symm
    rw [hPools, List.getElem?_modify_ne _ _ hOther.symm]
  · intro p' hp'
    cases h.pool.symm.trans hp'
    refine ⟨p.expel held.endpointId, ?_, bears_reported number held.endpointId p, ?_⟩
    · rw [hPools, List.getElem?_modify_eq, h.pool]
      rfl
    · exact (List.append_nil _).symm

theorem leaves_unregistered {ref : HandleRef} {held : Handle γ} {cause : String}
    (h : w.Serves number p now) (hSeparates : Dialer.Separates same)
    (hMade : w.handle? ref = some held)
    (hGone : ¬(ref.home = number ∧ p.registry.get? held.endpointId = some ref.index)) :
    w.Leaves same number p (.report ref cause) (.unregistered held.endpointId) := by
  have hConcerns : Act.Concerns number (.report number ref cause : Act δ) := rfl
  have hReport : w.report number ref cause = (.ok false,
      { w with env := w.env.note (.unregistered held.endpointId cause) }) := by
    rw [report_of_open h.pool h.open_ hMade]
    exact if_neg (mt (isRegistered_iff h.pool hMade).mp hGone)
  have hPools : (w.perform ((Call.report ref cause).act number)).pools = w.pools :=
    congrArg (fun answer => answer.2.pools) hReport
  refine ⟨?_, perform_beside hConcerns w,
    learned_of_factory hSeparates (perform_factory hConcerns nofun nofun w) _, nofun, ?_, ?_⟩
  · show Reply.reported (w.report number ref cause).1 = _
    rw [hReport]
    rfl
  · intro other hOther
    let d : Imprint δ γ := .unregistered held.endpointId
    refine Eq.trans ?_ (d.map_handlesOf nofun hOther _).symm
    rw [hPools]
  · intro p' hp'
    rw [hPools]
    exact ⟨p', hp', bears_unregistered number held.endpointId p', (List.append_nil _).symm⟩

/-- How a call is over at once is what it leaves behind. -/
theorem Does.leaves (hDoes : Does same number now w p call d) (h : w.Serves number p now)
    (hSeparates : Dialer.Separates same) : w.Leaves same number p call d := by
  cases hDoes with
  | unnamed => exact leaves_unnamed h hSeparates
  | reused named registered made endpoint =>
      exact leaves_reused h hSeparates named registered made endpoint
  | connected named lacks dials dialed =>
      refine leaves_dialed h hSeparates named lacks dials dialed rfl rfl rfl fun state q hDone => ?_
      cases hDone with
      | created shown open_ =>
          cases shown
          exact ⟨rfl, bears_connected number now _ lacks.undialed⟩
      | unread blind => cases blind
      | discarded shown late => cases h.open_.symm.trans late
  | failed named lacks dials dialed =>
      refine leaves_dialed h hSeparates named lacks dials dialed rfl rfl rfl fun state q hDone => ?_
      cases hDone with
      | failed => exact ⟨rfl, bears_failed number _ lacks.undialed⟩
  | released made => exact leaves_released h hSeparates made
  | reported made home registered => exact leaves_reported h hSeparates made home registered
  | unregistered made gone => exact leaves_unregistered h hSeparates made gone

theorem exists_does_get (h : w.Serves number p now) (hSeparates : Dialer.Separates same)
    (hSound : p.Sound p.requests) (hFinal : (w.reply number (.get id)).IsFinal) :
    ∃ d, Does same number now w p (.get id) d ∧ d.endpointId = id := by
  by_cases hNamed : id = ""
  · subst hNamed
    exact ⟨_, .unnamed, rfl⟩
  cases hRegistered : p.registry.get? id with
  | some handle =>
      obtain ⟨_, lent, hMade, hEndpoint⟩ := hSound.registered id handle hRegistered
      have hHere := (handle?_here h.pool handle).trans hMade
      exact ⟨_, .reused hNamed hRegistered hHere hEndpoint, rfl⟩
  | none =>
      cases hDialed : p.creating.get? id with
      | some gate =>
          have hEnter := Site.enter_of_dialed (s := w.site number p) hNamed h.open_ hRegistered
            hDialed
          have hRoused := (Site.startReaper_spec (w.site number p)).2
          rw [reply_get h (by rw [hEnter, hRoused]; rfl), hEnter] at hFinal
          exact absurd (hFinal _ rfl) nofun
      | none =>
          have hLacks : p.Lacks id := ⟨h.open_, hRegistered, hDialed⟩
          have hRefl := (hSeparates.regards id).refl
            (start (γ := γ) id p.shutdown w.env).2.factory.dialer
          cases hProgress : (start (γ := γ) id p.shutdown w.env).1 with
          | connected connection => exact ⟨_, .connected hNamed hLacks hProgress hRefl, rfl⟩
          | failed error => exact ⟨_, .failed hNamed hLacks hProgress hRefl, rfl⟩
          | waiting sequence =>
              obtain ⟨hFollowed, _⟩ := enter_follows h hSeparates hNamed hLacks
              rw [reply_get h hFollowed.requests_eq] at hFinal
              rw [hProgress] at hFollowed
              exact absurd (hFinal _ rfl) (Bool.not_eq_false _ ▸ hFollowed.isLive_of_waiting)

/-- A call that is over at once is over in one of these ways. -/
theorem exists_does (h : w.Serves number p now) (hSeparates : Dialer.Separates same)
    (hSound : p.Sound p.requests) (hAbout : w.IsAbout id call)
    (hFinal : (w.reply number call).IsFinal) :
    ∃ d, Does same number now w p call d ∧ d.endpointId = id := by
  cases call with
  | get other =>
      cases hAbout
      exact exists_does_get h hSeparates hSound hFinal
  | release ref =>
      obtain ⟨held, hMade, hEndpoint⟩ := hAbout
      exact ⟨_, .released hMade, (Handle.release_endpointId now held).trans hEndpoint⟩
  | report ref cause =>
      obtain ⟨held, hMade, hEndpoint⟩ := hAbout
      by_cases hHere : ref.home = number ∧ p.registry.get? held.endpointId = some ref.index
      · exact ⟨_, .reported hMade hHere.1 hHere.2, hEndpoint⟩
      · exact ⟨_, .unregistered hMade hHere, hEndpoint⟩

end World

end Tether
