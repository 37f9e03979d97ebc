import Tether.Proofs.Likeness
import Tether.Proofs.Run

/-! Sites and worlds that are alike go on alike. Whatever is done to both, the answers are the same,
and what was noted before, requests that are over and gates that nobody goes to do not show. -/

namespace Tether

variable {δ γ : Type}

namespace Site

open Surroundings Pool

/-- The same pool is at the same place, but for what was noted before and for moved numbers. -/
structure Alike (past past' : History) (R : Renumbering) (s s' : Site δ γ) : Prop where
  env : s.env.Alike past past' s'.env
  pool : s.pool.Alike R s'.pool

/-- Two turns that end alike. -/
structure TurnsAlike (past past' : History) (R : Renumbering)
    (turn turn' : RequestState × Site δ γ) : Prop where
  state : turn'.1 = turn.1.moved R
  site : turn.2.Alike past past' R turn'.2

variable {past past' : History} {R : Renumbering} {s s' : Site δ γ}

theorem Alike.note (h : s.Alike past past' R s') (event : Event) :
    (s.note event).Alike past past' R (s'.note event) :=
  ⟨h.env.note event, h.pool⟩

/-- A change to the pool keeps the places alike where it keeps the pools alike. -/
theorem Alike.update {f f' : Pool γ → Pool γ} (h : s.Alike past past' R s')
    (hPool : (f s.pool).Alike R (f' s'.pool)) : (s.update f).Alike past past' R (s'.update f') :=
  ⟨h.env, hPool⟩

/-- Whatever leaves requests and gates out of sight can be done at both places. -/
theorem Alike.map (h : s.Alike past past' R s') (f : Pool γ → Pool γ)
    (hBlind : ∀ (p : Pool γ) requests gates creating, f { p with requests, gates, creating } =
      { f p with requests, gates, creating }) : (s.update f).Alike past past' R (s'.update f) :=
  h.update (h.pool.map f hBlind)

theorem Alike.withEnv {env env' : Surroundings δ} (h : s.Alike past past' R s')
    (hEnv : env.Alike past past' env') :
    ({ s with env } : Site δ γ).Alike past past' R { s' with env := env' } :=
  ⟨hEnv, h.pool⟩

/-! ### Scans and readings -/

/-- Handles do not move, so a sweep finds the same ones stale at both places and evicts as many. -/
theorem sweep_alike (h : s.Alike past past' R s') (now : Instant) :
    (s'.sweep now).1 = (s.sweep now).1 ∧ (s.sweep now).2.Alike past past' R (s'.sweep now).2 := by
  have hStale : isStale now s'.pool = isStale now s.pool := by
    funext handle
    rw [isStale, isStale, h.pool.handles, h.pool.linger]
  have hIdle : idle now s'.pool = idle now s.pool := by
    funext handle
    rw [idle, idle, h.pool.handles]
  have hNotes (stale : List (String × Nat)) (event : String × Nat → Event)
      {env env' : Surroundings δ} (hEnv : env.Alike past past' env') :
      (stale.foldl (fun env entry => env.note (event entry)) env).Alike past past'
        (stale.foldl (fun env entry => env.note (event entry)) env') := by
    induction stale generalizing env env' with
    | nil => exact hEnv
    | cons entry rest ih => exact ih (hEnv.note _)
  have hKept (kept : Table Nat) (count : Nat) := h.pool.map
    (fun p => { p with registry := kept }.count fun c => { c with evicted := c.evicted + count })
    fun _ _ _ _ => rfl
  unfold sweep
  rw [h.pool.registry, hStale, hIdle]
  dsimp only
  split
  · exact ⟨rfl, h⟩
  · exact ⟨rfl, (hNotes _ _ h.env).note _, hKept _ _⟩

/-- A scan from aside brings the same answer at both places, which is put down on top of what either
had before. -/
theorem probe_alike (h : s.Alike past past' R s') (locked : Bool) :
    (s.probe locked).Alike past past' R (s'.probe locked) := by
  have hPut (result : Except PoolError Nat) {s s' : Site δ γ} (h : s.Alike past past' R s') :
      ({ s with env := { s.env with probes := result :: s.env.probes } } : Site δ γ).Alike
        past past' R { s' with env := { s'.env with probes := result :: s'.env.probes } } :=
    ⟨h.env.map (fun env => { env with probes := result :: env.probes }) fun _ _ => rfl, h.pool⟩
  unfold probe
  rw [h.pool.closed, h.pool.busy, h.env.shown]
  dsimp only
  split
  · exact hPut _ h
  · split
    · exact hPut _ h
    · split
      · exact h
      · next now _ =>
        obtain ⟨hAnswer, hSwept⟩ := sweep_alike h now
        rw [hAnswer]
        exact hPut _ hSwept

/-- The clock shows the same at both places, with the scan that may come in between. -/
theorem reading_alike (h : s.Alike past past' R s') (locked : Bool) :
    ∃ answer s₁ s₁', s.reading locked = (answer, s₁) ∧ s'.reading locked = (answer, s₁') ∧
      s₁.Alike past past' R s₁' := by
  have hCount {s s' : Site δ γ} (h : s.Alike past past' R s') :
      ({ s with env := { s.env with readings := s.env.readings + 1 } } : Site δ γ).Alike
        past past' R { s' with env := { s'.env with readings := s'.env.readings + 1 } } :=
    ⟨h.env.map (fun env => { env with readings := env.readings + 1 }) fun _ _ => rfl, h.pool⟩
  unfold reading
  rw [h.env.probing]
  dsimp only
  split
  · have hProbed := hCount (probe_alike h locked)
    rw [hProbed.env.shown]
    exact ⟨_, _, _, rfl, rfl, hProbed⟩
  · rw [(hCount h).env.shown]
    exact ⟨_, _, _, rfl, rfl, hCount h⟩

/-- A scan has the same answer at both places. -/
theorem scan_alike (h : s.Alike past past' R s') :
    s'.scan.1 = s.scan.1 ∧ s.scan.2.Alike past past' R s'.scan.2 := by
  unfold scan
  rw [h.pool.busy]
  split
  · exact ⟨rfl, h⟩
  · obtain ⟨answer, s₁, s₁', hRead, hRead', h₁⟩ := reading_alike h true
    rw [hRead, hRead']
    cases answer with
    | none => exact ⟨rfl, h₁⟩
    | some now =>
        obtain ⟨hEvicted, hSwept⟩ := sweep_alike h₁ now
        exact ⟨congrArg (fun evicted => some (Except.ok evicted)) hEvicted, hSwept⟩

theorem evictIdle_alike (h : s.Alike past past' R s') :
    s'.evictIdle.1 = s.evictIdle.1 ∧ s.evictIdle.2.Alike past past' R s'.evictIdle.2 := by
  unfold evictIdle
  rw [h.pool.closed]
  split
  · exact ⟨rfl, h⟩
  · exact scan_alike h

/-! ### Requests -/

theorem startReaper_alike (h : s.Alike past past' R s') :
    s.startReaper.Alike past past' R s'.startReaper := by
  unfold startReaper
  rw [h.pool.reaper]
  split
  · rw [h.pool.linger]
    exact (h.map (fun p => { p with reaper := .starting }) fun _ _ _ _ => rfl).note _
  · exact h

/-- A registered handle is lent alike, or is out of reach in both places since the clock cannot be
read. -/
theorem reuse_alike (h : s.Alike past past' R s') (handle : Nat) (id : String) :
    TurnsAlike past past' R (s.reuse handle id) (s'.reuse handle id) := by
  obtain ⟨answer, s₁, s₁', hRead, hRead', h₁⟩ := reading_alike h true
  unfold reuse
  rw [hRead, hRead']
  cases answer with
  | none => exact ⟨rfl, h₁⟩
  | some now =>
      have hLent := h₁.map (lend now handle) fun _ _ _ _ => rfl
      refine ⟨rfl, ?_⟩
      have hCount : (s₁'.pool.lend now handle).refCount handle =
          (s₁.pool.lend now handle).refCount handle :=
        congrArg (fun handles : List (Handle γ) => (handles[handle]?.map Handle.refCount).getD 0)
          hLent.pool.handles
      show Alike past past' R (Site.note (.reused id ((s₁.pool.lend now handle).refCount handle)) _)
        (Site.note (.reused id ((s₁'.pool.lend now handle).refCount handle)) _)
      rw [hCount]
      exact hLent.note _

/-- A connection that arrives is enrolled under the same handle, or discarded in both places. -/
theorem receive_alike (h : s.Alike past past' R s') (gate : Nat) (id : String) (connection : γ) :
    TurnsAlike past past' R (s.receive gate id connection)
      (s'.receive (R.gate gate) id connection) := by
  obtain ⟨answer, s₁, s₁', hRead, hRead', h₁⟩ := reading_alike h false
  unfold receive
  rw [hRead, hRead']
  cases answer with
  | none => exact ⟨rfl, h₁.update (h₁.pool.openGate gate id .givenUp)⟩
  | some made =>
      dsimp only
      rw [h₁.pool.closed]
      split
      · exact ⟨rfl, (h₁.note _).update (h₁.pool.openGate gate id .closed)⟩
      · obtain ⟨answer, s₂, s₂', hRead, hRead', h₂⟩ := reading_alike h₁ true
        rw [hRead, hRead']
        cases answer with
        | none => exact ⟨rfl, h₂.update (h₂.pool.openGate gate id .givenUp)⟩
        | some now =>
            dsimp only
            rw [h₂.pool.handles]
            have hEnrolled := h₂.map (fun p =>
              { p with
                handles := p.handles ++ [(Handle.fresh made id connection).borrow now]
                registry := p.registry.insert id s₂.pool.handles.length }.count fun c =>
                  { c with created := c.created + 1 }) fun _ _ _ _ => rfl
            rw [hEnrolled.pool.counters]
            have hNoted := hEnrolled.note (.created id (s₂.pool.counters.created + 1))
            exact ⟨rfl, hNoted.update (hNoted.pool.openGate gate id .created)⟩

/-- Whatever a sequence of dials has come to, the request draws the same conclusion from it. -/
theorem follow_alike (h : s.Alike past past' R s') (gate : Nat) (id : String)
    (progress : DialProgress γ) :
    TurnsAlike past past' R (s.follow gate id progress) (s'.follow (R.gate gate) id progress) := by
  cases progress with
  | waiting sequence => exact ⟨rfl, h⟩
  | connected connection => exact receive_alike h gate id connection
  | failed error =>
      have hCounted := h.pool.map countFailure fun _ _ _ _ => rfl
      exact ⟨rfl, h.env, hCounted.openGate gate id (.failed error)⟩

/-- A caller who goes away leaves the same behind in both places. -/
theorem drop_alike (h : s.Alike past past' R s') (index : Nat) :
    (s.drop index).Alike past past' R (s'.drop (R.request index)) := by
  unfold drop
  rw [h.pool.request]
  cases s.pool.requests[index]? with
  | none => exact h
  | some r =>
      obtain ⟨id, state⟩ := r
      cases state with
      | waiting gate => exact h.update (h.pool.setRequest index .dropped)
      | dialing gate sequence =>
          exact h.update ((h.pool.openGate gate id .givenUp).setRequest index .dropped)
      | _ => exact h

/-! ### The reaper and the end -/

/-- The reaper falls asleep for the same time. -/
theorem rest_alike (h : s.Alike past past' R s') : s.rest.Alike past past' R s'.rest := by
  unfold rest
  rw [h.env.now]
  exact h.map (fun p => { p with reaper := .asleep (s.env.now + p.linger.slept) })
    fun _ _ _ _ => rfl

/-- The reaper scans with the same answer, and then rests or is broken in both places. -/
theorem reap_alike (h : s.Alike past past' R s') : s.reap.Alike past past' R s'.reap := by
  obtain ⟨hAnswer, hScanned⟩ := scan_alike h
  unfold reap
  rcases hScan : s.scan with ⟨answer, s₁⟩
  rcases hScan' : s'.scan with ⟨answer', s₁'⟩
  rw [hScan, hScan'] at hAnswer hScanned
  cases hAnswer
  cases answer with
  | none => exact hScanned.map (fun p => { p with reaper := .broken }) fun _ _ _ _ => rfl
  | some result =>
      cases result with
      | error error => exact rest_alike (hScanned.note _)
      | ok evicted =>
          dsimp only
          split
          · exact rest_alike hScanned
          · exact rest_alike (hScanned.note _)

/-- The reaper answers as many wakes in both places. The induction is on the wakes that are left. -/
theorem answerWakes_alike (h : s.Alike past past' R s') (count : Nat) :
    (s.answerWakes count).Alike past past' R (s'.answerWakes count) := by
  induction count generalizing s s' with
  | zero => exact h
  | succ count ih =>
      unfold answerWakes
      rw [h.pool.reaper]
      split
      · have hWoken := h.map (fun p => { p with wakes := p.wakes - 1 }) fun _ _ _ _ => rfl
        exact ih (reap_alike (hWoken.note .reaperWoken))
      · exact h

theorem sleep_alike (h : s.Alike past past' R s') : s.sleep.Alike past past' R s'.sleep := by
  unfold sleep
  rw [h.pool.reaper, h.env.now]
  split
  · exact rest_alike h
  · split
    · exact reap_alike h
    · exact h
  · exact h

/-- A whole turn of the reaper. -/
theorem reaperTurn_alike (h : s.Alike past past' R s') :
    s.reaperTurn.Alike past past' R s'.reaperTurn := by
  unfold reaperTurn
  rw [h.pool.reaper, h.pool.shutdown, h.pool.wakes]
  split
  · exact h
  · split
    · exact (h.map (fun p => { p with reaper := .stopped }) fun _ _ _ _ => rfl).note _
    · exact sleep_alike (answerWakes_alike h _)

theorem dismissReaper_alike (h : s.Alike past past' R s') :
    s.dismissReaper.Alike past past' R s'.dismissReaper := by
  have hDismissed := h.map (fun p => { p with reaper := .stopped }) fun _ _ _ _ => rfl
  unfold dismissReaper
  rw [h.pool.reaper]
  dsimp only
  split
  · exact hDismissed.note _
  · exact hDismissed.note _
  · exact hDismissed.note _
  · exact hDismissed
  · exact hDismissed

/-- A pool that is closed drops as many handles in both places. -/
theorem close_alike (h : s.Alike past past' R s') : s.close.Alike past past' R s'.close := by
  have hSize : s'.pool.size = s.pool.size := congrArg List.length h.pool.registry
  unfold close
  rw [h.pool.closed, hSize]
  split
  · exact h
  · exact (dismissReaper_alike (h.update h.pool.clear)).note _

section Dialing

variable [Dialer δ γ]

/-- A request that begins to dial raises a gate whose numbers go together. -/
theorem dial_alike (h : s.Alike past past' R s') (id : String) :
    TurnsAlike past past' R (s.dial id) (s'.dial id) := by
  obtain ⟨hProgress, hEnv⟩ := DialSequence.start_alike (γ := γ) h.env id s.pool.shutdown
  have hFollowed := follow_alike ((h.update (h.pool.raiseGate id)).withEnv hEnv)
    s.pool.gates.length id (DialSequence.start id s.pool.shutdown s.env).1
  show TurnsAlike past past' R _ (Site.follow s'.pool.gates.length id
    (DialSequence.start id s'.pool.shutdown s'.env).1
    { s'.update (raiseGate id) with env := (DialSequence.start id s'.pool.shutdown s'.env).2 })
  rw [h.pool.shutdown, h.pool.gates_length, hProgress]
  exact hFollowed

/-- A request that looks into the registry finds the same there: the pool closed, a handle, a gate,
or nothing. -/
theorem look_alike (h : s.Alike past past' R s') (id : String) :
    TurnsAlike past past' R (s.look id) (s'.look id) := by
  unfold look
  rw [h.pool.closed, h.pool.registry, h.pool.creating]
  split
  · exact ⟨rfl, h⟩
  · split
    · exact reuse_alike h _ id
    · cases s.pool.creating.get? id with
      | some gate => exact ⟨rfl, h⟩
      | none => exact dial_alike h id

/-- The first turn of a request. -/
theorem enter_alike (h : s.Alike past past' R s') (id : String) :
    TurnsAlike past past' R (s.enter id) (s'.enter id) := by
  unfold enter
  rw [h.pool.closed]
  split
  · exact ⟨rfl, h⟩
  · dsimp only
    split
    · exact ⟨rfl, startReaper_alike h⟩
    · exact look_alike (startReaper_alike h) id

/-- A new request is told the next number, which in the second pool is where the first one has
moved. -/
theorem get_alike (h : s.Alike past past' R s') (id : String) :
    (s'.get id).1 = R.request (s.get id).1 ∧ (s.get id).2.Alike past past' R (s'.get id).2 := by
  obtain ⟨hState, hSite⟩ := enter_alike h id
  refine ⟨hSite.pool.requests_length, hSite.env, ?_⟩
  have hAppended := hSite.pool.append { endpointId := id, state := (s.enter id).1 }
  rw [Request.moved, ← hState] at hAppended
  exact hAppended

/-- A waiter finds its gate in the same state, so it waits on, is refused or looks again in both
places. -/
theorem pass_alike (h : s.Alike past past' R s') (gate : Nat) (id : String) :
    TurnsAlike past past' R (s.pass gate id) (s'.pass (R.gate gate) id) := by
  unfold pass
  rw [h.pool.gate]
  split
  · exact ⟨rfl, h⟩
  · exact ⟨rfl, h⟩
  · exact look_alike (h.note _) id
  · exact look_alike (h.note _) id
  · exact ⟨rfl, h⟩
  · exact ⟨rfl, h⟩

/-- A further turn of a request, under the number to which it has moved. -/
theorem resume_alike (h : s.Alike past past' R s') (index : Nat) :
    (s.resume index).Alike past past' R (s'.resume (R.request index)) := by
  have hSettled {turn turn' : RequestState × Site δ γ} (h : TurnsAlike past past' R turn turn') :
      (turn.2.update (Pool.setRequest index turn.1)).Alike past past' R
        (turn'.2.update (Pool.setRequest (R.request index) turn'.1)) := by
    rw [h.state]
    exact h.site.update (h.site.pool.setRequest index _)
  unfold resume
  rw [h.pool.request, h.pool.shutdown]
  cases s.pool.requests[index]? with
  | none => exact h
  | some r =>
      obtain ⟨id, state⟩ := r
      cases state with
      | waiting gate => exact hSettled (pass_alike h gate id)
      | dialing gate sequence =>
          obtain ⟨hProgress, hEnv⟩ :=
            DialSequence.resume_alike (γ := γ) h.env s.pool.shutdown sequence
          have hFollowed : TurnsAlike past past' R
              (Site.follow gate id (sequence.resume s.pool.shutdown s.env).1
                { s with env := (sequence.resume s.pool.shutdown s.env).2 })
              (Site.follow (R.gate gate) id (sequence.resume s.pool.shutdown s'.env).1
                { s' with env := (sequence.resume s.pool.shutdown s'.env).2 }) := by
            rw [hProgress]
            exact follow_alike (h.withEnv hEnv) gate id _
          exact hSettled hFollowed
      | _ => exact h

end Dialing

end Site

namespace World

open Surroundings Pool

/-- The worlds are the same, but for what was noted before and for numbers that have moved. -/
structure Alike (past past' : History) (R : Nat → Renumbering) (w w' : World δ γ) : Prop where
  env : w.env.Alike past past' w'.env
  creations : w'.creations = w.creations
  cancelled : w'.cancelled = w.cancelled
  probed : w'.probed = w.probed
  length : w'.pools.length = w.pools.length
  pools : ∀ (number : Nat) p p', w.pools[number]? = some p → w'.pools[number]? = some p' →
    p.Alike (R number) p'
  /-- In pools that are yet to be opened nothing has moved. -/
  unmoved : ∀ number, w.pools.length ≤ number → R number = .refl

variable {past past' : History} {R : Nat → Renumbering} {w w' : World δ γ} {number : Nat}

/-- A number stands for a pool in both worlds or in neither, and these pools are alike. -/
theorem Alike.pool? (h : w.Alike past past' R w') (number : Nat) :
    (w.pools[number]? = none ∧ w'.pools[number]? = none) ∨
      ∃ p p', w.pools[number]? = some p ∧ w'.pools[number]? = some p' ∧ p.Alike (R number) p' := by
  by_cases hBound : number < w.pools.length
  · have hp := List.getElem?_eq_getElem hBound
    have hp' := List.getElem?_eq_getElem (h.length ▸ hBound : number < w'.pools.length)
    exact Or.inr ⟨_, _, hp, hp', h.pools number _ _ hp hp'⟩
  · have hBeyond := Nat.le_of_not_lt hBound
    exact Or.inl ⟨List.getElem?_eq_none hBeyond, List.getElem?_eq_none (h.length ▸ hBeyond)⟩

theorem Alike.withEnv {env env' : Surroundings δ} (h : w.Alike past past' R w')
    (hEnv : env.Alike past past' env') :
    ({ w with env } : World δ γ).Alike past past' R { w' with env := env' } :=
  ⟨hEnv, h.creations, h.cancelled, h.probed, h.length, h.pools, h.unmoved⟩

theorem Alike.note (h : w.Alike past past' R w') (event : Event) :
    ({ w with env := w.env.note event } : World δ γ).Alike past past' R
      { w' with env := w'.env.note event } :=
  h.withEnv (h.env.note event)

/-- A pool is exchanged for another one. -/
theorem Alike.setPool {p p' : Pool γ} (h : w.Alike past past' R w')
    (hPool : p.Alike (R number) p') :
    ({ w with pools := w.pools.set number p } : World δ γ).Alike past past' R
      { w' with pools := w'.pools.set number p' } := by
  refine ⟨h.env, h.creations, h.cancelled, h.probed, ?_, fun other q q' hq hq' => ?_, ?_⟩
  · rw [List.length_set, List.length_set]
    exact h.length
  · by_cases hOther : number = other
    · subst hOther
      rw [List.getElem?_set_self'] at hq hq'
      obtain ⟨_, _, rfl⟩ := Option.map_eq_some_iff.mp hq
      obtain ⟨_, _, rfl⟩ := Option.map_eq_some_iff.mp hq'
      exact hPool
    · rw [List.getElem?_set_ne hOther] at hq hq'
      exact h.pools other q q' hq hq'
  · intro other hBeyond
    exact h.unmoved other (List.length_set ▸ hBeyond)

/-- A pool is changed, if it is there. -/
theorem Alike.updatePool {f f' : Pool γ → Pool γ} (h : w.Alike past past' R w')
    (hPool : ∀ p p', p.Alike (R number) p' → (f p).Alike (R number) (f' p')) :
    (w.updatePool number f).Alike past past' R (w'.updatePool number f') := by
  refine ⟨h.env, h.creations, h.cancelled, h.probed, ?_, fun other q q' hq hq' => ?_, ?_⟩
  · show (w'.pools.modify number f').length = (w.pools.modify number f).length
    rw [List.length_modify, List.length_modify]
    exact h.length
  · have hq : (w.pools.modify number f)[other]? = some q := hq
    have hq' : (w'.pools.modify number f')[other]? = some q' := hq'
    by_cases hOther : number = other
    · subst hOther
      rw [List.getElem?_modify_eq] at hq hq'
      obtain ⟨p, hp, rfl⟩ := Option.map_eq_some_iff.mp hq
      obtain ⟨p', hp', rfl⟩ := Option.map_eq_some_iff.mp hq'
      exact hPool p p' (h.pools number p p' hp hp')
    · rw [List.getElem?_modify_ne _ _ hOther] at hq hq'
      exact h.pools other q q' hq hq'
  · intro other hBeyond
    have hBeyond : (w.pools.modify number f).length ≤ other := hBeyond
    exact h.unmoved other (List.length_modify .. ▸ hBeyond)

/-- References to handles need no moving: they lead to the same handle in both worlds. -/
theorem Alike.handle? (h : w.Alike past past' R w') (ref : HandleRef) :
    w'.handle? ref = w.handle? ref := by
  unfold World.handle?
  rcases h.pool? ref.home with ⟨hp, hp'⟩ | ⟨p, p', hp, hp', hPool⟩
  · rw [hp, hp']
  · rw [hp, hp']
    exact congrArg (·[ref.index]?) hPool.handles

theorem Alike.isClosed (h : w.Alike past past' R w') (number : Nat) :
    w'.isClosed number = w.isClosed number := by
  unfold World.isClosed
  rcases h.pool? number with ⟨hp, hp'⟩ | ⟨p, p', hp, hp', hPool⟩
  · rw [hp, hp']
  · rw [hp, hp']
    exact congrArg (fun closed => (some closed).getD true) hPool.closed

theorem Alike.isCancelled (h : w.Alike past past' R w') (token : Option String) :
    w'.isCancelled token = w.isCancelled token := by
  unfold World.isCancelled
  rw [h.cancelled]

/-! ### Visits and uses -/

/-- The scans of the probed pool that come with readings of the clock are the same in both worlds.
The induction is on the readings. -/
theorem probeElsewhere_alike (h : w.Alike past past' R w') (count : Nat) :
    (w.probeElsewhere count).Alike past past' R (w'.probeElsewhere count) := by
  induction count generalizing w w' with
  | zero =>
      rw [probeElsewhere_zero, probeElsewhere_zero]
      exact h
  | succ count ih =>
      unfold probeElsewhere
      cases hProbed : w.probed with
      | none =>
          rw [h.probed, hProbed]
          exact h
      | some number =>
          rw [h.probed, hProbed]
          dsimp only
          rcases h.pool? number with ⟨hp, hp'⟩ | ⟨p, p', hp, hp', hPool⟩
          · rw [hp, hp']
            exact h
          · rw [hp, hp']
            have hScan : (Site.probe false { env := w.env, pool := p }).Alike past past'
                (R number) (Site.probe false { env := w'.env, pool := p' }) :=
              Site.probe_alike ⟨h.env, hPool⟩ false
            have hNext := ih ((h.withEnv hScan.env).setPool hScan.pool)
            simpa only [h.probed, hProbed] using hNext

/-- An operation on one pool, done in both worlds. -/
theorem visit_alike {α : Type} (f f' : Site δ γ → α × Site δ γ) (answer : α → α)
    (h : w.Alike past past' R w')
    (hSite : ∀ s s', s.Alike past past' (R number) s' →
      (f' s').1 = answer (f s).1 ∧ (f s).2.Alike past past' (R number) (f' s').2) :
    (w'.visit number f').1 = (w.visit number f).1.map answer ∧
      (w.visit number f).2.Alike past past' R (w'.visit number f').2 := by
  have hProbing : (w'.probed == some number) = (w.probed == some number) := by rw [h.probed]
  unfold visit
  rcases h.pool? number with ⟨hp, hp'⟩ | ⟨p, p', hp, hp', hPool⟩
  · rw [hp, hp']
    exact ⟨rfl, h⟩
  · rw [hp, hp']
    have hEnv := h.env.map (fun env =>
      { env with probing := w.probed == some number, readings := 0 }) fun _ _ => rfl
    obtain ⟨hAnswer, hVisited⟩ :=
      hSite { env := _, pool := p } { env := _, pool := p' } ⟨hEnv, hPool⟩
    have hPut := (h.withEnv hVisited.env).setPool hVisited.pool
    dsimp only
    rw [hProbing]
    refine ⟨congrArg some hAnswer, ?_⟩
    split
    · exact hPut
    · rw [hVisited.env.readings]
      exact probeElsewhere_alike hPut _

theorem visit'_alike {f f' : Site δ γ → Site δ γ} (h : w.Alike past past' R w')
    (hSite : ∀ s s', s.Alike past past' (R number) s' →
      (f s).Alike past past' (R number) (f' s')) :
    (w.visit' number f).Alike past past' R (w'.visit' number f') :=
  (visit_alike (fun s => ((), f s)) (fun s => ((), f' s)) id h fun s s' hs =>
    ⟨rfl, hSite s s' hs⟩).2

/-- A call on a handle has the same answer in both worlds. -/
theorem use_alike {α : Type} (h : w.Alike past past' R w') (ref : HandleRef)
    (f : Instant → Handle γ → α × Handle γ) :
    (w'.use ref f).1 = (w.use ref f).1 ∧ (w.use ref f).2.Alike past past' R (w'.use ref f).2 := by
  have hRead := probeElsewhere_alike h 1
  unfold use reading
  dsimp only
  rw [hRead.env.shown]
  cases (w.probeElsewhere 1).env.shown with
  | none => exact ⟨rfl, hRead⟩
  | some now =>
      dsimp only
      rw [hRead.handle?]
      cases (w.probeElsewhere 1).handle? ref with
      | none => exact ⟨rfl, hRead⟩
      | some held =>
          exact ⟨rfl, hRead.updatePool fun p p' hPool =>
            hPool.map (Pool.modifyHandle ref.index fun _ => (f now held).2) fun _ _ _ _ => rfl⟩

/-- A handle that is given back says the same in both worlds, a release too many included. -/
theorem giveBack_alike (h : w.Alike past past' R w') (ref : HandleRef) :
    (w'.giveBack ref).1 = (w.giveBack ref).1 ∧
      (w.giveBack ref).2.Alike past past' R (w'.giveBack ref).2 := by
  obtain ⟨hAnswer, hUsed⟩ := use_alike h ref Handle.release
  unfold giveBack
  rcases hUse : w.use ref Handle.release with ⟨answer, w₁⟩
  rcases hUse' : w'.use ref Handle.release with ⟨answer', w₁'⟩
  rw [hUse, hUse'] at hAnswer hUsed
  cases hAnswer
  rcases answer with _ | error | _
  · exact ⟨rfl, hUsed⟩
  · dsimp only
    rw [hUsed.handle?]
    cases w₁.handle? ref with
    | none => exact ⟨rfl, hUsed⟩
    | some held => exact ⟨rfl, hUsed.note _⟩
  · exact ⟨rfl, hUsed⟩

theorem release_alike (h : w.Alike past past' R w') (number : Nat) (ref : HandleRef) :
    (w'.release number ref).1 = (w.release number ref).1 ∧
      (w.release number ref).2.Alike past past' R (w'.release number ref).2 := by
  unfold release
  rw [h.isClosed]
  split
  · exact ⟨rfl, h⟩
  · exact giveBack_alike h ref

/-- A report is believed in both worlds or in neither, since the registry shows the same handle. -/
theorem report_alike (h : w.Alike past past' R w') (number : Nat) (ref : HandleRef)
    (cause : String) :
    (w'.report number ref cause).1 = (w.report number ref cause).1 ∧
      (w.report number ref cause).2.Alike past past' R (w'.report number ref cause).2 := by
  unfold report
  rw [h.handle?]
  rcases h.pool? number with ⟨hp, hp'⟩ | ⟨p, p', hp, hp', hPool⟩
  · rw [hp, hp']
    exact ⟨rfl, h⟩
  · rw [hp, hp']
    cases w.handle? ref with
    | none => exact ⟨rfl, h⟩
    | some held =>
        have hRegistered : p'.isRegistered ref.index = p.isRegistered ref.index := by
          rw [isRegistered, isRegistered, hPool.handles, hPool.registry]
        dsimp only
        rw [hPool.closed, hRegistered]
        split
        · exact ⟨rfl, h⟩
        · split
          · let erased (p : Pool γ) : Pool γ :=
              { p with registry := p.registry.erase held.endpointId }.count fun c =>
                { c with invalidated := c.invalidated + 1 }
            have hErased : Alike past past' R (w.updatePool number erased)
                (w'.updatePool number erased) :=
              h.updatePool fun p p' hPool => hPool.map erased fun _ _ _ _ => rfl
            exact ⟨rfl, hErased.note _⟩
          · exact ⟨rfl, h.note _⟩

/-! ### Acts -/

theorem Alike.appendPool (h : w.Alike past past' R w') (p : Pool γ) :
    ({ w with pools := w.pools ++ [p] } : World δ γ).Alike past past' R
      { w' with pools := w'.pools ++ [p] } := by
  refine ⟨h.env, h.creations, h.cancelled, h.probed, ?_, fun number q q' hq hq' => ?_, ?_⟩
  · simp [h.length]
  · by_cases hBound : number < w.pools.length
    · rw [List.getElem?_append_left hBound] at hq
      rw [List.getElem?_append_left (h.length ▸ hBound)] at hq'
      exact h.pools number q q' hq hq'
    · have hBeyond := Nat.le_of_not_lt hBound
      rw [List.getElem?_append_right hBeyond] at hq
      rw [List.getElem?_append_right (h.length ▸ hBeyond)] at hq'
      obtain rfl := List.mem_singleton.mp (List.mem_of_getElem? hq)
      obtain rfl := List.mem_singleton.mp (List.mem_of_getElem? hq')
      rw [h.unmoved number hBeyond]
      exact .refl _
  · intro number hBeyond
    rw [List.length_append] at hBeyond
    exact h.unmoved number (Nat.le_of_add_right_le hBeyond)

/-- Both worlds open a pool or refuse to, and the new pool has the next number in both. -/
theorem openPool_alike (h : w.Alike past past' R w') (linger : Duration) :
    ((w'.openPool linger).map Prod.fst = (w.openPool linger).map Prod.fst) ∧
      Alike past past' R
        (match w.openPool linger with
          | .ok (_, w) => w
          | .error _ => w)
        (match w'.openPool linger with
          | .ok (_, w) => w
          | .error _ => w') := by
  unfold openPool
  cases Pool.ofLinger linger with
  | error error => exact ⟨rfl, h⟩
  | ok p => exact ⟨congrArg Except.ok h.length, h.appendPool p⟩

/-- The reaper of a pool learns in both worlds whether the pool is gone. -/
theorem turnReaper_alike (h : w.Alike past past' R w') (number : Nat) :
    (w.turnReaper number).Alike past past' R (w'.turnReaper number) := by
  rw [turnReaper_eq, turnReaper_eq]
  refine visit'_alike h fun s s' hs => Site.reaperTurn_alike (hs.update ?_)
  have hGone : isGone s'.pool = isGone s.pool := by
    rw [isGone, isGone, hs.pool.hasLiveRequest, hs.pool.shutdown, hs.pool.abandoned]
  rw [hGone]
  split
  · exact hs.pool.map (fun p => { p with shutdown := true }) fun _ _ _ _ => rfl
  · exact hs.pool

variable [Dialer δ γ]

/-- A sequence of dials that a caller runs on the factory. Its number never moves, since worlds that
are alike have run the same ones. -/
theorem create_alike (h : w.Alike past past' R w') (id : String) (token : Option String) :
    (w'.create id token).1 = (w.create id token).1 ∧
      (w.create id token).2.Alike past past' R (w'.create id token).2 := by
  obtain ⟨hProgress, hEnv⟩ := DialSequence.start_alike (γ := γ) h.env id (w.isCancelled token)
  unfold create
  dsimp only
  rw [h.isCancelled, hProgress, h.creations]
  exact ⟨rfl, hEnv, rfl, h.cancelled, h.probed, h.length, h.pools, h.unmoved⟩

theorem resumeCreation_alike (h : w.Alike past past' R w') (index : Nat) :
    (w.resumeCreation index).Alike past past' R (w'.resumeCreation index) := by
  unfold resumeCreation
  rw [h.creations]
  cases w.creations[index]? with
  | none => exact h
  | some c =>
      obtain ⟨token, state⟩ := c
      cases state with
      | running sequence =>
          obtain ⟨hProgress, hEnv⟩ :=
            DialSequence.resume_alike (γ := γ) h.env (w.isCancelled token) sequence
          dsimp only
          rw [h.isCancelled, hProgress]
          exact ⟨hEnv, rfl, h.cancelled, h.probed, h.length, h.pools, h.unmoved⟩
      | _ => exact h

end World

/-- The same act, where numbers have moved. -/
def Act.moved (R : Nat → Renumbering) : Act δ → Act δ
  | .resume pool request => .resume pool ((R pool).request request)
  | .drop pool request => .drop pool ((R pool).request request)
  | act => act

namespace World

variable [Dialer δ γ] {past past' : History} {R : Nat → Renumbering} {w w' : World δ γ}

/-- One act, done in both worlds. -/
theorem perform_alike (h : w.Alike past past' R w') (act : Act δ) :
    (w.perform act).Alike past past' R (w'.perform (act.moved R)) := by
  cases act with
  | openPool linger => exact (openPool_alike h linger).2
  | abandon pool =>
      exact h.updatePool fun p p' hPool =>
        hPool.map (fun p => { p with abandoned := true }) fun _ _ _ _ => rfl
  | get pool id =>
      exact (visit_alike (Site.get id) (Site.get id) (R pool).request h fun s s' hs =>
        Site.get_alike hs id).2
  | resume pool request => exact visit'_alike h fun s s' hs => Site.resume_alike hs request
  | drop pool request => exact visit'_alike h fun s s' hs => Site.drop_alike hs request
  | release pool ref => exact (release_alike h pool ref).2
  | report pool ref cause => exact (report_alike h pool ref cause).2
  | evictIdle pool =>
      exact (visit_alike Site.evictIdle Site.evictIdle id h fun s s' hs =>
        Site.evictIdle_alike hs).2
  | wake pool =>
      exact h.updatePool fun p p' hPool => hPool.map Pool.wake fun _ _ _ _ => rfl
  | reap pool => exact turnReaper_alike h pool
  | close pool => exact visit'_alike h fun s s' hs => Site.close_alike hs
  | hold pool taken =>
      exact h.updatePool fun p p' hPool =>
        hPool.map (fun p => { p with busy := taken }) fun _ _ _ _ => rfl
  | borrow ref | connection ref => exact (use_alike h ref _).2
  | giveBack ref => exact (giveBack_alike h ref).2
  | look => exact probeElsewhere_alike h 1
  | create id token => exact (create_alike h id token).2
  | resumeCreation creation => exact resumeCreation_alike h creation
  | dropCreation creation =>
      refine ⟨h.env, ?_, h.cancelled, h.probed, h.length, h.pools, h.unmoved⟩
      show w'.creations.modify creation _ = w.creations.modify creation _
      rw [h.creations]
  | cancel token =>
      exact ⟨h.env, h.creations, congrArg (token :: ·) h.cancelled, h.probed, h.length, h.pools,
        h.unmoved⟩
  | firstContact id =>
      exact h.withEnv (h.env.map (fun env => (env.firstContact id).2) fun _ _ => rfl)
  | shutFactory =>
      exact h.withEnv (h.env.map (fun env =>
        { env with factory := { env.factory with shutdown := true } }) fun _ _ => rfl)
  | order f =>
      exact h.withEnv (h.env.map (fun env => env.setDialer (f env.factory.dialer)) fun _ _ => rfl)
  | advance span =>
      unfold perform
      dsimp only [Act.moved]
      rw [h.env.clock]
      cases w.env.clock.advance span with
      | none => exact h
      | some clock => exact h.withEnv (h.env.map (fun env => { env with clock }) fun _ _ => rfl)
  | mend =>
      exact h.withEnv (h.env.map (fun env => { env with clock := env.clock.mended }) fun _ _ => rfl)
  | pass moment =>
      exact h.withEnv (h.env.map (fun env => { env with now := max env.now moment }) fun _ _ => rfl)
  | probe pool =>
      exact ⟨h.env, h.creations, h.cancelled, rfl, h.length, h.pools, h.unmoved⟩

/-- A whole run. -/
theorem performAll_alike (h : w.Alike past past' R w') (acts : List (Act δ)) :
    (w.performAll acts).Alike past past' R (w'.performAll (acts.map (Act.moved R))) := by
  induction acts generalizing w w' with
  | nil => exact h
  | cons act rest ih => exact ih (perform_alike h act)

/-- Whatever is asked in two worlds, the answers are the same. A new request is told its number, and
where numbers have moved it is told the number to which its own has moved. -/
structure AnswersAlike (R : Nat → Renumbering) (w w' : World δ γ) : Prop where
  openPool : ∀ linger, (w'.openPool linger).map Prod.fst = (w.openPool linger).map Prod.fst
  get : ∀ number id, (w'.visit number (Site.get id)).1 =
    (w.visit number (Site.get id)).1.map (R number).request
  state : ∀ number index, w'.requestState number ((R number).request index) =
    (w.requestState number index).map (RequestState.moved (R number))
  release : ∀ number ref, (w'.release number ref).1 = (w.release number ref).1
  report : ∀ number ref cause, (w'.report number ref cause).1 = (w.report number ref cause).1
  evictIdle : ∀ number, (w'.visit number Site.evictIdle).1 = (w.visit number Site.evictIdle).1
  borrow : ∀ ref, (w'.borrow ref).1 = (w.borrow ref).1
  giveBack : ∀ ref, (w'.giveBack ref).1 = (w.giveBack ref).1
  connection : ∀ ref, (w'.connection ref).1 = (w.connection ref).1
  create : ∀ id token, (w'.create id token).1 = (w.create id token).1
  creation : ∀ index, w'.creationState index = w.creationState index

/-- Worlds that are alike answer every question alike. -/
theorem Alike.answers (h : w.Alike past past' R w') : AnswersAlike R w w' where
  openPool linger := (openPool_alike h linger).1
  get number id :=
    (visit_alike (Site.get id) (Site.get id) (R number).request h fun _ _ hs =>
      Site.get_alike hs id).1
  state number index := by
    unfold requestState
    rcases h.pool? number with ⟨hp, hp'⟩ | ⟨p, p', hp, hp', hPool⟩
    · rw [hp, hp']
      rfl
    · rw [hp, hp', Option.bind_some, Option.bind_some, hPool.request, Option.map_map,
        Option.map_map]
      rfl
  release number ref := (release_alike h number ref).1
  report number ref cause := (report_alike h number ref cause).1
  evictIdle number := by
    have hAnswer := (visit_alike Site.evictIdle Site.evictIdle id h fun _ _ hs =>
      Site.evictIdle_alike (R := R number) hs).1
    rwa [Option.map_id] at hAnswer
  borrow ref := (use_alike h ref _).1
  giveBack ref := (giveBack_alike h ref).1
  connection ref := (use_alike h ref _).1
  create id token := (create_alike h id token).1
  creation index := by rw [creationState, creationState, h.creations]

end World

end Tether
