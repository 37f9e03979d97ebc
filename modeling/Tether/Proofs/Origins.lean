import Tether.Proofs.Blindness
import Tether.Proofs.Progress

/-! Where refusals come from. Whatever a request is refused with stems from its own endpoint: the
pool is closed, the endpoint has no name, or dials to this very endpoint failed. That holds too of
those who wait behind the dials of another request, and learn from its gate how they went. -/

namespace Tether

variable {δ γ : Type}

/-- What a sequence of dials to the endpoint can fail with: the error that one of its dials landed
with, or that it was told to stop. -/
inductive ConnectError.StemsFrom (δ : Type) [Dialer δ γ] (id : String) : ConnectError → Prop where
  | exhausted {attempts ticket : Nat} {dialer : δ} {last : DialError}
      (lands : (Dialer.land id ticket dialer).1 = .error last) :
      StemsFrom δ id (.exhausted id attempts last)
  | cancelled (attempts : Nat) : StemsFrom δ id (.cancelled id attempts)

/-- What a request for the endpoint can be refused with. -/
inductive PoolError.StemsFrom (δ : Type) [Dialer δ γ] (id : String) : PoolError → Prop where
  | closed : StemsFrom δ id .closed
  | unnamed (empty : id = "") : StemsFrom δ id .invalidEndpointId
  | failed {error : ConnectError} (stems : error.StemsFrom δ id) : StemsFrom δ id (.connect error)

/-! ### Sequences of dials -/

namespace DialSequence

variable [Dialer δ γ] {id : String} {tier : Tier} {told : Bool} {remaining attempt ticket : Nat}
  {env : Surroundings δ} {s : DialSequence} {error : ConnectError}

theorem land_stemsFrom
    (h : (land id tier told remaining attempt ticket env).1 = .failed error) :
    error.StemsFrom δ id := by
  induction remaining generalizing attempt ticket env with
  | zero =>
      unfold land at h
      split at h
      · cases h
      · next hLand =>
        cases h
        exact .exhausted (congrArg Prod.fst hLand)
  | succ left ih =>
      unfold land at h
      split at h
      · cases h
      · dsimp only at h
        split at h
        · cases h
          exact .cancelled attempt
        · split at h
          · split at h
            · exact ih h
            · cases h
          · cases h

theorem launch_stemsFrom
    (h : (launch id tier told remaining attempt env).1 = .failed error) :
    error.StemsFrom δ id := by
  unfold launch at h
  dsimp only at h
  split at h
  · exact land_stemsFrom h
  · cases h

theorem start_stemsFrom (h : (start id told env).1 = .failed error) : error.StemsFrom δ id :=
  launch_stemsFrom h

theorem resume_stemsFrom (h : (s.resume told env).1 = .failed error) :
    error.StemsFrom δ s.endpointId := by
  unfold resume at h
  dsimp only at h
  split at h
  · split at h
    · exact land_stemsFrom h
    · cases h
  · split at h
    · cases h
      exact .cancelled s.attempt
    · split at h
      · exact launch_stemsFrom h
      · cases h

end DialSequence

/-! ### Turns -/

namespace Site

variable [Dialer δ γ] {s : Site δ γ} {gate : Nat} {id : String} {progress : DialProgress γ}
  {error : PoolError}

theorem follow_stemsFrom
    (hFailed : ∀ failure, progress = .failed failure → failure.StemsFrom δ id)
    (h : (s.follow gate id progress).1 = .refused error) : error.StemsFrom δ id := by
  cases progress with
  | waiting sequence => cases h
  | failed failure =>
      cases h
      exact .failed (hFailed failure rfl)
  | connected connection =>
      obtain ⟨_, p, _, hFollowed⟩ := receive_spec gate id id connection s
      rw [show (s.receive gate id connection).1 = .refused error from h] at hFollowed
      generalize (s.receive gate id connection).2.pool = q at hFollowed
      cases hFollowed
      exact .closed

theorem look_stemsFrom (h : (s.look id).1 = .refused error) : error.StemsFrom δ id := by
  unfold look at h
  split at h
  · cases h
    exact .closed
  · split at h
    · next handle _ =>
      obtain ⟨_, ⟨_, hState, _⟩ | ⟨_, _, hState, _⟩⟩ := reuse_spec handle id s <;>
        cases hState.symm.trans h
    · split at h
      · cases h
      · exact follow_stemsFrom (fun _ => DialSequence.start_stemsFrom) h

theorem enter_stemsFrom (h : (s.enter id).1 = .refused error) : error.StemsFrom δ id := by
  unfold enter at h
  split at h
  · cases h
    exact .closed
  · dsimp only at h
    split at h
    · next hEmpty =>
      cases h
      exact .unnamed (by simpa using hEmpty)
    · exact look_stemsFrom h

/-- A gate that failed passes its error on. -/
theorem pass_stemsFrom
    (hFailed : ∀ failure, s.pool.gates[gate]? = some (.failed failure) → failure.StemsFrom δ id)
    (h : (s.pass gate id).1 = .refused error) : error.StemsFrom δ id := by
  unfold pass at h
  split at h
  · next failure hGate =>
    cases h
    exact .failed (hFailed failure hGate)
  · cases h
    exact .closed
  · exact look_stemsFrom h
  · exact look_stemsFrom h
  · cases h
  · cases h

end Site

/-! ### Requests and the gates they wait at -/

/-- What the request was refused with stems from its endpoint, and so does what the gate has failed
with at which it waits. -/
structure Request.Accountable (δ : Type) [Dialer δ γ] (gates : List Gate) (r : Request) : Prop where
  refused : ∀ error, r.state = .refused error → error.StemsFrom δ r.endpointId
  awaited : ∀ gate error, r.state = .waiting gate → gates[gate]? = some (.failed error) →
    error.StemsFrom δ r.endpointId

namespace Pool

def Accountable (δ : Type) [Dialer δ γ] (p : Pool γ) : Prop :=
  ∀ r ∈ p.requests, r.Accountable δ p.gates

variable {allowed : Prop} {clock : Option Instant} {number index gate : Nat} {id : String}
  {p p' q : Pool γ} {requests : List Request} {state old : RequestState} {r : Request}

theorem Entered.pending (h : Entered allowed clock id p (.waiting gate) p')
    (hSound : p.Sound requests) : p'.gates[gate]? = some .pending := by
  cases h with
  | looked open_ named looks => exact looks.pending (hSound.tended (roused_tended p))

/-- A gate fails only with the sequence of dials behind it. -/
theorem Followed.failed_of_gate {dialed : String} {progress : DialProgress γ} {error : ConnectError}
    (h : Followed clock gate id dialed p progress state p')
    (hPending : p.gates[gate]? = some .pending)
    (hGate : p'.gates[gate]? = some (.failed error)) : progress = .failed error := by
  have hBefore : p.gates[gate]? ≠ some (.failed error) := by simp [hPending]
  cases h with
  | waiting => exact absurd hGate hBefore
  | failed failure =>
      cases (gates_openGate hGate).resolve_right hBefore
      rfl
  | unread | discarded | created => cases (gates_openGate hGate).resolve_right hBefore

/-- A request that still waits after its turn has not been told of any failure. -/
theorem Passed.unfailed {other : Nat} {error : ConnectError}
    (h : Passed allowed clock gate id p (.waiting other) p') (hSound : p.Sound requests) :
    p'.gates[other]? ≠ some (.failed error) := by
  cases h with
  | queued undecided => rcases undecided with hGate | hGate <;> simp [hGate]
  | looked decided looks => simp [looks.pending hSound]

variable [Dialer δ γ]

theorem Accountable.of_same (h : p.Accountable δ) (hRequests : p'.requests = p.requests)
    (hGates : p'.gates = p.gates) : p'.Accountable δ := by
  unfold Accountable
  rw [hRequests, hGates]
  exact h

/-- One request has changed. The others keep to their gates, which may have been decided by it. -/
theorem Accountable.settled (h : p.Accountable δ) (hRequests : q.requests = p.requests)
    (hOld : p.requests[index]? = some { endpointId := id, state := old })
    (hGates : ∀ r ∈ p.requests, ∀ gate error, r.state = .waiting gate →
      q.gates[gate]? = some (.failed error) →
        p.gates[gate]? = some (.failed error) ∨ error.StemsFrom δ r.endpointId)
    (hNew : Request.Accountable δ q.gates { endpointId := id, state }) :
    (q.setRequest index state).Accountable δ := by
  intro r hr
  rw [requests_setRequest (hRequests ▸ hOld), hRequests] at hr
  rcases List.mem_or_eq_of_mem_set hr with hr | rfl
  · refine ⟨(h r hr).refused, fun gate error hWaits hGate => ?_⟩
    exact (hGates r hr gate error hWaits hGate).elim ((h r hr).awaited gate error hWaits)
      fun hStems => hStems
  · exact hNew

end Pool

namespace Site

open Pool

variable [Dialer δ γ] {s : Site δ γ}

omit [Dialer δ γ] in
/-- Whoever waits does so at a gate that has been set up. -/
theorem gate_lt_of_waiting (hSound : s.pool.Sound s.pool.requests) {r : Request} {gate : Nat}
    (hr : r ∈ s.pool.requests) (hWaits : r.state = .waiting gate) :
    gate < s.pool.gates.length := by
  obtain ⟨index, hIndex⟩ := List.mem_iff_getElem?.mp hr
  exact (hSound.joined index r.endpointId gate (by rw [hIndex, ← hWaits])).1

theorem get_accountable (id : String) (hSound : s.pool.Sound s.pool.requests)
    (h : s.pool.Accountable δ) : (s.get id).2.pool.Accountable δ := by
  have hEntered := (enter_spec id s).2
  have hRequests : (s.get id).2.pool.requests =
      s.pool.requests ++ [{ endpointId := id, state := (s.enter id).1 }] :=
    congrArg (· ++ _) hEntered.requests_eq
  intro r hr
  rw [hRequests] at hr
  rcases List.mem_append.mp hr with hr | hr
  · refine ⟨(h r hr).refused, fun gate error hWaits hGate => ?_⟩
    have hSame := hEntered.gates_of_lt (gate_lt_of_waiting hSound hr hWaits)
    exact (h r hr).awaited gate error hWaits (hSame.symm.trans hGate)
  · obtain rfl := List.mem_singleton.mp hr
    refine ⟨fun error hRefused => enter_stemsFrom hRefused, fun gate error hWaits hGate => ?_⟩
    rw [show (s.enter id).1 = .waiting gate from hWaits] at hEntered
    cases (hEntered.pending hSound).symm.trans hGate

/-- A request that waits has a turn. -/
theorem passed_accountable {index gate : Nat} {id : String} (hSound : s.pool.Sound s.pool.requests)
    (h : s.pool.Accountable δ)
    (hWaiting : s.pool.requests[index]? = some { endpointId := id, state := .waiting gate }) :
    ((s.pass gate id).2.pool.setRequest index (s.pass gate id).1).Accountable δ := by
  have hPassed := (pass_spec gate id s).2
  have hSelf := h _ (List.mem_of_getElem? hWaiting)
  refine h.settled hPassed.requests_eq hWaiting (fun r hr other error hWaits hGate => Or.inl ?_)
    ⟨fun error => pass_stemsFrom (hSelf.awaited gate · rfl), fun other error hWaits hGate => ?_⟩
  · exact (hPassed.gates_of_lt (gate_lt_of_waiting hSound hr hWaits)).symm.trans hGate
  · rw [show (s.pass gate id).1 = .waiting other from hWaits] at hPassed
    exact absurd hGate (hPassed.unfailed hSound)

/-- A request that dials behind its gate has a turn. -/
theorem followed_accountable {index gate : Nat} {id : String} {sequence : DialSequence}
    {progress : DialProgress γ} (hSound : s.pool.Sound s.pool.requests) (h : s.pool.Accountable δ)
    (hDials : s.pool.requests[index]? = some { endpointId := id, state := .dialing gate sequence })
    (hStems : ∀ failure, progress = .failed failure → failure.StemsFrom δ id)
    (hSame : ∀ s', progress = .waiting s' → s'.endpointId = sequence.endpointId) :
    ((s.follow gate id progress).2.pool.setRequest index
      (s.follow gate id progress).1).Accountable δ := by
  obtain ⟨_, q, hScanned, hFollowed⟩ := follow_spec gate id sequence.endpointId progress s hSame
  refine h.settled (hFollowed.requests_eq.trans hScanned.requests_eq) hDials
    (fun r hr other error hWaits hGate => ?_)
    ⟨fun error => follow_stemsFrom hStems, fun other error hWaits => ?_⟩
  · by_cases hOther : gate = other
    -- whoever waits at the gate that is decided now wants what was dialed behind it
    · subst hOther
      obtain ⟨place, hPlace⟩ := List.mem_iff_getElem?.mp hr
      obtain ⟨_, hJoined⟩ := hSound.joined place r.endpointId gate (by rw [hPlace, ← hWaits])
      have hOwner : DialsAt s.pool.requests index id gate := ⟨sequence, hDials⟩
      have hPending := hSound.undecided index id gate hOwner
      rw [← hScanned.gates_eq] at hPending
      exact Or.inr (hJoined index id hOwner ▸
        hStems error (hFollowed.failed_of_gate hPending hGate))
    · refine Or.inl ?_
      rw [← hScanned.gates_eq, ← hFollowed.gates_of_ne hOther]
      exact hGate
  · rw [show (s.follow gate id progress).1 = .waiting other from hWaits] at hFollowed
    cases hFollowed.not_waiting

theorem resume_accountable (index : Nat) (hSound : s.pool.Sound s.pool.requests)
    (h : s.pool.Accountable δ) : (s.resume index).pool.Accountable δ := by
  unfold resume
  split
  · next hWaiting => exact passed_accountable hSound h hWaiting
  · next id gate sequence hDials =>
    let dialed : DialProgress γ × Surroundings δ := sequence.resume s.pool.shutdown s.env
    have hSequence : sequence.endpointId = id := hSound.sequence index id gate sequence hDials
    exact followed_accountable (s := { s with env := dialed.2 }) hSound h hDials
      (fun _ hFailed => hSequence ▸ DialSequence.resume_stemsFrom hFailed)
      fun _ hWaits => DialSequence.resume_endpointId hWaits
  · exact h

/-- Whoever waits when a caller goes away keeps to its gate, which may have been given up. -/
theorem drop_accountable (index : Nat) (h : s.pool.Accountable δ) :
    (s.drop index).pool.Accountable δ := by
  have hDropped (id : String) (gates : List Gate) :
      Request.Accountable δ gates { endpointId := id, state := .dropped } := ⟨nofun, nofun⟩
  unfold drop
  split
  · next hWaits =>
    exact h.settled rfl hWaits (fun _ _ _ _ _ hGate => Or.inl hGate) (hDropped _ _)
  · next id gate _ hDials =>
    exact h.settled (q := s.pool.openGate gate id .givenUp) rfl hDials
      (fun _ _ _ _ _ hGate => Or.inl ((gates_openGate hGate).resolve_left nofun)) (hDropped _ _)
  · exact h

end Site

namespace World

open Pool

variable [Dialer δ γ] {w : World δ γ} {number : Nat} {p p' : Pool γ} {act : Act δ}

theorem perform_accountable (hReachable : w.Reachable) (hp : w.pools[number]? = some p)
    (h : p.Accountable δ) (hp' : (w.perform act).pools[number]? = some p') : p'.Accountable δ := by
  have hSound : (w.site number p).pool.Sound p.requests := hReachable.sound hp
  by_cases hGet : ∃ id, act = .get number id
  · obtain ⟨id, rfl⟩ := hGet
    have hPool := visit_pool hp (Site.get_recorded id (w.site number p))
    exact Option.some.inj (hPool.symm.trans hp') ▸ Site.get_accountable id hSound h
  by_cases hResume : ∃ index, act = .resume number index
  · obtain ⟨index, rfl⟩ := hResume
    have hPool := visit_pool (f := fun s => ((), s.resume index)) hp
      (Site.resume_recorded index (w.site number p))
    exact Option.some.inj (hPool.symm.trans hp') ▸ Site.resume_accountable index hSound h
  by_cases hDrop : ∃ index, act = .drop number index
  · obtain ⟨index, rfl⟩ := hDrop
    have hRecorded : Surroundings.Recorded (fun _ => True) (w.site number p).env
        ((w.site number p).drop index).env :=
      (Site.drop_spec number index True (w.site number p)).1 ▸ .refl _
    have hPool := visit_pool (f := fun s => ((), s.drop index)) hp hRecorded
    exact Option.some.inj (hPool.symm.trans hp') ▸ Site.drop_accountable index h
  obtain ⟨q, hq, hChange⟩ := (perform_spec act w).pools number p hp
  cases hq.symm.trans hp'
  obtain ⟨hRequests, hGates⟩ := hChange.requests_gates_eq (fun id hAct => hGet ⟨id, hAct⟩)
    (fun index hAct => hResume ⟨index, hAct⟩) fun index hAct => hDrop ⟨index, hAct⟩
  exact h.of_same hRequests hGates

theorem performAll_accountable (hReachable : w.Reachable)
    (h : ∀ (number : Nat) p, w.pools[number]? = some p → p.Accountable δ) (acts : List (Act δ))
    (hp : (w.performAll acts).pools[number]? = some p) : p.Accountable δ := by
  induction acts generalizing w with
  | nil => exact h number p hp
  | cons act rest ih =>
      refine ih (hReachable.perform act) (fun number q hq => ?_) hp
      cases hBefore : w.pools[number]? with
      | none =>
          obtain ⟨linger, rfl, _⟩ := (perform_spec act w).opened number q hBefore hq
          exact nofun
      | some p => exact perform_accountable hReachable hBefore (h number p hBefore) hq

/-- In every world that a run leads to, requests are refused for reasons that stem from their own
endpoints. -/
theorem Reachable.accountable (hReachable : w.Reachable) (hp : w.pools[number]? = some p) :
    p.Accountable δ := by
  obtain ⟨env, acts, rfl⟩ := hReachable
  exact performAll_accountable (w := { env }) ⟨env, [], rfl⟩ (fun _ _ h => by simp at h) acts hp

end World

end Tether
