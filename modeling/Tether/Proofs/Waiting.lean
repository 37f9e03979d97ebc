import Tether.Proofs.SingleFlight

/-! No request waits for nothing: behind every gate that is still to be decided somebody dials, and
at a decided gate whoever waits there goes on. No gate outlives its dialing either. -/

namespace Tether

variable {δ γ : Type}

theorem Gate.isPending_eq_false {outcome : Gate} (h : outcome ≠ .pending) :
    outcome.isPending = false := by
  cases outcome with
  | pending => exact absurd rfl h
  | _ => rfl

namespace Pool

variable {allowed : Prop} {clock : Option Instant} {gate : Nat} {id : String} {p p' : Pool γ}
  {state : RequestState}

/-- A request that passes a decided gate does not come back to it: a gate that the pool lists is
still to be decided. -/
theorem Passed.leaves {requests : List Request} (h : Passed allowed clock gate id p state p')
    (hSound : p.Sound requests) {outcome : Gate} (hDecided : p.gates[gate]? = some outcome)
    (hOutcome : outcome ≠ .pending) : state ≠ .waiting gate := by
  cases h with
  | failed | closed => nofun
  | queued undecided =>
      rcases undecided with hPending | hNone
      · cases hDecided.symm.trans hPending
        exact absurd rfl hOutcome
      · cases hDecided.symm.trans hNone
  | looked decided looks =>
      rintro rfl
      have hBound := (List.getElem?_eq_some_iff.mp hDecided).1
      have hPending := looks.pending hSound
      rw [looks.gates_of_lt hBound, hDecided] at hPending
      exact hOutcome (Option.some.inj hPending)

end Pool

namespace Site

variable [Dialer δ γ]

theorem resume_of_waiting {index gate : Nat} {id : String} {s : Site δ γ}
    (hWaits : s.pool.requests[index]? = some { endpointId := id, state := .waiting gate }) :
    s.resume index =
      (s.pass gate id).2.update (Pool.setRequest index (s.pass gate id).1) := by
  unfold resume
  rw [hWaits]

end Site

namespace World

open Surroundings Pool

variable [Dialer δ γ] {w : World δ γ} {number index gate : Nat} {id : String} {p : Pool γ}

/-- What a turn makes of a request that waits. -/
theorem perform_resume_waiting (hp : w.pools[number]? = some p)
    (hWaits : p.requests[index]? = some { endpointId := id, state := .waiting gate }) :
    ∃ state q, Passed (w.probed = some number) w.env.shown gate id p state q ∧
      (w.perform (.resume number index)).pools[number]? = some (q.setRequest index state) := by
  have hWaits' : (w.site number p).pool.requests[index]? =
    some { endpointId := id, state := .waiting gate } := hWaits
  obtain ⟨hNoted, hPassed⟩ := Site.pass_spec gate id (w.site number p)
  obtain ⟨_, hVisited⟩ := visit_spec hp (fun s => ((), s.resume index)) <| by
    rw [Site.resume_of_waiting hWaits']
    exact hNoted.toRecorded
  refine ⟨_, _, hPassed.mono fun h => by simpa [site] using h, ?_⟩
  have hPool := hVisited.pool
  rw [Site.resume_of_waiting hWaits'] at hPool
  exact hPool

/-- In every world that a run leads to: an open pool has gates for exactly the endpoints that live
requests are dialing, and a closed pool has none in its table. A request that waits at a gate waits
for a live request that dials behind that gate, or can go on now, and a turn takes it away from the
gate. -/
theorem no_stuck_waiter (hReachable : w.Reachable) (hp : w.pools[number]? = some p) :
    (p.closed = false → ∀ id gate, p.creating.get? id = some gate ↔
      ∃ index, DialsAt p.requests index id gate) ∧
    (p.closed = true → p.creating = []) ∧
    ∀ (index : Nat) id gate,
      p.requests[index]? = some { endpointId := id, state := .waiting gate } →
        (p.gates[gate]? = some .pending ∧ ∃ owner, DialsAt p.requests owner id gate) ∨
        ((∃ outcome, p.gates[gate]? = some outcome ∧ outcome ≠ .pending) ∧
          requestReady w.env p { endpointId := id, state := .waiting gate } = true ∧
          ∃ q state, (w.perform (.resume number index)).pools[number]? = some q ∧
            q.requests[index]? = some { endpointId := id, state := state } ∧
            state ≠ .waiting gate) := by
  have hSound := hReachable.sound hp
  refine ⟨hSound.listed, fun hClosed => (hSound.emptied hClosed).1, ?_⟩
  intro index id gate hWaits
  obtain ⟨hBound, hJoined⟩ := hSound.joined index id gate hWaits
  obtain ⟨outcome, hOutcome⟩ : ∃ outcome, p.gates[gate]? = some outcome :=
    ⟨_, List.getElem?_eq_getElem hBound⟩
  by_cases hPending : outcome = .pending
  · subst hPending
    obtain ⟨owner, id', hOwner⟩ := hSound.owned gate hOutcome
    obtain rfl := hJoined owner id' hOwner
    exact Or.inl ⟨hOutcome, owner, hOwner⟩
  · obtain ⟨state, q, hPassed, hq⟩ := perform_resume_waiting hp hWaits
    refine Or.inr ⟨⟨outcome, hOutcome, hPending⟩, ?_, _, state, hq, ?_,
      hPassed.leaves hSound hOutcome hPending⟩
    · simp [requestReady, hOutcome, Gate.isPending_eq_false hPending]
    · rw [requests_setRequest (hPassed.requests_eq ▸ hWaits), hPassed.requests_eq]
      exact List.getElem?_set_self (List.getElem?_eq_some_iff.mp hWaits).1

/-- The first of two requests for one endpoint went away while it dialed. -/
def stranded : World (FixedDialer Nat) Nat :=
  performAll [.openPool 10, .get 0 "db", .get 0 "db", .drop 0 0]
    { env := { factory := { dialer := { connection := 7, latency := 5 } } } }

theorem stranded_goes_on : ∃ q state, (stranded.perform (.resume 0 1)).pools[0]? = some q ∧
    q.requests[1]? = some { endpointId := "db", state := state } ∧ state ≠ .waiting 0 := by
  have hReachable : stranded.Reachable := ⟨_, _, rfl⟩
  have hGate : ∃ p, stranded.pools[0]? = some p ∧ p.gates[0]? = some .givenUp ∧
      p.requests[1]? = some { endpointId := "db", state := .waiting 0 } := ⟨_, rfl, rfl, rfl⟩
  obtain ⟨p, hp, hGivenUp, hWaits⟩ := hGate
  rcases (no_stuck_waiter hReachable hp).2.2 1 "db" 0 hWaits with ⟨hPending, _⟩ | ⟨_, _, hTurn⟩
  · cases hGivenUp.symm.trans hPending
  · exact hTurn

end World

end Tether
