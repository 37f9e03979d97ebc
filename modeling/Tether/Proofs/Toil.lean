import Mathlib.Algebra.BigOperators.Group.List.Basic
import Mathlib.Algebra.GroupWithZero.Nat
import Mathlib.Data.List.Perm.Basic
import Mathlib.Data.Prod.Lex
import Tether.Proofs.Waiting

/-! What is left to do for the requests of a pool. Every turn of a request that can go on leaves less
of it: one request fewer that waits, or fewer dials ahead, or one fewer at a gate that is decided. -/

namespace Tether

variable {δ γ : Type}

namespace DialSequence

/-- How much lies ahead of a suspended sequence: launches and landings at most. -/
def ahead (s : DialSequence) : Nat :=
  match s.phase with
  | .flying _ _ => 2 * s.remaining + 1
  | .resting _ => 2 * (s.remaining - 1) + 2

theorem ahead_pos (s : DialSequence) : 0 < s.ahead := by
  unfold ahead
  split <;> omega

section Dialing

variable [Dialer δ γ] {env : Surroundings δ} {s s' : DialSequence}

theorem land_ahead {id : String} {tier : Tier} {told : Bool} {remaining attempt ticket : Nat}
    (h : (land id tier told remaining attempt ticket env).1 = .waiting s) :
    s.ahead < 2 * remaining + 1 := by
  induction remaining generalizing attempt ticket env with
  | zero =>
      unfold land at h
      split at h <;> cases h
  | succ left ih =>
      unfold land at h
      split at h
      · cases h
      · dsimp only at h
        split at h
        · cases h
        · split at h
          · split at h
            · have hLater := ih h
              omega
            · cases h
              simp [ahead]
          · cases h
            simp [ahead]
            omega

theorem launch_ahead {id : String} {tier : Tier} {told : Bool} {remaining attempt : Nat}
    (h : (launch id tier told remaining attempt env).1 = .waiting s) :
    s.ahead ≤ 2 * remaining + 1 := by
  unfold launch at h
  dsimp only at h
  split at h
  · exact Nat.le_of_lt (land_ahead h)
  · cases h
    simp [ahead]

/-- A sequence that can go on has less ahead of it then. -/
theorem resume_ahead {told : Bool} (hReady : s.isReady told env = true)
    (h : (s.resume told env).1 = .waiting s') : s'.ahead < s.ahead := by
  unfold resume at h
  dsimp only at h
  split at h
  · next ticket lands hPhase =>
    have hAhead : s.ahead = 2 * s.remaining + 1 := by rw [ahead, hPhase]
    rw [isReady, hPhase] at hReady
    rw [if_pos (of_decide_eq_true hReady)] at h
    rw [hAhead]
    exact land_ahead h
  · next ends hPhase =>
    have hAhead : s.ahead = 2 * (s.remaining - 1) + 2 := by rw [ahead, hPhase]
    rw [isReady, hPhase] at hReady
    split at h
    · cases h
    · next hUntold =>
      have hEnds : ends ≤ env.now := by simpa [Bool.eq_false_iff.mpr hUntold] using hReady
      rw [if_pos hEnds] at h
      have hNext := launch_ahead h
      omega

/-- A sequence that cannot go on stays as it is. -/
theorem resume_of_unready {told : Bool} (hUnready : s.isReady told env = false) :
    s.resume (γ := γ) told env = (.waiting s, env) := by
  unfold resume
  dsimp only
  split
  · next ticket lands hPhase =>
    rw [isReady, hPhase] at hUnready
    rw [if_neg (of_decide_eq_false hUnready)]
  · next ends hPhase =>
    rw [isReady, hPhase] at hUnready
    simp only [Bool.or_eq_false_iff] at hUnready
    rw [if_neg (by simp [hUnready.1]), if_neg (of_decide_eq_false hUnready.2)]

end Dialing

/-- What a sequence that cannot go on waits for lies ahead. -/
theorem due_of_unready {env : Surroundings δ} {s : DialSequence} {told : Bool}
    (hUnready : s.isReady told env = false) : env.now < s.due := by
  unfold isReady at hUnready
  unfold due
  split at hUnready
  · exact Nat.lt_of_not_le (of_decide_eq_false hUnready)
  · simp only [Bool.or_eq_false_iff] at hUnready
    exact Nat.lt_of_not_le (of_decide_eq_false hUnready.2)

end DialSequence

namespace RequestState

def isWaiting : RequestState → Bool
  | waiting _ => true
  | _ => false

/-- What lies ahead of the sequence of dials that the request runs. -/
def ahead : RequestState → Nat
  | dialing _ s => s.ahead
  | _ => 0

/-- How long it takes until that sequence can go on. -/
def delay (now : Instant) : RequestState → Nat
  | dialing _ s => s.due - now
  | _ => 0

/-- The request waits at one of these gates that is decided. -/
def passes (gates : List Gate) : RequestState → Bool
  | waiting gate => !(gates[gate]?.any Gate.isPending)
  | _ => false

end RequestState

namespace Pool

/-- What is left to do for the requests of a pool: those that wait, then the dials that lie ahead of
the others, then those whose gate is decided. -/
def toil (p : Pool γ) : Nat ×ₗ (Nat ×ₗ Nat) :=
  toLex (p.requests.countP fun r => r.state.isWaiting,
    toLex ((p.requests.map fun r => r.state.ahead).sum,
      p.requests.countP fun r => r.state.passes p.gates))

/-- How long it takes, all in all, until the sequences of dials that are suspended can go on. -/
def delay (now : Instant) (p : Pool γ) : Nat := (p.requests.map fun r => r.state.delay now).sum

theorem toil_congr {p p' : Pool γ} (hRequests : p'.requests = p.requests)
    (hGates : p'.gates = p.gates) : p'.toil = p.toil := by
  rw [toil, toil, hRequests, hGates]

section Turns

variable {allowed : Prop} {clock : Option Instant} {index gate : Nat} {id dialed : String}
  {p q : Pool γ} {old new state : RequestState}

/-- One request is replaced, and the rest are as they were. -/
theorem requests_of_turn (hRequests : q.requests = p.requests)
    (hOld : p.requests[index]? = some { endpointId := id, state := old }) (new : RequestState) :
    ∃ rest, p.requests.Perm ({ endpointId := id, state := old } :: rest) ∧
      (q.setRequest index new).requests.Perm ({ endpointId := id, state := new } :: rest) := by
  obtain ⟨hBound, hAt⟩ := List.getElem?_eq_some_iff.mp hOld
  refine ⟨p.requests.eraseIdx index, ?_, ?_⟩
  · rw [← hAt]
    exact (List.getElem_cons_eraseIdx_perm hBound).symm
  · rw [requests_setRequest (hRequests ▸ hOld), hRequests]
    exact List.set_perm_cons_eraseIdx hBound _

/-- A request stops waiting. -/
theorem toil_of_unwaiting (hRequests : q.requests = p.requests)
    (hOld : p.requests[index]? = some { endpointId := id, state := old })
    (hWaits : old.isWaiting = true) (hNew : new.isWaiting = false) :
    (q.setRequest index new).toil < p.toil := by
  obtain ⟨rest, hBefore, hAfter⟩ := requests_of_turn hRequests hOld new
  refine Prod.Lex.toLex_lt_toLex.mpr (Or.inl ?_)
  rw [hBefore.countP_eq, hAfter.countP_eq]
  simp [hWaits, hNew]

/-- A request has fewer dials ahead of it, and waits no more than it did. -/
theorem toil_of_ahead (hRequests : q.requests = p.requests)
    (hOld : p.requests[index]? = some { endpointId := id, state := old })
    (hNew : new.isWaiting = false) (hLess : new.ahead < old.ahead) :
    (q.setRequest index new).toil < p.toil := by
  obtain ⟨rest, hBefore, hAfter⟩ := requests_of_turn hRequests hOld new
  have hOldWaits : old.isWaiting = false := by
    cases old with
    | waiting => cases hLess
    | _ => rfl
  refine Prod.Lex.toLex_lt_toLex.mpr (Or.inr ⟨?_, Prod.Lex.toLex_lt_toLex.mpr (Or.inl ?_)⟩)
  · rw [hBefore.countP_eq, hAfter.countP_eq]
    simp [hOldWaits, hNew]
  · rw [(hBefore.map _).sum_eq, (hAfter.map _).sum_eq]
    simpa using hLess

/-- A request leaves a decided gate for one that is not. -/
theorem toil_of_moved {other : Nat} (hRequests : q.requests = p.requests)
    (hGates : q.gates = p.gates)
    (hOld : p.requests[index]? = some { endpointId := id, state := .waiting gate })
    (hDecided : (RequestState.waiting gate).passes p.gates = true)
    (hPending : (RequestState.waiting other).passes p.gates = false) :
    (q.setRequest index (.waiting other)).toil < p.toil := by
  obtain ⟨rest, hBefore, hAfter⟩ := requests_of_turn hRequests hOld (.waiting other)
  refine Prod.Lex.toLex_lt_toLex.mpr (Or.inr ⟨?_, Prod.Lex.toLex_lt_toLex.mpr (Or.inr ⟨?_, ?_⟩)⟩)
  · rw [hBefore.countP_eq, hAfter.countP_eq]
    rfl
  · rw [(hBefore.map _).sum_eq, (hAfter.map _).sum_eq]
    rfl
  · have hSame : (q.setRequest index (.waiting other)).gates = p.gates := hGates
    rw [hSame, hBefore.countP_eq, hAfter.countP_eq]
    simp [hDecided, hPending]

theorem Followed.not_waiting {progress : DialProgress γ}
    (h : Followed clock gate id dialed p progress state q) : state.isWaiting = false := by
  cases h <;> rfl

theorem Passed.toil_lt {outcome : Gate} (h : Passed allowed clock gate id p state q)
    (hSound : p.Sound p.requests)
    (hWaits : p.requests[index]? = some { endpointId := id, state := .waiting gate })
    (hDecided : p.gates[gate]? = some outcome) (hOutcome : outcome ≠ .pending) :
    (q.setRequest index state).toil < p.toil := by
  have hDone (hNew : state.isWaiting = false) : (q.setRequest index state).toil < p.toil :=
    toil_of_unwaiting h.requests_eq hWaits rfl hNew
  cases h with
  | failed | closed => exact hDone rfl
  | queued undecided =>
      rcases undecided with hPending | hNone
      · cases hDecided.symm.trans hPending
        exact absurd rfl hOutcome
      · cases hDecided.symm.trans hNone
  | looked decided looks =>
      cases looks with
      | closed | unread | reused => exact hDone rfl
      | dials lacks scanned follows => exact hDone follows.not_waiting
      | queued open_ unregistered dialed =>
          obtain ⟨owner, hOwner⟩ := (hSound.listed open_ id _).mp dialed
          refine toil_of_moved rfl rfl hWaits ?_ ?_
          · simp [RequestState.passes, hDecided, Gate.isPending_eq_false hOutcome]
          · simp [RequestState.passes, hSound.undecided owner id _ hOwner, Gate.isPending]

theorem Followed.toil_lt {progress : DialProgress γ} {sequence : DialSequence} {r : Pool γ}
    (h : Followed clock gate id dialed r progress state q) (hRequests : r.requests = p.requests)
    (hDials : p.requests[index]? = some { endpointId := id, state := .dialing gate sequence })
    (hLess : ∀ s, progress = .waiting s → s.ahead < sequence.ahead) :
    (q.setRequest index state).toil < p.toil := by
  refine toil_of_ahead (h.requests_eq.trans hRequests) hDials h.not_waiting ?_
  cases h with
  | waiting => exact hLess _ rfl
  | failed | unread | discarded | created => exact sequence.ahead_pos

end Turns

end Pool

end Tether
