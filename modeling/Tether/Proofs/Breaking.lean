import Tether.Proofs.Closing
import Tether.Proofs.Likeness

/-! What an operation on one pool leaves behind that breaks off at a reading of the clock. It has
changed nothing that lasts but the state of the dialer, the endpoints that were dialed and the
reaper; and the pool that it leaves is like the one that there would be without it. -/

namespace Tether

variable {δ γ : Type}

namespace Surroundings

variable {env env' env'' : Surroundings δ} {allowed : Event → Prop}

/-- The factory goes by the settings that it had. -/
structure Configured (env env' : Surroundings δ) : Prop where
  policy : env'.factory.policy = env.factory.policy
  shutdown : env'.factory.shutdown = env.factory.shutdown

theorem Configured.refl (env : Surroundings δ) : Configured env env := ⟨rfl, rfl⟩

theorem Configured.trans (first : Configured env env') (second : Configured env' env'') :
    Configured env env'' :=
  ⟨second.policy.trans first.policy, second.shutdown.trans first.shutdown⟩

theorem Still.configured (h : Still env env') : Configured env env' :=
  ⟨congrArg Factory.policy h.factory, congrArg Factory.shutdown h.factory⟩

theorem configured_note (event : Event) (env : Surroundings δ) : Configured env (env.note event) :=
  ⟨rfl, rfl⟩

theorem configured_setDialer (dialer : δ) (env : Surroundings δ) :
    Configured env (env.setDialer dialer) :=
  ⟨rfl, rfl⟩

theorem configured_firstContact (id : String) (env : Surroundings δ) :
    Configured env (env.firstContact id).2 := by
  unfold firstContact Factory.firstContact
  dsimp only
  split <;> exact ⟨rfl, rfl⟩

/-- The surroundings without an operation that ended in `env'`. What it did to the dialer and the
endpoints that it dialed are kept, and so is the count of its readings. -/
def spared (env env' : Surroundings δ) : Surroundings δ :=
  { env with
    factory := { env.factory with dialer := env'.factory.dialer, seen := env'.factory.seen }
    probing := env'.probing
    readings := env'.readings }

/-- A step that leaves time, clock and settings alone does nothing else that shows. -/
theorem spared_alike (hRecorded : Recorded allowed env env') (hConfigured : Configured env env') :
    (env.spared env').Alike env.history env'.history env' := by
  let common : Surroundings δ := { env' with events := [], probes := [] }
  have hSpared : env.spared env' = common.after env.history := by
    obtain ⟨hPolicy, hShutdown⟩ := hConfigured
    simp only [spared, common, after, history, hRecorded.now, hRecorded.clock, ← hPolicy,
      ← hShutdown, List.nil_append]
  rw [hSpared]
  exact .intro common

end Surroundings

namespace DialSequence

open Surroundings

variable [Dialer δ γ]

/-- Dialing follows the settings of the factory and does not change them. -/
theorem land_configured (id : String) (tier : Tier) (cancelled : Bool)
    (remaining attempt ticket : Nat) (env : Surroundings δ) :
    Configured env (land id tier cancelled remaining attempt ticket env).2 := by
  induction remaining generalizing attempt ticket env with
  | zero =>
      unfold land
      split <;> exact (configured_setDialer _ env).trans (configured_note ..)
  | succ left ih =>
      unfold land
      split
      · exact (configured_setDialer _ env).trans (configured_note ..)
      · next error dialer _ =>
        have hRetry : Configured env ((env.setDialer dialer).note
            (.retrying id attempt (left + 1) (env.factory.policy.grace tier) error)) :=
          (configured_setDialer _ env).trans (configured_note ..)
        dsimp only
        split
        · exact hRetry.trans (configured_note ..)
        · split
          · split
            · exact (hRetry.trans (configured_setDialer ..)).trans (ih _ _ _)
            · exact hRetry.trans (configured_setDialer ..)
          · exact hRetry

theorem launch_configured (id : String) (tier : Tier) (cancelled : Bool) (remaining attempt : Nat)
    (env : Surroundings δ) :
    Configured env (launch id tier cancelled remaining attempt env).2 := by
  unfold launch
  dsimp only
  split
  · exact (configured_setDialer _ env).trans (land_configured ..)
  · exact configured_setDialer _ env

/-- A sequence of dials uses the settings of the factory and never changes them. -/
theorem start_configured (id : String) (told : Bool) (env : Surroundings δ) :
    Configured env (start id told env).2 :=
  ((configured_firstContact id env).trans (configured_note ..)).trans (launch_configured ..)

theorem resume_configured (told : Bool) (s : DialSequence) (env : Surroundings δ) :
    Configured env (s.resume told env).2 := by
  unfold resume
  dsimp only
  split
  · split
    · exact land_configured ..
    · exact .refl env
  · split
    · exact configured_note ..
    · split
      · exact launch_configured ..
      · exact .refl env

end DialSequence

namespace Site

open Surroundings Pool

/-! ### Requests and the settings of the factory -/

section Dialing

variable [Dialer δ γ]

theorem dial_configured (id : String) (s : Site δ γ) :
    Configured s.env (s.dial id).2.env := by
  have hFollowed := follow_spec s.pool.gates.length id id
    (DialSequence.start (γ := γ) id s.pool.shutdown s.env).1
    { s.update (raiseGate id) with env := (DialSequence.start id s.pool.shutdown s.env).2 }
    fun _ h => DialSequence.start_endpointId h
  exact (DialSequence.start_configured ..).trans hFollowed.1.configured

theorem look_configured (id : String) (s : Site δ γ) : Configured s.env (s.look id).2.env := by
  unfold look
  split
  · exact .refl _
  · split
    · next handle _ => exact (reuse_spec handle id s).1.configured
    · split
      · exact .refl _
      · exact dial_configured id s

/-- However far a new request gets, the settings of the factory stay as they are. -/
theorem get_configured (id : String) (s : Site δ γ) : Configured s.env (s.get id).2.env := by
  show Configured s.env (s.enter id).2.env
  have hRoused := (startReaper_spec s).1.configured
  unfold enter
  split
  · exact .refl _
  · dsimp only
    split
    · exact hRoused
    · exact hRoused.trans (look_configured id _)

theorem pass_configured (gate : Nat) (id : String) (s : Site δ γ) :
    Configured s.env (s.pass gate id).2.env := by
  have hLook : Configured s.env ((s.note (.rechecking id)).look id).2.env :=
    (configured_note ..).trans (look_configured id (s.note (.rechecking id)))
  unfold pass
  split <;> first | exact .refl _ | exact hLook

/-- The same goes for a request that goes on. -/
theorem resume_configured (index : Nat) (s : Site δ γ) :
    Configured s.env (s.resume index).env := by
  unfold resume
  split
  · next id gate _ => exact pass_configured gate id s
  · next id gate sequence _ =>
    have hFollowed := follow_spec gate id sequence.endpointId
      (sequence.resume (γ := γ) s.pool.shutdown s.env).1
      { s with env := (sequence.resume s.pool.shutdown s.env).2 }
      fun _ h => DialSequence.resume_endpointId h
    exact (DialSequence.resume_configured ..).trans hFollowed.1.configured
  · exact .refl _

end Dialing

/-! ### Readings that fail -/

section Blind

variable {s : Site δ γ}

/-- A scan breaks off only where the clock cannot be read. -/
theorem scan_missing (h : s.scan.1 = none) : s.env.shown = none := by
  obtain ⟨hShown, _⟩ := reading_spec true s
  unfold scan at h
  split at h
  · cases h
  · split at h
    · next s' hRead =>
      rw [hRead] at hShown
      exact hShown.symm
    · cases h

theorem evictIdle_missing (h : s.evictIdle.1 = none) : s.env.shown = none := by
  unfold evictIdle at h
  split at h
  · cases h
  · exact scan_missing h

/-- A probe of a clock that cannot be read notes at most why it did not scan. -/
theorem probe_blind (hBlind : s.env.shown = none) (locked : Bool) :
    ∃ probes, s.probe locked = { s with env := { s.env with probes } } := by
  unfold probe
  rw [hBlind]
  dsimp only
  split
  · exact ⟨_, rfl⟩
  · split <;> exact ⟨_, rfl⟩

/-- What an act of the reaper can do to its pool: it breaks off only if the clock cannot be read,
and then nothing else happens to the pool. -/
structure Tends (s s' : Site δ γ) : Prop where
  shown : s'.env.shown = s.env.shown
  broken : s'.pool.reaper = .broken → s.pool.reaper = .broken ∨ s.env.shown = none
  blind : s.env.shown = none → ∃ reaper wakes, s'.pool = { s.pool with reaper, wakes }

theorem Tends.refl (s : Site δ γ) : Tends s s := ⟨rfl, Or.inl, fun _ => ⟨_, _, rfl⟩⟩

/-- What a reaper does step by step stays within what it may do. -/
theorem Tends.trans {s' s'' : Site δ γ} (first : Tends s s') (second : Tends s' s'') :
    Tends s s'' := by
  refine ⟨second.shown.trans first.shown, fun hBroken => ?_, fun hBlind => ?_⟩
  · rcases second.broken hBroken with hBroken | hBlind
    · exact first.broken hBroken
    · exact Or.inr (first.shown.symm.trans hBlind)
  · obtain ⟨_, _, hFirst⟩ := first.blind hBlind
    obtain ⟨_, _, hSecond⟩ := second.blind (first.shown.trans hBlind)
    exact ⟨_, _, by rw [hSecond, hFirst]⟩

theorem note_tends (event : Event) (s : Site δ γ) : Tends s (s.note event) :=
  ⟨rfl, Or.inl, fun _ => ⟨_, _, rfl⟩⟩

theorem rest_tends (s : Site δ γ) : Tends s s.rest := ⟨rfl, nofun, fun _ => ⟨_, _, rfl⟩⟩

/-- A scan leaves the life of the reaper alone. -/
theorem scan_tends (s : Site δ γ) : Tends s s.scan.2 := by
  obtain ⟨hStill, hScanned⟩ := scan_spec s
  refine ⟨hStill.shown, fun hBroken => Or.inl ?_, fun hBlind =>
    ⟨s.pool.reaper, s.pool.wakes, ?_⟩⟩
  · rwa [hScanned.eq] at hBroken
  · exact Scanned.of_blind (hBlind ▸ hScanned)

theorem reap_tends (s : Site δ γ) : Tends s s.reap := by
  have hScanned := scan_tends s
  have hMissing := scan_missing (s := s)
  unfold reap
  rcases hScan : s.scan with ⟨answer, s'⟩
  rw [hScan] at hScanned hMissing
  match answer with
  | none =>
      have hBlind : s'.env.shown = none := hScanned.shown.trans (hMissing rfl)
      exact hScanned.trans ⟨rfl, fun _ => Or.inr hBlind, fun _ => ⟨_, _, rfl⟩⟩
  | some (.ok evicted) =>
      dsimp only
      split
      · exact hScanned.trans (rest_tends s')
      · exact (hScanned.trans (note_tends _ s')).trans (rest_tends _)
  | some (.error error) => exact (hScanned.trans (note_tends _ s')).trans (rest_tends _)

theorem answerWakes_tends (count : Nat) (s : Site δ γ) : Tends s (s.answerWakes count) := by
  induction count generalizing s with
  | zero => exact .refl s
  | succ count ih =>
      unfold answerWakes
      split
      · have hWoken : Tends s (s.update fun p => { p with wakes := p.wakes - 1 }) :=
          ⟨rfl, Or.inl, fun _ => ⟨_, _, rfl⟩⟩
        exact ((hWoken.trans (note_tends .reaperWoken _)).trans (reap_tends _)).trans (ih _)
      · exact .refl s

theorem sleep_tends (s : Site δ γ) : Tends s s.sleep := by
  unfold sleep
  split
  · exact rest_tends s
  · split
    · exact reap_tends s
    · exact .refl s
  · exact .refl s

/-- A turn of the reaper ends in a broken reaper only where it cannot read the clock, and it then
changes nothing else. -/
theorem reaperTurn_tends (s : Site δ γ) : Tends s s.reaperTurn := by
  unfold reaperTurn
  split
  · exact .refl s
  · split
    · exact ⟨rfl, nofun, fun _ => ⟨_, _, rfl⟩⟩
    · exact (answerWakes_tends _ s).trans (sleep_tends _)

/-- A reaper that is told to stop does not scan any more. -/
theorem reaperTurn_of_shutdown (hShutdown : s.pool.shutdown = true)
    (hBroken : s.reaperTurn.pool.reaper = .broken) : s.pool.reaper = .broken := by
  unfold reaperTurn at hBroken
  rw [hShutdown] at hBroken
  split at hBroken
  · exact hBroken
  · cases hBroken

end Blind

end Site

/-! ### Requests that break off -/

namespace Pool

variable {p p' : Pool γ} {requests : List Request} {index gate : Nat} {id dialed : String}
  {allowed : Prop} {clock : Option Instant}

/-- What a look that broke off leaves of a pool: at most one more gate, and that one is already
given up and stands for nothing. -/
structure Tried (p p' : Pool γ) : Prop where
  same : p' = { p with gates := p'.gates, creating := p'.creating }
  gates : p'.gates = p.gates ∨ p'.gates = p.gates ++ [.givenUp]
  listed : ∀ id, p'.creating.get? id = p.creating.get? id

theorem Tried.refl (p : Pool γ) : p.Tried p := ⟨rfl, Or.inl rfl, fun _ => rfl⟩

/-- A gate that is given up as soon as it has been set up. -/
theorem Lacks.tried (h : p.Lacks id) :
    p.Tried ((p.raiseGate id).openGate p.gates.length id .givenUp) := by
  refine ⟨rfl, Or.inr ?_, fun other => ?_⟩
  · show (p.gates ++ [Gate.pending]).set p.gates.length .givenUp = p.gates ++ [.givenUp]
    rw [List.set_append_right _ _ (Nat.le_refl _), Nat.sub_self]
    rfl
  · have hListed : (p.raiseGate id).creating.get? id = some p.gates.length := by
      simp [raiseGate]
    rw [openGate, if_pos hListed]
    show ((p.creating.insert id p.gates.length).erase id).get? other = p.creating.get? other
    rw [Table.get?_erase, Table.get?_insert]
    split
    · next hOther => rw [hOther, h.undialed]
    · rfl

/-- A request that breaks off once its sequence of dials has ended gives up its gate and leaves the
rest. -/
theorem Followed.of_broken {progress : DialProgress γ}
    (h : Followed clock gate id dialed p progress .broken p') :
    clock = none ∧ p' = p.openGate gate id .givenUp := by
  cases h with
  | unread blind => exact ⟨blind, rfl⟩

/-- A request that breaks off when it looks into the registry has at most raised a gate, and given
it up. -/
theorem Looked.of_broken (h : Looked allowed clock id p .broken p') :
    clock = none ∧ p.Tried p' := by
  cases h with
  | unread registered blind => exact ⟨blind, .refl p⟩
  | dials lacks scanned follows =>
      obtain ⟨rfl, rfl⟩ := follows.of_broken
      obtain rfl := scanned.of_blind
      exact ⟨rfl, lacks.tried⟩

/-- A new request may also have started the reaper. -/
theorem Entered.of_broken (h : Entered allowed clock id p .broken p') :
    clock = none ∧ p.roused.Tried p' := by
  cases h with
  | looked open_ named looks => exact looks.of_broken

theorem Passed.of_broken (h : Passed allowed clock gate id p .broken p') :
    clock = none ∧ p.Tried p' := by
  cases h with
  | looked decided looks => exact looks.of_broken

/-- Requests and the table of gates name only gates that there are. -/
theorem Sound.gate_lt (h : p.Sound requests) :
    (∀ r ∈ requests, ∀ gate, (r.state = .waiting gate ∨ ∃ s, r.state = .dialing gate s) →
      gate < p.gates.length) ∧
    ∀ id gate, p.creating.get? id = some gate → gate < p.gates.length := by
  have hDials (index : Nat) (id : String) (gate : Nat) (hd : DialsAt requests index id gate) :
      gate < p.gates.length := (List.getElem?_eq_some_iff.mp (h.undecided index id gate hd)).1
  refine ⟨fun r hMem gate hState => ?_, fun id gate hListed => ?_⟩
  · obtain ⟨index, hRequest⟩ := List.getElem?_of_mem hMem
    obtain ⟨id, state⟩ := r
    rcases hState with rfl | ⟨s, rfl⟩
    · exact (h.joined index id gate hRequest).1
    · exact hDials index id gate ⟨s, hRequest⟩
  · cases hClosed : p.closed with
    | true =>
        rw [(h.emptied hClosed).1] at hListed
        cases hListed
    | false =>
        obtain ⟨index, hd⟩ := (h.listed hClosed id gate).mp hListed
        exact hDials index id gate hd

/-- Every gate stands as it did, but for the new one, which is given up. -/
theorem Tried.decided (h : p.Tried p') (gate : Nat) :
    p'.gates[gate]? = p.gates[gate]? ∨ p'.gates[gate]? = some .givenUp := by
  rcases h.gates with hGates | hGates
  · exact Or.inl (by rw [hGates])
  · rw [hGates]
    by_cases hGate : gate < p.gates.length
    · exact Or.inl (List.getElem?_append_left hGate)
    · rw [List.getElem?_append_right (Nat.le_of_not_lt hGate),
        List.getElem?_eq_none (Nat.le_of_not_lt hGate)]
      cases gate - p.gates.length with
      | zero => exact Or.inr rfl
      | succ more => exact Or.inl rfl

theorem Tried.setRequests (h : p.Tried p') (requests : List Request) :
    Tried { p with requests } { p' with requests } :=
  ⟨congrArg (fun p : Pool γ => { p with requests }) h.same, h.gates, h.listed⟩

/-- Nobody notices a gate that was given up as soon as it had been set up. -/
theorem Tried.alike (h : p.Tried p') (hSound : p.Sound requests)
    (hKept : ∀ r ∈ p.requests, r ∈ requests) : ∃ R, p.Alike R p' := by
  obtain ⟨hRequests, hListed⟩ := hSound.gate_lt
  rw [h.same]
  rcases h.gates with hGates | hGates
  · refine ⟨.refl, .intro ?_ (fun index _ _ _ => ⟨index, rfl⟩) ?_ fun id => ?_⟩
    · rw [Request.moved_of_unmoved rfl]
      exact .refl _
    · rw [hGates]
      exact .refl _
    · rw [h.listed]
      exact Option.map_id'.symm
  · -- The new gate has the last number, and nobody names a gate beyond it.
    refine ⟨.skipGate p.gates.length, .intro (.of_fixed fun r hMem => ?_)
      (fun index _ _ _ => ⟨index, rfl⟩) ?_ fun id => ?_⟩
    · have hGate := hRequests r (hKept r hMem)
      obtain ⟨id, state⟩ := r
      cases state with
      | waiting gate =>
          have hSame := skip_of_lt (hGate gate (Or.inl rfl))
          simp [Request.moved, RequestState.moved, Renumbering.skipGate, hSame]
      | dialing gate s =>
          have hSame := skip_of_lt (hGate gate (Or.inr ⟨s, rfl⟩))
          simp [Request.moved, RequestState.moved, Renumbering.skipGate, hSame]
      | _ => rfl
    · have hLast : p.gates.length < (p.gates ++ [Gate.givenUp]).length := by simp
      have hEmbeds := Embeds.eraseIdx hLast
      rwa [eraseIdx_concat, ← hGates] at hEmbeds
    · rw [h.listed]
      cases hGate : p.creating.get? id with
      | none => rfl
      | some gate => exact congrArg some (skip_of_lt (hListed id gate hGate)).symm

/-- The pool without a request. A gate behind which it dials is given up. -/
def without (index : Nat) (p : Pool γ) : Pool γ :=
  match p.requests[index]? with
  | some { endpointId := id, state := .dialing gate _ } =>
    { p.openGate gate id .givenUp with requests := p.requests.eraseIdx index }
  | _ => { p with requests := p.requests.eraseIdx index }

theorem without_same (index : Nat) (p : Pool γ) :
    p.without index = { p with
      requests := (p.without index).requests
      gates := (p.without index).gates
      creating := (p.without index).creating } := by
  unfold without
  split <;> rfl

theorem eraseIdx_setRequest (index : Nat) (state : RequestState) (p : Pool γ) :
    (p.setRequest index state).requests.eraseIdx index = p.requests.eraseIdx index := by
  apply List.ext_getElem?
  intro other
  rw [List.getElem?_eraseIdx, List.getElem?_eraseIdx]
  split
  · exact setRequest_of_ne (by omega)
  · exact setRequest_of_ne (by omega)

/-- A request that broke off does not show. -/
theorem alike_of_setRequest {r : Request} (hRequest : p.requests[index]? = some r) :
    Alike (.skipRequest index) { p with requests := p.requests.eraseIdx index }
      (p.setRequest index .broken) := by
  have hBroken : (p.setRequest index .broken).requests[index]? =
      some { r with state := .broken } := by
    rw [setRequest, List.getElem?_modify_eq, hRequest]
    rfl
  have hAlike := alike_of_over hBroken rfl
  rw [eraseIdx_setRequest] at hAlike
  exact hAlike

/-- What is left of a pool when a request has broken off. Without the request the pool would be
`spared`. -/
structure Outlived (spared p p' : Pool γ) : Prop where
  alike : ∃ R, spared.Alike R p'
  gates : ∀ gate : Nat, p'.gates[gate]? = p.gates[gate]? ∨ p'.gates[gate]? = some .givenUp

variable {number : Nat}

/-- A new request that breaks off has started the reaper at most. The pool goes on as if it had done
no more than that. -/
theorem Change.get_broken (h : Change allowed clock number (.get number id : Act δ) p p')
    (hSound : p.Sound p.requests)
    (hEnded : p'.requests[p.requests.length]?.map Request.state = some .broken) :
    clock = none ∧ p.roused.Outlived p p' := by
  cases h with
  | tended scanned same =>
      obtain ⟨_, _, _, _, rfl, _⟩ := same
      rw [scanned.eq] at hEnded
      simp at hEnded
  | givenBack scanned shown gives =>
      rcases gives with hAct | ⟨_, hAct⟩ <;> cases hAct
  | @entered _ _ q state enters =>
      rw [← enters.requests_eq] at hEnded
      obtain rfl : state = .broken := by simpa using hEnded
      obtain ⟨hBlind, hTried⟩ := enters.of_broken
      obtain ⟨R, hAlike⟩ := hTried.alike (hSound.tended (roused_tended p)) fun _ hMem => hMem
      let broken : Request := { endpointId := id, state := .broken }
      have hLast : ({ q with requests := q.requests ++ [broken] } : Pool γ).requests[
          q.requests.length]? = some broken := List.getElem?_concat_length ..
      have hOver := alike_of_over hLast rfl
      rw [eraseIdx_concat] at hOver
      exact ⟨hBlind, ⟨_, hAlike.trans hOver⟩, hTried.decided⟩

/-- A request that breaks off in a later turn than its first. If it was dialing, its gate is given
up. -/
theorem Change.resume_broken {r : Request}
    (h : Change allowed clock number (.resume number index : Act δ) p p')
    (hSound : p.Sound p.requests) (hRequest : p.requests[index]? = some r)
    (hLive : r.state.isLive = true)
    (hEnded : p'.requests[index]?.map Request.state = some .broken) :
    clock = none ∧ (p.without index).Outlived p p' ∧
      ∀ id gate, DialsAt p.requests index id gate → p'.gates[gate]? = some .givenUp := by
  have hState {q : Pool γ} {state : RequestState} (hRequests : q.requests = p.requests)
      (hEnded : (q.setRequest index state).requests[index]?.map Request.state = some .broken) :
      state = .broken := by
    rw [setRequest, List.getElem?_modify_eq, hRequests, hRequest] at hEnded
    exact Option.some.inj hEnded
  cases h with
  | tended scanned same =>
      obtain ⟨_, _, _, _, rfl, _⟩ := same
      rw [scanned.eq] at hEnded
      have hEnded : p.requests[index]?.map Request.state = some .broken := hEnded
      rw [hRequest] at hEnded
      cases Option.some.inj hEnded ▸ hLive
  | givenBack scanned shown gives =>
      rcases gives with hAct | ⟨_, hAct⟩ <;> cases hAct
  | @passed _ gate id _ q state waits passes =>
      obtain rfl := hState passes.requests_eq hEnded
      obtain ⟨hBlind, hTried⟩ := passes.of_broken
      have hWithout : p.without index = { p with requests := p.requests.eraseIdx index } := by
        rw [without, waits]
      have hErased := hTried.setRequests (p.requests.eraseIdx index)
      obtain ⟨R, hAlike⟩ := hErased.alike
        (hSound.frame rfl rfl rfl rfl fun _ h hMade => ⟨h, hMade, rfl⟩)
        fun _ hMem => List.mem_of_mem_eraseIdx hMem
      have hOver := alike_of_setRequest (passes.requests_eq ▸ waits)
      rw [passes.requests_eq] at hOver
      refine ⟨hBlind, ⟨⟨_, hWithout ▸ hAlike.trans hOver⟩, hTried.decided⟩, ?_⟩
      rintro id' gate' ⟨_, hDials⟩
      cases waits.symm.trans hDials
  | @followed _ gate id sequence progress _ q p' state dials scanned follows =>
      obtain rfl := hState (follows.requests_eq.trans scanned.requests_eq) hEnded
      obtain ⟨rfl, rfl⟩ := follows.of_broken
      obtain rfl := scanned.of_blind
      have hWithout : q.without index =
          { q.openGate gate id .givenUp with requests := q.requests.eraseIdx index } := by
        rw [without, dials]
      have hOwner : DialsAt q.requests index id gate := ⟨sequence, dials⟩
      have hBound := (List.getElem?_eq_some_iff.mp (hSound.undecided index id gate hOwner)).1
      have hGivenUp : (q.openGate gate id .givenUp).gates[gate]? = some .givenUp :=
        List.getElem?_set_self hBound
      have hOver := alike_of_setRequest (p := q.openGate gate id .givenUp) dials
      refine ⟨rfl, ⟨⟨_, hWithout ▸ hOver⟩, fun other => ?_⟩, ?_⟩
      · by_cases hOther : gate = other
        · exact Or.inr (hOther ▸ hGivenUp)
        · exact Or.inl (gates_openGate_of_ne id .givenUp hOther)
      · rintro id' gate' hDials
        obtain ⟨_, rfl⟩ := hOwner.same hDials
        exact hGivenUp

end Pool

end Tether
