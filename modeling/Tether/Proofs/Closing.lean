import Tether.Proofs.Statistics

/-! Closing a pool is final. Nothing is registered in it any more, the requests that were in flight
end without a handle, and whatever is asked of the pool later is refused. -/

namespace Tether

variable {δ γ : Type}

namespace DialSequence

variable [Dialer δ γ] {env : Surroundings δ}

/-- Told to stop, a sequence of dials is over once its dial lands. -/
theorem land_told {id : String} {tier : Tier} {remaining attempt ticket : Nat} {s : DialSequence} :
    (land id tier true remaining attempt ticket env).1 ≠ .waiting s := by
  unfold land
  split
  · nofun
  · cases remaining <;> nofun

/-- Told to stop, a sequence of dials that is still suspended after its turn waits for a dial in the
air, as it did before. -/
theorem resume_told {s s' : DialSequence} (h : (s.resume true env).1 = .waiting s') :
    s' = s ∧ s.isReady true env = false := by
  unfold resume at h
  unfold isReady
  dsimp only at h
  split at h
  · next hPhase =>
    split at h
    · exact absurd h land_told
    · next hAir =>
      cases h
      simpa [hPhase] using hAir
  · cases h

/-- Told to stop, a suspended sequence can go on unless its dial is still in the air. -/
theorem isReady_told {s : DialSequence}
    (hLanded : ∀ ticket lands, s.phase = .flying ticket lands → lands ≤ env.now) :
    s.isReady true env = true := by
  unfold isReady
  split
  · next ticket lands hPhase => simpa using hLanded ticket lands hPhase
  · rfl

end DialSequence

namespace Pool

/-- Nothing is left of a closed pool but its handles, its gates and its requests. -/
structure Shut (p : Pool γ) : Prop where
  closed : p.closed = true
  registry : p.registry = []
  creating : p.creating = []
  shutdown : p.shutdown = true
  reaper : p.reaper = .stopped

/-- The pool is as open as it was, and so is its reaper. -/
structure Steady (p p' : Pool γ) : Prop where
  closed : p'.closed = p.closed
  shutdown : p'.shutdown = p.shutdown
  reaper : p'.reaper = p.reaper

/-- A pool that was closed has told its sequences of dials to stop, and its reaper has ended. -/
def Ceases (p : Pool γ) : Prop := p.closed = true → p.shutdown = true ∧ p.reaper = .stopped

/-- By this moment every dial in the air will have landed. -/
def LandsBy (moment : Instant) (p : Pool γ) : Prop :=
  ∀ (index : Nat) id gate s ticket lands,
    p.requests[index]? = some { endpointId := id, state := .dialing gate s } →
      s.phase = .flying ticket lands → lands ≤ moment

/-- The acts give every live request of the pool, which has this number, a turn. -/
def TurnsAll (number : Nat) (acts : List (Act δ)) (p : Pool γ) : Prop :=
  ∀ (index : Nat) r, p.requests[index]? = some r → r.state.isLive = true →
    .resume number index ∈ acts

variable {allowed : Prop} {clock : Option Instant} {number gate : Nat} {id : String} {act : Act δ}
  {p p' q : Pool γ} {state : RequestState}

theorem Scanned.steady (h : Scanned allowed clock p q) : p.Steady q := by
  rw [h.eq]
  exact ⟨rfl, rfl, rfl⟩

theorem Steady.trans (first : p.Steady q) (second : q.Steady p') : p.Steady p' :=
  ⟨second.closed.trans first.closed, second.shutdown.trans first.shutdown,
    second.reaper.trans first.reaper⟩

theorem Followed.steady {dialed : String} {progress : DialProgress γ}
    (h : Followed clock gate id dialed p progress state p') : p.Steady p' := by
  cases h <;> exact ⟨rfl, rfl, rfl⟩

theorem Looked.steady (h : Looked allowed clock id p state p') : p.Steady p' := by
  cases h with
  | dials lacks scanned follows =>
      have hFollowed := follows.steady
      exact scanned.steady.trans ⟨hFollowed.closed, hFollowed.shutdown, hFollowed.reaper⟩
  | _ => exact ⟨rfl, rfl, rfl⟩

theorem Passed.steady (h : Passed allowed clock gate id p state p') : p.Steady p' := by
  cases h with
  | looked decided looks => exact looks.steady
  | _ => exact ⟨rfl, rfl, rfl⟩

theorem Steady.ceases (h : p.Steady p') (hCeases : p.Ceases) : p'.Ceases := by
  intro hClosed
  rw [h.shutdown, h.reaper]
  exact hCeases (h.closed ▸ hClosed)

/-- A pool that a new request has met is open, or it was closed before. -/
theorem Entered.ceases (h : Entered allowed clock id p state p') (hCeases : p.Ceases) :
    p'.Ceases := by
  cases h with
  | closed => exact hCeases
  | unnamed open_ =>
      intro hClosed
      cases open_.symm.trans hClosed
  | looked open_ named looks =>
      intro hClosed
      cases open_.symm.trans (looks.steady.closed.symm.trans hClosed)

theorem Change.ceases (h : Change allowed clock number act p p') (hCeases : p.Ceases) :
    p'.Ceases := by
  cases h with
  | tended scanned same =>
      have hScanned := scanned.steady.ceases hCeases
      obtain ⟨_, _, _, _, rfl, hStopped, hShutdown⟩ := same
      intro hClosed
      exact ⟨hShutdown (hScanned hClosed).1, hStopped (hScanned hClosed).2⟩
  | held | left | gaveUp | reported => exact hCeases
  | entered enters => exact enters.ceases hCeases
  | passed waits passes => exact passes.steady.ceases hCeases
  | followed dials scanned follows => exact (scanned.steady.trans follows.steady).ceases hCeases
  | borrowed scanned | givenBack scanned | touched scanned =>
      exact scanned.steady.ceases hCeases
  | closed => exact fun _ => ⟨rfl, rfl⟩

end Pool

namespace Site

variable {s : Site δ γ}

theorem close_of_closed (hClosed : s.pool.closed = true) : s.close = s := by
  unfold close
  rw [if_pos hClosed]

theorem evictIdle_of_closed (hClosed : s.pool.closed = true) :
    s.evictIdle = (some (.error .closed), s) := by
  unfold evictIdle
  rw [if_pos hClosed]

theorem get_of_closed [Dialer δ γ] (id : String) (hClosed : s.pool.closed = true) :
    s.get id = (s.pool.requests.length, s.update fun p =>
      { p with requests := p.requests ++ [{ endpointId := id, state := .refused .closed }] }) := by
  unfold get enter
  rw [if_pos hClosed]

end Site

namespace World

open Surroundings Pool

/-- The world as an operation on the pool with this number finds it, readings yet to be counted. -/
def visiting (number : Nat) (w : World δ γ) : World δ γ :=
  { w with env := { w.env with probing := w.probed == some number, readings := 0 } }

section Refusals

variable {w : World δ γ} {number : Nat} {p : Pool γ}

theorem visit_of_same {α : Type} {f : Site δ γ → α × Site δ γ} {answer : α}
    (hp : w.pools[number]? = some p) (hSame : f (w.site number p) = (answer, w.site number p)) :
    w.visit number f = (some answer, w.visiting number) := by
  have hPools : w.pools.set number p = w.pools := by
    obtain ⟨hBound, rfl⟩ := List.getElem?_eq_some_iff.mp hp
    exact List.set_getElem_self hBound
  rw [visit_of_unread hp f (by rw [hSame]; rfl), hSame]
  show (some answer, { w with env := (w.visiting number).env, pools := w.pools.set number p }) = _
  rw [hPools]
  rfl

variable [Dialer δ γ]

/-- Whatever is asked of the pool is refused: it keeps no more than a note of the request, and the
handle that comes with it is not touched. -/
structure Refuses (w : World δ γ) (number : Nat) (p : Pool γ) : Prop where
  get : ∀ id, w.visit number (Site.get id) = (some p.requests.length,
    { w.visiting number with
      pools := w.pools.set number
        { p with requests := p.requests ++ [{ endpointId := id, state := .refused .closed }] } })
  release : ∀ ref, w.release number ref = (some (.error .closed), w)
  report : ∀ ref cause, w.report number ref cause = (.error .closed, w)
  evictIdle : w.visit number Site.evictIdle = (some (some (.error .closed)), w.visiting number)
  close : w.perform (.close number) = w.visiting number

theorem refuses_of_closed (hp : w.pools[number]? = some p) (hClosed : p.closed = true) :
    w.Refuses number p where
  get id := by
    have hGet := Site.get_of_closed id (s := w.site number p) hClosed
    rw [visit_of_unread hp _ (by rw [hGet]; rfl), hGet]
    rfl
  release ref := by
    unfold release isClosed
    rw [hp]
    exact if_pos hClosed
  report ref cause := by
    unfold report
    rw [hp]
    split
    · next pool held hPool _ =>
      cases hPool
      exact if_pos hClosed
    · rfl
  evictIdle := visit_of_same hp (Site.evictIdle_of_closed hClosed)
  close := congrArg Prod.snd (visit_of_same (f := fun s => ((), s.close)) hp
    (congrArg (Prod.mk ()) (Site.close_of_closed (s := w.site number p) hClosed)))

end Refusals

/-- Where nobody dials, every gate is decided. -/
theorem requestReady_of_none_dials {env : Surroundings δ} {p : Pool γ} {id : String} {gate : Nat}
    (hSound : p.Sound p.requests) (hNone : ∀ index id gate, ¬DialsAt p.requests index id gate) :
    requestReady env p { endpointId := id, state := .waiting gate } = true := by
  have hDecided : p.gates[gate]? ≠ some .pending := by
    intro hPending
    obtain ⟨owner, id', hOwner⟩ := hSound.owned gate hPending
    exact hNone owner id' gate hOwner
  unfold requestReady
  dsimp only
  cases hGate : p.gates[gate]? with
  | none => rfl
  | some outcome =>
      have hOutcome : outcome ≠ .pending := fun h => hDecided (h ▸ hGate)
      simp [Gate.isPending_eq_false hOutcome]

variable [Dialer δ γ] {w : World δ γ} {number index : Nat} {p : Pool γ} {acts : List (Act δ)}
  {state : RequestState}

theorem Reachable.shut (hReachable : w.Reachable) (hp : w.pools[number]? = some p)
    (hClosed : p.closed = true) : p.Shut := by
  have hNew (p : Pool γ) (h : IsNew p) : p.Ceases := by
    obtain ⟨linger, rfl, _⟩ := h
    nofun
  have hCeases : p.Ceases :=
    hReachable.pool hNew (fun _ _ _ _ _ _ hChange h => hChange.ceases h) hp
  obtain ⟨hCreating, hRegistry⟩ := (hReachable.sound hp).emptied hClosed
  exact ⟨hClosed, hRegistry, hCreating, (hCeases hClosed).1, (hCeases hClosed).2⟩

/-- How a request that is live when its pool has been closed can end in a run. -/
inductive Ends (w : World δ γ) (number index : Nat) (acts : List (Act δ)) :
    RequestState → Prop where
  | closed : Ends w number index acts (.refused .closed)
  | failed (error : ConnectError) : Ends w number index acts (.refused (.connect error))
  | dropped (left : .drop number index ∈ acts) : Ends w number index acts .dropped
  /-- The clock could not be read when the request had its turn. -/
  | unread (early late : List (Act δ)) (turn : acts = early ++ .resume number index :: late)
      (blind : (w.performAll early).env.shown = none) : Ends w number index acts .broken

theorem Ends.over (h : Ends w number index acts state) : state.isLive = false := by
  cases h <;> rfl

theorem Ends.cons {act : Act δ} (h : Ends (w.perform act) number index acts state) :
    Ends w number index (act :: acts) state := by
  cases h with
  | closed => exact .closed
  | failed error => exact .failed error
  | dropped left => exact .dropped (List.mem_cons_of_mem _ left)
  | unread early late turn blind =>
      exact .unread (act :: early) late (congrArg (List.cons act) turn) blind

theorem Ends.append (h : Ends w number index acts state) (more : List (Act δ)) :
    Ends w number index (acts ++ more) state := by
  cases h with
  | closed => exact .closed
  | failed error => exact .failed error
  | dropped left => exact .dropped (List.mem_append_left _ left)
  | unread early late turn blind =>
      refine .unread early (late ++ more) ?_ blind
      rw [turn, List.append_assoc, List.cons_append]

/-- A live request of a closed pool ends in its turn, unless it has to wait for a dial in the air.
-/
theorem perform_resume_shut {id : String} {old : RequestState} (hReachable : w.Reachable)
    (hp : w.pools[number]? = some p) (hShut : p.Shut)
    (hRequest : p.requests[index]? = some { endpointId := id, state := old })
    (hLive : old.isLive = true) :
    ∃ p' new, (w.perform (.resume number index)).pools[number]? = some p' ∧
      p'.requests[index]? = some { endpointId := id, state := new } ∧
      (new = old ∧ requestReady w.env p { endpointId := id, state := old } = false ∨
        Ends w number index [.resume number index] new) := by
  have hSound := hReachable.sound hp
  have hNotOpen (hOpen : p.closed = false) : False := by
    cases hOpen.symm.trans hShut.closed
  cases old with
  | dialing gate s =>
      have hDials : w.Dials number p index id gate (.resume number index) _ := .resumed hRequest
      obtain ⟨state, p', ⟨q, r, hReady, hFollowed, _⟩, hPool, _, _, hAnswer, _⟩ :=
        hDials.turned hSound hp
      refine ⟨p', state, hPool, hAnswer, ?_⟩
      generalize hProgress : (s.resume p.shutdown (w.site number p).env).1 = progress at hFollowed
      cases hFollowed with
      | waiting same =>
          rw [hShut.shutdown] at hProgress
          obtain ⟨rfl, hAir⟩ := DialSequence.resume_told hProgress
          refine Or.inl ⟨rfl, ?_⟩
          rw [← hShut.shutdown] at hAir
          exact hAir
      | failed error => exact Or.inr (.failed error)
      | unread blind => exact Or.inr (.unread [] [] rfl blind)
      | discarded => exact Or.inr .closed
      | created shown open_ => exact (hNotOpen (hReady.closed.symm.trans open_)).elim
  | waiting gate =>
      obtain ⟨state, q, hPassed, hq⟩ := perform_resume_waiting hp hRequest
      refine ⟨_, state, hq, ?_, ?_⟩
      · rw [requests_setRequest (hPassed.requests_eq ▸ hRequest), hPassed.requests_eq]
        exact List.getElem?_set_self (List.getElem?_eq_some_iff.mp hRequest).1
      · cases hPassed with
        | failed => exact Or.inr (.failed _)
        | closed => exact Or.inr .closed
        | queued undecided =>
            rcases undecided with hPending | hNone
            · exact Or.inl ⟨rfl, by simp [requestReady, hPending, Gate.isPending]⟩
            · have hBound := (hSound.joined index id gate hRequest).1
              exact absurd (List.getElem?_eq_none_iff.mp hNone) (Nat.not_le_of_lt hBound)
        | looked decided looks =>
            cases looks with
            | closed => exact Or.inr .closed
            | unread registered =>
                rw [hShut.registry] at registered
                cases registered
            | reused open_ | queued open_ => exact (hNotOpen open_).elim
            | dials lacks => exact (hNotOpen lacks.open_).elim
  | _ => cases hLive

/-- What a run leaves of a pool that was closed before it. -/
structure WindsDown (w : World δ γ) (number : Nat) (acts : List (Act δ)) (p p' : Pool γ) :
    Prop where
  shut : p'.Shut
  earlier : ∀ (index : Nat) r, p.requests[index]? = some r →
    ∃ state, p'.requests[index]? = some { r with state } ∧
      (state = r.state ∨ r.state.isLive = true ∧ Ends w number index acts state)
  later : ∀ (index : Nat) r, p.requests[index]? = none → p'.requests[index]? = some r →
    r.state = .refused .closed

theorem perform_windsDown (hReachable : w.Reachable) (hp : w.pools[number]? = some p)
    (hShut : p.Shut) (act : Act δ) :
    ∃ p', (w.perform act).pools[number]? = some p' ∧ WindsDown w number [act] p p' := by
  have hSound := hReachable.sound hp
  obtain ⟨p', hp', hChange⟩ := (perform_spec act w).pools number p hp
  have hClosed := ((hChange.counted hSound).frozen hShut.closed).1
  refine ⟨p', hp', (hReachable.perform act).shut hp' hClosed, ?_, ?_⟩
  · intro index r hRequest
    by_cases hUnmoved :
      r.state.isLive = true → act ≠ .resume number index ∧ act ≠ .drop number index
    · exact ⟨r.state, hChange.request_of_unmoved hUnmoved hRequest, Or.inl rfl⟩
    · rw [Classical.not_imp, not_and_or, not_not, not_not] at hUnmoved
      obtain ⟨hLive, rfl | rfl⟩ := hUnmoved
      · obtain ⟨q, state, hq, hRequest', hTurn⟩ :=
          perform_resume_shut hReachable hp hShut hRequest hLive
        cases hq.symm.trans hp'
        exact ⟨state, hRequest', hTurn.imp And.left fun hEnds => ⟨hLive, hEnds⟩⟩
      · rcases hChange.request_of_drop hRequest with hSame | hDropped
        · exact ⟨r.state, hSame, Or.inl rfl⟩
        · exact ⟨.dropped, hDropped, Or.inr ⟨hLive, .dropped (List.mem_cons_self ..)⟩⟩
  · intro index r hNone hRequest
    obtain ⟨q, _, hEntered⟩ := hChange.request_of_new hNone hRequest
    generalize r.state = state at hEntered
    cases hEntered with
    | closed => rfl
    | unnamed open_ | looked open_ => cases open_.symm.trans hShut.closed

/-- The requests of a closed pool after one run and then another. -/
theorem WindsDown.trans {act : Act δ} {q p' : Pool γ} (first : WindsDown w number [act] p q)
    (second : WindsDown (w.perform act) number acts q p') :
    WindsDown w number (act :: acts) p p' := by
  refine ⟨second.shut, ?_, ?_⟩
  · intro index r hRequest
    obtain ⟨middle, hMiddle, hFirst⟩ := first.earlier index r hRequest
    obtain ⟨state, hState, hSecond⟩ := second.earlier index _ hMiddle
    refine ⟨state, hState, ?_⟩
    rcases hFirst with rfl | ⟨hLive, hEnds⟩
    · exact hSecond.imp_right fun h => ⟨h.1, h.2.cons⟩
    · rcases hSecond with rfl | ⟨hLive', _⟩
      · exact Or.inr ⟨hLive, hEnds.append acts⟩
      · cases hEnds.over.symm.trans hLive'
  · intro index r hNone hRequest
    cases hMiddle : q.requests[index]? with
    | none => exact second.later index r hMiddle hRequest
    | some r' =>
        have hRefused := first.later index r' hNone hMiddle
        obtain ⟨state, hState, hSecond⟩ := second.earlier index r' hMiddle
        cases hRequest.symm.trans hState
        rcases hSecond with rfl | ⟨hLive, _⟩
        · exact hRefused
        · rw [hRefused] at hLive
          cases hLive

theorem performAll_windsDown (hReachable : w.Reachable) (hp : w.pools[number]? = some p)
    (hShut : p.Shut) (acts : List (Act δ)) :
    ∃ p', (w.performAll acts).pools[number]? = some p' ∧ WindsDown w number acts p p' := by
  induction acts generalizing w p with
  | nil =>
      refine ⟨p, hp, hShut, fun index r hRequest => ⟨r.state, hRequest, Or.inl rfl⟩, ?_⟩
      intro index r hNone hRequest
      cases hNone.symm.trans hRequest
  | cons act rest ih =>
      obtain ⟨q, hq, hFirst⟩ := perform_windsDown hReachable hp hShut act
      obtain ⟨p', hp', hSecond⟩ := ih (hReachable.perform act) hq hFirst.shut
      exact ⟨p', hp', hFirst.trans hSecond⟩

/-! ### The requests in flight come to an end -/

/-- A request of a closed pool is over once it has had a turn in which it could go on. -/
theorem perform_resume_over {r : Request} (hReachable : w.Reachable)
    (hp : w.pools[number]? = some p) (hShut : p.Shut) (hRequest : p.requests[index]? = some r)
    (hReady : r.state.isLive = true → requestReady w.env p r = true) :
    ∃ p' r', (w.perform (.resume number index)).pools[number]? = some p' ∧
      p'.requests[index]? = some r' ∧ r'.state.isLive = false := by
  cases hLive : r.state.isLive with
  | false =>
      obtain ⟨p', hp', hSame⟩ :=
        performAll_request_of_over hp hRequest hLive [.resume number index]
      exact ⟨p', r, hp', hSame, hLive⟩
  | true =>
      obtain ⟨p', state, hp', hRequest', ⟨_, hWaits⟩ | hEnds⟩ :=
        perform_resume_shut hReachable hp hShut hRequest hLive
      · cases hWaits.symm.trans (hReady hLive)
      · exact ⟨p', _, hp', hRequest', hEnds.over⟩

/-- A request that could go on whenever it had its turn is over after any run in which it had one.
-/
theorem over_of_ready {r r' : Request} {p' : Pool γ} (hReachable : w.Reachable)
    (hp : w.pools[number]? = some p) (hShut : p.Shut) (hRequest : p.requests[index]? = some r)
    (hTurn : .resume number index ∈ acts)
    (hReady : ∀ (early : List (Act δ)) q, (w.performAll early).pools[number]? = some q →
      WindsDown w number early p q → requestReady (w.performAll early).env q r = true)
    (hp' : (w.performAll acts).pools[number]? = some p')
    (hRequest' : p'.requests[index]? = some r') : r'.state.isLive = false := by
  obtain ⟨early, late, rfl⟩ := List.append_of_mem hTurn
  have hAll : w.performAll (early ++ .resume number index :: late) =
      ((w.performAll early).perform (.resume number index)).performAll late := by
    simp [performAll]
  obtain ⟨q, hq, hEarly⟩ := performAll_windsDown hReachable hp hShut early
  obtain ⟨state, hState, hEarlier⟩ := hEarly.earlier index r hRequest
  obtain ⟨q', middle, hq', hMiddle, hOver⟩ :=
    perform_resume_over (hReachable.performAll early) hq hEarly.shut hState fun hLive => by
      have hSame : state = r.state := hEarlier.resolve_right fun h => by
        cases h.2.over.symm.trans hLive
      rw [hSame]
      exact hReady early q hq hEarly
  obtain ⟨p'', hp'', hStay⟩ := performAll_request_of_over hq' hMiddle hOver late
  rw [hAll] at hp'
  cases hp''.symm.trans hp'
  cases hStay.symm.trans hRequest'
  exact hOver

/-- A request that is still live in a pool that winds down is as it was before. -/
theorem WindsDown.of_live {r : Request} {p' : Pool γ} (h : WindsDown w number acts p p')
    (hRequest : p'.requests[index]? = some r) (hLive : r.state.isLive = true) :
    p.requests[index]? = some r := by
  cases hBefore : p.requests[index]? with
  | none =>
      rw [h.later index r hBefore hRequest] at hLive
      cases hLive
  | some r₀ =>
      obtain ⟨state, hState, hSame⟩ := h.earlier index r₀ hBefore
      cases hRequest.symm.trans hState
      rcases hSame with rfl | ⟨_, hEnds⟩
      · rfl
      · cases hEnds.over.symm.trans hLive

theorem WindsDown.dialsAt {id : String} {gate : Nat} {p' : Pool γ}
    (h : WindsDown w number acts p p') (hDials : DialsAt p'.requests index id gate) :
    DialsAt p.requests index id gate := by
  obtain ⟨s, hRequest⟩ := hDials
  exact ⟨s, h.of_live hRequest rfl⟩

theorem WindsDown.landsBy {moment : Instant} {p' : Pool γ} (h : WindsDown w number acts p p')
    (hLands : p.LandsBy moment) : p'.LandsBy moment :=
  fun index id gate s ticket lands hRequest =>
    hLands index id gate s ticket lands (h.of_live hRequest rfl)

theorem WindsDown.turnsAll {more : List (Act δ)} {p' : Pool γ} (h : WindsDown w number acts p p')
    (hTurns : p.TurnsAll number more) : p'.TurnsAll number more :=
  fun index r hRequest hLive => hTurns index r (h.of_live hRequest hLive) hLive

/-- Once their dials have landed, a turn each ends the requests that dial. -/
theorem none_dials {p' : Pool γ} (hReachable : w.Reachable) (hp : w.pools[number]? = some p)
    (hShut : p.Shut) (hLands : p.LandsBy w.env.now) (hTurns : p.TurnsAll number acts)
    (hp' : (w.performAll acts).pools[number]? = some p') {id : String} {gate : Nat} :
    ¬DialsAt p'.requests index id gate := by
  intro hDials
  obtain ⟨q, hq, hWinds⟩ := performAll_windsDown hReachable hp hShut acts
  cases hq.symm.trans hp'
  obtain ⟨s', hRequest'⟩ := hDials
  obtain ⟨s, hRequest⟩ := hWinds.dialsAt ⟨s', hRequest'⟩
  refine absurd (over_of_ready hReachable hp hShut hRequest (hTurns index _ hRequest rfl)
    (fun early q _ hEarly => ?_) hp' hRequest') nofun
  show s.isReady q.shutdown (w.performAll early).env = true
  rw [hEarly.shut.shutdown]
  refine DialSequence.isReady_told fun ticket lands hPhase => ?_
  exact Nat.le_trans (hLands index id gate s ticket lands hRequest hPhase)
    (now_le_performAll early w)

/-- Once nobody dials, a turn each ends the requests that wait. -/
theorem all_over {p' : Pool γ} (hReachable : w.Reachable) (hp : w.pools[number]? = some p)
    (hShut : p.Shut) (hNone : ∀ index id gate, ¬DialsAt p.requests index id gate)
    (hTurns : p.TurnsAll number acts) (hp' : (w.performAll acts).pools[number]? = some p')
    {r : Request} (hRequest : p'.requests[index]? = some r) : r.state.isLive = false := by
  obtain ⟨q, hq, hWinds⟩ := performAll_windsDown hReachable hp hShut acts
  cases hq.symm.trans hp'
  cases hBefore : p.requests[index]? with
  | none =>
      rw [hWinds.later index r hBefore hRequest]
      rfl
  | some r₀ =>
      cases hLive : r₀.state.isLive with
      | false =>
          obtain ⟨q, hq, hSame⟩ := performAll_request_of_over hp hBefore hLive acts
          cases hq.symm.trans hp'
          cases hSame.symm.trans hRequest
          exact hLive
      | true =>
          refine over_of_ready hReachable hp hShut hBefore (hTurns index r₀ hBefore hLive)
            (fun early q hq hEarly => ?_) hp' hRequest
          obtain ⟨id, old⟩ := r₀
          cases old with
          | dialing gate s => exact absurd ⟨s, hBefore⟩ (hNone index id gate)
          | waiting gate =>
              exact requestReady_of_none_dials ((hReachable.performAll early).sound hq)
                fun owner id gate hOwner => hNone owner id gate (hEarly.dialsAt hOwner)
          | _ => cases hLive

/-- Two turns each, once the dials have landed, end whatever was in flight. -/
theorem all_over_of_turns {early first second : List (Act δ)} {p' : Pool γ} {r : Request}
    (hReachable : w.Reachable) (hp : w.pools[number]? = some p) (hShut : p.Shut)
    (hLands : p.LandsBy (w.performAll early).env.now) (hFirst : p.TurnsAll number first)
    (hSecond : p.TurnsAll number second)
    (hp' : (w.performAll (early ++ (first ++ second))).pools[number]? = some p')
    (hRequest : p'.requests[index]? = some r) : r.state.isLive = false := by
  have hSplit : w.performAll (early ++ (first ++ second)) =
      ((w.performAll early).performAll first).performAll second := by
    simp [performAll]
  obtain ⟨q, hq, hEarly⟩ := performAll_windsDown hReachable hp hShut early
  have hReachable' := hReachable.performAll early
  obtain ⟨q', hq', hLate⟩ := performAll_windsDown hReachable' hq hEarly.shut first
  rw [hSplit] at hp'
  exact all_over (hReachable'.performAll first) hq' hLate.shut
    (fun _ _ _ => none_dials hReachable' hq hEarly.shut (hEarly.landsBy hLands)
      (hEarly.turnsAll hFirst) hq')
    (hLate.turnsAll (hEarly.turnsAll hSecond)) hp' hRequest

/-! ### Closing -/

theorem perform_close (hp : w.pools[number]? = some p) :
    ∃ p', (w.perform (.close number)).pools[number]? = some p' ∧ p'.closed = true ∧
      p'.requests = p.requests := by
  have hRecord : Recorded (Event.StartsOnly fun _ => False) (w.site number p).env
      (w.site number p).close.env :=
    (Site.close_spec number True (w.site number p)).1.toRecorded.startsOnly
  obtain ⟨_, hVisited⟩ := visit_spec hp (fun s => ((), s.close)) hRecord
  refine ⟨_, hVisited.pool, ?_⟩
  cases hClosed : p.closed with
  | false =>
      rw [(Site.close_of_open (s := w.site number p) hClosed).2.2]
      exact ⟨rfl, rfl⟩
  | true =>
      rw [Site.close_of_closed (s := w.site number p) hClosed]
      exact ⟨hClosed, rfl⟩

variable {w' : World δ γ}

/-- Closing a pool takes no time, ends its reaper, and is final. Whatever happens from then on, the
registry and the table of gates stay empty; no request gets a handle that did not have one before,
and those in flight end refused, unless the caller goes away or the clock fails; and what is asked
of the pool is refused and leaves the pool and the handle as they are. Once their dials have landed,
two turns each are enough to end the requests in flight. -/
theorem closed_is_terminal (hReachable : w.Reachable) (hp : w.pools[number]? = some p)
    (hClose : w' = w.perform (.close number)) :
    w'.env.now = w.env.now ∧
    (∀ acts, ∃ p', (w'.performAll acts).pools[number]? = some p' ∧ p'.Shut ∧
      (w'.performAll acts).Refuses number p' ∧
      (∀ (index : Nat) r, p.requests[index]? = some r →
        ∃ state, p'.requests[index]? = some { r with state } ∧
          (state = r.state ∨ r.state.isLive = true ∧ Ends w' number index acts state)) ∧
      ∀ (index : Nat) r, p.requests[index]? = none → p'.requests[index]? = some r →
        r.state = .refused .closed) ∧
    ∀ early first second, p.LandsBy (w'.performAll early).env.now → p.TurnsAll number first →
      p.TurnsAll number second → ∃ p',
        (w'.performAll (early ++ (first ++ second))).pools[number]? = some p' ∧
          ∀ (index : Nat) r, p.requests[index]? = some r → r.state.isLive = true →
            ∃ state, p'.requests[index]? = some { r with state } ∧
              Ends w' number index (early ++ (first ++ second)) state := by
  subst hClose
  obtain ⟨p₁, hp₁, hClosed, hRequests⟩ := perform_close hp
  have hReachable₁ := hReachable.perform (.close number)
  have hShut := hReachable₁.shut hp₁ hClosed
  rw [← hRequests]
  refine ⟨perform_now w nofun, fun acts => ?_, fun early first second hLands hFirst hSecond => ?_⟩
  · obtain ⟨p', hp', hWinds⟩ := performAll_windsDown hReachable₁ hp₁ hShut acts
    exact ⟨p', hp', hWinds.shut, refuses_of_closed hp' hWinds.shut.closed, hWinds.earlier,
      hWinds.later⟩
  · have hLands₁ : p₁.LandsBy (((w.perform (.close number)).performAll early).env.now) := by
      unfold LandsBy
      rw [hRequests]
      exact hLands
    have hTurns₁ {acts : List (Act δ)} (hTurns : p.TurnsAll number acts) :
        p₁.TurnsAll number acts := by
      unfold TurnsAll
      rw [hRequests]
      exact hTurns
    obtain ⟨p', hp', hWinds⟩ :=
      performAll_windsDown hReachable₁ hp₁ hShut (early ++ (first ++ second))
    refine ⟨p', hp', fun index r hRequest hLive => ?_⟩
    obtain ⟨state, hState, hSame | ⟨_, hEnds⟩⟩ := hWinds.earlier index r hRequest
    · have hOver := all_over_of_turns hReachable₁ hp₁ hShut hLands₁ (hTurns₁ hFirst)
        (hTurns₁ hSecond) hp' hState
      rw [hSame] at hOver
      cases hOver.symm.trans hLive
    · exact ⟨state, hState, hEnds⟩

/-- A request dials, a second one waits for it, and the reaper is asleep. -/
def occupied : World (FixedDialer Nat) Nat :=
  performAll [.openPool 10, .get 0 "db", .get 0 "db", .reap 0]
    { env := { factory := { dialer := { connection := 7, latency := 5 } } } }

theorem occupied_closed : ∃ p p', occupied.pools[0]? = some p ∧ p.reaper.isRunning = true ∧
    ((occupied.perform (.close 0)).performAll
      [.pass 5, .resume 0 1, .resume 0 0, .resume 0 1, .resume 0 0]).pools[0]? = some p' ∧
    ∀ index ∈ [0, 1], ∃ state, p'.requests[index]? = some { endpointId := "db", state := state } ∧
      Ends (occupied.perform (.close 0)) 0 index
        [.pass 5, .resume 0 1, .resume 0 0, .resume 0 1, .resume 0 0] state := by
  have hReachable : occupied.Reachable := ⟨_, _, rfl⟩
  have hPool : ∃ p, occupied.pools[0]? = some p ∧ p.reaper.isRunning = true ∧ ∃ s,
      p.requests = [⟨"db", .dialing 0 s⟩, ⟨"db", .waiting 0⟩] ∧ s.phase = .flying 0 5 :=
    ⟨_, rfl, rfl, _, rfl, rfl⟩
  obtain ⟨p, hp, hRunning, s, hRequests, hPhase⟩ := hPool
  have hLands : p.LandsBy
      (((occupied.perform (.close 0)).performAll [.pass 5]).env.now) := by
    intro index id gate s' ticket lands hRequest hFlying
    rw [hRequests] at hRequest
    match index with
    | 0 =>
        cases hRequest
        cases hPhase.symm.trans hFlying
        decide
    | 1 | _ + 2 => cases hRequest
  have hTurns : p.TurnsAll 0
      ([.resume 0 1, .resume 0 0] : List (Act (FixedDialer Nat))) := by
    intro index r hRequest hLive
    rw [hRequests] at hRequest
    match index with
    | 0 => exact List.mem_cons_of_mem _ (List.mem_cons_self ..)
    | 1 => exact List.mem_cons_self ..
    | _ + 2 => cases hRequest
  obtain ⟨_, _, hEnd⟩ := closed_is_terminal hReachable hp rfl
  obtain ⟨p', hp', hEnds⟩ := hEnd [.pass 5] _ _ hLands hTurns hTurns
  refine ⟨p, p', hp, hRunning, hp', fun index hIndex => ?_⟩
  have hRequest : ∃ old : RequestState, p.requests[index]? = some ⟨"db", old⟩ ∧
      old.isLive = true := by
    rw [hRequests]
    rcases List.mem_pair.mp hIndex with rfl | rfl <;> exact ⟨_, rfl, rfl⟩
  obtain ⟨old, hRequest, hLive⟩ := hRequest
  exact hEnds index _ hRequest hLive

end World

end Tether
