import Mathlib.Algebra.Order.BigOperators.Group.List
import Mathlib.Algebra.Order.Group.Nat
import Tether.Proofs.Answers
import Tether.Proofs.Contact
import Tether.Proofs.Idleness
import Tether.Proofs.Isolation
import Tether.Proofs.Schedule
import Tether.Proofs.Signals
import Tether.Proofs.Toil

/-! Why the requests of a pool that is left to itself are over in the end. Its turns leave less to do
from settling to settling; where they do not, nothing can be done now, and time passes towards the next
moment at which a sequence of dials goes on. -/

namespace Tether

variable {δ γ : Type}

namespace Pool

section Acts

variable {allowed : Prop} {clock : Option Instant} {number : Nat} {act : Act δ} {p p' : Pool γ}

/-- Requests and gates change only where somebody asks, has a turn or goes away. -/
theorem Change.requests_gates_eq (h : Change allowed clock number act p p')
    (hGet : ∀ id, act ≠ .get number id) (hResume : ∀ index, act ≠ .resume number index)
    (hDrop : ∀ index, act ≠ .drop number index) :
    p'.requests = p.requests ∧ p'.gates = p.gates := by
  cases h with
  | tended scanned same =>
      obtain ⟨_, _, _, _, rfl, _⟩ := same
      exact ⟨scanned.requests_eq, scanned.gates_eq⟩
  | borrowed scanned | givenBack scanned | touched scanned =>
      exact ⟨scanned.requests_eq, scanned.gates_eq⟩
  | held | reported | closed => exact ⟨rfl, rfl⟩
  | entered => exact absurd rfl (hGet _)
  | passed | followed => exact absurd rfl (hResume _)
  | left | gaveUp => exact absurd rfl (hDrop _)

theorem Turned.shutdown_eq {attempt : ScanAttempt} {now : Instant}
    (h : p.Turned now clock attempt p') (hHere : World.isGone p = false) :
    p'.shutdown = p.shutdown := by
  have hLeaves (hShutdown : p.shutdown = true ∨ World.isGone p = true) : p.shutdown = true :=
    hShutdown.resolve_right (Bool.eq_false_iff.mp hHere)
  cases h with
  | off ended shutdown lasting leaves =>
      exact Bool.eq_iff_iff.mpr ⟨fun h => hLeaves (leaves h), lasting⟩
  | stopped running leaves => exact (hLeaves leaves).symm
  | rested | slept => rfl
  | scanned => exact shutdown_reaped now clock p

theorem setRequest_self {index : Nat} {id : String} {state : RequestState}
    (hRequest : p.requests[index]? = some { endpointId := id, state }) :
    p.setRequest index state = p := by
  have hSame : (p.setRequest index state).requests = p.requests := by
    rw [requests_setRequest hRequest]
    obtain ⟨hBound, hAt⟩ := List.getElem?_eq_some_iff.mp hRequest
    rw [← hAt, List.set_getElem_self]
  exact congrArg (fun requests => { p with requests }) hSame

end Acts

end Pool

namespace Site

open Surroundings Pool

variable [Dialer δ γ] {s : Site δ γ} {index : Nat}

/-- A request that cannot go on stays as it is in its turn, and so does its pool. -/
theorem resume_of_unready
    (hUnready : ∀ r, s.pool.requests[index]? = some r → World.requestReady s.env s.pool r = false) :
    (s.resume index).pool = s.pool := by
  unfold resume
  split
  · next id gate hWaits =>
    have hPending := hUnready _ hWaits
    have hPass : s.pass gate id = (.waiting gate, s) := by
      unfold pass
      cases hGate : s.pool.gates[gate]? with
      | none => rfl
      | some outcome =>
          cases outcome <;> simp [World.requestReady, hGate, Gate.isPending] at hPending ⊢
    rw [hPass]
    exact setRequest_self hWaits
  · next id gate sequence hDials =>
    have hRests := DialSequence.resume_of_unready (γ := γ)
      (hUnready { endpointId := id, state := .dialing gate sequence } hDials)
    rw [hRests]
    exact setRequest_self hDials
  · rfl

end Site

namespace World

open Surroundings Pool

variable {w w' w'' : World δ γ} {p p' p'' : Pool γ} {number index : Nat}

theorem visit_length {α : Type} (f : Site δ γ → α × Site δ γ) (w : World δ γ) :
    (w.visit number f).2.pools.length = w.pools.length := by
  cases hPool : w.pools[number]? with
  | none => rw [visit_of_none hPool]
  | some p =>
      unfold visit
      rw [hPool]
      dsimp only
      split
      · exact List.length_set
      · exact (probeElsewhere_spec _ _).length.trans List.length_set

theorem use_length {α : Type} (ref : HandleRef) (f : Instant → Handle γ → α × Handle γ)
    (w : World δ γ) : (w.use ref f).2.pools.length = w.pools.length := by
  have hRead : w.reading.2.pools.length = w.pools.length := (probeElsewhere_spec 1 w).length
  unfold use
  split
  · next w' h =>
    rw [h] at hRead
    exact hRead
  · next now w' h =>
    rw [h] at hRead
    split
    · exact hRead
    · exact (List.length_modify ..).trans hRead

/-- There is this pool, nobody else uses the factory, and the clock follows the run. -/
structure Lone [Dialer δ γ] (w : World δ γ) (p : Pool γ) : Prop where
  reachable : w.Reachable
  clock : w.env.clock = .system
  pools : w.pools = [p]
  creations : w.creations = []

/-- What does not concern the requests of the pool may have changed. -/
structure Stalled (w w' : World δ γ) (p p' : Pool γ) : Prop where
  requests : p'.requests = p.requests
  gates : p'.gates = p.gates
  now : w'.env.now = w.env.now
  factory : w'.env.factory.shutdown = w.env.factory.shutdown
  shutdown : p.hasLiveRequest = true → p'.shutdown = p.shutdown

theorem Stalled.refl (w : World δ γ) (p : Pool γ) : Stalled w w p p :=
  ⟨rfl, rfl, rfl, rfl, fun _ => rfl⟩

theorem Stalled.live_eq (h : Stalled w w' p p') : p'.hasLiveRequest = p.hasLiveRequest := by
  rw [hasLiveRequest, hasLiveRequest, h.requests]

theorem Stalled.trans (first : Stalled w w' p p') (second : Stalled w' w'' p' p'') :
    Stalled w w'' p p'' :=
  ⟨second.requests.trans first.requests, second.gates.trans first.gates,
    second.now.trans first.now, second.factory.trans first.factory,
    fun hLive => (second.shutdown (first.live_eq ▸ hLive)).trans (first.shutdown hLive)⟩

theorem Stalled.toil_eq (h : Stalled w w' p p') : p'.toil = p.toil :=
  toil_congr h.requests h.gates

theorem Stalled.requestReady_eq (h : Stalled w w' p p') (hLive : p.hasLiveRequest = true)
    (r : Request) : requestReady w'.env p' r = requestReady w.env p r := by
  unfold requestReady DialSequence.isReady
  rw [h.gates, h.shutdown hLive, h.now, h.factory]

section Performing

variable [Dialer δ γ] {act : Act δ}

theorem Lone.found (h : Lone w p) : w.pools[0]? = some p := by rw [h.pools]; rfl

theorem perform_length (hOpen : ∀ linger, act ≠ .openPool linger) (w : World δ γ) :
    (w.perform act).pools.length = w.pools.length := by
  have hModify (number : Nat) (f : Pool γ → Pool γ) :
      (w.updatePool number f).pools.length = w.pools.length := List.length_modify ..
  have hGiveBack (ref : HandleRef) : (w.giveBack ref).2.pools.length = w.pools.length := by
    rw [giveBack_pools]
    exact use_length ref _ w
  cases act with
  | openPool linger => exact absurd rfl (hOpen linger)
  | abandon pool | wake pool | hold pool taken => exact hModify pool _
  | get | evictIdle => exact visit_length _ w
  | resume pool request => exact visit_length (fun s => ((), s.resume request)) w
  | drop pool request => exact visit_length (fun s => ((), s.drop request)) w
  | close pool => exact visit_length (fun s => ((), s.close)) w
  | reap pool => exact (visit_length _ _).trans (hModify pool _)
  | borrow ref | connection ref => exact use_length ref _ w
  | giveBack ref => exact hGiveBack ref
  | release pool ref =>
      show (w.release pool ref).2.pools.length = _
      unfold release
      split
      · rfl
      · exact hGiveBack ref
  | report pool ref cause =>
      show (w.report pool ref cause).2.pools.length = _
      unfold report
      split
      · split
        · rfl
        · split
          · exact hModify _ _
          · rfl
      · rfl
  | look => exact (probeElsewhere_spec 1 w).length
  | resumeCreation creation =>
      show (w.resumeCreation creation).pools.length = _
      unfold resumeCreation
      split <;> rfl
  | advance span => rw [perform_advance_eq]
  | create | dropCreation | cancel | firstContact | shutFactory | order | mend | pass | probe => rfl

theorem Lone.perform (h : Lone w p) (hp' : (w.perform act).pools[0]? = some p')
    (hOpen : ∀ linger, act ≠ .openPool linger) (hCreates : ¬act.Creates) :
    Lone (w.perform act) p' := by
  have hLength := perform_length hOpen w
  rw [h.pools] at hLength
  obtain ⟨q, hq⟩ := List.length_eq_one_iff.mp hLength
  rw [hq] at hp'
  cases hp'
  exact ⟨h.reachable.perform act, perform_system h.clock act, hq,
    (perform_creations hCreates w).trans h.creations⟩

/-- In its turn a request that can go on leaves less to do, and any other stays as it is. -/
theorem Lone.resume (h : Lone w p) (index : Nat) :
    ∃ p', Lone (w.perform (.resume 0 index)) p' ∧
      (p'.toil < p.toil ∨ Stalled w (w.perform (.resume 0 index)) p p' ∧
        ∀ r, p.requests[index]? = some r → requestReady w.env p r = false) := by
  have hPool := visit_pool (f := fun s => ((), s.resume index)) h.found
    (Site.resume_recorded index (w.site 0 p))
  have hSound := h.reachable.sound h.found
  refine ⟨_, h.perform hPool nofun id, ?_⟩
  by_cases hReady : ∃ r, p.requests[index]? = some r ∧ requestReady w.env p r = true
  · refine Or.inl ?_
    obtain ⟨⟨id, state⟩, hRequest, hReady⟩ := hReady
    cases state with
    | waiting gate =>
        obtain ⟨state, q, hPassed, hq⟩ := perform_resume_waiting h.found hRequest
        rw [Option.some.inj (hPool.symm.trans hq)]
        obtain ⟨hBound, _⟩ := hSound.joined index id gate hRequest
        have hOutcome : p.gates[gate]? = some p.gates[gate] := List.getElem?_eq_getElem hBound
        refine hPassed.toil_lt hSound hRequest hOutcome fun hPending => ?_
        simp [requestReady, hOutcome, hPending, Gate.isPending] at hReady
    | dialing gate sequence =>
        let s := w.site 0 p
        let resumed : DialProgress γ × Surroundings δ := sequence.resume s.pool.shutdown s.env
        obtain ⟨_, q, hScanned, hFollowed⟩ := Site.follow_spec gate id sequence.endpointId resumed.1
          { s with env := resumed.2 } fun _ h => DialSequence.resume_endpointId h
        have hReady : sequence.isReady s.pool.shutdown s.env = true := hReady
        have hLess (s' : DialSequence) (hWaiting : resumed.1 = .waiting s') :
            s'.ahead < sequence.ahead := DialSequence.resume_ahead hReady hWaiting
        have hTurn := Site.resume_of_dialing (s := s) hRequest
        show (s.resume index).pool.toil < p.toil
        rw [hTurn]
        exact hFollowed.toil_lt hScanned.requests_eq hRequest hLess
    | _ => cases hReady
  · refine Or.inr ⟨?_, fun r hRequest => Bool.eq_false_iff.mpr fun hIs => hReady ⟨r, hRequest, hIs⟩⟩
    have hSame : ((w.site 0 p).resume index).pool = p :=
      Site.resume_of_unready fun r hRequest =>
        Bool.eq_false_iff.mpr fun hIs => hReady ⟨r, hRequest, hIs⟩
    have hHere : (.resume 0 index : Act δ).Concerns 0 := rfl
    have hBeside := perform_beside hHere w
    dsimp only
    rw [hSame]
    exact ⟨rfl, rfl, hBeside.now, hBeside.settings.shutdown, fun _ => rfl⟩

/-- The reaper's turn brings no request further. -/
theorem Lone.reap (h : Lone w p) :
    ∃ p', Lone (w.perform (.reap 0)) p' ∧ Stalled w (w.perform (.reap 0)) p p' := by
  obtain ⟨attempt, p', hp', hTurned, _⟩ := perform_reaped h.found
  obtain ⟨q, hq, hChange⟩ := (perform_spec (.reap 0) w).pools 0 p h.found
  cases hp'.symm.trans hq
  obtain ⟨hRequests, hGates⟩ := hChange.requests_gates_eq nofun nofun nofun
  have hHere : (.reap 0 : Act δ).Concerns 0 := rfl
  have hBeside := perform_beside hHere w
  exact ⟨p', h.perform hp' nofun id, hRequests, hGates, hBeside.now, hBeside.settings.shutdown,
    fun hLive => hTurned.shutdown_eq (isGone_of_live hLive)⟩

theorem Lone.turn (h : Lone w p) (hTurn : IsTurn act) :
    ∃ p', Lone (w.perform act) p' ∧
      (p'.toil < p.toil ∨ Stalled w (w.perform act) p p' ∧
        ∀ index r, act = .resume 0 index → p.requests[index]? = some r →
          requestReady w.env p r = false) := by
  have hNone {number : Nat} (hOther : number ≠ 0) : w.pools[number]? = none := by
    rw [h.pools]
    exact List.getElem?_eq_none (Nat.pos_of_ne_zero hOther)
  cases act with
  | resume number index =>
      by_cases hNumber : number = 0
      · subst hNumber
        obtain ⟨p', hLone, hStep⟩ := h.resume index
        refine ⟨p', hLone, hStep.imp_right fun ⟨hStalled, hUnready⟩ => ⟨hStalled, ?_⟩⟩
        rintro _ r ⟨⟩
        exact hUnready r
      · have hSame : w.perform (.resume number index) = w :=
          congrArg Prod.snd (visit_of_none (hNone hNumber) _)
        rw [hSame]
        refine ⟨p, h, Or.inr ⟨.refl w p, ?_⟩⟩
        rintro _ _ ⟨⟩
        exact absurd rfl hNumber
  | reap number =>
      by_cases hNumber : number = 0
      · subst hNumber
        obtain ⟨p', hLone, hStalled⟩ := h.reap
        exact ⟨p', hLone, Or.inr ⟨hStalled, nofun⟩⟩
      · have hSame : w.perform (.reap number) = w :=
          (reap_eq number w).trans (congrArg Prod.snd (visit_of_none (hNone hNumber) _))
        rw [hSame]
        exact ⟨p, h, Or.inr ⟨.refl w p, nofun⟩⟩
  | resumeCreation creation =>
      have hSame : w.perform (.resumeCreation creation) = w := by
        show w.resumeCreation creation = w
        unfold resumeCreation
        rw [h.creations]
        rfl
      rw [hSame]
      exact ⟨p, h, Or.inr ⟨.refl w p, nofun⟩⟩
  | _ => cases hTurn

/-- Turns leave less to do, unless none of them was that of a request that can go on. -/
theorem Lone.turns {acts : List (Act δ)} (h : Lone w p) (hTurns : ∀ act ∈ acts, IsTurn act) :
    ∃ p', Lone (w.performAll acts) p' ∧
      (p'.toil < p.toil ∨ Stalled w (w.performAll acts) p p' ∧
        (p.hasLiveRequest = true → ∀ index r, .resume 0 index ∈ acts →
          p.requests[index]? = some r → requestReady w.env p r = false)) := by
  induction acts generalizing w p with
  | nil => exact ⟨p, h, Or.inr ⟨.refl w p, fun _ _ _ => nofun⟩⟩
  | cons act rest ih =>
      obtain ⟨q, hq, hFirst⟩ := h.turn (hTurns act List.mem_cons_self)
      obtain ⟨p', hp', hRest⟩ := ih hq fun act hAct => hTurns act (List.mem_cons_of_mem _ hAct)
      refine ⟨p', hp', ?_⟩
      rcases hFirst with hLess | ⟨hStalled, hUnready⟩
      · rcases hRest with hLess' | ⟨hStalled', _⟩
        · exact Or.inl (hLess'.trans hLess)
        · exact Or.inl (hStalled'.toil_eq ▸ hLess)
      · rcases hRest with hLess' | ⟨hStalled', hUnready'⟩
        · exact Or.inl (hStalled.toil_eq ▸ hLess')
        · refine Or.inr ⟨hStalled.trans hStalled', fun hLive index r hAct hRequest => ?_⟩
          rcases List.mem_cons.mp hAct with hAct | hAct
          · exact hUnready index r hAct.symm hRequest
          · rw [← hStalled.requestReady_eq hLive]
            exact hUnready' (hStalled.live_eq.trans hLive) index r hAct (hStalled.requests ▸ hRequest)

/-! ### The reaper meanwhile -/

/-- After its turn there is nothing for the reaper to do. -/
theorem Lone.reaped_unready (h : Lone w p) (hp' : (w.perform (.reap 0)).pools[0]? = some p') :
    reaperReady w.env.now p' = false := by
  have hLong : w.env.now < w.env.now + p.linger.slept :=
    Nat.lt_add_of_pos_right (Duration.slept_pos (h.reachable.linger_pos h.found))
  obtain ⟨attempt, q, hq, hTurned, _⟩ := perform_reaped h.found
  cases hp'.symm.trans hq
  have hHears (hRunning : p.reaper.isRunning = true) : p'.Hears 0 := by
    rw [Option.some.inj (hp'.symm.trans (reap_pool h.found))]
    exact Site.tend_hears hRunning
  have hAsleep {ends : Instant} (hRunning : p.reaper.isRunning = true)
      (hReaper : p'.reaper = .asleep ends) (hStays : p'.shutdown = false)
      (hLater : w.env.now < ends) : reaperReady w.env.now p' = false := by
    have hWakes := (hHears hRunning).asleep ends hReaper
    simp [reaperReady, hReaper, hStays, hWakes, hLater]
  cases hTurned with
  | off ended =>
      unfold reaperReady
      cases hReaper : p.reaper <;> simp [hReaper, Reaper.isRunning] at ended ⊢
  | stopped => rfl
  | rested starts stays => exact hAsleep (by rw [starts]; rfl) rfl stays hLong
  | slept asleep early stays => exact hAsleep (by rw [asleep]; rfl) asleep stays early
  | scanned running stays =>
      rcases reaped_reaper w.env.now w.env.shown p with hReaper | hBroken
      · exact hAsleep running hReaper ((shutdown_reaped ..).trans stays) hLong
      · have hReaper : (p.reaped w.env.now w.env.shown).reaper = .broken := hBroken
        simp [reaperReady, hReaper]

end Performing

end World

namespace Pool

/-- As long as somebody waits for an answer, the pool has not been shut down, and its reaper runs. -/
def Alert (p : Pool γ) : Prop :=
  p.hasLiveRequest = true → p.shutdown = false ∧ p.reaper.isRunning = true

variable {allowed : Prop} {clock : Option Instant} {number : Nat} {act : Act δ} {p p' : Pool γ}

/-- Only somebody who asks makes a pool one with a live request. -/
theorem Change.hasLiveRequest_before (h : Change allowed clock number act p p')
    (hGet : ∀ id, act ≠ .get number id) (hLive : p'.hasLiveRequest = true) :
    p.hasLiveRequest = true := by
  obtain ⟨r, hr, hrLive⟩ := List.any_eq_true.mp hLive
  obtain ⟨index, hRequest⟩ := List.getElem?_of_mem hr
  have hBound : index < p.requests.length := by
    rw [← h.requests_length hGet]
    exact (List.getElem?_eq_some_iff.mp hRequest).1
  exact List.any_eq_true.mpr ⟨_, List.getElem_mem hBound,
    (h.live_before (List.getElem?_eq_getElem hBound) hRequest hrLive).2⟩

end Pool

namespace World

open Surroundings Pool

variable [Dialer δ γ] {w w' : World δ γ} {p p' : Pool γ} {act : Act δ}

theorem Lone.alert (h : Lone w p) (hAlert : p.Alert)
    (hp' : (w.perform act).pools[0]? = some p') (hGet : ∀ id, act ≠ .get 0 id)
    (hClose : act ≠ .close 0) : p'.Alert := by
  intro hLive'
  obtain ⟨q, hq, hChange⟩ := (perform_spec act w).pools 0 p h.found
  cases hp'.symm.trans hq
  have hLive := hChange.hasLiveRequest_before hGet hLive'
  obtain ⟨hStays, hRunning⟩ := hAlert hLive
  by_cases hTurn : act = .reap 0
  · subst hTurn
    obtain ⟨attempt, q, hq, hTurned, _⟩ := perform_reaped h.found
    cases hp'.symm.trans hq
    refine ⟨hTurned.stays hStays (isGone_of_live hLive), ?_⟩
    cases hTurned with
    | off ended => cases hRunning.symm.trans ended
    | stopped running leaves =>
        rcases leaves with hShutdown | hGone
        · cases hStays.symm.trans hShutdown
        · cases (isGone_of_live hLive).symm.trans hGone
    | rested => rfl
    | slept => exact hRunning
    | scanned =>
        have hShown : p.busy = false → w.env.shown ≠ none := by
          rw [Surroundings.shown, h.clock]
          exact fun _ => Option.some_ne_none _
        have hReaper := (reaped_steady w.env.now hShown).reaper
        show (p.reaped w.env.now w.env.shown).reaper.isRunning = true
        rw [hReaper]
        rfl
  · obtain ⟨q, hq, hAttended⟩ := perform_attended hTurn h.found
    cases hp'.symm.trans hq
    cases hAttended with
    | apart unasked unclosed same => exact ⟨same.shutdown.trans hStays, same.reaper ▸ hRunning⟩
    | asked => exact absurd rfl (hGet _)
    | closed => exact absurd rfl hClose

/-! ### Settling -/

theorem Lone.isSettled_eq (h : Lone w p) : w.isSettled = !poolReady w.env p := by
  simp [isSettled, h.pools, h.creations]

theorem Lone.isSettled_of_unready (h : Lone w p) (hLive : p.hasLiveRequest = true)
    (hReaper : reaperReady w.env.now p = false)
    (hUnready : ∀ r ∈ p.requests, requestReady w.env p r = false) : w.isSettled = true := by
  have hNone : p.requests.any (requestReady w.env p) = false :=
    List.any_eq_false.mpr fun r hr => Bool.eq_false_iff.mp (hUnready r hr)
  rw [h.isSettled_eq, poolReady, hNone, hReaper, isGone_of_live hLive]
  rfl

/-- A turn for every request of the pool. -/
def allTurns (p : Pool γ) : List (Act δ) := (List.range p.requests.length).map (.resume 0)

omit [Dialer δ γ] in
theorem isTurn_of_mem_allTurns (p : Pool γ) : ∀ act ∈ (allTurns p : List (Act δ)), IsTurn act := by
  intro act hAct
  obtain ⟨index, _, rfl⟩ := List.mem_map.mp hAct
  trivial

/-- A round gives every request a turn, and then the reaper. -/
theorem Lone.round_eq (h : Lone w p) :
    w.round = (w.performAll (allTurns p)).perform (.reap 0) := by
  have hTurns : w.turnRequests 0 = w.performAll (allTurns p) := by
    simp only [turnRequests, h.pools, performAll, allTurns, List.foldl_map]
    rfl
  obtain ⟨q, hq, _⟩ := h.turns (isTurn_of_mem_allTurns p)
  have hOne : List.range w.pools.length = [0] := by rw [h.pools]; rfl
  simp only [World.round, hOne, List.foldl_cons, List.foldl_nil, hTurns, hq.creations,
    List.length_nil, List.range_zero]
  rfl

/-- What a number of rounds came to: there is less to do, or nothing that could be done now. -/
structure Advanced (w w' : World δ γ) (p p' : Pool γ) : Prop where
  reaper : reaperReady w'.env.now p' = false
  outcome : p'.toil < p.toil ∨
    Stalled w w' p p' ∧ (p.hasLiveRequest = true → w'.isSettled = true)

theorem Lone.round (h : Lone w p) : ∃ p', Lone w.round p' ∧ Advanced w w.round p p' := by
  obtain ⟨q, hq, hTurns⟩ := h.turns (isTurn_of_mem_allTurns p)
  obtain ⟨p', hp', hReaped⟩ := hq.reap
  have hReaper := hq.reaped_unready hp'.found
  rw [← hReaped.now] at hReaper
  rw [h.round_eq]
  refine ⟨p', hp', hReaper, ?_⟩
  rcases hTurns with hLess | ⟨hStalled, hUnready⟩
  · exact Or.inl (hReaped.toil_eq ▸ hLess)
  · have hBoth := hStalled.trans hReaped
    refine Or.inr ⟨hBoth, fun hLive => ?_⟩
    refine hp'.isSettled_of_unready (hBoth.live_eq.trans hLive) hReaper fun r hr => ?_
    rw [hBoth.requestReady_eq hLive]
    rw [hBoth.requests] at hr
    obtain ⟨index, hRequest⟩ := List.getElem?_of_mem hr
    have hBound := (List.getElem?_eq_some_iff.mp hRequest).1
    exact hUnready hLive index r (List.mem_map.mpr ⟨index, List.mem_range.mpr hBound, rfl⟩) hRequest

omit [Dialer δ γ] in
theorem Advanced.trans {w'' : World δ γ} {p'' : Pool γ} (first : Advanced w w' p p')
    (second : Advanced w' w'' p' p'') : Advanced w w'' p p'' := by
  refine ⟨second.reaper, ?_⟩
  rcases first.outcome with hLess | ⟨hStalled, _⟩
  · rcases second.outcome with hLess' | ⟨hStalled', _⟩
    · exact Or.inl (hLess'.trans hLess)
    · exact Or.inl (hStalled'.toil_eq ▸ hLess)
  · rcases second.outcome with hLess' | ⟨hStalled', hSettled⟩
    · exact Or.inl (hStalled.toil_eq ▸ hLess')
    · exact Or.inr ⟨hStalled.trans hStalled', fun hLive => hSettled (hStalled.live_eq.trans hLive)⟩

theorem Lone.advanced_of_settled (h : Lone w p) (hSettled : w.isSettled = true) :
    Advanced w w p p := by
  refine ⟨?_, Or.inr ⟨.refl w p, fun _ => hSettled⟩⟩
  rw [h.isSettled_eq, poolReady] at hSettled
  simp only [Bool.not_eq_true', Bool.or_eq_false_iff] at hSettled
  exact hSettled.1.2

theorem Lone.rounds (h : Lone w p) (count : Nat) :
    ∃ p', Lone (w.rounds (count + 1)) p' ∧ Advanced w (w.rounds (count + 1)) p p' := by
  induction count generalizing w p with
  | zero =>
      unfold World.rounds
      split
      · next hSettled => exact ⟨p, h, h.advanced_of_settled hSettled⟩
      · exact h.round
  | succ count ih =>
      unfold World.rounds
      split
      · next hSettled => exact ⟨p, h, h.advanced_of_settled hSettled⟩
      · obtain ⟨q, hq, hFirst⟩ := h.round
        obtain ⟨p', hp', hRest⟩ := ih hq
        exact ⟨p', hp', hFirst.trans hRest⟩

theorem Lone.settle (h : Lone w p) : ∃ p', Lone w.settle p' ∧ Advanced w w.settle p p' :=
  h.rounds _

/-! ### Time -/

omit [Dialer δ γ] in
theorem lt_foldl_earlier {now : Instant} {list : List (Option Instant)} {first : Option Instant}
    (hFirst : ∀ due, first = some due → now < due) (hList : ∀ due, some due ∈ list → now < due)
    {moment : Instant} (h : list.foldl earlier first = some moment) : now < moment := by
  induction list generalizing first with
  | nil => exact hFirst moment h
  | cons next rest ih =>
      refine ih (fun due hDue => ?_) (fun due hDue => hList due (List.mem_cons_of_mem _ hDue)) h
      have hNext (due : Instant) (hIs : next = some due) : now < due :=
        hList due (hIs ▸ List.mem_cons_self)
      cases first with
      | none => exact hNext due hDue
      | some sooner =>
          cases next with
          | none => exact hFirst due hDue
          | some later =>
              cases hDue
              exact Nat.lt_min.mpr ⟨hFirst sooner rfl, hNext later rfl⟩

theorem Lone.nextDue_eq (h : Lone w p) : w.nextDue = poolDue p := by
  simp [nextDue, h.pools, h.creations, earlier]

/-- Where no request can go on, somebody dials as long as somebody waits. -/
theorem Lone.exists_dialing (h : Lone w p) (hLive : p.hasLiveRequest = true)
    (hUnready : ∀ r ∈ p.requests, requestReady w.env p r = false) :
    ∃ r ∈ p.requests, ∃ gate s, r.state = .dialing gate s := by
  obtain ⟨⟨id, state⟩, hr, hrLive⟩ := List.any_eq_true.mp hLive
  cases state with
  | dialing gate s => exact ⟨_, hr, gate, s, rfl⟩
  | waiting gate =>
      obtain ⟨index, hRequest⟩ := List.getElem?_of_mem hr
      obtain ⟨_, _, hWaits⟩ := no_stuck_waiter h.reachable h.found
      rcases hWaits index id gate hRequest with ⟨_, owner, s, hDials⟩ | ⟨_, hReady, _⟩
      · exact ⟨_, List.mem_of_getElem? hDials, gate, s, rfl⟩
      · cases (hUnready _ hr).symm.trans hReady
  | _ => cases hrLive

omit [Dialer δ γ] in
/-- Nobody who dials is due before the pool is. -/
theorem poolDue_of_dialing {r : Request} {gate : Nat} {s : DialSequence} (hr : r ∈ p.requests)
    (hState : r.state = .dialing gate s) : ∃ moment, poolDue p = some moment ∧ moment ≤ s.due := by
  unfold poolDue
  refine foldl_earlier _ _ (Or.inr (List.mem_map.mpr ⟨r, hr, ?_⟩))
  rw [hState]

omit [Dialer δ γ] in
/-- Where no request can go on and the reaper sleeps on, whatever is due lies ahead. -/
theorem lt_poolDue {env : Surroundings δ} {moment : Instant}
    (hUnready : ∀ r ∈ p.requests, requestReady env p r = false)
    (hAsleep : ∀ ends, p.reaper = .asleep ends → env.now < ends) (hDue : poolDue p = some moment) :
    env.now < moment := by
  unfold poolDue at hDue
  refine lt_foldl_earlier (fun due hFirst => ?_) (fun due hMem => ?_) hDue
  · split at hFirst
    · next ends hReaper =>
      cases hFirst
      exact hAsleep _ hReaper
    · cases hFirst
  · obtain ⟨r, hr, hIs⟩ := List.mem_map.mp hMem
    have hNot := hUnready r hr
    unfold requestReady at hNot
    split at hIs
    · next gate s hState =>
      cases hIs
      rw [hState] at hNot
      exact DialSequence.due_of_unready hNot
    · cases hIs

/-- Where no request can go on, the next moment brings the end of some dial or wait nearer. -/
theorem Lone.delay_passTo (h : Lone w p) (hLive : p.hasLiveRequest = true)
    (hUnready : ∀ r ∈ p.requests, requestReady w.env p r = false)
    (hAsleep : ∀ ends, p.reaper = .asleep ends → w.env.now < ends) {moment : Instant}
    (hDue : w.nextDue = some moment) :
    p.delay (w.passTo moment).env.now < p.delay w.env.now := by
  rw [h.nextDue_eq] at hDue
  have hLater := lt_poolDue hUnready hAsleep hDue
  have hNow : (w.passTo moment).env.now = moment := Nat.max_eq_right (Nat.le_of_lt hLater)
  have hSooner {r : Request} {gate : Nat} {s : DialSequence} (hr : r ∈ p.requests)
      (hState : r.state = .dialing gate s) : moment ≤ s.due := by
    obtain ⟨other, hOther, hLe⟩ := poolDue_of_dialing hr hState
    cases hDue.symm.trans hOther
    exact hLe
  obtain ⟨r, hr, gate, s, hState⟩ := h.exists_dialing hLive hUnready
  rw [hNow]
  refine List.sum_lt_sum _ _ (fun r _ => ?_) ⟨r, hr, ?_⟩
  · unfold RequestState.delay
    split
    · exact Nat.sub_le_sub_left (Nat.le_of_lt hLater) _
    · exact Nat.le_refl 0
  · have hEnd := hSooner hr hState
    simp only [hState, RequestState.delay]
    exact Nat.sub_lt_sub_left (Nat.lt_of_lt_of_le hLater hEnd) hLater

/-- What is done to handles of the pool leaves its requests and its reaper alone. -/
theorem Lone.aside (h : Lone w p) (act : Act δ) (hConcerns : act.Concerns 0)
    (hGet : ∀ id, act ≠ .get 0 id) (hResume : ∀ index, act ≠ .resume 0 index)
    (hDrop : ∀ index, act ≠ .drop 0 index)
    (hReap : act ≠ .reap 0) (hClose : act ≠ .close 0) :
    ∃ p', Lone (w.perform act) p' ∧ Stalled w (w.perform act) p p' ∧ p.Steady p' := by
  obtain ⟨p', hp', hAttended⟩ := perform_attended hReap h.found
  obtain ⟨q, hq, hChange⟩ := (perform_spec act w).pools 0 p h.found
  cases hp'.symm.trans hq
  obtain ⟨hRequests, hGates⟩ := hChange.requests_gates_eq hGet hResume hDrop
  have hBeside := perform_beside hConcerns w
  have hLone := h.perform hp' (by rintro linger rfl; exact hConcerns) fun hCreates => by
    cases act <;> first | exact hCreates | exact hConcerns
  cases hAttended with
  | apart unasked unclosed same =>
      exact ⟨p', hLone, ⟨hRequests, hGates, hBeside.now, hBeside.settings.shutdown,
        fun _ => same.shutdown⟩, same⟩
  | asked => exact absurd rfl (hGet _)
  | closed => exact absurd rfl hClose

omit [Dialer δ γ] in
/-- A reaper that runs and has nothing to do sleeps on. -/
theorem asleep_of_unready (hRunning : p.reaper.isRunning = true)
    (hUnready : reaperReady w.env.now p = false) :
    ∃ ends, p.reaper = .asleep ends ∧ w.env.now < ends := by
  unfold reaperReady at hUnready
  cases hReaper : p.reaper with
  | asleep ends =>
      simp only [hReaper, Bool.or_eq_false_iff, decide_eq_false_iff_not] at hUnready
      exact ⟨ends, rfl, Nat.lt_of_not_le hUnready.2⟩
  | starting => simp [hReaper] at hUnready
  | _ => simp [hReaper, Reaper.isRunning] at hRunning

theorem Lone.alert_goesTo (h : Lone w p) (hAlert : p.Alert) (hGoes : GoesTo w w')
    (hp' : w'.pools[0]? = some p') : p'.Alert := by
  obtain ⟨acts, hTurns, rfl⟩ := hGoes
  induction acts generalizing w p with
  | nil =>
      cases h.found.symm.trans hp'
      exact hAlert
  | cons act rest ih =>
      have hTurn := hTurns act List.mem_cons_self
      obtain ⟨q, hq, _⟩ := h.turn hTurn
      refine ih hq (h.alert hAlert hq.found ?_ ?_) (fun act hAct =>
        hTurns act (List.mem_cons_of_mem _ hAct)) hp'
      · rintro id rfl
        exact hTurn
      · rintro rfl
        exact hTurn

/-- What is left to do and to wait for, before anything else the former. -/
def left (w : World δ γ) (p : Pool γ) : (Nat ×ₗ (Nat ×ₗ Nat)) ×ₗ Nat :=
  toLex (p.toil, p.delay w.env.now)

/-- From settling to the next moment less is left, whatever was done to handles in between. -/
theorem Advanced.left_lt {w'' : World δ γ} {p'' : Pool γ} {moment : Instant}
    (h : Advanced w w' p p') (hLone : Lone w' p') (hStalled : Stalled w' w'' p' p'')
    (hLone' : Lone w'' p'') (hReaper : p''.reaper = p'.reaper)
    (hLive : p'.hasLiveRequest = true) (hDue : w''.nextDue = some moment) :
    left (w''.passTo moment) p'' < left w p := by
  refine Prod.Lex.toLex_lt_toLex.mpr ?_
  rcases h.outcome with hLess | ⟨hFirst, hSettled⟩
  · exact Or.inl (hStalled.toil_eq ▸ hLess)
  · have hBoth := hFirst.trans hStalled
    have hNow : p''.delay w''.env.now = p.delay w.env.now := by
      rw [delay, delay, hBoth.requests, hBoth.now]
    refine Or.inr ⟨hBoth.toil_eq, hNow ▸ ?_⟩
    have hDone := hSettled (hFirst.live_eq ▸ hLive)
    rw [hLone.isSettled_eq, poolReady] at hDone
    simp only [Bool.not_eq_true', Bool.or_eq_false_iff, List.any_eq_false] at hDone
    refine hLone'.delay_passTo (hStalled.live_eq.trans hLive) (fun r hr => ?_)
      (fun ends hAsleep => ?_) hDue
    · rw [hStalled.requestReady_eq hLive]
      exact Bool.eq_false_iff.mpr (hDone.1.1 r (hStalled.requests ▸ hr))
    · rw [hReaper] at hAsleep
      have hUnready := hDone.1.2
      simp only [reaperReady, hAsleep, Bool.or_eq_false_iff, decide_eq_false_iff_not] at hUnready
      rw [hStalled.now]
      exact Nat.lt_of_not_le hUnready.2

/-- As long as somebody waits for an answer there is a next moment, and then less is left. -/
theorem Advanced.next {w'' : World δ γ} {p'' : Pool γ} (h : Advanced w w.settle p p')
    (hLone : Lone w p) (hAlert : p.Alert) (hSettled : Lone w.settle p')
    (hStalled : Stalled w.settle w'' p' p'') (hLone' : Lone w'' p'') (hSteady : p'.Steady p'')
    (hLive : p''.hasLiveRequest = true) :
    p''.Alert ∧ ∃ moment, w''.nextDue = some moment ∧ left (w''.passTo moment) p'' < left w p := by
  have hBefore : p'.hasLiveRequest = true := hStalled.live_eq.symm.trans hLive
  obtain ⟨hStays, hRunning⟩ := hLone.alert_goesTo hAlert (settle_goesTo w) hSettled.found hBefore
  obtain ⟨ends, hAsleep, _⟩ := asleep_of_unready hRunning h.reaper
  obtain ⟨moment, hDue, _⟩ := poolDue_of_asleep (hSteady.reaper.trans hAsleep)
  rw [← hLone'.nextDue_eq] at hDue
  exact ⟨fun _ => ⟨hSteady.shutdown.trans hStays, (congrArg _ hSteady.reaper).trans hRunning⟩,
    moment, hDue, h.left_lt hSettled hStalled hLone' hSteady.reaper hBefore hDue⟩

end World

end Tether
