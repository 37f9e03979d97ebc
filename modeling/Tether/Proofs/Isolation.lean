import Tether.Proofs.Encounter
import Tether.Proofs.Upkeep

/-! Pools over one factory. What is done to one of them leaves the others as they were; they meet
only in the dialer and in what the factory has seen. In particular the wait of a sequence of dials
between two dials belongs to its own pool. -/

namespace Tether

variable {δ γ : Type}

namespace DialSequence

variable [Dialer δ γ] {s : DialSequence} {env : Surroundings δ} {ends : Instant}

/-- A wait that nobody cuts short goes on. -/
theorem resume_resting (hPhase : s.phase = .resting ends) (hOn : env.factory.shutdown = false)
    (hEarly : env.now < ends) : s.resume (γ := γ) false env = (.waiting s, env) := by
  have hWaits : ¬ends ≤ env.now := Nat.not_le_of_lt hEarly
  simp [resume, hPhase, hOn, hWaits]

omit [Dialer δ γ] in
theorem isReady_resting (hPhase : s.phase = .resting ends) (hOn : env.factory.shutdown = false)
    (hEarly : env.now < ends) : s.isReady false env = false := by
  have hWaits : ¬ends ≤ env.now := Nat.not_le_of_lt hEarly
  simp [isReady, hPhase, hOn, hWaits]

end DialSequence

namespace Pool

variable {p p' : Pool γ} {index : Nat} {r : Request}

/-- A pool with a live request is not gone. -/
theorem isGone_of_live (hLive : p.hasLiveRequest = true) : World.isGone p = false := by
  rw [World.isGone, hLive, Bool.not_true, Bool.and_false]

theorem not_isGone (hRequest : p.requests[index]? = some r) (hLive : r.state.isLive = true) :
    World.isGone p = false :=
  isGone_of_live (List.any_eq_true.mpr ⟨r, List.mem_of_getElem? hRequest, hLive⟩)

/-- A turn of its reaper shuts a pool down only if the pool is gone. -/
theorem Turned.stays {attempt : ScanAttempt} {now : Instant} {clock : Option Instant}
    (h : p.Turned now clock attempt p') (hStays : p.shutdown = false)
    (hHere : World.isGone p = false) : p'.shutdown = false := by
  have hNot (hLeaves : p.shutdown = true ∨ World.isGone p = true) : False := by
    rcases hLeaves with hShutdown | hGone
    · cases hStays.symm.trans hShutdown
    · cases hHere.symm.trans hGone
  cases h with
  | off ended shutdown lasting leaves =>
      exact Bool.eq_false_iff.mpr fun hShutdown => hNot (leaves hShutdown)
  | stopped running leaves => exact (hNot leaves).elim
  | rested | slept => exact hStays
  | scanned => exact (shutdown_reaped now clock p).trans hStays

/-- No other act but closing it shuts a pool down. -/
theorem Attended.stays {number : Nat} {act : Act δ} (h : Attended number act p p')
    (hClose : act ≠ .close number) (hStays : p.shutdown = false) : p'.shutdown = false := by
  cases h with
  | apart unasked unclosed same | asked open_ same => exact same.shutdown.trans hStays
  | closed => exact absurd rfl hClose

end Pool

namespace Site

open Pool

variable [Dialer δ γ] {t : Site δ γ} {index gate : Nat} {id : String} {s : DialSequence}
  {ends : Instant}

theorem resume_resting
    (hRequest : t.pool.requests[index]? = some { endpointId := id, state := .dialing gate s })
    (hPhase : s.phase = .resting ends) (hStays : t.pool.shutdown = false)
    (hOn : t.env.factory.shutdown = false) (hEarly : t.env.now < ends) :
    (t.resume index).pool.shutdown = false ∧ (t.resume index).pool.requests[index]? =
      some { endpointId := id, state := .dialing gate s } := by
  have hBound := (List.getElem?_eq_some_iff.mp hRequest).1
  have hResume : t.resume index = t.update (setRequest index (.dialing gate s)) := by
    unfold resume
    rw [hRequest]
    dsimp only
    rw [hStays, DialSequence.resume_resting hPhase hOn hEarly]
    rfl
  rw [hResume]
  refine ⟨hStays, ?_⟩
  show (t.pool.setRequest index _).requests[index]? = _
  rw [requests_setRequest hRequest, List.getElem?_set_self hBound]

end Site

/-- An act concerns one pool at most. -/
theorem Act.Concerns.unique {act : Act δ} {number other : Nat} (h : act.Concerns number)
    (h' : act.Concerns other) : number = other := by
  cases act with
  | abandon | get | resume | drop | report | evictIdle | wake | reap | close | hold | release
  | borrow | giveBack | connection => exact h.symm.trans h'
  | _ => exact h.elim

namespace World

open Surroundings Pool

variable {w : World δ γ} {number index gate : Nat} {p q : Pool γ} {s : DialSequence}
  {ends : Instant}

/-- The request waits between two dials, and neither its pool nor the factory cuts the wait short. -/
structure Rests (number index gate : Nat) (s : DialSequence) (w : World δ γ) : Prop where
  pool : ∃ p id, w.pools[number]? = some p ∧ p.shutdown = false ∧
    p.requests[index]? = some { endpointId := id, state := .dialing gate s }
  factory : w.env.factory.shutdown = false

theorem Spared.eq_of_unprobed {w' : World δ γ} (h : w.Spared number p w')
    (hUnprobed : w.probed ≠ some number) : w'.pools[number]? = some p := by
  obtain ⟨p', hp', hScanned⟩ := h
  rcases hScanned with rfl | ⟨hProbed, _⟩
  · exact hp'
  · exact absurd hProbed hUnprobed

/-- A handle that another pool made is not registered here. -/
theorem report_foreign {ref : HandleRef} {held : Handle γ} (hp : w.pools[number]? = some p)
    (hMade : w.handle? ref = some held) (hForeign : ref.home ≠ number) (cause : String) :
    (w.report number ref cause).1 = if p.closed then .error .closed else .ok false := by
  unfold report
  rw [hp, hMade]
  dsimp only
  split
  · rfl
  · rw [if_neg fun h => hForeign h.1]

section Performing

variable [Dialer δ γ] {act : Act δ} {acts : List (Act δ)}

theorem Rests.perform (h : w.Rests number index gate s) (hPhase : s.phase = .resting ends)
    (hEarly : w.env.now < ends) (hClose : act ≠ .close number) (hDrop : act ≠ .drop number index)
    (hShut : act ≠ .shutFactory) : (w.perform act).Rests number index gate s := by
  obtain ⟨⟨p, id, hp, hStays, hRequest⟩, hOn⟩ := h
  refine ⟨?_, (perform_configured hShut w).shutdown.trans hOn⟩
  by_cases hResume : act = .resume number index
  · subst hResume
    have hPool := visit_pool (f := fun t => ((), t.resume index)) hp
      (Site.resume_recorded index (w.site number p))
    have hResting := Site.resume_resting (t := w.site number p) hRequest hPhase hStays hOn hEarly
    exact ⟨_, id, hPool, hResting⟩
  · obtain ⟨p', hp', hChange⟩ := (perform_spec act w).pools number p hp
    have hKept := hChange.request_of_unmoved (fun _ => ⟨hResume, hDrop⟩) hRequest
    refine ⟨p', id, hp', ?_, hKept⟩
    by_cases hTurn : act = .reap number
    · subst hTurn
      obtain ⟨_, q, hq, hTurned, _⟩ := perform_reaped hp
      cases hp'.symm.trans hq
      exact hTurned.stays hStays (not_isGone hRequest rfl)
    · obtain ⟨q, hq, hAttended⟩ := perform_attended hTurn hp
      cases hp'.symm.trans hq
      exact hAttended.stays hClose hStays

theorem Rests.performAll (h : w.Rests number index gate s) (hPhase : s.phase = .resting ends)
    (hLets : ∀ act ∈ acts, act ≠ .close number ∧ act ≠ .drop number index ∧ act ≠ .shutFactory)
    (hEarly : (w.performAll acts).env.now < ends) :
    (w.performAll acts).Rests number index gate s := by
  induction acts generalizing w with
  | nil => exact h
  | cons act rest ih =>
      obtain ⟨hClose, hDrop, hShut⟩ := hLets act List.mem_cons_self
      have hBefore : w.env.now < ends :=
        Nat.lt_of_le_of_lt (now_le_performAll (act :: rest) w) hEarly
      exact ih (h.perform hPhase hBefore hClose hDrop hShut)
        (fun act hAct => hLets act (List.mem_cons_of_mem _ hAct)) hEarly

/-- Of two pools over one factory, what is done to one leaves the other exactly as it was, unless
the clock itself scans that other pool whenever it is read. Beside the two pools it can change only
the dialer and what the factory has seen, and only where a request of the first pool has its turn. A
handle of the other pool that is reported to an open pool is not registered there; a closed pool
refuses the report, as it refuses all. And whatever happens, closing and letting go of the first
pool included, a sequence of dials for the other pool waits for its next dial as long as that pool
is not closed, the request not dropped and the factory not shut down. -/
theorem pool_isolation {first other : Nat} (hApart : first ≠ other)
    (hp : w.pools[first]? = some p) (hq : w.pools[other]? = some q) :
    (∀ act : Act δ, act.Concerns first →
      w.Spared other q (w.perform act) ∧
      (w.probed ≠ some other → (w.perform act).pools[other]? = some q) ∧
      Beside w (w.perform act) ∧
      ((∀ id, act ≠ .get first id) → (∀ index, act ≠ .resume first index) →
        (w.perform act).env.factory = w.env.factory)) ∧
    (∀ ref held cause, w.handle? ref = some held → ref.home = other →
      (w.report first ref cause).1 = if p.closed then .error .closed else .ok false) ∧
    ∀ index s ends acts, w.sequenceAt (.request other index) = some s →
      s.phase = .resting ends → q.shutdown = false → w.env.factory.shutdown = false →
      (∀ act ∈ acts, act ≠ .close other ∧ act ≠ .drop other index ∧ act ≠ .shutFactory) →
      (w.performAll acts).env.now < ends →
      (w.performAll acts).sequenceAt (.request other index) = some s ∧
        ∃ q', (w.performAll acts).pools[other]? = some q' ∧
          s.isReady q'.shutdown (w.performAll acts).env = false := by
  refine ⟨fun act hAct => ?_, fun ref held cause hMade hHome => ?_, ?_⟩
  · have hElse : ¬act.Concerns other := fun hBoth => hApart (hAct.unique hBoth)
    have hSpared := perform_elsewhere hElse hq
    exact ⟨hSpared, hSpared.eq_of_unprobed, perform_beside hAct w,
      fun hGet hResume => perform_factory hAct hGet hResume w⟩
  · exact report_foreign hp hMade (fun hHere => hApart (hHere.symm.trans hHome)) cause
  · intro index s ends acts hSequence hPhase hStays hOn hLets hEarly
    rw [sequenceAt_request hq] at hSequence
    obtain ⟨id, gate, hRequest⟩ := hSequence
    have hRests : w.Rests other index gate s := ⟨⟨q, id, hq, hStays, hRequest⟩, hOn⟩
    obtain ⟨⟨q', id', hq', hStays', hRequest'⟩, hOn'⟩ := hRests.performAll hPhase hLets hEarly
    refine ⟨(sequenceAt_request hq').mpr ⟨id', gate, hRequest'⟩, q', hq', ?_⟩
    · rw [hStays']
      exact DialSequence.isReady_resting hPhase hOn' hEarly

/-- Two pools over one factory; a request of the second one waits for a retry. -/
def sideBySide : World (FixedDialer Nat) Nat :=
  performAll [.openPool 10, .openPool 10, .get 1 "web", .order (FixedDialer.failNext "db" 1),
      .get 1 "db"]
    { env := { factory := { dialer := { connection := 7 }, policy := { initialGrace := 200 } } } }

theorem sideBySide_isolated : ∃ s, s.phase = .resting 200 ∧
    (sideBySide.report 0 ⟨1, 0⟩ "reset").1 = .ok false ∧
      sideBySide.sequenceAt (.request 1 1) = some s ∧
      (sideBySide.perform (.close 0)).pools[1]? = sideBySide.pools[1]? ∧
      (sideBySide.performAll [.close 0, .pass 100, .resume 1 1]).sequenceAt (.request 1 1) =
        some s := by
  have hOpen : sideBySide.pools[0]?.map Pool.closed = some false := by decide +kernel
  have hStays : sideBySide.pools[1]?.map Pool.shutdown = some false := by decide +kernel
  have hMade : (sideBySide.handle? ⟨1, 0⟩).isSome = true := by decide +kernel
  have hRests : (sideBySide.sequenceAt (.request 1 1)).map DialSequence.phase =
      some (.resting 200) := by decide +kernel
  obtain ⟨p, hp, hOpen⟩ := Option.map_eq_some_iff.mp hOpen
  obtain ⟨q, hq, hStays⟩ := Option.map_eq_some_iff.mp hStays
  obtain ⟨held, hMade⟩ := Option.isSome_iff_exists.mp hMade
  obtain ⟨s, hs, hPhase⟩ := Option.map_eq_some_iff.mp hRests
  obtain ⟨hSpares, hReport, hGoesOn⟩ := pool_isolation (show 0 ≠ 1 by decide) hp hq
  have hAnswer := hReport ⟨1, 0⟩ held "reset" hMade rfl
  rw [hOpen] at hAnswer
  have hUnprobed : sideBySide.probed.isNone = true := by decide +kernel
  refine ⟨s, hPhase, hAnswer, hs, ?_, ?_⟩
  · rw [hq]
    refine (hSpares (.close 0) rfl).2.1 fun hProbed => ?_
    rw [hProbed] at hUnprobed
    cases hUnprobed
  · exact (hGoesOn 1 s 200 _ hs hPhase hStays (by decide +kernel) (by simp)
      (by decide +kernel)).1

/-- A handle of another pool is not even looked up once the pool is closed. -/
theorem sideBySide_refuses :
    ((sideBySide.perform (.close 0)).handle? ⟨1, 0⟩).isSome = true ∧
      ((sideBySide.perform (.close 0)).report 0 ⟨1, 0⟩ "reset").1 = .error .closed ∧
      ((sideBySide.perform (.close 0)).report 0 ⟨1, 0⟩ "reset").1 ≠ .ok false := by
  decide +kernel

end Performing

end World

end Tether
