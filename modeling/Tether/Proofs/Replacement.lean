import Tether.Dialer.Scripted
import Tether.Proofs.SharedOutcome

/-! What becomes of those who waited for a request that went away while it dialed. In their turns
they look again, and the first of them dials in its place. The others follow it, provided that they
still find it dialing or find its handle. -/

namespace Tether

variable {δ γ : Type}

namespace Site

open Surroundings Pool

variable {s : Site δ γ} {gate next : Nat} {id : String}

theorem drop_of_dialing {index : Nat} {sequence : DialSequence}
    (hDials : s.pool.requests[index]? =
      some { endpointId := id, state := .dialing gate sequence }) :
    s.drop index =
      s.update fun p => (p.openGate gate id .givenUp).setRequest index .dropped := by
  unfold drop
  rw [hDials]

variable [Dialer δ γ]

/-- A gate that has no answer of its own lets those who waited look, and a gate that they find is
where they wait next. -/
theorem pass_of_dialed
    (hDecided : s.pool.gates[gate]? = some .created ∨ s.pool.gates[gate]? = some .givenUp)
    (hOpen : s.pool.closed = false) (hUnregistered : s.pool.registry.get? id = none)
    (hDialed : s.pool.creating.get? id = some next) :
    s.pass gate id = (.waiting next, s.note (.rechecking id)) := by
  unfold pass
  rcases hDecided with hDecided | hDecided
  · rw [hDecided]
    simp [look, note, hOpen, hUnregistered, hDialed]
  · rw [hDecided]
    simp [look, note, hOpen, hUnregistered, hDialed]

theorem dial_begun (id : String) (s : Site δ γ) :
    (s.dial id).2.env.begun id = s.env.begun id + 1 := by
  let started : DialProgress γ × Surroundings δ := DialSequence.start id s.pool.shutdown s.env
  obtain ⟨hStill, _⟩ := follow_spec s.pool.gates.length id id started.1
    { s.update (raiseGate id) with env := started.2 } fun _ h => DialSequence.start_endpointId h
  exact (hStill.begun_eq id).trans (DialSequence.start_begun id _ s.env)

end Site

namespace Pool

variable {allowed : Prop} {clock : Option Instant} {number index gate : Nat} {id : String}
  {p p' : Pool γ}

/-- One request dials behind the gate, and these others wait there. -/
structure Regrouped (p : Pool γ) (id : String) (gate heir : Nat) (rest : List Nat) : Prop where
  dials : DialsAt p.requests heir id gate
  waits : ∀ other ∈ rest, p.requests[other]? = some { endpointId := id, state := .waiting gate }

/-- Nobody has or dials the connection, and these requests wait behind a gate that was given up. -/
structure Stranded (p : Pool γ) (id : String) (gate : Nat) (order : List Nat) : Prop where
  lacks : p.Lacks id
  givenUp : p.gates[gate]? = some .givenUp
  waits : ∀ other ∈ order, p.requests[other]? = some { endpointId := id, state := .waiting gate }

/-- A request that dials still dials behind the same gate after its turn, or it is over. -/
theorem Change.request_of_dialing
    (h : Change allowed clock number (.resume number index : Act δ) p p')
    (hDials : DialsAt p.requests index id gate) :
    DialsAt p'.requests index id gate ∨
      ∃ r, p'.requests[index]? = some r ∧ r.state.isLive = false := by
  obtain ⟨s, hRequest⟩ := hDials
  obtain ⟨state, hState, rfl | ⟨_, _, ⟨⟩, _⟩ | ⟨_, _, _, _, _, ⟨⟩, _, hFollowed⟩⟩ :=
    h.request_of_turn hRequest
  · exact Or.inl ⟨s, hState⟩
  · cases hFollowed with
    | @waiting s' => exact Or.inl ⟨s', hState⟩
    | _ => exact Or.inr ⟨_, hState, rfl⟩

/-- A request that waits at a gate still to be decided goes on waiting there. -/
theorem Change.request_of_queued
    (h : Change allowed clock number (.resume number index : Act δ) p p')
    (hPending : p.gates[gate]? = some .pending)
    (hWaits : p.requests[index]? = some { endpointId := id, state := .waiting gate }) :
    p'.requests[index]? = some { endpointId := id, state := .waiting gate } := by
  obtain ⟨state, hState, rfl | ⟨_, _, ⟨⟩, hPassed⟩ | ⟨_, _, _, _, _, ⟨⟩, _⟩⟩ :=
    h.request_of_turn hWaits
  · exact hState
  · cases hPassed with
    | failed decided | closed decided => cases hPending.symm.trans decided
    | queued => exact hState
    | looked decided =>
        rcases decided with decided | decided <;> cases hPending.symm.trans decided

end Pool

namespace World

open Surroundings Pool

variable [Dialer δ γ] {w w' : World δ γ} {number index gate heir : Nat} {id : String}
  {p p' q : Pool γ} {now : Instant} {order early rest : List Nat} {acts : List (Act δ)}
  {progress : DialProgress γ}

/-! ### One dials and the others wait -/

theorem perform_regrouped {act : Act δ} (hReachable : w.Reachable)
    (hp : w.pools[number]? = some p) (h : p.Regrouped id gate heir rest)
    (hStay : ∀ caller ∈ heir :: rest, act ≠ .drop number caller) :
    ∃ p', (w.perform act).pools[number]? = some p' ∧
      (p'.Regrouped id gate heir rest ∨
        ∃ r, p'.requests[heir]? = some r ∧ r.state.isLive = false) := by
  have hSound := hReachable.sound hp
  obtain ⟨p', hp', hChange⟩ := (perform_spec act w).pools number p hp
  refine ⟨p', hp', ?_⟩
  have hHeir : DialsAt p'.requests heir id gate ∨
      ∃ r, p'.requests[heir]? = some r ∧ r.state.isLive = false := by
    by_cases hTurn : act = .resume number heir
    · subst hTurn
      exact hChange.request_of_dialing h.dials
    · obtain ⟨s, hRequest⟩ := h.dials
      exact Or.inl ⟨s, hChange.request_of_unmoved
        (fun _ => ⟨hTurn, hStay heir (List.mem_cons_self ..)⟩) hRequest⟩
  refine hHeir.imp_left fun hDials => ⟨hDials, fun other hOther => ?_⟩
  by_cases hTurn : act = .resume number other
  · subst hTurn
    exact hChange.request_of_queued (hSound.undecided heir id gate h.dials) (h.waits other hOther)
  · exact hChange.request_of_unmoved
      (fun _ => ⟨hTurn, hStay other (List.mem_cons_of_mem _ hOther)⟩) (h.waits other hOther)

/-- As long as the first of them dials, the others wait behind its gate, whatever happens. -/
theorem performAll_regrouped (hReachable : w.Reachable) (hp : w.pools[number]? = some p)
    (h : p.Regrouped id gate heir rest)
    (hStay : ∀ caller ∈ heir :: rest, .drop number caller ∉ acts)
    (hp' : (w.performAll acts).pools[number]? = some p')
    (hDials : DialsAt p'.requests heir id gate) : p'.Regrouped id gate heir rest := by
  induction acts generalizing w p with
  | nil =>
      cases hp.symm.trans hp'
      exact h
  | cons act later ih =>
      obtain ⟨q, hq, hNext | ⟨r, hRequest, hOver⟩⟩ := perform_regrouped hReachable hp h
        fun caller hCaller hDrop => hStay caller hCaller (hDrop ▸ List.mem_cons_self ..)
      · exact ih (hReachable.perform act) hq hNext
          (fun caller hCaller hDrop => hStay caller hCaller (List.mem_cons_of_mem _ hDrop)) hp'
      · obtain ⟨q', hq', hSame⟩ := performAll_request_of_over hq hRequest hOver later
        cases hq'.symm.trans hp'
        obtain ⟨s, hDials⟩ := hDials
        cases hSame.symm.trans hDials
        cases hOver

/-- When the sequence of dials of one request ends, those who wait behind its gate and have their
turns next come to the same. -/
theorem Dials.ended {act : Act δ} (hDials : Dials w number p index id gate act progress)
    (hSound : p.Sound p.requests) (hp : w.pools[number]? = some p) (hShown : w.env.shown = some now)
    (hEnded : ∀ s, progress ≠ .waiting s) (hNodup : rest.Nodup)
    (hWaits : ∀ other ∈ rest,
      p.requests[other]? = some { endpointId := id, state := .waiting gate }) :
    (w.perform act).env.now = w.env.now ∧
      Quiet (w.perform act) ((w.perform act).performAll (rest.map (.resume number))) ∧
      ∃ p', ((w.perform act).performAll (rest.map (.resume number))).pools[number]? = some p' ∧
        p.Ended id index rest progress p' := by
  obtain ⟨state, p₁, ⟨q, r, hReady, hFollowed, hp₁⟩, hPool, hNow, hShown₁, hOwner, hOthers⟩ :=
    hDials.turned hSound hp
  have hNot : index ∉ rest := fun hIndex => (hDials.waiters hSound (hWaits index hIndex)).2 rfl
  have hWaits₁ (other : Nat) (hOther : other ∈ rest) :
      p₁.requests[other]? = some { endpointId := id, state := .waiting gate } :=
    hOthers other _ (fun h => hNot (h ▸ hOther)) (hWaits other hOther)
  rw [hShown] at hFollowed hShown₁
  refine ⟨hNow, ?_⟩
  cases hFollowed with
  | waiting => exact absurd rfl (hEnded _)
  | unread blind => cases blind
  | failed error => exact ended_refused hReady hPool hShown₁ hNodup hNot hWaits₁ hp₁ hOwner
  | discarded shown late =>
      exact ended_discarded hReady hPool hShown₁ hNodup hNot hWaits₁ late hp₁ hOwner
  | created shown open_ =>
      cases shown
      exact ended_granted hReady hPool hShown₁ hNodup hNot hWaits₁ open_ hp₁ hOwner

/-- Whatever happens until the sequence of dials behind the gate ends, short of a caller going away,
the others still wait there then, and learn in their next turns how it ended. -/
def Shares (w : World δ γ) (number : Nat) (id : String) (gate heir : Nat) (rest : List Nat) :
    Prop :=
  ∀ acts p progress, (∀ caller ∈ heir :: rest, .drop number caller ∉ acts) →
    (w.performAll acts).pools[number]? = some p → DialsAt p.requests heir id gate →
    p.Regrouped id gate heir rest ∧
      ((w.performAll acts).env.shown ≠ none →
        (w.performAll acts).Dials number p heir id gate (.resume number heir) progress →
        (∀ s, progress ≠ .waiting s) →
        ∃ w' p', w' = ((w.performAll acts).perform (.resume number heir)).performAll
            (rest.map (.resume number)) ∧
          Quiet ((w.performAll acts).perform (.resume number heir)) w' ∧
          w'.env.now = (w.performAll acts).env.now ∧ w'.pools[number]? = some p' ∧
          p.Ended id heir rest progress p')

theorem shares_of_regrouped (hReachable : w.Reachable) (hp : w.pools[number]? = some p)
    (h : p.Regrouped id gate heir rest) (hNodup : rest.Nodup) :
    w.Shares number id gate heir rest := by
  intro acts q progress hStay hq hDials
  have hRegrouped := performAll_regrouped hReachable hp h hStay hq hDials
  refine ⟨hRegrouped, fun hSeen hEnds hEnded => ?_⟩
  obtain ⟨now, hShown⟩ := Option.ne_none_iff_exists'.mp hSeen
  obtain ⟨hNow, hQuiet, p', hp', hOutcome⟩ :=
    hEnds.ended ((hReachable.performAll acts).sound hq) hq hShown hEnded hNodup hRegrouped.waits
  exact ⟨_, p', rfl, hQuiet, hQuiet.record.now.trans hNow, hp', hOutcome⟩

/-- Behind a gate that has no answer of its own, everybody queues up where the endpoint is dialed
now. -/
theorem performAll_queued {next : Nat} (hSound : p.Sound p.requests)
    (hp : w.pools[number]? = some p) (hShown : w.env.shown = some now) (hOpen : p.closed = false)
    (hNodup : order.Nodup)
    (hWaits : ∀ other ∈ order,
      p.requests[other]? = some { endpointId := id, state := .waiting gate })
    (hDecided : p.gates[gate]? = some .created ∨ p.gates[gate]? = some .givenUp)
    (hHeir : DialsAt p.requests heir id next) :
    Quiet w (w.performAll (order.map (.resume number))) ∧
      ∃ p', (w.performAll (order.map (.resume number))).pools[number]? = some p' ∧
        p' = { p with requests := p'.requests } ∧
        (∀ other ∈ order,
          p'.requests[other]? = some { endpointId := id, state := .waiting next }) ∧
        ∀ other, other ∉ order → p'.requests[other]? = p.requests[other]? := by
  refine performAll_resume (.waiting next) (fun _ q => q = { p with requests := q.requests })
    (fun w q count index hq _ hInv hWaits => ?_) order hNodup 0 w p hp hShown rfl hWaits
  have hPass : (w.site number q).pass gate id =
      (.waiting next, (w.site number q).note (.rechecking id)) := by
    refine Site.pass_of_dialed ?_ ?_ ?_ ?_
    · show q.gates[gate]? = _ ∨ q.gates[gate]? = _
      rw [hInv]
      exact hDecided
    · show q.closed = false
      rw [hInv]
      exact hOpen
    · show q.registry.get? id = none
      rw [hInv]
      exact hSound.vacant hOpen heir id next hHeir
    · show q.creating.get? id = some next
      rw [hInv]
      exact (hSound.listed hOpen id next).mpr ⟨heir, hHeir⟩
  obtain ⟨hQuiet, hq'⟩ := perform_resume_still hq hWaits
    (hPass ▸ still_note (by rintro _ ⟨_, _, ⟨⟩⟩) _)
  rw [hPass] at hq'
  refine ⟨hQuiet, _, hq', ?_, requests_setRequest hWaits⟩
  show q.setRequest index _ = { p with requests := (q.setRequest index _).requests }
  rw [hInv]
  rfl

/-! ### The turns of those who waited -/

/-- What those come to who are left when the first of them dials and does not fail at once: they
share the handle, or the sequence of dials that goes on. -/
inductive TakenUp (w' : World δ γ) (number : Nat) (p : Pool γ) (id : String) (heir : Nat)
    (rest : List Nat) (p' : Pool γ) : DialProgress γ → Prop where
  | granted {connection : γ} (ended : p.Ended id heir rest (.connected connection) p') :
      TakenUp w' number p id heir rest p' (.connected connection)
  | regrouped {s : DialSequence} (regrouped : p'.Regrouped id p.gates.length heir rest)
      (shares : w'.Shares number id p.gates.length heir rest) :
      TakenUp w' number p id heir rest p' (.waiting s)

/-- The turns of those who are left: the sequence of dials of the first is the only one that begins.
-/
structure Replaced (w : World δ γ) (number : Nat) (p : Pool γ) (id : String) (heir : Nat)
    (rest : List Nat) (progress : DialProgress γ) (w' : World δ γ) (p' : Pool γ) : Prop where
  dials : w.Dials number p heir id p.gates.length (.resume number heir) progress
  lasts : ∀ error, progress ≠ .failed error
  now : w'.env.now = w.env.now
  begun : w'.env.begun id = w.env.begun id + 1
  takenUp : TakenUp w' number p id heir rest p' progress

/-- One after another these requests start sequences of dials of their own, and every one fails at
once. -/
inductive InVain (number : Nat) (id : String) : List Nat → World δ γ → Prop where
  | nil (w : World δ γ) : InVain number id [] w
  | cons {caller : Nat} {others : List Nat} {w : World δ γ} {p : Pool γ} {error : ConnectError}
      (pool : w.pools[number]? = some p)
      (dials : w.Dials number p caller id p.gates.length (.resume number caller) (.failed error))
      (next : InVain number id others (w.perform (.resume number caller))) :
      InVain number id (caller :: others) w

/-- The turns of those whose sequences of dials fail at once. -/
structure Missed (w : World δ γ) (number : Nat) (p : Pool γ) (id : String) (early : List Nat)
    (w' : World δ γ) (p' : Pool γ) : Prop where
  inVain : InVain number id early w
  now : w'.env.now = w.env.now
  begun : w'.env.begun id = w.env.begun id + early.length
  failed : p'.counters.failed = p.counters.failed + early.length
  refused : ∀ caller ∈ early, ∃ error,
    p'.requests[caller]? = some { endpointId := id, state := .refused (.connect error) }

theorem missed_nil (w : World δ γ) (number : Nat) (p : Pool γ) (id : String) :
    w.Missed number p id [] w p :=
  ⟨.nil w, rfl, rfl, rfl, nofun⟩

theorem dials_of_stranded (h : p.Stranded id gate (heir :: rest)) (w : World δ γ) (number : Nat) :
    ∃ progress, w.Dials number p heir id p.gates.length (.resume number heir) progress :=
  ⟨_, .restarted (h.waits heir (List.mem_cons_self ..)) (Or.inr h.givenUp) h.lacks rfl⟩

/-- In the turn of a request that was stranded one sequence of dials begins. -/
theorem perform_begun (hp : w.pools[number]? = some p) (h : p.Stranded id gate (heir :: rest)) :
    (w.perform (.resume number heir)).env.begun id = w.env.begun id + 1 := by
  have hTurn := Site.resume_of_waiting (s := w.site number p) (h.waits heir (List.mem_cons_self ..))
  have hPass := Site.pass_of_lacks (s := w.site number p) (Or.inr h.givenUp) h.lacks
  refine (visit_begun hp (fun s => ((), s.resume heir)) id).trans ?_
  rw [hTurn, hPass]
  exact Site.dial_begun id _

section Turns

variable (hReachable : w.Reachable) (hp : w.pools[number]? = some p)
  (h : p.Stranded id gate (heir :: rest)) (hNodup : (heir :: rest).Nodup)

include hReachable hp h hNodup

/-- Those who have not had their turn wait where they were. -/
theorem waits_of_turned {state : RequestState} {p₁ : Pool γ}
    (hTurned : Turned w number p heir id p.gates.length progress state p₁
      (w.perform (.resume number heir))) :
    p₁.gates[gate]? = some .givenUp ∧ ∀ other ∈ rest,
      p₁.requests[other]? = some { endpointId := id, state := .waiting gate } := by
  have hSound := hReachable.sound hp
  obtain ⟨q, hq, hChange⟩ := (perform_spec (.resume number heir) w).pools number p hp
  cases hq.symm.trans hTurned.pool
  refine ⟨hChange.gate_of_decided hSound h.givenUp nofun, fun other hOther => ?_⟩
  have hNot : other ≠ heir := fun hSame => (List.nodup_cons.mp hNodup).1 (hSame ▸ hOther)
  exact hTurned.others other _ hNot (h.waits other (List.mem_cons_of_mem _ hOther))

/-- A sequence of dials that fails at once leaves those who are left as they were. -/
theorem stranded_of_failed {error : ConnectError}
    (hDials : w.Dials number p heir id p.gates.length (.resume number heir) (.failed error)) :
    ∃ p₁, (w.perform (.resume number heir)).pools[number]? = some p₁ ∧
      p₁.Stranded id gate rest ∧ p₁.counters.failed = p.counters.failed + 1 ∧
      p₁.requests[heir]? = some { endpointId := id, state := .refused (.connect error) } := by
  obtain ⟨state, p₁, hTurned⟩ := hDials.turned (hReachable.sound hp) hp
  obtain ⟨hGivenUp, hWaits⟩ := waits_of_turned hReachable hp h hNodup hTurned
  obtain ⟨q, r, hReady, hFollowed, hp₁⟩ := hTurned.followed
  have hAnswer := hTurned.answer
  cases hFollowed with
  | failed =>
      refine ⟨p₁, hTurned.pool, ⟨⟨?_, ?_, ?_⟩, hGivenUp, hWaits⟩, ?_, hAnswer⟩
      · rw [hp₁]
        exact hReady.closed.trans h.lacks.open_
      · rw [hp₁]
        exact hReady.vacant
      · rw [hp₁]
        exact hReady.creating_openGate (.failed error)
      · rw [hp₁]
        show q.counters.failed + 1 = _
        rw [hReady.counters]

/-- A sequence of dials that does not fail at once is the last that begins. -/
theorem replaced_of_lasts (hShown : w.env.shown = some now)
    (hDials : w.Dials number p heir id p.gates.length (.resume number heir) progress)
    (hLasts : ∀ error, progress ≠ .failed error) :
    ∃ p', (w.performAll ((heir :: rest).map (.resume number))).pools[number]? = some p' ∧
      w.Replaced number p id heir rest progress
        (w.performAll ((heir :: rest).map (.resume number))) p' := by
  obtain ⟨hNot, hRest⟩ := List.nodup_cons.mp hNodup
  obtain ⟨state, p₁, hTurned⟩ := hDials.turned (hReachable.sound hp) hp
  obtain ⟨hGivenUp, hWaits⟩ := waits_of_turned hReachable hp h hNodup hTurned
  have hReachable₁ := hReachable.perform (.resume number heir)
  have hShown₁ := hTurned.shown.trans hShown
  have hBegun := perform_begun hp h
  obtain ⟨q, r, hReady, hFollowed, hp₁⟩ := hTurned.followed
  have hOpen : q.closed = false := hReady.closed.trans h.lacks.open_
  have hAnswer := hTurned.answer
  rw [hShown] at hFollowed
  -- What is left is that nobody else dials, and what the others come to.
  suffices hOthers : Quiet (w.perform (.resume number heir))
      ((w.perform (.resume number heir)).performAll (rest.map (.resume number))) ∧
      ∃ p', ((w.perform (.resume number heir)).performAll
          (rest.map (.resume number))).pools[number]? = some p' ∧
        TakenUp ((w.perform (.resume number heir)).performAll (rest.map (.resume number))) number p
          id heir rest p' progress by
    obtain ⟨hQuiet, p', hp', hTaken⟩ := hOthers
    exact ⟨p', hp', hDials, hLasts, hQuiet.record.now.trans hTurned.now,
      (hQuiet.record.begun_eq id).trans hBegun, hTaken⟩
  cases hFollowed with
  | failed error => exact absurd rfl (hLasts error)
  | unread blind => cases blind
  | discarded shown late => cases hOpen.symm.trans late
  | @waiting s =>
      have hHeir : DialsAt p₁.requests heir id p.gates.length := ⟨s, hAnswer⟩
      have hOpen₁ : p₁.closed = false := by
        rw [hp₁]
        exact hOpen
      obtain ⟨hQuiet, p', hp', _, hMoved, hLeft⟩ :=
        performAll_queued (hReachable₁.sound hTurned.pool) hTurned.pool hShown₁ hOpen₁ hRest hWaits
          (Or.inr hGivenUp) hHeir
      have hRegrouped : p'.Regrouped id p.gates.length heir rest :=
        ⟨⟨s, (hLeft heir hNot).trans hAnswer⟩, hMoved⟩
      exact ⟨hQuiet, p', hp', .regrouped hRegrouped
        (shares_of_regrouped (hReachable₁.performAll _) hp' hRegrouped hRest)⟩
  | created shown open_ =>
      cases shown
      obtain ⟨hQuiet, p', hp', hEnded⟩ := ended_enrolled hReady hTurned.pool hShown₁ hRest hNot
        hWaits (Or.inr hGivenUp) hOpen hp₁ hAnswer
      exact ⟨hQuiet, p', hp', .granted hEnded⟩

end Turns

theorem Missed.cons {error : ConnectError} {p₁ : Pool γ} (hp : w.pools[number]? = some p)
    (hDials : w.Dials number p heir id p.gates.length (.resume number heir) (.failed error))
    (hp₁ : (w.perform (.resume number heir)).pools[number]? = some p₁)
    (hBegun : (w.perform (.resume number heir)).env.begun id = w.env.begun id + 1)
    (hFailed : p₁.counters.failed = p.counters.failed + 1)
    (hAnswer : p₁.requests[heir]? =
      some { endpointId := id, state := .refused (.connect error) })
    (hq : ((w.perform (.resume number heir)).performAll
      (early.map (.resume number))).pools[number]? = some q)
    (h : (w.perform (.resume number heir)).Missed number p₁ id early
      ((w.perform (.resume number heir)).performAll (early.map (.resume number))) q) :
    w.Missed number p id (heir :: early)
      (w.performAll ((heir :: early).map (.resume number))) q := by
  refine ⟨.cons hp hDials h.inVain, h.now.trans (perform_now w nofun), ?_, ?_, ?_⟩
  · refine h.begun.trans ?_
    rw [hBegun, List.length_cons]
    omega
  · rw [h.failed, hFailed, List.length_cons]
    omega
  · intro caller hCaller
    rcases List.mem_cons.mp hCaller with rfl | hCaller
    · obtain ⟨q', hq', hSame⟩ :=
        performAll_request_of_over hp₁ hAnswer rfl (early.map (.resume number))
      cases hq'.symm.trans hq
      exact ⟨error, hSame⟩
    · exact h.refused caller hCaller

/-- Those who were stranded have their turns: some, perhaps, dial in vain, and then all who are left
share. -/
theorem succession (hReachable : w.Reachable) (hp : w.pools[number]? = some p)
    (hShown : w.env.shown = some now) (h : p.Stranded id gate order) (hNodup : order.Nodup) :
    ∃ early late q, order = early ++ late ∧
      (w.performAll (early.map (.resume number))).pools[number]? = some q ∧
      w.Missed number p id early (w.performAll (early.map (.resume number))) q ∧
      (late = [] ∨ ∃ heir rest progress p', late = heir :: rest ∧
        (w.performAll (order.map (.resume number))).pools[number]? = some p' ∧
        (w.performAll (early.map (.resume number))).Replaced number q id heir rest progress
          (w.performAll (order.map (.resume number))) p') := by
  induction order generalizing w p with
  | nil => exact ⟨[], [], p, rfl, hp, missed_nil w number p id, Or.inl rfl⟩
  | cons heir rest ih =>
      obtain ⟨progress, hDials⟩ := dials_of_stranded h w number
      by_cases hLasts : ∀ error, progress ≠ .failed error
      · obtain ⟨p', hp', hReplaced⟩ := replaced_of_lasts hReachable hp h hNodup hShown hDials hLasts
        exact ⟨[], heir :: rest, p, rfl, hp, missed_nil w number p id,
          Or.inr ⟨heir, rest, progress, p', rfl, hp', hReplaced⟩⟩
      · obtain ⟨error, rfl⟩ : ∃ error, progress = .failed error := by
          simpa using hLasts
        obtain ⟨p₁, hp₁, hStranded, hFailed, hAnswer⟩ :=
          stranded_of_failed hReachable hp h hNodup hDials
        have hShown₁ : (w.perform (.resume number heir)).env.shown = some now := by
          obtain ⟨state, p₂, hTurned⟩ := hDials.turned (hReachable.sound hp) hp
          exact hTurned.shown.trans hShown
        obtain ⟨early, late, q, hOrder, hq, hMissed, hLate⟩ :=
          ih (hReachable.perform _) hp₁ hShown₁ hStranded (List.nodup_cons.mp hNodup).2
        exact ⟨heir :: early, late, q, congrArg (List.cons heir) hOrder, hq,
          hMissed.cons hp hDials hp₁ (perform_begun hp h) hFailed hAnswer hq, hLate⟩

/-- When a request that dials in an open pool goes away, the pool lacks the endpoint again, and
those who waited behind its gate are stranded. -/
theorem perform_drop_dialing {s : DialSequence} (hReachable : w.Reachable)
    (hp : w.pools[number]? = some p) (hOpen : p.closed = false)
    (hDials : p.requests[index]? = some { endpointId := id, state := .dialing gate s })
    (hWaits : ∀ other ∈ order,
      p.requests[other]? = some { endpointId := id, state := .waiting gate }) :
    ∃ p', (w.perform (.drop number index)).pools[number]? = some p' ∧
      (w.perform (.drop number index)).env.events = w.env.events ∧
      (w.perform (.drop number index)).env.shown = w.env.shown ∧
      p'.counters = p.counters ∧ p'.Stranded id gate order := by
  have hSound := hReachable.sound hp
  have hDialsAt : DialsAt p.requests index id gate := ⟨s, hDials⟩
  have hGate := (List.getElem?_eq_some_iff.mp (hSound.undecided index id gate hDialsAt)).1
  have hListed := (hSound.listed hOpen id gate).mpr ⟨index, hDialsAt⟩
  have hVisit : w.perform (.drop number index) = (w.visit number fun s => ((), s.drop index)).2 :=
    rfl
  have hDrop := Site.drop_of_dialing (s := w.site number p) hDials
  rw [hVisit, visit_of_unread hp _ (by rw [hDrop]; rfl), hDrop]
  refine ⟨_, List.getElem?_set_self (List.getElem?_eq_some_iff.mp hp).1, rfl, rfl, rfl, ?_, ?_, ?_⟩
  · refine ⟨hOpen, hSound.vacant hOpen index id gate hDialsAt, ?_⟩
    show (if p.creating.get? id = some gate then p.creating.erase id else p.creating).get? id = none
    rw [if_pos hListed, Table.get?_erase, if_pos rfl]
  · exact List.getElem?_set_self hGate
  · intro other hOther
    have hNot : index ≠ other := by
      rintro rfl
      cases hDials.symm.trans (hWaits index hOther)
    exact (setRequest_of_ne hNot).trans (hWaits other hOther)

variable {w₀ : World δ γ} {s : DialSequence}

/-- A request that dials in an open pool goes away, and those who waited behind its gate have their
turns, in whatever order. The first of them whose sequence of dials does not fail at once dials for
all who are left: no other sequence begins, and they come to the same handle now, or later, when the
sequence ends, to the same outcome. A sequence that fails at once before it fails its own caller and
nobody else. -/
theorem replacement_shared (hReachable : w.Reachable) (hp : w.pools[number]? = some p)
    (hOpen : p.closed = false) (hShown : w.env.shown = some now)
    (hDials : p.requests[index]? = some { endpointId := id, state := .dialing gate s })
    (hNodup : order.Nodup)
    (hWaits : ∀ other ∈ order,
      p.requests[other]? = some { endpointId := id, state := .waiting gate })
    (hDrop : w₀ = w.perform (.drop number index)) :
    w₀.env.now = w.env.now ∧ w₀.env.begun id = w.env.begun id ∧
    ∃ early late q, order = early ++ late ∧
      (w₀.performAll (early.map (.resume number))).pools[number]? = some q ∧
      w₀.Missed number p id early (w₀.performAll (early.map (.resume number))) q ∧
      (late = [] ∨ ∃ heir rest progress p', late = heir :: rest ∧
        (w₀.performAll (order.map (.resume number))).pools[number]? = some p' ∧
        (w₀.performAll (early.map (.resume number))).Replaced number q id heir rest progress
          (w₀.performAll (order.map (.resume number))) p') := by
  subst hDrop
  obtain ⟨p₀, hp₀, hEvents, hShown₀, hCounters, hStranded⟩ :=
    perform_drop_dialing hReachable hp hOpen hDials hWaits
  obtain ⟨early, late, q, hOrder, hq, hMissed, hLate⟩ :=
    succession (hReachable.perform _) hp₀ (hShown₀.trans hShown) hStranded hNodup
  refine ⟨perform_now w nofun, congrArg (List.countP (Event.isStart id)) hEvents, early, late, q,
    hOrder, hq, { hMissed with failed := ?_ }, hLate⟩
  rw [hMissed.failed, hCounters]

/-- Three requests for one endpoint. The first dial takes a while, and the next two fail at once. -/
def shortTempered : World (ScriptedDialer Nat) Nat :=
  performAll [.openPool 10, .get 0 "db", .get 0 "db", .get 0 "db"]
    { env := { factory := {
        dialer := {
          cues := [("db", [{ delay := 5, answer := .ok 7 }, { answer := .error (.refused "down") },
            { answer := .error (.refused "down") }])]
          fallback := 7 }
        policy := { initialRetries := 0, subsequentRetries := 0 } } } }

theorem shortTempered_replaced : ∃ early late q, [1, 2] = early ++ late ∧
    ((shortTempered.perform (.drop 0 0)).performAll (early.map (.resume 0))).pools[0]? = some q ∧
    InVain 0 "db" early (shortTempered.perform (.drop 0 0)) ∧
    q.counters.failed = early.length := by
  have hReachable : shortTempered.Reachable := ⟨_, _, rfl⟩
  have hPool : ∃ p, shortTempered.pools[0]? = some p ∧ p.closed = false ∧ p.counters.failed = 0 ∧
      ∃ s, p.requests = [⟨"db", .dialing 0 s⟩, ⟨"db", .waiting 0⟩, ⟨"db", .waiting 0⟩] :=
    ⟨_, rfl, rfl, rfl, _, rfl⟩
  obtain ⟨p, hp, hOpen, hNone, s, hRequests⟩ := hPool
  have hWaits (other : Nat) (hOther : other ∈ [1, 2]) :
      p.requests[other]? = some { endpointId := "db", state := .waiting 0 } := by
    rw [hRequests]
    rcases List.mem_cons.mp hOther with rfl | hOther
    · rfl
    · cases List.mem_singleton.mp hOther
      rfl
  have hDials : p.requests[0]? = some { endpointId := "db", state := .dialing 0 s } := by
    rw [hRequests]
    rfl
  obtain ⟨_, _, early, late, q, hOrder, hq, hMissed, _⟩ :=
    replacement_shared hReachable hp hOpen rfl hDials (by decide) hWaits rfl
  refine ⟨early, late, q, hOrder, hq, hMissed.inVain, ?_⟩
  rw [hMissed.failed, hNone, Nat.zero_add]

/-- Of the two requests that wait, each starts a sequence of dials of its own, and two failures are
counted. -/
theorem shortTempered_dials_twice :
    shortTempered.pools[0]?.map (fun p => (p.closed, p.counters.failed, p.requests)) =
        some (false, 0, [⟨"db", .dialing 0 ⟨"db", .initial, 1, 0, .flying 0 5⟩⟩,
          ⟨"db", .waiting 0⟩, ⟨"db", .waiting 0⟩]) ∧
      ((shortTempered.perform (.drop 0 0)).performAll [.resume 0 1, .resume 0 2]).env.begun "db" =
        shortTempered.env.begun "db" + 2 ∧
      ((shortTempered.perform (.drop 0 0)).performAll [.resume 0 1, .resume 0 2]).pools[0]?.map
        (fun p => (p.counters.failed, p.requests.map Request.state)) =
          some (2, [.dropped, .refused (.connect (.exhausted "db" 1 (.refused "down"))),
            .refused (.connect (.exhausted "db" 1 (.refused "down")))]) := by
  decide +kernel

end World

end Tether
