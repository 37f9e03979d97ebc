import Tether.Command.Run
import Tether.Dialer.Fixed
import Tether.Proofs.Printing
import Tether.Proofs.Progress
import Tether.Proofs.Survey

/-! What a probe finds. It comes to its end, whatever the dials come to, and by whichever course it
gets there its report is true to the endpoints, to the outcomes and to the counters of the pool. -/

namespace Tether

variable {δ γ : Type}

namespace Probe

open World Pool

variable [Dialer δ γ] {peer : γ → Option String} {pool : Nat} {endpoints : List String}
  {w w' : World δ γ} {p p' : Pool γ} {t : ProbeTask} {tasks : List ProbeTask}
  {slots : List (Option ProbeTask)} {s s' : Stage δ γ}

/-! ### Looking after a task -/

/-- There is no answer yet for the task, unless it has ended. -/
def Unanswered (pool : Nat) (t : ProbeTask) (w : World δ γ) : Prop :=
  t.outcome = none → ∀ state, w.requestState pool t.request = some state →
    state.granted? = none ∧ state.isRefused = false

/-- What looking after a task comes to. -/
inductive Concluded (pool : Nat) (t : ProbeTask) (w : World δ γ) :
    ProbeTask × World δ γ → Prop where
  | goesOn (unanswered : Unanswered pool t w) : Concluded pool t w (t, w)
  | connected {handle : Nat} (unended : t.outcome = none)
      (granted : w.requestState pool t.request = some (.granted handle)) (latency : Duration)
      (answer : Option String) :
      Concluded pool t w
        ({ t with outcome := some { endpoint := t.endpoint, latency, result := .ok answer } },
          (w.perform (.connection ⟨pool, handle⟩)).perform (.release pool ⟨pool, handle⟩))
  | failed {error : PoolError} (unended : t.outcome = none)
      (refused : w.requestState pool t.request = some (.refused error)) (latency : Duration) :
      Concluded pool t w
        ({ t with outcome := some { endpoint := t.endpoint, latency, result := .error error } }, w)

theorem conclude_concluded (peer : γ → Option String) (pool : Nat) (t : ProbeTask)
    (w : World δ γ) : Concluded pool t w (conclude peer pool t w) := by
  unfold conclude
  dsimp only
  split
  · next hEnded =>
    refine .goesOn fun hNone => ?_
    rw [hNone] at hEnded
    cases hEnded
  · next hRuns =>
    have hRuns : t.outcome = none := by simpa using hRuns
    split
    · next handle hGranted => exact .connected hRuns hGranted _ _
    · next error hRefused => exact .failed hRuns hRefused _
    · next hUngranted hUnrefused =>
      refine .goesOn fun _ state hState => ?_
      cases state with
      | granted handle => exact (hUngranted handle hState).elim
      | refused error => exact (hUnrefused error hState).elim
      | _ => exact ⟨rfl, rfl⟩

/-- An answer that is there stays. -/
theorem requestState_perform {state : RequestState} {request : Nat}
    (hState : w.requestState pool request = some state) (hOver : state.isLive = false)
    (act : Act δ) : (w.perform act).requestState pool request = some state := by
  obtain ⟨p, hp, hRequest⟩ := Option.bind_eq_some_iff.mp hState
  obtain ⟨r, hr, rfl⟩ := Option.map_eq_some_iff.mp hRequest
  obtain ⟨p', hp', hr'⟩ := performAll_request_of_over hp hr hOver [act]
  exact Option.bind_eq_some_iff.mpr ⟨p', hp', Option.map_eq_some_iff.mpr ⟨r, hr', rfl⟩⟩

theorem Concluded.course {place : Nat} {r : ProbeTask × World δ γ} (h : Concluded pool t w r)
    (hRuns : slots[place]? = some (some t)) :
    Course pool endpoints ⟨slots, w⟩ ⟨slots.set place (some r.1), r.2⟩ := by
  cases h with
  | goesOn =>
      obtain ⟨hBound, hAt⟩ := List.getElem?_eq_some_iff.mp hRuns
      rw [← hAt, List.set_getElem_self]
      exact .refl
  | @connected handle unended granted latency answer =>
      have hLook : Step pool endpoints ⟨slots, w⟩
          ⟨slots, w.perform (.connection ⟨pool, handle⟩)⟩ :=
        .went trivial
      exact .tail (.single hLook)
        (.connected hRuns unended (requestState_perform granted rfl _) latency answer)
  | failed unended refused latency => exact .single (.failed hRuns unended refused latency)

/-- Looking after a task leaves the requests of the pool and its reaper alone. -/
theorem Concluded.lone {r : ProbeTask × World δ γ} (h : Concluded 0 t w r) (hLone : Lone w p) :
    ∃ p', Lone r.2 p' ∧ Stalled w r.2 p p' ∧ p.Steady p' := by
  cases h with
  | goesOn | failed => exact ⟨p, hLone, .refl w p, .refl p⟩
  | @connected handle =>
      obtain ⟨q, hq, hStalled, hSteady⟩ := hLone.aside (.connection ⟨0, handle⟩) rfl
        nofun nofun nofun nofun nofun
      obtain ⟨p', hp', hStalled', hSteady'⟩ := hq.aside (.release 0 ⟨0, handle⟩) rfl
        nofun nofun nofun nofun nofun
      exact ⟨p', hp', hStalled.trans hStalled', hSteady.trans hSteady'⟩

/-- A task that goes on has no answer. -/
theorem Concluded.unanswered {r : ProbeTask × World δ γ} (h : Concluded pool t w r) :
    Unanswered pool r.1 r.2 := by
  cases h with
  | goesOn unanswered => exact unanswered
  | connected | failed => nofun

/-! ### Looking after all of them -/

theorem concludeAll_course (peer : γ → Option String) (pool : Nat) (before : List (Option ProbeTask))
    (tasks : List ProbeTask) (w : World δ γ) :
    Course pool endpoints ⟨before ++ tasks.map some, w⟩
      ⟨before ++ (concludeAll peer pool tasks w).1.map some,
        (concludeAll peer pool tasks w).2⟩ := by
  induction tasks generalizing before w with
  | nil => exact .refl
  | cons t rest ih =>
      have hPlace : (before ++ (t :: rest).map some)[before.length]? = some (some t) := by simp
      have hFirst : Course pool endpoints _ _ := (conclude_concluded peer pool t w).course hPlace
      have hRest := ih (before ++ [some (conclude peer pool t w).1]) (conclude peer pool t w).2
      simp only [List.map_cons, List.set_append_right _ _ (Nat.le_refl _), Nat.sub_self,
        List.set_cons_zero] at hFirst
      simp only [List.append_assoc, List.singleton_append] at hRest
      exact hFirst.trans hRest

theorem concludeAll_lone (peer : γ → Option String) (tasks : List ProbeTask) (h : Lone w p) :
    ∃ p', Lone (concludeAll peer 0 tasks w).2 p' ∧
      Stalled w (concludeAll peer 0 tasks w).2 p p' ∧ p.Steady p' := by
  induction tasks generalizing w p with
  | nil => exact ⟨p, h, .refl w p, .refl p⟩
  | cons t rest ih =>
      obtain ⟨q, hq, hStalled, hSteady⟩ := (conclude_concluded peer 0 t w).lone h
      obtain ⟨p', hp', hStalled', hSteady'⟩ := ih hq
      exact ⟨p', hp', hStalled.trans hStalled', hSteady.trans hSteady'⟩

/-- A task that still runs then has no answer. -/
theorem concludeAll_unanswered (peer : γ → Option String) (tasks : List ProbeTask) (h : Lone w p) :
    ∀ t ∈ (concludeAll peer 0 tasks w).1, Unanswered 0 t (concludeAll peer 0 tasks w).2 := by
  induction tasks generalizing w p with
  | nil => nofun
  | cons t rest ih =>
      have hConcluded := conclude_concluded peer 0 t w
      obtain ⟨q, hq, _⟩ := hConcluded.lone h
      obtain ⟨p', hp', hStalled, _⟩ := concludeAll_lone peer rest hq
      intro t' hTask
      rcases List.mem_cons.mp hTask with rfl | hTask
      · have hSame (request : Nat) :
            (concludeAll peer 0 rest (conclude peer 0 t w).2).2.requestState 0 request =
              (conclude peer 0 t w).2.requestState 0 request := by
          simp [requestState, hp'.found, hq.found, hStalled.requests]
        intro hRuns state hState
        exact hConcluded.unanswered hRuns state ((hSame _).symm.trans hState)
      · exact ih hq t' hTask

/-! ### The start -/

/-- The first task for the endpoint, which asks for it. -/
def asking (text : String) (p : Pool γ) (w : World δ γ) : ProbeTask :=
  { endpoint := Text.trimmed text, request := p.requests.length, started := w.env.now }

theorem visit_of_found (hp : w.pools[pool]? = some p) (text : String) :
    w.visit pool (Site.get (Text.trimmed text)) =
      (some p.requests.length, w.perform (.get pool (Text.trimmed text))) :=
  Prod.ext (get_next hp _).1 rfl

/-- The first endpoint is asked for and looked after before the next. -/
theorem start_cons (peer : γ → Option String) (hp : w.pools[pool]? = some p) (text : String)
    (rest : List String) :
    ∃ r, Concluded pool (asking text p w) (w.perform (.get pool (Text.trimmed text))) r ∧
      start peer pool (text :: rest) w =
        (r.1 :: (start peer pool rest r.2).1, (start peer pool rest r.2).2) := by
  refine ⟨_, conclude_concluded peer pool _ _, ?_⟩
  rw [start, visit_of_found hp]
  rfl

theorem set_next (before : List (Option ProbeTask)) (slot : Option ProbeTask) (count : Nat)
    (t : ProbeTask) :
    (before ++ slot :: List.replicate count none).set before.length (some t) =
      before ++ some t :: List.replicate count none := by
  simp

/-- The tasks are started one after another. -/
theorem start_course (peer : γ → Option String) {done rest : List String}
    {before : List (Option ProbeTask)} (hDone : done.length = before.length)
    (h : Underway pool (done ++ rest) ⟨before ++ List.replicate rest.length none, w⟩ p) :
    Course pool (done ++ rest) ⟨before ++ List.replicate rest.length none, w⟩
      ⟨before ++ (start peer pool rest w).1.map some, (start peer pool rest w).2⟩ := by
  induction rest generalizing done before w p with
  | nil => exact .refl
  | cons text rest ih =>
      obtain ⟨r, hConcluded, hStart⟩ := start_cons peer h.found text rest
      have hListed : (done ++ text :: rest)[before.length]? = some text := by simp [← hDone]
      have hVacant : (before ++ none :: List.replicate rest.length none)[before.length]? =
        some (none : Option ProbeTask) := by simp
      have hRuns : (before ++ some (asking text p w) ::
        List.replicate rest.length none)[before.length]? = some (some (asking text p w)) := by simp
      have hAsk : Step pool (done ++ text :: rest)
          ⟨before ++ none :: List.replicate rest.length none, w⟩
          ⟨before ++ some (asking text p w) :: List.replicate rest.length none,
            w.perform (.get pool (Text.trimmed text))⟩ := by
        have hStep := Step.asked hListed hVacant (visit_of_found h.found text) w.env.now
        rwa [set_next] at hStep
      have hFirst : Course pool (done ++ text :: rest)
          ⟨before ++ none :: List.replicate rest.length none, w⟩
          ⟨before ++ some r.1 :: List.replicate rest.length none, r.2⟩ := by
        have hCourse : Course pool (done ++ text :: rest) _ _ := hConcluded.course hRuns
        rw [set_next] at hCourse
        exact .head hAsk hCourse
      obtain ⟨q, hq⟩ := h.course hFirst
      have hSplit : done ++ text :: rest = (done ++ [text]) ++ rest := by simp
      have hSlots (slots : List (Option ProbeTask)) :
          before ++ some r.1 :: slots = (before ++ [some r.1]) ++ slots := by simp
      rw [hStart, List.map_cons]
      rw [hSplit, hSlots] at hq hFirst ⊢
      exact hFirst.trans (ih (by simp [hDone]) hq)

/-- The pool is open, and its reaper has been started if anybody ever asked for anything. -/
structure Roused (p : Pool γ) : Prop where
  open_ : p.closed = false
  stays : p.shutdown = false
  reaper : p.reaper = .idle ∧ p.requests = [] ∨ p.reaper.isRunning = true

omit [Dialer δ γ] in
theorem Roused.alert (h : Roused p) : p.Alert := by
  refine fun hLive => ⟨h.stays, h.reaper.resolve_left ?_⟩
  rintro ⟨_, hNone⟩
  simp [hasLiveRequest, hNone] at hLive

omit [Dialer δ γ] in
theorem Roused.steady (h : Roused p) (hSteady : p.Steady p') (hRequests : p'.requests = p.requests) :
    Roused p' := by
  refine ⟨hSteady.closed.trans h.open_, hSteady.shutdown.trans h.stays, ?_⟩
  rw [hSteady.reaper, hRequests]
  exact h.reaper

theorem Roused.asked (h : Roused p) (hLone : Lone w p) (id : String) :
    ∃ p', Lone (w.perform (.get 0 id)) p' ∧ Roused p' := by
  have hTurn : (.get 0 id : Act δ) ≠ .reap 0 := nofun
  obtain ⟨p', hp', hAttended⟩ := perform_attended hTurn hLone.found
  refine ⟨p', hLone.perform hp' nofun nofun, ?_⟩
  cases hAttended with
  | apart unasked => cases h.open_.symm.trans (unasked id rfl)
  | asked open_ same =>
      refine ⟨same.closed.trans h.open_, same.shutdown.trans h.stays, Or.inr ?_⟩
      rw [same.reaper, roused]
      rcases h.reaper with ⟨hIdle, _⟩ | hRunning
      · rw [hIdle]
        rfl
      · cases hReaper : p.reaper <;> simp [hReaper, Reaper.isRunning] at hRunning ⊢

theorem start_lone (peer : γ → Option String) (rest : List String) (h : Lone w p)
    (hRoused : Roused p) : ∃ p', Lone (start peer 0 rest w).2 p' ∧ Roused p' := by
  induction rest generalizing w p with
  | nil => exact ⟨p, h, hRoused⟩
  | cons text rest ih =>
      obtain ⟨r, hConcluded, hStart⟩ := start_cons peer h.found text rest
      obtain ⟨q, hq, hAsked⟩ := hRoused.asked h (Text.trimmed text)
      obtain ⟨p', hp', hStalled, hSteady⟩ := hConcluded.lone hq
      rw [hStart]
      exact ih hp' (hAsked.steady hSteady hStalled.requests)

/-! ### The end -/

theorem course_of_goesTo (h : GoesTo w w') : Course pool endpoints ⟨slots, w⟩ ⟨slots, w'⟩ := by
  obtain ⟨acts, hTurns, rfl⟩ := h
  induction acts generalizing w with
  | nil => exact .refl
  | cons act rest ih =>
      have hTurn := hTurns act List.mem_cons_self
      have hLets : Lets act := by
        cases act <;> first | exact trivial | exact hTurn
      refine .head (.went hLets) (ih fun act hAct => ?_)
      exact hTurns act (List.mem_cons_of_mem _ hAct)

/-- Somebody waits for an answer as long as some task runs. -/
theorem live_of_running (h : Underway 0 endpoints ⟨tasks.map some, w⟩ p)
    (hUnanswered : ∀ t ∈ tasks, Unanswered 0 t w) (hTask : t ∈ tasks) (hRuns : t.outcome = none) :
    p.hasLiveRequest = true := by
  have hTasks : (tasks.map some).reduceOption = tasks := by simp [List.reduceOption]
  have hAsked := h.mustered.asked
  rw [hTasks] at hAsked
  have hBound : t.request < p.requests.length :=
    List.mem_range.mp (hAsked.mem_iff.mp (List.mem_map_of_mem hTask))
  have hRequest : p.requests[t.request]? = some p.requests[t.request] :=
    List.getElem?_eq_getElem hBound
  have hState : w.requestState 0 t.request = some p.requests[t.request].state := by
    have hFound : w.pools[0]? = some p := h.found
    simp [requestState, hFound, hRequest]
  have hMem := List.getElem_mem hBound
  refine List.any_eq_true.mpr ⟨_, hMem, ?_⟩
  obtain ⟨hUngranted, hUnrefused⟩ := hUnanswered t hTask hRuns _ hState
  have hUnlost := h.unlost _ hMem
  cases hIs : p.requests[t.request].state <;>
    simp [hIs, RequestState.granted?, RequestState.isRefused, RequestState.isLost,
      RequestState.isLive] at hUngranted hUnrefused hUnlost ⊢

/-- Nobody waits any longer once every task has ended. -/
theorem awaitTasks_of_ended {peer : γ → Option String} {tasks' : List ProbeTask}
    (hConcluded : concludeAll peer pool tasks w.settle = (tasks', w'))
    (hEnded : tasks'.all (fun t => t.outcome.isSome) = true) :
    w.awaitTasks peer pool tasks = some (tasks', w') := by
  rw [awaitTasks.eq_1, hConcluded]
  exact if_pos hEnded

/-- As long as a task runs, time jumps to the next moment at which something is due. -/
theorem awaitTasks_of_running {peer : γ → Option String} {tasks' : List ProbeTask}
    {moment : Instant} (hConcluded : concludeAll peer pool tasks w.settle = (tasks', w'))
    (hRuns : tasks'.all (fun t => t.outcome.isSome) = false)
    (hDue : w'.nextDue = some moment) :
    w.awaitTasks peer pool tasks = (w'.passTo moment).awaitTasks peer pool tasks' := by
  rw [awaitTasks.eq_1, hConcluded]
  refine (if_neg (Bool.eq_false_iff.mp hRuns)).trans ?_
  rw [hDue]

/-- A probe that was started comes to its end: from moment to moment there is less to do for the
requests of the pool, or the same and less time to wait. -/
theorem awaitTasks_spec (peer : γ → Option String) (h : Lone w p) (hAlert : p.Alert)
    (hUnderway : Underway 0 endpoints ⟨tasks.map some, w⟩ p) :
    ∃ tasks' w', w.awaitTasks peer 0 tasks = some (tasks', w') ∧
      Course 0 endpoints ⟨tasks.map some, w⟩ ⟨tasks'.map some, w'⟩ ∧
      ∀ t ∈ tasks', t.outcome.isSome = true := by
  generalize hLeft : left w p = left
  induction left using WellFoundedLT.induction generalizing tasks w p with
  | ind left ih =>
      obtain ⟨q, hq, hAdvanced⟩ := h.settle
      obtain ⟨p', hp', hStalled, hSteady⟩ := concludeAll_lone peer tasks hq
      have hUnanswered := concludeAll_unanswered peer tasks hq
      have hSettle : Course 0 endpoints ⟨tasks.map some, w⟩ ⟨tasks.map some, w.settle⟩ :=
        course_of_goesTo (settle_goesTo w)
      have hReached := hSettle.trans (concludeAll_course peer 0 [] tasks w.settle)
      obtain ⟨tasks', w', hConcluded⟩ :
          ∃ tasks' w', concludeAll peer 0 tasks w.settle = (tasks', w') := ⟨_, _, rfl⟩
      rw [hConcluded] at hp' hStalled hUnanswered hReached
      dsimp only [List.nil_append] at *
      cases hAll : tasks'.all fun t => t.outcome.isSome with
      | true => exact ⟨tasks', w', awaitTasks_of_ended hConcluded hAll, hReached,
          List.all_eq_true.mp hAll⟩
      | false =>
          obtain ⟨t, hTask, hRuns⟩ : ∃ t ∈ tasks', t.outcome = none := by simpa using hAll
          obtain ⟨p'', hUnderway'⟩ := hUnderway.course hReached
          cases hp'.found.symm.trans hUnderway'.found
          have hLive := live_of_running hUnderway' hUnanswered hTask hRuns
          obtain ⟨hAlert', moment, hDue, hLess⟩ :=
            hAdvanced.next h hAlert hq hStalled hp' hSteady hLive
          have hPass : Step 0 endpoints ⟨tasks'.map some, w'⟩
            ⟨tasks'.map some, w'.perform (.pass moment)⟩ := .went trivial
          have hPassed : Lone (w'.perform (.pass moment)) p' := hp'.perform hp'.found nofun nofun
          obtain ⟨p'', hNext⟩ := hUnderway'.step hPass
          cases hPassed.found.symm.trans hNext.found
          obtain ⟨tasks'', w'', hAwaited, hRest, hEnded⟩ :=
            ih _ (hLeft ▸ hLess) hPassed hAlert' hNext rfl
          exact ⟨tasks'', w'', (awaitTasks_of_running hConcluded hAll hDue).trans hAwaited,
            hReached.trans (.head hPass hRest), hEnded⟩

/-! ### The report -/

/-- A faithful report is printed and concluded as its outcomes are: what is printed says of each of
them, in their order, what came of it, and then the numbers of the pool; and the command fails
exactly if some outcome did, and says how many of the endpoints these were. -/
structure Accounted (endpoints : List String) (r : ProbeReport) : Prop
    extends Faithful endpoints r where
  printed : ∀ format, r.Printed format (Output.ofReport r format).text
  concluded : ∀ format, (Output.ofReport r format).conclusion =
    if r.outcomes.all ProbeOutcome.connected then .done
    else .failed [toString (r.outcomes.countP fun o => !o.connected) ++ " of " ++
      toString endpoints.length ++ " endpoint(s) unreachable"]

omit [Dialer δ γ] in
theorem Faithful.accounted {r : ProbeReport} (h : Faithful endpoints r) :
    Accounted endpoints r := by
  refine ⟨h, r.print_printed, fun format => ?_⟩
  have hLength : r.outcomes.length = endpoints.length := by
    simpa using congrArg List.length h.placed
  have hCount : (r.outcomes.filter fun o => !o.connected).length =
      r.outcomes.countP fun o => !o.connected := List.countP_eq_length_filter.symm
  have hAll : r.outcomes.all ProbeOutcome.connected = true ↔
      ¬0 < r.outcomes.countP fun o => !o.connected := by
    simp [List.countP_pos_iff]
  simp only [Output.ofReport, ProbeReport.complaint?, hCount, hLength]
  split
  · next hComplaint =>
    split at hComplaint
    · next hSome =>
      cases hComplaint
      rw [if_neg (mt hAll.mp (not_not.mpr hSome))]
    · cases hComplaint
  · next hNone =>
    split at hNone
    · cases hNone
    · next hNot => rw [if_pos (hAll.mpr hNot)]

/-- A world with nothing in it but a pool that was just opened. -/
theorem lone_of_openPool {linger : Duration} {env : Surroundings δ} (hClock : env.clock = .system)
    (hOpened : World.openPool linger { env } = .ok (pool, w)) :
    pool = 0 ∧ Lone w { linger := linger } ∧ IsNew ({ linger := linger } : Pool γ) := by
  have hSome : linger ≠ 0 := by
    rintro rfl
    cases hOpened
  have hPools : w = { env, pools := [{ linger }] } := by
    have hPerform := perform_openPool_eq linger ({ env } : World δ γ)
    rw [if_neg hSome] at hPerform
    simpa [perform, hOpened] using hPerform
  have hReachable : w.Reachable := ⟨env, [.openPool linger], by simp [performAll, perform, hOpened]⟩
  have hNumber : pool = 0 := by
    simp only [World.openPool, Pool.ofLinger, if_neg hSome] at hOpened
    cases hOpened
    rfl
  subst hPools
  exact ⟨hNumber, ⟨hReachable, hClock, rfl, rfl⟩, linger, rfl, Nat.pos_of_ne_zero hSome⟩

/-- A probe through a pool that was just opened takes some course, to its end, and reports what it
came to. -/
theorem run_course {linger : Duration} (peer : γ → Option String) (hLone : Lone w { linger })
    (hNew : IsNew ({ linger } : Pool γ)) (endpoints : List String) :
    ∃ s p, Course 0 endpoints (unstarted endpoints w) s ∧ s.Ended ∧ s.world.pools[0]? = some p ∧
      (run peer 0 endpoints w).1 = s.report p := by
  have hUnderway : Underway 0 endpoints (unstarted endpoints w) { linger } :=
    underway_unstarted hLone.reachable hLone.clock hLone.found hNew
  have hStart : Course 0 ([] ++ endpoints) ⟨[] ++ List.replicate endpoints.length none, w⟩ _ :=
    start_course peer rfl hUnderway
  obtain ⟨q, hq, hRoused⟩ := start_lone peer endpoints hLone ⟨rfl, rfl, .inl ⟨rfl, rfl⟩⟩
  obtain ⟨q', hStarted⟩ := hUnderway.course hStart
  cases hq.found.symm.trans hStarted.found
  obtain ⟨tasks, w', hAwaited, hRest, hEnded⟩ := awaitTasks_spec peer hq hRoused.alert hStarted
  obtain ⟨p, hp⟩ := hStarted.course hRest
  refine ⟨⟨tasks.map some, w'⟩, p, hStart.trans hRest, ⟨tasks, rfl, hEnded⟩, hp.found, ?_⟩
  have hTasks : (tasks.map some).reduceOption = tasks := by simp [List.reduceOption]
  have hFound : w'.pools[0]? = some p := hp.found
  simp [run, hAwaited, Stage.report, hTasks, hFound]

/-- Any course to the end comes to a report that accounts for the endpoints. -/
theorem course_accounted {linger : Duration} (hLone : Lone w { linger })
    (hNew : IsNew ({ linger } : Pool γ)) (hCourse : Course 0 endpoints (unstarted endpoints w) s)
    (hEnded : s.Ended) (hp : s.world.pools[0]? = some p) : Accounted endpoints (s.report p) := by
  obtain ⟨p', h⟩ :=
    (underway_unstarted hLone.reachable hLone.clock hLone.found hNew).course hCourse
  cases hp.symm.trans h.found
  exact (h.faithful hEnded).accounted

/-- The command prints a report that accounts for the endpoints, and concludes by it. -/
theorem perform_accounted {settings : Settings} {network : Network} {number : Nat}
    {w : World NetworkDialer NetworkConnection}
    (hOpened : settings.openPool network = .ok (number, w)) (endpoints : List String)
    (format : OutputFormat) :
    ∃ r, Command.perform settings network format (.probe endpoints) = .ofReport r format ∧
      Accounted endpoints r := by
  obtain ⟨rfl, hLone, hNew⟩ := lone_of_openPool rfl hOpened
  obtain ⟨s, p, hCourse, hEnded, hp, hRun⟩ := run_course (fun c => some c.peer) hLone hNew endpoints
  refine ⟨s.report p, ?_, course_accounted hLone hNew hCourse hEnded hp⟩
  simp only [Command.perform, Settings.probe, hOpened, hRun]

/-- However the tasks of a probe get on, and whatever the dialer comes up with, the report accounts
for every endpoint once they have all ended. A probe that is run gets there, and so does the
command, with whatever settings a pool can be opened. -/
theorem probe_accounted {linger : Duration} {dialer : δ} {policy : RetryPolicy}
    (hOpened : World.openPool linger { env := { factory := { dialer, policy } } } = .ok (pool, w))
    (peer : γ → Option String) (endpoints : List String) :
    (∀ s p, Course pool endpoints (unstarted endpoints w) s → s.Ended →
      s.world.pools[pool]? = some p → Accounted endpoints (s.report p)) ∧
    (∃ s p, Course pool endpoints (unstarted endpoints w) s ∧ s.Ended ∧
      s.world.pools[pool]? = some p ∧ (run peer pool endpoints w).1 = s.report p) ∧
    ∀ (settings : Settings) network number w', settings.openPool network = .ok (number, w') →
      ∀ format, ∃ r, Command.perform settings network format (.probe endpoints) =
        .ofReport r format ∧ Accounted endpoints r := by
  obtain ⟨rfl, hLone, hNew⟩ := lone_of_openPool rfl hOpened
  refine ⟨fun s p => course_accounted hLone hNew, run_course peer hLone hNew endpoints, ?_⟩
  exact fun settings network number w' hOpens => perform_accounted hOpens endpoints

/-- Every dial takes a while, those of `b` fail, and none is repeated. -/
def unreliable : World (FixedDialer String) String where
  env.factory.dialer :=
    FixedDialer.failAlways "b" { connection := "here", latency := Duration.ofMillis 3 }
  env.factory.policy := { initialRetries := 0, subsequentRetries := 0 }

/-- The pool has just been opened, with a linger of a minute. -/
def unreliablePool : World (FixedDialer String) String :=
  { unreliable with pools := [{ linger := Duration.ofSeconds 60 }] }

/-- No host has an address. -/
def unresolved : Network := fun _ _ => .blocked "no such host"

/-- One endpoint is asked for twice, and another one cannot be reached. -/
theorem probe_accounted_twice :
    World.openPool (Duration.ofSeconds 60) unreliable = .ok (0, unreliablePool) ∧
    ∃ r, (run some 0 [" a", "b", "a"] unreliablePool).1 = r ∧ Accounted [" a", "b", "a"] r ∧
      r.outcomes.map ProbeOutcome.endpoint = ["a", "b", "a"] ∧
      (Output.ofReport r .text).text = "\n".intercalate [
        "OK    a                                   3ms  peer=here",
        "FAIL  b                                   3ms  Failed to connect to b after 1 attempt(s)" ++
          ": Endpoint refused connection: scripted failure for b",
        "OK    a                                   3ms  peer=here",
        "pool: created=1 reused=1 failed=1 evicted=0 invalidated=0 live=1 borrows=0", ""] ∧
      (Output.ofReport r .json).text = "\n".intercalate [
        "\x7b",
        "  \"outcomes\": [",
        "    \x7b",
        "      \"endpoint\": \"a\",",
        "      \"connected\": true,",
        "      \"latency_ms\": 3,",
        "      \"peer\": \"here\"",
        "    \x7d,",
        "    \x7b",
        "      \"endpoint\": \"b\",",
        "      \"connected\": false,",
        "      \"latency_ms\": 3,",
        "      \"error\": \"Failed to connect to b after 1 attempt(s)" ++
          ": Endpoint refused connection: scripted failure for b\"",
        "    \x7d,",
        "    \x7b",
        "      \"endpoint\": \"a\",",
        "      \"connected\": true,",
        "      \"latency_ms\": 3,",
        "      \"peer\": \"here\"",
        "    \x7d",
        "  ],",
        "  \"stats\": \x7b",
        "    \"total_created\": 1,",
        "    \"total_reused\": 1,",
        "    \"failed_attempts\": 1,",
        "    \"evicted_idle\": 0,",
        "    \"invalidated\": 0,",
        "    \"live_handles\": 1,",
        "    \"outstanding_borrows\": 0",
        "  \x7d",
        "\x7d", ""] ∧
      ∃ told, Command.perform {} unresolved .json (.probe [" a", "b", "a"]) = .ofReport told .json ∧
        Accounted [" a", "b", "a"] told := by
  have hOpened : World.openPool (Duration.ofSeconds 60) unreliable = .ok (0, unreliablePool) := rfl
  obtain ⟨hAll, ⟨s, p, hCourse, hEnded, hp, hRun⟩, hCommand⟩ :=
    probe_accounted hOpened some [" a", "b", "a"]
  have hAccounted := hAll s p hCourse hEnded hp
  rw [← hRun] at hAccounted
  refine ⟨hOpened, _, rfl, hAccounted, hAccounted.placed.trans (by decide +kernel), ?_⟩
  generalize hStarted : start some 0 [" a", "b", "a"] unreliablePool = started
  obtain ⟨tasks, w⟩ := started
  have hTasks : tasks = (start some 0 [" a", "b", "a"] unreliablePool).1 := by rw [hStarted]
  have hWorld : w = (start some 0 [" a", "b", "a"] unreliablePool).2 := by rw [hStarted]
  have hDue : (concludeAll some 0 tasks w.settle).2.nextDue = some (Duration.ofMillis 3) := by
    rw [hTasks, hWorld]
    decide +kernel
  have hAwaited : w.awaitTasks some 0 tasks = some (concludeAll some 0
      (concludeAll some 0 tasks w.settle).1
      ((concludeAll some 0 tasks w.settle).2.passTo (Duration.ofMillis 3)).settle) := by
    rw [awaitTasks_of_running (Prod.eta _).symm (by rw [hTasks, hWorld]; decide +kernel) hDue]
    exact awaitTasks_of_ended (Prod.eta _).symm (by rw [hTasks, hWorld]; decide +kernel)
  simp only [run, hStarted, hAwaited, Option.getD_some]
  rw [hTasks, hWorld]
  exact ⟨by decide +kernel, by decide +kernel, hCommand {} unresolved 0 _ rfl .json⟩

end Probe

end Tether
