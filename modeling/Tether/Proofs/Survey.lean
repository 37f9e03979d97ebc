import Mathlib.Data.List.ReduceOption
import Mathlib.Logic.Relation
import Tether.Command.Probe
import Tether.Proofs.Answers
import Tether.Proofs.Idleness
import Tether.Proofs.Schedule

/-! Probing endpoints with tasks that get on in any order. Whatever the dials come to and whichever
task ends first, the tasks that have ended agree with the requests that they made, and what they were
granted they have given back. -/

namespace Tether

variable {δ γ : Type}

namespace Probe

open Pool

/-! ### Courses -/

/-- Where a probe stands: the tasks, each at the place of its endpoint once it has been started, and
the world. -/
structure Stage (δ γ : Type) where
  slots : List (Option ProbeTask)
  world : World δ γ

/-- What goes on while endpoints are probed, beside the tasks themselves: turns and the passing of
time, looks at connections, and whatever the dialer and those who hold the registry do. -/
def Lets : Act δ → Prop
  | .pass _ | .connection _ | .hold .. | .order _ => True
  | act => World.IsTurn act

section Courses

variable [Dialer δ γ]

/-- One thing that happens while endpoints are probed through the pool: a task asks for its endpoint,
something goes on by itself, or a task gets its answer and ends. -/
inductive Step (pool : Nat) (endpoints : List String) : Stage δ γ → Stage δ γ → Prop where
  | asked {slots : List (Option ProbeTask)} {w w' : World δ γ} {place request : Nat} {text : String}
      (listed : endpoints[place]? = some text) (vacant : slots[place]? = some none)
      (asks : w.visit pool (Site.get (Text.trimmed text)) = (some request, w')) (started : Instant) :
      Step pool endpoints ⟨slots, w⟩
        ⟨slots.set place (some { endpoint := Text.trimmed text, request, started }), w'⟩
  | went {slots : List (Option ProbeTask)} {w : World δ γ} {act : Act δ} (lets : Lets act) :
      Step pool endpoints ⟨slots, w⟩ ⟨slots, w.perform act⟩
  | connected {slots : List (Option ProbeTask)} {w : World δ γ} {place handle : Nat} {t : ProbeTask}
      (runs : slots[place]? = some (some t)) (unended : t.outcome = none)
      (granted : w.requestState pool t.request = some (.granted handle)) (latency : Duration)
      (peer : Option String) :
      Step pool endpoints ⟨slots, w⟩
        ⟨slots.set place (some { t with
            outcome := some { endpoint := t.endpoint, latency, result := .ok peer } }),
          w.perform (.release pool ⟨pool, handle⟩)⟩
  | failed {slots : List (Option ProbeTask)} {w : World δ γ} {place : Nat} {t : ProbeTask}
      {error : PoolError} (runs : slots[place]? = some (some t)) (unended : t.outcome = none)
      (refused : w.requestState pool t.request = some (.refused error)) (latency : Duration) :
      Step pool endpoints ⟨slots, w⟩
        ⟨slots.set place (some { t with
            outcome := some { endpoint := t.endpoint, latency, result := .error error } }), w⟩

/-- A probe gets from the one stage to the other. -/
def Course (pool : Nat) (endpoints : List String) : Stage δ γ → Stage δ γ → Prop :=
  Relation.ReflTransGen (Step pool endpoints)

end Courses

/-- Every task has been started and has ended. -/
def Stage.Ended (s : Stage δ γ) : Prop :=
  ∃ tasks : List ProbeTask, s.slots = tasks.map some ∧ ∀ t ∈ tasks, t.outcome.isSome = true

/-! ### What holds under way -/

/-- The result is what the caller of a request in this state is told. -/
def Tells : RequestState → Except PoolError (Option String) → Prop
  | .granted _, .ok _ => True
  | .refused error, .error told => told = error
  | _, _ => False

/-- What tasks that have ended were granted. -/
def given (p : Pool γ) (tasks : List ProbeTask) : List Nat :=
  ((tasks.filter fun t => t.outcome.isSome).map ProbeTask.request).filterMap p.grantedTo

/-- The task is one for this endpoint, and so is its outcome. -/
structure Suits (text : String) (t : ProbeTask) : Prop where
  task : t.endpoint = Text.trimmed text
  outcome : ∀ o, t.outcome = some o → o.endpoint = Text.trimmed text

/-- Every task stands at the place of its endpoint, the requests of the pool are those of the tasks,
and tasks that have ended told what became of their requests. -/
structure Mustered (endpoints : List String) (slots : List (Option ProbeTask)) (p : Pool γ) :
    Prop where
  length : slots.length = endpoints.length
  placed : ∀ (place : Nat) t, slots[place]? = some (some t) →
    ∃ text, endpoints[place]? = some text ∧ Suits text t
  asked : (slots.reduceOption.map ProbeTask.request).Perm (List.range p.requests.length)
  told : ∀ t ∈ slots.reduceOption, ∀ o, t.outcome = some o →
    ∃ r, p.requests[t.request]? = some r ∧ Tells r.state o.result

/-- Under way no answer is lost, and what is out of a handle is what running tasks were granted. -/
structure Underway [Dialer δ γ] (pool : Nat) (endpoints : List String) (s : Stage δ γ)
    (p : Pool γ) : Prop where
  reachable : s.world.Reachable
  clock : s.world.env.clock = .system
  found : s.world.pools[pool]? = some p
  open_ : p.closed = false
  mustered : Mustered endpoints s.slots p
  unlost : ∀ r ∈ p.requests, r.state.isLost = false
  lent : ∀ handle,
    p.refCount handle + (given p s.slots.reduceOption).count handle = p.granted.count handle

section Tasks

variable {p p' : Pool γ} {slots : List (Option ProbeTask)} {tasks tasks' : List ProbeTask}
  {t t' : ProbeTask} {place : Nat}

theorem tasks_of_vacant (hVacant : slots[place]? = some none) (t : ProbeTask) :
    (slots.set place (some t)).reduceOption.Perm (t :: slots.reduceOption) := by
  obtain ⟨hBound, hAt⟩ := List.getElem?_eq_some_iff.mp hVacant
  have hSet := (List.set_perm_cons_eraseIdx hBound (some t)).filterMap id
  have hErase := (List.getElem_cons_eraseIdx_perm hBound).filterMap id
  rw [hAt] at hErase
  exact hSet.trans (hErase.cons t)

/-- One task gets another outcome, and the rest are as they were. -/
theorem tasks_of_running (hRuns : slots[place]? = some (some t)) :
    ∃ rest, slots.reduceOption.Perm (t :: rest) ∧
      ∀ t', (slots.set place (some t')).reduceOption.Perm (t' :: rest) := by
  obtain ⟨hBound, hAt⟩ := List.getElem?_eq_some_iff.mp hRuns
  have hErase := (List.getElem_cons_eraseIdx_perm hBound).filterMap id
  rw [hAt] at hErase
  refine ⟨(slots.eraseIdx place).reduceOption, hErase.symm, fun t' => ?_⟩
  exact (List.set_perm_cons_eraseIdx hBound (some t')).filterMap id

theorem given_perm (h : tasks.Perm tasks') : (given p tasks).Perm (given p tasks') :=
  ((h.filter _).map _).filterMap _

theorem given_cons_running (hRuns : t.outcome = none) : given p (t :: tasks) = given p tasks := by
  simp [given, hRuns]

theorem given_cons_ended (hEnded : t.outcome.isSome = true) :
    given p (t :: tasks) = (p.grantedTo t.request).toList ++ given p tasks := by
  cases h : p.grantedTo t.request <;> simp [given, hEnded, h]

theorem given_congr (h : ∀ t ∈ tasks, t.outcome.isSome = true →
    p'.grantedTo t.request = p.grantedTo t.request) : given p' tasks = given p tasks := by
  apply List.filterMap_congr
  simp only [List.mem_map, List.mem_filter]
  rintro _ ⟨t, ⟨hTask, hEnded⟩, rfl⟩
  exact h t hTask hEnded

theorem granted_eq_range (p : Pool γ) :
    p.granted = (List.range p.requests.length).filterMap p.grantedTo := by
  have hRange : (List.range p.requests.length).map (fun i => p.requests[i]?) =
      p.requests.map some := by
    apply List.ext_getElem <;> simp
  have hMap := congrArg (List.filterMap fun r => r.bind fun r => r.state.granted?) hRange
  rw [List.filterMap_map, List.filterMap_map] at hMap
  exact hMap.symm

/-- A task that still runs has not given back what it was granted. -/
theorem count_given_lt {handle : Nat}
    (hAsked : ((t :: tasks).map ProbeTask.request).Perm (List.range p.requests.length))
    (hGranted : p.grantedTo t.request = some handle) :
    (given p tasks).count handle < p.granted.count handle := by
  have hGiven : (given p tasks).count handle ≤
      ((tasks.map ProbeTask.request).filterMap p.grantedTo).count handle :=
    ((List.filter_sublist.map _).filterMap _).count_le handle
  have hAll := (hAsked.filterMap p.grantedTo).count_eq handle
  rw [List.map_cons, List.filterMap_cons_some hGranted, List.count_cons_self,
    ← granted_eq_range] at hAll
  omega

/-! ### What a change leaves of them -/

variable {endpoints : List String} {allowed : Prop} {clock : Option Instant} {number : Nat}
  {act : Act δ} {o : ProbeOutcome}

/-- What tasks told goes on to be what became of their requests. -/
theorem Mustered.told_changed (h : Mustered endpoints slots p)
    (hChange : Change allowed clock number act p p') (hTask : t ∈ slots.reduceOption)
    (hOutcome : t.outcome = some o) :
    ∃ r, p.requests[t.request]? = some r ∧ p'.requests[t.request]? = some r ∧
      Tells r.state o.result := by
  obtain ⟨r, hRequest, hTells⟩ := h.told t hTask o hOutcome
  refine ⟨r, hRequest, hChange.request_of_unmoved (fun hLive => ?_) hRequest, hTells⟩
  cases hState : r.state <;> simp [hState, Tells, RequestState.isLive] at hLive hTells

theorem Mustered.given_changed (h : Mustered endpoints slots p)
    (hChange : Change allowed clock number act p p') :
    given p' slots.reduceOption = given p slots.reduceOption := by
  refine given_congr fun t hTask hEnded => ?_
  obtain ⟨o, hOutcome⟩ := Option.isSome_iff_exists.mp hEnded
  obtain ⟨r, hBefore, hAfter, _⟩ := h.told_changed hChange hTask hOutcome
  rw [grantedTo, grantedTo, hBefore, hAfter]

theorem Mustered.changed (h : Mustered endpoints slots p)
    (hChange : Change allowed clock number act p p') (hGet : ∀ id, act ≠ .get number id) :
    Mustered endpoints slots p' := by
  refine ⟨h.length, h.placed, hChange.requests_length hGet ▸ h.asked, ?_⟩
  intro t hTask o hOutcome
  obtain ⟨r, _, hRequest, hTells⟩ := h.told_changed hChange hTask hOutcome
  exact ⟨r, hRequest, hTells⟩

/-- A task is put at its place. -/
theorem Mustered.placed_set (h : Mustered endpoints slots p) {slot : Option ProbeTask}
    {text : String} (hSlot : slots[place]? = some slot) (hListed : endpoints[place]? = some text)
    (hSuits : Suits text t) (other : Nat) (t' : ProbeTask)
    (hTask : (slots.set place (some t))[other]? = some (some t')) :
    ∃ text, endpoints[other]? = some text ∧ Suits text t' := by
  by_cases hOther : place = other
  · subst hOther
    rw [List.getElem?_set_self (List.getElem?_eq_some_iff.mp hSlot).1] at hTask
    cases hTask
    exact ⟨text, hListed, hSuits⟩
  · rw [List.getElem?_set_ne hOther] at hTask
    exact h.placed other t' hTask

/-- A task that asks gets the request that is new. -/
theorem Mustered.started (h : Mustered endpoints slots p)
    (hChange : Change allowed clock number act p p') {text : String} {started : Instant}
    (hLength : p'.requests.length = p.requests.length + 1) (hVacant : slots[place]? = some none)
    (hListed : endpoints[place]? = some text) :
    Mustered endpoints (slots.set place
      (some { endpoint := Text.trimmed text, request := p.requests.length, started })) p' := by
  have hTasks := tasks_of_vacant hVacant
    { endpoint := Text.trimmed text, request := p.requests.length, started }
  refine ⟨(List.length_set ..).trans h.length, h.placed_set hVacant hListed ⟨rfl, nofun⟩, ?_, ?_⟩
  · rw [hLength, List.range_succ]
    exact (hTasks.map _).trans ((h.asked.cons _).trans (List.perm_append_singleton ..).symm)
  · intro t hTask o hOutcome
    rcases List.mem_cons.mp (hTasks.mem_iff.mp hTask) with rfl | hTask
    · cases hOutcome
    · obtain ⟨r, _, hRequest, hTells⟩ := h.told_changed hChange hTask hOutcome
      exact ⟨r, hRequest, hTells⟩

/-- A task ends with what became of its request. -/
theorem Mustered.ended (h : Mustered endpoints slots p) {r : Request}
    (hRuns : slots[place]? = some (some t)) (hRequest : p.requests[t.request]? = some r)
    (hEndpoint : o.endpoint = t.endpoint) (hTells : Tells r.state o.result) :
    Mustered endpoints (slots.set place (some { t with outcome := some o })) p := by
  obtain ⟨rest, hTasks, hSet⟩ := tasks_of_running hRuns
  obtain ⟨text, hListed, hSuits⟩ := h.placed place t hRuns
  refine ⟨(List.length_set ..).trans h.length, h.placed_set hRuns hListed ⟨hSuits.task, ?_⟩, ?_, ?_⟩
  · rintro _ ⟨⟩
    exact hEndpoint.trans hSuits.task
  · exact ((hSet _).map _).trans ((hTasks.map _).symm.trans h.asked)
  · intro t' hTask o' hOutcome
    rcases List.mem_cons.mp ((hSet _).mem_iff.mp hTask) with rfl | hTask
    · cases hOutcome
      exact ⟨r, hRequest, hTells⟩
    · exact h.told t' (hTasks.mem_iff.mpr (List.mem_cons_of_mem _ hTask)) o' hOutcome

end Tasks

/-! ### Step by step -/

section Underway

variable [Dialer δ γ] {pool : Nat} {endpoints : List String} {slots : List (Option ProbeTask)}
  {w : World δ γ}
  {s s' : Stage δ γ} {p p' : Pool γ} {act : Act δ} {place handle : Nat} {t : ProbeTask}

theorem Underway.change (h : Underway pool endpoints s p)
    (hp' : (s.world.perform act).pools[pool]? = some p') :
    Change (s.world.Scans pool act) (some s.world.env.now) pool act p p' := by
  obtain ⟨q, hq, hChange⟩ := (World.perform_spec act s.world).pools pool p h.found
  cases hp'.symm.trans hq
  rwa [Surroundings.shown, h.clock] at hChange

theorem Underway.lent_performed (h : Underway pool endpoints s p)
    (hp' : (s.world.perform act).pools[pool]? = some p') (handle : Nat)
    (hTakes : World.takes ⟨pool, handle⟩ s.world act = false) :
    p'.refCount handle + (World.returns ⟨pool, handle⟩ s.world act).toNat +
      (given p s.slots.reduceOption).count handle = p'.granted.count handle := by
  have hCount := World.perform_refCount h.reachable ⟨pool, handle⟩ act
  have hLent := h.lent handle
  simp only [World.refCount, World.grants, h.found, hp', hTakes, Option.map_some,
    Option.getD_some, Bool.toNat_false] at hCount
  omega

/-- What goes on by itself neither takes a borrow without a request nor gives one back. -/
theorem Lets.unused (h : Lets act) (ref : HandleRef) : ¬act.Uses ref := by
  rintro (rfl | rfl | ⟨_, rfl⟩) <;> cases h

theorem Underway.went (h : Underway pool endpoints s p) (hLets : Lets act) :
    ∃ p', Underway pool endpoints ⟨s.slots, s.world.perform act⟩ p' := by
  obtain ⟨p', hp', _⟩ := (World.perform_spec act s.world).pools pool p h.found
  have hChange := h.change hp'
  refine ⟨p', h.reachable.perform act, World.perform_system h.clock act, hp', ?_, ?_, ?_,
    fun handle => ?_⟩
  · exact (hChange.closed_eq (by rintro rfl; cases hLets)).trans h.open_
  · exact h.mustered.changed hChange (by rintro id rfl; cases hLets)
  · exact hChange.unlost (by rintro index rfl; cases hLets) h.unlost
  · have hLent := h.lent_performed hp' handle
      (World.takes_of_unused (hLets.unused _))
    rw [World.returns_of_unused (hLets.unused _)] at hLent
    rw [h.mustered.given_changed hChange]
    exact hLent

/-- A task asks the pool for its endpoint. -/
theorem Underway.asked {text : String} {request : Nat} {w' : World δ γ} {started : Instant}
    (h : Underway pool endpoints ⟨slots, w⟩ p) (hListed : endpoints[place]? = some text)
    (hVacant : slots[place]? = some none)
    (hAsks : w.visit pool (Site.get (Text.trimmed text)) = (some request, w')) :
    ∃ p', Underway pool endpoints
      ⟨slots.set place (some { endpoint := Text.trimmed text, request, started }), w'⟩ p' := by
  obtain ⟨hNumber, p', hp', hLength⟩ := World.get_next h.found (Text.trimmed text)
  have hPerform : w.perform (.get pool (Text.trimmed text)) = w' := congrArg Prod.snd hAsks
  obtain rfl : request = p.requests.length :=
    Option.some.inj ((congrArg Prod.fst hAsks).symm.trans hNumber)
  have hTasks := tasks_of_vacant hVacant
    { endpoint := Text.trimmed text, request := p.requests.length, started }
  have hChange := h.change hp'
  subst hPerform
  refine ⟨p', h.reachable.perform (.get pool (Text.trimmed text)), World.perform_system h.clock _,
    hp', (hChange.closed_eq nofun).trans h.open_,
    h.mustered.started hChange hLength hVacant hListed, hChange.unlost nofun h.unlost,
    fun handle => ?_⟩
  have hLent := h.lent_performed hp' handle rfl
  rw [(given_perm hTasks).count_eq, given_cons_running rfl, h.mustered.given_changed hChange]
  exact hLent

/-- A task that was granted a handle has a borrow to give back. -/
theorem Underway.held (h : Underway pool endpoints ⟨slots, w⟩ p)
    (hRuns : slots[place]? = some (some t)) (hUnended : t.outcome = none)
    (hGranted : p.grantedTo t.request = some handle) : 0 < p.refCount handle := by
  obtain ⟨rest, hTasks, _⟩ := tasks_of_running hRuns
  have hLent := h.lent handle
  have hLess := count_given_lt ((hTasks.map _).symm.trans h.mustered.asked) hGranted
  rw [(given_perm hTasks).count_eq, given_cons_running hUnended] at hLent
  omega

/-- A task that was granted a handle gives it back, and ends. -/
theorem Underway.connected {latency : Duration} {peer : Option String}
    (h : Underway pool endpoints ⟨slots, w⟩ p) (hRuns : slots[place]? = some (some t))
    (hUnended : t.outcome = none)
    (hGranted : w.requestState pool t.request = some (.granted handle)) :
    ∃ p', Underway pool endpoints
      ⟨slots.set place (some { t with
          outcome := some { endpoint := t.endpoint, latency, result := .ok peer } }),
        w.perform (.release pool ⟨pool, handle⟩)⟩ p' := by
  obtain ⟨r, hRequest, hState⟩ : ∃ r, p.requests[t.request]? = some r ∧
      r.state = .granted handle := by
    have hFound : w.pools[pool]? = some p := h.found
    simpa [World.requestState, hFound] using hGranted
  have hGrantedTo : p.grantedTo t.request = some handle := by
    simp [grantedTo, hRequest, hState, RequestState.granted?]
  have hShown : w.env.shown = some w.env.now :=
    congrArg (Clock.read w.env.now) (h.clock : w.env.clock = .system)
  have hOk : (w.release pool ⟨pool, handle⟩).1 = some (.ok ()) :=
    World.release_ok h.found h.open_ hShown (h.held hRuns hUnended hGrantedTo)
  obtain ⟨p', hp', _⟩ :=
    (World.perform_spec (.release pool ⟨pool, handle⟩) w).pools pool p h.found
  have hChange := h.change hp'
  have hEnded : Mustered endpoints _ p := h.mustered.ended (o := ⟨t.endpoint, latency, .ok peer⟩)
    hRuns hRequest rfl (by rw [hState]; trivial)
  refine ⟨p', h.reachable.perform (.release pool ⟨pool, handle⟩), World.perform_system h.clock _,
    hp', (hChange.closed_eq (by simp)).trans h.open_, hEnded.changed hChange (by simp),
    hChange.unlost (by simp) h.unlost, fun other => ?_⟩
  obtain ⟨rest, hTasks, hSet⟩ := tasks_of_running hRuns
  have hLent := h.lent_performed hp' other rfl
  rw [(given_perm hTasks).count_eq, given_cons_running hUnended] at hLent
  rw [hEnded.given_changed hChange, (given_perm (hSet _)).count_eq, given_cons_ended rfl,
    List.count_append]
  have hCount : (World.returns ⟨pool, other⟩ w (.release pool ⟨pool, handle⟩)).toNat =
      (some handle).toList.count other := by
    by_cases hOther : handle = other
    · subst hOther
      simp [World.returns, hOk, Except.isOk, Except.toBool]
    · simp [World.returns, hOther]
  rw [hCount] at hLent
  rw [hGrantedTo]
  omega

/-- A task that was refused ends. -/
theorem Underway.failed {latency : Duration} {error : PoolError}
    (h : Underway pool endpoints ⟨slots, w⟩ p) (hRuns : slots[place]? = some (some t))
    (hUnended : t.outcome = none)
    (hRefused : w.requestState pool t.request = some (.refused error)) :
    Underway pool endpoints
      ⟨slots.set place (some { t with
          outcome := some { endpoint := t.endpoint, latency, result := .error error } }), w⟩ p := by
  obtain ⟨r, hRequest, hState⟩ : ∃ r, p.requests[t.request]? = some r ∧
      r.state = .refused error := by
    have hFound : w.pools[pool]? = some p := h.found
    simpa [World.requestState, hFound] using hRefused
  have hNothing : p.grantedTo t.request = none := by
    simp [grantedTo, hRequest, hState, RequestState.granted?]
  refine ⟨h.reachable, h.clock, h.found, h.open_,
    h.mustered.ended hRuns hRequest rfl (by rw [hState]; rfl), h.unlost, fun handle => ?_⟩
  obtain ⟨rest, hTasks, hSet⟩ := tasks_of_running hRuns
  have hLent := h.lent handle
  rw [(given_perm hTasks).count_eq, given_cons_running hUnended] at hLent
  rw [(given_perm (hSet _)).count_eq, given_cons_ended rfl, hNothing]
  exact hLent

theorem Underway.step (h : Underway pool endpoints s p) (hStep : Step pool endpoints s s') :
    ∃ p', Underway pool endpoints s' p' := by
  cases hStep with
  | asked listed vacant asks => exact h.asked listed vacant asks
  | went lets => exact h.went lets
  | connected runs unended granted => exact h.connected runs unended granted
  | failed runs unended refused => exact ⟨p, h.failed runs unended refused⟩

theorem Underway.course (h : Underway pool endpoints s p) (hCourse : Course pool endpoints s s') :
    ∃ p', Underway pool endpoints s' p' := by
  induction hCourse with
  | refl => exact ⟨p, h⟩
  | tail _ last ih =>
      obtain ⟨q, hq⟩ := ih
      exact hq.step last

/-- No task has been started yet. -/
def unstarted (endpoints : List String) (w : World δ γ) : Stage δ γ :=
  ⟨List.replicate endpoints.length none, w⟩

/-- A probe begins through a pool that was just opened. -/
theorem underway_unstarted (hReachable : w.Reachable) (hClock : w.env.clock = .system)
    (hp : w.pools[pool]? = some p) (hNew : World.IsNew p) :
    Underway pool endpoints (unstarted endpoints w) p := by
  obtain ⟨linger, rfl, _⟩ := hNew
  have hNone : (List.replicate endpoints.length (none : Option ProbeTask)).reduceOption = [] :=
    List.reduceOption_replicate_none
  refine ⟨hReachable, hClock, hp, rfl, ⟨List.length_replicate .., ?_, ?_, ?_⟩, nofun, ?_⟩
  · simp [unstarted, List.getElem?_replicate]
  · rw [unstarted, hNone]
    exact .refl _
  · rw [unstarted, hNone]
    nofun
  · rw [unstarted, hNone]
    exact fun _ => rfl

end Underway

/-! ### The end of a course -/

/-- What the probe reports once its tasks have ended. -/
def Stage.report (s : Stage δ γ) (p : Pool γ) : ProbeReport :=
  { outcomes := s.slots.reduceOption.filterMap ProbeTask.outcome, statistics := p.statistics }

/-- The report has one outcome for each endpoint, at its place, and its counters are borne out by the
outcomes. -/
structure Faithful (endpoints : List String) (r : ProbeReport) : Prop where
  placed : r.outcomes.map ProbeOutcome.endpoint = endpoints.map Text.trimmed
  granted : r.statistics.counters.created + r.statistics.counters.reused =
    r.outcomes.countP ProbeOutcome.connected
  failed : r.statistics.counters.failed ≤ r.outcomes.countP fun o => !o.connected
  outstanding : r.statistics.outstanding = 0

theorem Stage.Ended.ended {s : Stage δ γ} (h : s.Ended) :
    s.slots = s.slots.reduceOption.map some ∧
      ∀ t ∈ s.slots.reduceOption, t.outcome.isSome = true := by
  obtain ⟨tasks, hSlots, hEnded⟩ := h
  have hTasks : (tasks.map some).reduceOption = tasks := by simp [List.reduceOption]
  rw [hSlots, hTasks]
  exact ⟨rfl, hEnded⟩

section Ended

variable {endpoints : List String} {slots : List (Option ProbeTask)} {tasks : List ProbeTask}
  {p : Pool γ}

/-- The outcomes are those of the endpoints, in their order. -/
theorem Mustered.outcomes_endpoint (h : Mustered endpoints (tasks.map some) p)
    (hEnded : ∀ t ∈ tasks, t.outcome.isSome = true) :
    (tasks.filterMap ProbeTask.outcome).map ProbeOutcome.endpoint =
      endpoints.map Text.trimmed := by
  have hPlaced (place : Nat) (t : ProbeTask) (hTask : tasks[place]? = some t) :
      ∃ text, endpoints[place]? = some text ∧ Suits text t :=
    h.placed place t (by simp [hTask])
  have hEach (t : ProbeTask) (hTask : t ∈ tasks) :
      t.outcome.map ProbeOutcome.endpoint = some t.endpoint := by
    obtain ⟨place, hPlace⟩ := List.mem_iff_getElem?.mp hTask
    obtain ⟨text, _, hSuits⟩ := hPlaced place t hPlace
    obtain ⟨o, hOutcome⟩ := Option.isSome_iff_exists.mp (hEnded t hTask)
    rw [hOutcome, Option.map_some, hSuits.outcome o hOutcome, hSuits.task]
  rw [List.map_filterMap, List.filterMap_congr hEach, List.filterMap_eq_map']
  apply List.ext_getElem?
  intro place
  rw [List.getElem?_map, List.getElem?_map]
  cases hTask : tasks[place]? with
  | none =>
      have hLength := h.length
      rw [List.length_map] at hLength
      rw [List.getElem?_eq_none_iff, hLength, ← List.getElem?_eq_none_iff] at hTask
      rw [hTask]
      rfl
  | some t =>
      obtain ⟨text, hListed, hSuits⟩ := hPlaced place t hTask
      rw [hListed, Option.map_some, hSuits.task]
      rfl

/-- Connected outcomes are those of tasks that were granted a handle. -/
theorem Mustered.count_connected (h : Mustered endpoints slots p) :
    (slots.reduceOption.filterMap ProbeTask.outcome).countP ProbeOutcome.connected =
      (given p slots.reduceOption).length := by
  rw [List.countP_filterMap, given, List.length_filterMap_eq_countP, List.countP_map,
    List.countP_filter]
  refine List.countP_congr fun t hTask => ?_
  cases hOutcome : t.outcome with
  | none => simp
  | some o =>
      obtain ⟨r, hRequest, hTells⟩ := h.told t hTask o hOutcome
      cases hState : r.state <;> cases hResult : o.result <;>
        simp [hState, hResult, Tells] at hTells <;>
        simp [grantedTo, hRequest, hState, ProbeOutcome.connected, hResult,
          RequestState.granted?]

/-- Once all tasks have ended, they were granted what the pool granted. -/
theorem Mustered.given_perm_granted (h : Mustered endpoints slots p)
    (hEnded : ∀ t ∈ slots.reduceOption, t.outcome.isSome = true) :
    (given p slots.reduceOption).Perm p.granted := by
  rw [given, List.filter_eq_self.mpr hEnded, granted_eq_range]
  exact h.asked.filterMap p.grantedTo

/-- No request is both refused and granted. -/
theorem refusals_add_granted_le (p : Pool γ) :
    p.refusals + p.granted.length ≤ p.requests.length := by
  have hSplit := List.length_eq_countP_add_countP (fun r : Request => r.state.isRefused)
    (l := p.requests)
  have hGranted : p.granted.length ≤
      p.requests.countP fun r => decide ¬r.state.isRefused = true := by
    rw [granted, List.length_filterMap_eq_countP]
    refine List.countP_mono_left fun r _ hGranted => ?_
    cases hState : r.state <;>
      simp [hState, RequestState.granted?, RequestState.isRefused] at hGranted ⊢
  rw [refusals]
  omega

theorem outstanding_of_unheld (hNone : ∀ handle, p.refCount handle = 0) : p.outstanding = 0 := by
  unfold outstanding
  induction p.registry with
  | nil => rfl
  | cons entry rest ih => rw [List.foldr_cons, ih, hNone]

/-- However the tasks got on, the report is true to the endpoints and to what became of them. -/
theorem Underway.faithful [Dialer δ γ] {pool : Nat} {s : Stage δ γ}
    (h : Underway pool endpoints s p) (hEnded : s.Ended) :
    Faithful endpoints (s.report p) := by
  obtain ⟨hSlots, hTasks⟩ := hEnded.ended
  have hConnected := h.mustered.count_connected
  have hGiven := h.mustered.given_perm_granted hTasks
  have hPlaced := (hSlots ▸ h.mustered).outcomes_endpoint hTasks
  refine ⟨hPlaced, ?_, ?_, outstanding_of_unheld fun handle => ?_⟩
  · have hGranted := (h.reachable.balanced h.found).granted
    rw [← hGiven.length_eq, ← hConnected] at hGranted
    exact hGranted
  · have hFailed := h.reachable.failed_le h.found
    have hDisjoint := refusals_add_granted_le p
    have hRequests : p.requests.length = (s.report p).outcomes.length := by
      have hAsked := h.mustered.asked.length_eq
      have hLength := congrArg List.length hPlaced
      have hPlaces := h.mustered.length
      rw [hSlots] at hPlaces
      simp only [List.length_map, List.length_range] at hAsked hLength hPlaces
      exact hAsked.symm.trans (hPlaces.trans hLength.symm)
    have hSplit : (s.report p).outcomes.length = (s.report p).outcomes.countP ProbeOutcome.connected +
        (s.report p).outcomes.countP fun o => !o.connected := by
      simpa using List.length_eq_countP_add_countP ProbeOutcome.connected
        (l := (s.report p).outcomes)
    rw [← hGiven.length_eq, ← hConnected, hRequests, hSplit] at hDisjoint
    have hSame : (s.report p).outcomes = s.slots.reduceOption.filterMap ProbeTask.outcome := rfl
    have hCount : (s.report p).statistics.counters.failed = p.counters.failed := rfl
    rw [← hSame] at hDisjoint
    omega
  · have hLent := h.lent handle
    rw [hGiven.count_eq] at hLent
    omega

end Ended

end Probe

end Tether
