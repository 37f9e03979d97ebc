import Tether.Proofs.Blindness
import Tether.Proofs.Frame

/-! How an act meets the factory's memory of endpoints. Somebody asks about an endpoint, a sequence of
dials has its first turn, for which it asks too, or a suspended one has another turn; every act is
one of these or leaves all of it alone. -/

namespace Tether

variable {δ γ : Type}

/-- Whether the event is one of a sequence of dials. -/
def Event.isDial (e : Event) : Bool := decide (e.topic = .dialing)

theorem Event.isDial_eq_false {e : Event} (h : e.topic ≠ .dialing) : e.isDial = false :=
  decide_eq_false h

theorem Event.isDial_of_topic {e : Event} (h : e.topic = .dialing) : e.isDial = true :=
  decide_eq_true h

theorem Event.Serves.not_dialing {e : Event} (h : e.Serves) : e.topic ≠ .dialing := fun hDials => by
  cases h.symm.trans hDials

/-- Where a sequence of dials runs: for a request of a pool, or for a caller of the factory. -/
inductive Place where
  | request (pool index : Nat)
  | creation (index : Nat)
  deriving DecidableEq

/-- How an act meets the factory's memory of endpoints. -/
inductive Encounter where
  | nothing
  /-- Somebody asks for first contact. -/
  | asked (id : String)
  /-- A sequence of dials has its first turn. -/
  | first (place : Place) (id : String)
  /-- A sequence of dials that was suspended has another turn. -/
  | later (place : Place) (s : DialSequence)

namespace Encounter

/-- Where the sequence of dials runs that has its turn. -/
def place? : Encounter → Option Place
  | nothing | asked _ => none
  | first place _ | later place _ => some place

/-- The tier of a sequence of dials to the endpoint that starts now. -/
def tierNow (id : String) (f : Factory δ) : Tier := Factory.tierOf (f.firstContact id).1

/-- What is noted about sequences of dials, the latest first. The first event of a sequence tells
its tier, and all others agree with that tier. -/
def Notes (f : Factory δ) : Encounter → List Event → Prop
  | nothing, log | asked _, log => log = []
  | first _ id, log => ∃ rest,
    log = rest ++ [.dialing id (tierNow id f) (f.policy.maxAttempts (tierNow id f))] ∧
      ∀ e ∈ rest, e.Paced f.policy id (tierNow id f) (f.policy.maxAttempts (tierNow id f))
  | later _ s, log => ∀ e ∈ log, e.Paced f.policy s.endpointId s.tier (f.policy.maxAttempts s.tier)

/-- The endpoints that the factory has seen then. -/
def seenAfter (f : Factory δ) : Encounter → List String
  | nothing | later .. => f.seen
  | asked id | first _ id => (f.firstContact id).2.seen

/-- How the sequence of dials that has its turn may be suspended at the end of it. -/
def Leaves (env : Surroundings δ) : Encounter → DialSequence → Prop
  | nothing, _ | asked _, _ => False
  | first _ id, s => s.Keeps env.factory.policy env.now id (tierNow id env.factory)
      (env.factory.policy.maxAttempts (tierNow id env.factory))
  | later _ s, s' => s' = s ∨ s'.Keeps env.factory.policy env.now s.endpointId s.tier
      (env.factory.policy.maxAttempts s.tier)

/-- Whatever sequence of dials is left was settled before, or is settled now. -/
theorem Leaves.settled {encounter : Encounter} {env : Surroundings δ} {s : DialSequence}
    (h : encounter.Leaves env s)
    (hBefore : ∀ place s', encounter = .later place s' → s'.Settled env.factory.policy) :
    s.Settled env.factory.policy := by
  cases encounter with
  | nothing | asked _ => exact h.elim
  | first place id => exact DialSequence.Keeps.settled h
  | later place s' =>
      rcases h with rfl | h
      · exact hBefore place s rfl
      · exact h.settled

end Encounter

/-- The act gives a sequence of dials a turn, or may begin one. -/
def Act.Dials : Act δ → Prop
  | .get .. | .resume .. | .create .. | .resumeCreation _ => True
  | _ => False

theorem Act.Allows.not_dialing {act : Act δ} {e : Event} (h : act.Allows e) (hDials : ¬act.Dials) :
    e.topic ≠ .dialing := by
  cases act with
  | get | resume | create | resumeCreation => exact absurd trivial hDials
  | reap | close =>
      rcases h with hServes | hTends
      · exact hServes.not_dialing
      · intro hDialing
        cases hTends.1.symm.trans hDialing
  | _ => exact Event.Serves.not_dialing h

/-! ### Turns -/

def DialProgress.sequence? : DialProgress γ → Option DialSequence
  | .waiting s => some s
  | _ => none

def RequestState.sequence? : RequestState → Option DialSequence
  | .dialing _ s => some s
  | _ => none

def CreationState.sequence? : CreationState γ → Option DialSequence
  | .running s => some s
  | _ => none

theorem World.sequence?_ofProgress (progress : DialProgress γ) :
    (World.ofProgress progress).sequence? = progress.sequence? := by
  cases progress <;> rfl

namespace Surroundings

/-- From `env` to `env'` this was the encounter, and the sequence of dials that had its turn is
`left`, if it is suspended. -/
structure Meets (encounter : Encounter) (env env' : Surroundings δ) (left : Option DialSequence) :
    Prop where
  noted : ∃ fresh, env'.events = fresh ++ env.events ∧
    encounter.Notes env.factory (fresh.filter Event.isDial)
  seen : env'.factory.seen = encounter.seenAfter env.factory
  leaves : ∀ s, left = some s → encounter.Leaves env s

variable {encounter : Encounter} {env env' env'' : Surroundings δ} {left : Option DialSequence}

/-- Nothing about sequences of dials is noted, and the factory is left alone. -/
structure Silent (env env' : Surroundings δ) : Prop
    extends Recorded (fun e => e.topic ≠ .dialing) env env' where
  factory : env'.factory = env.factory

theorem Silent.refl (env : Surroundings δ) : Silent env env := ⟨.refl env, rfl⟩

theorem Apart.silent (h : Apart Event.Serves env env') : Silent env env' :=
  ⟨h.toRecorded.mono fun _ => Event.Serves.not_dialing, h.factory⟩

theorem Silent.filter (h : Silent env env') : ∃ fresh, env'.events = fresh ++ env.events ∧
    fresh.filter Event.isDial = [] := by
  obtain ⟨fresh, hFresh, hNone⟩ := h.events
  refine ⟨fresh, hFresh, List.filter_eq_nil_iff.mpr fun e he => ?_⟩
  rw [Event.isDial_eq_false (hNone e he)]
  nofun

theorem Silent.meets (h : Silent env env') : Meets .nothing env env' none := by
  obtain ⟨fresh, hFresh, hNone⟩ := h.filter
  exact ⟨⟨fresh, hFresh, hNone⟩, congrArg Factory.seen h.factory, nofun⟩

theorem Meets.after (h : Meets encounter env' env'' left) (first : Silent env env') :
    Meets encounter env env'' left := by
  obtain ⟨late, hLate, hNotes⟩ := h.noted
  obtain ⟨early, hEarly, hNone⟩ := first.filter
  rw [first.factory] at hNotes
  refine ⟨⟨late ++ early, by simp [hLate, hEarly], ?_⟩, ?_, fun s hs => ?_⟩
  · rw [List.filter_append, hNone, List.append_nil]
    exact hNotes
  · rw [← first.factory]
    exact h.seen
  · have hLeaves := h.leaves s hs
    cases encounter with
    | nothing | asked _ => exact hLeaves.elim
    | first place id | later place s' =>
        unfold Encounter.Leaves at hLeaves ⊢
        rw [first.factory, first.now] at hLeaves
        exact hLeaves

theorem Meets.before {left' : Option DialSequence} (h : Meets encounter env env' left)
    (second : Silent env' env'') (hLeft : ∀ s, left' = some s → left = some s) :
    Meets encounter env env'' left' := by
  obtain ⟨early, hEarly, hNotes⟩ := h.noted
  obtain ⟨late, hLate, hNone⟩ := second.filter
  refine ⟨⟨late ++ early, by simp [hLate, hEarly], ?_⟩, ?_, fun s hs => h.leaves s (hLeft s hs)⟩
  · rw [List.filter_append, hNone, List.nil_append]
    exact hNotes
  · rw [second.factory]
    exact h.seen

end Surroundings

namespace DialSequence

open Surroundings

variable [Dialer δ γ]

theorem start_meets (place : Place) (id : String) (told : Bool) (env : Surroundings δ) :
    Meets (.first place id) env (start (γ := γ) id told env).2
      (start (γ := γ) id told env).1.sequence? := by
  obtain ⟨⟨fresh, hFresh, hPaced⟩, ⟨dialer, hFactory⟩, hWaits⟩ :=
    start_begins (γ := γ) id told env
  refine ⟨⟨_, hFresh.trans (List.append_cons ..), fresh, ?_, hPaced⟩, by rw [hFactory]; rfl, ?_⟩
  · rw [List.filter_append, List.filter_eq_self.mpr fun e he =>
      Event.isDial_of_topic (hPaced e he).topic]
    rfl
  · intro s hs
    cases hProgress : (start (γ := γ) id told env).1 with
    | waiting s' =>
        rw [hProgress] at hs
        cases hs
        exact hWaits s hProgress
    | _ =>
        rw [hProgress] at hs
        cases hs

theorem resume_meets (place : Place) (told : Bool) {s : DialSequence} {env : Surroundings δ}
    (hSettled : s.Settled env.factory.policy) :
    Meets (.later place s) env (s.resume (γ := γ) told env).2
      (s.resume (γ := γ) told env).1.sequence? := by
  rcases resume_goes (γ := γ) told s env with hSame | ⟨most, ⟨hNoted, ⟨dialer, hFactory⟩, hWaits⟩, hMost⟩
  · rw [hSame]
    refine ⟨⟨[], rfl, by simp [Encounter.Notes]⟩, rfl, ?_⟩
    rintro _ ⟨⟩
    exact Or.inl rfl
  · rw [hMost hSettled] at hNoted hWaits
    obtain ⟨fresh, hFresh, hPaced⟩ := hNoted.events
    refine ⟨⟨fresh, hFresh, fun e he => hPaced e (List.mem_of_mem_filter he)⟩, by rw [hFactory]; rfl, ?_⟩
    intro s' hs
    cases hProgress : (s.resume (γ := γ) told env).1 with
    | waiting s'' =>
        rw [hProgress] at hs
        cases hs
        exact Or.inr (hWaits s' hProgress)
    | _ =>
        rw [hProgress] at hs
        cases hs

end DialSequence

namespace Pool

/-- The sequence of dials for a request, while it is suspended. -/
def sequenceAt (index : Nat) (p : Pool γ) : Option DialSequence :=
  p.requests[index]?.bind fun r => r.state.sequence?

variable {allowed : Prop} {clock : Option Instant} {number index : Nat} {act : Act δ}
  {p p' : Pool γ} {s : DialSequence}

/-- Only the turns of a request begin its sequence of dials or take it further. -/
theorem Change.sequenceAt (h : Change allowed clock number act p p')
    (hResume : act ≠ .resume number index) (hGet : ∀ id, act ≠ .get number id)
    (hs : p'.sequenceAt index = some s) : p.sequenceAt index = some s := by
  obtain ⟨r', hr', hs'⟩ := Option.bind_eq_some_iff.mp hs
  cases hr : p.requests[index]? with
  | none =>
      obtain ⟨_, hAct, _⟩ := h.request_of_new hr hr'
      exact absurd hAct (hGet _)
  | some r =>
      by_cases hDrop : act = .drop number index
      · subst hDrop
        rcases h.request_of_drop hr with hSame | hDropped
        · cases hr'.symm.trans hSame
          exact Option.bind_eq_some_iff.mpr ⟨r', hr, hs'⟩
        · cases hr'.symm.trans hDropped
          cases hs'
      · cases hr'.symm.trans (h.request_of_unmoved (fun _ => ⟨hResume, hDrop⟩) hr)
        exact Option.bind_eq_some_iff.mpr ⟨r', hr, hs'⟩

end Pool

namespace Site

open Surroundings Pool

theorem rousedEnv_silent (s : Site δ γ) : Silent s.env s.rousedEnv := by
  rcases s.rousedEnv_eq with hSame | ⟨_, _, hNoted⟩
  · rw [hSame]
    exact .refl _
  · rw [hNoted]
    exact ⟨(noted_note (by nofun) s.env).toRecorded, rfl⟩

theorem Aloof.meets {env : Surroundings δ} {turn : RequestState × Site δ γ} (h : Aloof env turn) :
    Meets .nothing env turn.2.env turn.1.sequence? := by
  refine (h.apart.silent.meets).before (.refl _) fun s hs => ?_
  cases hState : turn.1 with
  | dialing gate s' => exact absurd hState (h.state gate s')
  | _ =>
      rw [hState] at hs
      cases hs

theorem Pursues.meets {encounter : Encounter} {env : Surroundings δ}
    {dials : DialProgress γ × Surroundings δ} {turn : RequestState × Site δ γ}
    (h : Pursues dials turn) (hMeets : Meets encounter env dials.2 dials.1.sequence?) :
    Meets encounter env turn.2.env turn.1.sequence? := by
  refine hMeets.before h.apart.silent fun s hs => ?_
  cases hState : turn.1 with
  | dialing gate s' =>
      rw [hState] at hs
      cases hs
      rw [h.state gate s hState]
      rfl
  | _ =>
      rw [hState] at hs
      cases hs

variable [Dialer δ γ]

/-- A new request meets the factory's memory only if the pool is open and has neither a handle nor a
gate for its endpoint, which has to have a name. -/
theorem enter_meets (place : Place) (id : String) (s : Site δ γ) :
    Meets .nothing s.env (s.enter id).2.env (s.enter id).1.sequence? ∨
      s.pool.Lacks id ∧ id ≠ "" ∧
        Meets (.first place id) s.env (s.enter id).2.env (s.enter id).1.sequence? := by
  rcases enter_pursues id s with ⟨_, hAloof⟩ | ⟨hLacks, hNamed, hPursues⟩
  · exact Or.inl (hAloof.meets.after s.rousedEnv_silent)
  · refine Or.inr ⟨hLacks, hNamed, (hPursues.meets ?_).after s.rousedEnv_silent⟩
    exact DialSequence.start_meets place id _ _

/-- A request that waited meets it only if it finds neither handle nor gate. -/
theorem pass_meets (place : Place) (gate : Nat) (id : String) (s : Site δ γ) :
    Meets .nothing s.env (s.pass gate id).2.env (s.pass gate id).1.sequence? ∨
      s.pool.Lacks id ∧
        Meets (.first place id) s.env (s.pass gate id).2.env (s.pass gate id).1.sequence? := by
  rcases pass_pursues gate id s with hAloof | ⟨hLacks, hPursues⟩
  · exact Or.inl hAloof.meets
  · refine Or.inr ⟨hLacks, hPursues.meets ?_⟩
    exact (DialSequence.start_meets place id _ _).after (serves_note rfl s.env).silent

theorem get_sequenceAt (id : String) (s : Site δ γ) (index : Nat) :
    (s.get id).2.pool.sequenceAt index =
      if index = s.pool.requests.length then (s.enter id).1.sequence?
      else s.pool.sequenceAt index := by
  have hRequests : (s.get id).2.pool.requests =
      s.pool.requests ++ [{ endpointId := id, state := (s.enter id).1 }] :=
    congrArg (· ++ _) (s.enter_spec id).2.requests_eq
  unfold Pool.sequenceAt
  rw [hRequests]
  split
  · next hIndex =>
    rw [hIndex, List.getElem?_concat_length]
    rfl
  · next hIndex =>
    rw [List.getElem?_append]
    split
    · rfl
    · next hBeyond =>
      have hNone : s.pool.requests[index]? = none := List.getElem?_eq_none (by omega)
      rw [hNone, List.getElem?_singleton, if_neg (by omega)]

theorem resume_sequenceAt_of_ne {index other : Nat} (hOther : other ≠ index) (s : Site δ γ) :
    (s.resume index).pool.sequenceAt other = s.pool.sequenceAt other := by
  have hKept {q : Pool γ} {state : RequestState} (hSame : q.requests = s.pool.requests) :
      (q.setRequest index state).sequenceAt other = s.pool.sequenceAt other := by
    unfold Pool.sequenceAt
    rw [setRequest_of_ne hOther.symm, hSame]
  unfold resume
  split
  · next id gate _ => exact hKept (pass_spec gate id s).2.requests_eq
  · next id gate sequence _ =>
    obtain ⟨_, q, hScanned, hFollowed⟩ := follow_spec gate id sequence.endpointId
      (sequence.resume (γ := γ) s.pool.shutdown s.env).1
      { s with env := (sequence.resume s.pool.shutdown s.env).2 }
      fun _ h => DialSequence.resume_endpointId h
    exact hKept (hFollowed.requests_eq.trans hScanned.requests_eq)
  · rfl

/-- In a later turn a request meets the factory's memory if it has to dial in another one's place,
or it takes its own sequence of dials further. -/
theorem resume_meets (place : Place) {index : Nat} {s : Site δ γ}
    (hSettled : ∀ q, s.pool.sequenceAt index = some q → q.Settled s.env.factory.policy) :
    ∃ encounter : Encounter,
      Meets encounter s.env (s.resume index).env ((s.resume index).pool.sequenceAt index) ∧
      (encounter = .nothing ∨
        (∃ id gate, encounter = .first place id ∧ s.pool.Lacks id ∧
          s.pool.requests[index]? = some { endpointId := id, state := .waiting gate }) ∨
        ∃ q, encounter = .later place q ∧ s.pool.sequenceAt index = some q) := by
  have hLeft {q : Pool γ} {id : String} {old state : RequestState}
      (hOld : s.pool.requests[index]? = some { endpointId := id, state := old })
      (hSame : q.requests = s.pool.requests) :
      (q.setRequest index state).sequenceAt index = state.sequence? := by
    have hBound := (List.getElem?_eq_some_iff.mp hOld).1
    unfold Pool.sequenceAt
    rw [requests_setRequest (hSame ▸ hOld), hSame, List.getElem?_set_self hBound]
    rfl
  unfold resume
  split
  · next id gate hWaits =>
    dsimp only [update]
    rw [hLeft hWaits (pass_spec gate id s).2.requests_eq]
    rcases pass_meets place gate id s with hNothing | ⟨hLacks, hFirst⟩
    · exact ⟨_, hNothing, Or.inl rfl⟩
    · exact ⟨_, hFirst, Or.inr (Or.inl ⟨id, gate, rfl, hLacks, hWaits⟩)⟩
  · next id gate sequence hDials =>
    let dialed : DialProgress γ × Surroundings δ := sequence.resume s.pool.shutdown s.env
    obtain ⟨_, q, hScanned, hFollowed⟩ := follow_spec gate id sequence.endpointId
      dialed.1 { s with env := dialed.2 } fun _ h => DialSequence.resume_endpointId h
    have hRuns : s.pool.sequenceAt index = some sequence := by
      rw [Pool.sequenceAt, hDials]
      rfl
    dsimp only [update]
    rw [hLeft hDials (hFollowed.requests_eq.trans hScanned.requests_eq)]
    refine ⟨.later place sequence, ?_, Or.inr (Or.inr ⟨sequence, rfl, hRuns⟩)⟩
    exact (follow_pursues gate id dialed.1 { s with env := dialed.2 }).meets
      (DialSequence.resume_meets place _ (hSettled sequence hRuns))
  · next hNotWaiting hNotDialing =>
    refine ⟨.nothing, (Silent.refl s.env).meets.before (.refl _) ?_, Or.inl rfl⟩
    intro q hq
    obtain ⟨⟨id, state⟩, hr, hState⟩ := Option.bind_eq_some_iff.mp hq
    cases state with
    | dialing gate q => exact absurd hr (hNotDialing id gate q)
    | _ => cases hState

end Site

namespace World

open Surroundings Pool

variable {α : Type} {w : World δ γ} {number index : Nat} {p : Pool γ} {s : DialSequence}

/-- The sequence of dials at this place, while it is suspended. -/
def sequenceAt (place : Place) (w : World δ γ) : Option DialSequence :=
  match place with
  | .request number index => w.pools[number]?.bind (Pool.sequenceAt index)
  | .creation index => w.creations[index]?.bind fun c => c.state.sequence?

theorem sequenceAt_request (hp : w.pools[number]? = some p) :
    w.sequenceAt (.request number index) = some s ↔ ∃ id gate,
      p.requests[index]? = some { endpointId := id, state := .dialing gate s } := by
  rw [sequenceAt, hp, Option.bind_some, Pool.sequenceAt, Option.bind_eq_some_iff]
  constructor
  · rintro ⟨⟨id, state⟩, hRequest, hState⟩
    cases state with
    | dialing gate s' =>
        cases hState
        exact ⟨id, gate, hRequest⟩
    | _ => cases hState
  · rintro ⟨id, gate, hRequest⟩
    exact ⟨_, hRequest, rfl⟩

/-- Every suspended sequence of dials keeps to its tier. -/
def KeepsPace (w : World δ γ) : Prop :=
  ∀ place s, w.sequenceAt place = some s → s.Settled w.env.factory.policy

/-- How an act can meet the factory's memory of endpoints. -/
inductive Arises (w : World δ γ) : Act δ → Encounter → Prop where
  | nothing {act : Act δ} (silent : ∀ id, act ≠ .firstContact id) : Arises w act .nothing
  | asked (id : String) : Arises w (.firstContact id) (.asked id)
  | created (id : String) (token : Option String) :
      Arises w (.create id token) (.first (.creation w.creations.length) id)
  | got {number : Nat} {id : String} {p : Pool γ} (opened : w.pools[number]? = some p)
      (lacks : p.Lacks id) (named : id ≠ "") :
      Arises w (.get number id) (.first (.request number p.requests.length) id)
  | tookOver {number index gate : Nat} {id : String} {p : Pool γ}
      (opened : w.pools[number]? = some p) (lacks : p.Lacks id)
      (waits : p.requests[index]? = some { endpointId := id, state := .waiting gate }) :
      Arises w (.resume number index) (.first (.request number index) id)
  | resumed {number index : Nat} {s : DialSequence}
      (runs : w.sequenceAt (.request number index) = some s) :
      Arises w (.resume number index) (.later (.request number index) s)
  | resumedCreation {index : Nat} {s : DialSequence}
      (runs : w.sequenceAt (.creation index) = some s) :
      Arises w (.resumeCreation index) (.later (.creation index) s)

theorem probeElsewhere_silent (count : Nat) (w : World δ γ) :
    Silent w.env (w.probeElsewhere count).env :=
  ⟨(probeElsewhere_serves count w).mono fun _ => Event.Serves.not_dialing,
    (probeElsewhere_spec count w).factory⟩

theorem visit_silent (hp : w.pools[number]? = some p) (f : Site δ γ → α × Site δ γ) :
    Silent (f (w.site number p)).2.env (w.visit number f).2.env := by
  unfold visit
  rw [hp]
  dsimp only
  split
  · exact .refl _
  · exact probeElsewhere_silent _ { w with
      env := (f (w.site number p)).2.env
      pools := w.pools.set number (f (w.site number p)).2.pool }

theorem meets_visit {encounter : Encounter} {left : Option DialSequence}
    {f : Site δ γ → α × Site δ γ} (hp : w.pools[number]? = some p)
    (h : Meets encounter (w.site number p).env (f (w.site number p)).2.env left) :
    Meets encounter w.env (w.visit number f).2.env left :=
  (h.before (visit_silent hp f) fun _ => id).after ⟨⟨rfl, rfl, [], rfl, by simp⟩, rfl⟩

section Performing

variable [Dialer δ γ]

/-- What an act comes to as to the sequences of dials. All but the one that has its turn are left as
they are, or are gone. -/
structure Takes (w : World δ γ) (act : Act δ) (encounter : Encounter) : Prop where
  arises : w.Arises act encounter
  meets : Meets encounter w.env (w.perform act).env
    (encounter.place?.bind fun place => (w.perform act).sequenceAt place)
  others : ∀ place s, encounter.place? ≠ some place →
    (w.perform act).sequenceAt place = some s → w.sequenceAt place = some s

/-- Requests that an act does not begin or take further dial as they did. -/
theorem sequenceAt_perform {act : Act δ} (hResume : act ≠ .resume number index)
    (hGet : ∀ id, act ≠ .get number id)
    (h : (w.perform act).sequenceAt (.request number index) = some s) :
    w.sequenceAt (.request number index) = some s := by
  obtain ⟨p', hp', hs⟩ := Option.bind_eq_some_iff.mp h
  cases hp : w.pools[number]? with
  | none =>
      obtain ⟨linger, rfl, _⟩ := (perform_spec act w).opened number p' hp hp'
      cases hs
  | some p =>
      obtain ⟨q, hq, hChange⟩ := (perform_spec act w).pools number p hp
      cases hp'.symm.trans hq
      exact Option.bind_eq_some_iff.mpr ⟨p, hp, hChange.sequenceAt hResume hGet hs⟩

/-- An act that notes nothing about sequences of dials and leaves the memory of the factory alone. -/
theorem Takes.of_silent {act : Act δ} (hNoted : ∀ e ∈ w.noted act, e.topic ≠ .dialing)
    (hSeen : (w.perform act).env.factory.seen = w.env.factory.seen)
    (hAsks : ∀ id, act ≠ .firstContact id)
    (hOthers : ∀ place s, (w.perform act).sequenceAt place = some s →
      w.sequenceAt place = some s) : w.Takes act .nothing := by
  refine ⟨.nothing hAsks, ⟨?_, hSeen, nofun⟩, fun place s _ => hOthers place s⟩
  obtain ⟨fresh, hFresh, _⟩ := perform_allows act w
  rw [noted_eq hFresh] at hNoted
  refine ⟨fresh, hFresh, List.filter_eq_nil_iff.mpr fun e he => ?_⟩
  rw [Event.isDial_eq_false (hNoted e he)]
  nofun

theorem Takes.of_same {act : Act δ} (hSame : w.perform act = w)
    (hAsks : ∀ id, act ≠ .firstContact id) : w.Takes act .nothing := by
  refine .of_silent (fun e he => ?_) (by rw [hSame]) hAsks fun place s hs => ?_
  · rw [noted_of_same hSame] at he
    cases he
  · rw [hSame] at hs
    exact hs

/-- An act on a request: the sequence of dials for the request has its turn, or none has. -/
theorem takes_visit {act : Act δ} {encounter : Encounter} {f : Site δ γ → α × Site δ γ}
    (hp : w.pools[number]? = some p) (hAct : w.perform act = (w.visit number f).2)
    (hConcerns : ∀ other, act.Concerns other ↔ other = number) (hCreates : ¬act.Creates)
    (hArises : w.Arises act encounter)
    (hPlace : encounter = .nothing ∨ encounter.place? = some (.request number index))
    (hPool : (w.perform act).pools[number]? = some (f (w.site number p)).2.pool)
    (hMeets : Meets encounter (w.site number p).env (f (w.site number p)).2.env
      ((f (w.site number p)).2.pool.sequenceAt index))
    (hOthers : ∀ other, other ≠ index →
      (f (w.site number p)).2.pool.sequenceAt other = p.sequenceAt other) :
    w.Takes act encounter := by
  have hAt (other : Nat) : (w.perform act).sequenceAt (.request number other) =
      (f (w.site number p)).2.pool.sequenceAt other := by
    rw [sequenceAt, hPool, Option.bind_some]
  refine ⟨hArises, ?_, fun place s hElse hs => ?_⟩
  · rw [hAct]
    rcases hPlace with rfl | hPlace
    · exact ⟨(meets_visit hp hMeets).noted, (meets_visit hp hMeets).seen, nofun⟩
    · rw [hPlace, Option.bind_some, ← hAct, hAt]
      rw [hAct]
      exact meets_visit hp hMeets
  · cases place with
    | creation creation =>
        rw [sequenceAt, perform_creations hCreates] at hs
        exact hs
    | request pool other =>
        by_cases hPool : pool = number
        · subst hPool
          rw [hAt] at hs
          rw [sequenceAt, hp, Option.bind_some]
          by_cases hOther : other = index
          · subst hOther
            have hLeaves := hMeets.leaves s hs
            rcases hPlace with rfl | hPlace
            · exact hLeaves.elim
            · exact absurd hPlace hElse
          · rw [← hOthers other hOther]
            exact hs
        · obtain ⟨q', hq', hs⟩ := Option.bind_eq_some_iff.mp hs
          cases hq : w.pools[pool]? with
          | none =>
              obtain ⟨linger, rfl, _⟩ := (perform_spec act w).opened pool q' hq hq'
              cases hs
          | some q =>
              obtain ⟨r, hr, hScanned⟩ :=
                perform_elsewhere (mt (hConcerns pool).mp hPool) hq
              cases hq'.symm.trans hr
              refine Option.bind_eq_some_iff.mpr ⟨q, hq, ?_⟩
              unfold Pool.sequenceAt at hs ⊢
              rw [← hScanned.requests_eq]
              exact hs

theorem takes_get (number : Nat) (id : String) (w : World δ γ) :
    ∃ encounter, w.Takes (.get number id) encounter := by
  have hAct : w.perform (.get number id) = (w.visit number (Site.get id)).2 := rfl
  cases hp : w.pools[number]? with
  | none =>
      rw [visit_of_none hp] at hAct
      exact ⟨.nothing, .of_same hAct nofun⟩
  | some p =>
      have hPool := visit_pool hp (Site.get_recorded id (w.site number p))
      have hLeft := Site.get_sequenceAt id (w.site number p)
      have hTakes {encounter : Encounter} (hArises : w.Arises (.get number id) encounter)
          (hPlace : encounter = .nothing ∨
            encounter.place? = some (.request number p.requests.length))
          (hMeets : Meets encounter (w.site number p).env ((w.site number p).enter id).2.env
            ((w.site number p).enter id).1.sequence?) : w.Takes (.get number id) encounter := by
        refine takes_visit hp hAct (fun _ => eq_comm) nofun hArises hPlace hPool ?_
          fun other hOther => (hLeft other).trans (if_neg hOther)
        rw [(hLeft p.requests.length).trans (if_pos rfl)]
        exact hMeets
      rcases Site.enter_meets (.request number p.requests.length) id (w.site number p) with
        hNothing | ⟨hLacks, hNamed, hFirst⟩
      · exact ⟨_, hTakes (.nothing nofun) (Or.inl rfl) hNothing⟩
      · exact ⟨_, hTakes (.got hp hLacks hNamed) (Or.inr rfl) hFirst⟩

theorem takes_resume (number index : Nat) {w : World δ γ}
    (hPace : w.KeepsPace) :
    ∃ encounter, w.Takes (.resume number index) encounter := by
  let f (s : Site δ γ) : Unit × Site δ γ := ((), s.resume index)
  have hAct : w.perform (.resume number index) = (w.visit number f).2 := rfl
  cases hp : w.pools[number]? with
  | none =>
      rw [visit_of_none hp] at hAct
      exact ⟨.nothing, .of_same hAct nofun⟩
  | some p =>
      have hPool := visit_pool (f := f) hp (Site.resume_recorded index (w.site number p))
      have hAt : w.sequenceAt (.request number index) = p.sequenceAt index := by
        rw [sequenceAt, hp, Option.bind_some]
      have hBefore (s : DialSequence) (hs : (w.site number p).pool.sequenceAt index = some s) :
          s.Settled (w.site number p).env.factory.policy :=
        hPace (.request number index) s (hAt.trans hs)
      obtain ⟨encounter, hMeets, hCases⟩ := Site.resume_meets (.request number index) hBefore
      have hTakes (hArises : w.Arises (.resume number index) encounter)
          (hPlace : encounter = .nothing ∨ encounter.place? = some (.request number index)) :
          w.Takes (.resume number index) encounter :=
        takes_visit (f := f) hp hAct (fun _ => eq_comm) nofun hArises hPlace hPool hMeets
          fun other hOther => Site.resume_sequenceAt_of_ne hOther (w.site number p)
      rcases hCases with rfl | ⟨id, gate, rfl, hLacks, hWaits⟩ | ⟨s, rfl, hRuns⟩
      · exact ⟨_, hTakes (.nothing nofun) (Or.inl rfl)⟩
      · exact ⟨_, hTakes (.tookOver hp hLacks hWaits) (Or.inr rfl)⟩
      · exact ⟨_, hTakes (.resumed (hAt.trans hRuns)) (Or.inr rfl)⟩

theorem takes_create (id : String) (token : Option String) (w : World δ γ) :
    w.Takes (.create id token) (.first (.creation w.creations.length) id) := by
  let dials : DialProgress γ × Surroundings δ := DialSequence.start id (w.isCancelled token) w.env
  have hCreations : (w.perform (.create id token)).creations =
      w.creations ++ [{ token, state := ofProgress dials.1 }] := rfl
  refine ⟨.created id token, ?_, fun place s hElse hs => ?_⟩
  · have hLeft : (w.perform (.create id token)).sequenceAt (.creation w.creations.length) =
        dials.1.sequence? := by
      rw [sequenceAt, hCreations, List.getElem?_concat_length]
      exact sequence?_ofProgress dials.1
    show Meets _ _ _ ((w.perform (.create id token)).sequenceAt (.creation w.creations.length))
    rw [hLeft]
    exact DialSequence.start_meets (.creation w.creations.length) id _ w.env
  · cases place with
    | request pool index => exact hs
    | creation index =>
        rw [sequenceAt, hCreations, List.getElem?_append] at hs
        split at hs
        · exact hs
        · next hBeyond =>
          have hIndex : index ≠ w.creations.length := fun h => hElse (by rw [h]; rfl)
          rw [List.getElem?_singleton, if_neg (by omega)] at hs
          cases hs

theorem takes_resumeCreation (index : Nat) {w : World δ γ}
    (hPace : w.KeepsPace) :
    ∃ encounter, w.Takes (.resumeCreation index) encounter := by
  have hPerform : w.perform (.resumeCreation index) = w.resumeCreation index := rfl
  unfold resumeCreation at hPerform
  split at hPerform
  · next token sequence hRunning =>
    let dials : DialProgress γ × Surroundings δ := sequence.resume (w.isCancelled token) w.env
    have hBound := (List.getElem?_eq_some_iff.mp hRunning).1
    have hRuns : w.sequenceAt (.creation index) = some sequence := by
      rw [sequenceAt, hRunning]
      rfl
    refine ⟨.later (.creation index) sequence, .resumedCreation hRuns, ?_, fun place s hElse hs => ?_⟩
    · have hLeft : (w.perform (.resumeCreation index)).sequenceAt (.creation index) =
          dials.1.sequence? := by
        rw [hPerform, sequenceAt, List.getElem?_set_self hBound]
        exact sequence?_ofProgress dials.1
      show Meets _ _ _ ((w.perform (.resumeCreation index)).sequenceAt (.creation index))
      rw [hLeft, hPerform]
      exact DialSequence.resume_meets (.creation index) _ (hPace _ _ hRuns)
    · rw [hPerform] at hs
      cases place with
      | request pool index => exact hs
      | creation other =>
          have hOther : index ≠ other := fun h => hElse (by rw [h]; rfl)
          rw [sequenceAt, List.getElem?_set_ne hOther] at hs
          exact hs
  · exact ⟨.nothing, .of_same hPerform nofun⟩

theorem perform_seen {act : Act δ} (hDials : ¬act.Dials) (hAsks : ∀ id, act ≠ .firstContact id)
    (w : World δ γ) : (w.perform act).env.factory.seen = w.env.factory.seen := by
  by_cases hConcerns : ∃ number, act.Concerns number
  · obtain ⟨number, hConcerns⟩ := hConcerns
    refine congrArg Factory.seen (perform_factory hConcerns (fun id hAct => ?_)
      (fun index hAct => ?_) w)
    · exact hDials (hAct ▸ trivial)
    · exact hDials (hAct ▸ trivial)
  · cases act with
    | openPool linger =>
        rw [perform_openPool_eq]
        split <;> rfl
    | look => exact congrArg Factory.seen (probeElsewhere_spec 1 w).factory
    | create _ _ | resumeCreation _ => exact absurd trivial hDials
    | firstContact id => exact absurd rfl (hAsks id)
    | advance span =>
        rw [perform_advance_eq]
    | dropCreation _ | cancel _ | shutFactory | order _ | mend | pass _ | probe _ => rfl
    | _ => exact absurd ⟨_, rfl⟩ hConcerns

theorem dropCreation_sequenceAt {creation : Nat} {place : Place}
    (h : (w.perform (.dropCreation creation)).sequenceAt place = some s) :
    w.sequenceAt place = some s := by
  cases place with
  | request number index => exact h
  | creation index =>
      obtain ⟨c, hc, hs⟩ := Option.bind_eq_some_iff.mp h
      change (w.creations.modify creation _)[index]? = some c at hc
      by_cases hIndex : creation = index
      · subst hIndex
        rw [List.getElem?_modify_eq] at hc
        obtain ⟨c', hc', rfl⟩ := Option.map_eq_some_iff.mp hc
        refine Option.bind_eq_some_iff.mpr ⟨c', hc', ?_⟩
        split at hs
        · cases hs
        · exact hs
      · rw [List.getElem?_modify_ne _ _ hIndex] at hc
        exact Option.bind_eq_some_iff.mpr ⟨c, hc, hs⟩

/-- Every act meets the factory's memory in some way. -/
theorem perform_takes (act : Act δ) {w : World δ γ}
    (hPace : w.KeepsPace) :
    ∃ encounter, w.Takes act encounter := by
  by_cases hDials : act.Dials
  · cases act with
    | get number id => exact takes_get number id w
    | resume number index => exact takes_resume number index hPace
    | create id token => exact ⟨_, takes_create id token w⟩
    | resumeCreation index => exact takes_resumeCreation index hPace
    | _ => exact hDials.elim
  by_cases hAsks : ∃ id, act = .firstContact id
  · obtain ⟨id, rfl⟩ := hAsks
    exact ⟨.asked id, .asked id, ⟨⟨[], rfl, rfl⟩, rfl, nofun⟩, fun _ _ _ hs => hs⟩
  · have hAsks := not_exists.mp hAsks
    refine ⟨.nothing, .of_silent (fun e he => (noted_allowed he).not_dialing hDials)
      (perform_seen hDials hAsks w) hAsks fun place s hs => ?_⟩
    by_cases hCreates : act.Creates
    · cases act with
      | dropCreation creation => exact dropCreation_sequenceAt hs
      | create _ _ | resumeCreation _ => exact absurd trivial hDials
      | _ => exact hCreates.elim
    · cases place with
      | request number index =>
          refine sequenceAt_perform ?_ ?_ hs
          · rintro rfl
            exact hDials trivial
          · rintro _ rfl
            exact hDials trivial
      | creation index =>
          rw [sequenceAt, perform_creations hCreates] at hs
          exact hs

end Performing

end World

end Tether
