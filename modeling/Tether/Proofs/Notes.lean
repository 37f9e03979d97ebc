import Tether.Proofs.Pace
import Tether.Proofs.Run

/-! What an act notes. Events are about the service of a pool, about a sequence of dials, or about a
reaper; an operation on a pool notes only the first kind, unless it dials or cares for the reaper.
-/

namespace Tether

variable {δ γ : Type}

/-- What an event is about. -/
inductive Topic where
  | serving
  | dialing
  | reaping
  deriving Repr, DecidableEq

namespace Event

/-- What the event is about: a step of a sequence of dials, something in the life of a reaper, or
else the service of a pool. -/
def topic : Event → Topic
  | dialing .. | connected .. | retrying .. | gaveUp .. | cancelled .. => .dialing
  | reaperStarted _ | reaperWoken | scanFinished _ | scanSkipped _ | reaperStopped
  | reaperFailed => .reaping
  | _ => .serving

/-- The event is about the service of a pool. A scan notes only such events, so every operation may
bring them, whichever pool it is on. -/
def Serves (e : Event) : Prop := e.topic = .serving

/-- The event is one in the life of a reaper, but not its first. -/
def Tends (e : Event) : Prop := e.topic = .reaping ∧ ∀ interval, e ≠ .reaperStarted interval

/-- The event is one that caring for a pool and its reaper can bring. -/
def Housekeeps (e : Event) : Prop := e.Serves ∨ e.Tends

/-- The events of a sequence of dials are all about dialing. -/
theorem Paced.topic {policy : RetryPolicy} {id : String} {tier : Tier} {most : Nat} {e : Event}
    (h : e.Paced policy id tier most) : e.topic = .dialing := by
  cases e <;> first | rfl | exact False.elim h

end Event

namespace Surroundings

/-- A step that does not come near the factory, and notes only events of the `allowed` kind. -/
structure Apart (allowed : Event → Prop) (env env' : Surroundings δ) : Prop
    extends Noted allowed env env' where
  factory : env'.factory = env.factory

variable {allowed wider : Event → Prop} {env env' env'' : Surroundings δ}

theorem Apart.refl (env : Surroundings δ) : Apart allowed env env := ⟨.refl env, rfl⟩

theorem Apart.trans (first : Apart allowed env env') (second : Apart allowed env' env'') :
    Apart allowed env env'' :=
  ⟨first.toNoted.trans second.toNoted, second.factory.trans first.factory⟩

/-- Steps can be compared by the widest kind of event that they note. -/
theorem Apart.mono (h : Apart allowed env env') (hWider : ∀ e, allowed e → wider e) :
    Apart wider env env' :=
  ⟨h.toNoted.mono hWider, h.factory⟩

theorem apart_note {event : Event} (h : allowed event) (env : Surroundings δ) :
    Apart allowed env (env.note event) :=
  ⟨noted_note h env, rfl⟩

theorem serves_note {event : Event} (h : event.topic = .serving) (env : Surroundings δ) :
    Apart Event.Serves env (env.note event) :=
  apart_note h env

theorem tends_note {event : Event} (h : event.topic = .reaping)
    (hLater : ∀ interval, event ≠ .reaperStarted interval) (env : Surroundings δ) :
    Apart Event.Housekeeps env (env.note event) :=
  apart_note (Or.inr ⟨h, hLater⟩) env

end Surroundings

namespace DialSequence

open Surroundings

variable [Dialer δ γ]

/-- A sequence of dials that starts notes its start and its attempts, and nothing else. -/
theorem start_dials (id : String) (told : Bool) (env : Surroundings δ) :
    Recorded (fun e => e.topic = .dialing) env (start (γ := γ) id told env).2 := by
  have hNoted := start_noted (γ := γ) id told env
  obtain ⟨fresh, hFresh, hPaced⟩ := (start_begins (γ := γ) id told env).noted
  refine ⟨hNoted.now, hNoted.clock, _, hFresh.trans (List.append_cons ..), fun e he => ?_⟩
  rcases List.mem_append.mp he with he | he
  · exact (hPaced e he).topic
  · rw [List.mem_singleton.mp he]
    rfl

/-- One that goes on notes its further attempts. -/
theorem resume_dials (told : Bool) (s : DialSequence) (env : Surroundings δ) :
    Recorded (fun e => e.topic = .dialing) env (s.resume (γ := γ) told env).2 := by
  rcases resume_goes (γ := γ) told s env with hSame | ⟨most, hGoes, _⟩
  · rw [hSame]
    exact .refl env
  · exact hGoes.noted.toRecorded.mono fun _ => Event.Paced.topic

end DialSequence

namespace Site

open Surroundings Pool

/-! ### The service of a pool -/

/-- A sweep names the handles that it evicts, and that is all it notes. -/
theorem sweep_serves (now : Instant) (s : Site δ γ) :
    Apart Event.Serves s.env (s.sweep now).2.env := by
  have hEvicted (entries : List (String × Nat)) (env : Surroundings δ) :
      Apart Event.Serves env
        (entries.foldl (fun env entry => env.note (.evicted entry.1 (idle now s.pool entry.2)))
          env) := by
    induction entries generalizing env with
    | nil => exact .refl env
    | cons entry rest ih => exact (serves_note rfl env).trans (ih _)
  unfold sweep
  dsimp only
  split
  · exact .refl _
  · exact (hEvicted _ _).trans (serves_note rfl _)

theorem probe_serves (locked : Bool) (s : Site δ γ) :
    Apart Event.Serves s.env (s.probe locked).env := by
  have hPut (result : Except PoolError Nat) (env : Surroundings δ) :
      Apart Event.Serves env { env with probes := result :: env.probes } :=
    ⟨⟨⟨rfl, rfl, [], rfl, by simp⟩, rfl⟩, rfl⟩
  unfold probe
  dsimp only
  split
  · exact hPut _ _
  · split
    · exact hPut _ _
    · split
      · exact .refl _
      · exact (sweep_serves _ s).trans (hPut _ _)

/-- A reading of the clock notes only what a scan in between brings. -/
theorem reading_serves (locked : Bool) (s : Site δ γ) :
    Apart Event.Serves s.env (s.reading locked).2.env := by
  have hCount (env : Surroundings δ) :
      Apart Event.Serves env { env with readings := env.readings + 1 } :=
    ⟨⟨⟨rfl, rfl, [], rfl, by simp⟩, rfl⟩, rfl⟩
  unfold reading
  dsimp only
  split
  · exact (probe_serves locked s).trans (hCount _)
  · exact hCount _

theorem scan_serves (s : Site δ γ) : Apart Event.Serves s.env s.scan.2.env := by
  have hRead := reading_serves true s
  unfold scan
  split
  · exact .refl _
  · split
    · next s' h =>
      rw [h] at hRead
      exact hRead
    · next now s' h =>
      rw [h] at hRead
      exact hRead.trans (sweep_serves now s')

theorem evictIdle_serves (s : Site δ γ) : Apart Event.Serves s.env s.evictIdle.2.env := by
  unfold evictIdle
  split
  · exact .refl _
  · exact scan_serves s

theorem reuse_serves (handle : Nat) (id : String) (s : Site δ γ) :
    Apart Event.Serves s.env (s.reuse handle id).2.env := by
  have hRead := reading_serves true s
  unfold reuse
  split
  · next s' h =>
    rw [h] at hRead
    exact hRead
  · next now s' h =>
    rw [h] at hRead
    exact hRead.trans (serves_note rfl _)

/-- A connection that arrives is created or discarded. The scans come with the two readings of the
clock. -/
theorem receive_serves (gate : Nat) (id : String) (connection : γ) (s : Site δ γ) :
    Apart Event.Serves s.env (s.receive gate id connection).2.env := by
  have hRead := reading_serves false s
  unfold receive
  split
  · next s' h =>
    rw [h] at hRead
    exact hRead
  · next made s' h =>
    rw [h] at hRead
    have hRead' := reading_serves true s'
    split
    · exact hRead.trans (serves_note rfl _)
    · split
      · next s'' h' =>
        rw [h'] at hRead'
        exact hRead.trans hRead'
      · next now s'' h' =>
        rw [h'] at hRead'
        exact (hRead.trans hRead').trans (serves_note rfl _)

theorem drop_serves (index : Nat) (s : Site δ γ) :
    Apart Event.Serves s.env (s.drop index).env := by
  unfold drop
  split <;> exact .refl _

/-! ### Turns of a request -/

/-- A turn without dialing. -/
structure Aloof (env : Surroundings δ) (turn : RequestState × Site δ γ) : Prop where
  apart : Apart Event.Serves env turn.2.env
  state : ∀ gate s, turn.1 ≠ .dialing gate s

/-- What is left of a turn when its sequence of dials has gone as far as it can. -/
structure Pursues (dials : DialProgress γ × Surroundings δ) (turn : RequestState × Site δ γ) :
    Prop where
  apart : Apart Event.Serves dials.2 turn.2.env
  state : ∀ gate s, turn.1 = .dialing gate s → dials.1 = .waiting s

/-- A request for a registered handle ends without dialing. -/
theorem reuse_aloof (handle : Nat) (id : String) (s : Site δ γ) :
    Aloof s.env (s.reuse handle id) := by
  refine ⟨reuse_serves handle id s, ?_⟩
  unfold reuse
  split <;> nofun

/-- A request dials on only where its sequence of dials waits for the next attempt. -/
theorem follow_pursues (gate : Nat) (id : String) (progress : DialProgress γ) (s : Site δ γ) :
    Pursues (progress, s.env) (s.follow gate id progress) := by
  cases progress with
  | waiting sequence =>
      refine ⟨.refl _, ?_⟩
      rintro _ _ ⟨⟩
      rfl
  | connected connection =>
      refine ⟨receive_serves gate id connection s, ?_⟩
      show ∀ _ _, (s.receive gate id connection).1 = _ → _
      unfold receive
      split
      · nofun
      · split
        · nofun
        · split <;> nofun
  | failed error => exact ⟨.refl _, nofun⟩

/-- The surroundings once a new request has seen to the reaper. -/
def rousedEnv (s : Site δ γ) : Surroundings δ := if s.pool.closed then s.env else s.startReaper.env

/-- A request starts the reaper at most once: where the pool is open and the reaper has never run.
-/
theorem rousedEnv_eq (s : Site δ γ) :
    s.rousedEnv = s.env ∨ s.pool.closed = false ∧ s.pool.reaper = .idle ∧
      s.rousedEnv = s.env.note (.reaperStarted s.pool.linger) := by
  unfold rousedEnv
  split
  · exact Or.inl rfl
  · next hOpen =>
    unfold startReaper
    split
    · next hIdle => exact Or.inr ⟨by simpa using hOpen, hIdle, rfl⟩
    · exact Or.inl rfl

variable [Dialer δ γ]

/-- A request that begins to dial goes as far as its sequence does. -/
theorem dial_pursues (id : String) (s : Site δ γ) :
    Pursues (DialSequence.start id s.pool.shutdown s.env) (s.dial id) :=
  follow_pursues s.pool.gates.length id (DialSequence.start id s.pool.shutdown s.env).1
    { s.update (Pool.raiseGate id) with env := (DialSequence.start id s.pool.shutdown s.env).2 }

/-- A request that looks into the registry dials only where the pool lacks the endpoint. -/
theorem look_pursues (id : String) (s : Site δ γ) :
    ¬s.pool.Lacks id ∧ Aloof s.env (s.look id) ∨
      s.pool.Lacks id ∧ Pursues (DialSequence.start id s.pool.shutdown s.env) (s.look id) := by
  unfold look
  split
  · next hClosed =>
    exact Or.inl ⟨fun h => absurd (hClosed.symm.trans h.open_) nofun, .refl _, nofun⟩
  · next hOpen =>
    split
    · next handle hFound =>
      exact Or.inl ⟨fun h => absurd (hFound.symm.trans h.unregistered) nofun, reuse_aloof handle id s⟩
    · next hNone =>
      split
      · next gate hDialed =>
        exact Or.inl ⟨fun h => absurd (hDialed.symm.trans h.undialed) nofun, .refl _, nofun⟩
      · next hUndialed =>
        exact Or.inr ⟨⟨by simpa using hOpen, hNone, hUndialed⟩, dial_pursues id s⟩

/-- A new request dials only where the pool lacks the endpoint and the endpoint has a name. -/
theorem enter_pursues (id : String) (s : Site δ γ) :
    (¬s.pool.Lacks id ∨ id = "") ∧ Aloof s.rousedEnv (s.enter id) ∨
      s.pool.Lacks id ∧ id ≠ "" ∧
        Pursues (DialSequence.start id s.pool.shutdown s.rousedEnv) (s.enter id) := by
  unfold enter rousedEnv
  split
  · next hClosed =>
    exact Or.inl ⟨Or.inl fun h => absurd (hClosed.symm.trans h.open_) nofun, .refl _, nofun⟩
  · next hOpen =>
    dsimp only
    split
    · next hEmpty => exact Or.inl ⟨Or.inr (by simpa using hEmpty), .refl _, nofun⟩
    · next hNamed =>
      have hRoused : s.startReaper.pool = s.pool.roused := (startReaper_spec s).2
      have hLacks : s.startReaper.pool.Lacks id ↔ s.pool.Lacks id := by
        rw [hRoused]
        exact ⟨fun h => ⟨h.open_, h.unregistered, h.undialed⟩,
          fun h => ⟨h.open_, h.unregistered, h.undialed⟩⟩
      rcases look_pursues id s.startReaper with ⟨hNot, hAloof⟩ | ⟨hDials, hPursues⟩
      · exact Or.inl ⟨Or.inl (mt hLacks.mpr hNot), hAloof⟩
      · rw [hRoused] at hPursues
        exact Or.inr ⟨hLacks.mp hDials, by simpa using hNamed, hPursues⟩

/-- A waiter dials only once its gate is open and it finds that the pool lacks the endpoint all the
same. -/
theorem pass_pursues (gate : Nat) (id : String) (s : Site δ γ) :
    Aloof s.env (s.pass gate id) ∨
      s.pool.Lacks id ∧ Pursues
        (DialSequence.start id s.pool.shutdown (s.env.note (.rechecking id))) (s.pass gate id) := by
  have hLook : Aloof s.env ((s.note (.rechecking id)).look id) ∨
      s.pool.Lacks id ∧ Pursues
        (DialSequence.start id s.pool.shutdown (s.env.note (.rechecking id)))
        ((s.note (.rechecking id)).look id) :=
    (look_pursues id (s.note (.rechecking id))).imp_left fun ⟨_, hAloof⟩ =>
      ⟨(serves_note rfl s.env).trans hAloof.apart, hAloof.state⟩
  unfold pass
  split
  · exact Or.inl ⟨.refl _, nofun⟩
  · exact Or.inl ⟨.refl _, nofun⟩
  · exact hLook
  · exact hLook
  · exact Or.inl ⟨.refl _, nofun⟩
  · exact Or.inl ⟨.refl _, nofun⟩

end Site

namespace Site

open Surroundings

/-! ### Turns of a reaper -/

variable {s : Site δ γ}

/-- The reaper scans, and may note how its scan went. -/
theorem reap_housekeeps (s : Site δ γ) : Apart Event.Housekeeps s.env s.reap.env := by
  have hScan : Apart Event.Housekeeps s.env s.scan.2.env := (scan_serves s).mono fun _ => Or.inl
  unfold reap
  split
  · next s' h =>
    rw [h] at hScan
    exact hScan
  · next evicted s' h =>
    rw [h] at hScan
    split
    · exact hScan
    · exact hScan.trans (tends_note rfl (by nofun) _)
  · next error s' h =>
    rw [h] at hScan
    exact hScan.trans (tends_note rfl (by nofun) _)

theorem answerWakes_housekeeps (count : Nat) (s : Site δ γ) :
    Apart Event.Housekeeps s.env (s.answerWakes count).env := by
  induction count generalizing s with
  | zero => exact .refl _
  | succ count ih =>
      unfold answerWakes
      split
      · let woken := (s.update fun p => { p with wakes := p.wakes - 1 }).note .reaperWoken
        have hWoken : Apart Event.Housekeeps s.env woken.env := by
          refine tends_note rfl (fun _ h => ?_) s.env
          cases h
        exact (hWoken.trans (reap_housekeeps woken)).trans (ih _)
      · exact .refl _

theorem sleep_housekeeps (s : Site δ γ) : Apart Event.Housekeeps s.env s.sleep.env := by
  unfold sleep
  split
  · exact .refl _
  · split
    · exact reap_housekeeps s
    · exact .refl _
  · exact .refl _

/-- A whole turn of the reaper never tells of its start. -/
theorem reaperTurn_housekeeps (s : Site δ γ) : Apart Event.Housekeeps s.env s.reaperTurn.env := by
  unfold reaperTurn
  split
  · exact .refl _
  · split
    · exact tends_note rfl (by nofun) _
    · exact (answerWakes_housekeeps _ s).trans (sleep_housekeeps _)

/-- The whole turn of a reaper: a pool that is gone learns it first. -/
def tend (s : Site δ γ) : Site δ γ :=
  (s.update fun p => if World.isGone p then { p with shutdown := true } else p).reaperTurn

theorem tend_housekeeps (s : Site δ γ) : Apart Event.Housekeeps s.env s.tend.env :=
  reaperTurn_housekeeps (s.update _)

/-- A pool that is closed stops its reaper, and then says how many handles it drops. -/
theorem close_housekeeps (s : Site δ γ) : Apart Event.Housekeeps s.env s.close.env := by
  unfold close
  split
  · exact .refl _
  · refine Apart.trans ?_ ((serves_note rfl _).mono fun _ => Or.inl)
    unfold dismissReaper
    dsimp only
    split <;> first | exact .refl _ | exact tends_note rfl (by nofun) _

/-! ### Turns of a request, from beginning to end -/

section Dialing

variable [Dialer δ γ]

/-- Once it has seen to the reaper, a request has nothing more to do with it. -/
theorem get_roused (id : String) (s : Site δ γ) :
    Recorded (fun e => e.topic ≠ .reaping) s.rousedEnv (s.get id).2.env := by
  show Recorded _ s.rousedEnv (s.enter id).2.env
  rcases enter_pursues id s with ⟨_, hAloof⟩ | ⟨_, _, hPursues⟩
  · exact hAloof.apart.toRecorded.mono fun e h h' => by cases h.symm.trans h'
  · exact ((DialSequence.start_dials ..).mono fun e h h' => by cases h.symm.trans h').trans
      (hPursues.apart.toRecorded.mono fun e h h' => by cases h.symm.trans h')

/-- Of the life of the reaper a new request can note the start alone. -/
theorem get_recorded (id : String) (s : Site δ γ) :
    Recorded (fun e => e.topic = .reaping → ∃ interval, e = .reaperStarted interval) s.env
      (s.get id).2.env := by
  refine Recorded.trans ?_ ((get_roused id s).mono fun e h h' => absurd h' h)
  rcases s.rousedEnv_eq with hSame | ⟨_, _, hNoted⟩
  · rw [hSame]
    exact .refl _
  · rw [hNoted]
    exact (noted_note (fun _ => ⟨_, rfl⟩) s.env).toRecorded

/-- A request that goes on has nothing to do with the reaper. -/
theorem resume_recorded (index : Nat) (s : Site δ γ) :
    Recorded (fun e => e.topic ≠ .reaping) s.env (s.resume index).env := by
  have hServes (e : Event) (h : e.Serves) : e.topic ≠ .reaping := fun h' => by
    cases h.symm.trans h'
  have hDials (e : Event) (h : e.topic = .dialing) : e.topic ≠ .reaping := fun h' => by
    cases h.symm.trans h'
  unfold resume
  split
  · next id gate _ =>
    rcases pass_pursues gate id s with hAloof | ⟨_, hPursues⟩
    · exact hAloof.apart.toRecorded.mono hServes
    · refine (Recorded.trans ?_ ((DialSequence.start_dials id s.pool.shutdown
        (s.env.note (.rechecking id))).mono hDials)).trans
          (hPursues.apart.toRecorded.mono hServes)
      exact (noted_note (by nofun) s.env).toRecorded
  · next id gate sequence _ =>
    let resumed : DialProgress γ × Surroundings δ := sequence.resume s.pool.shutdown s.env
    have hPursues := follow_pursues gate id resumed.1 { s with env := resumed.2 }
    exact ((DialSequence.resume_dials ..).mono hDials).trans
      (hPursues.apart.toRecorded.mono hServes)
  · exact .refl _

end Dialing

end Site

/-- The kinds of events that such an act can bring. -/
def Act.Allows : Act δ → Event → Prop
  | .get .., e => e.topic = .reaping → ∃ interval, e = .reaperStarted interval
  | .resume .., e => e.topic ≠ .reaping
  | .create .., e | .resumeCreation _, e => e.topic = .dialing
  | .reap _, e | .close _, e => e.Housekeeps
  | _, e => e.Serves

namespace World

open Surroundings

variable {w : World δ γ}

/-! ### Acts -/

/-- The scans that come with readings of the clock note only the service of the probed pool. -/
theorem probeElsewhere_serves (count : Nat) (w : World δ γ) :
    Recorded Event.Serves w.env (w.probeElsewhere count).env := by
  induction count generalizing w with
  | zero =>
      rw [probeElsewhere_zero]
      exact .refl _
  | succ count ih =>
      unfold probeElsewhere
      split
      · next hCount _ =>
        cases hCount
        split
        · next number _ _ pool _ =>
          let s := Site.probe false { env := w.env, pool }
          exact (Site.probe_serves false { env := w.env, pool }).toRecorded.trans
            (ih { w with env := s.env, pools := w.pools.set number s.pool })
        · exact .refl _
      · exact .refl _

/-- A visit notes what its operation notes, and what comes with scans of other pools. -/
theorem visit_recorded {α : Type} {allowed : Event → Prop} {number : Nat}
    {f : Site δ γ → α × Site δ γ} (hServes : ∀ e : Event, e.Serves → allowed e)
    (hNoted : ∀ p, w.pools[number]? = some p →
      Recorded allowed (w.site number p).env (f (w.site number p)).2.env) :
    Recorded allowed w.env (w.visit number f).2.env := by
  cases hPool : w.pools[number]? with
  | none =>
      rw [visit_of_none hPool]
      exact .refl _
  | some p =>
      have hSite : Recorded allowed w.env (w.site number p).env := ⟨rfl, rfl, [], rfl, by simp⟩
      have hVisit := hSite.trans (hNoted p hPool)
      unfold visit
      rw [hPool]
      dsimp only
      split
      · exact hVisit
      · exact hVisit.trans ((probeElsewhere_serves _ { w with
          env := (f (w.site number p)).2.env
          pools := w.pools.set number (f (w.site number p)).2.pool }).mono hServes)

/-- A call on a handle notes nothing itself, but reads the clock. -/
theorem use_serves {α : Type} (ref : HandleRef) (f : Instant → Handle γ → α × Handle γ)
    (w : World δ γ) : Recorded Event.Serves w.env (w.use ref f).2.env := by
  have hRead : Recorded Event.Serves w.env w.reading.2.env := probeElsewhere_serves 1 w
  unfold use
  split
  · next h =>
    rw [h] at hRead
    exact hRead
  · next h =>
    rw [h] at hRead
    split <;> exact hRead

theorem giveBack_serves (ref : HandleRef) (w : World δ γ) :
    Recorded Event.Serves w.env (w.giveBack ref).2.env := by
  have hUse := use_serves ref Handle.release w
  unfold giveBack
  split
  · next w' h =>
    rw [h] at hUse
    cases w'.handle? ref with
    | none => exact hUse
    | some held => exact hUse.trans (serves_note rfl _).toRecorded
  · exact hUse

section Performing

variable [Dialer δ γ]

/-- Every act only adds to the record, and adds only what it may. -/
theorem perform_allows (act : Act δ) (w : World δ γ) :
    ∃ fresh, (w.perform act).env.events = fresh ++ w.env.events ∧ ∀ e ∈ fresh, act.Allows e := by
  have hSame (w' : World δ γ) (h : w'.env.events = w.env.events) :
      ∃ fresh, w'.env.events = fresh ++ w.env.events ∧ ∀ e ∈ fresh, act.Allows e :=
    ⟨[], h, by simp⟩
  cases act with
  | openPool linger =>
      rw [perform_openPool_eq]
      split <;> exact hSame _ rfl
  | get pool id =>
      refine (visit_recorded (f := Site.get id) ?_ fun p _ => Site.get_recorded id _).events
      exact fun e h h' => by cases h.symm.trans h'
  | resume pool request =>
      refine (visit_recorded (f := fun s => ((), s.resume request)) ?_ fun p _ =>
        Site.resume_recorded request (w.site pool p)).events
      exact fun e h h' => by cases h.symm.trans h'
  | drop pool request =>
      exact (visit_recorded (f := fun s => ((), s.drop request)) (fun _ => id) fun p _ =>
        (Site.drop_serves request (w.site pool p)).toRecorded).events
  | release pool ref =>
      show ∃ fresh, (w.release pool ref).2.env.events = _ ∧ _
      unfold release
      split
      · exact hSame _ rfl
      · exact (giveBack_serves ref w).events
  | report pool ref cause =>
      show ∃ fresh, (w.report pool ref cause).2.env.events = _ ∧ _
      unfold report
      split
      · split
        · exact hSame _ rfl
        · split <;> exact (serves_note rfl w.env).events
      · exact hSame _ rfl
  | evictIdle pool =>
      exact (visit_recorded (fun _ => id) fun p _ =>
        (Site.evictIdle_serves (w.site pool p)).toRecorded).events
  | reap pool =>
      show ∃ fresh, (w.turnReaper pool).env.events = _ ∧ _
      rw [turnReaper_eq]
      exact (visit_recorded (f := fun s => ((), s.tend)) (fun _ => Or.inl) fun p _ =>
        (Site.tend_housekeeps (w.site pool p)).toRecorded).events
  | close pool =>
      exact (visit_recorded (f := fun s => ((), s.close)) (fun _ => Or.inl) fun p _ =>
        (Site.close_housekeeps (w.site pool p)).toRecorded).events
  | borrow ref | connection ref => exact (use_serves ref _ w).events
  | giveBack ref => exact (giveBack_serves ref w).events
  | look => exact (probeElsewhere_serves 1 w).events
  | create id token => exact (DialSequence.start_dials id _ w.env).events
  | resumeCreation creation =>
      show ∃ fresh, (w.resumeCreation creation).env.events = _ ∧ _
      unfold resumeCreation
      split
      · exact (DialSequence.resume_dials ..).events
      · exact hSame _ rfl
  | advance span =>
      rw [perform_advance_eq]
      exact hSame _ rfl
  | abandon _ | wake _ | hold _ _ | dropCreation _ | cancel _ | firstContact _ | shutFactory
  | order _ | mend | pass _ | probe _ => exact hSame _ rfl

/-- The events that the act notes, the latest first. -/
def noted (w : World δ γ) (act : Act δ) : List Event :=
  (w.perform act).env.events.take ((w.perform act).env.events.length - w.env.events.length)

/-- Once it is known what was put on top of the record, this is what the act has noted. -/
theorem noted_eq {act : Act δ} {fresh : List Event}
    (h : (w.perform act).env.events = fresh ++ w.env.events) : w.noted act = fresh := by
  simp [noted, h]

theorem noted_of_same {act : Act δ} (h : w.perform act = w) : w.noted act = [] :=
  noted_eq (congrArg (·.env.events) h)

/-- No act notes an event of another kind than its own. -/
theorem noted_allowed {act : Act δ} {e : Event} (h : e ∈ w.noted act) : act.Allows e := by
  obtain ⟨fresh, hFresh, hAllowed⟩ := perform_allows act w
  rw [noted_eq hFresh] at h
  exact hAllowed e h

end Performing

end World

end Tether
