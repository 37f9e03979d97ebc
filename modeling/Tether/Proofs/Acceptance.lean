import Tether.Proofs.Findings
import Tether.Proofs.Objections
import Tether.Proofs.Origins

/-! What has been accepted is not objected to again. A dialer reads endpoints as the check of
arguments does, and the commands ask their pools for nothing but what was checked. -/

namespace Tether

variable {δ γ : Type}

/-- The error blames what was asked for: it is empty, or no host and port. -/
def PoolError.BlamesForm : PoolError → Prop
  | .invalidEndpointId => True
  | .connect (.exhausted _ _ (.resolve _)) => True
  | _ => False

/-- The request is for an endpoint, and is not refused as if it were not. -/
structure Request.OnForm (r : Request) : Prop where
  named : r.endpointId ≠ ""
  endpoint : ∃ endpoint, Endpoint.ofText r.endpointId = .ok endpoint
  refused : ∀ error, r.state = .refused error → ¬error.BlamesForm

/-- Everybody asked for one of these, and nobody was refused for its form. -/
def Pool.OnForm (ids : List String) (p : Pool γ) : Prop :=
  ∀ r ∈ p.requests, r.endpointId ∈ ids ∧ r.OnForm

def ProbeOutcome.OnForm (o : ProbeOutcome) : Prop :=
  ∀ error, o.result = .error error → ¬error.BlamesForm

/-! ### Errors -/

section Errors

variable {id : String} {endpoint : Endpoint}

theorem Endpoint.ne_empty_of_ofText (h : Endpoint.ofText id = .ok endpoint) : id ≠ "" := by
  rintro rfl
  cases h

/-- The dialer reads the text as it is read here. -/
theorem NetworkDialer.outcome_ne_resolve (h : Endpoint.ofText id = .ok endpoint) (d : NetworkDialer)
    (words : String) : (d.outcome id).2 ≠ .error (.resolve words) := by
  unfold outcome
  rw [h]
  dsimp only
  split
  · nofun
  · split
    · dsimp only
      split <;> nofun
    · nofun

theorem ConnectError.StemsFrom.not_blamesForm {error : ConnectError}
    (h : error.StemsFrom NetworkDialer id) (hForm : Endpoint.ofText id = .ok endpoint) :
    ¬(PoolError.connect error).BlamesForm := by
  cases h with
  | cancelled => exact fun h => h
  | @exhausted attempts ticket dialer last lands =>
      cases last with
      | resolve words => exact absurd lands (dialer.outcome_ne_resolve hForm words)
      | _ => exact fun h => h

theorem PoolError.StemsFrom.not_blamesForm {error : PoolError}
    (h : error.StemsFrom NetworkDialer id) (hForm : Endpoint.ofText id = .ok endpoint) :
    ¬error.BlamesForm := by
  cases h with
  | closed => exact fun h => h
  | unnamed empty => exact absurd empty (Endpoint.ne_empty_of_ofText hForm)
  | failed stems => exact stems.not_blamesForm hForm

end Errors

/-! ### Runs that ask for certain endpoints only -/

/-- If a pool is asked for an endpoint, it is such a one. -/
def Act.AsksFor (kind : String → Prop) : Act δ → Prop
  | .get _ id => kind id
  | _ => True

variable {kind : String → Prop}

theorem Act.asksFor_of_lets {act : Act δ} (h : Probe.Lets act) : act.AsksFor kind := by
  cases act <;> first | exact trivial | exact h.elim

theorem Act.asksFor_of_isTurn (act : Act δ) (h : World.IsTurn act) : act.AsksFor kind := by
  cases act <;> first | exact trivial | exact h.elim

/-- Requests come in only by asking, and are for what was asked for. -/
theorem Pool.Change.asked {allowed : Prop} {clock : Option Instant} {number : Nat} {act : Act δ}
    {p p' : Pool γ} (h : Change allowed clock number act p p') (hAct : act.AsksFor kind)
    (hKind : ∀ r ∈ p.requests, kind r.endpointId) : ∀ r ∈ p'.requests, kind r.endpointId := by
  intro r hr
  obtain ⟨index, hRequest⟩ := List.mem_iff_getElem?.mp hr
  cases hOld : p.requests[index]? with
  | none =>
      obtain ⟨_, rfl, _⟩ := h.request_of_new hOld hRequest
      exact hAct
  | some old => exact h.endpointId_eq hOld hRequest ▸ hKind old (List.mem_of_getElem? hOld)

namespace World

section Asking

variable [Dialer δ γ] {w w' : World δ γ} {number : Nat} {p : Pool γ}

theorem LeadsBy.asked (h : LeadsBy (Act.AsksFor kind) w w') (hp : w.pools[number]? = some p)
    (hKind : ∀ r ∈ p.requests, kind r.endpointId) :
    ∃ p', w'.pools[number]? = some p' ∧ ∀ r ∈ p'.requests, kind r.endpointId := by
  obtain ⟨acts, hActs, rfl⟩ := h
  induction acts generalizing w p with
  | nil => exact ⟨p, hp, hKind⟩
  | cons act rest ih =>
      obtain ⟨q, hq, hChange⟩ := (perform_spec act w).pools number p hp
      exact ih hq (hChange.asked (hActs act List.mem_cons_self) hKind)
        fun act hAct => hActs act (List.mem_cons_of_mem _ hAct)

end Asking

variable {w w' : World NetworkDialer NetworkConnection} {number : Nat} {ids : List String}

/-- A pool that is asked for endpoints only refuses nobody for the form of one. -/
theorem LeadsBy.onForm {linger : Duration} (h : LeadsBy (Act.AsksFor (· ∈ ids)) w w')
    (hIds : ∀ id ∈ ids, ∃ endpoint, Endpoint.ofText id = .ok endpoint) (hReachable : w.Reachable)
    (hp : w.pools[number]? = some { linger := linger }) :
    ∃ p, w'.pools[number]? = some p ∧ p.OnForm ids := by
  obtain ⟨p, hp', hAsked⟩ := h.asked hp nofun
  have hAccountable := (h.leadsTo.reachable hReachable).accountable hp'
  refine ⟨p, hp', fun r hr => ⟨hAsked r hr, ?_⟩⟩
  obtain ⟨endpoint, hForm⟩ := hIds _ (hAsked r hr)
  exact ⟨Endpoint.ne_empty_of_ofText hForm, ⟨endpoint, hForm⟩,
    fun error hRefused => ((hAccountable r hr).refused error hRefused).not_blamesForm hForm⟩

end World

/-! ### Probes -/

namespace Probe

open World

section Courses

variable [Dialer δ γ] {pool : Nat} {endpoints : List String} {s s' : Stage δ γ}

theorem Step.leadsBy (h : Step pool endpoints s s') :
    LeadsBy (Act.AsksFor (· ∈ endpoints.map Text.trimmed)) s.world s'.world := by
  cases h with
  | @asked _ w w' _ _ text listed vacant asks =>
      have hText : Text.trimmed text ∈ endpoints.map Text.trimmed :=
        List.mem_map_of_mem (List.mem_of_getElem? listed)
      have hSame : w.perform (.get pool (Text.trimmed text)) = w' := congrArg Prod.snd asks
      exact hSame ▸ leadsBy_perform (.get pool (Text.trimmed text)) hText w
  | went lets => exact leadsBy_perform _ (Act.asksFor_of_lets lets) _
  | @connected _ w _ handle _ runs unended granted =>
      exact leadsBy_perform (.release pool ⟨pool, handle⟩) trivial w
  | failed => exact .refl _

theorem Course.leadsBy (h : Course pool endpoints s s') :
    LeadsBy (Act.AsksFor (· ∈ endpoints.map Text.trimmed)) s.world s'.world := by
  induction h with
  | refl => exact .refl _
  | tail _ last ih => exact ih.trans last.leadsBy

end Courses

/-- What tasks tell is what became of their requests. -/
theorem Mustered.onForm {endpoints ids : List String} {slots : List (Option ProbeTask)} {p : Pool γ}
    (h : Mustered endpoints slots p) (hForm : p.OnForm ids) :
    ∀ o ∈ slots.reduceOption.filterMap ProbeTask.outcome, o.OnForm := by
  intro o ho error hResult
  obtain ⟨t, hTask, hOutcome⟩ := List.mem_filterMap.mp ho
  obtain ⟨r, hRequest, hTells⟩ := h.told t hTask o hOutcome
  rw [hResult] at hTells
  cases hState : r.state <;> rw [hState] at hTells <;> try cases hTells
  exact (hForm r (List.mem_of_getElem? hRequest)).2.refused error hState

end Probe

/-! ### Soaks -/

namespace Soak

open World

variable [Dialer δ γ] {pool : Nat} {endpoint : String} {interval : Duration} {hold : Bool}

theorem round_leadsBy (hEndpoint : kind endpoint) (t : Tally) (w : World δ γ) :
    LeadsBy (Act.AsksFor kind) w (round pool endpoint interval hold t w).2 := by
  have hFetch : LeadsBy (Act.AsksFor kind) w (w.fetch pool endpoint).2 :=
    fetch_leadsBy Act.asksFor_of_isTurn (fun _ => trivial) pool endpoint hEndpoint w
  have hSleep (w : World δ γ) : LeadsBy (Act.AsksFor kind) w (w.sleep interval) :=
    sleep_leadsBy Act.asksFor_of_isTurn (fun _ => trivial) interval w
  have hRelease (ref : HandleRef) (w : World δ γ) :
      LeadsBy (Act.AsksFor kind) w (w.release pool ref).2 :=
    leadsBy_perform (.release pool ref) trivial w
  unfold round
  dsimp only
  split
  · next ref w' hGranted =>
    rw [hGranted] at hFetch
    cases hold with
    | true => exact (hFetch.trans (hSleep w')).trans (hRelease ref _)
    | false => exact (hFetch.trans (hRelease ref w')).trans (hSleep _)
  · next w' _ hFailed =>
    rw [hFailed] at hFetch
    exact hFetch.trans (hSleep w')

theorem rounds_leadsBy (hEndpoint : kind endpoint) (deadline : Instant) (count : Nat) (t : Tally)
    (w : World δ γ) :
    LeadsBy (Act.AsksFor kind) w (rounds pool endpoint interval hold deadline count t w).2 := by
  induction count generalizing t w with
  | zero => exact .refl w
  | succ count ih =>
      unfold rounds
      split
      · exact (round_leadsBy hEndpoint t w).trans (ih _ _)
      · exact .refl w

/-- A soak asks for its endpoint, without the blanks around it, and for nothing else. -/
theorem run_leadsBy {duration : Duration} {w w' : World δ γ} {report : SoakReport}
    (h : run pool endpoint duration interval hold w = some (report, w')) :
    LeadsBy (Act.AsksFor (· = Text.trimmed endpoint)) w w' := by
  unfold run at h
  dsimp only at h
  split at h
  · cases h
    let endpoint := Text.trimmed endpoint
    have hRounds : LeadsBy (Act.AsksFor (· = endpoint)) w (rounds pool endpoint interval hold
        (w.env.now + duration) (duration / interval.slept + 1) {} w).2 :=
      rounds_leadsBy (by rfl) _ _ _ w
    exact hRounds.trans (leadsBy_perform (.close pool) trivial _)
  · cases h

end Soak

/-! ### Commands -/

/-- With a pool opened for it, a command stays clear of errors of form: in any run that asks the
pool for the endpoints of the command, in the reports of a probe whose tasks get on in any order, and
in all that a soak asks for. -/
structure Command.KeepsForm (c : Command) (settings : Settings) (network : Network) (pool : Nat)
    (w : World NetworkDialer NetworkConnection) : Prop where
  runs : ∀ w', World.LeadsBy (Act.AsksFor (· ∈ c.ids)) w w' →
    ∃ p, w'.pools[pool]? = some p ∧ p.OnForm c.ids
  courses : ∀ endpoints s, c = .probe endpoints →
    Probe.Course pool endpoints (Probe.unstarted endpoints w) s →
      ∃ p, s.world.pools[pool]? = some p ∧ p.OnForm c.ids ∧ ∀ o ∈ (s.report p).outcomes, o.OnForm
  probes : ∀ endpoints, c = .probe endpoints →
    ∃ report, settings.probe network endpoints = .ok report ∧ ∀ o ∈ report.outcomes, o.OnForm
  soaks : ∀ endpoint durationSecs intervalMs hold,
    c = .soak endpoint durationSecs intervalMs hold →
      ∀ report w', Soak.run pool endpoint (.ofSeconds durationSecs) (.ofMillis intervalMs) hold w =
        some (report, w') → ∃ p, w'.pools[pool]? = some p ∧ p.OnForm c.ids

theorem Command.keepsForm {c : Command} (hAccepted : c.complaint? = none) {settings : Settings}
    {network : Network} {pool : Nat} {w : World NetworkDialer NetworkConnection}
    (hOpened : settings.openPool network = .ok (pool, w)) :
    c.KeepsForm settings network pool w := by
  obtain ⟨rfl, hLone, hNew⟩ := Probe.lone_of_openPool rfl hOpened
  have hRuns (w' : World NetworkDialer NetworkConnection)
      (h : World.LeadsBy (Act.AsksFor (· ∈ c.ids)) w w') :
      ∃ p, w'.pools[0]? = some p ∧ p.OnForm c.ids :=
    h.onForm (fun _ => exists_endpoint_of_mem_ids hAccepted) hLone.reachable hLone.found
  have hCourses (endpoints : List String) (s : Probe.Stage NetworkDialer NetworkConnection)
      (hProbe : c = .probe endpoints)
      (hCourse : Probe.Course 0 endpoints (Probe.unstarted endpoints w) s) :
      ∃ p, s.world.pools[0]? = some p ∧ p.OnForm c.ids ∧
        ∀ o ∈ (s.report p).outcomes, o.OnForm := by
    obtain ⟨p, hUnderway⟩ :=
      (Probe.underway_unstarted hLone.reachable hLone.clock hLone.found hNew).course hCourse
    obtain ⟨q, hq, hForm⟩ := hRuns s.world (by rw [hProbe]; exact hCourse.leadsBy)
    cases hUnderway.found.symm.trans hq
    exact ⟨p, hq, hForm, hUnderway.mustered.onForm hForm⟩
  refine ⟨hRuns, hCourses, fun endpoints hProbe => ?_, ?_⟩
  · obtain ⟨s, p, hCourse, _, hp, hRun⟩ :=
      Probe.run_course (fun c => some c.peer) hLone hNew endpoints
    obtain ⟨q, hq, _, hOutcomes⟩ := hCourses endpoints s hProbe hCourse
    cases hp.symm.trans hq
    exact ⟨s.report p, by simp only [Settings.probe, hOpened, hRun], hOutcomes⟩
  · rintro endpoint durationSecs intervalMs hold rfl report w' hSoak
    refine hRuns w' ?_
    have hSame : (· ∈ (Command.soak endpoint durationSecs intervalMs hold).ids) =
        (· = Text.trimmed endpoint) := by
      funext id
      simp [ids, endpoints]
    rw [hSame]
    exact Soak.run_leadsBy hSoak

/-- Whether arguments are any good is settled first, by the first thing that is wrong with them, and
for good. With whatever settings and network, a run fails on its arguments exactly if they are
rejected, and then it does nothing else. Once they are accepted, no pool is asked for anything but an
endpoint, and no error blames the form of one. -/
theorem Arguments.form_settled_first (a : Arguments) :
    (∀ source network, (∃ chain, (a.run source network).conclusion =
      .failed ("Invalid arguments" :: chain)) ↔ a.command.complaint? ≠ none) ∧
    (∀ complaint, a.command.complaint? = some complaint ↔ a.command.Objection complaint) ∧
    (∀ complaint, a.command.Objection complaint → ∀ source network, a.run source network =
      { conclusion := .failed ["Invalid arguments", complaint] }) ∧
    (a.command.complaint? = none → ∀ (settings : Settings) network pool w,
      settings.openPool network = .ok (pool, w) →
        a.command.KeepsForm settings network pool w) := by
  refine ⟨fun source network => ⟨?_, fun h => ?_⟩, fun _ => Command.complaint?_eq_some_iff,
    fun _ => run_of_objection, fun hAccepted settings network pool w => Command.keepsForm hAccepted⟩
  · rintro ⟨chain, hFails⟩
    obtain ⟨complaint, hObjection⟩ := objection_of_run hFails
    rw [Command.complaint?_eq_some_iff.mpr hObjection]
    nofun
  · obtain ⟨complaint, hComplaint⟩ := Option.ne_none_iff_exists'.mp h
    rw [run_of_objection (Command.complaint?_eq_some_iff.mp hComplaint)]
    exact ⟨[complaint], rfl⟩

/-- Two endpoints with blanks of several kinds around them. -/
def Arguments.spaced : Arguments :=
  { command := .probe ["\u2003db:5432", " [::1]:80\t\u00a0"] }

/-- No address can be reached. -/
def Network.unplugged : Network := fun _ _ => .blocked "Network is unreachable (os error 101)"

theorem Arguments.spaced_settled_first :
    (∃ report, Settings.probe {} Network.unplugged ["\u2003db:5432", " [::1]:80\t\u00a0"] =
      .ok report ∧ ∀ o ∈ report.outcomes, o.OnForm) ∧
    Arguments.run { command := .probe ["db:5432", " db ", "::"] } {} Network.unplugged =
      { conclusion := .failed ["Invalid arguments",
        "Invalid endpoint \" db \": Could not resolve endpoint: missing port in \"db\"" ++
          ". Expected: host:port"] } := by
  obtain ⟨⟨pool, w⟩, hOpened⟩ : ∃ opened,
      Settings.openPool {} Network.unplugged = .ok opened := ⟨_, rfl⟩
  constructor
  · have hAccepted : spaced.command.complaint? = none := by decide +kernel
    exact ((form_settled_first spaced).2.2.2 hAccepted {} _ pool w hOpened).probes _ rfl
  · have hWords : "Invalid endpoint " ++ Text.quoted " db " ++ ": " ++
        (DialError.resolve "missing port in \"db\"").message ++ ". Expected: host:port" =
          "Invalid endpoint \" db \": Could not resolve endpoint: missing port in \"db\"" ++
            ". Expected: host:port" := by
      decide +kernel
    have hEarlier (text : String) (hText : text ∈ ["db:5432"]) : Endpoint.Accepts text := by
      cases List.mem_singleton.mp hText
      exact ⟨⟨"db".toList, 5432⟩, by decide +kernel⟩
    rw [← hWords]
    have hListed : (Command.probe ["db:5432", " db ", "::"]).endpoints =
        ["db:5432"] ++ " db " :: ["::"] := rfl
    exact (form_settled_first { command := .probe ["db:5432", " db ", "::"] }).2.2.1 _
      (.malformed hListed hEarlier (by decide +kernel)) {} _

end Tether
