import Tether.Command.Run
import Tether.Proofs.Endpoints

/-! What is objected to in arguments, and that nothing else has a say in it: neither the settings
nor the network. -/

namespace Tether

/-- The text, without the blanks around it, is an endpoint. -/
def Endpoint.Accepts (text : String) : Prop :=
  ∃ endpoint, Endpoint.ofText (Text.trimmed text) = .ok endpoint

theorem Endpoint.complaint?_eq_some_iff {text complaint : String} :
    Endpoint.complaint? text = some complaint ↔
      ∃ error, Endpoint.ofText (Text.trimmed text) = .error error ∧
        complaint = "Invalid endpoint " ++ Text.quoted text ++ ": " ++ error.message ++
          ". Expected: host:port" := by
  unfold complaint?
  cases Endpoint.ofText (Text.trimmed text) <;> simp [eq_comm]

theorem Endpoint.complaint?_eq_none_iff {text : String} :
    Endpoint.complaint? text = none ↔ Endpoint.Accepts text := by
  unfold complaint? Accepts
  cases Endpoint.ofText (Text.trimmed text) <;> simp

namespace Command

/-- The endpoints that a command names, in their order. -/
def endpoints : Command → List String
  | probe endpoints => endpoints
  | soak endpoint .. => [endpoint]
  | config => []

/-- What a command asks its pool for. -/
def ids (c : Command) : List String := c.endpoints.map Text.trimmed

/-- The first thing wrong with a command, in words. An endpoint that is none comes before the rest. -/
inductive Objection : Command → String → Prop where
  | malformed {c : Command} {before rest : List String} {text : String} {error : DialError}
      (listed : c.endpoints = before ++ text :: rest)
      (earlier : ∀ text ∈ before, Endpoint.Accepts text)
      (rejected : Endpoint.ofText (Text.trimmed text) = .error error) :
      Objection c ("Invalid endpoint " ++ Text.quoted text ++ ": " ++ error.message ++
        ". Expected: host:port")
  | noDuration {endpoint : String} {intervalMs : Nat} {hold : Bool}
      (accepted : Endpoint.Accepts endpoint) :
      Objection (.soak endpoint 0 intervalMs hold) "Duration must be greater than 0"
  | noInterval {endpoint : String} {durationSecs : Nat} {hold : Bool}
      (accepted : Endpoint.Accepts endpoint) (lasts : 0 < durationSecs) :
      Objection (.soak endpoint durationSecs 0 hold) "Interval must be greater than 0"

variable {c : Command} {endpoint complaint : String} {durationSecs intervalMs : Nat} {hold : Bool}

/-- No upper bound is set to the duration or to the interval. -/
theorem complaint?_soak_eq_none_iff :
    (soak endpoint durationSecs intervalMs hold).complaint? = none ↔
      Endpoint.Accepts endpoint ∧ 0 < durationSecs ∧ 0 < intervalMs := by
  rw [complaint?, Option.or_eq_none_iff, Endpoint.complaint?_eq_none_iff]
  refine and_congr_right fun _ => ?_
  split
  · next hZero => simp [hZero]
  · split
    · next hZero => simp [hZero]
    · next hDuration hInterval =>
      simpa using ⟨Nat.pos_of_ne_zero hDuration, Nat.pos_of_ne_zero hInterval⟩

theorem findSome?_complaint?_eq_some_iff :
    c.endpoints.findSome? Endpoint.complaint? = some complaint ↔
      ∃ before text rest error, c.endpoints = before ++ text :: rest ∧
        (∀ text ∈ before, Endpoint.Accepts text) ∧
        Endpoint.ofText (Text.trimmed text) = .error error ∧
        complaint = "Invalid endpoint " ++ Text.quoted text ++ ": " ++ error.message ++
          ". Expected: host:port" := by
  simp only [List.findSome?_eq_some_iff, Endpoint.complaint?_eq_some_iff,
    Endpoint.complaint?_eq_none_iff]
  constructor
  · rintro ⟨before, text, rest, hListed, ⟨error, hRejected, hWords⟩, hEarlier⟩
    exact ⟨before, text, rest, error, hListed, hEarlier, hRejected, hWords⟩
  · rintro ⟨before, text, rest, error, hListed, hEarlier, hRejected, hWords⟩
    exact ⟨before, text, rest, hListed, ⟨error, hRejected, hWords⟩, hEarlier⟩

theorem objection_of_malformed
    (h : c.endpoints.findSome? Endpoint.complaint? = some complaint) : c.Objection complaint := by
  obtain ⟨before, text, rest, error, hListed, hEarlier, hRejected, rfl⟩ :=
    findSome?_complaint?_eq_some_iff.mp h
  exact .malformed hListed hEarlier hRejected

/-- The endpoints are looked at first. -/
theorem complaint?_of_malformed
    (h : c.endpoints.findSome? Endpoint.complaint? = some complaint) :
    c.complaint? = some complaint := by
  cases c with
  | probe texts => exact h
  | soak endpoint durationSecs intervalMs hold =>
      have hFirst : Endpoint.complaint? endpoint = some complaint := by
        simpa [endpoints] using h
      simp [complaint?, hFirst]
  | config => cases h

/-- A command is rejected with the first thing that is wrong with it. -/
theorem complaint?_eq_some_iff : c.complaint? = some complaint ↔ c.Objection complaint := by
  constructor
  · intro h
    cases c with
    | probe texts => exact objection_of_malformed h
    | config => cases h
    | soak endpoint durationSecs intervalMs hold =>
        cases hEndpoint : Endpoint.complaint? endpoint with
        | some found =>
            have hSame : found = complaint := by simpa [complaint?, hEndpoint] using h
            exact objection_of_malformed (by simp [endpoints, hEndpoint, hSame])
        | none =>
            have hAccepted := Endpoint.complaint?_eq_none_iff.mp hEndpoint
            rw [complaint?, hEndpoint, Option.none_or] at h
            split at h
            · next hZero =>
              cases h
              exact hZero ▸ .noDuration hAccepted
            · next hLasts =>
              split at h
              · next hZero =>
                cases h
                exact hZero ▸ .noInterval hAccepted (Nat.pos_of_ne_zero hLasts)
              · cases h
  · intro h
    cases h with
    | malformed listed earlier rejected =>
        exact complaint?_of_malformed
          (findSome?_complaint?_eq_some_iff.mpr ⟨_, _, _, _, listed, earlier, rejected, rfl⟩)
    | noDuration accepted => simp [complaint?, Endpoint.complaint?_eq_none_iff.mpr accepted]
    | noInterval accepted lasts =>
        simp [complaint?, Endpoint.complaint?_eq_none_iff.mpr accepted, Nat.ne_of_gt lasts]

/-- What an accepted command asks its pool for is an endpoint. -/
theorem exists_endpoint_of_mem_ids {id : String} (h : c.complaint? = none) (hId : id ∈ c.ids) :
    ∃ endpoint, Endpoint.ofText id = .ok endpoint := by
  obtain ⟨text, hText, rfl⟩ := List.mem_map.mp hId
  have hNone : c.endpoints.findSome? Endpoint.complaint? = none := by
    cases hFound : c.endpoints.findSome? Endpoint.complaint? with
    | none => rfl
    | some complaint => cases h.symm.trans (complaint?_of_malformed hFound)
  exact Endpoint.complaint?_eq_none_iff.mp (List.findSome?_eq_none_iff.mp hNone text hText)

end Command

/-- The complaint about a report begins with a number. -/
theorem ProbeReport.complaint?_ne (r : ProbeReport) : r.complaint? ≠ some "Invalid arguments" := by
  unfold complaint?
  dsimp only
  split
  · generalize (r.outcomes.filter fun o => !o.connected).length = failed
    intro h
    have hFirst := congrArg (fun text : String => text.toList.head?) (Option.some.inj h)
    obtain ⟨digit, rest, hDigits⟩ := List.exists_cons_of_ne_nil (Text.spells_toDigits failed).ne_nil
    have hDigit := (Text.spells_toDigits failed).isDigit digit (by simp [hDigits])
    have hText : (toString failed).toList = digit :: rest := by
      rw [Nat.toString_eq_ofList_toDigits, hDigits, String.toList_ofList]
    simp only [String.toList_append, hText, List.cons_append, List.head?_cons] at hFirst
    cases Option.some.inj hFirst
    cases hDigit
  · nofun

/-- A command that is carried out does not fail on its arguments any more. -/
theorem Command.perform_ne (s : Settings) (network : Network) (format : OutputFormat) (c : Command)
    (chain : List String) :
    (c.perform s network format).conclusion ≠ .failed ("Invalid arguments" :: chain) := by
  intro h
  cases c with
  | config => cases format <;> cases h
  | probe endpoints =>
      rw [perform, Settings.probe] at h
      cases hOpened : s.openPool network with
      | error error => simp [hOpened, Settings.openFailure] at h
      | ok opened =>
          simp only [hOpened, Output.ofReport] at h
          split at h
          · next hFails =>
            cases h
            exact ProbeReport.complaint?_ne _ hFails
          · cases h
  | soak endpoint durationSecs intervalMs hold =>
      rw [perform, Settings.soak] at h
      cases hOpened : s.openPool network with
      | error error => simp [hOpened, Settings.openFailure] at h
      | ok opened =>
          simp only [hOpened] at h
          split at h
          · cases h
          · cases h
          · next hFails => cases hFails

namespace Arguments

variable {a : Arguments} {complaint : String}

/-- Arguments that are objected to come to nothing else, whatever the settings and the network. -/
theorem run_of_objection (h : a.command.Objection complaint) (source : SettingsSource)
    (network : Network) :
    a.run source network = { conclusion := .failed ["Invalid arguments", complaint] } := by
  simp [run, prepare, Command.complaint?_eq_some_iff.mpr h]

/-- Nothing else that goes wrong is told as a fault of the arguments. -/
theorem objection_of_run {source : SettingsSource} {network : Network} {chain : List String}
    (h : (a.run source network).conclusion = .failed ("Invalid arguments" :: chain)) :
    ∃ complaint, a.command.Objection complaint := by
  cases hComplaint : a.command.complaint? with
  | some complaint => exact ⟨complaint, Command.complaint?_eq_some_iff.mp hComplaint⟩
  | none =>
      simp only [run, prepare, hComplaint] at h
      cases hLoaded : Settings.load a.config source with
      | error error => simp [hLoaded] at h
      | ok settings =>
          simp only [hLoaded] at h
          exact absurd h (Command.perform_ne settings network a.format a.command chain)

end Arguments

end Tether
