import Tether.Proofs.Encounter

/-! First contact. The factory is asked about an endpoint before every first dial, and by whoever
wants to know; it says once that the endpoint is new to it, to the first who asks. A sequence of
dials keeps to the tier that goes with the answer it got, whatever becomes of it and of others. -/

namespace Tether

variable {δ γ : Type}

/-- Whether the start of a sequence of dials to the endpoint, if the event is one, was first contact
with it. -/
def Event.contact? (id : String) : Event → Option Bool
  | .dialing other tier _ => if other = id then some (tier == .initial) else none
  | _ => none

theorem Event.filterMap_contact? (id : String) (log : List Event) :
    log.reverse.filterMap (Event.contact? id) =
      (log.filter Event.isDial).reverse.filterMap (Event.contact? id) := by
  rw [← List.filter_reverse, List.filterMap_filter]
  congr 1
  funext e
  cases e <;> rfl

theorem Event.Paced.contact?_eq {policy : RetryPolicy} {other : String} {tier : Tier} {most : Nat}
    {e : Event} (h : e.Paced policy other tier most) (id : String) : e.contact? id = none := by
  cases e <;> first | rfl | exact False.elim h

namespace Factory

variable {id : String} {f : Factory δ}

theorem firstContact_eq (id : String) (f : Factory δ) :
    (f.firstContact id).1 = !f.hasSeen id ∧
      ∀ other, (f.firstContact id).2.hasSeen other = (other == id || f.hasSeen other) := by
  unfold firstContact
  cases hSeen : f.hasSeen id with
  | true =>
      refine ⟨rfl, fun other => ?_⟩
      cases hOther : other == id with
      | true =>
          rw [eq_of_beq hOther]
          exact hSeen
      | false => rfl
  | false => exact ⟨rfl, fun other => List.contains_cons⟩

/-- The tier tells whether it was first contact. -/
theorem tierOf_beq_initial (first : Bool) : (tierOf first == Tier.initial) = first := by
  cases first <;> rfl

theorem seen_firstContact_of_hasSeen (h : f.hasSeen id = true) :
    (f.firstContact id).2.seen = f.seen := by
  rw [firstContact, if_pos h]

end Factory

namespace Pool

variable {allowed : Prop} {clock : Option Instant} {number index : Nat} {act : Act δ}
  {p p' : Pool γ}

/-- A request is for one endpoint, whatever becomes of it. -/
theorem Change.endpointId_eq {old r : Request} (h : Change allowed clock number act p p')
    (hOld : p.requests[index]? = some old) (hRequest : p'.requests[index]? = some r) :
    old.endpointId = r.endpointId := by
  by_cases hTurn : act = .resume number index
  · subst hTurn
    obtain ⟨state, hAfter, _⟩ := h.request_of_turn hOld
    cases hRequest.symm.trans hAfter
    rfl
  · by_cases hDrop : act = .drop number index
    · subst hDrop
      rcases h.request_of_drop hOld with hSame | hDropped
      · cases hRequest.symm.trans hSame
        rfl
      · cases hRequest.symm.trans hDropped
        rfl
    · cases hRequest.symm.trans (h.request_of_unmoved (fun _ => ⟨hTurn, hDrop⟩) hOld)
      rfl

/-- A request that is live was so before, if it was there already. -/
theorem Change.live_before {old r : Request} (h : Change allowed clock number act p p')
    (hOld : p.requests[index]? = some old) (hRequest : p'.requests[index]? = some r)
    (hLive : r.state.isLive = true) :
    old.endpointId = r.endpointId ∧ old.state.isLive = true := by
  refine ⟨h.endpointId_eq hOld hRequest, ?_⟩
  cases hWas : old.state.isLive with
  | false =>
      have hSame := h.request_of_unmoved (fun hLive => by cases hWas.symm.trans hLive) hOld
      cases hRequest.symm.trans hSame
      cases hWas.symm.trans hLive
  | true => rfl

end Pool

namespace World

open Surroundings Pool

variable [Dialer δ γ] {w : World δ γ} {number index : Nat} {p : Pool γ}

/-! ### Along a run -/

theorem perform_policy (act : Act δ) (w : World δ γ) :
    (w.perform act).env.factory.policy = w.env.factory.policy := by
  by_cases hShut : act = .shutFactory
  · subst hShut
    rfl
  · exact (perform_configured hShut w).policy

theorem performAll_policy (acts : List (Act δ)) (w : World δ γ) :
    (w.performAll acts).env.factory.policy = w.env.factory.policy := by
  induction acts generalizing w with
  | nil => rfl
  | cons act rest ih => exact (ih (w.perform act)).trans (perform_policy act w)

theorem KeepsPace.perform (h : w.KeepsPace) (act : Act δ) : (w.perform act).KeepsPace := by
  obtain ⟨encounter, hTakes⟩ := perform_takes act h
  intro place s hs
  rw [perform_policy]
  by_cases hPlace : encounter.place? = some place
  · have hLeaves : encounter.Leaves w.env s := by
      refine hTakes.meets.leaves s ?_
      rw [hPlace]
      exact hs
    refine hLeaves.settled fun place' s' hLater => ?_
    subst hLater
    cases hTakes.arises with
    | resumed runs | resumedCreation runs => exact h _ _ runs
  · exact h place s (hTakes.others place s hPlace hs)

theorem KeepsPace.performAll (h : w.KeepsPace) (acts : List (Act δ)) :
    (w.performAll acts).KeepsPace := by
  induction acts generalizing w with
  | nil => exact h
  | cons act rest ih => exact ih (h.perform act)

/-- What the act is told about first contact with the endpoint, if it asks for it. -/
def answers (id : String) (w : World δ γ) (act : Act δ) : List Bool :=
  match act with
  | .firstContact other => if other = id then [(w.env.firstContact other).1] else []
  | act => (w.noted act).reverse.filterMap (Event.contact? id)

theorem answers_of_silent {act : Act δ} {id : String} (hAsks : ∀ id, act ≠ .firstContact id) :
    w.answers id act = (w.noted act).reverse.filterMap (Event.contact? id) := by
  cases act with
  | firstContact other => exact absurd rfl (hAsks other)
  | _ => rfl

/-- All that a run is told about first contact with the endpoint, the earliest first. -/
def answersAlong (id : String) : List (Act δ) → World δ γ → List Bool
  | [], _ => []
  | act :: rest, w => w.answers id act ++ answersAlong id rest (w.perform act)

/-- An act asks for first contact with an endpoint at most once, and is told the truth; then the
endpoint is no longer new. -/
theorem Takes.answers {act : Act δ} {encounter : Encounter} (h : w.Takes act encounter)
    (id : String) :
    w.answers id act = [] ∧
        (w.perform act).env.factory.hasSeen id = w.env.factory.hasSeen id ∨
      w.answers id act = [!w.env.factory.hasSeen id] ∧
        (w.perform act).env.factory.hasSeen id = true := by
  obtain ⟨fresh, hFresh, hNotes⟩ := h.meets.noted
  have hSeen : (w.perform act).env.factory.hasSeen id =
      (encounter.seenAfter w.env.factory).contains id :=
    congrArg (·.contains id) h.meets.seen
  have hAnswers (hAsks : ∀ id, act ≠ .firstContact id) : w.answers id act =
      (fresh.filter Event.isDial).reverse.filterMap (Event.contact? id) := by
    rw [answers_of_silent hAsks, noted_eq hFresh, Event.filterMap_contact?]
  have hPaced {policy : RetryPolicy} {other : String} {tier : Tier} {most : Nat} {log : List Event}
      (h : ∀ e ∈ log, e.Paced policy other tier most) :
      log.reverse.filterMap (Event.contact? id) = [] :=
    List.filterMap_eq_nil_iff.mpr fun e he => (h e (List.mem_reverse.mp he)).contact?_eq id
  have hAsked (other : String)
      (hMarks : encounter.seenAfter w.env.factory = (w.env.factory.firstContact other).2.seen)
      (hTold : w.answers id act =
        if other = id then [(w.env.factory.firstContact other).1] else []) :
      w.answers id act = [] ∧
          (w.perform act).env.factory.hasSeen id = w.env.factory.hasSeen id ∨
        w.answers id act = [!w.env.factory.hasSeen id] ∧
          (w.perform act).env.factory.hasSeen id = true := by
    obtain ⟨hFirst, hMemory⟩ := Factory.firstContact_eq other w.env.factory
    have hAfter : (w.perform act).env.factory.hasSeen id =
        (id == other || w.env.factory.hasSeen id) := by
      rw [hSeen, hMarks]
      exact hMemory id
    by_cases hOther : other = id
    · subst hOther
      exact Or.inr ⟨by rw [hTold, if_pos rfl, hFirst], by rw [hAfter, beq_self_eq_true, Bool.true_or]⟩
    · refine Or.inl ⟨by rw [hTold, if_neg hOther], ?_⟩
      rw [hAfter, beq_eq_false_iff_ne.mpr (Ne.symm hOther), Bool.false_or]
  cases encounter with
  | nothing =>
      cases h.arises with
      | nothing silent =>
          have hNone : fresh.filter Event.isDial = [] := hNotes
          exact Or.inl ⟨by rw [hAnswers silent, hNone]; rfl, hSeen⟩
  | asked other =>
      cases h.arises
      exact hAsked other rfl rfl
  | first place other =>
      have hAsks : ∀ id, act ≠ .firstContact id := by
        cases h.arises <;> nofun
      obtain ⟨rest, hLog, hRest⟩ := hNotes
      refine hAsked other rfl ?_
      rw [hAnswers hAsks, hLog, List.reverse_append, List.filterMap_append, hPaced hRest,
        List.append_nil]
      show [_].filterMap (Event.contact? id) = _
      by_cases hOther : other = id
      · subst hOther
        simp [Event.contact?, Encounter.tierNow, Factory.tierOf_beq_initial]
      · simp [Event.contact?, hOther]
  | later place s =>
      have hAsks : ∀ id, act ≠ .firstContact id := by
        cases h.arises <;> nofun
      exact Or.inl ⟨(hAnswers hAsks).trans (hPaced hNotes), hSeen⟩

theorem KeepsPace.answers (hPace : w.KeepsPace) (act : Act δ) (id : String) :
    w.answers id act = [] ∧
        (w.perform act).env.factory.hasSeen id = w.env.factory.hasSeen id ∨
      w.answers id act = [!w.env.factory.hasSeen id] ∧
        (w.perform act).env.factory.hasSeen id = true := by
  obtain ⟨encounter, hTakes⟩ := perform_takes act hPace
  exact hTakes.answers id

/-- An endpoint that was seen stays so, and nobody is told again that it is new. -/
theorem answersAlong_of_seen {id : String} (hPace : w.KeepsPace)
    (hSeen : w.env.factory.hasSeen id = true) (acts : List (Act δ)) :
    (∃ later, answersAlong id acts w = List.replicate later false) ∧
      (w.performAll acts).env.factory.hasSeen id = true := by
  induction acts generalizing w with
  | nil => exact ⟨⟨0, rfl⟩, hSeen⟩
  | cons act rest ih =>
      rcases hPace.answers act id with ⟨hNone, hSame⟩ | ⟨hOne, hNow⟩
      · obtain ⟨⟨later, hRest⟩, hEnd⟩ := ih (hPace.perform act) (hSame.trans hSeen)
        exact ⟨⟨later, by rw [answersAlong, hNone, hRest, List.nil_append]⟩, hEnd⟩
      · obtain ⟨⟨later, hRest⟩, hEnd⟩ := ih (hPace.perform act) hNow
        exact ⟨⟨later + 1, by rw [answersAlong, hOne, hRest, hSeen]; rfl⟩, hEnd⟩

/-- Of all who ask about a new endpoint the first is told that it is new. -/
theorem answersAlong_of_new {id : String} (hPace : w.KeepsPace)
    (hNew : w.env.factory.hasSeen id = false) (acts : List (Act δ)) :
    answersAlong id acts w = [] ∧ (w.performAll acts).env.factory.hasSeen id = false ∨
      (∃ later, answersAlong id acts w = true :: List.replicate later false) ∧
        (w.performAll acts).env.factory.hasSeen id = true := by
  induction acts generalizing w with
  | nil => exact Or.inl ⟨rfl, hNew⟩
  | cons act rest ih =>
      rcases hPace.answers act id with ⟨hNone, hSame⟩ | ⟨hOne, hNow⟩
      · rw [answersAlong, hNone, List.nil_append]
        exact ih (hPace.perform act) (hSame.trans hNew)
      · obtain ⟨⟨later, hRest⟩, hEnd⟩ := answersAlong_of_seen (hPace.perform act) hNow rest
        exact Or.inr ⟨⟨later, by rw [answersAlong, hOne, hRest, hNew]; rfl⟩, hEnd⟩

/-! ### Requests that wait -/

/-- Whatever a live request is for has been seen. -/
def Remembers (w : World δ γ) : Prop :=
  ∀ (number index : Nat) p r, w.pools[number]? = some p → p.requests[index]? = some r →
    r.state.isLive = true → w.env.factory.hasSeen r.endpointId = true

theorem hasSeen_perform {id : String} (hPace : w.KeepsPace) (act : Act δ)
    (hSeen : w.env.factory.hasSeen id = true) :
    (w.perform act).env.factory.hasSeen id = true :=
  (answersAlong_of_seen hPace hSeen [act]).2

omit [Dialer δ γ] in
/-- A request that comes in alive waits for another one that is alive, or dials itself. -/
theorem Remembers.entered {id : String} {allowed : Prop} {clock : Option Instant}
    {state : RequestState} {q : Pool γ} (h : w.Remembers) (hp : w.pools[number]? = some p)
    (hSound : p.Sound p.requests) (hEnters : Entered allowed clock id p state q)
    (hLive : state.isLive = true) :
    w.env.factory.hasSeen id = true ∨ ∃ gate s, state = .dialing gate s := by
  cases state with
  | dialing gate s => exact Or.inr ⟨gate, s, rfl⟩
  | waiting gate =>
      cases hEnters with
      | looked open_ named looks =>
          cases looks with
          | queued _ unregistered dialed =>
              obtain ⟨index, s, hDials⟩ := (hSound.listed open_ id gate).mp dialed
              exact Or.inl (h number index p _ hp hDials rfl)
          | dials lacks scanned follows => cases follows
  | _ => cases hLive

theorem Remembers.perform (h : w.Remembers) (hReachable : w.Reachable) (hPace : w.KeepsPace)
    (act : Act δ) : (w.perform act).Remembers := by
  intro number index p' r hp' hr hLive
  cases hp : w.pools[number]? with
  | none =>
      obtain ⟨linger, rfl, _⟩ := (perform_spec act w).opened number p' hp hp'
      cases hr
  | some p =>
      obtain ⟨q, hq, hChange⟩ := (perform_spec act w).pools number p hp
      cases hp'.symm.trans hq
      cases hOld : p.requests[index]? with
      | some old =>
          obtain ⟨hSame, hWas⟩ := hChange.live_before hOld hr hLive
          exact hasSeen_perform hPace act (hSame ▸ h number index p old hp hOld hWas)
      | none =>
          -- a new request waits for one that was there, or has just had the first turn of its own
          obtain ⟨_, rfl, hEnters⟩ := hChange.request_of_new hOld hr
          rcases h.entered hp (hReachable.sound hp) hEnters hLive with hSeen | ⟨gate, s, hDials⟩
          · exact hasSeen_perform hPace _ hSeen
          · obtain ⟨encounter, hTakes⟩ := takes_get number r.endpointId w
            cases hTakes.arises with
            | nothing =>
                have hAfter : (w.perform (.get number r.endpointId)).sequenceAt
                    (.request number index) = some s := by
                  rw [sequenceAt, hp', Option.bind_some, Pool.sequenceAt, hr, Option.bind_some, hDials]
                  rfl
                have hBefore := hTakes.others (.request number index) s (fun h => by cases h) hAfter
                rw [sequenceAt, hp, Option.bind_some, Pool.sequenceAt, hOld] at hBefore
                cases hBefore
            | got =>
                have hSeen := congrArg (·.contains r.endpointId) hTakes.meets.seen
                refine hSeen.trans (((Factory.firstContact_eq r.endpointId _).2 _).trans ?_)
                rw [beq_self_eq_true, Bool.true_or]

theorem Reachable.keepsPace (hReachable : w.Reachable) : w.KeepsPace := by
  obtain ⟨env, acts, rfl⟩ := hReachable
  refine KeepsPace.performAll (fun place s hs => ?_) acts
  cases place <;> cases hs

theorem Remembers.performAll (h : w.Remembers) (hReachable : w.Reachable) (acts : List (Act δ)) :
    (w.performAll acts).Remembers := by
  induction acts generalizing w with
  | nil => exact h
  | cons act rest ih =>
      exact ih (h.perform hReachable hReachable.keepsPace act) (hReachable.perform act)

theorem Reachable.remembers (hReachable : w.Reachable) : w.Remembers := by
  obtain ⟨env, acts, rfl⟩ := hReachable
  exact Remembers.performAll (fun _ _ _ _ hp => by cases hp) ⟨env, [], rfl⟩ acts

/-- Only who asks for first contact or starts a sequence of dials can add to the factory's memory;
among the acts on a pool that is a request for an endpoint with a name, to an open pool that has
neither a handle nor a gate for it. -/
theorem perform_seen_cases (hReachable : w.Reachable) (act : Act δ) :
    (w.perform act).env.factory.seen = w.env.factory.seen ∨ (∃ id, act = .firstContact id) ∨
      (∃ id token, act = .create id token) ∨
      ∃ number id p, act = .get number id ∧ w.pools[number]? = some p ∧ p.Lacks id ∧ id ≠ "" := by
  obtain ⟨encounter, hTakes⟩ := perform_takes act hReachable.keepsPace
  have hSeen := hTakes.meets.seen
  cases hTakes.arises with
  | nothing | resumed | resumedCreation => exact Or.inl hSeen
  | asked id => exact Or.inr (Or.inl ⟨id, rfl⟩)
  | created id token => exact Or.inr (Or.inr (Or.inl ⟨id, token, rfl⟩))
  | got opened lacks named => exact Or.inr (Or.inr (Or.inr ⟨_, _, _, rfl, opened, lacks, named⟩))
  | tookOver opened lacks waits =>
      have hKnown := hReachable.remembers _ _ _ _ opened waits rfl
      exact Or.inl (hSeen.trans (Factory.seen_firstContact_of_hasSeen hKnown))

/-- Whatever happens on a new factory, in any order, and however sequences of dials end: of all who
ask it about an endpoint, dialing or not, the first is told that it is new, and nobody after; the
endpoint counts as seen from then on, and not before. A sequence of dials has the tier that goes
with its answer, in every turn, whether it is suspended or not. A request that is served from the
registry or refused, or that waits for another one, adds nothing to what the factory has seen, not
even when it takes over. -/
theorem first_contact {env : Surroundings δ} {acts : List (Act δ)} (hNew : env.factory.seen = [])
    (hRun : w = performAll acts { env }) :
    (∀ id, answersAlong id acts ({ env } : World δ γ) = [] ∧ w.env.factory.hasSeen id = false ∨
      (∃ later, answersAlong id acts ({ env } : World δ γ) = true :: List.replicate later false) ∧
        w.env.factory.hasSeen id = true) ∧
    w.env.factory.policy = env.factory.policy ∧
    (∀ place s, w.sequenceAt place = some s → s.Settled env.factory.policy) ∧
    (∀ act, ∃ encounter, w.Takes act encounter) ∧
    ∀ act, (w.perform act).env.factory.seen = w.env.factory.seen ∨ (∃ id, act = .firstContact id) ∨
      (∃ id token, act = .create id token) ∨
      ∃ number id p, act = .get number id ∧ w.pools[number]? = some p ∧ p.Lacks id ∧ id ≠ "" := by
  have hReachable : w.Reachable := ⟨env, acts, hRun⟩
  have hStart : ({ env } : World δ γ).Reachable := ⟨env, [], rfl⟩
  have hPolicy : w.env.factory.policy = env.factory.policy := hRun ▸ performAll_policy acts _
  refine ⟨fun id => ?_, hPolicy, ?_, fun act => perform_takes act hReachable.keepsPace,
    perform_seen_cases hReachable⟩
  · have hUnseen : env.factory.hasSeen id = false := by
      rw [Factory.hasSeen, hNew]
      rfl
    rw [hRun]
    exact answersAlong_of_new hStart.keepsPace hUnseen acts
  · rw [← hPolicy]
    exact hReachable.keepsPace

/-- Two pools dial the same endpoint, and so does a caller of the factory; the sequence of dials that
came first is abandoned, while the others go on. -/
def contacting : List (Act (FixedDialer Nat)) :=
  [.openPool 10, .openPool 10, .get 0 "", .get 0 "db", .get 1 "db", .firstContact "db",
    .create "db" none, .drop 0 1]

def contactingEnv : Surroundings (FixedDialer Nat) :=
  { factory := { dialer := { connection := 7, latency := 5 } } }

theorem contacting_first : ∃ s s',
    (performAll contacting { env := contactingEnv }).sequenceAt (.request 1 0) = some s ∧
      (performAll contacting { env := contactingEnv }).sequenceAt (.creation 0) = some s' ∧
      s.tier = .subsequent ∧ s.attempt + s.remaining = 4 ∧ s'.attempt + s'.remaining = 4 ∧
      answersAlong "db" contacting ({ env := contactingEnv } : World _ Nat) =
        [true, false, false, false] ∧
      (performAll contacting ({ env := contactingEnv } : World _ Nat)).env.factory.hasSeen "db" =
        true := by
  have hAnswers : answersAlong "db" contacting ({ env := contactingEnv } : World _ Nat) =
      [true, false, false, false] := by decide +kernel
  obtain ⟨hMemory, _, hSettled, _, _⟩ := first_contact
    (w := performAll contacting ({ env := contactingEnv } : World _ Nat)) rfl rfl
  have hSeen := (hMemory "db").resolve_left fun h => by
    cases h.1.symm.trans hAnswers
  exact ⟨_, _, rfl, rfl, rfl, (hSettled (.request 1 0) _ rfl).allowance,
    (hSettled (.creation 0) _ rfl).allowance, hAnswers, hSeen.2⟩

end World

end Tether
