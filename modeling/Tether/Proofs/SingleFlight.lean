import Tether.Proofs.Registry
import Tether.Dialer.Fixed

/-! Single flight: whatever happens to a pool, in whatever order, no endpoint is dialed twice at a
time, no dialing starts where a connection is at hand or on its way, and no fresh handle takes the
place of another. -/

namespace Tether

variable {δ γ : Type}

namespace DialSequence

open Surroundings

variable [Dialer δ γ]

/-- Every sequence of dials notes its start, so that starts can be read off the events. -/
theorem start_starts (id : String) (told : Bool) (env : Surroundings δ) :
    ∃ before e, (start id told env).2.events = before ++ e :: env.events ∧ e.Starts id := by
  let tier := Factory.tierOf (env.firstContact id).1
  let most := (env.firstContact id).2.factory.policy.maxAttempts tier
  obtain ⟨before, hBefore, _⟩ := (launch_noted id tier (told || env.factory.shutdown) (most - 1) 1
    ((env.firstContact id).2.note (.dialing id tier most))).events
  exact ⟨before, .dialing id tier most, hBefore, tier, most, rfl⟩

end DialSequence

namespace Pool

variable {allowed : Prop} {clock : Option Instant} {number index gate : Nat} {id : String}
  {act : Act δ} {p p' : Pool γ} {state : RequestState}

/-- A request that comes to dial in a look has found nothing for its endpoint. -/
theorem Looked.lacks {s : DialSequence} (h : Looked allowed clock id p (.dialing gate s) p') :
    p.Lacks id := by
  cases h with
  | dials lacks => exact lacks

theorem Passed.lacks {s : DialSequence} {from_ : Nat}
    (h : Passed allowed clock from_ id p (.dialing gate s) p') : p.Lacks id := by
  cases h with
  | looked decided looks => exact looks.lacks

theorem Entered.lacks {s : DialSequence} (h : Entered allowed clock id p (.dialing gate s) p') :
    p.Lacks id := by
  cases h with
  | looked open_ named looks =>
      obtain ⟨hOpen, hUnregistered, hUndialed⟩ := looks.lacks
      exact ⟨hOpen, hUnregistered, hUndialed⟩

theorem Followed.gate_eq {dialed : String} {progress : DialProgress γ} {gate' : Nat}
    {s : DialSequence} (h : Followed clock gate id dialed p progress (.dialing gate' s) p') :
    gate' = gate := by
  cases h
  rfl

/-- After an act a request dials only behind the gate it had, or for an endpoint that the pool
lacked. -/
theorem Change.dialsAt (h : Change allowed clock number act p p')
    (hDials : DialsAt p'.requests index id gate) :
    DialsAt p.requests index id gate ∨ p.Lacks id := by
  obtain ⟨s, hDials⟩ := hDials
  cases h with
  | tended scanned same =>
      obtain ⟨_, _, _, _, rfl, _⟩ := same
      exact Or.inl ⟨s, scanned.requests_eq ▸ hDials⟩
  | held | reported | closed => exact Or.inl ⟨s, hDials⟩
  | borrowed scanned | givenBack scanned | touched scanned =>
      exact Or.inl ⟨s, scanned.requests_eq ▸ hDials⟩
  | entered enters =>
      rw [enters.requests_eq, List.getElem?_append] at hDials
      split at hDials
      · exact Or.inl ⟨s, hDials⟩
      · cases List.mem_singleton.mp (List.mem_of_getElem? hDials)
        exact Or.inr enters.lacks
  | passed waits passes =>
      rw [requests_setRequest (passes.requests_eq ▸ waits), passes.requests_eq,
        getElem?_set_iff waits] at hDials
      rcases hDials with ⟨_, hSame⟩ | ⟨_, hDials⟩
      · cases hSame
        exact Or.inr passes.lacks
      · exact Or.inl ⟨s, hDials⟩
  | followed dials scanned follows =>
      have hRequests := follows.requests_eq.trans scanned.requests_eq
      rw [requests_setRequest (hRequests ▸ dials), hRequests, getElem?_set_iff dials] at hDials
      rcases hDials with ⟨rfl, hSame⟩ | ⟨_, hDials⟩
      · cases hSame
        exact Or.inl ⟨_, follows.gate_eq ▸ dials⟩
      · exact Or.inl ⟨s, hDials⟩
  | left waits =>
      rw [requests_setRequest waits, getElem?_set_iff waits] at hDials
      rcases hDials with ⟨_, hSame⟩ | ⟨_, hDials⟩
      · cases hSame
      · exact Or.inl ⟨s, hDials⟩
  | @gaveUp other gate' id' sequence p dials =>
      have hRequests : ((p.openGate gate' id' .givenUp).setRequest other .dropped).requests =
          p.requests.set other { endpointId := id', state := .dropped } :=
        requests_setRequest (p := p.openGate gate' id' .givenUp) dials
      rw [hRequests, getElem?_set_iff dials] at hDials
      rcases hDials with ⟨_, hSame⟩ | ⟨_, hDials⟩
      · cases hSame
      · exact Or.inl ⟨s, hDials⟩

end Pool

namespace World

variable [Dialer δ γ]

/-- The act notes the start of a sequence of dials to this endpoint. -/
def Starts (w : World δ γ) (act : Act δ) (id : String) : Prop :=
  ∃ fresh e, (w.perform act).env.events = fresh ++ w.env.events ∧ e ∈ fresh ∧ e.Starts id

/-- An act that allows only starts of this kind starts nothing else. -/
theorem Starts.kind {kind : String → Prop} {w : World δ γ} {act : Act δ} {id : String}
    (h : w.Starts act id) (hEvents : ∃ fresh, (w.perform act).env.events = fresh ++ w.env.events ∧
      ∀ e ∈ fresh, Event.StartsOnly kind e) : kind id := by
  obtain ⟨fresh, e, hFresh, he, hStarts⟩ := h
  obtain ⟨fresh', hFresh', hOnly⟩ := hEvents
  have hSame : fresh = fresh' := List.append_cancel_right (hFresh.symm.trans hFresh')
  exact hOnly e (hSame ▸ he) id hStarts

/-- In every world that a run leads to, a pool dials no endpoint twice at a time. Whatever happens
next, a sequence of dials, which always notes its start, starts only in a pool that is open and has
neither a handle nor a gate for the endpoint, and a handle that is made takes an empty place in the
registry: none is replaced. -/
theorem single_flight {w : World δ γ} (hReachable : w.Reachable) :
    (∀ (number : Nat) p, w.pools[number]? = some p → ∀ (index : Nat) id gate s,
      p.requests[index]? = some { endpointId := id, state := .dialing gate s } →
        s.endpointId = id ∧ ∀ (other : Nat) gate' s',
          p.requests[other]? = some { endpointId := id, state := .dialing gate' s' } →
            other = index) ∧
    (∀ id told (env : Surroundings δ), ∃ before e,
      (DialSequence.start id told env : DialProgress γ × Surroundings δ).2.events =
        before ++ e :: env.events ∧ e.Starts id) ∧
    (∀ act id, w.Starts act id → w.CanStart act id) ∧
    ∀ act (number : Nat) p, w.pools[number]? = some p →
      ∃ p', (w.perform act).pools[number]? = some p' ∧
        (∀ index id gate, DialsAt p'.requests index id gate →
          DialsAt p.requests index id gate ∨ p.Lacks id) ∧
        (∀ id handle, p.registry.get? id = some handle →
          p'.registry.get? id = some handle ∨ p'.registry.get? id = none) ∧
        ∀ (handle : Nat) h, p.handles.length ≤ handle → p'.handles[handle]? = some h →
          p.closed = false ∧ p.registry.get? h.endpointId = none ∧
            p'.registry.get? h.endpointId = some handle := by
  refine ⟨?_, DialSequence.start_starts, fun act id h => h.kind (perform_spec act w).events, ?_⟩
  · intro number p hp index id gate s hDials
    have hSound := hReachable.sound hp
    refine ⟨hSound.sequence index id gate s hDials, fun other gate' s' hOther => ?_⟩
    exact hSound.single other index id gate' gate ⟨s', hOther⟩ ⟨s, hDials⟩
  · intro act number p hp
    have hSound := hReachable.sound hp
    obtain ⟨p', hp', hChange⟩ := (perform_spec act w).pools number p hp
    have hRegistered := hChange.registered hSound
    refine ⟨p', hp', fun _ _ _ h => hChange.dialsAt h, ?_, ?_⟩
    · exact fun id handle hFound => (hRegistered.fate hSound.keys hFound).imp_right And.left
    · exact fun handle h hFresh hMade => hRegistered.fresh hFresh hMade

/-- Two requests for one endpoint. The first one goes away while it dials, and the second one dials
in its place. -/
def handOver : World (FixedDialer Nat) Nat :=
  performAll [.openPool 10, .get 0 "db", .get 0 "db", .drop 0 0, .resume 0 1]
    { env := { factory := { dialer := { connection := 7, latency := 5 } } } }

theorem handOver_single : ∃ p, handOver.pools[0]? = some p ∧
    p.requests.map Request.endpointId = ["db", "db"] ∧ DialsAt p.requests 1 "db" 1 ∧
      ∀ index gate, DialsAt p.requests index "db" gate → index = 1 := by
  have hReachable : handOver.Reachable := ⟨_, _, rfl⟩
  obtain ⟨hSingle, _⟩ := single_flight hReachable
  refine ⟨_, rfl, rfl, ⟨_, rfl⟩, fun index gate hDials => ?_⟩
  obtain ⟨s, hDials⟩ := hDials
  exact (hSingle 0 _ rfl 1 "db" 1 _ rfl).2 index gate s hDials

end World

end Tether
