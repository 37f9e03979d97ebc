import Tether.Proofs.Run

/-! What ties gates, dial sequences and the registry of a pool together, in every state that a run
leads to. The requests stand beside the pool here, not inside it: in the middle of a turn a request
is already dialing while the pool still lists it as it was. -/

namespace Tether

variable {δ γ : Type}

/-- The request with this number is inside its sequence of dials, behind the gate. -/
def DialsAt (requests : List Request) (index : Nat) (id : String) (gate : Nat) : Prop :=
  ∃ sequence, requests[index]? = some { endpointId := id, state := .dialing gate sequence }

section Requests

variable {requests : List Request} {index other : Nat} {id id' : String} {gate gate' : Nat}
  {old new : RequestState}

theorem getElem?_set_iff {r : Request}
    (hOld : requests[index]? = some { endpointId := id, state := old }) :
    (requests.set index { endpointId := id, state := new })[other]? = some r ↔
      other = index ∧ r = { endpointId := id, state := new } ∨
        other ≠ index ∧ requests[other]? = some r := by
  have hBound := (List.getElem?_eq_some_iff.mp hOld).1
  by_cases hOther : index = other
  · subst hOther
    simp [hBound, eq_comm]
  · simp [List.getElem?_set_ne hOther, Ne.symm hOther]

theorem dialsAt_set (hOld : requests[index]? = some { endpointId := id, state := old }) :
    DialsAt (requests.set index { endpointId := id, state := new }) other id' gate ↔
      other = index ∧ id' = id ∧ (∃ sequence, new = .dialing gate sequence) ∨
        other ≠ index ∧ DialsAt requests other id' gate := by
  unfold DialsAt
  constructor
  · rintro ⟨sequence, hDials⟩
    rcases (getElem?_set_iff hOld).mp hDials with ⟨rfl, hNew⟩ | ⟨hOther, hDials⟩
    · cases hNew
      exact Or.inl ⟨rfl, rfl, sequence, rfl⟩
    · exact Or.inr ⟨hOther, sequence, hDials⟩
  · rintro (⟨rfl, rfl, sequence, rfl⟩ | ⟨hOther, sequence, hDials⟩)
    · exact ⟨sequence, (getElem?_set_iff hOld).mpr (Or.inl ⟨rfl, rfl⟩)⟩
    · exact ⟨sequence, (getElem?_set_iff hOld).mpr (Or.inr ⟨hOther, hDials⟩)⟩

/-- A request that does not dial now leaves the others as they were. -/
theorem dialsAt_set_over (hOld : requests[index]? = some { endpointId := id, state := old })
    (hIs : ∀ gate s, new ≠ .dialing gate s) :
    DialsAt (requests.set index { endpointId := id, state := new }) other id' gate ↔
      other ≠ index ∧ DialsAt requests other id' gate := by
  rw [dialsAt_set hOld]
  refine ⟨fun hOr => hOr.resolve_left ?_, Or.inr⟩
  rintro ⟨_, _, sequence, rfl⟩
  exact hIs gate sequence rfl

theorem dialsAt_set_of_not (hOld : requests[index]? = some { endpointId := id, state := old })
    (hWas : ∀ gate s, old ≠ .dialing gate s) (hIs : ∀ gate s, new ≠ .dialing gate s) :
    DialsAt (requests.set index { endpointId := id, state := new }) other id' gate ↔
      DialsAt requests other id' gate := by
  rw [dialsAt_set_over hOld hIs]
  constructor
  · exact And.right
  · intro hDials
    refine ⟨?_, hDials⟩
    rintro rfl
    obtain ⟨sequence, hDials⟩ := hDials
    cases hOld.symm.trans hDials
    exact hWas gate sequence rfl

/-- A request that was not dialing dials now. -/
theorem dialsAt_set_dialing {s : DialSequence}
    (hOld : requests[index]? = some { endpointId := id, state := old })
    (hWas : ∀ gate s, old ≠ .dialing gate s) :
    DialsAt (requests.set index { endpointId := id, state := .dialing gate s }) other id' gate' ↔
      other = index ∧ id' = id ∧ gate' = gate ∨ DialsAt requests other id' gate' := by
  rw [dialsAt_set hOld]
  constructor
  · rintro (⟨hOther, hId, _, hs⟩ | ⟨_, hd⟩)
    · cases hs
      exact Or.inl ⟨hOther, hId, rfl⟩
    · exact Or.inr hd
  · rintro (⟨hOther, hId, rfl⟩ | hd)
    · exact Or.inl ⟨hOther, hId, s, rfl⟩
    · refine Or.inr ⟨?_, hd⟩
      rintro rfl
      obtain ⟨s', hs'⟩ := hd
      cases hOld.symm.trans hs'
      exact hWas gate' s' rfl

theorem DialsAt.same (h : DialsAt requests index id gate) (h' : DialsAt requests index id' gate') :
    id = id' ∧ gate = gate' := by
  obtain ⟨_, h⟩ := h
  obtain ⟨_, h'⟩ := h'
  cases h.symm.trans h'
  exact ⟨rfl, rfl⟩

end Requests

theorem Handle.release_endpointId (now : Instant) (h : Handle γ) :
    (h.release now).2.endpointId = h.endpointId := by
  unfold Handle.release
  split <;> rfl

namespace Pool

/-- Every gate still to be decided has one live request that dials behind it, and no endpoint is
dialed twice. While the pool is open, its table of gates lists exactly the endpoints that are being
dialed, and none of these is registered. -/
structure Sound (p : Pool γ) (requests : List Request) : Prop where
  keys : p.registry.keys.Nodup
  registered : ∀ id handle, p.registry.get? id = some handle →
    id ≠ "" ∧ ∃ h, p.handles[handle]? = some h ∧ h.endpointId = id
  named : ∀ (index : Nat) id state, requests[index]? = some { endpointId := id, state := state } →
    state.isLive = true → id ≠ ""
  sequence : ∀ (index : Nat) id gate s,
    requests[index]? = some { endpointId := id, state := .dialing gate s } → s.endpointId = id
  undecided : ∀ index id gate, DialsAt requests index id gate → p.gates[gate]? = some .pending
  owned : ∀ gate, p.gates[gate]? = some Gate.pending → ∃ index id, DialsAt requests index id gate
  owner : ∀ index other id id' gate, DialsAt requests index id gate →
    DialsAt requests other id' gate → index = other
  single : ∀ index other id gate gate', DialsAt requests index id gate →
    DialsAt requests other id gate' → index = other
  listed : p.closed = false →
    ∀ id gate, p.creating.get? id = some gate ↔ ∃ index, DialsAt requests index id gate
  vacant : p.closed = false →
    ∀ index id gate, DialsAt requests index id gate → p.registry.get? id = none
  emptied : p.closed = true → p.creating = [] ∧ p.registry = []
  joined : ∀ (index : Nat) id gate,
    requests[index]? = some { endpointId := id, state := .waiting gate } →
      gate < p.gates.length ∧ ∀ other id', DialsAt requests other id' gate → id' = id

variable {p p' : Pool γ} {requests requests' : List Request} {index gate : Nat} {id : String}
  {old new : RequestState}

theorem sound_of_isNew (h : World.IsNew p) : p.Sound p.requests := by
  obtain ⟨linger, rfl, _⟩ := h
  constructor <;> simp [DialsAt, Table.get?_nil, Table.keys]

/-- Only these parts of a pool matter, and of its handles only to which endpoints they belong. -/
theorem Sound.frame (h : p.Sound requests) (hClosed : p'.closed = p.closed)
    (hRegistry : p'.registry = p.registry) (hGates : p'.gates = p.gates)
    (hCreating : p'.creating = p.creating)
    (hHandles : ∀ (handle : Nat) (h : Handle γ), p.handles[handle]? = some h →
      ∃ h', p'.handles[handle]? = some h' ∧ h'.endpointId = h.endpointId) :
    p'.Sound requests := by
  obtain ⟨keys, registered, named, sequence, undecided, owned, owner, single, listed, vacant,
    emptied, joined⟩ := h
  rw [← hGates] at undecided owned joined
  rw [← hRegistry] at keys registered
  rw [← hClosed, ← hCreating] at listed
  rw [← hClosed, ← hRegistry] at vacant
  rw [← hClosed, ← hRegistry, ← hCreating] at emptied
  refine ⟨keys, ?_, named, sequence, undecided, owned, owner, single, listed, vacant, emptied,
    joined⟩
  intro id handle hFound
  obtain ⟨hNamed, h, hMade, hId⟩ := registered id handle hFound
  obtain ⟨h', hMade', hSame⟩ := hHandles handle h hMade
  exact ⟨hNamed, h', hMade', hSame.trans hId⟩

/-- Of the requests only those matter that dial or wait. -/
theorem Sound.relist (h : p.Sound requests)
    (hDials : ∀ index id gate, DialsAt requests' index id gate ↔ DialsAt requests index id gate)
    (hNamed : ∀ (index : Nat) id state,
      requests'[index]? = some { endpointId := id, state := state } → state.isLive = true → id ≠ "")
    (hSequence : ∀ (index : Nat) id gate s,
      requests'[index]? = some { endpointId := id, state := .dialing gate s } → s.endpointId = id)
    (hJoined : ∀ (index : Nat) id gate,
      requests'[index]? = some { endpointId := id, state := .waiting gate } →
        gate < p.gates.length ∧ ∀ other id', DialsAt requests other id' gate → id' = id) :
    p.Sound requests' := by
  have hSame : DialsAt requests' = DialsAt requests := by
    funext index id gate
    exact propext (hDials index id gate)
  obtain ⟨keys, registered, _, _, undecided, owned, owner, single, listed, vacant, emptied, _⟩ := h
  rw [← hSame] at undecided owned owner single listed vacant hJoined
  exact ⟨keys, registered, hNamed, hSequence, undecided, owned, owner, single, listed, vacant,
    emptied, hJoined⟩

/-- One more request, or one that has changed: it is named if it is live. -/
theorem Sound.named_set (h : p.Sound requests)
    (hOld : requests[index]? = some { endpointId := id, state := old })
    (hNamed : new.isLive = true → id ≠ "") (other : Nat) (id' : String) (state : RequestState)
    (hState : (requests.set index { endpointId := id, state := new })[other]? =
      some { endpointId := id', state := state })
    (hLive : state.isLive = true) : id' ≠ "" := by
  rcases (getElem?_set_iff hOld).mp hState with ⟨_, hNew⟩ | ⟨_, hState⟩
  · cases hNew
    exact hNamed hLive
  · exact h.named other id' state hState hLive

theorem Sound.sequence_set (h : p.Sound requests)
    (hOld : requests[index]? = some { endpointId := id, state := old })
    (hNew : ∀ gate s, new = .dialing gate s → s.endpointId = id) (other : Nat) (id' : String)
    (gate : Nat) (s : DialSequence)
    (hs : (requests.set index { endpointId := id, state := new })[other]? =
      some { endpointId := id', state := .dialing gate s }) : s.endpointId = id' := by
  rcases (getElem?_set_iff hOld).mp hs with ⟨_, hSet⟩ | ⟨_, hs⟩
  · cases hSet
    exact hNew gate s rfl
  · exact h.sequence other id' gate s hs

/-- A request that does not wait now joins no gate. -/
theorem Sound.joined_set (h : p.Sound requests)
    (hOld : requests[index]? = some { endpointId := id, state := old })
    (hNew : ∀ gate, new ≠ .waiting gate) (other : Nat) (id' : String) (gate : Nat)
    (hw : (requests.set index { endpointId := id, state := new })[other]? =
      some { endpointId := id', state := .waiting gate }) :
    gate < p.gates.length ∧ ∀ other id'', DialsAt requests other id'' gate → id'' = id' := by
  rcases (getElem?_set_iff hOld).mp hw with ⟨_, hSet⟩ | ⟨_, hw⟩
  · cases hSet
    exact absurd rfl (hNew gate)
  · exact h.joined other id' gate hw

/-- A request that does not dial ends, or waits at a gate for its own endpoint. -/
theorem Sound.turn (h : p.Sound requests)
    (hOld : requests[index]? = some { endpointId := id, state := old })
    (hWas : ∀ gate s, old ≠ .dialing gate s) (hIs : ∀ gate s, new ≠ .dialing gate s)
    (hJoins : ∀ gate, new = .waiting gate → id ≠ "" ∧
      gate < p.gates.length ∧ ∀ other id', DialsAt requests other id' gate → id' = id) :
    p.Sound (requests.set index { endpointId := id, state := new }) := by
  have hNamed (hLive : new.isLive = true) : id ≠ "" := by
    cases new with
    | waiting gate => exact (hJoins gate rfl).1
    | dialing gate s => exact absurd rfl (hIs gate s)
    | _ => cases hLive
  refine h.relist (fun _ _ _ => dialsAt_set_of_not hOld hWas hIs) (h.named_set hOld hNamed)
    (h.sequence_set hOld fun gate s hs => absurd hs (hIs gate s)) ?_
  intro other id' gate hw
  rcases (getElem?_set_iff hOld).mp hw with ⟨_, hNew⟩ | ⟨_, hw⟩
  · cases hNew
    exact (hJoins gate rfl).2
  · exact h.joined other id' gate hw

/-- A sequence of dials goes on behind its gate. -/
theorem Sound.continue {s s' : DialSequence} (h : p.Sound requests)
    (hOld : requests[index]? = some { endpointId := id, state := .dialing gate s })
    (hSame : s'.endpointId = s.endpointId) :
    p.Sound (requests.set index { endpointId := id, state := .dialing gate s' }) := by
  have hSequence (gate' : Nat) (s'' : DialSequence)
      (hs : RequestState.dialing gate s' = .dialing gate' s'') : s''.endpointId = id := by
    cases hs
    exact hSame.trans (h.sequence index id gate s hOld)
  refine h.relist (fun other id' gate' => ?_)
    (h.named_set hOld fun _ => h.named index id _ hOld rfl) (h.sequence_set hOld hSequence)
    (h.joined_set hOld nofun)
  rw [dialsAt_set hOld]
  constructor
  · rintro (⟨rfl, rfl, sequence, hs⟩ | ⟨_, hDials⟩)
    · cases hs
      exact ⟨s, hOld⟩
    · exact hDials
  · intro hDials
    by_cases hOther : other = index
    · subst hOther
      obtain ⟨rfl, rfl⟩ := hDials.same ⟨s, hOld⟩
      exact Or.inl ⟨rfl, rfl, s', rfl⟩
    · exact Or.inr ⟨hOther, hDials⟩

/-- Opening a gate takes it out of the table, and no other gate. -/
theorem Sound.listed_openGate (h : p.Sound requests) (hOpen : p.closed = false)
    (hOwner : DialsAt requests index id gate) (outcome : Gate) (id' : String) (gate' : Nat) :
    (p.openGate gate id outcome).creating.get? id' = some gate' ↔
      ∃ other, other ≠ index ∧ DialsAt requests other id' gate' := by
  have hListed := (h.listed hOpen id gate).mpr ⟨index, hOwner⟩
  have hErased : (p.openGate gate id outcome).creating = p.creating.erase id := if_pos hListed
  rw [hErased, Table.get?_erase]
  by_cases hId : id' = id
  · subst hId
    rw [if_pos rfl]
    refine ⟨nofun, ?_⟩
    rintro ⟨other, hOther, hd⟩
    exact absurd (h.single other index id' gate' gate hd hOwner) hOther
  · rw [if_neg hId, h.listed hOpen]
    refine exists_congr fun other => (and_iff_right_of_imp fun hd => ?_).symm
    rintro rfl
    exact hId (hd.same hOwner).1

/-- Opening a gate decides that gate only, so every other one keeps the request that dials. -/
theorem Sound.pending_openGate {outcome : Gate} (h : p.Sound requests)
    (hOwner : DialsAt requests index id gate) (hDecided : outcome ≠ .pending) (gate' : Nat) :
    (p.openGate gate id outcome).gates[gate']? = some .pending ↔
      ∃ other id', other ≠ index ∧ DialsAt requests other id' gate' := by
  show (p.gates.set gate outcome)[gate']? = some .pending ↔ _
  by_cases hGate : gate = gate'
  · subst hGate
    rw [List.getElem?_set_self (List.getElem?_eq_some_iff.mp (h.undecided _ _ _ hOwner)).1]
    refine ⟨fun hPending => absurd (Option.some.inj hPending) hDecided, ?_⟩
    rintro ⟨other, id', hOther, hd⟩
    exact absurd (h.owner other index id' id gate hd hOwner) hOther
  · rw [List.getElem?_set_ne hGate]
    constructor
    · intro hPending
      obtain ⟨other, id', hd⟩ := h.owned gate' hPending
      refine ⟨other, id', ?_, hd⟩
      rintro rfl
      exact hGate (hOwner.same hd).2
    · rintro ⟨other, id', _, hd⟩
      exact h.undecided other id' gate' hd

/-- A request that dials ends, and its gate is decided with it. -/
theorem Sound.retire {s : DialSequence} {outcome : Gate} (h : p.Sound requests)
    (hOld : requests[index]? = some { endpointId := id, state := .dialing gate s })
    (hEnds : new.isLive = false) (hDecided : outcome ≠ .pending) :
    (p.openGate gate id outcome).Sound
      (requests.set index { endpointId := id, state := new }) := by
  have hIs (gate' : Nat) (s' : DialSequence) : new ≠ .dialing gate' s' := by
    rintro rfl
    cases hEnds
  have hWaits (gate' : Nat) : new ≠ .waiting gate' := by
    rintro rfl
    cases hEnds
  have hOwner : DialsAt requests index id gate := ⟨s, hOld⟩
  have hDials (other : Nat) (id' : String) (gate' : Nat) :
      DialsAt (requests.set index { endpointId := id, state := new }) other id' gate' ↔
        other ≠ index ∧ DialsAt requests other id' gate' :=
    dialsAt_set_over hOld hIs
  refine ⟨h.keys, h.registered, h.named_set hOld fun _ => h.named index id _ hOld rfl,
    h.sequence_set hOld fun gate' s' hs => absurd hs (hIs gate' s'), ?_, ?_, ?_, ?_, ?_, ?_, ?_, ?_⟩
  · intro other id' gate' hd
    exact (h.pending_openGate hOwner hDecided gate').mpr ⟨other, id', (hDials _ _ _).mp hd⟩
  · intro gate' hPending
    obtain ⟨other, id', hd⟩ := (h.pending_openGate hOwner hDecided gate').mp hPending
    exact ⟨other, id', (hDials other id' gate').mpr hd⟩
  · intro i j id' id'' gate' hi hj
    rw [hDials] at hi hj
    exact h.owner i j id' id'' gate' hi.2 hj.2
  · intro i j id' gate' gate'' hi hj
    rw [hDials] at hi hj
    exact h.single i j id' gate' gate'' hi.2 hj.2
  · intro hOpen id' gate'
    rw [h.listed_openGate hOpen hOwner]
    exact exists_congr fun other => (hDials other id' gate').symm
  · intro hOpen other id' gate' hd
    exact h.vacant hOpen other id' gate' ((hDials other id' gate').mp hd).2
  · intro hClosed
    obtain ⟨hCreating, hRegistry⟩ := h.emptied hClosed
    exact ⟨by simp [openGate, hCreating, Table.get?_nil], hRegistry⟩
  · intro other id' gate' hw
    obtain ⟨hBound, hSame⟩ := h.joined_set hOld hWaits other id' gate' hw
    refine ⟨by simpa [openGate] using hBound, fun j id'' hd => ?_⟩
    exact hSame j id'' ((hDials j id'' gate').mp hd).2

theorem Lacks.scanned {allowed : Prop} {clock : Option Instant} (h : p.Lacks id)
    (hScanned : Scanned allowed clock p p') : p'.Lacks id := by
  refine ⟨?_, hScanned.registry_none h.unregistered, ?_⟩
  · rw [hScanned.eq]
    exact h.open_
  · rw [hScanned.eq]
    exact h.undialed

theorem gates_raiseGate (id : String) (p : Pool γ) (gate : Nat) :
    (p.raiseGate id).gates[gate]? = some .pending ↔
      gate = p.gates.length ∨ p.gates[gate]? = some .pending := by
  show (p.gates ++ [Gate.pending])[gate]? = some .pending ↔ _
  rw [List.getElem?_append]
  by_cases hBound : gate < p.gates.length
  · rw [if_pos hBound]
    exact ⟨Or.inr, fun hOr => hOr.resolve_left (Nat.ne_of_lt hBound)⟩
  · rw [if_neg hBound, List.getElem?_singleton, List.getElem?_eq_none (by omega)]
    by_cases hGate : gate - p.gates.length = 0
    · simp only [hGate, ↓reduceIte, true_iff]
      omega
    · simp only [hGate, ↓reduceIte, reduceCtorEq, or_false, false_iff]
      omega

/-- Nobody dials an endpoint for which an open pool has no gate. -/
theorem Sound.not_dialsAt_of_lacks (h : p.Sound requests) (hLacks : p.Lacks id) (other gate : Nat) :
    ¬DialsAt requests other id gate := by
  intro hd
  have hListed := (h.listed hLacks.open_ id gate).mpr ⟨other, hd⟩
  rw [hLacks.undialed] at hListed
  cases hListed

/-- Nobody dials behind a gate that is yet to be set up. -/
theorem Sound.not_dialsAt_length (h : p.Sound requests) (other : Nat) (id : String) :
    ¬DialsAt requests other id p.gates.length := by
  intro hd
  exact Nat.lt_irrefl _ (List.getElem?_eq_some_iff.mp (h.undecided other id _ hd)).1

/-- Setting up a gate puts it into the table beside the others. -/
theorem Sound.listed_raiseGate (h : p.Sound requests) (hLacks : p.Lacks id) (id' : String)
    (gate' : Nat) :
    (p.raiseGate id).creating.get? id' = some gate' ↔
      id' = id ∧ gate' = p.gates.length ∨ ∃ other, DialsAt requests other id' gate' := by
  show (p.creating.insert id p.gates.length).get? id' = some gate' ↔ _
  rw [Table.get?_insert]
  by_cases hId : id' = id
  · subst hId
    rw [if_pos rfl]
    constructor
    · intro hGate
      cases hGate
      exact Or.inl ⟨rfl, rfl⟩
    · rintro (⟨_, rfl⟩ | ⟨other, hd⟩)
      · rfl
      · exact absurd hd (h.not_dialsAt_of_lacks hLacks other gate')
  · rw [if_neg hId, h.listed hLacks.open_]
    exact (or_iff_right fun hSame => hId hSame.1).symm

/-- A request sets up a gate where there was none and begins to dial. -/
theorem Sound.raise {s : DialSequence} (h : p.Sound requests) (hLacks : p.Lacks id)
    (hOld : requests[index]? = some { endpointId := id, state := old })
    (hWas : ∀ gate s, old ≠ .dialing gate s) (hNamed : id ≠ "") (hSequence : s.endpointId = id) :
    (p.raiseGate id).Sound
      (requests.set index { endpointId := id, state := .dialing p.gates.length s }) := by
  have hDials (other : Nat) (id' : String) (gate' : Nat) :
      DialsAt (requests.set index { endpointId := id, state := .dialing p.gates.length s })
          other id' gate' ↔
        other = index ∧ id' = id ∧ gate' = p.gates.length ∨ DialsAt requests other id' gate' :=
    dialsAt_set_dialing hOld hWas
  have hNobody := h.not_dialsAt_of_lacks hLacks
  have hFresh := h.not_dialsAt_length
  have hBegins (gate' : Nat) (s' : DialSequence)
      (hs : RequestState.dialing p.gates.length s = .dialing gate' s') : s'.endpointId = id := by
    cases hs
    exact hSequence
  have hWaits (gate' : Nat) : RequestState.dialing p.gates.length s ≠ .waiting gate' := nofun
  refine ⟨h.keys, h.registered, h.named_set hOld fun _ => hNamed, h.sequence_set hOld hBegins,
    ?_, ?_, ?_, ?_, ?_, ?_, ?_, ?_⟩
  · intro other id' gate' hd
    rw [gates_raiseGate]
    rcases (hDials other id' gate').mp hd with ⟨_, _, hGate⟩ | hd
    · exact Or.inl hGate
    · exact Or.inr (h.undecided other id' gate' hd)
  · intro gate' hPending
    rcases (gates_raiseGate id p gate').mp hPending with hGate | hPending
    · exact ⟨index, id, (hDials index id gate').mpr (Or.inl ⟨rfl, rfl, hGate⟩)⟩
    · obtain ⟨other, id', hd⟩ := h.owned gate' hPending
      exact ⟨other, id', (hDials other id' gate').mpr (Or.inr hd)⟩
  · intro i j id' id'' gate' hi hj
    rcases (hDials i id' gate').mp hi with ⟨rfl, _, rfl⟩ | hi
    · rcases (hDials j id'' _).mp hj with ⟨rfl, _, _⟩ | hj
      · rfl
      · exact absurd hj (hFresh j id'')
    · rcases (hDials j id'' gate').mp hj with ⟨_, _, rfl⟩ | hj
      · exact absurd hi (hFresh i id')
      · exact h.owner i j id' id'' gate' hi hj
  · intro i j id' gate' gate'' hi hj
    rcases (hDials i id' gate').mp hi with ⟨rfl, rfl, _⟩ | hOld'
    · rcases (hDials j _ gate'').mp hj with ⟨rfl, _, _⟩ | hj
      · rfl
      · exact absurd hj (hNobody j gate'')
    · rcases (hDials j id' gate'').mp hj with ⟨_, rfl, _⟩ | hj
      · exact absurd hOld' (hNobody i gate')
      · exact h.single i j id' gate' gate'' hOld' hj
  · intro hOpen id' gate'
    rw [h.listed_raiseGate hLacks]
    constructor
    · rintro (⟨hId, hGate⟩ | ⟨other, hd⟩)
      · exact ⟨index, (hDials index id' gate').mpr (Or.inl ⟨rfl, hId, hGate⟩)⟩
      · exact ⟨other, (hDials other id' gate').mpr (Or.inr hd)⟩
    · rintro ⟨other, hd⟩
      rcases (hDials other id' gate').mp hd with ⟨_, hId, hGate⟩ | hd
      · exact Or.inl ⟨hId, hGate⟩
      · exact Or.inr ⟨other, hd⟩
  · intro hOpen other id' gate' hd
    rcases (hDials other id' gate').mp hd with ⟨_, rfl, _⟩ | hd
    · exact hLacks.unregistered
    · exact h.vacant hOpen other id' gate' hd
  · intro hClosed
    exact absurd hLacks.open_ (by simpa [raiseGate] using hClosed)
  · intro other id' gate' hw
    obtain ⟨hBound, hSame⟩ := h.joined_set hOld hWaits other id' gate' hw
    refine ⟨?_, fun j id'' hd => ?_⟩
    · simp only [raiseGate, List.length_append, List.length_singleton]
      omega
    · rcases (hDials j id'' gate').mp hd with ⟨_, _, rfl⟩ | hd
      · exact absurd hBound (Nat.lt_irrefl _)
      · exact hSame j id'' hd

/-- A handle is registered for an endpoint that nobody dials any more. -/
theorem Sound.enroll {now : Instant} {connection : γ} (h : p.Sound requests)
    (hOpen : p.closed = false) (hNamed : id ≠ "")
    (hNobody : ∀ other gate, ¬DialsAt requests other id gate) :
    (p.enroll now id connection).Sound requests := by
  obtain ⟨keys, registered, named, sequence, undecided, owned, owner, single, listed, vacant, _,
    joined⟩ := h
  refine ⟨Table.nodup_insert keys _ _, ?_, named, sequence, undecided, owned, owner, single, listed,
    ?_, ?_, joined⟩
  · intro id' handle hFound
    have hFound : (p.registry.insert id p.handles.length).get? id' = some handle := hFound
    show id' ≠ "" ∧
      ∃ h, (p.handles ++ [(Handle.fresh now id connection).borrow now])[handle]? = some h ∧ _
    rw [Table.get?_insert] at hFound
    by_cases hId : id' = id
    · subst hId
      rw [if_pos rfl] at hFound
      cases hFound
      exact ⟨hNamed, (Handle.fresh now id' connection).borrow now, by simp, rfl⟩
    · rw [if_neg hId] at hFound
      obtain ⟨hNamed', h, hMade, hSame⟩ := registered id' handle hFound
      exact ⟨hNamed', h,
        (List.getElem?_append_left (List.getElem?_eq_some_iff.mp hMade).1).trans hMade, hSame⟩
  · intro hOpen other id' gate' hd
    show (p.registry.insert id p.handles.length).get? id' = none
    rw [Table.get?_insert, if_neg ?_]
    · exact vacant hOpen other id' gate' hd
    · rintro rfl
      exact hNobody other gate' hd
  · intro hClosed
    exact absurd hOpen (by simpa [Pool.enroll, count] using hClosed)

/-- Taking handles out of the registry, for whatever reason, harms nothing. -/
theorem Sound.pruned (h : p.Sound requests) (keep : String × Nat → Bool)
    (f : Counters → Counters) :
    ({ p with registry := p.registry.filter keep }.count f).Sound requests := by
  obtain ⟨keys, registered, named, sequence, undecided, owned, owner, single, listed, vacant,
    emptied, joined⟩ := h
  refine ⟨Table.nodup_filter keys keep, ?_, named, sequence, undecided, owned, owner, single,
    listed, ?_, ?_, joined⟩
  · intro id handle hFound
    have hFound : Table.get? (p.registry.filter keep) id = some handle := hFound
    rw [Table.get?_filter keys, Option.filter_eq_some_iff] at hFound
    exact registered id handle hFound.1
  · intro hOpen index id gate hd
    exact Table.get?_filter_of_none (vacant hOpen index id gate hd) keep
  · intro hClosed
    obtain ⟨hCreating, hRegistry⟩ := emptied hClosed
    refine ⟨hCreating, ?_⟩
    show p.registry.filter keep = []
    rw [hRegistry, List.filter_nil]

theorem Sound.scanned {allowed : Prop} {clock : Option Instant} (h : p.Sound requests)
    (hScanned : Scanned allowed clock p p') : p'.Sound requests := by
  rcases hScanned with rfl | ⟨_, _, now, _, rfl⟩
  · exact h
  · exact h.pruned _ _

/-- The gates that a closed pool forgets keep their owners. -/
theorem Sound.close (h : p.Sound requests) (reaper : Reaper) :
    Sound { p with closed := true, creating := [], registry := [], shutdown := true, reaper }
      requests := by
  obtain ⟨_, _, named, sequence, undecided, owned, owner, single, _, _, _, joined⟩ := h
  exact ⟨by simp [Table.keys], by simp [Table.get?_nil], named, sequence, undecided, owned, owner,
    single, nofun, nofun, fun _ => ⟨rfl, rfl⟩, joined⟩

/-- A request that is over from the start changes nothing. -/
theorem Sound.append (h : p.Sound requests) (hEnds : new.isLive = false) :
    p.Sound (requests ++ [{ endpointId := id, state := new }]) := by
  have hNew {other : Nat} {r : Request} (hLive : r.state.isLive = true) :
      (requests ++ [{ endpointId := id, state := new }])[other]? = some r ↔
        requests[other]? = some r := by
    rw [List.getElem?_append]
    by_cases hBound : other < requests.length
    · rw [if_pos hBound]
    · rw [if_neg hBound, List.getElem?_singleton, List.getElem?_eq_none (by omega)]
      constructor
      · intro hr
        split at hr
        · cases hr
          cases hEnds.symm.trans hLive
        · cases hr
      · nofun
  refine h.relist ?_ ?_ ?_ ?_
  · intro other id' gate
    exact exists_congr fun s => hNew rfl
  · intro other id' state hState hLive
    exact h.named other id' state ((hNew hLive).mp hState) hLive
  · intro other id' gate s hs
    exact h.sequence other id' gate s ((hNew rfl).mp hs)
  · intro other id' gate hw
    exact h.joined other id' gate ((hNew rfl).mp hw)

/-! ### Turns and changes -/

theorem Sound.count (h : p.Sound requests) (f : Counters → Counters) :
    (p.count f).Sound requests :=
  h.frame rfl rfl rfl rfl fun _ h hMade => ⟨h, hMade, rfl⟩

/-- What callers do with a handle does not move it to another endpoint. -/
theorem Sound.modifyHandle (h : p.Sound requests) (handle : Nat) {f : Handle γ → Handle γ}
    (hSame : ∀ h, (f h).endpointId = h.endpointId) :
    (p.modifyHandle handle f).Sound requests := by
  refine h.frame rfl rfl rfl rfl fun other h hMade => ?_
  by_cases hOther : handle = other
  · subst hOther
    exact ⟨f h, by simp [Pool.modifyHandle, hMade], hSame h⟩
  · exact ⟨h, by simp [Pool.modifyHandle, hOther, hMade], rfl⟩

theorem Sound.tended (h : p.Sound requests) (hTended : p.Tended p') : p'.Sound requests := by
  obtain ⟨_, _, _, _, rfl, _⟩ := hTended
  exact h.frame rfl rfl rfl rfl fun _ h hMade => ⟨h, hMade, rfl⟩

theorem roused_tended (p : Pool γ) : p.Tended p.roused := by
  refine ⟨_, _, _, _, rfl, fun hStopped => ?_, id⟩
  rw [hStopped]

variable {allowed : Prop} {clock : Option Instant} {progress : DialProgress γ}
  {state : RequestState}

theorem Sound.followed {s : DialSequence} (h : p.Sound requests)
    (hOld : requests[index]? = some { endpointId := id, state := .dialing gate s })
    (hFollowed : Followed clock gate id s.endpointId p progress state p') :
    p'.Sound (requests.set index { endpointId := id, state }) := by
  cases hFollowed with
  | waiting same => exact h.continue hOld same
  | failed error => exact (h.count _).retire hOld rfl nofun
  | unread => exact h.retire hOld rfl nofun
  | discarded => exact h.retire hOld rfl nofun
  | created shown open_ =>
      have hRetired : (p.openGate gate id .created).Sound
          (requests.set index { endpointId := id, state := .granted p.handles.length }) :=
        h.retire hOld rfl nofun
      refine hRetired.enroll open_ (h.named index id _ hOld rfl) fun other gate' hd => ?_
      rcases (dialsAt_set hOld).mp hd with ⟨_, _, _, hs⟩ | ⟨hOther, hd⟩
      · cases hs
      · exact hOther (h.single other index id gate' gate hd ⟨s, hOld⟩)

theorem Sound.looked (h : p.Sound requests)
    (hOld : requests[index]? = some { endpointId := id, state := old })
    (hWas : ∀ gate s, old ≠ .dialing gate s) (hNamed : id ≠ "")
    (hLooked : Looked allowed clock id p state p') :
    p'.Sound (requests.set index { endpointId := id, state }) := by
  cases hLooked with
  | closed | unread => exact h.turn hOld hWas nofun nofun
  | @reused handle now open_ registered shown =>
      have hTurn : p.Sound (requests.set index { endpointId := id, state := .granted handle }) :=
        h.turn hOld hWas nofun nofun
      exact (hTurn.modifyHandle handle (f := Handle.borrow now) fun _ => rfl).count _
  | queued open_ unregistered dialed =>
      refine h.turn hOld hWas nofun fun gate hGate => ?_
      cases hGate
      obtain ⟨owner, hOwner⟩ := (h.listed open_ id _).mp dialed
      refine ⟨hNamed, (List.getElem?_eq_some_iff.mp (h.undecided owner id _ hOwner)).1, ?_⟩
      intro other id' hd
      obtain rfl := h.owner owner other id id' _ hOwner hd
      exact (hd.same hOwner).1
  | @dials _ _ q _ lacks scanned follows =>
      -- Until its first turn is over the request counts as dialing, whatever its sequence is then.
      let s : DialSequence := ⟨id, .initial, 0, 0, .resting 0⟩
      have hRaised :=
        (h.scanned scanned).raise (s := s) (lacks.scanned scanned) hOld hWas hNamed rfl
      have hNow : (requests.set index
          { endpointId := id, state := .dialing q.gates.length s })[index]? = _ :=
        List.getElem?_set_self (List.getElem?_eq_some_iff.mp hOld).1
      simpa using hRaised.followed hNow follows

theorem Sound.entered (h : p.Sound requests) (hEntered : Entered allowed clock id p state p') :
    p'.Sound (requests ++ [{ endpointId := id, state }]) := by
  cases hEntered with
  | closed => exact h.append rfl
  | unnamed => exact (h.tended (roused_tended p)).append rfl
  | looked open_ named looks =>
      have hPlace : Sound p.roused (requests ++ [{ endpointId := id, state := .dropped }]) :=
        (h.tended (roused_tended p)).append rfl
      have hNow : (requests ++ [{ endpointId := id, state := .dropped }])[requests.length]? =
          some { endpointId := id, state := .dropped } := by
        simp
      simpa using hPlace.looked hNow nofun named looks

theorem Sound.passed (h : p.Sound requests)
    (hOld : requests[index]? = some { endpointId := id, state := .waiting gate })
    (hPassed : Passed allowed clock gate id p state p') :
    p'.Sound (requests.set index { endpointId := id, state }) := by
  cases hPassed with
  | failed | closed => exact h.turn hOld nofun nofun nofun
  | queued =>
      refine h.turn hOld nofun nofun fun gate' hGate => ?_
      cases hGate
      exact ⟨h.named index id _ hOld rfl, h.joined index id gate hOld⟩
  | looked decided looks => exact h.looked hOld nofun (h.named index id _ hOld rfl) looks

theorem Scanned.requests_eq (h : Scanned allowed clock p p') : p'.requests = p.requests := by
  rw [h.eq]

theorem Scanned.gates_eq (h : Scanned allowed clock p p') : p'.gates = p.gates := by
  rw [h.eq]

theorem Followed.requests_eq {dialed : String}
    (h : Followed clock gate id dialed p progress state p') : p'.requests = p.requests := by
  cases h <;> rfl

theorem Looked.requests_eq (h : Looked allowed clock id p state p') : p'.requests = p.requests := by
  cases h with
  | dials lacks scanned follows => exact follows.requests_eq.trans scanned.requests_eq
  | _ => rfl

theorem Entered.requests_eq (h : Entered allowed clock id p state p') :
    p'.requests = p.requests := by
  cases h with
  | looked open_ named looks => exact looks.requests_eq
  | _ => rfl

theorem Passed.requests_eq (h : Passed allowed clock gate id p state p') :
    p'.requests = p.requests := by
  cases h with
  | looked decided looks => exact looks.requests_eq
  | _ => rfl

theorem requests_setRequest (hOld : p.requests[index]? = some { endpointId := id, state := old }) :
    (p.setRequest index new).requests =
      p.requests.set index { endpointId := id, state := new } := by
  have hBound := (List.getElem?_eq_some_iff.mp hOld).1
  apply List.ext_getElem?
  intro other
  by_cases hOther : index = other
  · subst hOther
    have hId : p.requests[index].endpointId = id := by
      rw [(List.getElem?_eq_some_iff.mp hOld).2]
    simp [setRequest, hBound, hId]
  · simp [setRequest, hOther]

theorem setRequest_of_ne {other : Nat} (hOther : index ≠ other) :
    (p.setRequest index new).requests[other]? = p.requests[other]? := by
  simp [setRequest, hOther]

/-- The pool lists what became of the request whose turn it was. -/
theorem Sound.settled (hRequests : p'.requests = p.requests)
    (hOld : p.requests[index]? = some { endpointId := id, state := old })
    (h : p'.Sound (p.requests.set index { endpointId := id, state := new })) :
    (p'.setRequest index new).Sound (p'.setRequest index new).requests := by
  rw [requests_setRequest (hRequests ▸ hOld), hRequests]
  exact h.frame rfl rfl rfl rfl fun _ h hMade => ⟨h, hMade, rfl⟩

theorem Sound.changed {number : Nat} {act : Act δ} (h : p.Sound p.requests)
    (hChange : Change allowed clock number act p p') : p'.Sound p'.requests := by
  cases hChange with
  | tended scanned same =>
      have hScanned := h.scanned scanned
      rw [← scanned.requests_eq] at hScanned
      obtain ⟨_, _, _, _, rfl, hLasting⟩ := same
      exact hScanned.tended ⟨_, _, _, _, rfl, hLasting⟩
  | held => exact h.frame rfl rfl rfl rfl fun _ h hMade => ⟨h, hMade, rfl⟩
  | entered enters =>
      have hEntered := h.entered enters
      rw [← enters.requests_eq] at hEntered
      exact hEntered.frame rfl rfl rfl rfl fun _ h hMade => ⟨h, hMade, rfl⟩
  | passed waits passes => exact .settled passes.requests_eq waits (h.passed waits passes)
  | followed dials scanned follows =>
      exact .settled (follows.requests_eq.trans scanned.requests_eq) dials
        ((h.scanned scanned).followed dials follows)
  | left waits => exact .settled rfl waits (h.turn waits nofun nofun nofun)
  | gaveUp dials => exact .settled rfl dials (h.retire dials rfl nofun)
  | borrowed scanned | touched scanned =>
      have hScanned := h.scanned scanned
      rw [← scanned.requests_eq] at hScanned
      exact hScanned.modifyHandle _ fun _ => rfl
  | givenBack scanned =>
      have hScanned := h.scanned scanned
      rw [← scanned.requests_eq] at hScanned
      exact hScanned.modifyHandle _ (Handle.release_endpointId _)
  | reported => exact h.pruned _ _
  | closed => exact h.close _

/-! ### Requests and gates that an act leaves alone -/

/-- A request changes only while it is live, in its own turn or when its caller goes away. -/
theorem Change.request_of_unmoved {number other : Nat} {act : Act δ} {r : Request}
    (h : Change allowed clock number act p p')
    (hUnmoved : r.state.isLive = true → act ≠ .resume number other ∧ act ≠ .drop number other)
    (hRequest : p.requests[other]? = some r) : p'.requests[other]? = some r := by
  have hOther {index : Nat} {id : String} {old : RequestState}
      (hOld : p.requests[index]? = some { endpointId := id, state := old })
      (hLive : old.isLive = true)
      (hAct : act = .resume number index ∨ act = .drop number index) : index ≠ other := by
    rintro rfl
    cases hRequest.symm.trans hOld
    rcases hAct with hAct | hAct
    · exact (hUnmoved hLive).1 hAct
    · exact (hUnmoved hLive).2 hAct
  cases h with
  | tended scanned same =>
      obtain ⟨_, _, _, _, rfl, _⟩ := same
      exact scanned.requests_eq ▸ hRequest
  | held | reported | closed => exact hRequest
  | borrowed scanned | givenBack scanned | touched scanned =>
      exact scanned.requests_eq ▸ hRequest
  | entered enters =>
      rw [← enters.requests_eq] at hRequest
      exact (List.getElem?_append_left (List.getElem?_eq_some_iff.mp hRequest).1).trans hRequest
  | passed waits passes =>
      rw [setRequest_of_ne (hOther waits rfl (Or.inl rfl)), passes.requests_eq]
      exact hRequest
  | followed dials scanned follows =>
      rw [setRequest_of_ne (hOther dials rfl (Or.inl rfl)),
        follows.requests_eq.trans scanned.requests_eq]
      exact hRequest
  | left waits => exact (setRequest_of_ne (hOther waits rfl (Or.inr rfl))).trans hRequest
  | gaveUp dials => exact (setRequest_of_ne (hOther dials rfl (Or.inr rfl))).trans hRequest

/-- In its turn a request stays as it was, passes its gate, or follows its sequence of dials. -/
theorem Change.request_of_turn {number : Nat}
    (h : Change allowed clock number (.resume number index : Act δ) p p')
    (hOld : p.requests[index]? = some { endpointId := id, state := old }) :
    ∃ state, p'.requests[index]? = some { endpointId := id, state := state } ∧
      (state = old ∨
        (∃ gate q, old = .waiting gate ∧ Passed allowed clock gate id p state q) ∨
        ∃ gate s q progress r, old = .dialing gate s ∧ Scanned allowed clock p q ∧
          Followed clock gate id s.endpointId q progress state r) := by
  have hBound := (List.getElem?_eq_some_iff.mp hOld).1
  have hAnswer {q : Pool γ} {state : RequestState} (hSame : q.requests = p.requests) :
      (q.setRequest index state).requests[index]? =
        some { endpointId := id, state := state } := by
    rw [requests_setRequest (hSame ▸ hOld), hSame]
    exact List.getElem?_set_self hBound
  cases h with
  | tended scanned same =>
      obtain ⟨_, _, _, _, rfl, _⟩ := same
      exact ⟨old, scanned.requests_eq ▸ hOld, Or.inl rfl⟩
  | givenBack scanned => exact ⟨old, scanned.requests_eq ▸ hOld, Or.inl rfl⟩
  | passed waits passes =>
      cases hOld.symm.trans waits
      exact ⟨_, hAnswer passes.requests_eq, Or.inr (Or.inl ⟨_, _, rfl, passes⟩)⟩
  | followed dials scanned follows =>
      cases hOld.symm.trans dials
      exact ⟨_, hAnswer (follows.requests_eq.trans scanned.requests_eq),
        Or.inr (Or.inr ⟨_, _, _, _, _, rfl, scanned, follows⟩)⟩

/-- A caller that goes away leaves its request as it was, or dropped. -/
theorem Change.request_of_drop {number : Nat} {r : Request}
    (h : Change allowed clock number (.drop number index : Act δ) p p')
    (hRequest : p.requests[index]? = some r) :
    p'.requests[index]? = some r ∨ p'.requests[index]? = some { r with state := .dropped } := by
  have hBound := (List.getElem?_eq_some_iff.mp hRequest).1
  cases h with
  | tended scanned same =>
      obtain ⟨_, _, _, _, rfl, _⟩ := same
      exact Or.inl (scanned.requests_eq ▸ hRequest)
  | givenBack scanned => exact Or.inl (scanned.requests_eq ▸ hRequest)
  | left waits =>
      cases hRequest.symm.trans waits
      exact Or.inr (requests_setRequest waits ▸ List.getElem?_set_self hBound)
  | gaveUp dials =>
      cases hRequest.symm.trans dials
      refine Or.inr ?_
      show (p.setRequest index .dropped).requests[index]? = _
      rw [requests_setRequest dials]
      exact List.getElem?_set_self hBound

theorem gates_openGate_of_ne {other : Nat} (id : String) (outcome : Gate) (hOther : gate ≠ other) :
    (p.openGate gate id outcome).gates[other]? = p.gates[other]? :=
  List.getElem?_set_ne hOther

/-- An opened gate shows what it was decided to, and any other what it showed before. -/
theorem gates_openGate {other : Nat} {outcome shown : Gate}
    (h : (p.openGate gate id outcome).gates[other]? = some shown) :
    shown = outcome ∨ p.gates[other]? = some shown := by
  by_cases hOther : gate = other
  · subst hOther
    have hSet : gate < p.gates.length ∧ outcome = shown := by
      simpa [openGate, List.getElem?_set] using h
    exact Or.inl hSet.2.symm
  · exact Or.inr ((gates_openGate_of_ne id outcome hOther).symm.trans h)

theorem Followed.gates_of_ne {dialed : String} {other : Nat}
    (h : Followed clock gate id dialed p progress state p') (hOther : gate ≠ other) :
    p'.gates[other]? = p.gates[other]? := by
  cases h with
  | waiting => rfl
  | _ => exact gates_openGate_of_ne id _ hOther

theorem Looked.gates_of_lt (h : Looked allowed clock id p state p')
    (hBound : gate < p.gates.length) : p'.gates[gate]? = p.gates[gate]? := by
  cases h with
  | @dials _ _ q _ lacks scanned follows =>
      have hBound' : gate < q.gates.length := scanned.gates_eq ▸ hBound
      rw [follows.gates_of_ne (Nat.ne_of_gt hBound'), raiseGate,
        List.getElem?_append_left hBound', scanned.gates_eq]
  | _ => rfl

theorem Entered.gates_of_lt (h : Entered allowed clock id p state p')
    (hBound : gate < p.gates.length) : p'.gates[gate]? = p.gates[gate]? := by
  cases h with
  | looked open_ named looks => exact looks.gates_of_lt (p := p.roused) hBound
  | _ => rfl

theorem Passed.gates_of_lt {other : Nat} (h : Passed allowed clock gate id p state p')
    (hBound : other < p.gates.length) : p'.gates[other]? = p.gates[other]? := by
  cases h with
  | looked decided looks => exact looks.gates_of_lt hBound
  | _ => rfl

/-- A request that begins to wait does so at a gate still to be decided. -/
theorem Looked.pending (h : Looked allowed clock id p (.waiting gate) p')
    (hSound : p.Sound requests) : p'.gates[gate]? = some .pending := by
  cases h with
  | queued open_ unregistered dialed =>
      obtain ⟨owner, hOwner⟩ := (hSound.listed open_ id gate).mp dialed
      exact hSound.undecided owner id gate hOwner
  | dials lacks scanned follows => cases follows

/-- What a gate has been decided to, it stays. -/
theorem Change.gate_of_decided {number : Nat} {act : Act δ} {outcome : Gate}
    (h : Change allowed clock number act p p') (hSound : p.Sound p.requests)
    (hGate : p.gates[gate]? = some outcome) (hDecided : outcome ≠ .pending) :
    p'.gates[gate]? = some outcome := by
  have hBound := (List.getElem?_eq_some_iff.mp hGate).1
  have hOther {index other : Nat} {id : String} (hd : DialsAt p.requests index id other) :
      other ≠ gate := by
    rintro rfl
    cases hGate.symm.trans (hSound.undecided index id other hd)
    exact hDecided rfl
  rw [← hGate]
  cases h with
  | tended scanned same =>
      obtain ⟨_, _, _, _, rfl, _⟩ := same
      exact congrArg (·[gate]?) scanned.gates_eq
  | held | reported | closed | left => rfl
  | borrowed scanned | givenBack scanned | touched scanned =>
      exact congrArg (·[gate]?) scanned.gates_eq
  | entered enters => exact enters.gates_of_lt hBound
  | passed waits passes => exact passes.gates_of_lt hBound
  | followed dials scanned follows =>
      exact (follows.gates_of_ne (hOther ⟨_, dials⟩)).trans (congrArg (·[gate]?) scanned.gates_eq)
  | @gaveUp _ _ id' _ _ dials =>
      exact gates_openGate_of_ne id' .givenUp (hOther ⟨_, dials⟩)

/-- A request comes in only by entering. -/
theorem Change.request_of_new {number other : Nat} {act : Act δ} {r : Request}
    (h : Change allowed clock number act p p') (hNone : p.requests[other]? = none)
    (hRequest : p'.requests[other]? = some r) :
    ∃ q, act = .get number r.endpointId ∧ Entered allowed clock r.endpointId p r.state q := by
  have hBeyond := List.getElem?_eq_none_iff.mp hNone
  have hBound := (List.getElem?_eq_some_iff.mp hRequest).1
  have hAbsurd (hLength : p'.requests.length = p.requests.length) : False := by omega
  cases h with
  | tended scanned same =>
      obtain ⟨_, _, _, _, rfl, _⟩ := same
      exact (hAbsurd (congrArg List.length scanned.requests_eq)).elim
  | held | reported | closed => exact (hAbsurd rfl).elim
  | borrowed scanned | givenBack scanned | touched scanned =>
      exact (hAbsurd (congrArg List.length scanned.requests_eq)).elim
  | @entered id _ q state enters =>
      rw [enters.requests_eq, List.getElem?_append_right hBeyond] at hRequest
      cases List.mem_singleton.mp (List.mem_of_getElem? hRequest)
      exact ⟨q, rfl, enters⟩
  | passed waits passes =>
      have hLength := congrArg List.length passes.requests_eq
      exact (hAbsurd ((List.length_modify ..).trans hLength)).elim
  | followed dials scanned follows =>
      have hLength := congrArg List.length (follows.requests_eq.trans scanned.requests_eq)
      exact (hAbsurd ((List.length_modify ..).trans hLength)).elim
  | left | gaveUp => exact (hAbsurd (List.length_modify ..)).elim

end Pool

namespace World

variable [Dialer δ γ]

/-- Whatever happens, in whatever order, the gates of every pool are in order. -/
theorem Reachable.sound {w : World δ γ} (hReachable : w.Reachable) {number : Nat} {p : Pool γ}
    (hp : w.pools[number]? = some p) : p.Sound p.requests := by
  have hNew (p : Pool γ) (h : IsNew p) : p.Sound p.requests := Pool.sound_of_isNew h
  exact hReachable.pool hNew (fun _ _ _ _ _ _ hChange h => h.changed hChange) hp

/-- A request that is over stays as it is. -/
theorem performAll_request_of_over {w : World δ γ} {number index : Nat} {p : Pool γ} {r : Request}
    (hp : w.pools[number]? = some p) (hRequest : p.requests[index]? = some r)
    (hOver : r.state.isLive = false) (acts : List (Act δ)) :
    ∃ p', (w.performAll acts).pools[number]? = some p' ∧ p'.requests[index]? = some r := by
  induction acts generalizing w p with
  | nil => exact ⟨p, hp, hRequest⟩
  | cons act rest ih =>
      obtain ⟨q, hq, hChange⟩ := (perform_spec act w).pools number p hp
      refine ih hq (hChange.request_of_unmoved (fun hLive => ?_) hRequest)
      cases hOver.symm.trans hLive

end World

end Tether
