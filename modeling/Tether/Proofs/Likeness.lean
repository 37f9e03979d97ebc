import Mathlib.Logic.Function.Defs
import Tether.Proofs.Change

/-! Records and pools that are alike. One of them may have seen more: other things were noted
before, and the pool may know requests that are over and gates that nobody goes to, so that the
numbers of the later ones have moved. -/

namespace Tether

variable {δ γ : Type}

/-! ### Lists with more in between -/

/-- The first list is found in the second, in other places, and both go on alike at their ends. -/
structure Embeds {α β : Type} (place : Nat → Nat) (f : α → β) (list : List α) (list' : List β) :
    Prop where
  found : ∀ index, list'[place index]? = list[index]?.map f
  beyond : ∀ count, place (list.length + count) = list'.length + count

namespace Embeds

variable {α β : Type} {place : Nat → Nat} {f : α → β} {list : List α} {list' : List β}

/-- A list is found in itself in any guise that its own members do not notice. -/
theorem of_fixed {f : α → α} {list : List α} (h : ∀ a ∈ list, f a = a) :
    Embeds id f list list := by
  refine ⟨fun index => ?_, fun _ => rfl⟩
  cases hAt : list[index]? with
  | none => exact hAt
  | some a => exact hAt.trans (congrArg some (h a (List.mem_of_getElem? hAt)).symm)

theorem refl (list : List α) : Embeds id id list list := of_fixed fun _ _ => rfl

/-- What is found in a list is found wherever that list is found. -/
theorem trans {ε : Type} {place' : Nat → Nat} {g : β → ε} {list'' : List ε}
    (first : Embeds place f list list') (second : Embeds place' g list' list'') :
    Embeds (place' ∘ place) (g ∘ f) list list'' := by
  refine ⟨fun index => ?_, fun count => ?_⟩
  · rw [Function.comp_apply, second.found, first.found, Option.map_map]
  · rw [Function.comp_apply, first.beyond, second.beyond]

/-- The end of the one list is at the end of the other, so that what is added next gets places that
go together. -/
theorem length (h : Embeds place f list list') : place list.length = list'.length := h.beyond 0

/-- What is added to both lists stays in step. -/
theorem append (h : Embeds place f list list') (a : α) :
    Embeds place f (list ++ [a]) (list' ++ [f a]) := by
  refine ⟨fun index => ?_, fun count => ?_⟩
  · by_cases hIndex : index < list.length
    · have hFound := h.found index
      rw [List.getElem?_eq_getElem hIndex] at hFound
      have hBound := (List.getElem?_eq_some_iff.mp hFound).1
      rw [List.getElem?_append_left hIndex, List.getElem?_append_left hBound]
      exact h.found index
    · obtain ⟨count, rfl⟩ := Nat.exists_eq_add_of_le (Nat.le_of_not_lt hIndex)
      rw [h.beyond, List.getElem?_append_right (Nat.le_add_right ..),
        List.getElem?_append_right (Nat.le_add_right ..), Nat.add_sub_cancel_left,
        Nat.add_sub_cancel_left]
      cases count <;> rfl
  · rw [List.length_append, List.length_append, Nat.add_assoc, Nat.add_assoc]
    exact h.beyond _

/-- A change to a member is found where the member is. What the second list has besides does not
move, since no two places become one. -/
theorem modify (h : Embeds place f list list') (hPlace : place.Injective) (g : α → α)
    (g' : β → β) (hSame : ∀ a, g' (f a) = f (g a)) (index : Nat) :
    Embeds place f (list.modify index g) (list'.modify (place index) g') := by
  refine ⟨fun other => ?_, fun count => ?_⟩
  · by_cases hOther : index = other
    · subst hOther
      rw [List.getElem?_modify_eq, List.getElem?_modify_eq, h.found]
      cases list[index]? with
      | none => rfl
      | some a => exact congrArg some (hSame a)
    · rw [List.getElem?_modify_ne _ _ hOther, List.getElem?_modify_ne _ _ (hPlace.ne hOther),
        h.found]
  · rw [List.length_modify, List.length_modify]
    exact h.beyond count

theorem set (h : Embeds place f list list') (hPlace : place.Injective) (index : Nat) (a : α) :
    Embeds place f (list.set index a) (list'.set (place index) (f a)) := by
  refine ⟨fun other => ?_, fun count => ?_⟩
  · by_cases hOther : index = other
    · subst hOther
      rw [List.getElem?_set_self', List.getElem?_set_self', h.found]
      cases list[index]? <;> rfl
    · rw [List.getElem?_set_ne hOther, List.getElem?_set_ne (hPlace.ne hOther), h.found]
  · rw [List.length_set, List.length_set]
    exact h.beyond count

end Embeds

/-- Where a number goes that has to keep clear of this one. -/
def skip (hole index : Nat) : Nat := if index < hole then index else index + 1

theorem skip_injective (hole : Nat) : (skip hole).Injective := by
  intro index other hSame
  unfold skip at hSame
  split at hSame <;> split at hSame <;> omega

theorem skip_of_lt {hole index : Nat} (h : index < hole) : skip hole index = index := if_pos h

/-- Every number is taken but the one that was to be kept clear of. -/
theorem exists_skip {hole index : Nat} (h : index ≠ hole) : ∃ old, skip hole old = index := by
  by_cases hLess : index < hole
  · exact ⟨index, skip_of_lt hLess⟩
  · refine ⟨index - 1, ?_⟩
    unfold skip
    split <;> omega

/-- A list from which one member was taken out is found in the whole list around the gap. -/
theorem Embeds.eraseIdx {α : Type} {list : List α} {index : Nat} (hIndex : index < list.length) :
    Embeds (skip index) id (list.eraseIdx index) list := by
  refine ⟨fun other => ?_, fun count => ?_⟩
  · rw [Option.map_id, List.getElem?_eraseIdx]
    unfold skip
    split <;> rfl
  · rw [List.length_eraseIdx_of_lt hIndex]
    unfold skip
    split <;> omega

theorem eraseIdx_concat {α : Type} (list : List α) (a : α) :
    (list ++ [a]).eraseIdx list.length = list := by
  rw [List.eraseIdx_append_of_length_le (Nat.le_refl _), Nat.sub_self]
  exact List.append_nil list

/-! ### Numbers that have moved -/

/-- Where the numbers of the requests and of the gates of a pool have moved to. -/
structure Renumbering where
  request : Nat → Nat
  gate : Nat → Nat
  request_injective : request.Injective
  gate_injective : gate.Injective

namespace Renumbering

/-- Nothing has moved. -/
def refl : Renumbering := ⟨id, id, fun _ _ h => h, fun _ _ h => h⟩

/-- Numbers that move twice. -/
def trans (first second : Renumbering) : Renumbering :=
  ⟨second.request ∘ first.request, second.gate ∘ first.gate,
    second.request_injective.comp first.request_injective,
    second.gate_injective.comp first.gate_injective⟩

/-- There is one more request, with this number. -/
def skipRequest (index : Nat) : Renumbering :=
  ⟨skip index, id, skip_injective index, fun _ _ h => h⟩

/-- There is one more gate, with this number. -/
def skipGate (gate : Nat) : Renumbering :=
  ⟨id, skip gate, fun _ _ h => h, skip_injective gate⟩

end Renumbering

/-- The state of a request once the gates have moved. A request that waits or dials keeps the number
of its gate; the other states hold no number that can move. -/
def RequestState.moved (R : Renumbering) : RequestState → RequestState
  | waiting gate => .waiting (R.gate gate)
  | dialing gate sequence => .dialing (R.gate gate) sequence
  | state => state

/-- The request once the gates have moved. -/
def Request.moved (R : Renumbering) (r : Request) : Request :=
  { r with state := r.state.moved R }

/-- Only requests that have moved here still wait for an answer. -/
def Stilled (R : Renumbering) (requests : List Request) : Prop :=
  ∀ (index : Nat) r, requests[index]? = some r → r.state.isLive = true →
    ∃ old, R.request old = index

section Requests

variable {R : Renumbering} {requests requests' : List Request}

/-- A request does not know its own number, so only gates that move change it. -/
theorem Request.moved_of_unmoved (h : R.gate = id) : Request.moved R = id := by
  funext r
  obtain ⟨id, state⟩ := r
  cases state <;> simp [Request.moved, RequestState.moved, h]

theorem Request.moved_trans (R' : Renumbering) :
    Request.moved (R.trans R') = Request.moved R' ∘ Request.moved R := by
  funext r
  obtain ⟨id, state⟩ := r
  cases state <;> rfl

theorem RequestState.isLive_moved (R : Renumbering) (state : RequestState) :
    (state.moved R).isLive = state.isLive := by
  cases state <;> rfl

/-- A request that still waits after the second move waited already after the first. -/
theorem Stilled.trans {R' : Renumbering} {requests'' : List Request} (first : Stilled R requests')
    (second : Stilled R' requests'')
    (hMoved : Embeds R'.request (Request.moved R') requests' requests'') :
    Stilled (R.trans R') requests'' := by
  intro index r hRequest hLive
  obtain ⟨between, rfl⟩ := second index r hRequest hLive
  rw [hMoved.found, Option.map_eq_some_iff] at hRequest
  obtain ⟨r, hRequest, rfl⟩ := hRequest
  obtain ⟨old, rfl⟩ := first between r hRequest ((r.state.isLive_moved R').symm.trans hLive)
  exact ⟨old, rfl⟩

/-- A new request may wait, since it has come in both lists. -/
theorem Stilled.append (h : Stilled R requests') (r : Request)
    (hLength : R.request requests.length = requests'.length) : Stilled R (requests' ++ [r]) := by
  intro index r' hRequest hLive
  by_cases hIndex : index < requests'.length
  · exact h index r' ((List.getElem?_append_left hIndex).symm.trans hRequest) hLive
  · have hBound := (List.getElem?_eq_some_iff.mp hRequest).1
    rw [List.length_append, List.length_singleton] at hBound
    exact ⟨requests.length, by omega⟩

/-- Only requests that have moved here are ever given a new state, so the others stay still. -/
theorem Stilled.modify (h : Stilled R requests) (index : Nat) (f : Request → Request) :
    Stilled R (requests.modify (R.request index) f) := by
  intro other r hRequest hLive
  by_cases hOther : R.request index = other
  · exact ⟨index, hOther⟩
  · rw [List.getElem?_modify_ne _ _ hOther] at hRequest
    exact h other r hRequest hLive

end Requests

/-! ### Records that go on alike -/

/-- What has been noted so far. -/
structure History where
  events : List Event
  probes : List (Except PoolError Nat)

namespace Surroundings

variable {past past' : History} {env env' : Surroundings δ}

/-- What these surroundings have noted so far. -/
def history (env : Surroundings δ) : History := ⟨env.events, env.probes⟩

/-- The surroundings, had this been noted before. -/
def after (past : History) (env : Surroundings δ) : Surroundings δ :=
  { env with events := env.events ++ past.events, probes := env.probes ++ past.probes }

@[simp]
theorem after_now (past : History) (env : Surroundings δ) : (env.after past).now = env.now := rfl

@[simp]
theorem after_factory (past : History) (env : Surroundings δ) :
    (env.after past).factory = env.factory := rfl

@[simp]
theorem note_after (event : Event) (past : History) (env : Surroundings δ) :
    (env.after past).note event = (env.note event).after past := rfl

@[simp]
theorem setDialer_after (dialer : δ) (past : History) (env : Surroundings δ) :
    (env.after past).setDialer dialer = (env.setDialer dialer).after past := rfl

/-- The surroundings are the same, and since the one had noted `past` and the other `past'` they
have noted the same. -/
inductive Alike (past past' : History) : Surroundings δ → Surroundings δ → Prop where
  | intro (env : Surroundings δ) : Alike past past' (env.after past) (env.after past')

/-- Whatever does not look at what was noted before keeps two surroundings alike. -/
theorem Alike.map (h : Alike past past' env env') (f : Surroundings δ → Surroundings δ)
    (hBlind : ∀ past env, f (after past env) = (f env).after past) :
    Alike past past' (f env) (f env') := by
  cases h with
  | intro common =>
      rw [hBlind, hBlind]
      exact .intro (f common)

theorem Alike.now (h : Alike past past' env env') : env'.now = env.now := by
  cases h
  rfl

theorem Alike.clock (h : Alike past past' env env') : env'.clock = env.clock := by
  cases h
  rfl

theorem Alike.shown (h : Alike past past' env env') : env'.shown = env.shown := by
  cases h
  rfl

theorem Alike.probing (h : Alike past past' env env') : env'.probing = env.probing := by
  cases h
  rfl

theorem Alike.readings (h : Alike past past' env env') : env'.readings = env.readings := by
  cases h
  rfl

theorem Alike.note (h : Alike past past' env env') (event : Event) :
    Alike past past' (env.note event) (env'.note event) :=
  h.map (Surroundings.note event) fun _ _ => rfl

end Surroundings

namespace DialSequence

open Surroundings

variable [Dialer δ γ] {past past' : History} {env env' : Surroundings δ}

/-- Dialing does not look at what was noted before. -/
theorem land_after (id : String) (tier : Tier) (cancelled : Bool) (remaining attempt ticket : Nat)
    (past : History) (env : Surroundings δ) :
    (land id tier cancelled remaining attempt ticket (env.after past) :
        DialProgress γ × Surroundings δ) =
      ((land id tier cancelled remaining attempt ticket env).1,
        (land id tier cancelled remaining attempt ticket env).2.after past) := by
  induction remaining generalizing attempt ticket env with
  | zero =>
      unfold land
      simp only [after_factory, setDialer_after, note_after]
      split <;> rfl
  | succ left ih =>
      unfold land
      simp only [after_factory, after_now, setDialer_after, note_after, ih]
      split
      · rfl
      · split
        · rfl
        · split
          · split <;> rfl
          · rfl

/-- A dial that starts does not look at what was noted before either. -/
theorem launch_after (id : String) (tier : Tier) (cancelled : Bool) (remaining attempt : Nat)
    (past : History) (env : Surroundings δ) :
    (launch id tier cancelled remaining attempt (env.after past) :
        DialProgress γ × Surroundings δ) =
      ((launch id tier cancelled remaining attempt env).1,
        (launch id tier cancelled remaining attempt env).2.after past) := by
  unfold launch
  simp only [after_factory, after_now, setDialer_after, land_after]
  split <;> rfl

/-- A sequence of dials that starts in like surroundings gets equally far in both, and leaves them
alike. -/
theorem start_alike (h : env.Alike past past' env') (id : String) (told : Bool) :
    (start id told env' : DialProgress γ × Surroundings δ).1 = (start id told env).1 ∧
      (start id told env).2.Alike past past' (start id told env').2 := by
  have hStart (past : History) (env : Surroundings δ) :
      (start id told (env.after past) : DialProgress γ × Surroundings δ) =
        ((start id told env).1, (start id told env).2.after past) := by
    let tier := Factory.tierOf (env.firstContact id).1
    let most := (env.firstContact id).2.factory.policy.maxAttempts tier
    exact launch_after id tier (told || env.factory.shutdown) (most - 1) 1 past
      ((env.firstContact id).2.note (.dialing id tier most))
  cases h with
  | intro common =>
      rw [hStart, hStart]
      exact ⟨rfl, .intro _⟩

/-- A sequence of dials that goes on in like surroundings gets equally far in both. -/
theorem resume_alike (h : env.Alike past past' env') (told : Bool) (s : DialSequence) :
    (s.resume told env' : DialProgress γ × Surroundings δ).1 = (s.resume told env).1 ∧
      (s.resume told env).2.Alike past past' (s.resume told env').2 := by
  have hResume (past : History) (env : Surroundings δ) :
      (s.resume told (env.after past) : DialProgress γ × Surroundings δ) =
        ((s.resume told env).1, (s.resume told env).2.after past) := by
    unfold resume
    simp only [after_factory, after_now, land_after, launch_after]
    split
    · split <;> rfl
    · split
      · rfl
      · split <;> rfl
  cases h with
  | intro common =>
      rw [hResume, hResume]
      exact ⟨rfl, .intro _⟩

end DialSequence

/-! ### Pools -/

namespace Pool

/-- The second pool has what the first has. Its requests and gates may have moved, and between them
there may be more: requests that are over, and gates at which nobody waits. -/
inductive Alike (R : Renumbering) (p : Pool γ) : Pool γ → Prop where
  | intro {requests : List Request} {gates : List Gate} {creating : Table Nat}
      (moved : Embeds R.request (Request.moved R) p.requests requests)
      (stilled : Stilled R requests) (gated : Embeds R.gate id p.gates gates)
      (listed : ∀ id, creating.get? id = (p.creating.get? id).map R.gate) :
      Alike R p { p with requests, gates, creating }

variable {R : Renumbering} {p p' : Pool γ}

/-- A pool is like itself, with nothing moved. -/
theorem Alike.refl (p : Pool γ) : Alike .refl p p := by
  have hMoved : Embeds Renumbering.refl.request (Request.moved .refl) p.requests p.requests := by
    rw [Request.moved_of_unmoved rfl]
    exact .refl _
  exact .intro hMoved (fun index _ _ _ => ⟨index, rfl⟩) (.refl _) fun id => Option.map_id'.symm

/-- Likeness goes on from pool to pool, and the numbers move as often. -/
theorem Alike.trans {R' : Renumbering} {p'' : Pool γ} (first : p.Alike R p')
    (second : p'.Alike R' p'') : p.Alike (R.trans R') p'' := by
  cases first with
  | intro moved stilled gated listed =>
      cases second with
      | intro moved' stilled' gated' listed' =>
          refine .intro ?_ (stilled.trans stilled' moved') (gated.trans gated') fun id => ?_
          · rw [Request.moved_trans]
            exact moved.trans moved'
          · exact (listed' id).trans ((congrArg _ (listed id)).trans (Option.map_map ..))

/-- A request that is over does not show. -/
theorem alike_of_over {index : Nat} {r : Request} (hRequest : p.requests[index]? = some r)
    (hOver : r.state.isLive = false) :
    Alike (.skipRequest index) { p with requests := p.requests.eraseIdx index } p := by
  have hBound := (List.getElem?_eq_some_iff.mp hRequest).1
  refine .intro (p := { p with requests := p.requests.eraseIdx index }) ?_ ?_ (.refl _) fun id =>
    Option.map_id'.symm
  · rw [Request.moved_of_unmoved rfl]
    exact .eraseIdx hBound
  · intro other r' hOther hLive
    refine exists_skip ?_
    rintro rfl
    cases hRequest.symm.trans hOther
    cases hOver.symm.trans hLive

/-- What is neither a request nor a gate is the very same in both pools. The equations for the
single fields follow. -/
theorem Alike.same (h : p.Alike R p') :
    p' = { p with requests := p'.requests, gates := p'.gates, creating := p'.creating } := by
  cases h
  rfl

theorem Alike.closed (h : p.Alike R p') : p'.closed = p.closed := by
  rw [h.same]

theorem Alike.registry (h : p.Alike R p') : p'.registry = p.registry := by
  rw [h.same]

theorem Alike.handles (h : p.Alike R p') : p'.handles = p.handles := by
  rw [h.same]

theorem Alike.reaper (h : p.Alike R p') : p'.reaper = p.reaper := by
  rw [h.same]

theorem Alike.counters (h : p.Alike R p') : p'.counters = p.counters := by
  rw [h.same]

theorem Alike.linger (h : p.Alike R p') : p'.linger = p.linger := by
  rw [h.same]

theorem Alike.busy (h : p.Alike R p') : p'.busy = p.busy := by
  rw [h.same]

theorem Alike.shutdown (h : p.Alike R p') : p'.shutdown = p.shutdown := by
  rw [h.same]

theorem Alike.abandoned (h : p.Alike R p') : p'.abandoned = p.abandoned := by
  rw [h.same]

theorem Alike.wakes (h : p.Alike R p') : p'.wakes = p.wakes := by
  rw [h.same]

/-- An endpoint that is being dialed has its gate in both pools. -/
theorem Alike.creating (h : p.Alike R p') (id : String) :
    p'.creating.get? id = (p.creating.get? id).map R.gate := by
  cases h with
  | intro moved stilled gated listed => exact listed id

theorem Alike.gate (h : p.Alike R p') (gate : Nat) : p'.gates[R.gate gate]? = p.gates[gate]? := by
  cases h with
  | intro moved stilled gated listed => simpa using gated.found gate

theorem Alike.request (h : p.Alike R p') (index : Nat) :
    p'.requests[R.request index]? = p.requests[index]?.map (Request.moved R) := by
  cases h with
  | intro moved stilled gated listed => exact moved.found index

/-- The next gates that the pools raise go together. -/
theorem Alike.gates_length (h : p.Alike R p') : p'.gates.length = R.gate p.gates.length := by
  cases h with
  | intro moved stilled gated listed => exact gated.length.symm

/-- The next requests that the pools are asked go together. -/
theorem Alike.requests_length (h : p.Alike R p') :
    p'.requests.length = R.request p.requests.length := by
  cases h with
  | intro moved stilled gated listed => exact moved.length.symm

/-- Whatever does not touch requests and gates, and does not look at them, is done to both alike. -/
theorem Alike.map (h : p.Alike R p') (f : Pool γ → Pool γ)
    (hBlind : ∀ (p : Pool γ) requests gates creating, f { p with requests, gates, creating } =
      { f p with requests, gates, creating }) : (f p).Alike R (f p') := by
  have hOwn : f p = { f p with requests := p.requests, gates := p.gates, creating := p.creating } :=
    hBlind p p.requests p.gates p.creating
  have hRequests : (f p).requests = p.requests := by rw [hOwn]
  have hGates : (f p).gates = p.gates := by rw [hOwn]
  have hCreating : (f p).creating = p.creating := by rw [hOwn]
  cases h with
  | @intro requests gates creating moved stilled gated listed =>
      rw [← hRequests] at moved
      rw [← hGates] at gated
      rw [← hCreating] at listed
      rw [hBlind p requests gates creating]
      exact .intro moved stilled gated listed

/-- A request that goes on does so in both pools. -/
theorem Alike.setRequest (h : p.Alike R p') (index : Nat) (state : RequestState) :
    (p.setRequest index state).Alike R (p'.setRequest (R.request index) (state.moved R)) := by
  cases h with
  | intro moved stilled gated listed =>
      have hModified := moved.modify R.request_injective (fun r => { r with state })
        (fun r => { r with state := state.moved R }) (fun _ => rfl) index
      exact .intro (p := p.setRequest index state) hModified (stilled.modify index _) gated listed

/-- A request that comes in does so in both pools, under numbers that go together. -/
theorem Alike.append (h : p.Alike R p') (r : Request) :
    Alike R { p with requests := p.requests ++ [r] }
      { p' with requests := p'.requests ++ [r.moved R] } := by
  cases h with
  | intro moved stilled gated listed =>
      exact .intro (p := { p with requests := p.requests ++ [r] }) (moved.append r)
        (stilled.append _ moved.length) gated listed

/-- A pool that is closed forgets which gates stood for what. -/
theorem Alike.clear (h : p.Alike R p') :
    Alike R { p with closed := true, creating := [], registry := [], shutdown := true }
      { p' with closed := true, creating := [], registry := [], shutdown := true } := by
  cases h with
  | intro moved stilled gated =>
      let q : Pool γ := { p with closed := true, creating := [], registry := [], shutdown := true }
      exact .intro (p := q) moved stilled gated fun _ => rfl

/-- A dial that begins raises its gate in both pools. -/
theorem Alike.raiseGate (h : p.Alike R p') (id : String) :
    (p.raiseGate id).Alike R (p'.raiseGate id) := by
  cases h with
  | @intro _ gates creating moved stilled gated listed =>
      refine .intro (p := p.raiseGate id) moved stilled (gated.append .pending) fun other => ?_
      show (creating.insert id gates.length).get? other =
        ((p.creating.insert id p.gates.length).get? other).map R.gate
      rw [Table.get?_insert, Table.get?_insert, listed, ← gated.length]
      split <;> rfl

/-- A dial that ends opens its gate in both pools. Gates do not fall together, so the endpoint is
taken off the list in both or in neither. -/
theorem Alike.openGate (h : p.Alike R p') (gate : Nat) (id : String) (outcome : Gate) :
    (p.openGate gate id outcome).Alike R (p'.openGate (R.gate gate) id outcome) := by
  have hListed : p'.creating.get? id = some (R.gate gate) ↔ p.creating.get? id = some gate := by
    rw [h.creating, Option.map_eq_some_iff]
    refine ⟨?_, fun hListed => ⟨gate, hListed, rfl⟩⟩
    rintro ⟨gate', hListed, hSame⟩
    rwa [← R.gate_injective hSame]
  cases h with
  | @intro _ gates creating moved stilled gated listed =>
      refine .intro (p := p.openGate gate id outcome) moved stilled
        (gated.set R.gate_injective gate outcome) fun other => ?_
      unfold Pool.openGate
      dsimp only
      split
      · next hGate =>
        rw [if_pos (hListed.mp hGate), Table.get?_erase, Table.get?_erase, listed]
        split <;> rfl
      · next hGate =>
        rw [if_neg (mt hListed.mpr hGate)]
        exact listed other

/-- Whether anybody still waits for an answer does not depend on requests that are over. -/
theorem Alike.hasLiveRequest (h : p.Alike R p') : p'.hasLiveRequest = p.hasLiveRequest := by
  rw [Bool.eq_iff_iff]
  unfold Pool.hasLiveRequest
  rw [List.any_eq_true, List.any_eq_true]
  cases h with
  | intro moved stilled =>
      constructor
      · rintro ⟨r, hMem, hLive⟩
        obtain ⟨index, hRequest⟩ := List.getElem?_of_mem hMem
        obtain ⟨old, rfl⟩ := stilled index r hRequest hLive
        rw [moved.found, Option.map_eq_some_iff] at hRequest
        obtain ⟨r, hOld, rfl⟩ := hRequest
        rw [Request.moved, RequestState.isLive_moved] at hLive
        exact ⟨r, List.mem_of_getElem? hOld, hLive⟩
      · rintro ⟨r, hMem, hLive⟩
        obtain ⟨index, hRequest⟩ := List.getElem?_of_mem hMem
        have hMoved := moved.found index
        rw [hRequest] at hMoved
        exact ⟨_, List.mem_of_getElem? hMoved, (r.state.isLive_moved R).trans hLive⟩

end Pool

end Tether
