import Tether.Proofs.Imprint

/-! Calls about different endpoints commute. Neither changes anything that the other goes by, so
each leaves the same imprint whichever comes first, and imprints of different endpoints can be left
in any order. What differs is which of two new handles got the lower number. -/

namespace Tether

variable {δ γ : Type}

/-! ### Two lists put at the end of a third -/

/-- Where a number goes when two stretches of these lengths change places behind `start`. -/
def swapped (start first second index : Nat) : Nat :=
  if index < start then index
  else if index < start + first then index + second
  else if index < start + first + second then index - first
  else index

theorem swapped_injective (start first second : Nat) : (swapped start first second).Injective := by
  intro index other hSame
  unfold swapped at hSame
  grind

theorem swapped_of_lt {start first second index : Nat} (h : index < start) :
    swapped start first second index = index := if_pos h

theorem swapped_start {start first second : Nat} (h : 0 < first) :
    swapped start first second start = start + second := by
  rw [swapped, if_neg (Nat.lt_irrefl start), if_pos (Nat.lt_add_of_pos_right h)]

theorem swapped_next {start first second : Nat} (h : 0 < second) :
    swapped start first second (start + first) = start := by
  rw [swapped, if_neg (Nat.not_lt_of_le (Nat.le_add_right ..)), if_neg (Nat.lt_irrefl _),
    if_pos (Nat.lt_add_of_pos_right h), Nat.add_sub_cancel]

/-- Put at the end in either order, the lists are found where their stretches have gone. -/
theorem embeds_swapped {α : Type} (list first second : List α) :
    Embeds (swapped list.length first.length second.length) id (list ++ first ++ second)
      (list ++ second ++ first) := by
  refine ⟨fun index => ?_, fun count => ?_⟩
  · rw [Option.map_id, id]
    have hLength : (list ++ first).length = list.length + first.length := List.length_append
    have hLength' : (list ++ second).length = list.length + second.length := List.length_append
    unfold swapped
    split
    · next hOld =>
      rw [List.append_assoc, List.append_assoc, List.getElem?_append_left hOld,
        List.getElem?_append_left hOld]
    · split
      · rw [List.getElem?_append_right (by omega), List.getElem?_append_left (by omega),
          List.getElem?_append_right (by omega), hLength']
        congr 1
        omega
      · split
        · rw [List.getElem?_append_left (by omega), List.getElem?_append_right (by omega),
            List.getElem?_append_right (by omega), hLength]
          congr 1
          omega
        · rw [List.getElem?_eq_none (by simp only [List.length_append]; omega),
            List.getElem?_eq_none (by simp only [List.length_append]; omega)]
  · unfold swapped
    grind

theorem toList_length_pos {α : Type} {found : Option α} (h : found.isSome = true) :
    0 < found.toList.length := by
  rw [Option.length_toList_eq_one_iff.mpr h]
  exact Nat.one_pos

/-! ### Numbers of what is new -/

/-- A renumbering that leaves alone what there was before. -/
structure Renumbers (count : Nat) (place : Nat → Nat) : Prop where
  injective : place.Injective
  fixed : ∀ index, index < count → place index = index

theorem renumbers_swapped (start first second : Nat) :
    Renumbers start (swapped start first second) :=
  ⟨swapped_injective start first second, fun _ => swapped_of_lt⟩

/-- What a caller is told, where handles have other numbers. -/
def Reply.moved (place : Nat → Nat) : Reply → Reply
  | got (some (.granted handle)) => got (some (.granted (place handle)))
  | reply => reply

theorem HandleRef.eq_of_same {ref ref' : HandleRef} (hHome : ref.home = ref'.home)
    (hIndex : ref.index = ref'.index) : ref = ref' := by
  cases ref
  cases ref'
  cases hHome
  cases hIndex
  rfl

namespace Imprint

variable {d e : Imprint δ γ} {home count count' : Nat} {place : Nat → Nat}

theorem length_handlesOf (d : Imprint δ γ) (home : Nat) (handles : List (Handle γ)) :
    (d.handlesOf home handles).length = handles.length := by
  unfold handlesOf
  split
  · split
    · exact List.length_set
    · rfl
  · rfl

theorem handlesOf_append {handles : List (Handle γ)}
    (hMade : ∀ ref lent, d.used = some (ref, lent) → ref.home = home → ref.index < handles.length)
    (more : List (Handle γ)) :
    d.handlesOf home (handles ++ more) = d.handlesOf home handles ++ more := by
  unfold handlesOf
  split
  · next ref lent hUsed =>
    split
    · next hHome => exact List.set_append_left _ _ (hMade ref lent hUsed hHome)
    · rfl
  · rfl

/-- Two calls that use different handles leave them in any order. -/
theorem handlesOf_comm
    (hApart : ∀ ref lent lent', d.used = some (ref, lent) → e.used ≠ some (ref, lent'))
    (home : Nat) (handles : List (Handle γ)) :
    e.handlesOf home (d.handlesOf home handles) = d.handlesOf home (e.handlesOf home handles) := by
  unfold handlesOf
  rcases hd : d.used with _ | ⟨ref, lent⟩
  · rfl
  · rcases he : e.used with _ | ⟨ref', lent'⟩
    · rfl
    · dsimp only
      split
      · next hHome =>
        split
        · next hHome' =>
          refine List.set_comm _ _ fun hIndex => hApart ref lent lent' hd ?_
          rw [he, HandleRef.eq_of_same (hHome'.trans hHome.symm) hIndex]
        · rfl
      · rfl

/-- The entry of a new handle moves with it. -/
theorem entry_moved {old : Option Nat} (hOld : ∀ handle, old = some handle → place handle = handle)
    (hMade : d.made.isSome = true → place count = count') :
    (d.entry count old).map place = d.entry count' old := by
  unfold entry
  split
  · rfl
  · split
    · next h => exact congrArg some (hMade h)
    · cases old with
      | none => rfl
      | some handle => exact congrArg some (hOld handle rfl)

end Imprint

namespace Pool

/-- The pools are the same, up to the numbers of the handles and gates that are new since. Gates that
are new have been opened again, so the table of gates does not list them. -/
structure Coincides (since : Pool γ) (handle gate : Nat → Nat) (p p' : Pool γ) : Prop where
  untouched : p.Untouched p'
  counters : p'.counters = p.counters
  reaper : p'.reaper = p.reaper
  handles : Embeds handle id p.handles p'.handles
  registry : ∀ id, p'.registry.get? id = (p.registry.get? id).map handle
  gates : Embeds gate id p.gates p'.gates
  creating : ∀ id, p'.creating.get? id = p.creating.get? id
  requests : p'.requests.length = p.requests.length ∧
    ∀ index, index < since.requests.length → p'.requests[index]? = p.requests[index]?

variable {number : Nat} {d e : Imprint δ γ} {p q q' r r' : Pool γ}

theorem reaper_roused (h : q.reaper = p.reaper) : q.roused.reaper = p.roused.reaper := by
  unfold roused
  rw [h]

theorem Bears.counters_comm (hFirst : p.Bears number d q) (hSecond : q.Bears number e r)
    (hFirst' : p.Bears number e q') (hSecond' : q'.Bears number d r') :
    r'.counters = r.counters := by
  rw [hSecond'.counters, hFirst'.counters, hSecond.counters, hFirst.counters,
    Counters.plus_right_comm]

theorem Bears.reaper_comm (hFirst : p.Bears number d q) (hSecond : q.Bears number e r)
    (hFirst' : p.Bears number e q') (hSecond' : q'.Bears number d r') :
    r'.reaper = r.reaper := by
  have hd := hFirst.reaper
  have he := hFirst'.reaper
  rw [hSecond'.reaper, hSecond.reaper]
  cases hRouses : d.rouses <;> cases hRouses' : e.rouses <;>
    simp only [hRouses, hRouses', Bool.false_eq_true, ↓reduceIte] at hd he ⊢
  · exact he.trans hd.symm
  · exact he.trans (reaper_roused hd).symm
  · exact (reaper_roused he).trans hd.symm
  · exact reaper_roused (he.trans hd.symm)

/-- The pool made every handle of its own that the call uses. -/
def Knows (number : Nat) (p : Pool γ) (d : Imprint δ γ) : Prop :=
  ∀ ref lent, d.used = some (ref, lent) → ref.home = number → ref.index < p.handles.length

theorem Bears.handles_eq (hFirst : p.Bears number d q) (hSecond : q.Bears number e r)
    (hKnows : p.Knows number e) : r.handles =
      e.handlesOf number (d.handlesOf number p.handles) ++ d.made.toList ++ e.made.toList := by
  rw [hSecond.handles, hFirst.handles, Imprint.handlesOf_append]
  intro ref lent hUsed hHome
  rw [Imprint.length_handlesOf]
  exact hKnows ref lent hUsed hHome

theorem Bears.length_handles (h : p.Bears number d q) :
    q.handles.length = p.handles.length + d.made.toList.length := by
  rw [h.handles, List.length_append, Imprint.length_handlesOf]

theorem Bears.embeds_handles (hFirst : p.Bears number d q) (hSecond : q.Bears number e r)
    (hFirst' : p.Bears number e q') (hSecond' : q'.Bears number d r')
    (hApart : ∀ ref lent lent', d.used = some (ref, lent) → e.used ≠ some (ref, lent'))
    (hKnows : p.Knows number d) (hKnows' : p.Knows number e) :
    Embeds (swapped p.handles.length d.made.toList.length e.made.toList.length) id r.handles
      r'.handles := by
  have hLength : (d.handlesOf number (e.handlesOf number p.handles)).length = p.handles.length :=
    (Imprint.length_handlesOf ..).trans (Imprint.length_handlesOf ..)
  rw [hFirst.handles_eq hSecond hKnows', hFirst'.handles_eq hSecond' hKnows,
    Imprint.handlesOf_comm hApart, ← hLength]
  exact embeds_swapped ..

/-- The registry lists the same handles, but those that are new may have each other's number. -/
theorem Bears.registry_comm (hFirst : p.Bears number d q) (hSecond : q.Bears number e r)
    (hFirst' : p.Bears number e q') (hSecond' : q'.Bears number d r')
    (hOther : d.endpointId ≠ e.endpointId)
    (hRegistered : ∀ id handle, p.registry.get? id = some handle → handle < p.handles.length)
    (id : String) : r'.registry.get? id = (r.registry.get? id).map
      (swapped p.handles.length d.made.toList.length e.made.toList.length) := by
  have hOld (handle : Nat) (h : p.registry.get? id = some handle) :
      swapped p.handles.length d.made.toList.length e.made.toList.length handle = handle :=
    swapped_of_lt (hRegistered id handle h)
  rw [hSecond'.registry, hFirst'.registry, hSecond.registry, hFirst.registry, hFirst.length_handles,
    hFirst'.length_handles]
  by_cases hId : id = d.endpointId
  · rw [if_pos hId, if_neg (hId.trans_ne hOther), if_neg (hId.trans_ne hOther), if_pos hId]
    exact (Imprint.entry_moved hOld fun h => swapped_start (toList_length_pos h)).symm
  · rw [if_neg hId, if_neg hId]
    split
    · exact (Imprint.entry_moved hOld fun h => swapped_next (toList_length_pos h)).symm
    · cases hAt : p.registry.get? id with
      | none => rfl
      | some handle => exact congrArg some (hOld handle hAt).symm

end Pool

namespace World

open Surroundings Pool DialSequence

section Agreement

variable {same : String → δ → δ → Prop} {number : Nat} {now : Instant} {w w' : World δ γ}
  {p p' : Pool γ} {d : Imprint δ γ} {id : String}

/-! ### What a call goes by -/

/-- Two worlds agree about an endpoint: nothing that a call about it goes by is different. -/
structure Agrees (same : String → δ → δ → Prop) (id : String) (w w' : World δ γ)
    (p p' : Pool γ) : Prop where
  meets : Meets (same id) w.env w'.env
  seen : w'.env.factory.hasSeen id = w.env.factory.hasSeen id
  closed : p'.closed = p.closed
  shutdown : p'.shutdown = p.shutdown
  registry : p'.registry.get? id = p.registry.get? id
  creating : p'.creating.get? id = p.creating.get? id
  handles : ∀ ref h, w.handle? ref = some h → h.endpointId = id → w'.handle? ref = some h

theorem Agrees.lacks (h : Agrees same id w w' p p') (hLacks : p.Lacks id) :
    p'.Lacks id :=
  ⟨h.closed.trans hLacks.open_, h.registry.trans hLacks.unregistered,
    h.creating.trans hLacks.undialed⟩

/-! ### What a call leaves alone -/

theorem getElem?_handlesOf {ref : HandleRef} (hUnused : ∀ lent, d.used ≠ some (ref, lent))
    (handles : List (Handle γ)) :
    (d.handlesOf ref.home handles)[ref.index]? = handles[ref.index]? := by
  unfold Imprint.handlesOf
  split
  · next used lent hUsed =>
    split
    · next hHome =>
      refine List.getElem?_set_ne fun hIndex => hUnused lent ?_
      rw [hUsed, HandleRef.eq_of_same hHome hIndex]
    · rfl
  · rfl

theorem Imprinted.serves (h : Imprinted same number d w w') (hServes : w.Serves number p now) :
    ∃ p', w'.Serves number p' now ∧ p.Bears number d p' ∧
      p'.requests = p.requests ++ d.asked p.handles.length := by
  obtain ⟨p', hp', hBears, hRequests⟩ := h.pool p hServes.pool
  refine ⟨p', ⟨hp', ?_, ?_, ?_⟩, hBears, hRequests⟩
  · exact hBears.untouched.closed.trans hServes.open_
  · rw [shown, h.beside.now, h.beside.clock]
    exact hServes.shown
  · exact h.beside.probed.trans hServes.unprobed

/-- A call changes nothing that calls about other endpoints go by. -/
theorem Imprinted.agrees (h : Imprinted same number d w w')
    (hp : w.pools[number]? = some p) (hp' : w'.pools[number]? = some p')
    (hBears : p.Bears number d p') (hOther : id ≠ d.endpointId) : Agrees same id w w' p p' := by
  refine ⟨⟨h.beside.now, h.beside.settings, h.learned.others id hOther⟩, ?_, ?_, ?_, ?_,
    hBears.creating id, ?_⟩
  · rw [h.learned.seen, beq_eq_false_iff_ne.mpr hOther, Bool.and_false, Bool.false_or]
  · exact hBears.untouched.closed
  · exact hBears.untouched.shutdown
  · exact (hBears.registry id).trans (if_neg hOther)
  · intro ref lent hMade hEndpoint
    have hUnused (lent' : Handle γ) : d.used ≠ some (ref, lent') := by
      intro hUsed
      obtain ⟨_, old, hOld, hName⟩ := h.used ref lent' hUsed
      cases hOld.symm.trans hMade
      exact hOther (hEndpoint.symm.trans hName)
    cases hq : w.pools[ref.home]? with
    | none =>
        rw [handle?, hq] at hMade
        cases hMade
    | some q =>
        rw [handle?, hq] at hMade
        have hKept : (d.handlesOf ref.home q.handles)[ref.index]? = some lent :=
          (getElem?_handlesOf hUnused q.handles).trans hMade
        by_cases hHome : ref.home = number
        · cases hp.symm.trans (hHome ▸ hq)
          have hBound := (List.getElem?_eq_some_iff.mp hKept).1
          rw [handle?, hHome, hp']
          show p'.handles[ref.index]? = some lent
          rw [hBears.handles, ← hHome, List.getElem?_append_left hBound]
          exact hKept
        · rw [handle?, h.others ref.home hHome, hq]
          exact hKept

end Agreement

/-! ### Imprints in either order -/

section Order

variable {same : String → δ → δ → Prop} {number : Nat} {w v v' u u' : World δ γ} {p : Pool γ}
  {d e : Imprint δ γ}

theorem Beside.symm (h : Beside w v) : Beside v w :=
  ⟨h.now.symm, h.clock.symm, ⟨h.settings.policy.symm, h.settings.shutdown.symm⟩,
    h.creations.symm, h.cancelled.symm, h.probed.symm⟩

/-- The worlds are the same, up to the record and the numbers of new handles and gates. -/
structure Coincides (same : String → δ → δ → Prop) (number : Nat) (since : Pool γ)
    (handle gate : Nat → Nat) (w w' : World δ γ) : Prop where
  beside : Beside w w'
  seen : ∀ id, w'.env.factory.hasSeen id = w.env.factory.hasSeen id
  dialer : ∀ id, same id w.env.factory.dialer w'.env.factory.dialer
  others : ∀ other, other ≠ number → w'.pools[other]? = w.pools[other]?
  pool : ∃ p p', w.pools[number]? = some p ∧ w'.pools[number]? = some p' ∧
    since.Coincides handle gate p p'

theorem Imprinted.seen_comm (hFirst : Imprinted same number d w v)
    (hSecond : Imprinted same number e v u) (hFirst' : Imprinted same number e w v')
    (hSecond' : Imprinted same number d v' u') (id : String) :
    u'.env.factory.hasSeen id = u.env.factory.hasSeen id := by
  rw [hSecond'.learned.seen, hFirst'.learned.seen, hSecond.learned.seen, hFirst.learned.seen,
    Bool.or_left_comm]

/-- What the dialer knows of an endpoint after the call about it does not depend on the other. -/
theorem Imprinted.dialer_own [Dialer δ γ] (hSeparates : Dialer.Separates same)
    (hFirst : Imprinted same number d w v) (hSecond : Imprinted same number e v u)
    (hFirst' : Imprinted same number e w v') (hSecond' : Imprinted same number d v' u')
    (hOther : d.endpointId ≠ e.endpointId) :
    same d.endpointId u.env.factory.dialer u'.env.factory.dialer := by
  have hTrans {x y z : δ} := @(hSeparates.regards d.endpointId).trans x y z
  have hOwn := hFirst.learned.own
  have hOwn' := hSecond'.learned.own
  have hKept := hSecond.learned.others d.endpointId hOther
  have hKept' := hFirst'.learned.others d.endpointId hOther
  cases hDialed : d.dialed with
  | none =>
      rw [hDialed] at hOwn hOwn'
      exact hTrans (hSeparates.symm (hTrans hOwn hKept)) (hTrans hKept' hOwn')
  | some dialer =>
      rw [hDialed] at hOwn hOwn'
      exact hTrans (hSeparates.symm (hTrans hOwn hKept)) hOwn'

theorem Imprinted.dialer_comm [Dialer δ γ] (hSeparates : Dialer.Separates same)
    (hFirst : Imprinted same number d w v) (hSecond : Imprinted same number e v u)
    (hFirst' : Imprinted same number e w v') (hSecond' : Imprinted same number d v' u')
    (hOther : d.endpointId ≠ e.endpointId) (id : String) :
    same id u.env.factory.dialer u'.env.factory.dialer := by
  by_cases hId : id = d.endpointId
  · rw [hId]
    exact hFirst.dialer_own hSeparates hSecond hFirst' hSecond' hOther
  · by_cases hId' : id = e.endpointId
    · rw [hId']
      exact hSeparates.symm (hFirst'.dialer_own hSeparates hSecond' hFirst hSecond hOther.symm)
    · have hTrans {x y z : δ} := @(hSeparates.regards id).trans x y z
      exact hTrans
        (hSeparates.symm (hTrans (hFirst.learned.others id hId) (hSecond.learned.others id hId')))
        (hTrans (hFirst'.learned.others id hId') (hSecond'.learned.others id hId))

/-- A handle belongs to one endpoint. -/
theorem Imprinted.apart (hFirst : Imprinted same number d w v)
    (hFirst' : Imprinted same number e w v') (hOther : d.endpointId ≠ e.endpointId)
    (ref : HandleRef) (lent lent' : Handle γ) (hUsed : d.used = some (ref, lent)) :
    e.used ≠ some (ref, lent') := by
  intro hUsed'
  obtain ⟨_, old, hOld, hName⟩ := hFirst.used ref lent hUsed
  obtain ⟨_, old', hOld', hName'⟩ := hFirst'.used ref lent' hUsed'
  cases hOld.symm.trans hOld'
  exact hOther (hName.symm.trans hName')

theorem Imprinted.knows (h : Imprinted same number d w v) (hp : w.pools[number]? = some p) :
    p.Knows number d := by
  intro ref lent hUsed hHome
  obtain ⟨_, old, hOld, _⟩ := h.used ref lent hUsed
  rw [handle?, hHome, hp] at hOld
  exact (List.getElem?_eq_some_iff.mp hOld).1

theorem Imprinted.others_comm (hFirst : Imprinted same number d w v)
    (hSecond : Imprinted same number e v u) (hFirst' : Imprinted same number e w v')
    (hSecond' : Imprinted same number d v' u') (hOther : d.endpointId ≠ e.endpointId) {other : Nat}
    (hElsewhere : other ≠ number) : u'.pools[other]? = u.pools[other]? := by
  have hApart := hFirst.apart hFirst' hOther
  rw [hSecond'.others other hElsewhere, hFirst'.others other hElsewhere,
    hSecond.others other hElsewhere, hFirst.others other hElsewhere, Option.map_map,
    Option.map_map]
  refine congrArg (Option.map · _) (funext fun q => ?_)
  exact congrArg (fun handles : List (Handle γ) => { q with handles })
    (Imprint.handlesOf_comm hApart other q.handles).symm

/-- Imprints of calls about different endpoints can be left in any order. -/
theorem Imprinted.commute [Dialer δ γ] (hSeparates : Dialer.Separates same)
    (hFirst : Imprinted same number d w v) (hSecond : Imprinted same number e v u)
    (hFirst' : Imprinted same number e w v') (hSecond' : Imprinted same number d v' u')
    (hOther : d.endpointId ≠ e.endpointId) (hp : w.pools[number]? = some p)
    (hRegistered : ∀ id handle, p.registry.get? id = some handle → handle < p.handles.length)
    (hAsked : ∀ count count', (d.asked count).length = (d.asked count').length)
    (hAsked' : ∀ count count', (e.asked count).length = (e.asked count').length) :
    Coincides same number p (swapped p.handles.length d.made.toList.length e.made.toList.length)
      (swapped p.gates.length d.gate.toList.length e.gate.toList.length) u u' := by
  obtain ⟨q, hq, hBears, hRequests⟩ := hFirst.pool p hp
  obtain ⟨r, hr, hNext, hLater⟩ := hSecond.pool q hq
  obtain ⟨q', hq', hBears', hRequests'⟩ := hFirst'.pool p hp
  obtain ⟨r', hr', hNext', hLater'⟩ := hSecond'.pool q' hq'
  have hApart := hFirst.apart hFirst' hOther
  refine
    { beside := (hFirst.beside.trans hSecond.beside).symm.trans
        (hFirst'.beside.trans hSecond'.beside)
      seen := hFirst.seen_comm hSecond hFirst' hSecond'
      dialer := hFirst.dialer_comm hSeparates hSecond hFirst' hSecond' hOther
      others := fun other => hFirst.others_comm hSecond hFirst' hSecond' hOther
      pool := ⟨r, r', hr, hr', ?_⟩ }
  refine
    { untouched := (hBears.untouched.trans hNext.untouched).symm.trans
        (hBears'.untouched.trans hNext'.untouched)
      counters := hBears.counters_comm hNext hBears' hNext'
      reaper := hBears.reaper_comm hNext hBears' hNext'
      handles := hBears.embeds_handles hNext hBears' hNext' hApart (hFirst.knows hp)
        (hFirst'.knows hp)
      registry := hBears.registry_comm hNext hBears' hNext' hOther hRegistered
      gates := ?_
      creating := fun id => ?_
      requests := ⟨?_, fun index hIndex => ?_⟩ }
  · rw [hNext.gates, hBears.gates, hNext'.gates, hBears'.gates]
    exact embeds_swapped ..
  · rw [hNext'.creating, hBears'.creating, hNext.creating, hBears.creating]
  · rw [hLater', hRequests', hLater, hRequests]
    simp only [List.length_append]
    rw [hAsked _ p.handles.length, hAsked' q.handles.length p.handles.length, Nat.add_right_comm]
  · rw [hLater', hRequests', hLater, hRequests]
    simp only [List.append_assoc, List.getElem?_append_left hIndex]

end Order

section Dialing

variable [Dialer δ γ] {same : String → δ → δ → Prop} {number : Nat} {now : Instant}
  {w w' : World δ γ} {p p' : Pool γ} {d : Imprint δ γ} {call : Call} {id : String}

theorem Agrees.parallel (h : Agrees same id w w' p p')
    (hSeparates : Dialer.Separates same) :
    Parallel (same id) (start (γ := γ) id p.shutdown w.env) (start id p'.shutdown w'.env) := by
  rw [h.shutdown]
  exact start_parallel (hSeparates.regards id) h.meets h.seen

/-- A call is over in the same way, with the same imprint, wherever the worlds agree about its
endpoint. -/
theorem Does.stable (hDoes : Does same number now w p call d)
    (hSeparates : Dialer.Separates same) (hAgrees : Agrees same d.endpointId w w' p p') :
    Does same number now w' p' call d := by
  cases hDoes with
  | unnamed => exact .unnamed
  | reused named registered made endpoint =>
      exact .reused named (hAgrees.registry.trans registered) (hAgrees.handles _ _ made endpoint)
        endpoint
  | connected named lacks dials dialed =>
      obtain ⟨hProgress, hDialer⟩ := hAgrees.parallel hSeparates
      exact .connected named (hAgrees.lacks lacks) (hProgress.trans dials)
        ((hSeparates.regards _).trans dialed hDialer)
  | failed named lacks dials dialed =>
      obtain ⟨hProgress, hDialer⟩ := hAgrees.parallel hSeparates
      exact .failed named (hAgrees.lacks lacks) (hProgress.trans dials)
        ((hSeparates.regards _).trans dialed hDialer)
  | released made =>
      exact .released (hAgrees.handles _ _ made (Handle.release_endpointId ..).symm)
  | reported made home registered =>
      exact .reported (hAgrees.handles _ _ made rfl) home (hAgrees.registry.trans registered)
  | unregistered made gone =>
      refine .unregistered (hAgrees.handles _ _ made rfl) fun hHere => gone ?_
      exact ⟨hHere.1, hAgrees.registry.symm.trans hHere.2⟩

theorem Does.length_asked (hDoes : Does same number now w p call d) (count count' : Nat) :
    (d.asked count).length = (d.asked count').length := by
  cases hDoes <;> rfl

/-- What the caller is told differs only where it is told of a new handle. -/
theorem Does.reply_moved {place : Nat → Nat} {count count' : Nat}
    (hDoes : Does same number now w p call d) (hp : w.pools[number]? = some p)
    (hFixed : ∀ index, index < p.handles.length → place index = index)
    (hMade : d.made.isSome = true → place count = count') :
    (d.reply count).moved place = d.reply count' := by
  cases hDoes with
  | reused named registered made endpoint =>
      have hBound := (List.getElem?_eq_some_iff.mp ((handle?_here hp _).symm.trans made)).1
      exact congrArg (fun handle => Reply.got (some (.granted handle))) (hFixed _ hBound)
  | connected => exact congrArg (fun handle => Reply.got (some (.granted handle))) (hMade rfl)
  | unnamed | failed | released | reported | unregistered => rfl

/-- Two calls about different endpoints, each of which is over at once, come to the same in either
order, whatever the dialer, as long as it keeps endpoints apart. -/
theorem separated_calls_commute {first second : Call} {id id' : String}
    (hSeparates : Dialer.Separates same) (hServes : w.Serves number p now)
    (hSound : p.Sound p.requests) (hAbout : w.IsAbout id first) (hAbout' : w.IsAbout id' second)
    (hOther : id ≠ id') (hFinal : (w.reply number first).IsFinal)
    (hFinal' : (w.reply number second).IsFinal) :
    ∃ handle gate, Renumbers p.handles.length handle ∧ Renumbers p.gates.length gate ∧
      (w.perform (second.act number)).reply number first =
        (w.reply number first).moved handle ∧
      w.reply number second =
        ((w.perform (first.act number)).reply number second).moved handle ∧
      Coincides same number p handle gate
        (w.performAll [first.act number, second.act number])
        (w.performAll [second.act number, first.act number]) := by
  obtain ⟨d, hDoes, rfl⟩ := exists_does hServes hSeparates hSound hAbout hFinal
  obtain ⟨e, hDoes', rfl⟩ := exists_does hServes hSeparates hSound hAbout' hFinal'
  obtain ⟨hReply, hFirst⟩ := hDoes.leaves hServes hSeparates
  obtain ⟨hReply', hFirst'⟩ := hDoes'.leaves hServes hSeparates
  obtain ⟨q, hServed, hBears, _⟩ := hFirst.serves hServes
  obtain ⟨q', hServed', hBears', _⟩ := hFirst'.serves hServes
  -- Neither call has changed anything that the other goes by.
  have hLater' := hDoes'.stable hSeparates
    (hFirst.agrees hServes.pool hServed.pool hBears hOther.symm)
  have hLater := hDoes.stable hSeparates
    (hFirst'.agrees hServes.pool hServed'.pool hBears' hOther)
  obtain ⟨hTold', hSecond⟩ := hLater'.leaves hServed hSeparates
  obtain ⟨hTold, hSecond'⟩ := hLater.leaves hServed' hSeparates
  have hRegistered (id : String) (handle : Nat) (h : p.registry.get? id = some handle) :
      handle < p.handles.length := by
    obtain ⟨_, held, hMade, _⟩ := hSound.registered id handle h
    exact (List.getElem?_eq_some_iff.mp hMade).1
  refine ⟨_, _, renumbers_swapped .., renumbers_swapped .., ?_, ?_,
    hFirst.commute hSeparates hSecond hFirst' hSecond' hOther hServes.pool hRegistered
      hDoes.length_asked hDoes'.length_asked⟩
  · rw [hTold, hReply, hBears'.length_handles]
    exact (hDoes.reply_moved hServes.pool (fun _ => swapped_of_lt)
      fun h => swapped_start (toList_length_pos h)).symm
  · rw [hTold', hReply', hBears.length_handles]
    exact (hDoes'.reply_moved hServes.pool (fun _ => swapped_of_lt)
      fun h => swapped_next (toList_length_pos h)).symm

end Dialing

/-! ### The fixed dialer -/

/-- Two calls on an open pool about different endpoints, each of which is over at once, commute: in
either order each of them is told the same, up to the number of a new handle, and the worlds after
both coincide. A scan attempted at a reading of the clock would be a third operation in between, so
no pool is probed. -/
theorem calls_commute {w : World (FixedDialer γ) γ} {number : Nat} {p : Pool γ} {now : Instant}
    {first second : Call} {id id' : String} (hReachable : w.Reachable)
    (hp : w.pools[number]? = some p) (hOpen : p.closed = false) (hShown : w.env.shown = some now)
    (hUnprobed : w.probed = none) (hAbout : w.IsAbout id first) (hAbout' : w.IsAbout id' second)
    (hOther : id ≠ id') (hFinal : (w.reply number first).IsFinal)
    (hFinal' : (w.reply number second).IsFinal) :
    ∃ handle gate, Renumbers p.handles.length handle ∧ Renumbers p.gates.length gate ∧
      (w.perform (second.act number)).reply number first =
        (w.reply number first).moved handle ∧
      w.reply number second =
        ((w.perform (first.act number)).reply number second).moved handle ∧
      Coincides FixedDialer.SameTo number p handle gate
        (w.performAll [first.act number, second.act number])
        (w.performAll [second.act number, first.act number]) :=
  separated_calls_commute FixedDialer.separates ⟨hp, hOpen, hShown, hUnprobed⟩
    (hReachable.sound hp) hAbout hAbout' hOther hFinal hFinal'

/-- Two endpoints that nobody has a connection to yet; the first dial to one of them fails. -/
def unconnected : World (FixedDialer Nat) Nat :=
  performAll [.openPool 10, .order (FixedDialer.failNext "b" 1)]
    { env := { factory := { dialer := { connection := 7 }, policy := { initialGrace := 0 } } } }

/-- Whoever comes first gets the lower number; nothing else is different. -/
theorem unconnected_commute : ∃ p handle gate, unconnected.pools[0]? = some p ∧
    handle 0 = 1 ∧ handle 1 = 0 ∧
      Coincides FixedDialer.SameTo 0 p handle gate
        (unconnected.performAll [.get 0 "a", .get 0 "b"])
        (unconnected.performAll [.get 0 "b", .get 0 "a"]) := by
  have hReachable : unconnected.Reachable := ⟨_, _, rfl⟩
  have hOpen : unconnected.pools[0]?.map Pool.closed = some false := by decide +kernel
  have hShown : unconnected.env.shown = some 0 := by decide +kernel
  have hUnprobed : unconnected.probed = none := by decide +kernel
  obtain ⟨p, hp, hOpen⟩ := Option.map_eq_some_iff.mp hOpen
  have hAbout : unconnected.IsAbout "a" (.get "a") := rfl
  have hAbout' : unconnected.IsAbout "b" (.get "b") := rfl
  have hFirst : unconnected.reply 0 (.get "a") = .got (some (.granted 0)) := by decide +kernel
  have hSecond : unconnected.reply 0 (.get "b") = .got (some (.granted 0)) := by decide +kernel
  have hFinal : (Reply.got (some (.granted 0))).IsFinal := by
    rintro _ ⟨⟩
    rfl
  obtain ⟨handle, gate, _, _, hTold, hTold', hCoincides⟩ :=
    calls_commute hReachable hp hOpen hShown hUnprobed hAbout hAbout' (by decide)
      (hFirst ▸ hFinal) (hSecond ▸ hFinal)
  refine ⟨p, handle, gate, hp, ?_, ?_, hCoincides⟩
  · have hNext : (unconnected.perform (.get 0 "b")).reply 0 (.get "a") =
        .got (some (.granted 1)) := by decide +kernel
    have hMoved := hNext.symm.trans (hTold.trans (congrArg (Reply.moved handle) hFirst))
    simpa [Reply.moved, eq_comm] using hMoved
  · have hNext : (unconnected.perform (.get 0 "a")).reply 0 (.get "b") =
        .got (some (.granted 1)) := by decide +kernel
    have hMoved := hSecond.symm.trans (hTold'.trans (congrArg (Reply.moved handle) hNext))
    simpa [Reply.moved, eq_comm] using hMoved

end World

end Tether
