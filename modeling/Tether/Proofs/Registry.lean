import Tether.Proofs.Gates

/-! What an act does to the registry of a pool. A handle comes in only where there is none, and goes
out only in a scan, through a report on it, or with the pool. -/

namespace Tether

variable {δ γ : Type}

namespace Pool

/-- The ways in which the registry of a pool can come out of an act. Handles are only ever added, at
the end of their list, and each is registered as it is added. -/
inductive Registered (allowed : Prop) (clock : Option Instant) (number : Nat) (act : Act δ)
    (p p' : Pool γ) : Prop where
  | kept {q : Pool γ} (scanned : Scanned allowed clock p q) (registry : p'.registry = q.registry)
      (handles : p'.handles.length = p.handles.length)
  | filled {q : Pool γ} {id : String} {h : Handle γ} (open_ : p.closed = false)
      (empty : p.registry.get? id = none) (scanned : Scanned allowed clock p q)
      (registry : p'.registry = q.registry.insert id p.handles.length)
      (handles : p'.handles = p.handles ++ [h]) (owner : h.endpointId = id)
  | reported {index : Nat} {id : String} (cause : String)
      (told : act = .report number ⟨number, index⟩ cause)
      (found : p.registry.get? id = some index) (registry : p'.registry = p.registry.erase id)
      (handles : p'.handles = p.handles)
  | closed (told : act = .close number) (registry : p'.registry = [])
      (handles : p'.handles = p.handles)

variable {allowed : Prop} {clock : Option Instant} {number index gate : Nat} {id dialed : String}
  {act : Act δ} {p p' q : Pool γ} {state : RequestState}

theorem Scanned.handles_eq (h : Scanned allowed clock p q) : q.handles = p.handles := by
  rw [h.eq]

theorem Scanned.closed_eq (h : Scanned allowed clock p q) : q.closed = p.closed := by
  rw [h.eq]

/-- What stays the same of the registry when a turn of a request is written down. -/
theorem Registered.congr {r : Pool γ} (h : Registered allowed clock number act p p')
    (hRegistry : r.registry = p'.registry) (hHandles : r.handles = p'.handles) :
    Registered allowed clock number act p r := by
  cases h with
  | kept scanned registry handles =>
      exact .kept scanned (hRegistry.trans registry) (hHandles ▸ handles)
  | filled open_ empty scanned registry handles owner =>
      exact .filled open_ empty scanned (hRegistry.trans registry) (hHandles.trans handles) owner
  | reported cause told found registry handles =>
      exact .reported cause told found (hRegistry.trans registry) (hHandles.trans handles)
  | closed told registry handles =>
      exact .closed told (hRegistry.trans registry) (hHandles.trans handles)

/-- Starting the reaper before a scan or after it makes no difference to the registry. -/
theorem Registered.of_roused (h : Registered allowed clock number act p.roused p') :
    Registered allowed clock number act p p' := by
  cases h with
  | kept scanned registry handles =>
      obtain ⟨q, hScanned, rfl⟩ := scanned.before roused rfl fun _ => rfl
      exact .kept hScanned registry handles
  | filled open_ empty scanned registry handles owner =>
      obtain ⟨q, hScanned, rfl⟩ := scanned.before roused rfl fun _ => rfl
      exact .filled open_ empty hScanned registry handles owner
  | reported cause told found registry handles =>
      exact .reported cause told found registry handles
  | closed told registry handles => exact .closed told registry handles

/-- A sequence of dials that goes on, after scans, registers a handle only where there is none. -/
theorem Followed.registered {progress : DialProgress γ} {r : Pool γ}
    (h : Followed clock gate id dialed q progress state p') (hScanned : Scanned allowed clock p r)
    (hClosed : q.closed = r.closed) (hRegistry : q.registry = r.registry)
    (hHandles : q.handles = r.handles)
    (hEmpty : p.closed = false → p.registry.get? id = none) :
    Registered allowed clock number act p p' := by
  have hSame : q.handles = p.handles := hHandles.trans hScanned.handles_eq
  cases h with
  | waiting | failed | unread | discarded =>
      exact .kept hScanned hRegistry (congrArg List.length hSame)
  | @created now connection shown open_ =>
      have hOpen : p.closed = false := hScanned.closed_eq.symm.trans (hClosed.symm.trans open_)
      refine .filled (h := (Handle.fresh now id connection).borrow now) hOpen (hEmpty hOpen)
        hScanned ?_ ?_ rfl
      · show q.registry.insert id q.handles.length = _
        rw [hRegistry, hSame]
      · show q.handles ++ [_] = _
        rw [hSame]

theorem Looked.registered (h : Looked allowed clock id p state p') :
    Registered allowed clock number act p p' := by
  cases h with
  | closed | unread | queued => exact .kept (.refl p) rfl rfl
  | reused => exact .kept (.refl p) rfl (List.length_modify ..)
  | dials lacks scanned follows =>
      exact follows.registered scanned rfl rfl rfl fun _ => lacks.unregistered

theorem Change.registered (h : Change allowed clock number act p p') (hSound : p.Sound p.requests) :
    Registered allowed clock number act p p' := by
  cases h with
  | tended scanned same =>
      obtain ⟨_, _, _, _, rfl, _⟩ := same
      exact .kept scanned rfl (congrArg List.length scanned.handles_eq)
  | held | left | gaveUp => exact .kept (.refl p) rfl rfl
  | entered enters =>
      cases enters with
      | closed | unnamed => exact .kept (.refl p) rfl rfl
      | looked open_ named looks =>
          exact looks.registered.of_roused.congr rfl rfl
  | passed waits passes =>
      cases passes with
      | failed | closed | queued => exact .kept (.refl p) rfl rfl
      | looked decided looks =>
          exact looks.registered.congr rfl rfl
  | followed dials scanned follows =>
      refine (follows.registered scanned rfl rfl rfl fun hOpen => ?_).congr rfl rfl
      exact hSound.vacant hOpen _ _ _ ⟨_, dials⟩
  | borrowed scanned | givenBack scanned | touched scanned =>
      exact .kept scanned rfl
        ((List.length_modify ..).trans (congrArg List.length scanned.handles_eq))
  | reported open_ made registered => exact .reported _ rfl registered rfl rfl
  | closed => exact .closed rfl rfl rfl

/-- After scans a handle is registered as before, or it was evicted. -/
theorem Scanned.fate (h : Scanned allowed clock p q) (hKeys : p.registry.keys.Nodup) {handle : Nat}
    (hFound : p.registry.get? id = some handle) :
    q.registry.get? id = some handle ∨ q.registry.get? id = none ∧
      ∃ now, allowed ∧ clock = some now ∧ p.StaleAt now handle := by
  rcases h with rfl | ⟨hAllowed, _, now, hShown, rfl⟩
  · exact Or.inl hFound
  · rw [swept_registry, Table.get?_filter hKeys, hFound]
    by_cases hStale : Site.isStale now p handle = true
    · exact Or.inr ⟨by simp [Option.filter_some, hStale], now, hAllowed, hShown,
        Site.isStale_iff.mp hStale⟩
    · exact Or.inl (by simp [Option.filter_some, hStale])

/-- A handle that was registered is registered still, or there is none now in its place. There are
three ways out: it was evicted, it was reported, or the pool was closed. -/
theorem Registered.fate (h : Registered allowed clock number act p p')
    (hKeys : p.registry.keys.Nodup) {handle : Nat} (hFound : p.registry.get? id = some handle) :
    p'.registry.get? id = some handle ∨ p'.registry.get? id = none ∧
      ((∃ now, allowed ∧ clock = some now ∧ p.StaleAt now handle) ∨
        (∃ cause, act = .report number ⟨number, handle⟩ cause) ∨ act = .close number) := by
  cases h with
  | kept scanned registry =>
      rw [registry]
      exact (scanned.fate hKeys hFound).imp_right fun ⟨hGone, hStale⟩ => ⟨hGone, Or.inl hStale⟩
  | @filled q id' _ _ empty scanned registry =>
      have hOther : id ≠ id' := by
        rintro rfl
        cases empty.symm.trans hFound
      rw [registry, Table.get?_insert, if_neg hOther]
      exact (scanned.fate hKeys hFound).imp_right fun ⟨hGone, hStale⟩ => ⟨hGone, Or.inl hStale⟩
  | @reported index id' cause told found registry =>
      rw [registry, Table.get?_erase]
      by_cases hSame : id = id'
      · subst hSame
        cases found.symm.trans hFound
        exact Or.inr ⟨if_pos rfl, Or.inr (Or.inl ⟨cause, told⟩)⟩
      · rw [if_neg hSame]
        exact Or.inl hFound
  | closed told registry =>
      rw [registry]
      exact Or.inr ⟨rfl, Or.inr (Or.inr told)⟩

/-- A handle made in an act is registered in it, in a pool that was open and had none. -/
theorem Registered.fresh (h : Registered allowed clock number act p p') {handle : Nat}
    {h' : Handle γ} (hFresh : p.handles.length ≤ handle) (hMade : p'.handles[handle]? = some h') :
    p.closed = false ∧ p.registry.get? h'.endpointId = none ∧
      p'.registry.get? h'.endpointId = some handle := by
  have hBound := (List.getElem?_eq_some_iff.mp hMade).1
  cases h with
  | kept scanned registry handles => omega
  | filled open_ empty scanned registry handles owner =>
      have hLast : handle = p.handles.length := by
        rw [handles, List.length_append, List.length_singleton] at hBound
        omega
      subst hLast
      rw [handles, List.getElem?_concat_length] at hMade
      cases hMade
      rw [owner, registry, Table.get?_insert, if_pos rfl]
      exact ⟨open_, empty, rfl⟩
  | reported cause told found registry handles =>
      rw [handles] at hBound
      omega
  | closed told registry handles =>
      rw [handles] at hBound
      omega

end Pool

end Tether
