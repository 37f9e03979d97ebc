import Mathlib.Order.Bounds.Basic
import Tether.Trial

/-! What the counts on a handle say about its past. A release that comes when no borrow is out is not
made up for by a later borrow, so the mismatched releases are as many as the releases have ever been
ahead of the borrows. -/

namespace Tether

variable {γ : Type}

namespace Handle

/-- What is done to a handle. All of it counts as use. -/
inductive Call where
  | borrow
  | release
  | connection
  deriving Repr, DecidableEq

/-- A call, and the moment that the clock showed. -/
structure Use where
  moment : Instant
  call : Call
  deriving Repr, DecidableEq

def use (h : Handle γ) (u : Use) : Handle γ :=
  match u.call with
  | .borrow => h.borrow u.moment
  | .release => (h.release u.moment).2
  | .connection => h.touch u.moment

/-- How many of the uses are this call. -/
def calls (call : Call) (uses : List Use) : Int := uses.countP fun u => u.call = call

/-- By how much the releases are ahead of the borrows. -/
def owed (uses : List Use) : Int := calls .release uses - calls .borrow uses

/-- The counts on a handle that was made at this moment and has been put to these uses since. -/
structure Reckoned (made : Instant) (uses : List Use) (h : Handle γ) : Prop where
  refCount : (h.refCount : Int) = calls .borrow uses - calls .release uses + h.mismatched
  mismatched : IsGreatest (owed '' {first | first <+: uses}) h.mismatched
  lastUse : h.lastUse = (uses.getLast?.map Use.moment).getD made

variable {made : Instant} {uses : List Use} {u : Use} {handle : Handle γ}

theorem calls_concat (call : Call) (uses : List Use) (u : Use) :
    calls call (uses ++ [u]) = calls call uses + if u.call = call then 1 else 0 := by
  rw [calls, calls, List.countP_append, List.countP_singleton]
  split <;> simp_all

theorem reckoned_fresh (made : Instant) (id : String) (connection : γ) :
    Reckoned made [] (fresh made id connection) := by
  refine ⟨rfl, ⟨⟨[], List.nil_prefix, rfl⟩, ?_⟩, rfl⟩
  rintro _ ⟨first, hFirst, rfl⟩
  cases List.prefix_nil.mp hFirst
  exact Int.le_refl 0

/-- The stretches from the beginning of a longer past are those of the shorter one and all of it. -/
theorem prefixes_concat (uses : List Use) (u : Use) :
    owed '' {first | first <+: uses ++ [u]} =
      insert (owed (uses ++ [u])) (owed '' {first | first <+: uses}) := by
  rw [← Set.image_insert_eq]
  refine congrArg _ (Set.ext fun first => ?_)
  exact List.prefix_concat_iff

/-- As long as the borrows that are out cover what is owed, nothing new is mismatched. -/
theorem isGreatest_of_covered {peak : Int} (h : IsGreatest (owed '' {first | first <+: uses}) peak)
    (hCovered : owed (uses ++ [u]) ≤ peak) :
    IsGreatest (owed '' {first | first <+: uses ++ [u]}) peak := by
  rw [prefixes_concat]
  refine ⟨Set.mem_insert_of_mem _ h.1, ?_⟩
  rw [mem_upperBounds, Set.forall_mem_insert]
  exact ⟨hCovered, h.2⟩

/-- Where more is owed than ever before, that is the new height. -/
theorem isGreatest_of_ahead {peak : Int} (h : IsGreatest (owed '' {first | first <+: uses}) peak)
    (hAhead : peak ≤ owed (uses ++ [u])) :
    IsGreatest (owed '' {first | first <+: uses ++ [u]}) (owed (uses ++ [u])) := by
  rw [prefixes_concat]
  refine ⟨Set.mem_insert _ _, ?_⟩
  rw [mem_upperBounds, Set.forall_mem_insert]
  exact ⟨Int.le_refl _, fun debt hDebt => Int.le_trans (h.2 hDebt) hAhead⟩

theorem owed_concat (uses : List Use) (u : Use) :
    owed (uses ++ [u]) = owed uses + (if u.call = .release then 1 else 0) -
      (if u.call = .borrow then 1 else 0) := by
  rw [owed, owed, calls_concat, calls_concat]
  omega

theorem use_lastUse (h : Handle γ) (u : Use) : (h.use u).lastUse = u.moment := by
  unfold use
  split
  · rfl
  · unfold release
    split <;> rfl
  · rfl

theorem use_endpointId (h : Handle γ) (u : Use) : (h.use u).endpointId = h.endpointId := by
  unfold use
  split
  · rfl
  · unfold release
    split <;> rfl
  · rfl

/-- The borrows that are out make up the difference to the most that was ever owed. -/
theorem Reckoned.owed_eq (h : Reckoned made uses handle) :
    owed uses = handle.mismatched - handle.refCount := by
  rw [h.refCount, owed]
  omega

/-- After a use it is enough to know the two counts. -/
theorem reckoned_of_counts (count mismatched : Nat)
    (hUse : (handle.use u).refCount = count ∧ (handle.use u).mismatched = mismatched)
    (hCount : (count : Int) = mismatched - owed (uses ++ [u]))
    (hPeak : IsGreatest (owed '' {first | first <+: uses ++ [u]}) (mismatched : Int)) :
    Reckoned made (uses ++ [u]) (handle.use u) := by
  obtain ⟨rfl, rfl⟩ := hUse
  refine ⟨?_, hPeak, ?_⟩
  · rw [hCount, owed]
    omega
  · rw [use_lastUse, List.getLast?_concat]
    rfl

theorem Reckoned.use (h : Reckoned made uses handle) (u : Use) :
    Reckoned made (uses ++ [u]) (handle.use u) := by
  have hOwed := h.owed_eq
  have hNext := owed_concat uses u
  obtain ⟨moment, call⟩ := u
  cases call with
  | borrow =>
      simp only [reduceCtorEq, ↓reduceIte] at hNext
      exact reckoned_of_counts (handle.refCount + 1) handle.mismatched ⟨rfl, rfl⟩ (by omega)
        (isGreatest_of_covered h.mismatched (by omega))
  | release =>
      simp only [reduceCtorEq, ↓reduceIte] at hNext
      by_cases hNone : handle.refCount = 0
      -- nothing is out, so as much was owed as ever, and now it is one more
      · have hAhead : owed (uses ++ [⟨moment, .release⟩]) = (handle.mismatched + 1 : Nat) := by
          omega
        have hPeak := isGreatest_of_ahead (u := ⟨moment, .release⟩) h.mismatched (by omega)
        rw [hAhead] at hPeak
        refine reckoned_of_counts 0 (handle.mismatched + 1) ?_ (by omega) hPeak
        simp only [Handle.use, release, hNone, ↓reduceIte, and_self]
      · refine reckoned_of_counts (handle.refCount - 1) handle.mismatched ?_ (by omega)
          (isGreatest_of_covered h.mismatched (by omega))
        simp only [Handle.use, release, hNone, ↓reduceIte, and_self]
  | connection =>
      simp only [reduceCtorEq, ↓reduceIte] at hNext
      exact reckoned_of_counts handle.refCount handle.mismatched ⟨rfl, rfl⟩ (by omega)
        (isGreatest_of_covered h.mismatched (by omega))

end Handle

namespace Trial

open Handle

/-- The call that an action is, if it is one. -/
def Action.call? : Action → Option Call
  | .borrow => some .borrow
  | .release => some .release
  | .connection => some .connection
  | _ => none

/-- What the clock shows, if it can be read. -/
def shown (t : Trial) : Option Instant := (Clock.manual t.elapsed).read 0

/-- The use that an action makes of the handle. A call that cannot read the clock makes none. -/
def use? (action : Action) (t : Trial) : Option Use :=
  match action.call?, t.shown with
  | some call, some moment => some { moment, call }
  | _, _ => none

def actAll (actions : List Action) (t : Trial) : Trial :=
  actions.foldl (fun t action => (t.act action).2) t

/-- The uses that actions make of the handle, one after another. -/
def uses : List Action → Trial → List Use
  | [], _ => []
  | action :: rest, t => (t.use? action).toList ++ uses rest (t.act action).2

variable {t : Trial} {past : List Use} {made : Instant}

theorem timed_eq (t : Trial) (f : Instant → Answer × Trial) :
    t.timed f = match t.shown with
      | some now => f now
      | none => (.broken, t) := rfl

/-- An action changes the handle only by the use that it makes of it. -/
theorem act_handle (action : Action) (t : Trial) :
    (t.act action).2.handle = (t.use? action).elim t.handle t.handle.use := by
  cases action with
  | borrow | connection =>
      simp only [act, timed_eq, use?, Action.call?]
      cases t.shown <;> rfl
  | release =>
      simp only [act, timed_eq, use?, Action.call?]
      cases t.shown with
      | none => rfl
      | some now =>
          show (Trial.release now t).2.handle = (t.handle.release now).2
          unfold Trial.release
          split
          all_goals next h => rw [h]
  | advance span =>
      simp only [act]
      split <;> rfl
  | now =>
      simp only [act, timed_eq]
      split <;> rfl
  | endpointId | idleAt _ | evictable _ _ | summary | unknown => rfl

theorem act_reckoned (h : Reckoned made past t.handle) (action : Action) :
    Reckoned made (past ++ (t.use? action).toList) (t.act action).2.handle := by
  rw [act_handle]
  cases t.use? action with
  | none => simpa using h
  | some u => exact h.use u

theorem actAll_reckoned (h : Reckoned made past t.handle) (actions : List Action) :
    Reckoned made (past ++ t.uses actions) (t.actAll actions).handle := by
  induction actions generalizing t past with
  | nil => simpa [uses, actAll] using h
  | cons action rest ih =>
      have hRest := ih (act_reckoned h action)
      rw [List.append_assoc] at hRest
      exact hRest

theorem actAll_endpointId (actions : List Action) (t : Trial) :
    (t.actAll actions).handle.endpointId = t.handle.endpointId := by
  induction actions generalizing t with
  | nil => rfl
  | cons action rest ih =>
      refine (ih (t.act action).2).trans ?_
      rw [act_handle]
      cases t.use? action with
      | none => rfl
      | some u => exact use_endpointId t.handle u

/-- What uses the handle in no way changes nothing but the clock. -/
theorem act_of_unused {action : Action} (hUnused : t.use? action = none) :
    (t.act action).2 = { t with elapsed := (t.act action).2.elapsed } := by
  cases action with
  | borrow | release | connection =>
      simp only [use?, Action.call?] at hUnused
      simp only [act, timed_eq]
      cases hShown : t.shown with
      | none => rfl
      | some now =>
          rw [hShown] at hUnused
          cases hUnused
  | advance span =>
      simp only [act]
      split <;> rfl
  | now =>
      simp only [act, timed_eq]
      split <;> rfl
  | endpointId | idleAt _ | evictable _ _ | summary | unknown => rfl

theorem act_elapsed {action : Action} (hStays : ∀ span, action ≠ .advance span) :
    (t.act action).2.elapsed = t.elapsed := by
  cases action with
  | advance span => exact absurd rfl (hStays span)
  | release =>
      simp only [act, timed_eq]
      cases t.shown with
      | none => rfl
      | some now =>
          show (Trial.release now t).2.elapsed = t.elapsed
          unfold Trial.release
          split <;> rfl
  | borrow | connection | now =>
      simp only [act, timed_eq]
      cases t.shown <;> rfl
  | endpointId | idleAt _ | evictable _ _ | summary | unknown => rfl

theorem act_release (t : Trial) : (t.act .release).1 =
    if t.shown = none then .broken
    else if t.handle.refCount = 0 then .refused (.mismatchedRelease t.handle.endpointId)
    else .done := by
  simp only [act, timed_eq]
  cases t.shown with
  | none => rfl
  | some now =>
      show (Trial.release now t).1 = _
      unfold Trial.release Handle.release
      by_cases hNone : t.handle.refCount = 0 <;> simp [hNone]

/-- Whatever is done to a new handle, and however far the clock is moved in between: the mismatched
releases are as many as the releases have at most been ahead of the borrows, the count is what the
borrows are ahead by once these are left out, and the last use is the last of the calls. A release is
refused exactly when the count is zero. Questions change nothing, the clock changes nothing on the
handle, and a call that cannot read the clock does nothing. -/
theorem handle_reckoned (id connection : String) (made : Duration) (actions : List Action) :
    let start : Trial := { handle := .fresh made id connection, elapsed := made }
    let t := start.actAll actions
    Reckoned made (start.uses actions) t.handle ∧
      ((t.act .release).1 =
        if t.shown = none then .broken
        else if t.handle.refCount = 0 then .refused (.mismatchedRelease id) else .done) ∧
      ∀ action, t.use? action = none →
        (t.act action).2 = { t with elapsed := (t.act action).2.elapsed } ∧
          ((∀ span, action ≠ .advance span) → (t.act action).2 = t) := by
  intro start t
  have hReckoned : Reckoned made ([] ++ start.uses actions) t.handle :=
    actAll_reckoned (reckoned_fresh made id connection) actions
  refine ⟨hReckoned, ?_,
    fun action hUnused => ⟨act_of_unused hUnused, fun hStays => ?_⟩⟩
  · have hId : t.handle.endpointId = id := actAll_endpointId actions start
    rw [act_release, hId]
  · rw [act_of_unused hUnused, act_elapsed hStays]

/-- Releases beyond the one borrow that was out, and a borrow that does not make up for them. -/
def overdrawn : List Action := [.borrow, .release, .release, .advance 5, .release, .borrow]

theorem overdrawn_reckoned :
    ((start "db" "c").actAll overdrawn).handle =
      { endpointId := "db", connection := "c", refCount := 1, lastUse := 5, mismatched := 2 } ∧
    IsGreatest (owed '' {first | first <+: (start "db" "c").uses overdrawn}) 2 ∧
    (((start "db" "c").actAll overdrawn).act .summary).2 = (start "db" "c").actAll overdrawn := by
  obtain ⟨hReckoned, _, hUnused⟩ := handle_reckoned "db" "c" 0 overdrawn
  exact ⟨rfl, hReckoned.mismatched, (hUnused .summary rfl).2 (by simp)⟩

end Trial

end Tether
