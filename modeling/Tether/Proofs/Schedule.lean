import Tether.Proofs.Run
import Tether.World.Await

/-! The rounds that a world keeps by itself, and the waits that are made of them, are runs: whatever
holds after every run holds after them. -/

namespace Tether.World

variable {δ γ : Type} [Dialer δ γ]

/-- Some run leads from the one world to the other. -/
def LeadsTo (w w' : World δ γ) : Prop := ∃ acts : List (Act δ), w' = w.performAll acts

theorem LeadsTo.reachable {w w' : World δ γ} (h : LeadsTo w w') (hReachable : w.Reachable) :
    w'.Reachable := by
  obtain ⟨acts, rfl⟩ := h
  exact hReachable.performAll acts

/-- A run of nothing but acts of this kind leads from the one world to the other. -/
def LeadsBy (kind : Act δ → Prop) (w w' : World δ γ) : Prop :=
  ∃ acts : List (Act δ), (∀ act ∈ acts, kind act) ∧ w' = w.performAll acts

section Kinds

variable {kind : Act δ → Prop} {w w' w'' : World δ γ}

theorem LeadsBy.refl (w : World δ γ) : LeadsBy kind w w := ⟨[], by simp, rfl⟩

theorem LeadsBy.trans (first : LeadsBy kind w w') (second : LeadsBy kind w' w'') :
    LeadsBy kind w w'' := by
  obtain ⟨acts, hKind, rfl⟩ := first
  obtain ⟨acts', hKind', rfl⟩ := second
  refine ⟨acts ++ acts', fun act hAct => ?_, by simp [performAll]⟩
  exact (List.mem_append.mp hAct).elim (hKind act) (hKind' act)

/-- Where the kind of the acts does not matter, it can be forgotten. -/
theorem LeadsBy.leadsTo (h : LeadsBy kind w w') : LeadsTo w w' := by
  obtain ⟨acts, _, hSame⟩ := h
  exact ⟨acts, hSame⟩

/-- One act of the kind leads on. -/
theorem leadsBy_perform (act : Act δ) (hKind : kind act) (w : World δ γ) :
    LeadsBy kind w (w.perform act) := ⟨[act], by simpa using hKind, rfl⟩

end Kinds

/-- The world goes on by itself in this way: a request, a sequence of dials or a reaper has a turn. -/
def IsTurn : Act δ → Prop
  | .resume .. | .resumeCreation _ | .reap _ => True
  | _ => False

/-- Turns alone lead from the one world to the other. -/
def GoesTo (w w' : World δ γ) : Prop :=
  ∃ acts : List (Act δ), (∀ act ∈ acts, IsTurn act) ∧ w' = w.performAll acts

/-- Turns may be taken under any rule that lets everybody take a turn. -/
theorem GoesTo.leadsBy {kind : Act δ → Prop} {w w' : World δ γ} (h : GoesTo w w')
    (hTurns : ∀ act, IsTurn act → kind act) : LeadsBy kind w w' := by
  obtain ⟨acts, hActs, hSame⟩ := h
  exact ⟨acts, fun act hAct => hTurns act (hActs act hAct), hSame⟩

theorem GoesTo.refl (w : World δ γ) : GoesTo w w := LeadsBy.refl w

theorem GoesTo.trans {w w' w'' : World δ γ} (first : GoesTo w w') (second : GoesTo w' w'') :
    GoesTo w w'' := LeadsBy.trans first second

theorem goesTo_perform (act : Act δ) (hTurn : IsTurn act) (w : World δ γ) :
    GoesTo w (w.perform act) := leadsBy_perform act hTurn w

/-- Turns that are taken one after another, along a list of those whose turn it is. -/
theorem goesTo_foldl {α : Type} {f : World δ γ → α → World δ γ}
    (hStep : ∀ w a, GoesTo w (f w a)) (list : List α) (w : World δ γ) :
    GoesTo w (list.foldl f w) := by
  induction list generalizing w with
  | nil => exact .refl w
  | cons a rest ih => exact (hStep w a).trans (ih (f w a))

theorem turnRequests_goesTo (number : Nat) (w : World δ γ) : GoesTo w (w.turnRequests number) :=
  goesTo_foldl (fun w index => goesTo_perform (.resume number index) trivial w) _ w

theorem round_goesTo (w : World δ γ) : GoesTo w w.round := by
  refine .trans ?_ (goesTo_foldl (fun w number => goesTo_perform (.reap number) trivial w) _ _)
  refine .trans ?_
    (goesTo_foldl (fun w index => goesTo_perform (.resumeCreation index) trivial w) _ _)
  exact goesTo_foldl (fun w number => turnRequests_goesTo number w) _ w

theorem rounds_goesTo (count : Nat) (w : World δ γ) : GoesTo w (w.rounds count) := by
  induction count generalizing w with
  | zero => exact .refl w
  | succ count ih =>
      unfold rounds
      split
      · exact .refl w
      · exact (round_goesTo w).trans (ih w.round)

/-- Letting everything settle is a matter of turns alone, so whatever turns preserve still holds. -/
theorem settle_goesTo (w : World δ γ) : GoesTo w w.settle := rounds_goesTo _ w

section Waits

variable {kind : Act δ → Prop} (hTurns : ∀ act, IsTurn act → kind act)
  (hPass : ∀ moment, kind (.pass moment))
include hTurns hPass

/-- Waiting is made of turns and of time that passes, however long it takes. -/
theorem passUntil_leadsBy (limit : Option Instant) (done : World δ γ → Bool) (count : Nat)
    (w : World δ γ) : LeadsBy kind w (w.passUntil limit done count) := by
  induction count generalizing w with
  | zero => exact .refl w
  | succ count ih =>
      have hSettle : LeadsBy kind w w.settle := (settle_goesTo w).leadsBy hTurns
      unfold passUntil
      dsimp only
      split
      · exact hSettle
      · split
        · exact hSettle
        · next moment _ => exact (hSettle.trans (leadsBy_perform (.pass moment) (hPass moment) _)).trans (ih _)

/-- A caller who sleeps lets time pass and the others take their turns. -/
theorem sleep_leadsBy (span : Duration) (w : World δ γ) : LeadsBy kind w (w.sleep span) :=
  passUntil_leadsBy hTurns hPass _ _ _ w

/-- Whoever asks and waits for the answer does nothing else. -/
theorem fetch_leadsBy (number : Nat) (id : String) (hGet : kind (.get number id))
    (w : World δ γ) : LeadsBy kind w (w.fetch number id).2 := by
  have hAsked : LeadsBy kind w (w.visit number (Site.get id)).2 := leadsBy_perform (.get number id) hGet w
  unfold fetch
  split
  · next h =>
    rw [h] at hAsked
    exact hAsked
  · next index w' h =>
    rw [h] at hAsked
    have hWait := hAsked.trans (passUntil_leadsBy hTurns hPass none
      (fun w => !w.isRequestLive number index) patience w')
    dsimp only
    split <;> exact hWait

end Waits

end Tether.World
