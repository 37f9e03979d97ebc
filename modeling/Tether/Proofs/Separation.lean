import Tether.Dialer.Fixed
import Tether.Proofs.Contact
import Tether.Proofs.Table
import Tether.Proofs.Timetable

/-! Dials to different endpoints keep out of each other's way. A sequence of dials goes by nothing
but the settings of the factory, the time, and what factory and dialer know of its own endpoint; of
what they know of other endpoints it changes nothing. -/

namespace Tether

variable {δ γ : Type}

/-- What the dialer knows of one endpoint is the same in two dialers. Dials of one endpoint go by
that alone, and leave it alone for every other endpoint. -/
structure Dialer.Separates [Dialer δ γ] (same : String → δ → δ → Prop) : Prop where
  regards : ∀ id, Regards id (same id)
  symm : ∀ {id d d'}, same id d d' → same id d' d
  launch : ∀ {id other : String}, other ≠ id → ∀ d, same other d (Dialer.launch id d).dialer
  land : ∀ {id other : String}, other ≠ id →
    ∀ ticket d, same other d (Dialer.land id ticket d).2

/-- Dials that land in two dialers that are the same to their endpoint give the same answer. -/
theorem Dialer.Regards.landing [Dialer δ γ] {id : String} {same : δ → δ → Prop}
    (h : Regards id same) (ticket : Nat) {d d' : δ} (hSame : same d d') :
    ∃ answer e e', Dialer.land id ticket d = (answer, e) ∧
      Dialer.land id ticket d' = (answer, e') ∧ same e e' :=
  ⟨_, _, (Dialer.land id ticket d').2, rfl, Prod.ext (h.answer ticket hSame) rfl,
    h.land ticket hSame⟩

namespace FixedDialer

/-- Both dialers hand out the same connection as fast, have the same orders for the endpoint, and
have counted the same dials to it. -/
structure SameTo (id : String) (d d' : FixedDialer γ) : Prop where
  connection : d'.connection = d.connection
  latency : d'.latency = d.latency
  orders : d'.orders.get? id = d.orders.get? id
  tallies : d'.tallies.get? id = d.tallies.get? id

variable {id other : String} {d d' : FixedDialer γ}

theorem SameTo.order_eq (h : d.SameTo id d') : d'.order id = d.order id :=
  congrArg (·.getD {}) h.orders

theorem SameTo.land_fst (h : d.SameTo id d') : (d'.land id).1 = (d.land id).1 := by
  unfold land
  rw [h.order_eq, h.connection]

/-- After a dial the dialer knows of the endpoint what follows from what it knew before. -/
theorem SameTo.land_snd (h : d.SameTo id d') : (d.land id).2.SameTo id (d'.land id).2 := by
  refine ⟨h.connection, h.latency, ?_, ?_⟩
  · show Table.get? (if _ then _ else _) id = Table.get? (if _ then _ else _) id
    rw [h.order_eq]
    split
    · rw [Table.get?_insert, Table.get?_insert, if_pos rfl, if_pos rfl]
    · exact h.orders
  · show Table.get? (Table.alter ..) id = Table.get? (Table.alter ..) id
    rw [Table.get?_alter, Table.get?_alter, if_pos rfl, if_pos rfl, h.order_eq, h.tallies]

theorem land_elsewhere (hOther : other ≠ id) (d : FixedDialer γ) :
    d.SameTo other (d.land id).2 := by
  refine ⟨rfl, rfl, ?_, ?_⟩
  · show Table.get? (if _ then _ else _) other = _
    split
    · exact (Table.get?_insert ..).trans (if_neg hOther)
    · rfl
  · exact (Table.get?_alter ..).trans (if_neg hOther)

theorem separates : Dialer.Separates (SameTo (γ := γ)) where
  regards _ :=
    { refl := fun _ => ⟨rfl, rfl, rfl, rfl⟩
      trans := fun first second =>
        ⟨second.connection.trans first.connection, second.latency.trans first.latency,
          second.orders.trans first.orders, second.tallies.trans first.tallies⟩
      ticket := fun _ => rfl
      delay := fun h => congrArg Duration.slept h.latency
      launch := fun h => h
      answer := fun _ h => h.land_fst
      land := fun _ h => h.land_snd }
  symm h := ⟨h.connection.symm, h.latency.symm, h.orders.symm, h.tallies.symm⟩
  launch _ _ := ⟨rfl, rfl, rfl, rfl⟩
  land hOther _ d := land_elsewhere hOther d

end FixedDialer

namespace DialSequence

open Surroundings

variable [Dialer δ γ] {id other : String} {tier : Tier} {cancelled told : Bool}
  {remaining attempt ticket : Nat} {env env' : Surroundings δ}

/-! ### What a sequence of dials goes by -/

/-- The settings, the time, and what the dialer knows of the endpoint are the same. -/
structure Meets (same : δ → δ → Prop) (env env' : Surroundings δ) : Prop where
  now : env'.now = env.now
  settings : Configured env env'
  dialer : same env.factory.dialer env'.factory.dialer

/-- Two turns came to the same, and so did what the dialer knows of the endpoint after them. -/
structure Parallel (same : δ → δ → Prop) (turn turn' : DialProgress γ × Surroundings δ) : Prop where
  progress : turn'.1 = turn.1
  dialer : same turn.2.factory.dialer turn'.2.factory.dialer

variable {same : δ → δ → Prop}

theorem Meets.redial (h : Meets same env env') {d d' : δ} (hDialer : same d d') :
    Meets same (env.setDialer d) (env'.setDialer d') :=
  ⟨h.now, ⟨h.settings.policy, h.settings.shutdown⟩, hDialer⟩

theorem Meets.note (h : Meets same env env') (event event' : Event) :
    Meets same (env.note event) (env'.note event') :=
  ⟨h.now, ⟨h.settings.policy, h.settings.shutdown⟩, h.dialer⟩

theorem firstContact_dialer (id : String) (env : Surroundings δ) :
    (env.firstContact id).2.factory.dialer = env.factory.dialer := by
  unfold firstContact Factory.firstContact
  dsimp only
  split <;> rfl

theorem Meets.marked (h : Meets same env env') (id : String) :
    Meets same (env.firstContact id).2 (env'.firstContact id).2 := by
  obtain ⟨hPolicy, hShutdown⟩ := configured_firstContact id env
  obtain ⟨hPolicy', hShutdown'⟩ := configured_firstContact id env'
  refine ⟨h.now, ⟨?_, ?_⟩, ?_⟩
  · rw [hPolicy, hPolicy', h.settings.policy]
  · rw [hShutdown, hShutdown', h.settings.shutdown]
  · rw [firstContact_dialer, firstContact_dialer]
    exact h.dialer

/-- A dial is launched alike if dials land alike. -/
theorem launch_parallel_of (hRegards : Dialer.Regards id same)
    (hLand : ∀ (ticket : Nat) {env env' : Surroundings δ}, Meets same env env' →
      Parallel same (land id tier cancelled remaining attempt ticket env)
        (land id tier cancelled remaining attempt ticket env')) (h : Meets same env env') :
    Parallel same (launch id tier cancelled remaining attempt env)
      (launch id tier cancelled remaining attempt env') := by
  have hLaunched := hRegards.launch h.dialer
  unfold launch
  dsimp only
  rw [hRegards.delay h.dialer, hRegards.ticket h.dialer]
  split
  · exact hLand _ (h.redial hLaunched)
  · refine ⟨?_, hLaunched⟩
    simp only [setDialer, h.now]

theorem land_parallel (hRegards : Dialer.Regards id same) (h : Meets same env env') :
    Parallel same (land id tier cancelled remaining attempt ticket env)
      (land id tier cancelled remaining attempt ticket env') := by
  induction remaining generalizing attempt ticket env env' with
  | zero =>
      obtain ⟨answer, d, d', hLand, hLand', hSame⟩ := hRegards.landing ticket h.dialer
      unfold land
      rw [hLand, hLand']
      cases answer <;> exact ⟨rfl, hSame⟩
  | succ left ih =>
      obtain ⟨answer, d, d', hLand, hLand', hSame⟩ := hRegards.landing ticket h.dialer
      unfold land
      rw [hLand, hLand']
      cases answer with
      | ok connection => exact ⟨rfl, hSame⟩
      | error error =>
          have hLanded (event event' : Event) :
              Meets same ((env.setDialer d).note event) ((env'.setDialer d').note event') :=
            (h.redial hSame).note event event'
          have hPolicy : (env'.setDialer d').factory.policy = (env.setDialer d).factory.policy :=
            h.settings.policy
          dsimp only
          rw [hPolicy]
          split
          · exact ⟨rfl, hSame⟩
          · split
            · exact launch_parallel_of hRegards (fun ticket _ _ h => ih h) (hLanded _ _)
            · refine ⟨?_, hSame⟩
              simp only [setDialer, Surroundings.note, h.now]

theorem launch_parallel (hRegards : Dialer.Regards id same) (h : Meets same env env') :
    Parallel same (launch id tier cancelled remaining attempt env)
      (launch id tier cancelled remaining attempt env') :=
  launch_parallel_of hRegards (fun _ _ _ h => land_parallel hRegards h) h

/-- A sequence of dials comes to the same, as far as it gets without time passing, where it is told
the same and its endpoint has been dialed before in both surroundings or in neither. -/
theorem start_parallel (hRegards : Dialer.Regards id same) (h : Meets same env env')
    (hSeen : env'.factory.hasSeen id = env.factory.hasSeen id) :
    Parallel same (start id told env) (start id told env') := by
  have hFirst : (env'.firstContact id).1 = (env.firstContact id).1 :=
    (Factory.firstContact_eq id env'.factory).1.trans
      ((congrArg not hSeen).trans (Factory.firstContact_eq id env.factory).1.symm)
  have hMarked : Meets same (env.firstContact id).2 (env'.firstContact id).2 := h.marked id
  unfold start
  dsimp only
  rw [hFirst, h.settings.shutdown, hMarked.settings.policy]
  exact launch_parallel hRegards (hMarked.note _ _)

/-! ### What a sequence of dials leaves alone -/

section Elsewhere

variable {same : String → δ → δ → Prop}

theorem launch_elsewhere_of (hSeparates : Dialer.Separates same) (hOther : other ≠ id)
    (hLand : ∀ (ticket : Nat) (env : Surroundings δ), same other env.factory.dialer
      (land id tier cancelled remaining attempt ticket env).2.factory.dialer)
    (env : Surroundings δ) : same other env.factory.dialer
      (launch id tier cancelled remaining attempt env).2.factory.dialer := by
  have hLaunched := hSeparates.launch hOther env.factory.dialer
  unfold launch
  dsimp only
  split
  · exact (hSeparates.regards other).trans hLaunched (hLand _ (env.setDialer _))
  · exact hLaunched

theorem land_elsewhere (hSeparates : Dialer.Separates same) (hOther : other ≠ id) (ticket : Nat)
    (env : Surroundings δ) : same other env.factory.dialer
      (land id tier cancelled remaining attempt ticket env).2.factory.dialer := by
  have hLanded := hSeparates.land hOther ticket env.factory.dialer
  induction remaining generalizing attempt ticket env with
  | zero =>
      unfold land
      generalize Dialer.land id ticket env.factory.dialer = landed at hLanded ⊢
      obtain ⟨answer, d⟩ := landed
      cases answer <;> exact hLanded
  | succ left ih =>
      unfold land
      generalize Dialer.land id ticket env.factory.dialer = landed at hLanded ⊢
      obtain ⟨answer, d⟩ := landed
      cases answer with
      | ok connection => exact hLanded
      | error error =>
          dsimp only
          split
          · exact hLanded
          · split
            · refine (hSeparates.regards other).trans hLanded ?_
              exact launch_elsewhere_of hSeparates hOther
                (fun ticket env => ih ticket env (hSeparates.land hOther ticket env.factory.dialer))
                ((env.setDialer d).note _)
            · exact hLanded

theorem launch_elsewhere (hSeparates : Dialer.Separates same) (hOther : other ≠ id)
    (env : Surroundings δ) : same other env.factory.dialer
      (launch id tier cancelled remaining attempt env).2.factory.dialer :=
  launch_elsewhere_of hSeparates hOther (land_elsewhere hSeparates hOther) env

/-- A sequence of dials does nothing to what the dialer knows of any other endpoint. -/
theorem start_elsewhere (hSeparates : Dialer.Separates same) (hOther : other ≠ id) (told : Bool)
    (env : Surroundings δ) :
    same other env.factory.dialer (start id told env).2.factory.dialer := by
  rw [← firstContact_dialer id env]
  exact launch_elsewhere hSeparates hOther ((env.firstContact id).2.note _)

end Elsewhere

end DialSequence

end Tether
