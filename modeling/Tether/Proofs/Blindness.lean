import Mathlib.Logic.Function.Basic
import Tether.Proofs.Borrows
import Tether.Proofs.Breaking
import Tether.Proofs.Leaving
import Tether.Proofs.Unison

/-! Worlds whose clock cannot be read. Whatever needs it breaks off at the reading, and everything
that happens afterwards goes as if that had never been tried: the handles, the registries and the
counters are as they were, and a gate behind which a request was dialing has been given up. -/

namespace Tether

variable {δ γ : Type}

namespace World

open Surroundings Pool

/-! ### Worlds whose clock cannot be read -/

section Visits

variable {α : Type} {w : World δ γ} {number : Nat} {p q : Pool γ} {f : Site δ γ → α × Site δ γ}

theorem modify_eq_set (hp : w.pools[number]? = some p) (change : Pool γ → Pool γ) :
    w.pools.modify number change = w.pools.set number (change p) := by
  obtain ⟨hBound, rfl⟩ := List.getElem?_eq_some_iff.mp hp
  exact List.modify_eq_set_get change hBound

theorem set_same (hp : w.pools[number]? = some p) : w.pools.set number p = w.pools := by
  obtain ⟨hBound, rfl⟩ := List.getElem?_eq_some_iff.mp hp
  exact List.set_getElem_self hBound

theorem probeElsewhere_blind (hBlind : w.env.shown = none) (count : Nat) :
    ∃ probes, w.probeElsewhere count = { w with env := { w.env with probes } } := by
  induction count generalizing w with
  | zero => exact ⟨w.env.probes, probeElsewhere_zero w⟩
  | succ count ih =>
      unfold probeElsewhere
      split
      · next count' number hCount hProbed =>
        cases hCount
        split
        · next p hp =>
          obtain ⟨probes, hProbe⟩ :=
            Site.probe_blind (s := { env := w.env, pool := p }) hBlind false
          rw [hProbe]
          dsimp only
          rw [set_same hp]
          exact ih (w := { w with env := { w.env with probes } }) hBlind
        · exact ⟨w.env.probes, rfl⟩
      · exact ⟨w.env.probes, rfl⟩

theorem visit_answer (hp : w.pools[number]? = some p) (f : Site δ γ → α × Site δ γ) :
    (w.visit number f).1 = some (f (w.site number p)).1 := by
  unfold visit
  rw [hp]
  rfl

/-- Scans at readings that come with a visit are those of other pools. -/
theorem visit_pool {allowed : Event → Prop} (hp : w.pools[number]? = some p)
    (hRecorded : Recorded allowed (w.site number p).env (f (w.site number p)).2.env) :
    (w.visit number f).2.pools[number]? = some (f (w.site number p)).2.pool := by
  have hAny : Recorded (Event.StartsOnly fun _ => True) (w.site number p).env
      (f (w.site number p)).2.env := hRecorded.mono fun _ _ _ _ => trivial
  exact (visit_spec hp f hAny).2.pool

theorem visit_blind (hp : w.pools[number]? = some p)
    (hBlind : (f (w.site number p)).2.env.shown = none) :
    ∃ probes, (w.visit number f).2 =
      { w with
        env := { (f (w.site number p)).2.env with probes }
        pools := w.pools.set number (f (w.site number p)).2.pool } := by
  unfold visit
  rw [hp]
  dsimp only
  split
  · exact ⟨(f (w.site number p)).2.env.probes, rfl⟩
  · exact probeElsewhere_blind (w := { w with
      env := (f (w.site number p)).2.env
      pools := w.pools.set number (f (w.site number p)).2.pool }) hBlind _

theorem use_blind {ref : HandleRef} {held : Handle γ} (change : Instant → Handle γ → α × Handle γ)
    (hMade : w.handle? ref = some held) (hMissing : (w.use ref change).1 = none) :
    w.env.shown = none ∧ ∃ probes, w.use ref change =
      (none, { w with env := { w.env with probes } }) := by
  cases hShown : w.env.shown with
  | none =>
      obtain ⟨probes, hRead⟩ := probeElsewhere_blind hShown 1
      refine ⟨rfl, probes, ?_⟩
      rw [use_of_none change (Or.inl hShown)]
      exact congrArg (Prod.mk none) hRead
  | some now =>
      rw [use_of_shown change hShown hMade] at hMissing
      cases hMissing

/-- The worlds after an operation on one pool and without it, if the pools are alike. -/
theorem visit_alike_of_pool {R : Renumbering} {allowed : Event → Prop}
    (hp : w.pools[number]? = some p) (hBlind : w.env.shown = none)
    (hRecorded : Recorded allowed (w.site number p).env (f (w.site number p)).2.env)
    (hConfigured : Configured (w.site number p).env (f (w.site number p)).2.env)
    (hPool : q.Alike R (f (w.site number p)).2.pool) :
    Alike w.env.history (w.visit number f).2.env.history
      (Function.update (fun _ => .refl) number R)
      { w with env := w.env.spared (w.visit number f).2.env, pools := w.pools.set number q }
      (w.visit number f).2 := by
  obtain ⟨probes, hVisit⟩ := visit_blind hp (hRecorded.shown.trans hBlind)
  have hBound := (List.getElem?_eq_some_iff.mp hp).1
  rw [hVisit]
  refine ⟨?_, rfl, rfl, rfl, ?_, ?_, ?_⟩
  · have hSite : Recorded allowed w.env (w.site number p).env := ⟨rfl, rfl, [], rfl, by simp⟩
    have hNoted : Recorded allowed (f (w.site number p)).2.env
        { (f (w.site number p)).2.env with probes } := ⟨rfl, rfl, [], rfl, by simp⟩
    exact spared_alike ((hSite.trans hRecorded).trans hNoted) ⟨hConfigured.policy,
      hConfigured.shutdown⟩
  · simp
  · intro other q₁ q₂ h₁ h₂
    by_cases hOther : number = other
    · subst hOther
      have h₁ : (w.pools.set number q)[number]? = some q₁ := h₁
      have h₂ : (w.pools.set number (f (w.site number p)).2.pool)[number]? = some q₂ := h₂
      rw [List.getElem?_set_self hBound] at h₁ h₂
      cases h₁
      cases h₂
      rw [Function.update_self]
      exact hPool
    · have h₁ : (w.pools.set number q)[other]? = some q₁ := h₁
      have h₂ : (w.pools.set number (f (w.site number p)).2.pool)[other]? = some q₂ := h₂
      rw [List.getElem?_set_ne hOther] at h₁ h₂
      cases h₁.symm.trans h₂
      rw [Function.update_of_ne (Ne.symm hOther)]
      exact .refl q₁
  · intro other hBeyond
    have hBeyond : (w.pools.set number q).length ≤ other := hBeyond
    rw [List.length_set] at hBeyond
    exact Function.update_of_ne (by omega) ..

theorem giveBack_blind {ref : HandleRef} {held : Handle γ} (hMade : w.handle? ref = some held)
    (hMissing : (w.giveBack ref).1 = none) :
    w.env.shown = none ∧
      ∃ probes, (w.giveBack ref).2 = { w with env := { w.env with probes } } := by
  unfold giveBack at hMissing ⊢
  split at hMissing
  · cases hMissing
  · next hOther =>
    obtain ⟨hBlind, probes, hUse⟩ := use_blind Handle.release hMade hMissing
    rw [hUse]
    exact ⟨hBlind, probes, rfl⟩

end Visits

/-! ### Acts that break off -/

section Performing

variable [Dialer δ γ] {w : World δ γ} {act : Act δ} {number index : Nat} {id : String} {p : Pool γ}

/-- The act breaks off because it needs the clock and cannot read it: a use of a handle or a scan
has no answer, or the reaper or a request ends as broken. -/
inductive Breaks (w : World δ γ) : Act δ → Prop where
  | borrow {ref : HandleRef} {held : Handle γ} (made : w.handle? ref = some held)
      (missing : (w.borrow ref).1 = none) : Breaks w (.borrow ref)
  | connection {ref : HandleRef} {held : Handle γ} (made : w.handle? ref = some held)
      (missing : (w.connection ref).1 = none) : Breaks w (.connection ref)
  | giveBack {ref : HandleRef} {held : Handle γ} (made : w.handle? ref = some held)
      (missing : (w.giveBack ref).1 = none) : Breaks w (.giveBack ref)
  | release {number : Nat} {ref : HandleRef} {held : Handle γ} (made : w.handle? ref = some held)
      (missing : (w.release number ref).1 = none) : Breaks w (.release number ref)
  | evictIdle {number : Nat} (missing : (w.visit number Site.evictIdle).1 = some none) :
      Breaks w (.evictIdle number)
  | reap {number : Nat} {p p' : Pool γ} (before : w.pools[number]? = some p)
      (unbroken : p.reaper ≠ .broken)
      (after : (w.perform (.reap number)).pools[number]? = some p') (ended : p'.reaper = .broken) :
      Breaks w (.reap number)
  | get {number : Nat} {id : String} {p : Pool γ} (before : w.pools[number]? = some p)
      (ended : (w.perform (.get number id)).requestState number p.requests.length = some .broken) :
      Breaks w (.get number id)
  | resume {number index : Nat} {state : RequestState}
      (before : w.requestState number index = some state) (live : state.isLive = true)
      (ended : (w.perform (.resume number index)).requestState number index = some .broken) :
      Breaks w (.resume number index)

/-- The world without an act that broke off. Of what the act did are kept only the state of the
dialer, the endpoints that were dialed and the reaper, and the count of its readings. A request is
not there, and where it was dialing its gate has been given up. -/
def spared (act : Act δ) (w : World δ γ) : World δ γ :=
  let after := w.perform act
  { w with
    env := w.env.spared after.env
    pools := match act with
      | .resume number index => w.pools.modify number (Pool.without index)
      | .get number _ | .reap number =>
        w.pools.modify number fun p => after.pools[number]?.elim p fun p' =>
          { p with reaper := p'.reaper, wakes := p'.wakes }
      | _ => w.pools }

/-- What is left of a world when an act has broken off. -/
structure Outlived (w : World δ γ) (act : Act δ) : Prop where
  blind : w.env.shown = none
  alike : ∃ R, (w.spared act).Alike w.env.history (w.perform act).env.history R (w.perform act)
  gates : ∀ (number : Nat) p p', w.pools[number]? = some p →
    (w.perform act).pools[number]? = some p' → ∀ gate : Nat,
      p'.gates[gate]? = p.gates[gate]? ∨ p'.gates[gate]? = some .givenUp

theorem outlived_of_unread (hBlind : w.env.shown = none) (hPools : (w.spared act).pools = w.pools)
    (hAct : ∃ probes, w.perform act = { w with env := { w.env with probes } }) :
    w.Outlived act := by
  obtain ⟨probes, hAct⟩ := hAct
  refine ⟨hBlind, ⟨fun _ => .refl, ?_⟩, ?_⟩
  · have hSpared : w.spared act = { w with env := w.env.spared (w.perform act).env } := by
      rw [← hPools]
      rfl
    rw [hSpared, hAct]
    have hProbed : Recorded Event.StartsNone w.env { w.env with probes } :=
      ⟨rfl, rfl, [], rfl, by simp⟩
    refine ⟨spared_alike hProbed ⟨rfl, rfl⟩, rfl, rfl, rfl, rfl, ?_, fun _ _ => rfl⟩
    intro number p p' hp hp'
    cases hp.symm.trans hp'
    exact .refl p
  · intro number p p' hp hp' gate
    rw [hAct] at hp'
    cases hp.symm.trans hp'
    exact Or.inl rfl

/-- An operation on one pool that broke off, by what the pool would be without it. -/
theorem outlived_of_visit {α : Type} {f : Site δ γ → α × Site δ γ} {q : Pool γ}
    {allowed : Event → Prop} (hp : w.pools[number]? = some p) (hBlind : w.env.shown = none)
    (hRecorded : Recorded allowed (w.site number p).env (f (w.site number p)).2.env)
    (hConfigured : Configured (w.site number p).env (f (w.site number p)).2.env)
    (hPool : q.Outlived p (f (w.site number p)).2.pool)
    (hAct : w.perform act = (w.visit number f).2)
    (hSpared : (w.spared act).pools = w.pools.set number q) : w.Outlived act := by
  obtain ⟨⟨R, hAlike⟩, hGates⟩ := hPool
  have hWorlds := visit_alike_of_pool hp hBlind hRecorded hConfigured hAlike
  obtain ⟨probes, hVisit⟩ := visit_blind hp (hRecorded.shown.trans hBlind)
  refine ⟨hBlind, ⟨Function.update (fun _ => .refl) number R, ?_⟩, ?_⟩
  · have hSame : w.spared act = { w with
        env := w.env.spared (w.visit number f).2.env, pools := w.pools.set number q } := by
      rw [← hSpared, ← hAct]
      rfl
    rw [hSame, hAct]
    exact hWorlds
  · intro other p₁ p₂ h₁ h₂ gate
    rw [hAct, hVisit] at h₂
    have h₂ : (w.pools.set number (f (w.site number p)).2.pool)[other]? = some p₂ := h₂
    by_cases hOther : number = other
    · subst hOther
      rw [List.getElem?_set_self (List.getElem?_eq_some_iff.mp hp).1] at h₂
      cases hp.symm.trans h₁
      cases h₂
      exact hGates gate
    · rw [List.getElem?_set_ne hOther] at h₂
      cases h₁.symm.trans h₂
      exact Or.inl rfl

theorem outlived_evictIdle (hMissing : (w.visit number Site.evictIdle).1 = some none) :
    w.Outlived (.evictIdle number) := by
  cases hp : w.pools[number]? with
  | none =>
      rw [visit_of_none hp] at hMissing
      cases hMissing
  | some p =>
      obtain ⟨hStill, hScanned⟩ := Site.evictIdle_spec (w.site number p)
      have hMissing : (w.site number p).evictIdle.1 = none := by
        rw [visit_answer hp] at hMissing
        exact Option.some.inj hMissing
      have hBlind : w.env.shown = none := Site.evictIdle_missing hMissing
      have hSame : (w.site number p).evictIdle.2.pool = p :=
        Scanned.of_blind (hBlind ▸ hScanned : Scanned True none p _)
      refine outlived_of_visit (q := p) hp hBlind hStill.toRecorded hStill.configured ?_ rfl ?_
      · rw [hSame]
        exact ⟨⟨.refl, .refl p⟩, fun _ => Or.inl rfl⟩
      · exact (set_same hp).symm

theorem outlived_reap {p' : Pool γ} (hp : w.pools[number]? = some p)
    (hUnbroken : p.reaper ≠ .broken)
    (hp' : (w.perform (.reap number)).pools[number]? = some p') (hEnded : p'.reaper = .broken) :
    w.Outlived (.reap number) := by
  let learn (p : Pool γ) : Pool γ := if isGone p then { p with shutdown := true } else p
  have hAct : w.perform (.reap number) =
      (w.visit number fun s => ((), (s.update learn).reaperTurn)).2 :=
    turnReaper_eq number w
  have hStill : Still (w.site number p).env ((w.site number p).update learn).reaperTurn.env :=
    (Site.reaperTurn_spec ((w.site number p).update learn)).1
  have hTurn : ((w.site number p).update learn).reaperTurn.pool = p' := by
    have hVisited := visit_pool (f := fun s => ((), (s.update learn).reaperTurn)) hp
      hStill.toRecorded
    exact Option.some.inj (hVisited.symm.trans (hAct ▸ hp'))
  -- The reaper of a pool that is gone is stopped before it could scan.
  have hNotGone : learn p = p := by
    refine if_neg fun hGone => hUnbroken ?_
    have hStopped : ((w.site number p).update learn).pool.shutdown = true := by
      show (learn p).shutdown = true
      simp only [learn, hGone, ↓reduceIte]
    have hBroken := Site.reaperTurn_of_shutdown hStopped (hTurn ▸ hEnded)
    simpa only [Site.update, site, learn, hGone, ↓reduceIte] using hBroken
  have hSite : (w.site number p).update learn = w.site number p :=
    congrArg (fun pool => { w.site number p with pool }) hNotGone
  have hTends : Site.Tends (w.site number p) ((w.site number p).update learn).reaperTurn := by
    rw [hSite]
    exact Site.reaperTurn_tends _
  have hBlind : w.env.shown = none := (hTends.broken (hTurn ▸ hEnded)).resolve_left hUnbroken
  obtain ⟨reaper, wakes, hSame⟩ := hTends.blind hBlind
  have hLeft : p' = { p with reaper, wakes } := hTurn.symm.trans hSame
  refine outlived_of_visit (q := p') hp hBlind hStill.toRecorded hStill.configured ?_ hAct ?_
  · show p'.Outlived p ((w.site number p).update learn).reaperTurn.pool
    rw [hTurn]
    refine ⟨⟨.refl, .refl p'⟩, fun gate => Or.inl ?_⟩
    rw [hLeft]
  · refine (modify_eq_set hp _).trans (congrArg (w.pools.set number) ?_)
    rw [hp', hLeft]
    rfl

theorem outlived_get (hReachable : w.Reachable) (hp : w.pools[number]? = some p)
    (hEnded : (w.perform (.get number id)).requestState number p.requests.length =
      some .broken) : w.Outlived (.get number id) := by
  obtain ⟨hNoted, hChange⟩ := Site.get_spec number id (w.site number p) fun h => h
  have hAfter : (w.perform (.get number id)).pools[number]? =
      some ((w.site number p).get id).2.pool := visit_pool hp hNoted.toRecorded
  rw [requestState, hAfter, Option.bind_some] at hEnded
  obtain ⟨hBlind, hOutlived⟩ := hChange.get_broken (hReachable.sound hp) hEnded
  obtain ⟨R, hAlike⟩ := hOutlived.alike
  refine outlived_of_visit hp hBlind hNoted.toRecorded (Site.get_configured id _) hOutlived rfl ?_
  refine (modify_eq_set hp _).trans (congrArg (w.pools.set number) ?_)
  rw [hAfter, Option.elim_some, hAlike.reaper, hAlike.wakes]
  rfl

theorem outlived_resume {state : RequestState} (hReachable : w.Reachable)
    (hBefore : w.requestState number index = some state) (hLive : state.isLive = true)
    (hEnded : (w.perform (.resume number index)).requestState number index = some .broken) :
    w.Outlived (.resume number index) ∧
      ∀ p p', w.pools[number]? = some p →
        (w.perform (.resume number index)).pools[number]? = some p' →
        ∀ id gate, DialsAt p.requests index id gate → p'.gates[gate]? = some .givenUp := by
  obtain ⟨p, hp, hState⟩ := Option.bind_eq_some_iff.mp hBefore
  obtain ⟨r, hRequest, rfl⟩ := Option.map_eq_some_iff.mp hState
  obtain ⟨hNoted, hChange⟩ := Site.resume_spec number index (w.site number p) fun h => h
  have hAfter : (w.perform (.resume number index)).pools[number]? =
      some ((w.site number p).resume index).pool :=
    visit_pool (f := fun s => ((), s.resume index)) hp hNoted.toRecorded
  rw [requestState, hAfter, Option.bind_some] at hEnded
  obtain ⟨hBlind, hOutlived, hGivenUp⟩ :=
    hChange.resume_broken (hReachable.sound hp) hRequest hLive hEnded
  refine ⟨outlived_of_visit hp hBlind hNoted.toRecorded (Site.resume_configured index _) hOutlived
    rfl (modify_eq_set hp _), ?_⟩
  intro q q' hq hq'
  cases hp.symm.trans hq
  cases hAfter.symm.trans hq'
  exact hGivenUp

theorem Breaks.outlived (h : w.Breaks act) (hReachable : w.Reachable) : w.Outlived act := by
  cases h with
  | borrow made missing =>
      obtain ⟨hBlind, probes, hUse⟩ := use_blind _ made missing
      exact outlived_of_unread hBlind rfl ⟨probes, congrArg Prod.snd hUse⟩
  | connection made missing =>
      obtain ⟨hBlind, probes, hUse⟩ := use_blind _ made missing
      exact outlived_of_unread hBlind rfl ⟨probes, congrArg Prod.snd hUse⟩
  | giveBack made missing =>
      obtain ⟨hBlind, hUse⟩ := giveBack_blind made missing
      exact outlived_of_unread hBlind rfl hUse
  | @release number ref _ made missing =>
      show w.Outlived (.release number ref)
      cases hClosed : w.isClosed number with
      | true =>
          rw [World.release, hClosed] at missing
          cases missing
      | false =>
          have hRelease : w.release number ref = w.giveBack ref := by
            simp [World.release, hClosed]
          obtain ⟨hBlind, probes, hUse⟩ := giveBack_blind made (hRelease ▸ missing)
          exact outlived_of_unread hBlind rfl ⟨probes, (congrArg Prod.snd hRelease).trans hUse⟩
  | evictIdle missing => exact outlived_evictIdle missing
  | reap before unbroken after ended => exact outlived_reap before unbroken after ended
  | get before ended => exact outlived_get hReachable before ended
  | resume before live ended => exact (outlived_resume hReachable before live ended).1

/-- A pool before and after an act that broke off: no handle, no entry of the registry and no
counter has changed, a request that was dialing has given up its gate, and whoever waits at such a
gate can go on and looks into the registry again. -/
structure Unharmed (w : World δ γ) (act : Act δ) (number : Nat) (p p' : Pool γ) : Prop where
  handles : p'.handles = p.handles
  registry : p'.registry = p.registry
  counters : p'.counters = p.counters
  gates : ∀ gate : Nat, p'.gates[gate]? = p.gates[gate]? ∨ p'.gates[gate]? = some .givenUp
  dialed : ∀ index id gate, act = .resume number index → DialsAt p.requests index id gate →
    p'.gates[gate]? = some .givenUp
  waiters : ∀ (other : Nat) id gate, p'.gates[gate]? = some .givenUp →
    p'.requests[other]? = some { endpointId := id, state := .waiting gate } →
      requestReady (w.perform act).env p' { endpointId := id, state := .waiting gate } = true ∧
      ∃ state q, Looked (w.probed = some number) none id p' state q ∧
        ((w.perform act).perform (.resume number other)).pools[number]? =
          some (q.setRequest other state)

theorem spared_pool (hp : w.pools[number]? = some p) (act : Act δ) :
    ∃ q, (w.spared act).pools[number]? = some q ∧ q.handles = p.handles ∧
      q.registry = p.registry ∧ q.counters = p.counters := by
  have hModified (other : Nat) (f : Pool γ → Pool γ) (hSame : (f p).handles = p.handles ∧
      (f p).registry = p.registry ∧ (f p).counters = p.counters) :
      ∃ q, (w.pools.modify other f)[number]? = some q ∧ q.handles = p.handles ∧
        q.registry = p.registry ∧ q.counters = p.counters := by
    by_cases hOther : other = number
    · subst hOther
      exact ⟨f p, by rw [List.getElem?_modify_eq, hp]; rfl, hSame⟩
    · exact ⟨p, by rw [List.getElem?_modify_ne _ _ hOther, hp], rfl, rfl, rfl⟩
  have hReaper (after : Option (Pool γ)) :
      let q := after.elim p fun p' => { p with reaper := p'.reaper, wakes := p'.wakes }
      q.handles = p.handles ∧ q.registry = p.registry ∧ q.counters = p.counters := by
    cases after <;> exact ⟨rfl, rfl, rfl⟩
  cases act with
  | resume other index =>
      refine hModified other _ ?_
      rw [without_same]
      exact ⟨rfl, rfl, rfl⟩
  | get other id => exact hModified other _ (hReaper _)
  | reap other => exact hModified other _ (hReaper _)
  | _ => exact ⟨p, hp, rfl, rfl, rfl⟩

/-- In every world that a run leads to, an operation that needs the clock may find that it cannot be
read, and break off. Then no handle, no registry and no counter of any pool has changed. If the
operation was a request that dialed, its gate has been given up, and everybody who waits there can
go on. Whatever happens afterwards, also once the clock can be read again, happens as it would have
without the operation, and whatever is asked has the same answer, where requests that come later may
have other numbers. Only the dialer, the endpoints that were dialed and the reaper are as the
operation left them. -/
theorem blind_reading_harmless (hReachable : w.Reachable) (hBreaks : w.Breaks act) :
    w.env.shown = none ∧
    (∀ (number : Nat) p, w.pools[number]? = some p →
      ∃ p', (w.perform act).pools[number]? = some p' ∧ w.Unharmed act number p p') ∧
    ∃ R, ∀ later : List (Act δ),
      Alike w.env.history (w.perform act).env.history R ((w.spared act).performAll later)
        ((w.perform act).performAll (later.map (Act.moved R))) ∧
      AnswersAlike R ((w.spared act).performAll later)
        ((w.perform act).performAll (later.map (Act.moved R))) := by
  have hOutlived := hBreaks.outlived hReachable
  obtain ⟨R, hAlike⟩ := hOutlived.alike
  refine ⟨hOutlived.blind, fun number p hp => ?_, R, fun later => ?_⟩
  · obtain ⟨p', hp', _⟩ := (perform_spec act w).pools number p hp
    obtain ⟨q, hq, hHandles, hRegistry, hCounters⟩ := spared_pool hp act
    have hPool := hAlike.pools number q p' hq hp'
    refine ⟨p', hp', hPool.handles.trans hHandles, hPool.registry.trans hRegistry,
      hPool.counters.trans hCounters, hOutlived.gates number p p' hp hp', ?_, ?_⟩
    · rintro index id gate rfl hDials
      cases hBreaks with
      | resume before live ended =>
          exact (outlived_resume hReachable before live ended).2 p p' hp hp' id gate hDials
    · intro other id gate hGivenUp hWaits
      refine ⟨by simp [requestReady, hGivenUp, Gate.isPending], ?_⟩
      obtain ⟨state, q, hPassed, hq⟩ := perform_resume_waiting hp' hWaits
      have hBlind : (w.perform act).env.shown = none := hAlike.env.shown.trans hOutlived.blind
      have hProbed : (w.perform act).probed = w.probed := hAlike.probed
      rw [hBlind, hProbed] at hPassed
      exact ⟨state, q, hPassed.looks hGivenUp, hq⟩
  · have hLater := performAll_alike hAlike later
    exact ⟨hLater, hLater.answers⟩

end Performing

/-- A caller dials and another one waits there; meanwhile the clock is moved beyond what it can
show. -/
def overwound : World (FixedDialer Nat) Nat :=
  performAll [.openPool 10, .get 0 "db", .get 0 "db", .advance Instant.limit, .pass 5]
    { env := { clock := .manual 0, factory := { dialer := { connection := 7, latency := 5 } } } }

theorem overwound_unharmed : ∃ p p', overwound.pools[0]? = some p ∧
    (overwound.perform (.resume 0 0)).pools[0]? = some p' ∧ p'.handles = p.handles ∧
    p'.registry = p.registry ∧ p'.counters = p.counters ∧ p'.gates[0]? = some .givenUp ∧
    (∃ state q, Looked (overwound.probed = some 0) none "db" p' state q ∧
      ((overwound.perform (.resume 0 0)).perform (.resume 0 1)).pools[0]? =
        some (q.setRequest 1 state)) ∧
    ∃ R, AnswersAlike R ((overwound.spared (.resume 0 0)).performAll [.mend, .resume 0 0, .pass 10])
      ((overwound.perform (.resume 0 0)).performAll
        [.mend, .resume 0 ((R 0).request 0), .pass 10]) := by
  have hReachable : overwound.Reachable := ⟨_, _, rfl⟩
  have hBefore : ∃ s, overwound.requestState 0 0 = some (.dialing 0 s) := ⟨_, rfl⟩
  obtain ⟨s, hBefore⟩ := hBefore
  have hEnded : (overwound.perform (.resume 0 0)).requestState 0 0 = some .broken := rfl
  obtain ⟨_, hPools, R, hLater⟩ :=
    blind_reading_harmless hReachable (.resume hBefore rfl hEnded)
  have hPool : ∃ p, overwound.pools[0]? = some p ∧ DialsAt p.requests 0 "db" 0 :=
    ⟨_, rfl, _, rfl⟩
  obtain ⟨p, hp, hDials⟩ := hPool
  obtain ⟨p', hp', hUnharmed⟩ := hPools 0 p hp
  have hGivenUp := hUnharmed.dialed 0 "db" 0 rfl hDials
  have hWaits : p'.requests[1]? = some { endpointId := "db", state := .waiting 0 } := by
    have hAfter : ∃ q, (overwound.perform (.resume 0 0)).pools[0]? = some q ∧
        q.requests[1]? = some { endpointId := "db", state := .waiting 0 } := ⟨_, rfl, rfl⟩
    obtain ⟨q, hq, hWaits⟩ := hAfter
    cases hp'.symm.trans hq
    exact hWaits
  exact ⟨p, p', hp, hp', hUnharmed.handles, hUnharmed.registry, hUnharmed.counters, hGivenUp,
    (hUnharmed.waiters 1 "db" 0 hGivenUp hWaits).2, R,
    (hLater [.mend, .resume 0 0, .pass 10]).2⟩

end World

end Tether
