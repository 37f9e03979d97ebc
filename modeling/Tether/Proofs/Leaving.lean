import Tether.Proofs.Closing

/-! What callers leave behind who go away before they have an answer. A request that waits takes
nothing with it; one that dials takes its gate along, and those who wait there look again. The rest
of the pool cannot tell that they ever asked. -/

namespace Tether

variable {δ γ : Type}

/-- The request once its caller has gone away. -/
def Request.left (r : Request) : Request :=
  if r.state.isLive then { r with state := .dropped } else r

theorem Request.left_of_live {r : Request} (h : r.state.isLive = true) :
    r.left = { r with state := .dropped } :=
  if_pos h

theorem Request.left_of_over {r : Request} (h : r.state.isLive = false) : r.left = r := by
  simp [Request.left, h]

theorem Request.left_left (r : Request) : r.left.left = r.left := by
  cases hLive : r.state.isLive with
  | true =>
      rw [left_of_live hLive]
      rfl
  | false => rw [left_of_over hLive, left_of_over hLive]

/-- Nobody dials on once the caller has gone away. -/
theorem Request.left_ne_dialing (r : Request) (id : String) (gate : Nat) (s : DialSequence) :
    r.left ≠ { endpointId := id, state := .dialing gate s } := by
  intro h
  cases hLive : r.state.isLive with
  | true =>
      rw [left_of_live hLive] at h
      cases h
  | false =>
      rw [left_of_over hLive] at h
      rw [h] at hLive
      cases hLive

namespace Pool

variable {p q p' : Pool γ} {index gate : Nat} {id : String} {callers others : List Nat}

/-- The table loses the gate that was given up, if it still had it, and no other. -/
theorem creating_openGate_of_dialsAt {requests : List Request} (outcome : Gate)
    (hOwner : DialsAt requests index id gate) (id' : String) (gate' : Nat) :
    (p.openGate gate id outcome).creating.get? id' = some gate' ↔
      p.creating.get? id' = some gate' ∧ ¬DialsAt requests index id' gate' := by
  unfold openGate
  dsimp only
  split
  · next hListed =>
    rw [Table.get?_erase]
    by_cases hId : id' = id
    · subst hId
      rw [if_pos rfl]
      refine ⟨nofun, ?_⟩
      rintro ⟨hListed', hNot⟩
      cases hListed.symm.trans hListed'
      exact absurd hOwner hNot
    · rw [if_neg hId]
      exact (and_iff_left fun hd => hId (hd.same hOwner).1).symm
  · next hUnlisted =>
    refine (and_iff_left_of_imp fun hListed hd => ?_).symm
    obtain ⟨rfl, rfl⟩ := hd.same hOwner
    exact hUnlisted hListed

/-- What the pool is once these callers have gone away: apart from their requests nothing has
changed but the gates behind which they were dialing. These are given up, and stand for nothing. -/
structure Forsaken (callers : List Nat) (p p' : Pool γ) : Prop where
  same : p' = { p with requests := p'.requests, gates := p'.gates, creating := p'.creating }
  left : ∀ index ∈ callers, p'.requests[index]? = p.requests[index]?.map Request.left
  stayed : ∀ index ∉ callers, p'.requests[index]? = p.requests[index]?
  givenUp : ∀ index ∈ callers, ∀ id gate, DialsAt p.requests index id gate →
    p'.gates[gate]? = some .givenUp
  kept : ∀ gate, (∀ index ∈ callers, ∀ id, ¬DialsAt p.requests index id gate) →
    p'.gates[gate]? = p.gates[gate]?
  listed : ∀ id gate, p'.creating.get? id = some gate ↔
    p.creating.get? id = some gate ∧ ∀ index ∈ callers, ¬DialsAt p.requests index id gate

theorem Forsaken.refl (p : Pool γ) : p.Forsaken [] p :=
  ⟨rfl, by simp, fun _ _ => rfl, by simp, fun _ _ => rfl, by simp⟩

/-- Those who stay dial on, and nobody else does. -/
theorem Forsaken.dialsAt (h : p.Forsaken callers p') :
    DialsAt p'.requests index id gate ↔ index ∉ callers ∧ DialsAt p.requests index id gate := by
  unfold DialsAt
  by_cases hIn : index ∈ callers
  · rw [h.left index hIn]
    refine iff_of_false ?_ (fun hNot => hNot.1 hIn)
    rintro ⟨sequence, hDials⟩
    obtain ⟨r, _, hLeft⟩ := Option.map_eq_some_iff.mp hDials
    exact r.left_ne_dialing id gate sequence hLeft
  · rw [h.stayed index hIn]
    exact (and_iff_right hIn).symm

theorem Forsaken.trans (first : p.Forsaken callers q) (second : q.Forsaken others p') :
    p.Forsaken (callers ++ others) p' := by
  refine ⟨second.same.trans (by rw [first.same]), ?_, ?_, ?_, ?_, ?_⟩
  · intro index hIn
    by_cases hLate : index ∈ others
    · rw [second.left index hLate]
      by_cases hEarly : index ∈ callers
      · rw [first.left index hEarly, Option.map_map]
        exact Option.map_congr fun r _ => r.left_left
      · rw [first.stayed index hEarly]
    · rw [second.stayed index hLate]
      exact first.left index ((List.mem_append.mp hIn).resolve_right hLate)
  · intro index hOut
    rw [List.mem_append, not_or] at hOut
    exact (second.stayed index hOut.2).trans (first.stayed index hOut.1)
  · intro index hIn id gate hDials
    by_cases hEarly : index ∈ callers
    · -- Whoever leaves later finds the gate given up already, or not at all.
      by_cases hTwice : ∃ other ∈ others, ∃ id', DialsAt q.requests other id' gate
      · obtain ⟨other, hOther, id', hDials'⟩ := hTwice
        exact second.givenUp other hOther id' gate hDials'
      · rw [second.kept gate fun other hOther id' hd => hTwice ⟨other, hOther, id', hd⟩]
        exact first.givenUp index hEarly id gate hDials
    · have hLate := (List.mem_append.mp hIn).resolve_left hEarly
      exact second.givenUp index hLate id gate (first.dialsAt.mpr ⟨hEarly, hDials⟩)
  · intro gate hNobody
    rw [second.kept gate fun index hLate id hd =>
      hNobody index (List.mem_append_right _ hLate) id (first.dialsAt.mp hd).2]
    exact first.kept gate fun index hEarly => hNobody index (List.mem_append_left _ hEarly)
  · intro id gate
    rw [second.listed, first.listed, and_assoc]
    refine and_congr_right fun _ => ⟨?_, fun hNobody => ⟨?_, ?_⟩⟩
    · rintro ⟨hEarly, hLate⟩ index hIn hDials
      by_cases hFirst : index ∈ callers
      · exact hEarly index hFirst hDials
      · exact hLate index ((List.mem_append.mp hIn).resolve_left hFirst)
          (first.dialsAt.mpr ⟨hFirst, hDials⟩)
    · exact fun index hEarly => hNobody index (List.mem_append_left _ hEarly)
    · exact fun index hLate hDials =>
        hNobody index (List.mem_append_right _ hLate) (first.dialsAt.mp hDials).2

end Pool

namespace Site

open Pool

variable {s : Site δ γ}

/-- What it comes to when a single caller goes away. -/
theorem drop_forsakes (hSound : s.pool.Sound s.pool.requests) (index : Nat) :
    s.pool.Forsaken [index] (s.drop index).pool := by
  have hStayed (p : Pool γ) (state : RequestState) (other : Nat) (hOther : other ∉ [index]) :
      (p.setRequest index state).requests[other]? = p.requests[other]? :=
    setRequest_of_ne fun h => hOther (List.mem_singleton.mpr h.symm)
  have hLeft {id : String} {old : RequestState} (hLive : old.isLive = true)
      (hOld : s.pool.requests[index]? = some { endpointId := id, state := old }) (other : Nat)
      (hOther : other ∈ [index]) :
      (s.pool.setRequest index .dropped).requests[other]? =
        s.pool.requests[other]?.map Request.left := by
    cases List.mem_singleton.mp hOther
    rw [requests_setRequest hOld, hOld,
      List.getElem?_set_self (List.getElem?_eq_some_iff.mp hOld).1]
    exact congrArg some (Request.left_of_live (r := { endpointId := id, state := old }) hLive).symm
  have hNobody (hNone : ∀ id gate, ¬DialsAt s.pool.requests index id gate) (other : Nat)
      (hOther : other ∈ [index]) (id : String) (gate : Nat) :
      ¬DialsAt s.pool.requests other id gate := by
    cases List.mem_singleton.mp hOther
    exact hNone id gate
  unfold drop
  split
  · next id gate hWaits =>
    have hNone (id' : String) (gate' : Nat) : ¬DialsAt s.pool.requests index id' gate' := by
      rintro ⟨_, hDials⟩
      cases hWaits.symm.trans hDials
    refine ⟨rfl, hLeft rfl hWaits, hStayed _ _, ?_, fun _ _ => rfl, fun id' gate' => ?_⟩
    · exact fun other hOther id' gate' hd => absurd hd (hNobody hNone other hOther id' gate')
    · exact (and_iff_left fun other hOther => hNobody hNone other hOther id' gate').symm
  · next id gate sequence hDials =>
    have hOwner : DialsAt s.pool.requests index id gate := ⟨sequence, hDials⟩
    have hBound := (List.getElem?_eq_some_iff.mp (hSound.undecided index id gate hOwner)).1
    refine ⟨rfl, hLeft rfl hDials, hStayed _ _, ?_, ?_, ?_⟩
    · intro other hOther id' gate' hd
      cases List.mem_singleton.mp hOther
      obtain ⟨_, rfl⟩ := hOwner.same hd
      exact List.getElem?_set_self hBound
    · intro gate' hKept
      refine gates_openGate_of_ne id .givenUp ?_
      rintro rfl
      exact hKept index (List.mem_singleton_self index) id hOwner
    · intro id' gate'
      rw [List.forall_mem_singleton]
      exact creating_openGate_of_dialsAt .givenUp hOwner id' gate'
  · next hNotWaits hNotDials =>
    have hNone (id : String) (gate : Nat) : ¬DialsAt s.pool.requests index id gate :=
      fun ⟨sequence, hDials⟩ => hNotDials id gate sequence hDials
    refine ⟨rfl, ?_, fun _ _ => rfl, ?_, fun _ _ => rfl, fun id' gate' => ?_⟩
    · intro other hOther
      cases List.mem_singleton.mp hOther
      cases hRequest : s.pool.requests[index]? with
      | none => rfl
      | some r =>
          obtain ⟨id, state⟩ := r
          refine congrArg some (Request.left_of_over ?_).symm
          cases state with
          | waiting gate => exact absurd hRequest (hNotWaits id gate)
          | dialing gate sequence => exact absurd hRequest (hNotDials id gate sequence)
          | _ => rfl
    · exact fun other hOther id' gate' hd => absurd hd (hNobody hNone other hOther id' gate')
    · exact (and_iff_left fun other hOther => hNobody hNone other hOther id' gate').symm

end Site

namespace Pool

variable {allowed : Prop} {clock : Option Instant} {gate : Nat} {id : String} {p p' : Pool γ}
  {state : RequestState}

/-- At a gate that was given up a request has no answer to take over. -/
theorem Passed.looks (h : Passed allowed clock gate id p state p')
    (hGivenUp : p.gates[gate]? = some .givenUp) : Looked allowed clock id p state p' := by
  cases h with
  | failed decided | closed decided => cases hGivenUp.symm.trans decided
  | queued undecided =>
      rcases undecided with hPending | hNone
      · cases hGivenUp.symm.trans hPending
      · cases hGivenUp.symm.trans hNone
  | looked decided looks => exact looks

end Pool

namespace World

open Pool

variable [Dialer δ γ] {w : World δ γ} {number : Nat} {p : Pool γ} {callers : List Nat}

/-- What is left of the world when callers of one pool have gone away. -/
theorem performAll_drop (hReachable : w.Reachable) (hp : w.pools[number]? = some p)
    (callers : List Nat) :
    ∃ p' probing readings, p.Forsaken callers p' ∧
      w.performAll (callers.map (Act.drop number)) =
        { w with env := { w.env with probing, readings }, pools := w.pools.set number p' } := by
  induction callers generalizing w p with
  | nil =>
      obtain ⟨hBound, rfl⟩ := List.getElem?_eq_some_iff.mp hp
      refine ⟨_, w.env.probing, w.env.readings, .refl _, ?_⟩
      rw [List.set_getElem_self hBound]
      rfl
  | cons index rest ih =>
      have hBound := (List.getElem?_eq_some_iff.mp hp).1
      have hEnv := (Site.drop_spec number index True (w.site number p)).1
      have hDrop : w.perform (.drop number index) =
          { w with
            env := (w.site number p).env
            pools := w.pools.set number ((w.site number p).drop index).pool } := by
        rw [← hEnv]
        refine congrArg Prod.snd (visit_of_unread hp (fun s => ((), s.drop index)) ?_)
        rw [hEnv]
        rfl
      have hFirst := Site.drop_forsakes (s := w.site number p) (hReachable.sound hp) index
      have hNext : (w.perform (.drop number index)).pools[number]? =
          some ((w.site number p).drop index).pool := by
        rw [hDrop]
        exact List.getElem?_set_self hBound
      obtain ⟨p', probing, readings, hRest, hRun⟩ := ih (hReachable.perform _) hNext
      refine ⟨p', probing, readings, hFirst.trans hRest, hRun.trans ?_⟩
      rw [hDrop]
      simp [site]

/-- In every world that a run leads to, callers of a pool may go away, as many as like and whatever
their requests are at. Nothing changes but these requests and the gates behind which they dial: the
handles, their borrows and their last use stay, and so do the registry, the counters, whether the
pool is closed, and all other requests and gates. Such a gate is no longer listed, and it is given
up, so that whoever waits there can go on and looks into the registry again. -/
theorem cancellation_frame (hReachable : w.Reachable) (hp : w.pools[number]? = some p)
    (callers : List Nat) :
    ∃ p' probing readings, p.Forsaken callers p' ∧
      w.performAll (callers.map (Act.drop number)) =
        { w with env := { w.env with probing, readings }, pools := w.pools.set number p' } ∧
      ∀ index ∈ callers, ∀ id gate, DialsAt p.requests index id gate →
        ∀ (other : Nat) id', p'.requests[other]? =
            some { endpointId := id', state := .waiting gate } →
          requestReady w.env p' { endpointId := id', state := .waiting gate } = true ∧
          ∃ state q, Looked (w.probed = some number) w.env.shown id' p' state q ∧
            ((w.performAll (callers.map (Act.drop number))).perform
              (.resume number other)).pools[number]? = some (q.setRequest other state) := by
  obtain ⟨p', probing, readings, hForsaken, hRun⟩ := performAll_drop hReachable hp callers
  refine ⟨p', probing, readings, hForsaken, hRun, ?_⟩
  intro index hCaller id gate hDials other id' hWaits
  have hGivenUp := hForsaken.givenUp index hCaller id gate hDials
  refine ⟨by simp [requestReady, hGivenUp, Gate.isPending], ?_⟩
  rw [hRun]
  obtain ⟨state, q, hPassed, hq⟩ := perform_resume_waiting
    (w := { w with env := { w.env with probing, readings }, pools := w.pools.set number p' })
    (List.getElem?_set_self (List.getElem?_eq_some_iff.mp hp).1) hWaits
  exact ⟨state, q, hPassed.looks hGivenUp, hq⟩

/-- Two callers share a dial with a third one, and a fourth one dials for itself. -/
def crowded : World (FixedDialer Nat) Nat :=
  performAll [.openPool 10, .get 0 "db", .get 0 "db", .get 0 "db", .get 0 "web"]
    { env := { factory := { dialer := { connection := 7, latency := 5 } } } }

theorem crowded_left : ∃ p', (crowded.performAll [.drop 0 0, .drop 0 1]).pools[0]? = some p' ∧
    p'.creating.get? "db" ≠ some 0 ∧ p'.creating.get? "web" = some 1 ∧
    p'.gates[1]? = some .pending ∧ ∃ state q,
      Looked (crowded.probed = some 0) crowded.env.shown "db" p' state q ∧
      ((crowded.performAll [.drop 0 0, .drop 0 1]).perform (.resume 0 2)).pools[0]? =
        some (q.setRequest 2 state) := by
  have hReachable : crowded.Reachable := ⟨_, _, rfl⟩
  have hPool : ∃ p s s', crowded.pools[0]? = some p ∧ p.creating = [("db", 0), ("web", 1)] ∧
      p.gates[1]? = some .pending ∧
      p.requests = [⟨"db", .dialing 0 s⟩, ⟨"db", .waiting 0⟩, ⟨"db", .waiting 0⟩,
        ⟨"web", .dialing 1 s'⟩] := ⟨_, _, _, rfl, rfl, rfl, rfl⟩
  obtain ⟨p, s, s', hp, hCreating, hGate, hRequests⟩ := hPool
  obtain ⟨p', probing, readings, hForsaken, hRun, hLooks⟩ :=
    cancellation_frame hReachable hp [0, 1]
  have hDials : DialsAt p.requests 0 "db" 0 := ⟨s, by rw [hRequests]; rfl⟩
  have hOnly (index : Nat) (hIn : index ∈ [0, 1]) (id : String) :
      ¬DialsAt p.requests index id 1 := by
    rintro ⟨_, hOther⟩
    rw [hRequests] at hOther
    rcases List.mem_pair.mp hIn with rfl | rfl <;> cases hOther
  have hWaits : p'.requests[2]? = some { endpointId := "db", state := .waiting 0 } := by
    rw [hForsaken.stayed 2 (by decide), hRequests]
    rfl
  refine ⟨p', ?_, ?_, ?_, ?_, ?_⟩
  · refine (congrArg (·.pools[0]?) hRun).trans ?_
    exact List.getElem?_set_self (List.getElem?_eq_some_iff.mp hp).1
  · exact fun hListed => ((hForsaken.listed "db" 0).mp hListed).2 0 (by decide) hDials
  · refine (hForsaken.listed "web" 1).mpr ⟨?_, fun index hIn => hOnly index hIn "web"⟩
    rw [hCreating]
    rfl
  · exact (hForsaken.kept 1 hOnly).trans hGate
  · exact (hLooks 0 (by decide) "db" 0 hDials 2 "db" hWaits).2

end World

end Tether
