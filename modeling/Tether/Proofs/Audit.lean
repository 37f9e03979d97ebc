import Tether.Proofs.Journal

/-! What the record of a run says about a pool that nobody shares the factory with. Every act but the
closing of the pool keeps the record in agreement with the counters, and the closing adds the one
number that it drops. -/

namespace Tether

variable {δ γ : Type}

/-- What the field of this name says in the events with this message, the earliest first. -/
def texts (message name : String) (events : List Event) : List (Option String) :=
  ((events.filter fun e => e.message == message).map (Event.field? name)).reverse

theorem texts_eq {message name : String} (number : Event → Option Nat) (events : List Event)
    (hReads : ∀ e, (if e.message == message then some (e.field? name) else none) =
      (number e).map fun n => some (toString n)) :
    texts message name events =
      (events.filterMap number).reverse.map fun n => some (toString n) := by
  unfold texts
  rw [List.map_reverse]
  congr 1
  induction events with
  | nil => rfl
  | cons e rest ih =>
      have hRead := hReads e
      rw [List.filter_cons, List.filterMap_cons]
      cases hNumber : number e with
      | none =>
          rw [hNumber, Option.map_none, ite_eq_right_iff] at hRead
          rw [if_neg fun hMessage => nomatch hRead hMessage]
          exact ih
      | some n =>
          rw [hNumber, Option.map_some, ite_eq_iff] at hRead
          obtain ⟨hMessage, hText⟩ := hRead.resolve_right (fun h => nomatch h.2)
          rw [if_pos hMessage, List.map_cons, List.map_cons, ih, Option.some.inj hText]

namespace Pool

variable {allowed : Prop} {clock : Option Instant} {number : Nat} {act : Act δ} {p p' : Pool γ}

/-- Nothing but its closing closes a pool, and nothing opens it again. -/
theorem Change.closed_eq (h : Change allowed clock number act p p')
    (hAct : act = .close number → p.closed = true) : p'.closed = p.closed := by
  cases h with
  | tended scanned same =>
      obtain ⟨_, _, _, _, rfl, _⟩ := same
      exact scanned.closed_eq
  | entered enters =>
      cases enters with
      | looked open_ named looks => exact looks.steady.closed
      | _ => rfl
  | passed waits passes => exact passes.steady.closed
  | followed dials scanned follows => exact follows.steady.closed.trans scanned.closed_eq
  | borrowed scanned | givenBack scanned | touched scanned => exact scanned.closed_eq
  | closed open_ => cases open_.symm.trans (hAct rfl)
  | held | left | gaveUp | reported => rfl

/-- How many handles the pool has dropped, if it has been closed: all that were neither evicted nor
reported. -/
def farewell (p : Pool γ) : List Nat :=
  if p.closed then [p.counters.created - p.counters.evicted - p.counters.invalidated] else []

/-- What a closed pool has dropped does not change any more. -/
theorem Counted.farewell_eq (h : Counted p p') (hClosed : p'.closed = p.closed) :
    p'.farewell = p.farewell := by
  unfold farewell
  rw [hClosed]
  split
  · next hBefore => rw [(h.frozen hBefore).2]
  · rfl

end Pool

namespace World

open Pool

variable {w : World δ γ} {dropped : List Nat}

/-- The counters of the pool that was opened first, all zero as long as there is none. -/
def counters (w : World δ γ) : Counters := (w.pools[0]?.map Pool.counters).getD {}

/-- The record of the world agrees with those counters. -/
def Booked (dropped : List Nat) (w : World δ γ) : Prop :=
  Ledger dropped 0 0 w.env.events w.counters

/-- The factory is used by at most one pool, and none of its requests broke off at the clock. -/
structure Alone (w : World δ γ) : Prop where
  creations : w.creations = []
  pools : w.pools.length ≤ 1
  unbroken : ∀ p, w.pools[0]? = some p → ∀ r ∈ p.requests, r.state ≠ .broken

theorem Booked.of_same {w' : World δ γ} (h : w.Booked dropped)
    (hEvents : w'.env.events = w.env.events)
    (hCounters : w'.pools[0]?.map Pool.counters = w.pools[0]?.map Pool.counters) :
    w'.Booked dropped := by
  unfold Booked counters
  rw [hEvents, hCounters]
  exact h

theorem Booked.note {e : Event} (h : w.Booked dropped) (hAside : e.IsAside) :
    World.Booked dropped { w with env := w.env.note e } :=
  h.aside hAside

/-- Whatever pool is found among so few is the one opened first. -/
theorem eq_zero_of_few {number : Nat} {p : Pool γ} (hFew : w.pools.length ≤ 1)
    (hp : w.pools[number]? = some p) : number = 0 := by
  obtain ⟨hBound, _⟩ := List.getElem?_eq_some_iff.mp hp
  omega

theorem Alone.unbroken_of_mem (h : w.Alone) {number : Nat} {p : Pool γ} {r : Request}
    (hp : w.pools[number]? = some p) (hr : r ∈ p.requests) : r.state ≠ .broken := by
  obtain rfl := eq_zero_of_few h.pools hp
  exact h.unbroken p hp r hr

theorem booked_site {number : Nat} {p : Pool γ} (hFew : w.pools.length ≤ 1)
    (hp : w.pools[number]? = some p) :
    (w.site number p).Booked dropped 0 0 ↔ w.Booked dropped := by
  obtain rfl := eq_zero_of_few hFew hp
  unfold Site.Booked Booked counters
  rw [hp]
  rfl

theorem probeElsewhere_booked (count : Nat) (hFew : w.pools.length ≤ 1) (h : w.Booked dropped) :
    (w.probeElsewhere count).Booked dropped := by
  induction count generalizing w with
  | zero =>
      rw [probeElsewhere_zero]
      exact h
  | succ count ih =>
      unfold probeElsewhere
      split
      · next count' number hCount hProbed =>
        cases hCount
        split
        · next p hp =>
          obtain ⟨hBound, _⟩ := List.getElem?_eq_some_iff.mp hp
          have hSelf := List.getElem?_set_self (a := (Site.probe false ⟨w.env, p⟩).pool) hBound
          obtain rfl : number = 0 := by omega
          refine ih (Nat.le_trans (Nat.le_of_eq List.length_set) hFew) ?_
          unfold Booked counters
          rw [hSelf]
          exact Site.probe_booked (s := ⟨w.env, p⟩) false ((booked_site hFew hp).mpr h)
        · exact h
      · exact h

theorem visit_booked {α : Type} {number : Nat} {p : Pool γ} (hFew : w.pools.length ≤ 1)
    (hp : w.pools[number]? = some p) (f : Site δ γ → α × Site δ γ)
    (h : (f (w.site number p)).2.Booked dropped 0 0) :
    (w.visit number f).2.Booked dropped := by
  obtain ⟨hBound, _⟩ := List.getElem?_eq_some_iff.mp hp
  have hSelf := List.getElem?_set_self (a := (f (w.site number p)).2.pool) hBound
  obtain rfl : number = 0 := by omega
  let visited : World δ γ := { w with
    env := (f (w.site 0 p)).2.env
    pools := w.pools.set 0 (f (w.site 0 p)).2.pool }
  have hVisited : visited.Booked dropped := by
    unfold Booked counters
    rw [hSelf]
    exact h
  unfold visit
  rw [hp]
  dsimp only
  split
  · exact hVisited
  · exact probeElsewhere_booked (w := visited) _ (Nat.le_trans (Nat.le_of_eq List.length_set) hFew) hVisited

/-- An operation that keeps the record of every pool in agreement keeps that of the world. -/
theorem visit_keeps_booked {α : Type} {number : Nat} (hFew : w.pools.length ≤ 1)
    (f : Site δ γ → α × Site δ γ)
    (hKeeps : ∀ p, w.pools[number]? = some p → (w.site number p).Booked dropped 0 0 →
      (f (w.site number p)).2.Booked dropped 0 0)
    (h : w.Booked dropped) : (w.visit number f).2.Booked dropped := by
  cases hp : w.pools[number]? with
  | none =>
      rw [visit_of_none hp]
      exact h
  | some p => exact visit_booked hFew hp f (hKeeps p hp ((booked_site hFew hp).mpr h))

theorem updatePool_booked (number : Nat) {f : Pool γ → Pool γ}
    (hf : ∀ p, (f p).counters = p.counters) (h : w.Booked dropped) :
    (w.updatePool number f).Booked dropped := by
  refine h.of_same rfl ?_
  show (w.pools.modify number f)[0]?.map Pool.counters = _
  rw [List.getElem?_modify]
  split
  · cases w.pools[0]? <;> simp [hf]
  · simp

theorem use_booked {α : Type} (ref : HandleRef) (f : Instant → Handle γ → α × Handle γ)
    (hFew : w.pools.length ≤ 1) (h : w.Booked dropped) : (w.use ref f).2.Booked dropped := by
  have hRead : w.reading.2.Booked dropped := probeElsewhere_booked 1 hFew h
  unfold use
  split
  · next w' hw' =>
    rw [hw'] at hRead
    exact hRead
  · next now w' hw' =>
    rw [hw'] at hRead
    split
    · exact hRead
    · exact updatePool_booked ref.home (fun _ => rfl) hRead

theorem giveBack_booked (ref : HandleRef) (hFew : w.pools.length ≤ 1) (h : w.Booked dropped) :
    (w.giveBack ref).2.Booked dropped := by
  have hUse := use_booked ref Handle.release hFew h
  unfold giveBack
  split
  · next error w' hw' =>
    rw [hw'] at hUse
    cases w'.handle? ref with
    | none => exact hUse
    | some held => exact hUse.note trivial
  · exact hUse

theorem report_booked (number : Nat) (ref : HandleRef) (cause : String)
    (hFew : w.pools.length ≤ 1) (h : w.Booked dropped) :
    (w.report number ref cause).2.Booked dropped := by
  unfold report
  split
  · next p held hp hHandle =>
    split
    · exact h
    · split
      · obtain rfl := eq_zero_of_few hFew hp
        unfold Booked counters
        rw [updatePool_self hp]
        exact ((booked_site hFew hp).mpr h).broken_cons _ _ _
      · exact h.note trivial
  · exact h

variable [Dialer δ γ]

theorem Alone.before {act : Act δ} (h : (w.perform act).Alone) : w.Alone := by
  have hPools := (perform_spec act w).pools
  refine ⟨?_, ?_, ?_⟩
  · have hCreations := h.creations
    by_cases hCreates : act.Creates
    · cases act with
      | create id token => exact absurd hCreations (List.append_ne_nil_of_right_ne_nil _ nofun)
      | resumeCreation index =>
          have hSame : (w.resumeCreation index).creations.length = w.creations.length := by
            unfold resumeCreation
            split
            · exact List.length_set ..
            · rfl
          exact List.eq_nil_of_length_eq_zero (hSame.symm.trans (congrArg List.length hCreations))
      | dropCreation index =>
          exact List.eq_nil_of_length_eq_zero
            ((List.length_modify ..).symm.trans (congrArg List.length hCreations))
      | _ => exact hCreates.elim
    · exact (perform_creations hCreates w).symm.trans hCreations
  · by_contra hMany
    obtain ⟨p', hp', _⟩ := hPools 1 w.pools[1] (List.getElem?_eq_getElem (by omega))
    have hBound := (List.getElem?_eq_some_iff.mp hp').1
    have hFew := h.pools
    omega
  · intro p hp r hr hBroken
    obtain ⟨index, hRequest⟩ := List.getElem?_of_mem hr
    have hOver : r.state.isLive = false := by
      rw [hBroken]
      rfl
    obtain ⟨p', hp', hRequest'⟩ := performAll_request_of_over hp hRequest hOver [act]
    exact h.unbroken p' hp' r (List.mem_of_getElem? hRequest') hBroken

theorem Alone.start {acts : List (Act δ)} (h : (w.performAll acts).Alone) : w.Alone := by
  induction acts generalizing w with
  | nil => exact h
  | cons act rest ih => exact (ih h).before

/-- The only pool there is has just been opened: it has counted nothing, and nothing was noted. -/
theorem openPool_booked (linger : Nat) (hFew : (w.perform (.openPool linger)).pools.length ≤ 1)
    (h : w.Booked dropped) : (w.perform (.openPool linger)).Booked dropped := by
  rw [perform_openPool_eq] at hFew ⊢
  split at hFew
  · rw [if_pos ‹_›]
    exact h
  · rw [if_neg ‹_›]
    rw [List.length_append, List.length_singleton, Nat.add_le_add_iff_right,
      Nat.le_zero, List.length_eq_zero_iff] at hFew
    unfold Booked counters at h ⊢
    simpa [hFew] using h

/-- Every act but the closing of an open pool keeps the record in agreement. -/
theorem perform_booked {act : Act δ} (hAlone : (w.perform act).Alone) (h : w.Booked dropped)
    (hAct : ∀ number p, act = .close number → w.pools[number]? = some p → p.closed = true) :
    (w.perform act).Booked dropped := by
  have hBefore := hAlone.before
  have hFew := hBefore.pools
  cases act with
  | openPool linger => exact openPool_booked linger hAlone.pools h
  | get number id =>
      refine visit_keeps_booked hFew (Site.get id) (fun p hp hSite => ?_) h
      refine Site.get_booked id hSite fun hBroken => ?_
      have hPool : (w.perform (.get number id)).pools[number]? = some _ :=
        visit_pool hp (Site.get_spec number id (w.site number p) fun h => h).1.toRecorded
      exact hAlone.unbroken_of_mem hPool
        (List.mem_append_right _ (List.mem_singleton_self _)) hBroken
  | resume number index =>
      refine visit_keeps_booked hFew (fun s => ((), s.resume index)) (fun p hp hSite => ?_) h
      refine Site.resume_booked index hSite fun r hr hBroken => ?_
      have hPool : (w.perform (.resume number index)).pools[number]? = some _ :=
        visit_pool (f := fun s => ((), s.resume index)) hp
          (Site.resume_spec number index (w.site number p) fun h => h).1.toRecorded
      exact hAlone.unbroken_of_mem hPool (List.mem_of_getElem? hr) hBroken
  | drop number index =>
      exact visit_keeps_booked hFew (fun s => ((), s.drop index))
        (fun p _ => Site.drop_booked index) h
  | release number ref =>
      show (w.release number ref).2.Booked dropped
      unfold release
      split
      · exact h
      · exact giveBack_booked ref hFew h
  | report number ref cause => exact report_booked number ref cause hFew h
  | evictIdle number =>
      exact visit_keeps_booked hFew Site.evictIdle (fun p _ => Site.evictIdle_booked) h
  | reap number =>
      show (w.turnReaper number).Booked dropped
      rw [turnReaper_eq]
      exact visit_keeps_booked hFew (fun s => ((), s.tend)) (fun p _ => Site.tend_booked) h
  | close number =>
      refine visit_keeps_booked hFew (fun s => ((), s.close)) (fun p hp hSite => ?_) h
      rw [Site.close_of_closed (s := w.site number p) (hAct number p rfl hp)]
      exact hSite
  | abandon number | hold number taken => exact updatePool_booked number (fun _ => rfl) h
  | wake number => exact updatePool_booked number (f := Pool.wake) (fun _ => rfl) h
  | borrow ref | connection ref => exact use_booked ref _ hFew h
  | giveBack ref => exact giveBack_booked ref hFew h
  | look => exact probeElsewhere_booked 1 hFew h
  | create id token =>
      exact absurd hAlone.creations (List.append_ne_nil_of_right_ne_nil _ nofun)
  | resumeCreation index =>
      show (w.resumeCreation index).Booked dropped
      unfold resumeCreation
      rw [hBefore.creations]
      exact h
  | advance span =>
      rw [perform_advance_eq]
      exact h
  | firstContact id | shutFactory | order f | mend | dropCreation index | cancel token
  | pass moment | probe number => exact h

/-- What the pool opened first has dropped, if it was closed. -/
def farewell (w : World δ γ) : List Nat := (w.pools[0]?.map Pool.farewell).getD []

/-- Closing an open pool notes as dropped what the counters leave over. -/
theorem close_audited {number : Nat} {p : Pool γ} (hReachable : w.Reachable)
    (hFew : w.pools.length ≤ 1) (hp : w.pools[number]? = some p) (hOpen : p.closed = false)
    (h : w.Booked w.farewell) :
    (w.perform (.close number)).Booked (w.perform (.close number)).farewell := by
  obtain rfl := eq_zero_of_few hFew hp
  have hPool : (w.perform (.close 0)).pools[0]? = some (w.site 0 p).close.pool :=
    visit_pool (f := fun s => ((), s.close)) hp (Site.close_spec 0 True (w.site 0 p)).1.toRecorded
  have hBefore : w.farewell = [] := by simp [World.farewell, Pool.farewell, hp, hOpen]
  have hAfter : (w.perform (.close 0)).farewell = [p.size] := by
    have hLive := (hReachable.balanced hp).live hOpen
    have hSize : p.counters.created - p.counters.evicted - p.counters.invalidated = p.size := by
      omega
    rw [World.farewell, hPool, (Site.close_of_open (s := w.site 0 p) hOpen).2.2]
    exact congrArg ([·]) hSize
  rw [hBefore] at h
  rw [hAfter]
  exact visit_booked hFew hp (fun s => ((), s.close))
    (Site.close_booked (s := w.site 0 p) hOpen ((booked_site hFew hp).mpr h))

theorem farewell_perform {act : Act δ} (hReachable : w.Reachable)
    (hAct : ∀ number p, act = .close number → w.pools[number]? = some p → p.closed = true) :
    (w.perform act).farewell = w.farewell := by
  unfold World.farewell
  cases hp : w.pools[0]? with
  | none =>
      cases hp' : (w.perform act).pools[0]? with
      | none => rfl
      | some p' =>
          obtain ⟨linger, rfl, _⟩ := (perform_spec act w).opened 0 p' hp hp'
          rfl
  | some p =>
      obtain ⟨p', hp', hChange⟩ := (perform_spec act w).pools 0 p hp
      have hClosed : p'.closed = p.closed := hChange.closed_eq fun hCloses => hAct 0 p hCloses hp
      rw [hp']
      exact (hChange.counted (hReachable.sound hp)).farewell_eq hClosed

theorem perform_audited {act : Act δ} (hReachable : w.Reachable) (hAlone : (w.perform act).Alone)
    (h : w.Booked w.farewell) : (w.perform act).Booked (w.perform act).farewell := by
  by_cases hCloses : ∃ number p, act = .close number ∧ w.pools[number]? = some p ∧ p.closed = false
  · obtain ⟨number, p, rfl, hp, hOpen⟩ := hCloses
    exact close_audited hReachable hAlone.before.pools hp hOpen h
  · have hAct : ∀ number p, act = .close number → w.pools[number]? = some p → p.closed = true := by
      intro number p hAct hp
      rw [← Bool.not_eq_false]
      exact fun hOpen => hCloses ⟨number, p, hAct, hp, hOpen⟩
    rw [farewell_perform hReachable hAct]
    exact perform_booked hAlone h hAct

theorem performAll_audited {acts : List (Act δ)} (hReachable : w.Reachable)
    (hAlone : (w.performAll acts).Alone) (h : w.Booked w.farewell) :
    (w.performAll acts).Booked (w.performAll acts).farewell := by
  induction acts generalizing w with
  | nil => exact h
  | cons act rest ih =>
      have hRest : ((w.perform act).performAll rest).Alone := hAlone
      exact ih (hReachable.perform act) hRest (perform_audited hReachable hRest.start h)

/-- After every run of a pool that shares its factory with nobody, and none of whose requests broke
off at the clock, the record agrees with the statistics. The handles created are numbered from one
without a gap; those found again, evicted and reported have one event each, and the scans add up to
the evictions; every sequence of dials that failed gave up or was cancelled; every connection became
a handle or was discarded; and if the pool was closed, that was noted once, with what it dropped. The
runs have only closes that return: whoever left one before the reaper ended would leave it unnoted.
-/
theorem record_agrees {env : Surroundings δ} {acts : List (Act δ)} {p : Pool γ}
    (hRun : w = performAll acts { env }) (hBlank : env.events = []) (hPool : w.pools = [p])
    (hCreations : w.creations = []) (hRead : ∀ r ∈ p.requests, r.state ≠ .broken) :
    texts "Created new connection" "total_created" w.env.events =
      (List.range' 1 p.statistics.counters.created).map (fun n => some (toString n)) ∧
    told "Reusing connection" w.env.events = p.statistics.counters.reused ∧
    told "Evicting idle connection" w.env.events = p.statistics.counters.evicted ∧
    (∃ gone : List Nat, gone.sum = p.statistics.counters.evicted ∧
      texts "Cleaned up idle connections" "evicted" w.env.events =
        gone.map fun n => some (toString n)) ∧
    told "Connection reported broken, removed from pool" w.env.events =
      p.statistics.counters.invalidated ∧
    told "Giving up on connection" w.env.events +
        told "Connection attempt cancelled" w.env.events = p.statistics.counters.failed ∧
    told "Connected" w.env.events = p.statistics.counters.created +
      told "Pool closed while connecting, discarding connection" w.env.events ∧
    texts "Connection pool closed" "dropped" w.env.events =
      if p.closed then
        [some (toString (p.statistics.counters.created - p.statistics.counters.evicted -
          p.statistics.counters.invalidated))]
      else [] := by
  have hFirst : w.pools[0]? = some p := by rw [hPool]; rfl
  have hAlone : w.Alone := by
    refine ⟨hCreations, Nat.le_of_eq (congrArg List.length hPool), fun q hq => ?_⟩
    cases hFirst.symm.trans hq
    exact hRead
  have hStart : World.Booked [] ({ env } : World δ γ) := by
    unfold Booked
    rw [hBlank]
    exact Ledger.blank
  have hBegun : ({ env } : World δ γ).Reachable := ⟨env, [], rfl⟩
  have hLedger := performAll_audited hBegun (hRun ▸ hAlone : (performAll acts { env }).Alone) hStart
  rw [← hRun, Booked, World.counters, World.farewell, hFirst] at hLedger
  refine ⟨?_, hLedger.reused, hLedger.evicted, ?_, hLedger.invalidated, hLedger.failed,
    hLedger.connected, ?_⟩
  · refine (texts_eq Event.total? _ fun e => by cases e <;> rfl).trans ?_
    rw [hLedger.created, List.reverse_reverse]
    rfl
  · refine ⟨_, ?_, texts_eq Event.cleaned? _ fun e => by cases e <;> rfl⟩
    rw [List.sum_reverse]
    exact hLedger.cleaned
  · refine (texts_eq Event.dropped? _ fun e => by cases e <;> rfl).trans ?_
    rw [hLedger.closed]
    show (p.farewell.reverse.map fun n => some (toString n)) = _
    unfold Pool.farewell
    split <;> rfl

/-- Of three handles one is reported, one is evicted and one dropped. One dial is given up, one
cancelled when the pool is closed, and one brings a connection too late. -/
def lifetime : List (Act (FixedDialer Nat)) :=
  [.openPool 10, .get 0 "a", .get 0 "a", .report 0 ⟨0, 0⟩ "reset", .get 0 "b", .get 0 "c",
    .release 0 ⟨0, 1⟩, .pass 100, .evictIdle 0, .firstContact "d",
    .order (FixedDialer.failAlways "d"), .get 0 "d", .order (FixedDialer.failAlways "e"),
    .get 0 "e", .order fun d => { d with latency := 5 }, .get 0 "f", .close 0, .resume 0 5,
    .pass 200, .resume 0 6, .close 0]

def lifetimeEnv : Surroundings (FixedDialer Nat) :=
  { factory :=
      { dialer := { connection := 7 }
        policy := { initialRetries := 1, initialGrace := 10, subsequentRetries := 0 } } }

theorem lifetime_recorded : ∃ w : World (FixedDialer Nat) Nat,
    w = performAll lifetime { env := lifetimeEnv } ∧
      texts "Created new connection" "total_created" w.env.events =
        [some "1", some "2", some "3"] ∧
      told "Giving up on connection" w.env.events +
        told "Connection attempt cancelled" w.env.events = 2 ∧
      told "Connected" w.env.events =
        3 + told "Pool closed while connecting, discarding connection" w.env.events ∧
      texts "Connection pool closed" "dropped" w.env.events = [some "1"] := by
  let w : World (FixedDialer Nat) Nat := performAll lifetime { env := lifetimeEnv }
  have hLength : w.pools.length = 1 ∧ w.creations.length = 0 := by decide +kernel
  obtain ⟨p, hPool⟩ := List.length_eq_one_iff.mp hLength.1
  have hView : w.pools.map (fun p => (p.closed, p.counters, p.requests.map fun r => r.state)) =
      [(true, { created := 3, reused := 1, failed := 2, evicted := 1, invalidated := 1 },
        [.granted 0, .granted 0, .granted 1, .granted 2,
          .refused (.connect (.exhausted "d" 1 (.refused "scripted failure for d"))),
          .refused (.connect (.cancelled "e" 1)), .refused .closed])] := by decide +kernel
  rw [hPool, List.map_singleton, List.singleton_inj, Prod.mk.injEq, Prod.mk.injEq] at hView
  obtain ⟨hClosed, hCounters, hStates⟩ := hView
  have hRead : ∀ r ∈ p.requests, r.state ≠ .broken := by
    intro r hr hBroken
    have hMem := List.mem_map_of_mem (f := fun r : Request => r.state) hr
    rw [hStates, hBroken] at hMem
    exact absurd hMem (by decide)
  obtain ⟨hCreated, _, _, _, _, hFailed, hConnected, hDropped⟩ :=
    record_agrees (w := w) rfl rfl hPool (List.eq_nil_of_length_eq_zero hLength.2) hRead
  simp only [Pool.statistics, hCounters, hClosed] at hCreated hFailed hConnected hDropped
  exact ⟨w, rfl, hCreated, hFailed, hConnected, hDropped⟩

end World

end Tether
