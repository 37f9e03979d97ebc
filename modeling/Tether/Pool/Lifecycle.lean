import Tether.Pool.Site

/-!
The reaper's turns, and the end of a pool. The reaper scans when a wake signal reaches it and when
it has slept for a whole linger; each scan starts its sleep anew. A scan that finds the registry
held elsewhere is skipped, and the reaper goes back to sleep.
-/

namespace Tether.Site

variable {δ γ : Type}

/-- The reaper goes to sleep for a whole linger. -/
def rest (s : Site δ γ) : Site δ γ :=
  s.update fun p => { p with reaper := .asleep (s.env.now + p.linger.slept) }

/-- One scan by the reaper, and sleep after it. -/
def reap (s : Site δ γ) : Site δ γ :=
  match s.scan with
  | (none, s) => s.update fun p => { p with reaper := .broken }
  | (some (.ok evicted), s) =>
    (if evicted = 0 then s else s.note (.scanFinished evicted)).rest
  | (some (.error error), s) => (s.note (.scanSkipped error)).rest

/-- The reaper answers that many wake signals, each with a scan. -/
def answerWakes : Nat → Site δ γ → Site δ γ
  | 0, s => s
  | count + 1, s =>
    if s.pool.reaper.isRunning then
      answerWakes count
        ((s.update fun p => { p with wakes := p.wakes - 1 }).note .reaperWoken).reap
    else s

/-- The reaper's sleep begins, or ends in a scan. -/
def sleep (s : Site δ γ) : Site δ γ :=
  match s.pool.reaper with
  | .starting => s.rest
  | .asleep ends => if ends ≤ s.env.now then s.reap else s
  | _ => s

/-- Let the reaper do what is due now. -/
def reaperTurn (s : Site δ γ) : Site δ γ :=
  if !s.pool.reaper.isRunning then s
  else if s.pool.shutdown then
    (s.update fun p => { p with reaper := .stopped }).note .reaperStopped
  else (s.answerWakes s.pool.wakes).sleep

/-- The reaper has ended for good; a failure of its own that nobody heard of is noted now. -/
def dismissReaper (s : Site δ γ) : Site δ γ :=
  let dismissed := s.update fun p => { p with reaper := .stopped }
  match s.pool.reaper with
  | .starting | .asleep _ => dismissed.note .reaperStopped
  | .broken => dismissed.note .reaperFailed
  | .idle | .stopped => dismissed

/-- Close the pool: every handle is dropped, the gates are forgotten, waits for a retry are cut
short, and the reaper ends. Dials in the air are not awaited. Closing twice does nothing more. The
caller stays until the reaper has ended, for which no time passes; one who went away before that
would leave the pool closed and its end unnoted, and is left out here. -/
def close (s : Site δ γ) : Site δ γ :=
  if s.pool.closed then s
  else
    let dropped := s.pool.size
    let s := s.update fun p =>
      { p with closed := true, creating := [], registry := [], shutdown := true }
    s.dismissReaper.note (.closed dropped)

end Tether.Site
