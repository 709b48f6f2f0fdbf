import Issuebot.Orchestrator.WorkerExit

/-!
# The retry timer

`fireDueRetries` fires every entry whose time has come. An escape that waits is written
again; every other entry asks the gate before it spends a read, refreshes its issue, and asks
again with the issue in hand.
-/

namespace Issuebot
set_option autoImplicit false
open Logic

/-- What a firing meets: the world, and the registry at the timer's own binding. -/
structure TimerWorld where
  world : World
  boundFirst : Except String AccountRegistry

namespace Orchestrator

variable {py : Py} (settings : Settings py)

/-- `_requeue` -/
def requeue (entry : RetryEntry) (kind : RetryKind) (delayMs : Nat) (error : String) (clock : Datetime) :
    Pass Unit :=
  queueRetry { entry with kind, dueMono := clock + milliseconds delayMs, error := some error }

/-- The retry of an escape GitHub refused. -/
def fireEscape (entry : RetryEntry) (context : BlockedContext) (w : World) : Pass Unit := do
  let outcome ← await (w.blockedEscape context)
  recordEscape entry.issueNumber outcome
  match outcome with
  | .applied => bumpBlocked
  | .failed =>
    requeue { entry with attempt := entry.attempt + 1 } .escape
      (backoffMs (entry.attempt + 1) settings.maxRetryBackoffMs) "blocked escape failed" w.clock
  | .skipped => pure ()

/-- Do what the gate said: wait with the hold, wait for a slot, or let the entry go. -/
def waitOrRelease (entry : RetryEntry) (verdict : Refused) (issue : Option Issue) (w : World) : Pass Unit :=
  if verdict.kind = .stopping then queueRetry entry
  else match verdict.wait with
  | some kind => requeue entry kind settings.intervalMs verdict.reason w.clock
  | none =>
    match issue with
    | some issue => handleRefusal issue verdict w
    | none => pure ()

/-- An admitted retry: its account, asked for before `dispatch` does, and its run. -/
def fireAdmitted (entry : RetryEntry) (issue : Issue) (attempt : Nat) (t : TimerWorld) : Pass Unit := do
  let (_, ready) ← bindAccount settings t.boundFirst t.world.key
  if !ready then do
    let o ← Remote.get
    match o.accountsHold with
    | some blocked => requeue entry (.hold .accounts) settings.intervalMs blocked t.world.clock
    | none => requeue entry .slots settings.intervalMs "the workspace's session account is busy" t.world.clock
  else do
    let _ ← dispatch settings issue attempt none t.world

/-- A retry whose issue has been refreshed. -/
def fireRefreshed (entry : RetryEntry) (issue : Issue) (t : TimerWorld) : Pass Unit := do
  if issue.githubState = .closed then finish issue t.world
  else match ← admits settings issue .work none with
  | .error verdict => waitOrRelease settings entry verdict (some issue) t.world
  | .ok admitted => fireAdmitted settings entry issue admitted.attempt t

/-- A retry that claims: the gate is asked before the refresh. -/
def fireRun (entry : RetryEntry) (t : TimerWorld) : Pass Unit := do
  match ← admitUnread settings entry.issueNumber with
  | .error verdict => waitOrRelease settings entry verdict none t.world
  | .ok _ => do
    match ← await t.world.refreshed with
    | .error error =>
      requeue entry entry.kind settings.intervalMs ("retry refresh failed: " ++ error.message) t.world.clock
    | .ok [] => pure ()
    | .ok (issue :: _) => fireRefreshed settings entry issue t

/-- `_fire` -/
def fire (entry : RetryEntry) (t : TimerWorld) : Pass Unit :=
  match entry.kind, entry.escape with
  | .escape, some context => fireEscape settings entry context t.world
  | _, _ => fireRun settings entry t

/-- The timer's turn for one due entry. -/
def fireDue (entry : RetryEntry) (t : TimerWorld) : Pass Unit := do
  let o ← Remote.get
  if o.stopping || o.retries.lookup entry.issueNumber ≠ some entry then return ()
  else do
    dropRetry entry.issueNumber
    fire settings entry t

/-- The entries whose time has come, the earliest first. -/
def dueRetries (o : Orchestrator) (clock : Datetime) : List RetryEntry :=
  (o.retries.values.filter fun entry => entry.dueMono ≤ clock).insertionSort fun a b => a.dueMono ≤ b.dueMono

/-- `fire_due_retries` -/
def fireDueRetries (clock : Datetime) (worlds : Nat → TimerWorld) : Pass Unit := do
  let o ← Remote.get
  passLoop (fireDue settings) (o.dueRetries clock) worlds

end Orchestrator
end Issuebot
