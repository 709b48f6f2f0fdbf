import Issuebot.Agent.Session
import Issuebot.Orchestrator.Admission
import Issuebot.Orchestrator.PendingVerdicts
import Mathlib.Data.List.Sort

/-!
# The orchestrator's state

The runtime records, the pure scheduling rules and the worker's memory as a whole. The
worker is one task: its methods are programs over `Orchestrator` that run one after another,
and all that may happen inside one is at an `await`, where the answer comes back and a stop
may have been requested meanwhile. What GitHub, the clocks and the sessions answer is given
to each program.

`history` is what the proofs speak of and no program reads: what the worker has done with
each issue, in order.
-/

namespace Issuebot
set_option autoImplicit false
open Logic

/-- `timedelta(milliseconds=n)` -/
def milliseconds (n : Int) : Int := n * 1000

section Records

inductive StopCause where
  | stalled
  | moved
  | closed
  | missing
  | shutdown
  deriving DecidableEq, Repr

/-- One worker task and what the orchestrator knows about it. -/
structure RunningEntry where
  issue : Issue
  attempt : Nat
  rework : Bool := false
  resumed : Bool := false
  runId : String
  startedMono : Datetime
  account : Option String
  kind : RunKind
  /-- A parent review's steps as they were read when it started. -/
  stepsSeen : List Nat := []
  lastActivityMono : Option Datetime := none
  turns : Nat := 0
  stopCause : Option StopCause := none
  stopDetail : Option String := none
  reviewSeenMono : Option Datetime := none
  terminalIssue : Option Issue := none
  /-- Its task's end, `none` while it runs. -/
  task : Option RunEnd := none
  /-- The stop that was recorded when it ended; the proofs speak of it, and no program reads it. -/
  stopAtEnd : Option StopCause := none
  deriving DecidableEq, Repr

/-- Record the first cause only. -/
def RunningEntry.stop (entry : RunningEntry) (cause : StopCause) (detail : String) : RunningEntry :=
  if entry.stopCause.isNone then { entry with stopCause := some cause, stopDetail := some detail } else entry

/-- What the blocked escape writes; also carried by an escape retry. -/
structure BlockedContext where
  reason : String
  runId : String
  attempt : Nat
  turns : Nat
  logDir : Option String
  deriving DecidableEq, Repr

structure RetryEntry where
  issueNumber : Nat
  attempt : Nat
  kind : RetryKind
  dueMono : Datetime
  error : Option String
  escape : Option BlockedContext := none
  deriving DecidableEq, Repr

/-- `blocked` counts the work track's hand-overs; each issue's own `Worker` counts those of
its triage. -/
structure Counters where
  runsStarted : Nat := 0
  runsEnded : Nat := 0
  issuesCompleted : Nat := 0
  issuesCancelled : Nat := 0
  blocked : Nat := 0
  deriving DecidableEq, Repr

/-- What every run that returned has cost this process. -/
structure ClaudeTotals where
  costUsd : Usd := 0
  deriving DecidableEq, Repr

def ClaudeTotals.add (totals : ClaudeTotals) (result : RunResult) : ClaudeTotals where
  costUsd := totals.costUsd + result.costUsd

inductive FinishOutcome where
  | complete
  | noChange
  | cancelled
  | unchanged
  | failed
  deriving DecidableEq, Repr

/-- Every reason the worker may have for claiming nothing. -/
structure Holds where
  preflightBlock : Option String := none
  authReason : Option String := none
  authKey : Option String := none
  unreadableAuthProbes : Nat := 0
  usageReason : Option String := none
  usageResetAt : Option Datetime := none
  usageUntil : Option Datetime := none
  usageWindow : Option String := none
  runAsBlock : Option String := none
  accountsBlock : Option String := none
  githubBlock : Option String := none
  githubNote : Option String := none
  fetchFailures : Nat := 0
  deriving DecidableEq, Repr

/-- A run's start: the issue as its caller read it, its entry, the runs that were going, and
what the settings in force said of a run. -/
structure RunStart where
  issue : Issue
  entry : RunningEntry
  going : Nat
  limit : Nat
  pool : List String
  deriving DecidableEq, Repr

/-- What the worker did with an issue. -/
inductive Occurrence where
  /-- The gate let a run of the issue pass. -/
  | admitted (issue : Issue) (request : AdmissionRequest)
  | started (start : RunStart)
  /-- A run left `running`. -/
  | ended (number : Nat) (entry : RunningEntry)
  /-- The issue was held behind an earlier step. -/
  | held (issue : Issue)
  /-- A session record was folded into the chain. -/
  | observed (number attempt : Nat)
  /-- A run that returned was charged to the issue. -/
  | spent (number : Nat) (turns : Int) (costUsd : Usd)
  /-- The exit of a work run counted a failure. -/
  | counted (number : Nat)
  /-- A run that succeeded continues, or an escape answered `applied` or `skipped`. -/
  | cleared (number : Nat)
  /-- A terminal finish landed. -/
  | finished (number : Nat)
  deriving DecidableEq, Repr

/-- The issue a run was admitted or started for. -/
def Occurrence.runOf : Occurrence → Option Issue
  | .admitted issue _ => some issue
  | .started start => some start.issue
  | _ => none

end Records

section Rules

/-- `BACKOFF_BASE_MS` -/
def backoffBaseMs : Nat := 10000

/-- `CONTINUATION_DELAY_MS` -/
def continuationDelayMs : Nat := 1000

/-- `TERMINAL_SWEEP_EVERY_TICKS` -/
def terminalSweepEveryTicks : Nat := 10

def backoffMs (attempt maxBackoffMs : Nat) : Nat := min (backoffBaseMs * 2 ^ (attempt - 1)) maxBackoffMs

/-- `_RANK`, with what it has no rank for last. -/
def stateRank : Option StateLabel → Nat
  | some .inProgress => 0
  | some .rework => 1
  | some .todo => 2
  | _ => 3

/-- The sort key of the candidates compared: orphaned in progress first, then rework, then
todo; the oldest first, then the lower number. -/
def candidateLe (a b : Issue) : Bool :=
  if stateRank a.state ≠ stateRank b.state then decide (stateRank a.state < stateRank b.state)
  else if a.createdAt ≠ b.createdAt then decide (a.createdAt < b.createdAt)
  else decide (a.number ≤ b.number)

def sortCandidates (issues : List Issue) : List Issue := issues.insertionSort fun a b => candidateLe a b

theorem mem_sortCandidates {issues : List Issue} {issue : Issue} :
    issue ∈ sortCandidates issues ↔ issue ∈ issues := (List.perm_insertionSort _ issues).mem_iff

/-- The issue after `claim`: state labels replaced, markers dropped, the rest kept. -/
def claimedSnapshot (py : Py) (issue : Issue) (labels : GitHubLabels py) : Issue :=
  let dropped := (labels.asTuple ++ labels.claimClears).map py.lower
  let target := py.lower labels.inProgress
  { issue with
    state := some .inProgress
    stateLabels := [target]
    labels := (issue.labels.filter fun name => py.lower name ∉ dropped) ++ [target]
    dispatchable := decide (issue.githubState = .opened) }

@[simp] theorem claimedSnapshot_number (py : Py) (issue : Issue) (labels : GitHubLabels py) :
    (claimedSnapshot py issue labels).number = issue.number := rfl

end Rules

/-- What the orchestrator reads of the settings beside a filing's. `runAs` is the pool of
session accounts, and a pool has more than one. -/
structure Settings (py : Py) extends FilingConfig py where
  maxIssueCostUsd : Usd
  maxConcurrentAgents : Nat
  maxRetryBackoffMs : Nat
  intervalMs : Nat
  stallTimeoutMs : Nat
  maxParentReviews : Nat
  maxGapRounds : Nat
  runAs : List String

variable {py : Py}

/-- `session_account`: the first member answers for a pool. -/
def Settings.sessionAccount (settings : Settings py) : Option String := settings.runAs.head?

/-- The worker's memory, with the board it works on. -/
structure Orchestrator where
  running : Dict RunningEntry
  retries : Dict RetryEntry
  ledger : Ledger
  holds : Holds
  stopping : Bool
  /-- `_held`: the reason each `todo` candidate was last held for. -/
  held : Dict String
  counters : Counters
  totals : ClaudeTotals
  /-- The `_WorkerExited` messages not taken yet, the oldest first. -/
  queue : List Nat
  tickCount : Nat
  workers : Dict Worker
  /-- The moment before which the triage candidates are not read again. -/
  candidatesNotBefore : Option Datetime
  families : Nat → Family
  history : List Occurrence

namespace Orchestrator

/-- What the worker remembers of one issue's triage. -/
def workerOf (o : Orchestrator) (number : Nat) : Worker := (o.workers.lookup number).getD .idle

/-- `_accounts_hold`: the setting first, then the record. -/
def accountsHold (o : Orchestrator) : Option String :=
  match o.holds.runAsBlock with
  | some block => some block
  | none => o.holds.accountsBlock

/-- This worker's one live reason not to claim anything, in the order they outrank each other. -/
def currentHold (o : Orchestrator) : Option Hold :=
  match o.holds.preflightBlock with
  | some reason => some { kind := .preflight, reason }
  | none =>
  match o.holds.authReason with
  | some reason => some { kind := .auth, reason, key := o.holds.authKey }
  | none =>
  match o.holds.usageReason with
  | some reason =>
    some {
      kind := .usage
      reason
      key := some "usage"
      untilTime := o.holds.usageUntil
      window := o.holds.usageWindow }
  | none =>
  match o.accountsHold with
  | some reason =>
    some { kind := .accounts, reason, key := some ("accounts:" ++ if o.holds.runAsBlock.isSome then "run_as" else "record") }
  | none => o.holds.githubBlock.map fun reason => { kind := .github, reason, key := some "github" }

/-- `_slots` -/
def slots (settings : Settings py) (o : Orchestrator) : Nat := settings.maxConcurrentAgents - o.running.size

/-- Whether this tick can admit nothing: no slot free, the worker stopping, or a hold. -/
def cannotDispatch (settings : Settings py) (o : Orchestrator) : Bool :=
  o.slots settings = 0 || o.stopping || o.currentHold.isSome

end Orchestrator

/-- A program of the worker's one task. -/
abbrev Pass (α : Type) : Type := Remote Empty Empty Orchestrator α

/-- The state a program leaves. -/
def Pass.after {α : Type} (pass : Pass α) (o : Orchestrator) : Orchestrator := (pass nofun o).2

/-- There are no calls to answer. -/
theorem Pass.after_eq {α : Type} {pass : Pass α} {o : Orchestrator} (calls : Empty → Fate Empty) :
    Pass.after pass o = (pass calls o).2 := congrArg (fun calls => (pass calls o).2) (Subsingleton.elim _ calls)

theorem Pass.after_bind {α β : Type} {x : Pass α} {y : Pass β} {o : Orchestrator} :
    Pass.after (x >>= fun _ => y) o = Pass.after y (Pass.after x o) := by
  simp only [Pass.after, Bind.bind]
  rcases x nofun o with ⟨error | a, o'⟩
  · exact error.elim
  · rfl

/-- What an `await` brings back, and whether the worker was asked to stop meanwhile. -/
structure Awaited (α : Type) where
  answer : α
  stopped : Bool := false

section Programs

variable {α : Type}

/-- `request_stop` -/
def requestStop : Pass Unit := .modify fun o => { o with stopping := true }

def await (awaited : Awaited α) : Pass α := do
  .when awaited.stopped requestStop
  return awaited.answer

/-- The record the proofs speak of. -/
def note (occurrence : Occurrence) : Pass Unit :=
  .modify fun o => { o with history := o.history ++ [occurrence] }

/-- An occurrence the ledger has a figure for, and that figure. -/
def book (occurrence : Occurrence) (f : Ledger → Ledger) : Pass Unit :=
  .modify fun o => { o with ledger := f o.ledger, history := o.history ++ [occurrence] }

def changeLedger (f : Ledger → Ledger) : Pass Unit := .modify fun o => { o with ledger := f o.ledger }

def changeHolds (f : Holds → Holds) : Pass Unit := .modify fun o => { o with holds := f o.holds }

def bump (f : Counters → Counters) : Pass Unit := .modify fun o => { o with counters := f o.counters }

/-- One more issue handed to a human. -/
def bumpBlocked : Pass Unit := bump fun counters => { counters with blocked := counters.blocked + 1 }

def dropRetry (number : Nat) : Pass Unit := .modify fun o => { o with retries := o.retries.erase number }

def queueRetry (entry : RetryEntry) : Pass Unit :=
  .modify fun o => { o with retries := o.retries.set entry.issueNumber entry }

/-- A program over one issue's GitHub and the worker's memory of it, its calls given their
fates; `raised` is GitHub's error. -/
def onIssue (number : Nat) (fates : Call → Fate GitHubError) (program : Filing α) :
    Pass (Except GitHubError α) := fun _ o =>
  let (answer, system) := program fates { family := o.families number, worker := o.workerOf number }
  (.ok answer,
    { o with
      families := fun other => if other = number then system.family else o.families other
      workers := o.workers.set number system.worker })

/-- What the worker remembers of one issue's triage changed. -/
def changeWorker (number : Nat) (f : Worker → Worker) : Pass Unit :=
  .modify fun o => { o with workers := o.workers.set number (f (o.workerOf number)) }

end Programs

/-- What a turn of a dispatch loop came to. -/
inductive Turn where
  | passed
  | dispatched
  | halted
  deriving DecidableEq, Repr

/-- A loop that goes through every item. -/
def passLoop {α β : Type} (body : α → β → Pass Unit) : List α → (Nat → β) → Pass Unit
  | [], _ => pure ()
  | item :: items, worlds => do
    body item (worlds 0)
    passLoop body items fun i => worlds (i + 1)

/-- A dispatch loop: each item in its turn, until one halts it; the number dispatched. -/
def dispatchLoop {α β : Type} (body : α → β → Pass Turn) : List α → (Nat → β) → Pass Nat
  | [], _ => pure 0
  | item :: items, worlds => do
    match ← body item (worlds 0) with
    | .halted => return 0
    | .passed => dispatchLoop body items fun i => worlds (i + 1)
    | .dispatched => do
      let others ← dispatchLoop body items fun i => worlds (i + 1)
      return others + 1

end Issuebot
