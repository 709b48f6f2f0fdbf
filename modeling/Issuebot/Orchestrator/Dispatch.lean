import Issuebot.Agent.Accounts
import Issuebot.Orchestrator.Approval
import Issuebot.Orchestrator.State

/-!
# From the gate to a run

`Orchestrator.admits` asks the one gate, `dispatch` does what its answer allows, and
`startRun` is the one place a run of any kind starts. `World` is what everything outside the
worker answers to one turn of its loops.
-/

namespace Issuebot
set_option autoImplicit false
open Logic

/-- What one turn of a loop meets: GitHub, the clocks, the registry and the workspace. -/
structure World where
  now : Datetime
  clock : Datetime
  runId : String
  /-- `_assess_approval`: `none` when GitHub would not say. -/
  approval : Awaited (Option Decision)
  /-- The account registry, or why it cannot be read. -/
  registry : Except String AccountRegistry
  /-- `workspace_key` of the issue. -/
  key : String
  /-- Whether GitHub took the claim's `set_state`. -/
  claimed : Awaited Bool
  /-- `_resume_plan`: the session to resume and the attempt its workspace last recorded. -/
  resumePlan : Option (Option String × Nat)
  refreshed : Awaited (Except GitHubError (List Issue))
  subIssues : Awaited (Except GitHubError (List SubIssue))
  /-- `budget_escape`, by `announce`. -/
  budgetEscape : Bool → Awaited EscapeOutcome
  blockedEscape : BlockedContext → Awaited EscapeOutcome
  operatorStepEscape : Awaited EscapeOutcome
  unapprovedEscape : Unapproved → Awaited EscapeOutcome
  finish : Awaited FinishOutcome
  /-- What becomes of the calls of a filing or a hand-over. -/
  fates : Call → Fate GitHubError
  filed : Awaited Unit := ⟨(), false⟩

namespace Orchestrator

variable {py : Py} (settings : Settings py)

section Gate

/-- The request `_admit` gathers, with the live hold. -/
def admissionRequest (o : Orchestrator) (number : Nat) (issue : Option Issue) (kind : RunKind)
    (order : Option OrderHold) : AdmissionRequest where
  issue
  ledger := o.ledger.get number
  hold := o.currentHold
  slots := o.slots settings
  busy := decide (number ∈ o.running) || decide (number ∈ o.retries)
  stopping := o.stopping
  maxAttempts := settings.maxAttempts
  maxIssueCostUsd := settings.maxIssueCostUsd
  kind
  order

/-- `_admit` for a caller that has not refreshed the issue. -/
def admitUnread (number : Nat) : Pass Admission := do
  let o ← Remote.get
  return Issuebot.admits py (o.admissionRequest settings number none .work none)

/-- `_admit` with the issue in hand. -/
def admits (issue : Issue) (kind : RunKind) (order : Option OrderHold) : Pass Admission := do
  let o ← Remote.get
  let verdict := Issuebot.admits py (o.admissionRequest settings issue.number (some issue) kind order)
  match verdict with
  | .ok _ => note (.admitted issue (o.admissionRequest settings issue.number (some issue) kind order))
  | .error _ => pure ()
  return verdict

end Gate

section Refusals

/-- An escape that answered `applied` or `skipped` ends the chain, and the issue is a human's. -/
def recordEscape (number : Nat) (outcome : EscapeOutcome) : Pass Unit :=
  .when (outcome ≠ .failed)
    (book (.cleared number) fun ledger => (ledger.cleared number).markEscaped number)

/-- The budget escape of a refused issue. -/
def escapeBudget (issue : Issue) (reason : String) (w : World) : Pass Unit := do
  changeLedger fun ledger => (ledger.refused issue.number reason).2
  let o ← Remote.get
  let outcome ← await (w.budgetEscape !(o.ledger.get issue.number).escalated)
  .when (outcome = .applied) do
    changeLedger fun ledger => ledger.escalate issue.number
    bumpBlocked
  recordEscape issue.number outcome

/-- What a refusal about this issue costs it. -/
def handleRefusal (issue : Issue) (verdict : Refused) (w : World) : Pass Unit :=
  match verdict.kind with
  | .order => do
    note (.held issue)
    .modify fun o => { o with held := o.held.set issue.number verdict.reason }
  | .attempts | .spend => escapeBudget issue verdict.reason w
  | _ => pure ()

end Refusals

section Start

/-- The account this issue's session runs as, and whether it can be dispatched now. -/
def bindAccount (registry : Except String AccountRegistry) (key : String) : Pass (Option String × Bool) := do
  let o ← Remote.get
  if o.holds.runAsBlock.isSome then return (none, false)
  else if settings.runAs.length ≤ 1 then return (settings.sessionAccount, true)
  else match registry with
  | .error message => do
    changeHolds fun holds => { holds with accountsBlock := some message }
    return (none, false)
  | .ok registry =>
    let busy := o.running.values.filterMap RunningEntry.account ++ registry.busyAccounts settings.runAs
    match registry.bound settings.runAs key <|> registry.allocate settings.runAs key busy with
    | none => return (none, false)
    | some account => if account ∈ busy then return (none, false) else return (some account, true)

/-- `_start_run`: one run of any kind, and everything a run's start owes. `read` is the issue
as the caller read it, before a claim. -/
def startRun (read : Issue) (entry : RunningEntry) (now : Datetime) : Pass Unit :=
  .modify fun o =>
    { o with
      running := o.running.set entry.issue.number entry
      retries := o.retries.erase entry.issue.number
      counters := { o.counters with runsStarted := o.counters.runsStarted + 1 }
      ledger := o.ledger.dispatched entry.issue.number now
      history := o.history ++ [.started {
        issue := read
        entry
        going := o.running.size
        limit := settings.maxConcurrentAgents
        pool := settings.runAs }] }

/-- A step triage filed for the operator is never a work run. -/
def isOperatorStep (issue : Issue) : Bool := issue.labels.contains (py.lower settings.labels.operatorStep)

/-- The claim, for an issue not in progress yet. -/
def claim (issue : Issue) (w : World) : Pass (Option Issue) :=
  if issue.state = some .inProgress then return some issue
  else do
    let claimed ← await w.claimed
    return if claimed then some (claimedSnapshot py issue settings.labels) else none

/-- The end of `_dispatch`, for an approved issue: its account, its claim and its run. -/
def dispatchApproved (issue : Issue) (attempt : Nat) (resumeSessionId : Option String) (w : World) :
    Pass Bool := do
  let (account, ready) ← bindAccount settings w.registry w.key
  if !ready then return false
  else match ← claim settings issue w with
  | none => return false
  | some claimed => do
    startRun settings issue {
      issue := claimed
      attempt
      rework := decide (issue.state = some .rework)
      resumed := resumeSessionId.isSome
      runId := w.runId
      startedMono := w.clock
      account
      kind := .work } w.now
    return true

/-- An escape made before any claim. -/
def escapeUnclaimed (number : Nat) (escape : Awaited EscapeOutcome) : Pass Unit := do
  let outcome ← await escape
  .when (outcome = .applied) bumpBlocked
  recordEscape number outcome

/-- `_dispatch` -/
def dispatch (issue : Issue) (attempt : Nat) (resumeSessionId : Option String) (w : World) : Pass Bool := do
  if isOperatorStep settings issue then do
    escapeUnclaimed issue.number w.operatorStepEscape
    return false
  else match ← await w.approval with
  | none => return false
  | some (.unapproved verdict) => do
    escapeUnclaimed issue.number (w.unapprovedEscape verdict)
    return false
  | some (.approved _) => dispatchApproved settings issue attempt resumeSessionId w

end Start

end Orchestrator
end Issuebot
