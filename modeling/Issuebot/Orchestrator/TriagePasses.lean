import Issuebot.Orchestrator.Sweep

/-!
# The triage track's passes

`dispatchTriage` starts a triage run, or a split parent's review, for each candidate the
gate admits. `dispatchParentReviews` is the watch: it reviews each watched parent whose every
step has closed. Neither claims anything, and what either cannot go on with it hands over.
-/

namespace Issuebot
set_option autoImplicit false
open Logic

/-- Open, `triage_complete`, no `triage_todo` and no state label, and every step closed. -/
def parentReviewDue (py : Py) (steps : ParentSteps) (labels : GitHubLabels py) : Bool :=
  let held := (labels.triageTodo :: labels.asTuple).map py.lower
  steps.state = .opened && steps.labels.contains (py.lower labels.triageComplete) &&
    !(held.any fun name => steps.labels.contains name) && !steps.subIssues.isEmpty &&
    steps.subIssues.all fun step => step.state = .closed

section HandOvers

variable (py : Py) (config : FilingConfig py) (issue : Issue) (reason : String) (clocks : Clocks)

/-- A parent edited by anyone but its approver is not reviewed. -/
def handOverUnapprovedParent : Filing EscapeOutcome :=
  handOverParent py config issue "unapproved edit" reason
    ("Apply `" ++ config.labels.triageTodo ++
      "` again to approve the text as it stands now; issuebot then reviews it afresh.") clocks

def handOverParentOverBudget : Filing EscapeOutcome :=
  handOverParent py config issue "parent review budget limit" reason
    ("What `agent.max_issue_cost_usd` counts is what the issue has already cost, " ++
      "and that never resets: raise the ceiling, then add `" ++ config.labels.triageTodo ++ "` again.") clocks

/-- The parent's triage chain is spent. -/
def handOverFailedReview : Filing EscapeOutcome :=
  handOverParent py config issue "parent review failed" reason
    ("Add `" ++ config.labels.triageTodo ++ "` again to review it once the cause is fixed.") clocks

/-- `triage.max_parent_reviews` reached. -/
def handOverReviewLimit (maxParentReviews : Nat) : Filing EscapeOutcome :=
  handOverParent py config issue "parent review limit"
    ("#" ++ toString issue.number ++ " has reached `triage.max_parent_reviews`, the most " ++
      "reviews issuebot runs on a parent by itself")
    ("It has had " ++ toString maxParentReviews ++ " reviews. Add `" ++ config.labels.triageTodo ++
      "` to review it again with its count reset.") clocks

/-- Hand back an issue whose triage chain is spent; remembered until the note lands. -/
def triageGiveUp : Filing Unit := do
  if issue.subIssueCount > 0 then do
    let _ ← handOverFailedReview py config issue reason clocks
  else do
    let outcome ← triageHandBack py config issue "triage failed" reason
      ("Add `" ++ config.labels.triageTodo ++ "` again to retry once the cause is fixed.") clocks
    worker fun w => { w with triageEscape := if outcome = .failed then some reason else none }

/-- A refusal on spend, handed back rather than refused on every tick. -/
def handBackOverBudget : Filing Unit := do
  if issue.subIssueCount > 0 then do
    let _ ← handOverParentOverBudget py config issue reason clocks
  else do
    let _ ← triageHandBack py config issue "triage budget limit" reason
      ("Raise `agent.max_issue_cost_usd`, *then* add `" ++ config.labels.triageTodo ++
        "` again: what that ceiling counts is what the issue has already cost, and that never resets.")
      clocks

/-- A text nobody has approved, handed back before a session reads it. -/
def handBackUnapproved : Filing Unit := do
  if issue.subIssueCount > 0 then do
    let _ ← handOverUnapprovedParent py config issue reason clocks
  else do
    let _ ← triageHandBack py config issue "unapproved edit" reason
      ("Apply `" ++ config.labels.triageTodo ++ "` again to approve the text as it stands now.") clocks

/-- The note on a parent whose steps are still open: no hand-over. -/
def reviewWaiting (steps : List SubIssue) : Filing Unit := do
  recordParent {}
  let stillOpen := (steps.filter fun step => step.state = .opened).map fun step => "#" ++ toString step.number
  let _ ← parentHandOver py config issue "parent review waiting"
    ("#" ++ toString issue.number ++ " still has open steps: " ++ ", ".intercalate stillOpen ++
      ". issuebot reviews it by itself once every step has closed.")
    ("Its review count and gap rounds are reset. issuebot has put `" ++ config.labels.triageComplete ++
      "` back, so its steps still run in order.") clocks.now false

/-- A parent GitHub no longer returns, or that has closed, is finished. -/
def parentFinished : Filing Unit := do
  let s ← Remote.get
  recordParent { s.worker.parent.getD {} with finished := true }
  forgetTriageChain

end HandOvers

/-- One dispatching tick's read of the triage track: `issues` is `none` when it failed, and
`ceiling` is whether that was at its page ceiling. -/
structure TrackRead where
  issues : Option (List Issue)
  ceiling : Bool := false

/-- `CEILING_RETRY_S` -/
def ceilingRetry : Int := seconds 3600

/-- What a triage pass meets before its loop: the clock, the candidates' own read and the
issues this tick's scan has labelled. -/
structure TriageWorld where
  clock : Datetime
  candidates : Awaited (Except GitHubError (List Issue))
  autoLabelled : List Nat

namespace Orchestrator

variable {py : Py} (settings : Settings py)

/-- A filing or a hand-over for one issue, and the stop that may be requested meanwhile. -/
def filing {α : Type} (number : Nat) (w : World) (program : Clocks → Filing α) : Pass (Except GitHubError α) := do
  let answer ← onIssue number w.fates (program { now := w.now, clock := w.clock })
  await w.filed
  return answer

/-- A filing whose answer the caller does not read. -/
def fileFor {α : Type} (number : Nat) (w : World) (program : Clocks → Filing α) : Pass Unit := do
  let _ ← filing number w program

section Owed

/-- `_retry_pending_verdicts`: one try for each verdict owed, the triage ones first. -/
def retryPendingVerdicts (triage reviews : Nat → World) : Pass Unit := do
  let o ← Remote.get
  passLoop (fun number w => fileFor number w (retryPendingVerdict py settings.toFilingConfig))
    (o.workers.keys.reverse.filter fun number => (o.workerOf number).triagePending.isSome) triage
  let o ← Remote.get
  passLoop (fun number w => fileFor number w (retryPendingReview py settings.toFilingConfig))
    (o.workers.keys.reverse.filter fun number => (o.workerOf number).parentPending.isSome) reviews

/-- Forget each owed note whose issue is neither a candidate nor a watched parent. -/
def dropOwedNotesTakenBack (candidates : List Nat) : Pass Unit :=
  .modify fun o =>
    { o with workers := o.workers.mapValues fun number w =>
      if number ∈ candidates || w.triagePending.isSome || w.parentPending.isSome ||
          w.parent.any ParentRecord.watched then w
      else { w with triageEscape := none, parentHandover := none } }

/-- A kept parent hand-over, written again. -/
def rewriteNote (issue : Issue) (note : ParentHandOver) (w : World) : Pass Unit :=
  fileFor issue.number w (handOverParent py settings.toFilingConfig issue note.title note.reason note.wayBack)

end Owed

section Start

/-- A run of the triage track: its account and its start. -/
def startTriageRun (issue : Issue) (kind : RunKind) (attempt : Nat) (stepsSeen : List Nat)
    (before : Pass Unit) (w : World) : Pass Bool := do
  let (account, ready) ← bindAccount settings w.registry w.key
  if !ready then return false
  else do
    before
    startRun settings issue {
      issue
      attempt
      runId := w.runId
      startedMono := w.clock
      account
      kind
      stepsSeen } w.now
    return true

/-- `triage-todo` on a split parent: its review now, or a note to wait. -/
def dispatchRequestedReview (issue : Issue) (steps : List SubIssue) (attempt : Nat) (w : World) : Pass Bool :=
  if steps.any fun step => step.state = .opened then do
    fileFor issue.number w fun clocks => reviewWaiting py settings.toFilingConfig issue clocks steps
    return false
  else
    startTriageRun settings issue .parentReview attempt (steps.map SubIssue.number)
      (fileFor issue.number w fun _ => recordParent {}) w

/-- Start one triage run, or a split parent's review. -/
def dispatchTriageOne (issue : Issue) (attempt : Nat) (w : World) : Pass Bool := do
  match ← await w.approval with
  | none => return false
  | some (.unapproved verdict) => do
    fileFor issue.number w (handBackUnapproved py settings.toFilingConfig issue verdict.reason)
    return false
  | some (.approved _) =>
    if issue.subIssueCount > 0 then
      match ← await w.subIssues with
      | .error _ => return false
      | .ok [] => startTriageRun settings issue .triage attempt [] (pure ()) w
      | .ok (step :: steps) => dispatchRequestedReview settings issue (step :: steps) attempt w
    else startTriageRun settings issue .triage attempt [] (pure ()) w

/-- Start one parent review on `steps`. -/
def dispatchParentReviewOne (issue : Issue) (steps : List Nat) (attempt : Nat) (w : World) : Pass Bool := do
  match ← await w.approval with
  | none => return false
  | some (.unapproved verdict) => do
    fileFor issue.number w (handOverUnapprovedParent py settings.toFilingConfig issue verdict.reason)
    return false
  | some (.approved _) => startTriageRun settings issue .parentReview attempt steps (pure ()) w

end Start

section Candidates

/-- The candidates' own read; past its page ceiling it waits before the next. -/
def fetchCandidates (t : TriageWorld) : Pass (Option (List Issue)) := do
  match ← await t.candidates with
  | .ok issues => return some issues
  | .error error => do
    .when error.ceiling (.modify fun o => { o with candidatesNotBefore := some (t.clock + ceilingRetry) })
    return none

/-- The triage pass's issues: the tick's read of the track, or a read of its own. -/
def triageIssues (track : Option TrackRead) (t : TriageWorld) : Pass (Option (List Issue)) := do
  let o ← Remote.get
  let owesNote := o.workers.keys.any fun number =>
    (o.workerOf number).triageEscape.isSome || (o.workerOf number).parentHandover.isSome
  match track with
  | some { issues := some issues, .. } => return some issues
  | some { issues := none, ceiling := false } => return none
  | _ =>
    if o.slots settings = 0 && !owesNote then return none
    else if o.candidatesNotBefore.any fun moment => t.clock < moment then return none
    else fetchCandidates t

/-- A candidate the triage pass looks at now. -/
def triageReady (autoLabelled : List Nat) (o : Orchestrator) (issue : Issue) : Bool :=
  isTriageCandidate py issue settings.labels && !autoLabelled.contains issue.number &&
    !(decide (issue.number ∈ o.running) || (o.workerOf issue.number).triagePending.isSome ||
      (o.workerOf issue.number).parentPending.isSome)

/-- The gate's turn for an issue of the triage track: `hand` hands back one over its budget, and
`start` starts the run on its attempt. -/
def admitTurn {α : Type} (issue : Issue) (kind : RunKind) (hand : String → Clocks → Filing α)
    (start : Nat → Pass Bool) (w : World) : Pass Turn := do
  match ← admits settings issue kind none with
  | .error refused =>
    if refused.kind.halts then return .halted
    else do
      .when (refused.kind = .spend) (fileFor issue.number w (hand refused.reason))
      return .passed
  | .ok _ => do
    let o ← Remote.get
    let dispatched ← start ((o.workerOf issue.number).triageFailures.getD 0 + 1)
    return if dispatched then .dispatched else .passed

/-- The gate's turn for one triage candidate. -/
def admitTriage (issue : Issue) (w : World) : Pass Turn :=
  admitTurn settings issue .triage (handBackOverBudget py settings.toFilingConfig issue)
    (fun attempt => dispatchTriageOne settings issue attempt w) w

/-- The triage pass's turn for one issue: what is owed on it first. -/
def triageTurn (autoLabelled : List Nat) (issue : Issue) (w : World) : Pass Turn := do
  let o ← Remote.get
  if !triageReady settings autoLabelled o issue then return .passed
  else match (o.workerOf issue.number).parentHandover with
  | some note => do
    rewriteNote settings issue note w
    return .passed
  | none =>
    if (o.workerOf issue.number).triageNotBefore.any fun moment => w.clock < moment then return .passed
    else match (o.workerOf issue.number).triageEscape with
    | some reason => do
      fileFor issue.number w (triageGiveUp py settings.toFilingConfig issue reason)
      return .passed
    | none => admitTriage settings issue w

/-- `_dispatch_triage` -/
def dispatchTriage (track : Option TrackRead) (t : TriageWorld) (worlds : Nat → World) : Pass Nat := do
  match ← triageIssues settings track t with
  | none => return 0
  | some issues => do
    dropOwedNotesTakenBack
      ((issues.filter fun issue => isTriageCandidate py issue settings.labels).map Issue.number)
    dispatchLoop (triageTurn settings t.autoLabelled) issues worlds

end Candidates

section Watch

/-- What the watch can act on this tick: the notes owed, and the parents due with their steps. -/
structure WatchList where
  notes : List Nat := []
  due : List (Nat × List Nat) := []

/-- The watch's look at one parent; `busy` was read when the watch began. -/
def watchParent (answers : List ParentAnswer) (clock : Datetime) (busy : Nat → Bool) (list : WatchList)
    (number : Nat) : Pass WatchList := do
  let o ← Remote.get
  match answerFor answers number with
  | some (.error _) => return list
  | none => do
    let _ ← onIssue number (fun _ => .answered) parentFinished
    return list
  | some (.ok steps) =>
    if steps.state = .closed then do
      let _ ← onIssue number (fun _ => .answered) parentFinished
      return list
    else if busy number then return list
    else if (o.workerOf number).parentHandover.isSome then return { list with notes := list.notes ++ [number] }
    else if parentReviewDue py steps settings.labels &&
        !((o.workerOf number).triageNotBefore.any fun moment => clock < moment) then
      return { list with due := list.due ++ [(number, steps.subIssues.map SubIssue.number)] }
    else return list

/-- The watch's turn for a note owed. -/
def watchNote (issues : List Issue) (number : Nat) (w : World) : Pass Unit := do
  let o ← Remote.get
  match issues.find? fun issue => issue.number = number, (o.workerOf number).parentHandover with
  | some issue, some note => rewriteNote settings issue note w
  | _, _ => pure ()

/-- The gate's turn for one due parent. -/
def admitReview (issue : Issue) (seen : List Nat) (w : World) : Pass Turn :=
  admitTurn settings issue .parentReview (handOverParentOverBudget py settings.toFilingConfig issue)
    (fun attempt => dispatchParentReviewOne settings issue seen attempt w) w

/-- The watch's turn for a due parent: its cap before the gate. -/
def watchDue (issues : List Issue) (due : Nat × List Nat) (w : World) : Pass Turn := do
  let o ← Remote.get
  match issues.find? fun issue => issue.number = due.1 with
  | none => return .passed
  | some issue =>
    if settings.maxParentReviews ≤ ((o.workerOf due.1).parent.getD {}).reviews then do
      fileFor issue.number w fun clocks =>
        handOverReviewLimit py settings.toFilingConfig issue clocks settings.maxParentReviews
      return .passed
    else admitReview settings issue due.2 w

/-- What the watch meets: the clock, and the parents' issues it asks for. -/
structure WatchWorld where
  clock : Datetime
  issues : List Nat → Awaited (Except GitHubError (List Issue))

/-- `_dispatch_parent_reviews` -/
def dispatchParentReviews (parents : ParentRead) (watch : WatchWorld) (notes reviews : Nat → World) :
    Pass Nat := do
  match parents.steps with
  | none => return 0
  | some answers => do
    let o ← Remote.get
    let list ← parents.watched.foldlM (watchParent settings answers watch.clock o.parentBusy) {}
    if list.notes.isEmpty && list.due.isEmpty then return 0
    else match ← await (watch.issues (list.notes ++ list.due.map Prod.fst)) with
    | .error _ => return 0
    | .ok issues => do
      passLoop (watchNote settings issues) list.notes notes
      dispatchLoop (watchDue settings issues) list.due reviews

end Watch

end Orchestrator
end Issuebot
