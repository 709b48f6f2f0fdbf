import Issuebot.Orchestrator.TriagePasses

/-!
# A worker's exit

`handleWorkerExit` settles the slot and the spend, which every run shares, and then what the
end of the run means: for a work run a retry, an escape, a terminal finish or a release; for
the triage track a verdict filed or a failure on its own chain.
-/

namespace Issuebot
set_option autoImplicit false
open Logic

/-- The stops that release the issue, whatever the run came to. -/
def StopCause.releases : StopCause → Bool
  | .moved | .missing | .shutdown | .closed => true
  | .stalled => false

/-- `f"{value}"` of an optional text. -/
def printed (text : Option String) : String := text.getD "None"

/-- `f"{result.error_category}: {result.error}"` -/
def RunResult.failure (result : RunResult) : String :=
  printed (result.errorCategory.map AgentErrorCategory.value) ++ ": " ++ printed result.error

/-- `_triage_failure`: what a session that reached no verdict failed with. -/
def triageFailure (entry : RunningEntry) (ending : RunEnd) : String :=
  if entry.stopCause = some .stalled then "stalled: " ++ printed entry.stopDetail
  else match ending with
  | .cancelled => "worker task cancelled"
  | .crashed error => "worker crashed: " ++ error
  | .returned result =>
    if result.errorCategory.isSome then result.failure
    else "the session returned no verdict in " ++ plural result.turns "turn"

/-- What an exit meets: what the parsers make of the session's structured output, and the rest. -/
structure ExitWorld where
  verdict : Except String TriageVerdict
  review : Except String ParentReviewVerdict
  world : World

section TriageFailed

variable (py : Py) (config : FilingConfig py) (entry : RunningEntry)

/-- One more failure on the issue's triage chain: back off, or hand it back. -/
def triageFailed (maxRetryBackoffMs : Nat) (error : String) (clocks : Clocks) : Filing Unit := do
  let error := config.scrub error
  let s ← Remote.get
  let failures := s.worker.triageFailures.getD 0 + 1
  scheduleTriageDiscard clocks.clock
  if failures < config.maxAttempts then
    worker fun w =>
      { w with
        triageFailures := some failures
        triageNotBefore := some (clocks.clock + milliseconds (backoffMs failures maxRetryBackoffMs)) }
  else do
    forgetTriageChain
    if entry.kind = .parentReview then do
      let _ ← handOverFailedReview py config entry.issue
        ("Parent review failed " ++ plural failures "time" ++ "; the last: " ++ error) clocks
    else
      triageGiveUp py config entry.issue
        ("Triage failed " ++ plural failures "time" ++ "; the last: " ++ error) clocks

/-- A triage run's verdict, filed. -/
def fileTriage (verdict : TriageVerdict) (result : RunResult) (clocks : Clocks) : Filing Unit := do
  let _ ← fileVerdict py config {
    issue := entry.issue
    verdict
    runId := entry.runId
    attempt := entry.attempt
    turns := result.turns
    cost := result.costUsd } clocks

/-- A parent review's verdict, judged by the counts it would bring the parent to, and filed. -/
def fileReview (maxParentReviews maxGapRounds : Nat) (verdict : ParentReviewVerdict) (result : RunResult)
    (clocks : Clocks) : Filing Unit := do
  let s ← Remote.get
  let record := s.worker.parent.getD {}
  let _ ← fileParentReview py config {
    issue := entry.issue
    verdict
    seen := entry.stepsSeen
    counts := {
      review := record.reviews + 1
      maxReviews := maxParentReviews
      gapRound := if verdict.verdict = .gap then record.gapRounds + 1 else record.gapRounds
      maxGapRounds }
    runId := entry.runId
    attempt := entry.attempt
    turns := result.turns
    cost := result.costUsd } clocks

end TriageFailed

namespace Orchestrator

variable {py : Py} (settings : Settings py)

section Holding

/-- `_hold_dispatch` -/
def holdDispatch (error : String) : Pass Unit :=
  changeHolds fun holds =>
    { holds with
      authReason := some ("claude authentication unavailable: " ++ error)
      authKey := none
      unreadableAuthProbes := 0 }

/-- `_hold_usage`: the reset moves out only, never in. -/
def holdUsage (error : String) (resetAt : Option Datetime) (window : Option String) (now : Datetime) :
    Pass Unit :=
  changeHolds fun holds =>
    let due := resetAt.getD (now + milliseconds settings.intervalMs)
    let out := match resetAt with
      | none => false
      | some reset => holds.usageUntil.all fun moment => decide (moment < reset)
    { holds with
      usageResetAt := if holds.usageResetAt.all fun moment => decide (moment < due) then some due else holds.usageResetAt
      usageUntil := if out then resetAt else holds.usageUntil
      usageWindow := if out then window else holds.usageWindow
      usageReason := some ("claude usage limit reached: " ++ error) }

/-- `_hold_for_auth_failure`; the error, for the caller. -/
def holdForAuthFailure (result : RunResult) : Pass String := do
  let error := orDefault result.error "claude could not authenticate"
  holdDispatch error
  return error

/-- `_hold_for_usage_limit`; the error, for the caller's requeue. -/
def holdForUsageLimit (result : RunResult) (now : Datetime) : Pass String := do
  let error := orDefault result.error "claude refused the turn: usage limit reached"
  holdUsage settings error result.usageResetAt result.usageWindow now
  return error

/-- How long until the refused window reopens, floored at one poll interval. -/
def usageDelayMs (o : Orchestrator) (now : Datetime) : Int :=
  match o.holds.usageResetAt with
  | none => settings.intervalMs
  | some reset => max ((reset - now).tdiv 1000) settings.intervalMs

end Holding

section Ends

/-- `_schedule` -/
def schedule (issue : Issue) (attempt : Nat) (kind : RetryKind) (delayMs : Int) (error : Option String)
    (escape : Option BlockedContext) (clock : Datetime) : Pass Unit :=
  queueRetry {
    issueNumber := issue.number
    attempt
    kind
    dueMono := clock + milliseconds delayMs
    error
    escape }

/-- `_escape` -/
def escape (entry : RunningEntry) (reason : String) (result : Option RunResult) (w : World) : Pass Unit := do
  let context : BlockedContext := {
    reason := settings.scrub reason
    runId := entry.runId
    attempt := entry.attempt
    turns := (result.map RunResult.turns).getD entry.turns
    logDir := (result.bind RunResult.logDir).map settings.scrub }
  let outcome ← await (w.blockedEscape context)
  recordEscape entry.issue.number outcome
  match outcome with
  | .applied => bumpBlocked
  | .failed =>
    schedule entry.issue 1 .escape (backoffMs 1 settings.maxRetryBackoffMs) (some "blocked escape failed")
      (some context) w.clock
  | .skipped => pure ()

/-- The chain counts one more failure; at the ceiling it escapes, and below it retries. -/
def afterFailure (entry : RunningEntry) (error : String) (result : Option RunResult) (w : World) :
    Pass Unit := do
  let error := settings.scrub error
  book (.counted entry.issue.number) fun ledger => ledger.failed entry.issue.number
  let o ← Remote.get
  let ledger := o.ledger.get entry.issue.number
  if settings.maxAttempts ≤ ledger.failures then
    escape settings entry (toString ledger.failures ++ " consecutive worker sessions failed; last error: " ++
      error ++ ".") result w
  else
    schedule entry.issue ledger.attempt .failure (backoffMs ledger.attempt settings.maxRetryBackoffMs)
      (some error) none w.clock

/-- Close the issue out, and drop what this worker remembered about it. -/
def finish (issue : Issue) (w : World) : Pass Unit := do
  let outcome ← await w.finish
  let _ ← onIssue issue.number (fun _ => .answered) forgetTriageChain
  .when (outcome ≠ .failed) (book (.finished issue.number) fun ledger => ledger.forget issue.number)
  .when (outcome = .complete || outcome = .noChange)
    (bump fun counters => { counters with issuesCompleted := counters.issuesCompleted + 1 })
  .when (outcome = .cancelled)
    (bump fun counters => { counters with issuesCancelled := counters.issuesCancelled + 1 })

end Ends

section Work

/-- A run that succeeded: an escape where it made no headway, else its continuation. -/
def workSucceeded (entry : RunningEntry) (result : RunResult) (w : World) : Pass Unit :=
  if result.stopReason = .maxTurns ∧ result.finalState = some .inProgress then
    escape settings entry ("Turn budget exhausted: " ++ plural result.turns "turn" ++ " in attempt " ++
      toString entry.attempt ++ " without reaching `" ++ settings.labels.review ++ "`.") (some result) w
  else if result.stopReason = .blocked ∧ result.finalState = some .inProgress then
    escape settings entry (orDefault result.blocker "the session reported a blocker") (some result) w
  else do
    book (.cleared entry.issue.number) fun ledger => ledger.cleared entry.issue.number
    let o ← Remote.get
    schedule entry.issue (o.ledger.get entry.issue.number).attempt .continuation continuationDelayMs none none w.clock

/-- `_auth_failed` -/
def authFailed (entry : RunningEntry) (result : RunResult) (w : World) : Pass Unit := do
  let error ← holdForAuthFailure result
  escape settings entry ("Claude could not authenticate in attempt " ++ toString entry.attempt ++
    ", so the run failed: " ++ error ++ ". The worker has stopped claiming issues and re-checks the credential " ++
    "every poll; it resumes on its own once `claude auth status` reports a login.") (some result) w

/-- `_usage_limited`: the issue waits on its own attempt, and the chain is untouched. -/
def usageLimited (entry : RunningEntry) (result : RunResult) (w : World) : Pass Unit := do
  let error ← holdForUsageLimit settings result w.now
  let o ← Remote.get
  schedule entry.issue entry.attempt (.hold .usage) (o.usageDelayMs settings w.now) (some error) none w.clock

/-- A run that failed, by its category. -/
def workFailed (entry : RunningEntry) (result : RunResult) (w : World) : Pass Unit :=
  if result.errorCategory = some .authFailed then authFailed settings entry result w
  else if result.errorCategory = some .usageLimited then usageLimited settings entry result w
  else if result.errorCategory = some .runTimeout ∧ result.finalState = some .inProgress then
    escape settings entry ("Wall clock exhausted: " ++ plural result.turns "turn" ++ " in attempt " ++
      toString entry.attempt ++ " without reaching `" ++ settings.labels.review ++ "` (" ++
      printed result.error ++ ").") (some result) w
  else afterFailure settings entry result.failure (some result) w

/-- The end of a work run. -/
def workExit (entry : RunningEntry) (ending : RunEnd) (w : World) : Pass Unit :=
  match entry.terminalIssue with
  | some issue => finish issue w
  | none =>
    if entry.stopCause.any StopCause.releases then pure ()
    else match ending with
    | .cancelled => pure ()
    | .crashed error =>
      afterFailure settings entry
        (if entry.stopCause = some .stalled then "stalled: " ++ printed entry.stopDetail
          else "worker crashed: " ++ error) none w
    | .returned result =>
      if entry.stopCause = some .stalled then
        afterFailure settings entry ("stalled: " ++ printed entry.stopDetail) (some result) w
      else if result.outcome = .succeeded then workSucceeded settings entry result w
      else workFailed settings entry result w

end Work

section Track

/-- An account-wide hold: no failure is counted, and the label is what brings the issue back. -/
def waitForHold (clocks : Clocks) : Filing Unit := do
  worker fun w => { w with triageNotBefore := some (clocks.clock + milliseconds settings.intervalMs) }
  scheduleTriageDiscard clocks.clock

/-- Whether a triage session's end is settled before any verdict is read; if so, settle it. -/
def triageRunSettled (number : Nat) (entry : RunningEntry) (ending : RunEnd) (w : World) : Pass Bool := do
  if entry.terminalIssue.isSome || entry.stopCause.any StopCause.releases then do
    fileFor number w fun clocks => do
      .when (entry.terminalIssue.isSome || entry.stopCause = some .closed || entry.stopCause = some .missing)
        forgetTriageChain
      scheduleTriageDiscard clocks.clock
    return true
  else match ending with
  | .returned result =>
    if result.errorCategory = some .usageLimited then do
      let _ ← holdForUsageLimit settings result w.now
      fileFor number w (waitForHold settings)
      return true
    else if result.errorCategory = some .authFailed then do
      let _ ← holdForAuthFailure result
      fileFor number w (waitForHold settings)
      return true
    else return false
  | _ => return false

/-- The verdict of a session of the triage track, filed, or its failure counted. -/
def settleVerdict {α : Type} (entry : RunningEntry) (ending : RunEnd) (verdict : Except String α)
    (file : α → RunResult → Clocks → Filing Unit) (w : World) : Pass Unit :=
  let failed (error : String) : Pass Unit :=
    fileFor entry.issue.number w (triageFailed py settings.toFilingConfig entry settings.maxRetryBackoffMs error)
  match ending with
  | .returned result =>
    if result.stopReason = .verdict then
      match verdict with
      | .error error => failed ("verdict refused: " ++ error)
      | .ok verdict => fileFor entry.issue.number w (file verdict result)
    else failed (triageFailure entry ending)
  | _ => failed (triageFailure entry ending)

/-- `_triage_exit` and `_parent_review_exit` -/
def triageExit (number : Nat) (entry : RunningEntry) (ending : RunEnd) (exit : ExitWorld) : Pass Unit := do
  let settled ← triageRunSettled settings number entry ending exit.world
  if settled then return ()
  else if entry.kind = .parentReview then
    settleVerdict settings entry ending exit.review
      (fileReview py settings.toFilingConfig entry settings.maxParentReviews settings.maxGapRounds) exit.world
  else
    settleVerdict settings entry ending exit.verdict (fileTriage py settings.toFilingConfig entry) exit.world

end Track

/-- The entry leaves `running`. -/
def popRunning (number : Nat) (entry : RunningEntry) : Pass Unit :=
  .modify fun o =>
    { o with
      running := o.running.erase number
      counters := { o.counters with runsEnded := o.counters.runsEnded + 1 }
      history := o.history ++ [.ended number entry] }

/-- What the issue cost, however the run ended: a release is still spend. -/
def charge (number : Nat) (ending : RunEnd) : Pass Unit :=
  match ending with
  | .returned result =>
    .modify fun o =>
      { o with
        totals := o.totals.add result
        ledger := o.ledger.spent number result.turns result.costUsd
        history := o.history ++ [.spent number result.turns result.costUsd] }
  | _ => pure ()

/-- What an exit does once its entry has left `running`: totals, then retry, escape or release. -/
def settleExit (number : Nat) (entry : RunningEntry) (ending : RunEnd) (exit : ExitWorld) : Pass Unit := do
  charge entry.issue.number ending
  if entry.kind = .work then workExit settings entry ending exit.world
  else triageExit settings number entry ending exit

/-- `handle_worker_exit`; an entry whose task still runs has no result to ask for. -/
def handleWorkerExit (number : Nat) (exit : ExitWorld) : Pass Unit := do
  let o ← Remote.get
  match o.running.lookup number with
  | none => pure ()
  | some entry => do
    popRunning number entry
    match entry.task with
    | none => pure ()
    | some ending => settleExit settings number entry ending exit

/-- A message taken from the queue. -/
def takeExit (exit : ExitWorld) : Pass Unit := do
  let o ← Remote.get
  match o.queue with
  | [] => pure ()
  | number :: queue => do
    .modify fun o => { o with queue }
    handleWorkerExit settings number exit

end Orchestrator
end Issuebot
