import Issuebot.Orchestrator.ParentReview

/-!
# Filing what is owed, and handing back what cannot be filed

`fileVerdict` and `fileParentReview` make one attempt each: a fresh read says whether the
verdict is still owed, and the filing follows. `retryPendingVerdict` and
`retryPendingReview` are one pass of the tick over the entry of one issue, with the
hand-back once the retries are spent. Times are what the clocks answer during an attempt.
-/

namespace Issuebot
set_option autoImplicit false
open Logic

/-- What the worker's clocks answer during an attempt: `now` on the wall, `clock` the
monotonic one. -/
structure Clocks where
  now : Datetime
  clock : Datetime

/-- `TRIAGE_DISCARD_DELAY_S` -/
def triageDiscardDelay : Int := seconds 600

/-- `MAX_HOLD_ERROR_CHARS` -/
def maxHoldErrorChars : Nat := 300

/-- `_clipped` -/
def clipped (text : String) (limit : Nat) : String :=
  if text.length ≤ limit then text
  else
    let kept := (text.toList.take (limit - 1)).reverse.dropWhile Char.isWhitespace
    String.ofList kept.reverse ++ "…"

section Chain

def forgetTriageChain : Filing Unit :=
  worker fun w =>
    { w with triageFailures := none, triageNotBefore := none, triageEscape := none, parentHandover := none }

def scheduleTriageDiscard (clock : Datetime) : Filing Unit :=
  worker fun w => { w with triageDiscard := some (clock + triageDiscardDelay) }

def recordParent (record : ParentRecord) : Filing Unit := do
  worker fun w => { w with parent := some record }
  publish record.stateEvent

end Chain

section HandBack

variable (py : Py) (config : FilingConfig py)

inductive EscapeOutcome where
  | applied
  | skipped
  | failed
  deriving DecidableEq, Repr

/-- The note of a hand-back is best effort. -/
def handBackNote (event : String) (title reason wayBack : String) (now : Datetime) : Filing Unit := do
  match ← (comment .handBackComment
      ("### Issuebot " ++ title ++ " (" ++ utcStamp now ++ ")\n\n" ++ reason ++ "\n\n" ++ wayBack)).attempt with
  | .error error => log (.handBackNoteFailed event error.text)
  | .ok () => pure ()

/-- `_hand_back`: the label write, a plain comment, then the events. -/
def handBack (event : String) (number : Nat) (title reason wayBack : String) (fromLabel toLabel : Option String)
    (add remove : List String) (now : Datetime) (blocked : Bool) : Filing EscapeOutcome := do
  match ← (editLabels py .handBackLabel number add remove).attempt with
  | .error error => do
    log (.handBackFailed event error.text)
    return .failed
  | .ok () => do
    handBackNote event title reason wayBack now
    -- a parent already wearing `triage_complete` moves no label
    .when (toLabel.isNone || fromLabel ≠ toLabel) (publish (.stateChanged fromLabel toLabel none))
    .when blocked (publish (.blocked reason))
    log (.handBackApplied event reason)
    return .applied

def triageEscape (issue : Issue) (title reason wayBack : String) (now : Datetime) : Filing EscapeOutcome :=
  handBack py "triage_escape" issue.number title reason wayBack (some config.labels.triageTodo) none []
    [config.labels.triageTodo] now true

def parentHandOver (issue : Issue) (title reason wayBack : String) (now : Datetime) (blocked : Bool) :
    Filing EscapeOutcome :=
  handBack py "parent_hand_over" issue.number title reason wayBack (some (movedFrom py config issue))
    (some config.labels.triageComplete) [config.labels.triageComplete] [config.labels.triageTodo] now blocked

/-- `_hand_over_parent`: one that landed is recorded and ends the triage chain, and one GitHub
refused is kept to write again. -/
def handOverParent (issue : Issue) (title reason wayBack : String) (clocks : Clocks) :
    Filing EscapeOutcome := do
  let reason := config.scrub reason
  let outcome ← parentHandOver py config issue title reason wayBack clocks.now true
  if outcome = .failed then do
    worker fun w => { w with parentHandover := some { title, reason, wayBack } }
    return outcome
  else do
    worker fun w => { w with blocked := w.blocked + 1 }
    let s ← Remote.get
    recordParent { s.worker.parent.getD {} with handedOver := some reason }
    forgetTriageChain
    return outcome

/-- `_triage_hand_back`: an issue with sub-issues is handed over as a parent. -/
def triageHandBack (issue : Issue) (title reason wayBack : String) (clocks : Clocks) :
    Filing EscapeOutcome := do
  if issue.subIssueCount > 0 then
    handOverParent py config issue title reason wayBack clocks
  else do
    let outcome ← triageEscape py config issue title (config.scrub reason) wayBack clocks.now
    .when (outcome = .applied) do
      worker fun w => { w with blocked := w.blocked + 1 }
      forgetTriageChain
    return outcome

end HandBack

section Triage

variable (py : Py) (config : FilingConfig py)

/-- The reason a triage verdict is dropped for, where it is: the branches of `_verdict_owed`
after the read. -/
def verdictDiscard (pending : PendingVerdict) (current : Option Issue) : Except DiscardReason Issue :=
  match current with
  | none => .error .missing
  | some current =>
    if isTriageCandidate py current config.labels then .ok current
    else if current.githubState ≠ .opened then .error .closed
    else if pending.swapped then .ok current
    else if ¬ current.stateLabels.isEmpty then .error .stateLabel
    else .error .triageTodoRemoved

/-- `_verdict_owed` -/
def verdictOwed (pending : PendingVerdict) : Filing (Option Issue) := do
  let found ← fetchIssue config .fetchIssue
  match verdictDiscard py config pending (found.find? fun issue => issue.number = pending.issue.number) with
  | .ok current => return some current
  | .error reason => do
    .when (reason = .closed || reason = .missing) forgetTriageChain
    log (.triageVerdictDiscarded pending.runId reason)
    return none

/-- The attempt inside `_file_verdict`: the issue as it stands where the verdict is owed, filed. -/
def fileOwedVerdict (pending : PendingVerdict) (now : Datetime) : Filing (Option Issue) := do
  match ← verdictOwed py config pending with
  | none => return none
  | some current => do
    applyVerdict py config current pending.verdict pending.runId pending.attempt pending.turns
      pending.cost now pending.swapped
    return some current

/-- What a filed verdict makes of the parent's record: a `split` starts a watched parent's, and
a `fits` on a former split ends the watch. -/
def recordTriaged (verdict : TriageOutcome) (known : Option ParentRecord) : Filing Unit :=
  match verdict, known with
  | .split, _ => recordParent {}
  | .fits, some record => .when (!record.finished) (recordParent { record with finished := true })
  | .fits, none => pure ()

/-- A verdict that was filed ends the issue's triage chain. -/
def verdictFiled (pending : PendingVerdict) : Filing Unit := do
  forgetTriageChain
  let s ← Remote.get
  recordTriaged pending.verdict.verdict s.worker.parent
  log (.triageFiled pending.runId pending.verdict.verdict pending.verdict.subIssues.length)

/-- `_file_verdict`: `none` once the verdict landed or is owed no longer, else GitHub's error. -/
def fileVerdict (pending : PendingVerdict) (clocks : Clocks) : Filing (Option GitHubError) := do
  worker fun w => { w with noted := pending.swapped }
  match ← (fileOwedVerdict py config pending clocks.now).attempt with
  | .error error => do
    log (.triageFileFailed pending.runId pending.tries error.text)
    worker fun w => { w with triagePending := some { pending with swapped := w.noted } }
    return some error
  | .ok current => do
    worker fun w => { w with triagePending := none }
    scheduleTriageDiscard clocks.clock
    .when current.isSome (verdictFiled pending)
    return none

def triageWayBack (labels : GitHubLabels py) (issue : Issue) : String :=
  if issue.subIssueCount > 0 then
    "Unlink the sub-issues it filed from this issue first, then add `" ++ labels.triageTodo ++
      "` again to triage it afresh. Meanwhile `" ++ labels.triageComplete ++
      "` stays on, so the steps it filed stay held."
  else
    "Unlink any sub-issues it filed from this issue first, then add `" ++ labels.triageTodo ++
      "` again to triage it afresh."

/-- The issue a verdict is handed back for: a split that filed some steps first is handed over
as the parent it now is. -/
def handBackIssue (pending : PendingVerdict) : Filing (Except GitHubError Issue) :=
  match pending.verdict.verdict with
  | .fits => pure (.ok pending.issue)
  | .split => do
    match ← (fetchIssue config .handBackFetch).attempt with
    | .error error => return .error error
    | .ok found =>
      return .ok ((found.find? fun issue => issue.number = pending.issue.number).getD pending.issue)

/-- The hand-back of a verdict whose retries are spent. -/
def handBackVerdict (pending : PendingVerdict) (failure : GitHubError) (clocks : Clocks) : Filing Unit := do
  match ← handBackIssue py config pending with
  | .error error => log (.triageHandBackReadFailed error.text)
  | .ok issue => do
    let outcome ← triageHandBack py config issue "triage not filed"
      ("issuebot could not file the triage verdict on GitHub: " ++ clipped failure.text maxHoldErrorChars)
      (triageWayBack py config.labels issue) clocks
    if outcome ≠ .failed then do
      worker fun w => { w with triagePending := none }
      scheduleTriageDiscard clocks.clock
    else
      -- the kept verdict owns the retry, not a parent hand-over owed for it
      worker fun w => { w with parentHandover := none }

/-- A failed retry is counted, and the last one handed back. -/
def countVerdictFailure (kept : PendingVerdict) (failure : GitHubError) (clocks : Clocks) : Filing Unit := do
  let kept := { kept with tries := kept.tries + 1 }
  worker fun w => { w with triagePending := some kept }
  .when (config.maxAttempts ≤ kept.tries) (handBackVerdict py config kept failure clocks)

/-- One pass of `_retry_pending_verdicts` over the issue's triage entry. -/
def retryPendingVerdict (clocks : Clocks) : Filing Unit := do
  let s ← Remote.get
  match s.worker.triagePending with
  | none => pure ()
  | some pending => do
    match ← fileVerdict py config pending clocks with
    | none => pure ()
    | some failure => do
      -- the entry the failed try stored, with its swap if that landed
      let s ← Remote.get
      match s.worker.triagePending with
      | none => pure ()
      | some kept => countVerdictFailure py config kept failure clocks

end Triage

section Review

variable (py : Py) (config : FilingConfig py)

/-- `parent_steps` of the parent: a lost answer is one whose record came back malformed. -/
def parentSteps : Filing (Except UnreadableParent ParentSteps) := fun F s =>
  match F .parentSteps with
  | .answered => (.ok (.ok s.family.parentSteps), s)
  | .refused error => (.error error, s)
  | .lost error => (.ok (.error ⟨s.family.base.number, error.message⟩), s)

/-- The branches of `_parent_review_owed` before the steps are read: what is owed whatever the
steps are, what is dropped, and `none` where the steps decide. -/
def reviewDiscard (pending : PendingParentReview) (current : Option Issue) :
    Except DiscardReason (Issue × Bool) :=
  let own := if pending.verdict.verdict = .met then [py.lower config.labels.complete] else []
  match current with
  | none => .error .missing
  | some current =>
    if pending.moved then .ok (current, true)
    else if current.githubState ≠ .opened then
      if ¬ own.isEmpty ∧ own.all fun name => current.stateLabels.contains name then .ok (current, true)
      else .error .closed
    else if current.stateLabels.any fun name => !own.contains name then .error .stateLabel
    else if ¬ [py.lower config.labels.triageTodo, py.lower config.labels.triageComplete].any
        fun name => current.labels.contains name then .error .triageLabelsRemoved
    else .ok (current, false)

/-- The end of `_parent_review_owed` for a verdict owed no longer. -/
def discardReview (pending : PendingParentReview) (reason : DiscardReason) : Filing (Option Issue) := do
  .when (reason = .closed || reason = .missing) forgetTriageChain
  log (.parentReviewDiscarded pending.runId reason)
  return none

/-- The steps a verdict's filing writes: a gap past the gap limit is handed over and writes none. -/
def PendingParentReview.filing (pending : PendingParentReview) : List SubIssueDraft :=
  if pending.pastGapLimit then [] else pending.verdict.subIssues

/-- `_parent_review_owed` -/
def parentReviewOwed (pending : PendingParentReview) : Filing (Option Issue) := do
  let found ← fetchIssue config .fetchIssue
  match reviewDiscard py config pending (found.find? fun issue => issue.number = pending.issue.number) with
  | .error reason => discardReview pending reason
  | .ok (current, true) => return some current
  | .ok (current, false) => do
    match ← parentSteps with
    | .error unreadable => .raise { category := .response, message := unreadable.reason }
    | .ok steps =>
      if stepsAsSeen py steps pending.seen pending.filing then return some current
      else discardReview pending .stepsChanged

/-- `_hand_over_at_gap_limit` -/
def handOverAtGapLimit (issue : Issue) (pending : PendingParentReview) (clocks : Clocks) : Filing Unit := do
  let rounds := pending.counts.maxGapRounds
  let found :=
    if rounds ≠ 0 then "The review found gaps again after " ++ plural rounds "gap round"
    else "The review found gaps, and `triage.max_gap_rounds` is 0"
  let drafts := "\n".intercalate (pending.verdict.subIssues.map fun draft => "- " ++ draft.title)
  let _ ← handOverParent py config issue "parent review gap limit" (found ++ ", so it filed nothing.")
    ("What it found: " ++ pending.verdict.summary ++ "\n\nWhat it would have filed:\n" ++ drafts ++
      "\n\nFile what is still needed yourself. issuebot will not review this issue again until `" ++
      config.labels.triageTodo ++ "` is added, which reviews it afresh with its rounds reset.") clocks
  let s ← Remote.get
  let record := s.worker.parent.getD {}
  recordParent { record with reviews := record.reviews + 1 }

/-- The attempt inside `_file_parent_review`: the parent as it stands where the verdict is owed,
filed unless it is past the gap limit. -/
def fileOwedReview (pending : PendingParentReview) (now : Datetime) : Filing (Option Issue) := do
  match ← parentReviewOwed py config pending with
  | none => return none
  | some current => do
    .when (!pending.pastGapLimit) do
      worker fun w => { w with reported := w.reported ++ [current] }
      applyParentReview py config current pending.verdict pending.seen pending.counts pending.runId
        pending.attempt pending.turns pending.cost now pending.moved
    return some current

/-- A review that was filed: its record, and the end of its triage chain. -/
def reviewFiled (pending : PendingParentReview) : Filing Unit := do
  recordParent {
    reviews := pending.counts.review
    gapRounds := pending.counts.gapRound
    finished := decide (pending.verdict.verdict = .met) }
  forgetTriageChain
  log (.parentReviewFiled pending.runId pending.verdict.verdict pending.verdict.subIssues.length
    pending.counts.review pending.counts.gapRound)

/-- `_file_parent_review` -/
def fileParentReview (pending : PendingParentReview) (clocks : Clocks) : Filing (Option GitHubError) := do
  worker fun w => { w with noted := pending.moved }
  match ← (fileOwedReview py config pending clocks.now).attempt with
  | .error error => do
    log (.parentReviewFileFailed pending.runId pending.tries error.text)
    worker fun w => { w with parentPending := some { pending with moved := w.noted } }
    return some error
  | .ok current => do
    worker fun w => { w with parentPending := none }
    scheduleTriageDiscard clocks.clock
    match current with
    | none => return none
    | some current => do
      if pending.pastGapLimit then handOverAtGapLimit py config current pending clocks
      else reviewFiled pending
      return none

/-- The hand-over of a review whose retries are spent. -/
def handBackReview (pending : PendingParentReview) (failure : GitHubError) (clocks : Clocks) : Filing Unit := do
  let outcome ← handOverParent py config pending.issue "parent review not filed"
    ("issuebot could not file the parent review's verdict on GitHub: " ++
      clipped failure.text maxHoldErrorChars)
    ("Unlink any sub-issues this review filed from this issue, then add `" ++ config.labels.triageTodo ++
      "` again.") clocks
  .when (outcome ≠ .failed) do
    worker fun w => { w with parentPending := none }
    scheduleTriageDiscard clocks.clock

/-- A failed retry is counted, and the last one handed back. -/
def countReviewFailure (kept : PendingParentReview) (failure : GitHubError) (clocks : Clocks) :
    Filing Unit := do
  let kept := { kept with tries := kept.tries + 1 }
  worker fun w => { w with parentPending := some kept }
  .when (config.maxAttempts ≤ kept.tries) (handBackReview py config kept failure clocks)

/-- One pass of `_retry_pending_verdicts` over the issue's parent-review entry. -/
def retryPendingReview (clocks : Clocks) : Filing Unit := do
  let s ← Remote.get
  match s.worker.parentPending with
  | none => pure ()
  | some pending => do
    match ← fileParentReview py config pending clocks with
    | none => pure ()
    | some failure => do
      let s ← Remote.get
      match s.worker.parentPending with
      | none => pure ()
      | some kept => countReviewFailure py config kept failure clocks

end Review
end Issuebot
