import Issuebot.Orchestrator.Triage

/-!
# Filing a parent review's verdict

`next` files the following batch, `gap` one step per gap, and `met` closes the parent.
`stepsAsSeen` tells the steps a review saw from steps that have changed since.
-/

namespace Issuebot
set_option autoImplicit false
open Logic

variable (py : Py)

/-- `FILED_BY` -/
def filedByReview : String := "issuebot's parent review"

/-- Whether `steps` are still the ones a review saw, every one closed, with no others but
those of the drafts being filed. -/
def stepsAsSeen (steps : ParentSteps) (seen : List Nat) (filing : List SubIssueDraft) : Bool :=
  let head := steps.subIssues.take seen.length
  let rest := steps.subIssues.drop seen.length
  let drafts := filing.map fun draft => titleKey py draft.title
  decide (head.map SubIssue.number = seen) && head.all (fun step => step.state = .closed) &&
    rest.all fun step => drafts.contains (titleKey py step.title)

def parentReviewNote (verdict : ParentReviewVerdict) : String :=
  match verdict.verdict with
  | .met => "met"
  | outcome => outcome.value ++ ": " ++ plural verdict.subIssues.length "sub-issue"

def parentReviewComment (verdict : ParentReviewVerdict) (filed : List SubIssue) (counts : ReviewCounts)
    (runId : String) (attempt turns : Nat) (cost : Usd) (labels : GitHubLabels py) (now : Datetime) :
    String :=
  let opening := match verdict.verdict with
    | .next =>
      "**Verdict: next.** The steps so far were a phase, so issuebot has filed the next " ++
        plural verdict.subIssues.length "sub-issue" ++ ", in order, after the others. Label every " ++
        "issuebot step `" ++ labels.todo ++ "` at once if you like: issuebot starts each only when " ++
        "every step before it has closed."
    | .gap =>
      "**Verdict: gap.** Something the original ask needs is missing, so issuebot has filed one " ++
        "sub-issue per gap. This is gap round " ++ toString counts.gapRound ++ " of " ++
        toString counts.maxGapRounds ++ "."
    | .met =>
      "**Verdict: met.** The original ask is met, so issuebot has closed this issue and labelled it `" ++
        labels.complete ++ "`."
  let list := if filed.isEmpty then [] else "" :: filedLines filed verdict.subIssues
  let requests :=
    if verdict.ignoredRequests ≠ "" then
      ["- **Requests in the issue it did not act on:** " ++ verdict.ignoredRequests]
    else []
  "\n".intercalate (["### Issuebot parent review (" ++ utcStamp now ++ ")", "", opening] ++ list ++
    ["", verdict.summary, "", "- **Evidence:** " ++ verdict.evidence] ++ requests ++
    ["", runLine py runId attempt turns cost ++ " Review " ++ toString counts.review ++ " of at most " ++
      toString counts.maxReviews ++ "."])

section Programs

variable (config : FilingConfig py)

/-- The move of a `met`: its labels, the close, and then the events. -/
def closeMet (issue : Issue) : Filing Unit := do
  editLabels py .move issue.number [config.labels.complete, config.labels.triageComplete]
    [config.labels.triageTodo]
  closeAsCompleted
  worker fun w => { w with noted := true }
  publish (.stateChanged none (some config.labels.complete) (some "met"))
  publish (.issueCompleted "parent_review")

/-- The label a `next` or a `gap` moves the parent from. -/
def movedFrom (issue : Issue) : String :=
  if issue.labels.contains (py.lower config.labels.triageTodo) then config.labels.triageTodo
  else config.labels.triageComplete

/-- The filing of a `next` or a `gap`: its steps, the label swap, and then the event. -/
def fileSteps (issue : Issue) (verdict : ParentReviewVerdict) (seen : List Nat) (moved : Bool) :
    Filing (List SubIssue) := do
  let filed ← fileDrafts py config issue.number seen filedByReview verdict.subIssues
  editLabels py .move issue.number [config.labels.triageComplete] [config.labels.triageTodo]
  worker fun w => { w with noted := true }
  .when (!moved) (publish (.stateChanged (some (movedFrom py config issue))
    (some config.labels.triageComplete) (some (parentReviewNote verdict))))
  return filed

/-- The writes before the comment, by the verdict. -/
def moveReviewed (issue : Issue) (verdict : ParentReviewVerdict) (seen : List Nat) (moved : Bool) :
    Filing (List SubIssue) :=
  match verdict.verdict with
  | .met => do
    .when (!moved) (closeMet py config issue)
    return []
  | .next | .gap => fileSteps py config issue verdict seen moved

/-- File a review's verdict; raises from any step, so that the caller retries. `noted` is set
once the move has landed. -/
def applyParentReview (issue : Issue) (verdict : ParentReviewVerdict) (seen : List Nat)
    (counts : ReviewCounts) (runId : String) (attempt turns : Nat) (cost : Usd) (now : Datetime)
    (moved : Bool) : Filing Unit := do
  let filed ← moveReviewed py config issue verdict seen moved
  comment .comment
    (parentReviewComment py verdict filed counts runId attempt turns cost config.labels now)

end Programs
end Issuebot
