import Issuebot.Orchestrator.Pending
import Mathlib.Logic.Function.Basic

/-!
# Filing a triage verdict

The writes a triage session is not trusted to make. `fileDrafts` is the part a triage and a
parent review share: a draft is matched by title against the children the session did not
see, created where none matches, and labelled where it is an operator's. `applyVerdict`
swaps the parent's labels after that and posts the comment last.
-/

namespace Issuebot
set_option autoImplicit false
open Logic

variable (py : Py)

/-- Open, carrying `triage_todo` and no state label. -/
def isTriageCandidate (issue : Issue) (labels : GitHubLabels py) : Bool :=
  issue.githubState = .opened && issue.stateLabels.isEmpty && issue.labels.contains (py.lower labels.triageTodo)

/-- The first open step before `issue` in its parent's order, or `none` to run now. -/
def earlierOpenStep (issue : Issue) (steps : ParentSteps) (labels : GitHubLabels py) : Option Nat :=
  let triage := [py.lower labels.triageTodo, py.lower labels.triageComplete]
  if issue.parent ≠ some steps.number ∨ ¬ triage.any fun name => steps.labels.contains name then none
  else if issue.number ∉ steps.subIssues.map SubIssue.number then none
  else
    ((steps.subIssues.takeWhile fun step => step.number ≠ issue.number).find? fun step =>
      step.state = .opened).map SubIssue.number

section Texts

/-- The draft's body, with the operator preamble when it is one and the parent footer. -/
def subIssueBody (draft : SubIssueDraft) (parent step steps : Nat) (labels : GitHubLabels py)
    (filedBy : String) : String :=
  let preamble :=
    if draft.kind = .operator then
      "**Operator step.** Do this yourself, outside issuebot, then close this issue. " ++
        "issuebot does not run it, even with `" ++ labels.todo ++ "`.\n\n"
    else ""
  preamble ++ draft.body ++ "\n\n---\nPart of #" ++ toString parent ++ ": step " ++ toString step ++
    " of " ++ toString steps ++ ", filed by " ++ filedBy ++ "."

def verdictNote (verdict : TriageVerdict) : String :=
  match verdict.verdict with
  | .fits => "fits one run"
  | .split => "split into " ++ toString verdict.subIssues.length ++ " sub-issues"

/-- The numbered list of what was filed. -/
def filedLines (filed : List SubIssue) (drafts : List SubIssueDraft) : List String :=
  ((filed.zip drafts).zipIdx 1).map fun ((sub, draft), number) =>
    toString number ++ ". #" ++ toString sub.number ++ " " ++ sub.title ++
      if draft.kind = .operator then " -- operator step" else ""

/-- The line a comment ends on. -/
def runLine (runId : String) (attempt turns : Nat) (cost : Usd) : String :=
  "Run `" ++ runId ++ "` (attempt " ++ toString attempt ++ ", " ++ plural turns "turn" ++ ", $" ++
    py.fixed2 cost ++ ")."

def verdictComment (verdict : TriageVerdict) (filed : List SubIssue) (runId : String)
    (attempt turns : Nat) (cost : Usd) (labels : GitHubLabels py) (now : Datetime) : String :=
  let opening := match verdict.verdict with
    | .fits =>
      ["**Verdict: fits.** One issuebot run should finish this. Add `" ++ labels.todo ++ "` to start it."]
    | .split =>
      ["**Verdict: split.** Too big for one run, so it is filed as " ++
        toString verdict.subIssues.length ++ " sub-issues, in order. Label every issuebot step `" ++
        labels.todo ++ "` at once if you like: issuebot starts each only when every step before it has " ++
        "closed. Operator steps (`" ++ labels.operatorStep ++ "`) are yours to do and close, and the " ++
        "steps after one wait for it.", ""] ++ filedLines filed verdict.subIssues
  let requests :=
    if verdict.ignoredRequests ≠ "" then
      ["- **Requests in the issue it did not act on:** " ++ verdict.ignoredRequests]
    else []
  "\n".intercalate (["### Issuebot triage (" ++ utcStamp now ++ ")", ""] ++ opening ++
    ["", verdict.summary, "", "- **Fits the limits:** " ++ verdict.fitsCaps,
      "- **Lands fast:** " ++ verdict.landsFast, "- **Needs a human first:** " ++ verdict.needsHuman] ++
    requests ++ ["", runLine py runId attempt turns cost])

end Texts

/-- `_key`: what a title is matched by. -/
def titleKey (title : String) : String := py.casefold (py.strip title)

/-- `{_key(child.title): child for child in children}` -/
def childrenByKey (children : List SubIssue) : String → Option SubIssue :=
  children.foldl (fun existing child => Function.update existing (titleKey py child.title) (some child))
    fun _ => none

section Programs

variable (config : FilingConfig py)

/-- The child of one draft, found or created, with the dictionary it is then in. -/
def draftChild (parent step steps : Nat) (filedBy : String) (existing : String → Option SubIssue)
    (draft : SubIssueDraft) : Filing (SubIssue × (String → Option SubIssue)) :=
  match existing (titleKey py draft.title) with
  | some child => pure (child, existing)
  | none => do
    let child ← createSubIssue step draft.title
      (subIssueBody py draft parent step steps config.labels filedBy)
    return (child, Function.update existing (titleKey py draft.title) (some child))

/-- The loop body of the two filings: a draft's child, labelled where it is an operator's. -/
def fileDraft (parent steps : Nat) (filedBy : String)
    (found : (String → Option SubIssue) × List SubIssue) (entry : SubIssueDraft × Nat) :
    Filing ((String → Option SubIssue) × List SubIssue) := do
  let child ← draftChild py config parent entry.2 steps filedBy found.1 entry.1
  .when (entry.1.kind = .operator)
    (editLabels py (.operatorStep entry.2) child.1.number [config.labels.operatorStep] [])
  return (child.2, found.2 ++ [child.1])

/-- The children of `drafts`, filed after the steps `seen`. -/
def fileDrafts (parent : Nat) (seen : List Nat) (filedBy : String) (drafts : List SubIssueDraft) :
    Filing (List SubIssue) := do
  let children ← subIssues
  let existing := childrenByKey py (children.filter fun child => child.number ∉ seen)
  let found ← (drafts.zipIdx (seen.length + 1)).foldlM
    (fileDraft py config parent (seen.length + drafts.length) filedBy) (existing, [])
  return found.2

/-- The steps of a `split`; a `fits` has none. -/
def fileSplit (issue : Issue) (verdict : TriageVerdict) : Filing (List SubIssue) :=
  match verdict.verdict with
  | .split => fileDrafts py config issue.number [] "issuebot triage" verdict.subIssues
  | .fits => pure []

/-- File a triage verdict; raises from any step, so that the caller retries. `noted` is set
once the swap has landed. -/
def applyVerdict (issue : Issue) (verdict : TriageVerdict) (runId : String) (attempt turns : Nat)
    (cost : Usd) (now : Datetime) (swapped : Bool) : Filing Unit := do
  let filed ← fileSplit py config issue verdict
  editLabels py .move issue.number [config.labels.triageComplete] [config.labels.triageTodo]
  worker fun w => { w with noted := true }
  .when (!swapped) (publish (.stateChanged (some config.labels.triageTodo)
    (some config.labels.triageComplete) (some (verdictNote verdict))))
  comment .comment (verdictComment py verdict filed runId attempt turns cost config.labels now)

end Programs
end Issuebot
