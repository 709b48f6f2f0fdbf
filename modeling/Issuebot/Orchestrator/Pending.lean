import Issuebot.Agent.Verdict
import Issuebot.Events
import Issuebot.GitHub.Errors
import Issuebot.Logic.Remote
import Issuebot.Orchestrator.Family

/-!
# The verdicts waiting to be filed

The worker's memory of one issue's verdict and of the parent it is, and the programs that
file it: `Filing` is a program over GitHub's `Family` and the worker's own state, with the
calls a filing makes named by `Call`. A call's name says which draft it is for, so no
program makes one call twice.
-/

namespace Issuebot
set_option autoImplicit false
open Logic

/-- What the worker remembers of one split parent. -/
structure ParentRecord where
  reviews : Nat := 0
  gapRounds : Nat := 0
  handedOver : Option String := none
  finished : Bool := false
  deriving DecidableEq, Repr

def ParentRecord.watched (record : ParentRecord) : Bool := record.handedOver.isNone && !record.finished

def ParentRecord.stateEvent (record : ParentRecord) : Event :=
  .parentReviewState record.reviews record.gapRounds record.handedOver record.finished

/-- A parent hand-over GitHub would not let the worker write, kept to write again. -/
structure ParentHandOver where
  title : String
  reason : String
  wayBack : String
  deriving DecidableEq, Repr

/-- The counts after a review: a `gap` has already added one to the gap rounds. -/
structure ReviewCounts where
  review : Nat
  maxReviews : Nat
  gapRound : Nat
  maxGapRounds : Nat
  deriving DecidableEq, Repr

/-- A triage verdict that GitHub would not let the worker file. `swapped` is whether its
label swap has landed. -/
structure PendingVerdict where
  issue : Issue
  verdict : TriageVerdict
  runId : String
  attempt : Nat
  turns : Nat
  cost : Usd
  tries : Nat := 0
  swapped : Bool := false
  deriving DecidableEq, Repr

/-- A parent review's verdict that GitHub would not let the worker file. `seen` is the steps
the review read, and `moved` whether its move has landed. -/
structure PendingParentReview where
  issue : Issue
  verdict : ParentReviewVerdict
  seen : List Nat
  counts : ReviewCounts
  runId : String
  attempt : Nat
  turns : Nat
  cost : Usd
  tries : Nat := 0
  moved : Bool := false
  deriving DecidableEq, Repr

/-- A `gap` once the gap rounds are spent, handed over in place of filed. -/
def PendingParentReview.pastGapLimit (pending : PendingParentReview) : Bool :=
  pending.verdict.verdict = .gap && decide (pending.counts.gapRound > pending.counts.maxGapRounds)

/-- Why an owed verdict is dropped. -/
inductive DiscardReason where
  | missing
  | closed
  | stateLabel
  | triageTodoRemoved
  | triageLabelsRemoved
  | stepsChanged
  deriving DecidableEq, Repr

/-- The log lines of filing and handing back. -/
inductive LogLine where
  | triageVerdictDiscarded (runId : String) (reason : DiscardReason)
  | triageFileFailed (runId : String) (tries : Nat) (error : String)
  | triageFiled (runId : String) (verdict : TriageOutcome) (subIssues : Nat)
  | triageHandBackReadFailed (error : String)
  | parentReviewDiscarded (runId : String) (reason : DiscardReason)
  | parentReviewFileFailed (runId : String) (tries : Nat) (error : String)
  | parentReviewFiled (runId : String) (verdict : ReviewOutcome) (subIssues reviews gapRounds : Nat)
  | handBackFailed (event : String) (error : String)
  | handBackNoteFailed (event : String) (error : String)
  | handBackApplied (event : String) (reason : String)
  deriving DecidableEq, Repr

/-- The worker's state of one issue: the entries its maps hold under the issue's id, what it
has published and logged, and `noted`, the flag a filing's callback sets. -/
structure Worker where
  triagePending : Option PendingVerdict
  parentPending : Option PendingParentReview
  parentHandover : Option ParentHandOver
  triageFailures : Option Nat
  triageNotBefore : Option Datetime
  triageEscape : Option String
  parent : Option ParentRecord
  triageDiscard : Option Datetime
  blocked : Nat
  reported : List Issue
  published : List Event
  logged : List LogLine
  noted : Bool
  deriving DecidableEq, Repr

/-- A worker that holds nothing of the issue. -/
def Worker.idle : Worker where
  triagePending := none
  parentPending := none
  parentHandover := none
  triageFailures := none
  triageNotBefore := none
  triageEscape := none
  parent := none
  triageDiscard := none
  blocked := 0
  reported := []
  published := []
  logged := []
  noted := false

/-- GitHub's state and the worker's. -/
structure System where
  family : Family
  worker : Worker
  deriving DecidableEq, Repr

/-- The calls of one filing attempt and of the hand-back that may follow it. -/
inductive Call where
  | fetchIssue
  | parentSteps
  | subIssues
  | create (step : Nat)
  | operatorStep (step : Nat)
  | move
  | close
  | comment
  | handBackFetch
  | handBackLabel
  | handBackComment
  deriving DecidableEq, Repr

abbrev Filing (α : Type) := Remote Call GitHubError System α

/-- What the filings read of the settings, and the scrubber. -/
structure FilingConfig (py : Py) where
  labels : GitHubLabels py
  maxAttempts : Nat
  maxAttempts_pos : 0 < maxAttempts
  scrub : String → String

section Calls

variable {py : Py} (config : FilingConfig py)

/-- `fetch_issues_by_ids` of the parent. -/
def fetchIssue (call : Call) : Filing (List Issue) :=
  .ask call fun s => [s.family.issue py config.labels]

def subIssues : Filing (List SubIssue) := .ask .subIssues fun s => s.family.subIssues

def editLabels (py : Py) (call : Call) (number : Nat) (add remove : List String) : Filing Unit :=
  .call call fun s => ((), { s with family := s.family.editLabels py number add remove })

/-- GitHub refuses a sub-issue past a hundred of one parent. -/
def createSubIssue (step : Nat) (title body : String) : Filing SubIssue := do
  let s ← Remote.get
  if s.family.children.length < pageSize then
    .call (.create step) fun s =>
      let (child, family) := s.family.createSubIssue title body
      (child, { s with family })
  else .raise { category := .response, message := "Parent cannot have more than 100 sub-issues" }

def closeAsCompleted : Filing Unit :=
  .call .close fun s => ((), { s with family := s.family.close })

def comment (call : Call) (body : String) : Filing Unit :=
  .call call fun s => ((), { s with family := s.family.comment body })

/-- A change of the worker's own state. -/
def worker (f : Worker → Worker) : Filing Unit := .modify fun s => { s with worker := f s.worker }

def publish (event : Event) : Filing Unit :=
  worker fun w => { w with published := w.published ++ [event] }

def log (line : LogLine) : Filing Unit := worker fun w => { w with logged := w.logged ++ [line] }

end Calls
end Issuebot
