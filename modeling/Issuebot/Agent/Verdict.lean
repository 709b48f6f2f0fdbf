/-!
# The verdicts of the read-only sessions

What a triage session and a parent review answer, once parsed and scrubbed.
-/

namespace Issuebot
set_option autoImplicit false

/-- Who a step is for. -/
inductive DraftKind where
  | issuebot
  | operator
  deriving DecidableEq, Repr

structure SubIssueDraft where
  title : String
  body : String
  kind : DraftKind
  deriving DecidableEq, Repr

inductive TriageOutcome where
  | fits
  | split
  deriving DecidableEq, Repr

structure TriageVerdict where
  verdict : TriageOutcome
  summary : String
  fitsCaps : String
  landsFast : String
  needsHuman : String
  ignoredRequests : String
  subIssues : List SubIssueDraft
  deriving DecidableEq, Repr

inductive ReviewOutcome where
  | next
  | met
  | gap
  deriving DecidableEq, Repr

/-- The word the notes print. -/
def ReviewOutcome.value : ReviewOutcome → String
  | .next => "next"
  | .met => "met"
  | .gap => "gap"

structure ParentReviewVerdict where
  verdict : ReviewOutcome
  summary : String
  evidence : String
  ignoredRequests : String
  subIssues : List SubIssueDraft
  deriving DecidableEq, Repr

end Issuebot
