/-!
# The events the worker publishes

Those of one issue, which every event names.
-/

namespace Issuebot
set_option autoImplicit false

/-- What a run is. -/
inductive RunKind where
  | work
  | triage
  | parentReview
  deriving DecidableEq, Repr

inductive Event where
  /-- A label move of issuebot's own. -/
  | stateChanged (fromLabel toLabel : Option String) (note : Option String)
  | issueCompleted (resolution : String)
  | issueCancelled (reason : String)
  | blocked (reason : String)
  /-- The worker's record of a split parent, published whole on every change. -/
  | parentReviewState (reviews gapRounds : Nat) (handedOver : Option String) (finished : Bool)
  deriving DecidableEq, Repr

def Event.isStateChanged : Event → Bool
  | stateChanged .. => true
  | _ => false

def Event.isIssueCompleted : Event → Bool
  | issueCompleted .. => true
  | _ => false

def Event.isIssueCancelled : Event → Bool
  | issueCancelled .. => true
  | _ => false

end Issuebot
