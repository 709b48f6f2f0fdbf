import Issuebot.Python
import Mathlib.Tactic.Tauto

/-!
# The GitHub records

The normalised records the adapter, the orchestrator and the approval rules share. An
issue is named by its number here: its node id and its identifier are one-to-one with it
in the tracked repository.
-/

namespace Issuebot
set_option autoImplicit false

/-- `PAGE_SIZE`: what one read of a list asks for. -/
def pageSize : Nat := 100

/-- The names of the labels the worker reads and writes, distinct in lower case. -/
structure GitHubLabels (py : Py) where
  todo : String
  inProgress : String
  review : String
  rework : String
  complete : String
  noFault : String
  triageTodo : String
  triageComplete : String
  operatorStep : String
  distinct : ([todo, inProgress, review, rework, complete, noFault, triageTodo, triageComplete,
    operatorStep].map py.lower).Nodup

/-- The five state labels. -/
def GitHubLabels.asTuple {py : Py} (labels : GitHubLabels py) : List String :=
  [labels.todo, labels.inProgress, labels.review, labels.rework, labels.complete]

/-- What a claim strips beside the state labels. -/
def GitHubLabels.claimClears {py : Py} (labels : GitHubLabels py) : List String :=
  [labels.noFault, labels.triageTodo]

theorem GitHubLabels.triageTodo_ne {py : Py} (labels : GitHubLabels py) :
    py.lower labels.triageTodo ≠ py.lower labels.triageComplete := by
  have := labels.distinct
  simp only [List.map_cons, List.nodup_cons, List.mem_cons, not_or] at this
  tauto

/-- A triage label is no state label. -/
theorem GitHubLabels.state_ne_triage {py : Py} (labels : GitHubLabels py) {name : String}
    (is_state : name ∈ labels.asTuple) :
    py.lower name ≠ py.lower labels.triageTodo ∧ py.lower name ≠ py.lower labels.triageComplete := by
  have := labels.distinct
  simp only [List.map_cons, List.nodup_cons, List.mem_cons, not_or] at this
  simp only [GitHubLabels.asTuple, List.mem_cons, List.not_mem_nil, or_false] at is_state
  rcases is_state with rfl | rfl | rfl | rfl | rfl <;> tauto

/-- The default names. -/
def GitHubLabels.default : GitHubLabels Py.ascii where
  todo := "issuebot/todo"
  inProgress := "issuebot/in-progress"
  review := "issuebot/review"
  rework := "issuebot/rework"
  complete := "issuebot/complete"
  noFault := "issuebot/no-fault"
  triageTodo := "issuebot/triage-todo"
  triageComplete := "issuebot/triage-complete"
  operatorStep := "issuebot/operator-step"
  distinct := by decide +kernel

/-- The five roles of the label state machine. -/
inductive StateLabel where
  | todo
  | inProgress
  | review
  | rework
  | complete
  deriving DecidableEq, Repr

/-- Every role, in the order of the state machine. -/
def StateLabel.all : List StateLabel := [.todo, .inProgress, .review, .rework, .complete]

/-- The name a role goes by. -/
def GitHubLabels.labelName {py : Py} (labels : GitHubLabels py) : StateLabel → String
  | .todo => labels.todo
  | .inProgress => labels.inProgress
  | .review => labels.review
  | .rework => labels.rework
  | .complete => labels.complete

theorem GitHubLabels.labelName_injective {py : Py} (labels : GitHubLabels py) {role role' : StateLabel}
    (same : py.lower (labels.labelName role) = py.lower (labels.labelName role')) : role = role' := by
  have := labels.distinct
  simp only [List.map_cons, List.nodup_cons, List.mem_cons, not_or] at this
  cases role <;> cases role' <;> simp only [labelName] at same <;> tauto

inductive GitHubState where
  | opened
  | closed
  deriving DecidableEq, Repr

inductive PrState where
  | opened
  | closed
  | merged
  deriving DecidableEq, Repr

/-- GitHub's `MergeableState`. -/
inductive Mergeable where
  | mergeable
  | conflicting
  | unknown
  deriving DecidableEq, Repr

/-- The pull request an issue is linked to. -/
structure LinkedPr where
  number : Nat
  state : PrState
  mergeable : Mergeable := .unknown
  deriving DecidableEq, Repr

/-- One tracked issue. `labels` are lower-cased. -/
structure Issue where
  number : Nat
  title : String
  body : Option String
  author : Option String
  githubState : GitHubState
  state : Option StateLabel
  stateLabels : List String
  labels : List String
  createdAt : Datetime
  updatedAt : Datetime
  dispatchable : Bool
  authorAssociation : Option String := none
  /-- The parent's number when the issue is a sub-issue. -/
  parent : Option Nat := none
  /-- It is a sub-issue of another repository's issue. -/
  parentElsewhere : Bool := false
  subIssueCount : Nat := 0
  linkedPr : Option LinkedPr := none
  deriving DecidableEq, Repr

/-- A child of an issue, as GitHub links it. -/
structure SubIssue where
  number : Nat
  title : String
  state : GitHubState
  deriving DecidableEq, Repr

/-- A parent issue as the order of its steps needs it: its labels, lower-cased, and its
sub-issues in GitHub's order. -/
structure ParentSteps where
  number : Nat
  labels : List String
  subIssues : List SubIssue
  state : GitHubState
  deriving DecidableEq, Repr

/-- A parent whose record came back malformed, in that parent's place in the answer. -/
structure UnreadableParent where
  number : Nat
  reason : String
  deriving DecidableEq, Repr

/-- `MAINTAINER_ASSOCIATIONS`: the `authorAssociation` values of someone with write access. -/
def maintainerAssociations : List String := ["OWNER", "MEMBER", "COLLABORATOR"]

/-- One label addition as GitHub's timeline records it. `actor` is `none` once GitHub has
deleted the account. -/
structure LabelApplied where
  label : String
  actor : Option String
  appliedAt : Datetime
  deriving DecidableEq, Repr

/-- What an edit changed: the body (`userContentEdits`) or the title (a rename). -/
inductive EditedText where
  | body
  | title
  deriving DecidableEq, Repr

/-- The word the reasons print. -/
def EditedText.value : EditedText → String
  | .body => "body"
  | .title => "title"

/-- One edit to the text a session is handed. -/
structure TextEdit where
  what : EditedText
  editor : Option String
  editedAt : Datetime
  deriving DecidableEq, Repr

/-- What decides whether the text a session would act on is the text a human approved. -/
structure ApprovalEvidence where
  labelEvents : List LabelApplied
  edits : List TextEdit
  deriving DecidableEq, Repr

end Issuebot
