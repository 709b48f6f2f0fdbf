import Issuebot.GitHub.Models

/-!
# A parent and its sub-issues on GitHub

What a filing can read and change: the parent's state, labels and comments, and its
children in GitHub's order. `writes` is the order the changes took effect in.
-/

namespace Issuebot
set_option autoImplicit false

/-- One sub-issue. `labels` are lower-cased. -/
structure Child where
  number : Nat
  title : String
  body : String
  state : GitHubState
  labels : List String
  deriving DecidableEq, Repr

/-- The child as GitHub links it. -/
def Child.subIssue (child : Child) : SubIssue := ⟨child.number, child.title, child.state⟩

@[simp] theorem Child.subIssue_number (child : Child) : child.subIssue.number = child.number := rfl

@[simp] theorem Child.subIssue_title (child : Child) : child.subIssue.title = child.title := rfl

@[simp] theorem Child.subIssue_state (child : Child) : child.subIssue.state = child.state := rfl

/-- A change that took effect. -/
inductive Write where
  | created (number : Nat)
  | labelled (number : Nat)
  | closed
  | commented
  deriving DecidableEq, Repr

/-- The parent, by what nobody changes of it (`base`) and by what its filing does. -/
structure Family where
  base : Issue
  state : GitHubState
  labels : List String
  children : List Child
  comments : List String
  nextNumber : Nat
  writes : List Write
  deriving DecidableEq, Repr

/-- Labels after an edit. -/
def editedLabels (py : Py) (add remove labels : List String) : List String :=
  let kept := labels.filter fun name => name ∉ remove.map py.lower
  kept ++ (add.map py.lower).filter fun name => name ∉ kept

theorem mem_editedLabels {py : Py} {add remove labels : List String} {name : String} :
    name ∈ editedLabels py add remove labels ↔
      name ∈ add.map py.lower ∨ name ∈ labels ∧ name ∉ remove.map py.lower := by
  simp only [editedLabels, List.mem_append, List.mem_filter, decide_eq_true_eq]
  tauto

namespace Family

variable (py : Py)

/-- The parent as a read answers it. -/
def issue (labels : GitHubLabels py) (family : Family) : Issue :=
  let stateLabels := (labels.asTuple.map py.lower).filter (· ∈ family.labels)
  let state := match stateLabels with
    | [name] =>
      if name = py.lower labels.todo then some .todo
      else if name = py.lower labels.inProgress then some .inProgress
      else if name = py.lower labels.review then some .review
      else if name = py.lower labels.rework then some .rework
      else some .complete
    | _ => none
  { family.base with
    githubState := family.state
    labels := family.labels
    stateLabels
    state
    dispatchable := decide (family.state = .opened) && state.isSome
    subIssueCount := family.children.length }

theorem stateLabels_eq_nil {labels : GitHubLabels py} {family : Family}
    (none_on : ∀ name ∈ labels.asTuple, py.lower name ∉ family.labels) :
    (family.issue py labels).stateLabels = [] := by
  refine List.filter_eq_nil_iff.mpr fun name mem => ?_
  obtain ⟨label, is_state, rfl⟩ := List.mem_map.mp mem
  simpa using none_on label is_state

/-- The parent's steps, at most `pageSize` of them. -/
def subIssues (family : Family) : List SubIssue := (family.children.take pageSize).map Child.subIssue

def parentSteps (family : Family) : ParentSteps where
  number := family.base.number
  labels := family.labels
  subIssues := family.subIssues
  state := family.state

/-- `edit_labels`, of the parent or of one of its children. -/
def editLabels (number : Nat) (add remove : List String) (family : Family) : Family :=
  if number = family.base.number then
    { family with
      labels := editedLabels py add remove family.labels
      writes := family.writes ++ [.labelled number] }
  else
    { family with
      children := family.children.map fun child =>
        if child.number = number then { child with labels := editedLabels py add remove child.labels }
        else child
      writes := family.writes ++ [.labelled number] }

/-- `create_sub_issue`: the new child is the parent's last. -/
def createSubIssue (title body : String) (family : Family) : SubIssue × Family :=
  let child : Child := { number := family.nextNumber, title, body, state := .opened, labels := [] }
  (child.subIssue,
    { family with
      children := family.children ++ [child]
      nextNumber := family.nextNumber + 1
      writes := family.writes ++ [.created family.nextNumber] })

/-- `close_as_completed` -/
def close (family : Family) : Family :=
  { family with state := .closed, writes := family.writes ++ [.closed] }

def comment (body : String) (family : Family) : Family :=
  { family with comments := family.comments ++ [body], writes := family.writes ++ [.commented] }

end Family
end Issuebot
