import Issuebot.Orchestrator.Dispatch
import Issuebot.Orchestrator.Triage
import Mathlib.Data.List.Dedup

/-!
# The candidate sweep

`dispatchCandidates` goes through one poll's issues. A `todo` sub-issue waits for the earlier
steps of its parent: the order comes from the tick's one read of parents, which the sweep
shares with the parent watch (`readParents`) and which is not made for it on a tick that can
dispatch nothing.
-/

namespace Issuebot
set_option autoImplicit false
open Logic

/-- One parent's place in the answer to `parent_steps`. -/
abbrev ParentAnswer : Type := Except UnreadableParent ParentSteps

def ParentAnswer.number : ParentAnswer → Nat
  | .ok steps => steps.number
  | .error unreadable => unreadable.number

/-- `found.get(parent)` -/
def answerFor (answers : List ParentAnswer) (parent : Nat) : Option ParentAnswer :=
  answers.find? fun answer => answer.number = parent

theorem answerFor_number {answers : List ParentAnswer} {parent : Nat} {answer : ParentAnswer}
    (found : answerFor answers parent = some answer) : answer.number = parent := by
  simpa using List.find?_some found

/-- A tick's one `parent_steps` read: what the watch and the order hold each asked for, empty
while its own gate is shut, and the answer, `none` when the read failed. -/
structure ParentRead where
  watched : List Nat
  ordered : List Nat
  steps : Option (List ParentAnswer)

/-- The hold's view: nothing read while its gate was shut, so nothing to hold on. -/
def ParentRead.forHold (parents : ParentRead) : Option (List ParentAnswer) :=
  if parents.ordered.isEmpty then some [] else parents.steps

/-- `sorted(set(numbers))` -/
def sortedSet (numbers : List Nat) : List Nat := (numbers.dedup).insertionSort (· ≤ ·)

@[simp] theorem mem_sortedSet {numbers : List Nat} {number : Nat} :
    number ∈ sortedSet numbers ↔ number ∈ numbers := by
  rw [sortedSet, (List.perm_insertionSort _ _).mem_iff, List.mem_dedup]

/-- A refusal that says nothing about the issue: the next one would be told the same. -/
def RefusalKind.halts : RefusalKind → Bool
  | .slots | .hold | .stopping => true
  | _ => false

namespace Orchestrator

variable {py : Py} (settings : Settings py)

section Order

/-- Whether the order hold applies to the issue at all: a `todo` sub-issue that is not an
operator step. -/
def orderApplies (issue : Issue) : Bool :=
  issue.state = some .todo && issue.parent.isSome && !isOperatorStep settings issue

/-- The order hold's half of the read: nothing when the poll failed or the tick cannot dispatch. -/
def orderedParents (o : Orchestrator) (issues : Option (List Issue)) : List Nat :=
  match issues with
  | none => []
  | some issues =>
    if o.cannotDispatch settings then []
    else sortedSet (issues.filterMap fun issue => if orderApplies settings issue then issue.parent else none)

/-- A parent with a run going or a review's verdict owed. -/
def parentBusy (o : Orchestrator) (number : Nat) : Bool :=
  decide (number ∈ o.running) || (o.workerOf number).parentPending.isSome

/-- Every parent on the watch, by number. -/
def watched (o : Orchestrator) : List Nat :=
  sortedSet (o.workers.keys.filter fun number => (o.workerOf number).parent.any ParentRecord.watched)

/-- The watch's half of the read: nothing unless a review could start or a note is owed. -/
def watchedParents (o : Orchestrator) : List Nat :=
  let owed := o.watched.any fun number =>
    (o.workerOf number).parentHandover.isSome && !o.parentBusy number
  if o.slots settings = 0 && !owed then [] else o.watched

/-- `_read_parents`, `ask` being GitHub's answer for the parents wanted. -/
def readParents (issues : Option (List Issue))
    (ask : List Nat → Awaited (Except GitHubError (List ParentAnswer))) : Pass ParentRead := do
  let o ← Remote.get
  let watched := o.watchedParents settings
  let ordered := o.orderedParents settings issues
  let wanted := sortedSet (watched ++ ordered)
  if wanted.isEmpty then return { watched, ordered, steps := some [] }
  else do
    let steps ← await (ask wanted)
    return { watched, ordered, steps := steps.toOption }

/-- The hold the issue is under, if any; `steps` is `none` when the read failed. -/
def orderHold (issue : Issue) (steps : Option (List ParentAnswer)) : Option OrderHold :=
  if !orderApplies settings issue then none
  else match issue.parent with
  | none => none
  | some parent =>
    match steps with
    | none => some { parent, waitsFor := none }
    | some answers =>
      match answerFor answers parent with
      | none => none
      | some (.error _) => some { parent, waitsFor := none }
      | some (.ok found) =>
        (earlierOpenStep py issue found settings.labels).map fun step => { parent, waitsFor := some step }

end Order

section Candidates

/-- The attempt and the session an admitted candidate runs on: a workspace's record of an
orphaned one is folded into the chain and the gate asked again. -/
def resume (issue : Issue) (verdict : Admitted) (w : World) : Pass (Option (Nat × Option String)) :=
  if issue.state ≠ some .inProgress then return some (verdict.attempt, none)
  else match w.resumePlan with
  | none => return none
  | some (session, recorded) =>
    if recorded ≤ verdict.attempt then return some (verdict.attempt, session)
    else do
      book (.observed issue.number recorded) fun ledger =>
        ledger.observed issue.number recorded settings.maxAttempts
      match ← admits settings issue .work none with
      | .error refused => do
        handleRefusal issue refused w
        return none
      | .ok again => return some (again.attempt, session)

/-- The sweep's turn for one candidate. -/
def candidateTurn (steps : Option (List ParentAnswer)) (issue : Issue) (w : World) : Pass Turn := do
  match ← admits settings issue .work (orderHold settings issue steps) with
  | .error refused =>
    if refused.kind.halts then return .halted
    else do
      handleRefusal issue refused w
      return .passed
  | .ok verdict => do
    .modify fun o => { o with held := o.held.erase issue.number }
    match ← resume settings issue verdict w with
    | none => return .passed
    | some (attempt, session) => do
      let dispatched ← dispatch settings issue attempt session w
      return if dispatched then .dispatched else .passed

/-- Dispatch this poll's issues, `none` when the poll failed; the number dispatched. -/
def dispatchCandidates (issues : Option (List Issue)) (steps : Option (List ParentAnswer))
    (worlds : Nat → World) : Pass Nat :=
  match issues with
  | none => return 0
  | some issues => do
    -- a hold is remembered only while its issue is still a `todo` one this poll
    .modify fun o =>
      { o with held := o.held.filterKeys fun number =>
        issues.any fun issue => issue.number = number && issue.state = some .todo }
    dispatchLoop (candidateTurn settings steps) (sortCandidates issues) worlds

end Candidates

end Orchestrator
end Issuebot
