import Issuebot.Events
import Issuebot.GitHub.Workpad
import Issuebot.Logic.Remote
import Issuebot.Orchestrator.Approval
import Issuebot.Orchestrator.State

/-!
# The escapes

Three ways an issue is handed to a human: by a run that is blocked, by a claim refused over a budget and
by an edit nobody approved. Each writes a block to the workpad and moves the label, in that order. What
fails in a way worth asking again fails the escape; any other failure costs the note and not the move,
and a note whose lookup failed is written blind afterwards (`escapeNote`, `reportNoteFailure`).

A call is described by what it does to the workpad (`Noting`) and what it does to the label and the bus
(`Telling`). A block is looked for before it is appended, so a context's block is appended once.
-/

namespace Issuebot
set_option autoImplicit false
open Logic Remote

/-- The GitHub calls of an escape. -/
inductive EscapeCall where
  | fetch
  | findWorkpad
  | append
  | move
  | blind
  deriving DecidableEq, Repr

/-- A label write, and the state the issue was read in when it was decided. -/
structure LabelMove where
  read : Option StateLabel
  written : Option StateLabel
  deriving DecidableEq, Repr

/-- One issue on GitHub, and what the worker has done to it. `own` are the bodies of the comments of the
worker's account, the oldest first: a comment is named by its place. -/
structure Desk where
  issue : Option Issue
  own : List Text
  moves : List LabelMove
  published : List Event
  /-- The blocks that have been written. -/
  appended : List Text
  deriving DecidableEq

/-- `find_workpad_comment`: a workpad's place and body. -/
def Desk.workpad (s : Desk) : Option (Nat × Text) :=
  (s.own.findIdx? isWorkpadBody).bind fun place => (s.own[place]?).map fun body => (place, body)

/-- The effect of `_append_workpad`: `workpad` is what was read, and a new one is made where there was none. -/
def Desk.append (workpad : Option (Nat × Text)) (block : Text) (s : Desk) : Desk :=
  { s with
    own := match workpad with
      | none => s.own ++ [newWorkpad block]
      | some (place, body) => s.own.set place (appendedBody body block)
    appended := s.appended ++ [block] }

abbrev Escaping (α : Type) := Remote EscapeCall GitHubError Desk α

/-- `RETRYABLE_CATEGORIES` -/
def GitHubError.retryable (error : GitHubError) : Bool := error.category = .rateLimited || error.category = .transport

/-- Which half of writing a note failed. -/
inductive NotePhase where
  | read
  | write
  deriving DecidableEq, Repr

/-- Why an escape has no note. -/
structure NoteFailure where
  phase : NotePhase
  error : GitHubError
  deriving DecidableEq, Repr

/-- The two per-issue ceilings. -/
inductive BudgetLimit where
  | attempts
  | spend
  deriving DecidableEq, Repr

section Blocks

variable {py : Py} (labels : GitHubLabels py)

/-- `_run_marker` -/
def runMarker (context : BlockedContext) : String := "Run `" ++ context.runId ++ "`"

/-- The block the blocked escape appends to the workpad. -/
def blockedBlock (context : BlockedContext) (now : Datetime) : String :=
  let logs := match context.logDir with
    | none | some "" => ""
    | some directory => "; logs: `" ++ directory ++ "`"
  "### Issuebot blocked (" ++ utcStamp now ++ ")\n\n" ++ context.reason ++ "\n" ++ runMarker context ++
    (" (attempt " ++ toString context.attempt ++ ", " ++ plural context.turns "turn" ++ ")" ++ logs ++ ".\nMoved to `" ++
      labels.review ++ "` for a human to look at.")

/-- The block of the approval check. -/
def unapprovedBlock (verdict : Unapproved) (now : Datetime) : String :=
  let explanation :=
    if verdict.approval.isSome then
      "issuebot has removed the label: the text a session would act on is no longer the text that was approved."
    else "issuebot has removed the label: it can find no approval of the text a session would act on."
  "### Issuebot unapproved edit (" ++ utcStamp now ++ ")\n\n" ++ verdict.reason ++
    (". " ++ explanation ++ " Read the current title and description; if they are what you want done, apply `" ++
      labels.todo ++ "` again.\n")

/-- `BUDGET_REASON_PREFIX` -/
def budgetReasonPrefix : String := "issuebot has stopped claiming this issue: "

/-- `_BUDGET_RECOVERY`, filled in. -/
def budgetRecovery : BudgetLimit → String
  | .attempts =>
    "Fix what the runs kept failing on, then label the issue `" ++ labels.rework ++ "` or `" ++ labels.todo ++
      "`: handing it over here ends the chain of failures, so the next label move starts the run budget again."
  | .spend =>
    "Raise `agent.max_issue_cost_usd` (or close the issue), *then* relabel. Relabelling on its own only brings the " ++
      "issue back here: what this ceiling counts is what the issue has already cost, and that never resets."

/-- The line of a budget block that says which budget. -/
def budgetLine (reason : String) : String := budgetReasonPrefix ++ reason ++ "."

/-- The block the budget escape appends to the workpad. -/
def budgetBlock (limit : BudgetLimit) (reason : String) (now : Datetime) : String :=
  "### Issuebot budget limit (" ++ utcStamp now ++ ")\n\n" ++ budgetLine reason ++ "\n" ++
    ("Moved to `" ++ labels.review ++ "` for a human to look at. " ++ budgetRecovery labels limit)

/-- `_has_budget_block`: the reason is on a line of its own. -/
def hasBudgetBlock (body : Text) (reason : String) : Bool :=
  (body.splitOn '\n').any fun candidate => strip candidate = (budgetLine reason).toList

end Blocks

section Programs

variable {py : Py} (labels : GitHubLabels py) (meanwhile : EscapeCall → Option Issue → Option Issue)

/-- A call, before which the others have changed the issue as they pleased. -/
def deskCall {α : Type} (call : EscapeCall) (effect : Desk → α × Desk) : Escaping α := do
  modify fun s => { s with issue := meanwhile call s.issue }
  Remote.call call effect

def publishEvent (event : Event) : Escaping Unit := .modify fun s => { s with published := s.published ++ [event] }

/-- `_append_workpad` -/
def appendBlock (call : EscapeCall) (workpad : Option (Nat × Text)) (block : Text) : Escaping Unit :=
  deskCall meanwhile call fun s => ((), s.append workpad block)

/-- `_escape_note`: what is worth asking again is raised, and any other failure answered. -/
def escapeNote (block : Text) (written : Text → Bool) : Escaping (Option NoteFailure) := do
  match ← (deskCall meanwhile .findWorkpad fun s => (s.workpad, s)).attempt with
  | .error error => if error.retryable then raise error else pure (some ⟨.read, error⟩)
  | .ok workpad =>
    if workpad.all fun found => !written found.2 then do
      match ← (appendBlock meanwhile .append workpad block).attempt with
      | .error error => if error.retryable then raise error else pure (some ⟨.write, error⟩)
      | .ok () => pure none
    else pure none

/-- `_report_note_failure`: a note is written blind where it was the read that failed. -/
def reportNoteFailure (block : Text) (failure : Option NoteFailure) : Escaping Unit := do
  if failure.any fun failure => failure.phase = .read then do
    let _ ← (appendBlock meanwhile .blind none block).attempt
    pure ()
  else pure ()

/-- `set_state`, or `clear_state` where `target` is none. -/
def moveLabel (issue : Issue) (target : Option StateLabel) : Escaping Unit :=
  deskCall meanwhile .move fun s => ((), { s with moves := s.moves ++ [⟨issue.state, target⟩] })

/-- The note, and then the label. -/
def noteAndMove (issue : Issue) (target : Option StateLabel) (block : Text) (written : Text → Bool) :
    Escaping (Option NoteFailure) := do
  let failure ← escapeNote meanwhile block written
  moveLabel meanwhile issue target
  pure failure

/-- The issue as it is now, handed to review where the escape takes it. -/
def refetchAndMove (takes : Issue → Bool) (block : Text) (written : Text → Bool) :
    Escaping (Option (Issue × Option NoteFailure)) := do
  match ← deskCall meanwhile .fetch fun s => (s.issue, s) with
  | none => pure none
  | some issue =>
    if takes issue then do
      let failure ← noteAndMove meanwhile issue (some .review) block written
      pure (some (issue, failure))
    else pure none

/-- The issues the blocked escape takes. -/
def takesBlocked (issue : Issue) : Bool := issue.githubState ≠ .closed && issue.state = some .inProgress

/-- The issues the budget escape takes. -/
def takesRefused (issue : Issue) : Bool :=
  issue.githubState ≠ .closed && issue.state.any fun state => activeStates.contains state

/-- `blocked_escape` -/
def blockedEscape (context : BlockedContext) (now : Datetime) : Escaping EscapeOutcome := do
  let block := (blockedBlock labels context now).toList
  let written := fun body : Text => decide ((runMarker context).toList <:+: body)
  match ← (refetchAndMove meanwhile takesBlocked block written).attempt with
  | .error _ => pure .failed
  | .ok none => pure .skipped
  | .ok (some (issue, failure)) => do
    publishEvent (.stateChanged issue.stateLabels.head? (some labels.review) none)
    publishEvent (.blocked context.reason)
    reportNoteFailure meanwhile block failure
    pure .applied

/-- `budget_escape` -/
def budgetEscape (limit : BudgetLimit) (reason : String) (now : Datetime) (announce : Bool) : Escaping EscapeOutcome := do
  let block := (budgetBlock labels limit reason now).toList
  match ← (refetchAndMove meanwhile takesRefused block fun body => hasBudgetBlock body reason).attempt with
  | .error _ => pure .failed
  | .ok none => pure .skipped
  | .ok (some (issue, failure)) => do
    publishEvent (.stateChanged issue.stateLabels.head? (some labels.review) none)
    reportNoteFailure meanwhile block failure
    if announce then do
      publishEvent (.blocked reason)
      pure .applied
    else pure .skipped

/-- `unapproved_escape`: `issue` is the record the poll returned, and there is no second fetch. -/
def unapprovedEscape (issue : Issue) (verdict : Unapproved) (now : Datetime) : Escaping EscapeOutcome := do
  let block := (unapprovedBlock labels verdict now).toList
  let written := fun body : Text => decide (verdict.reason.toList <:+: body)
  match ← (noteAndMove meanwhile issue none block written).attempt with
  | .error _ => pure .failed
  | .ok failure => do
    publishEvent (.stateChanged issue.stateLabels.head? none none)
    publishEvent (.blocked verdict.reason)
    reportNoteFailure meanwhile block failure
    pure .applied

end Programs

section Specs

variable {py : Py} {labels : GitHubLabels py} {meanwhile : EscapeCall → Option Issue → Option Issue}
variable {F : EscapeCall → Fate GitHubError} {block : Text} {written : Text → Bool} {start : Desk}

/-- The comments, and what has been written to them. -/
def Desk.notes (s : Desk) : List Text × List Text := (s.own, s.appended)

/-- The label writes and the events. -/
def Desk.told (s : Desk) : List LabelMove × List Event := (s.moves, s.published)

/-- The issue alone may have changed. -/
def Desk.Beside (s s' : Desk) : Prop := s'.notes = s.notes ∧ s'.told = s.told

theorem Desk.Beside.refl (s : Desk) : s.Beside s := ⟨rfl, rfl⟩

/-- What is the same beside the issue appends the same. -/
theorem Desk.Beside.append {s s' : Desk} (beside : s.Beside s') (workpad : Option (Nat × Text)) :
    (s'.append workpad block).notes = (s.append workpad block).notes ∧ (s'.append workpad block).told = s.told := by
  have notes := beside.1
  simp only [Desk.notes, Prod.mk.injEq] at notes
  refine ⟨?_, beside.2⟩
  simp only [Desk.append, Desk.notes, notes.1, notes.2]

theorem Desk.Beside.workpad {s s' : Desk} (beside : s.Beside s') : s'.workpad = s.workpad := by
  have notes := beside.1
  simp only [Desk.notes, Prod.mk.injEq] at notes
  simp only [Desk.workpad, notes.1]

end Specs

end Issuebot
