import Issuebot.Agent.Session
import Issuebot.Agent.TurnLog
import Issuebot.Events
import Issuebot.GitHub.Normalise
import Issuebot.Logic.Coalescing

/-!
# The writes behind the sink

The events a sink is handed, the rows the store keeps of one repository, and each write it makes as what it does to those
rows. `now()`, which stamps a captured turn and a snapshot, is no column here.
-/

namespace Issuebot
set_option autoImplicit false
open Logic

namespace Postgres

/-- The pull request an issue is linked to, with what only the store keeps of it. -/
structure PolledPr extends LinkedPr where
  url : String
  mergedAt : Option Datetime

/-- An issue as a poll returns it, as far as the store keeps it. -/
structure PolledIssue where
  number : Nat
  identifier : String
  title : String
  state : Option StateLabel
  stateLabels : List String
  githubState : GitHubState
  url : String
  labels : List String
  linkedPr : Option PolledPr
  createdAt : Datetime
  updatedAt : Datetime
  closedAt : Option Datetime

/-- Who made a label move. -/
inductive MoveActor where
  | issuebot
  | agent
  | human
  deriving DecidableEq

inductive CompletionResolution where
  | mergedPr
  | noChange
  | parentReview
  deriving DecidableEq

structure RunStarted where
  runId : String
  attempt : Nat
  sessionId : Option String
  workspacePath : String
  runKind : RunKind
  deriving DecidableEq

/-- `duration` is `timedelta(seconds=duration_s)`. -/
structure RunEnded where
  runId : String
  outcome : RunOutcome
  error : Option String
  turns : Nat
  inputTokens : Nat
  outputTokens : Nat
  costUsd : Usd
  duration : Int
  logDir : Option String
  runKind : RunKind
  deriving DecidableEq

inductive IssueEvent where
  | stateChanged (fromLabel toLabel : Option String) (actor : MoveActor) (prUrl note : Option String)
  | runStarted (run : RunStarted)
  | runEnded (run : RunEnded)
  | prOpened (prNumber : Nat) (prUrl : String)
  | blocked (reason : String)
  | issueCompleted (prUrl : Option String) (resolution : CompletionResolution)
  | issueCancelled (reason : String)
  | notificationSent (channel aboutKind : String)
  | parentReviewState (reviews gapRounds : Nat) (handedOver : Option String) (finished : Bool)
  deriving DecidableEq

/-- An event, and when it happened. -/
inductive Event where
  | ofIssue (happened : Datetime) (number : Nat) (identifier : String) (event : IssueEvent)
  | autoTriageState (happened : Datetime) (auto : Bool) (watermark : Datetime)
  deriving DecidableEq

def Event.happened : Event → Datetime
  | ofIssue happened .. => happened
  | autoTriageState happened .. => happened

/-- One polled issue and when it was observed. -/
structure IssueSnapshot where
  issue : PolledIssue
  seenAt : Datetime

/-- The two values of `issues.triage`. -/
inductive Track where
  | triageTodo
  | triageComplete
  deriving DecidableEq, Repr

/-- A row of `issues`, under its number. -/
structure IssueRow where
  identifier : String
  title : String
  state : Option StateLabel
  stateLabel : Option String
  triage : Option Track
  githubState : GitHubState
  url : String
  labels : List String
  prNumber : Option Nat
  prUrl : Option String
  prState : Option PrState
  prMergedAt : Option Datetime
  createdAt : Datetime
  updatedAt : Datetime
  closedAt : Option Datetime
  seenAt : Datetime
  deriving DecidableEq

/-- A row of `runs`, under its id; the defaults are the table's. -/
structure RunRow where
  issueNumber : Nat
  issueIdentifier : String
  startedAt : Datetime
  kind : RunKind
  attempt : Nat := 0
  sessionId : Option String := none
  workspacePath : Option String := none
  endedAt : Option Datetime := none
  outcome : Option RunOutcome := none
  error : Option String := none
  turns : Nat := 0
  inputTokens : Nat := 0
  outputTokens : Nat := 0
  costUsd : Usd := 0
  duration : Option Int := none
  logDir : Option String := none
  deriving DecidableEq

/-- The rows of one repository that a write may change: those of `issues`, `runs`, `run_turns` and `runtime_snapshot`. -/
structure Tables (Data : Type) where
  issues : Nat → Option IssueRow
  runs : String → Option RunRow
  turns : String → Nat → Option TurnCapture
  snapshot : Option (Datetime × Data)

variable {py : Py} {Data : Type}

/-- What the sink and its store are built with: the configured labels, the reader of a run's turn files, `none` where it
raises, and the scrubber of a path. -/
structure Sources (py : Py) where
  labels : GitHubLabels py
  captureTurns : String → Option (List TurnCapture)
  scrub : String → String

variable (sources : Sources py)

/-- `triage_track` -/
def triageTrack (names : List String) : Option Track :=
  let lowered := names.map py.lower
  if py.lower sources.labels.triageTodo ∈ lowered then some .triageTodo
  else if py.lower sources.labels.triageComplete ∈ lowered then some .triageComplete
  else none

/-- `issue_row` -/
def issueRow (snapshot : IssueSnapshot) : IssueRow where
  identifier := snapshot.issue.identifier
  title := snapshot.issue.title
  state := snapshot.issue.state
  stateLabel := match snapshot.issue.stateLabels with
    | [only] => some only
    | _ => none
  triage := triageTrack sources snapshot.issue.labels
  githubState := snapshot.issue.githubState
  url := snapshot.issue.url
  labels := snapshot.issue.labels
  prNumber := snapshot.issue.linkedPr.map fun pr => pr.number
  prUrl := snapshot.issue.linkedPr.map PolledPr.url
  prState := snapshot.issue.linkedPr.map fun pr => pr.state
  prMergedAt := snapshot.issue.linkedPr.bind PolledPr.mergedAt
  createdAt := snapshot.issue.createdAt
  updatedAt := snapshot.issue.updatedAt
  closedAt := snapshot.issue.closedAt
  seenAt := snapshot.seenAt

/-- `_on_the_triage_track` -/
def onTheTriageTrack (fromLabel toLabel : Option String) : Bool :=
  [fromLabel, toLabel].any fun name => name.any fun name =>
    py.lower name = py.lower sources.labels.triageTodo ∨ py.lower name = py.lower sources.labels.triageComplete

/-- What `STATE_CHANGED` sets. -/
def stateChangedRow (toLabel : Option String) (at_ : Datetime) (row : IssueRow) : IssueRow :=
  { row with state := toLabel.bind (roleFor sources.labels), stateLabel := toLabel, seenAt := at_ }

/-- What `TRIAGE_CHANGED` sets. -/
def triageChangedRow (track : Track) (at_ : Datetime) (row : IssueRow) : IssueRow :=
  { row with triage := some track, seenAt := at_ }

/-- What `ISSUE_CLOSED` sets. -/
def issueClosedRow (at_ : Datetime) (row : IssueRow) : IssueRow :=
  { row with githubState := .closed, closedAt := some (row.closedAt.getD at_), seenAt := at_ }

/-- The issue an event updates, and what `STATE_CHANGED`, `TRIAGE_CHANGED` or `ISSUE_CLOSED` sets in its row. -/
def issueUpdate : Event → Option (Nat × (IssueRow → IssueRow))
  | .ofIssue happened number _ (.stateChanged fromLabel toLabel _ _ _) =>
    if onTheTriageTrack sources fromLabel toLabel then
      -- Only a move that lands on a triage label says what the track now is.
      (toLabel.bind fun name => triageTrack sources [name]).map fun track => (number, triageChangedRow track happened)
    else some (number, stateChangedRow sources toLabel happened)
  | .ofIssue happened number _ (.issueCompleted _ _) => some (number, issueClosedRow happened)
  | .ofIssue happened number _ (.issueCancelled _) => some (number, issueClosedRow happened)
  | _ => none

/-- What `RECONCILE_TRIAGE` leaves of a row: an open one the read did not list is on no track. -/
def reconciledRow (numbers : List Nat) (number : Nat) (row : IssueRow) : IssueRow :=
  if row.triage ≠ none ∧ row.githubState = .opened ∧ number ∉ numbers then { row with triage := none } else row

/-- `run_started_row`, as `RUN_STARTED` inserts it or sets it in a row that is there. -/
def startedRow (happened : Datetime) (number : Nat) (identifier : String) (run : RunStarted) (row : Option RunRow) : RunRow :=
  let workspacePath := if run.workspacePath = "" then none else some run.workspacePath
  let inserted : RunRow := {
    issueNumber := number
    issueIdentifier := identifier
    startedAt := happened
    kind := run.runKind }
  { row.getD inserted with
    issueNumber := number
    issueIdentifier := identifier
    attempt := run.attempt
    sessionId := run.sessionId
    startedAt := happened
    workspacePath
    kind := run.runKind }

/-- `run_ended_row`, as `RUN_ENDED` inserts it or sets it in a row that is there, which keeps its start. -/
def endedRow (happened : Datetime) (number : Nat) (identifier : String) (run : RunEnded) (row : Option RunRow) : RunRow :=
  let inserted : RunRow := {
    issueNumber := number
    issueIdentifier := identifier
    startedAt := happened - run.duration
    kind := run.runKind }
  { row.getD inserted with
    endedAt := some happened
    outcome := some run.outcome
    error := run.error
    turns := run.turns
    inputTokens := run.inputTokens
    outputTokens := run.outputTokens
    costUsd := run.costUsd
    duration := some run.duration
    logDir := run.logDir
    kind := run.runKind }

namespace Tables

variable (tables : Tables Data)

/-- `INSERT_TURN`, for each captured turn. -/
def insertTurns (runId : String) (turns : List TurnCapture) : Tables Data :=
  { tables with turns := Function.update tables.turns runId (setAll TurnCapture.turnNumber turns (tables.turns runId)) }

/-- The `UPDATE issues` an event makes, of a row seen no later than it happened. -/
def updateIssue (event : Event) : Tables Data :=
  match issueUpdate sources event with
  | some (number, update) =>
    { tables with issues := changeAll IssueRow.seenAt event.happened (fun other => if other = number then update else fun row => row) tables.issues }
  | none => tables

/-- What `apply_event` does to these rows; the event itself it appends to `events`. -/
def applyEvent (event : Event) (turns : List TurnCapture) : Tables Data :=
  match event with
  | .ofIssue happened number identifier (.runStarted run) =>
    { tables with runs := Function.update tables.runs run.runId (some (startedRow happened number identifier run (tables.runs run.runId))) }
  | .ofIssue happened number identifier (.runEnded run) =>
    insertTurns
      { tables with runs := Function.update tables.runs run.runId (some (endedRow happened number identifier run (tables.runs run.runId))) }
      run.runId turns
  | event => tables.updateIssue sources event

/-- `upsert_issues` -/
def upsertIssues (batch : List IssueSnapshot) : Tables Data :=
  { tables with issues := putAll IssueRow.seenAt (batch.map fun snapshot => (snapshot.issue.number, issueRow sources snapshot)) tables.issues }

/-- `reconcile_triage_track` -/
def reconcileTriageTrack (numbers : List Nat) (at_ : Datetime) : Tables Data :=
  { tables with issues := changeAll IssueRow.seenAt at_ (reconciledRow numbers) tables.issues }

/-- `write_snapshot` -/
def writeSnapshot (snapshot : Datetime × Data) : Tables Data := { tables with snapshot := some snapshot }

end Tables

section Writes

variable {sources : Sources py} {tables : Tables Data} {event : Event} {turns : List TurnCapture} {number other : Nat}
variable {update : IssueRow → IssueRow} {numbers : List Nat} {at_ : Datetime}

/-- What an event sets in its issue's row, and nothing in another's, it sets at the moment it happened. -/
theorem issueUpdate_dated (is_update : issueUpdate sources event = some (number, update)) :
    Dated IssueRow.seenAt event.happened (if other = number then update else fun row => row) := by
  split
  · have moved {update : IssueRow → IssueRow} (seen : ∀ row, (update row).seenAt = event.happened) (again : ∀ row, update (update row) = update row) :
        Dated IssueRow.seenAt event.happened update :=
      ⟨fun row earlier => earlier.trans_eq (seen row).symm, fun row _ => (seen row).le, again⟩
    unfold issueUpdate at is_update
    split at is_update
    · split at is_update
      · obtain ⟨track, -, same⟩ := Option.map_eq_some_iff.mp is_update
        obtain ⟨-, rfl⟩ := Prod.mk.injEq .. ▸ same
        exact moved (fun _ => rfl) fun _ => rfl
      · obtain ⟨-, rfl⟩ := Prod.mk.injEq .. ▸ Option.some.inj is_update
        exact moved (fun _ => rfl) fun _ => rfl
    · obtain ⟨-, rfl⟩ := Prod.mk.injEq .. ▸ Option.some.inj is_update
      exact moved (fun _ => rfl) fun _ => rfl
    · obtain ⟨-, rfl⟩ := Prod.mk.injEq .. ▸ Option.some.inj is_update
      exact moved (fun _ => rfl) fun _ => rfl
    · cases is_update
  · exact .id

theorem reconciledRow_dated : Dated IssueRow.seenAt at_ (reconciledRow numbers number) := by
  have seen (row : IssueRow) : (reconciledRow numbers number row).seenAt = row.seenAt := by
    unfold reconciledRow
    split <;> rfl
  refine ⟨fun row _ => (seen row).ge, fun row earlier => (seen row).trans_le earlier, fun row => ?_⟩
  by_cases left : row.triage ≠ none ∧ row.githubState = .opened ∧ number ∉ numbers
  · have cleared : reconciledRow numbers number row = { row with triage := none } := if_pos left
    rw [cleared]
    exact if_neg fun held => held.1 rfl
  · have kept : reconciledRow numbers number row = row := if_neg left
    rw [kept, kept]

/-- A row of `runs` written twice is written once. -/
theorem startedRow_again {happened : Datetime} {identifier : String} {run : RunStarted} {row : Option RunRow} :
    startedRow happened number identifier run (some (startedRow happened number identifier run row)) =
      startedRow happened number identifier run row := by
  cases row <;> rfl

theorem endedRow_again {happened : Datetime} {identifier : String} {run : RunEnded} {row : Option RunRow} :
    endedRow happened number identifier run (some (endedRow happened number identifier run row)) =
      endedRow happened number identifier run row := by
  cases row <;> rfl

namespace Tables

/-- One row of an upsert. -/
def putIssue (tables : Tables Data) (number : Nat) (row : IssueRow) : Tables Data :=
  { tables with issues := putAt IssueRow.seenAt tables.issues number row }

variable {row : IssueRow} {moment : Datetime}

theorem updateIssue_put (earlier : event.happened < row.seenAt) :
    (tables.putIssue other row).updateIssue sources event = (tables.updateIssue sources event).putIssue other row := by
  unfold updateIssue
  split
  next number update is_update =>
    exact congrArg (fun issues => { tables with issues }) (putAt_changeAll (fun _ => issueUpdate_dated is_update) earlier).symm
  next => rfl

theorem updateIssue_again : (tables.updateIssue sources event).updateIssue sources event = tables.updateIssue sources event := by
  unfold updateIssue
  split
  next number update is_update =>
    exact congrArg (fun issues => { tables with issues }) (changeAll_again fun _ => issueUpdate_dated is_update)
  next => rfl

theorem updateIssue_seenBy (held : SeenBy IssueRow.seenAt moment (tables.issues other)) :
    SeenBy IssueRow.seenAt moment ((tables.updateIssue sources event).issues other) := by
  unfold updateIssue
  split
  next number update is_update => exact seenBy_change (issueUpdate_dated is_update) held
  next => exact held

theorem applyEvent_put (earlier : event.happened < row.seenAt) :
    (tables.putIssue other row).applyEvent sources event turns = (tables.applyEvent sources event turns).putIssue other row := by
  unfold applyEvent
  split
  · rfl
  · rfl
  · exact updateIssue_put earlier

theorem insertTurns_again {runId : String} : (tables.insertTurns runId turns).insertTurns runId turns = tables.insertTurns runId turns := by
  unfold insertTurns
  dsimp only
  rw [Function.update_self, setAll_again, Function.update_idem]

/-- One entry rewritten from itself. -/
theorem update_again {β : Type} (table : String → β) (key : String) {f : β → β} (again : ∀ b, f (f b) = f b) :
    Function.update (Function.update table key (f (table key))) key (f (Function.update table key (f (table key)) key)) =
      Function.update table key (f (table key)) := by
  rw [Function.update_self, again, Function.update_idem]

theorem applyEvent_again :
    (tables.applyEvent sources event turns).applyEvent sources event turns = tables.applyEvent sources event turns := by
  cases event with
  | autoTriageState => rfl
  | ofIssue happened number identifier told =>
    cases told with
    | runStarted run =>
      exact congrArg (fun runs => { tables with runs })
        (update_again (f := fun row => some (startedRow happened number identifier run row)) tables.runs run.runId fun _ =>
          congrArg some startedRow_again)
    | runEnded run =>
      have runs := update_again (f := fun row => some (endedRow happened number identifier run row)) tables.runs run.runId fun _ =>
        congrArg some endedRow_again
      have turns : ((tables.insertTurns run.runId turns).insertTurns run.runId turns).turns = (tables.insertTurns run.runId turns).turns :=
        congrArg Tables.turns insertTurns_again
      show ({ tables with runs := _, turns := _ } : Tables Data) = { tables with runs := _, turns := _ }
      congr 1
    | _ =>
      simp only [applyEvent]
      exact updateIssue_again

theorem applyEvent_seenBy (held : SeenBy IssueRow.seenAt moment (tables.issues other)) :
    SeenBy IssueRow.seenAt moment ((tables.applyEvent sources event turns).issues other) := by
  unfold applyEvent
  split
  · exact held
  · exact held
  · exact updateIssue_seenBy held

theorem reconcileTriageTrack_put (earlier : at_ < row.seenAt) :
    (tables.putIssue other row).reconcileTriageTrack numbers at_ = (tables.reconcileTriageTrack numbers at_).putIssue other row :=
  congrArg (fun issues => { tables with issues }) (putAt_changeAll (fun _ => reconciledRow_dated) earlier).symm

theorem reconcileTriageTrack_again :
    (tables.reconcileTriageTrack numbers at_).reconcileTriageTrack numbers at_ = tables.reconcileTriageTrack numbers at_ :=
  congrArg (fun issues => { tables with issues }) (changeAll_again fun _ => reconciledRow_dated)

/-- A batch of distinct issues written twice is written once. -/
theorem upsertIssues_again {batch : List IssueSnapshot} (distinct : (batch.map fun snapshot => snapshot.issue.number).Nodup) :
    (tables.upsertIssues sources batch).upsertIssues sources batch = tables.upsertIssues sources batch := by
  have numbers : ((batch.map fun snapshot => (snapshot.issue.number, issueRow sources snapshot)).map Prod.fst).Nodup := by
    rwa [List.map_map]
  have again : putAll IssueRow.seenAt _ (putAll IssueRow.seenAt _ tables.issues) = putAll IssueRow.seenAt _ tables.issues := putAll_again numbers
  exact congrArg (fun issues => { tables with issues }) again

end Tables

end Writes

end Postgres
end Issuebot
