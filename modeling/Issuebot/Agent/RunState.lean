import Issuebot.Agent.Session
import Issuebot.Events
import Issuebot.Logic.Remote

/-!
# One run's progress

`RunState` and the blocks both turn loops share: the deadline, a failed turn and a
cancellation between turns. A session is a program over it that stops before its end where a
call raises what nobody classifies, or where its task is cancelled at an `await`.
-/

namespace Issuebot
set_option autoImplicit false
open Logic

/-- One `claude -p`, as far as a run reads it. -/
structure TurnResult where
  inputTokens : Nat
  outputTokens : Nat
  costUsd : Usd
  resultText : Option String
  errorCategory : Option AgentErrorCategory
  error : Option String
  usageResetAt : Option Datetime := none
  usageWindow : Option String := none
  /-- Whether it returned structured output: a session's verdict. -/
  structuredOutput : Bool := false
  deriving DecidableEq, Repr

def TurnResult.ok (turn : TurnResult) : Bool := turn.errorCategory.isNone

/-- What a workspace keeps of the session that ran in it. -/
structure SessionRecord where
  issueNumber : Nat
  runId : String
  sessionId : String
  attempt : Nat
  turnNumber : Nat
  lastOutcome : Option RunOutcome
  workpadCommentId : Option Nat
  deriving DecidableEq, Repr

structure RunState where
  runId : String
  sessionId : String
  attempt : Nat
  issue : Issue
  started : Datetime
  logDir : Option String := none
  turns : Nat := 0
  inputTokens : Nat := 0
  outputTokens : Nat := 0
  costUsd : Usd := 0
  outcome : RunOutcome := .succeeded
  stopReason : Option StopReason := none
  errorCategory : Option AgentErrorCategory := none
  error : Option String := none
  blocker : Option String := none
  usageResetAt : Option Datetime := none
  usageWindow : Option String := none
  workpad : Option Nat := none
  deriving DecidableEq, Repr

namespace RunState

def fail (state : RunState) (category : AgentErrorCategory) (message : Option String) : RunState :=
  { state with
    errorCategory := some category
    error := some (orDefault message category.value)
    outcome := outcomeFor category
    stopReason := some (if category = .cancelled then .cancelled else .failure) }

def stop (state : RunState) (reason : StopReason) : RunState :=
  { state with stopReason := some reason, outcome := .succeeded }

def recordTurn (state : RunState) (turn : TurnResult) : RunState :=
  { state with
    turns := state.turns + 1
    inputTokens := state.inputTokens + turn.inputTokens
    outputTokens := state.outputTokens + turn.outputTokens
    costUsd := state.costUsd + turn.costUsd }

def runDeadline (state : RunState) (runTimeoutMs : Nat) : Datetime := state.started + runTimeoutMs * 1000

def sessionRecord (state : RunState) (turnNumber : Nat) (lastOutcome : Option RunOutcome) : SessionRecord where
  issueNumber := state.issue.number
  runId := state.runId
  sessionId := state.sessionId
  attempt := state.attempt
  turnNumber
  lastOutcome
  workpadCommentId := state.workpad

def result (state : RunState) : RunResult where
  outcome := state.outcome
  stopReason := state.stopReason.getD .failure
  errorCategory := state.errorCategory
  error := state.error
  turns := state.turns
  inputTokens := state.inputTokens
  outputTokens := state.outputTokens
  costUsd := state.costUsd
  finalState := state.issue.state
  logDir := state.logDir
  blocker := state.blocker
  usageResetAt := state.usageResetAt
  usageWindow := state.usageWindow

end RunState

/-- An exception no run classifies: its class, and its text. -/
structure Unexpected where
  className : String
  text : String
  deriving DecidableEq, Repr

/-- How a session's program stops before its end. -/
inductive Abrupt where
  | raised (exception : Unexpected)
  | cancelled
  deriving DecidableEq, Repr

/-- What a call brings back: an answer, the error its caller handles, or what it does not. A
task is cancelled at an `await` only. -/
inductive Reply (ε α : Type) where
  | answered (answer : α)
  | refused (error : ε)
  | raised (exception : Unexpected)
  | cancelled

/-- A run as it goes on: its state, and the last record it wrote. -/
structure SessionRun where
  state : RunState
  record : Option SessionRecord := none
  deriving DecidableEq, Repr

abbrev Session (α : Type) : Type := Remote Empty Abrupt SessionRun α

/-- How a session's program ends, and the run it leaves. -/
def Session.outcome {α : Type} (session : Session α) (run : SessionRun) : Except Abrupt α × SessionRun := session nofun run

/-- There are no calls to answer. -/
theorem Session.outcome_eq {α : Type} {session : Session α} {run : SessionRun} (calls : Empty → Fate Abrupt) :
    session.outcome run = session calls run := congrArg (fun calls => session calls run) (Subsingleton.elim _ calls)

section Calls

variable {ε α : Type}

/-- A call whose error is handled. -/
def reply : Reply ε α → Session (Except ε α)
  | .answered answer => pure (.ok answer)
  | .refused error => pure (.error error)
  | .raised exception => Remote.raise (.raised exception)
  | .cancelled => Remote.raise .cancelled

/-- A call with no error to handle. -/
def plain : Reply Empty α → Session α
  | .answered answer => pure answer
  | .refused error => error.elim
  | .raised exception => Remote.raise (.raised exception)
  | .cancelled => Remote.raise .cancelled

def changeState (f : RunState → RunState) : Session Unit := .modify fun run => { run with state := f run.state }

/-- The run fails, and is over. -/
def failed (category : AgentErrorCategory) (message : Option String) : Session Bool := do
  changeState fun state => state.fail category message
  return true

/-- The run stops, and is over. -/
def stopped (reason : StopReason) : Session Bool := do
  changeState fun state => state.stop reason
  return true

/-- `_save`: a record that could not be written is logged. -/
def save (turnNumber : Nat) (lastOutcome : Option RunOutcome) (written : Bool) : Session Unit :=
  .when written (.modify fun run => { run with record := some (run.state.sessionRecord turnNumber lastOutcome) })

end Calls

section Shared

/-- `past_deadline`, at `clock`. -/
def pastDeadline (runTimeoutMs : Nat) (clock : Datetime) (turnNumber : Nat) : Session Bool := do
  let run ← Remote.get
  if clock < run.state.runDeadline runTimeoutMs then return false
  else
    failed .runTimeout (some ("run deadline reached before turn " ++ toString turnNumber ++ ": " ++
      toString (wholeSeconds runTimeoutMs) ++ "s of wall clock (agent.run_timeout_ms)"))

/-- `fails_on`: a turn that met its budget is no failure. -/
def failsOn (turn : TurnResult) : Session Bool :=
  match turn.errorCategory with
  | none => return false
  | some category =>
    if category = .budgetExceeded then return false
    else do
      changeState fun state => { state with usageResetAt := turn.usageResetAt, usageWindow := turn.usageWindow }
      failed category turn.error

/-- `cancelled`: whether `cancel` was set during the turn just finished. -/
def cancelledBetween (cancel : Bool) : Session Bool :=
  if cancel then failed .cancelled (some "cancelled between turns") else return false

/-- `for turn_number in range(turn_number, turn_number + remaining)`, until a turn is the last. -/
def turnLoop (turn : Nat → Session Bool) : Nat → Nat → Session Bool
  | 0, _ => return false
  | remaining + 1, turnNumber => do
    if ← turn turnNumber then return true
    else turnLoop turn remaining (turnNumber + 1)

end Shared

section Finished

/-- The event a run's end publishes. -/
structure RunEnded where
  issueNumber : Nat
  runId : String
  outcome : RunOutcome
  error : Option String
  turns : Nat
  inputTokens : Nat
  outputTokens : Nat
  costUsd : Usd
  logDir : Option String
  runKind : RunKind
  deriving DecidableEq, Repr

/-- `error_text` -/
def RunResult.errorText (result : RunResult) : Option String :=
  result.errorCategory.map fun category => category.value ++ ": " ++ result.error.getD "None"

/-- A run that is over: what it published after `RunStarted`, how its task ended, and the last
record it wrote. -/
structure FinishedRun where
  published : Option RunEnded
  ending : RunEnd
  record : Option SessionRecord
  deriving DecidableEq, Repr

/-- The event of a result. -/
def runEnded (kind : RunKind) (issueNumber : Nat) (runId : String) (result : RunResult) : RunEnded where
  issueNumber
  runId
  outcome := result.outcome
  error := result.errorText
  turns := result.turns
  inputTokens := result.inputTokens
  outputTokens := result.outputTokens
  costUsd := result.costUsd
  logDir := result.logDir
  runKind := kind

/-- A run that ended with a result: `view` is what its kind makes of it. -/
def endedRun (kind : RunKind) (view : RunResult → RunResult) (issueNumber : Nat) (run : SessionRun) : FinishedRun :=
  let result := view run.state.result
  { published := some (runEnded kind issueNumber run.state.runId result)
    ending := .returned result
    record := run.record }

/-- The failure of a run that something nobody classifies ended. -/
def SessionRun.crash (run : SessionRun) (exception : Unexpected) : SessionRun :=
  { run with
    state := run.state.fail .turnFailed (some ("unexpected " ++ exception.className ++ ": " ++ exception.text)) }

/-- How the session's program ended. What it did not classify ends the run as failed and then
goes on to the orchestrator; a cancellation passes through. -/
def concludeRun (kind : RunKind) (view : RunResult → RunResult) (issueNumber : Nat) :
    Except Abrupt Unit × SessionRun → FinishedRun
  | (.ok (), run) => endedRun kind view issueNumber run
  | (.error (.raised exception), run) =>
    { endedRun kind view issueNumber (run.crash exception) with ending := .crashed exception.text }
  | (.error .cancelled, run) => { published := none, ending := .cancelled, record := run.record }

/-- What `run_session` and `run_triage` share: `path` is the error of the workspace's path. -/
def runWith (kind : RunKind) (view : RunResult → RunResult) (execute : Session Unit) (path : Option AgentError)
    (state : RunState) : FinishedRun :=
  match path with
  | some error => endedRun kind view state.issue.number { state := state.fail error.category (some error.message) }
  | none => concludeRun kind view state.issue.number (execute.outcome { state })

end Finished

end Issuebot
