import Issuebot.Agent.RunState
import Issuebot.GitHub.Errors

/-!
# A work session

Workspace, `before_run`, turns with a refresh between them, `after_run` and the record. Each
call's reply is given to the program, in the order it asks.
-/

namespace Issuebot
set_option autoImplicit false
open Logic

/-- `BLOCKED_MARKER` -/
def blockedMarker : String := "BLOCKED:"

/-- `BLOCKER_LIMIT` -/
def blockerLimit : Nat := 500

/-- The blocker line's reason, from the first line that is not blank. -/
def blockerFrom (py : Py) (resultText : Option String) : Option String :=
  match (splitlines (resultText.getD "")).map py.strip |>.find? fun line => line ≠ "" with
  | none => none
  | some line =>
    if line.startsWith blockedMarker then
      let reason := ((py.strip (line.drop blockedMarker.length).toString).take blockerLimit).toString
      if reason = "" then none else some reason
    else none

/-- The settings a run reads. -/
structure AgentSettings where
  maxTurns : Nat
  triageMaxTurns : Nat
  runTimeoutMs : Nat

structure HookResult where
  ok : Bool
  summary : String

/-- What a turn of a work session meets; `saved` is whether its record could be written, and
`cancel` whether a stop was asked for by then. -/
structure TurnWorld where
  clock : Datetime
  workpad : Reply GitHubError (Option Nat)
  prompt : Reply AgentError Unit
  swept : Reply Empty Unit
  turn : Reply Empty TurnResult
  saved : Bool
  cancel : Bool
  refreshed : Reply GitHubError (List Issue)

/-- What a work session meets. -/
structure WorkWorld where
  /-- The error of the workspace's path. -/
  path : Option AgentError
  workspace : Reply AgentError String
  beforeRun : Reply Empty (Option HookResult)
  renderer : Reply AgentError Unit
  firstSaved : Bool
  instructions : Reply Empty Unit
  login : Reply GitHubError Unit
  repository : Reply GitHubError Unit
  turns : Nat → TurnWorld
  afterRun : Reply Empty (Option HookResult)
  lastSaved : Bool

section Work

variable (py : Py) (settings : AgentSettings)

/-- After a turn that did not fail: the issue as GitHub has it now, and whether the run is over. -/
def afterTurn (turnNumber : Nat) (turn : TurnResult) (w : TurnWorld) : Session Bool := do
  match ← reply w.refreshed with
  | .error error => failed .githubError (some ("could not refresh the issue: " ++ error.text))
  | .ok [] => stopped .issueMissing
  | .ok (issue :: _) => do
    changeState fun state => { state with issue }
    if issue.state ≠ some .inProgress ∨ ¬ issue.dispatchable then stopped .issueMoved
    else match blockerFrom py turn.resultText with
    | some blocker => do
      changeState fun state => { state with blocker := some blocker }
      stopped .blocked
    | none => if turnNumber = settings.maxTurns then stopped .maxTurns else return false

/-- A turn and what follows it. -/
def runTurn (turnNumber : Nat) (w : TurnWorld) : Session Bool := do
  plain w.swept
  let turn ← plain w.turn
  changeState fun state => state.recordTurn turn
  save turnNumber none w.saved
  if ← failsOn turn then return true
  else if ← cancelledBetween w.cancel then return true
  else afterTurn py settings turnNumber turn w

/-- One time round the loop; whether the run is over. -/
def workTurn (w : TurnWorld) (turnNumber : Nat) : Session Bool := do
  if ← pastDeadline settings.runTimeoutMs w.clock turnNumber then return true
  else match ← reply w.workpad with
  | .error error => failed .githubError (some ("could not find the workpad: " ++ error.text))
  | .ok workpad => do
    changeState fun state => { state with workpad }
    match ← reply w.prompt with
    | .error error => failed error.category (some error.message)
    | .ok () => runTurn py settings turnNumber w

/-- `_turn_loop` -/
def workLoop (w : WorkWorld) : Session Bool := do
  match ← reply w.login with
  | .error error => failed .githubError (some ("could not read the account's login: " ++ error.text))
  | .ok () =>
    match ← reply w.repository with
    | .error error => failed .githubError (some ("could not read the account's repository role: " ++ error.text))
    | .ok () => turnLoop (fun turnNumber => workTurn py settings (w.turns turnNumber) turnNumber) settings.maxTurns 1

/-- What `_execute` does in its workspace. -/
def workBody (w : WorkWorld) : Session Bool := do
  match ← plain w.beforeRun with
  | some { ok := false, summary } => failed .hookError (some ("before_run hook failed: " ++ summary))
  | _ =>
    match ← reply w.renderer with
    | .error error => failed error.category (some error.message)
    | .ok () => do
      save 0 none w.firstSaved
      plain w.instructions
      workLoop py settings w

/-- How a workspace is left: `after_run`, and the record with the outcome as it is by then. To
seal it never raises. -/
def leaveWorkspace (w : WorkWorld) : Session Unit := do
  let _ ← plain w.afterRun
  let run ← Remote.get
  save run.state.turns (some run.state.outcome) w.lastSaved

/-- `_execute` -/
def executeWork (w : WorkWorld) : Session Unit := do
  match ← reply w.workspace with
  | .error error => do
    let _ ← failed error.category (some error.message)
  | .ok path => do
    changeState fun state => { state with logDir := some (path ++ "/.issuebot/runs/" ++ state.runId) }
    let _ ← Remote.lastly (workBody py settings w) (leaveWorkspace w)

/-- `run_session` -/
def runSession (w : WorkWorld) (state : RunState) : FinishedRun :=
  runWith .work id (executeWork py settings w) w.path state

end Work

section Plain

/-- The settings of the sessions evaluated below. -/
def plainAgent : AgentSettings where
  maxTurns := 3
  triageMaxTurns := 2
  runTimeoutMs := 3600000

def plainTurn : TurnResult where
  inputTokens := 1200
  outputTokens := 300
  costUsd := 250000
  resultText := none
  errorCategory := none
  error := none

/-- A turn whose calls are answered. -/
def plainTurnWorld (turn : Reply Empty TurnResult) (refreshed : List Issue) : TurnWorld where
  clock := 0
  workpad := .answered none
  prompt := .answered ()
  swept := .answered ()
  turn
  saved := true
  cancel := false
  refreshed := .answered refreshed

/-- A session whose calls are answered, its turns apart. -/
def plainWork (turns : Nat → TurnWorld) : WorkWorld where
  path := none
  workspace := .answered "/work/tracker-8"
  beforeRun := .answered none
  renderer := .answered ()
  firstSaved := true
  instructions := .answered ()
  login := .answered ()
  repository := .answered ()
  turns
  afterRun := .answered none
  lastSaved := true

/-- A turn, after which the issue is in progress still, and then `second`. -/
def twoTurns (issue : Issue) (second : Reply Empty TurnResult) : WorkWorld :=
  plainWork fun turnNumber =>
    if turnNumber = 1 then plainTurnWorld (.answered plainTurn) [{ issue with state := some .inProgress }]
    else plainTurnWorld second []

/-- What a runner raises that cannot write its log. -/
def noSpace : Unexpected where
  className := "OSError"
  text := "[Errno 28] No space left on device"

end Plain

end Issuebot
