import Issuebot.Agent.WorkSession

/-!
# A triage session

A throwaway clone, a read-only agent, a verdict out. A parent review is the same session with
one more read. It keeps no record, and its result reports no state of the issue.
-/

namespace Issuebot
set_option autoImplicit false
open Logic

/-- What a turn of a triage session meets. -/
structure TriageTurnWorld where
  clock : Datetime
  prompt : Reply AgentError Unit
  swept : Reply Empty Unit
  turn : Reply Empty TurnResult
  cancel : Bool

/-- What a triage session meets. -/
structure TriageSessionWorld where
  path : Option AgentError
  workspace : Reply AgentError String
  renderer : Reply AgentError Unit
  instructions : Reply Empty Unit
  comments : Reply GitHubError Unit
  steps : Reply GitHubError Unit
  login : Reply GitHubError Unit
  repository : Reply GitHubError Unit
  turns : Nat → TriageTurnWorld

section Triage

variable (settings : AgentSettings)

/-- A triage turn and what follows it. -/
def runTriageTurn (w : TriageTurnWorld) : Session Bool := do
  plain w.swept
  let turn ← plain w.turn
  changeState fun state => state.recordTurn turn
  if ← failsOn turn then return true
  else if turn.structuredOutput then stopped .verdict
  else cancelledBetween w.cancel

/-- One time round the loop; whether the run is over. -/
def triageTurnAt (w : TriageTurnWorld) (turnNumber : Nat) : Session Bool := do
  if ← pastDeadline settings.runTimeoutMs w.clock turnNumber then return true
  else match ← reply w.prompt with
  | .error error => failed error.category (some error.message)
  | .ok () => runTriageTurn w

/-- The turns, the last of which may leave the run without a verdict. -/
def triageLoop (w : TriageSessionWorld) : Session Bool := do
  if ← turnLoop (fun turnNumber => triageTurnAt settings (w.turns turnNumber) turnNumber) settings.triageMaxTurns 1
  then return true
  else stopped .maxTurns

/-- A parent review reads the parent's steps too. -/
def readSteps (kind : RunKind) (w : TriageSessionWorld) : Session (Except GitHubError Unit) :=
  if kind = .parentReview then reply w.steps else pure (.ok ())

/-- The reads a prompt needs of GitHub, and then the turns. -/
def readThenTriage (kind : RunKind) (w : TriageSessionWorld) : Session Bool := do
  match ← reply w.comments with
  | .error error => failed .githubError (some ("could not read the comments: " ++ error.text))
  | .ok () =>
    match ← readSteps kind w with
    | .error error => failed .githubError (some ("could not read the sub-issues: " ++ error.text))
    | .ok () =>
      match ← reply w.login with
      | .error error => failed .githubError (some ("could not read the account's login: " ++ error.text))
      | .ok () =>
        match ← reply w.repository with
        | .error error =>
          failed .githubError (some ("could not read the account's repository role: " ++ error.text))
        | .ok () => triageLoop settings w

/-- `_execute` of a triage session. To seal the clone never raises. -/
def executeTriage (kind : RunKind) (w : TriageSessionWorld) : Session Unit := do
  match ← reply w.workspace with
  | .error error => do
    let _ ← failed error.category (some error.message)
  | .ok path => do
    changeState fun state => { state with logDir := some (path ++ "/.issuebot/runs/" ++ state.runId) }
    match ← reply w.renderer with
    | .error error => do
      let _ ← failed error.category (some error.message)
    | .ok () => do
      plain w.instructions
      let _ ← readThenTriage settings kind w

/-- A triage run moves no label, so it has no state to report. -/
def withoutState (result : RunResult) : RunResult := { result with finalState := none }

/-- `run_triage`; `kind` is that of a triage or of a parent review. -/
def runTriage (kind : RunKind) (w : TriageSessionWorld) (state : RunState) : FinishedRun :=
  runWith kind withoutState (executeTriage settings kind w) w.path state

end Triage

/-- A run of any kind, with what it meets. -/
inductive RunWorld where
  | work (w : WorkWorld)
  | triage (w : TriageSessionWorld)
  | parentReview (w : TriageSessionWorld)

namespace RunWorld

def kind : RunWorld → RunKind
  | work _ => .work
  | triage _ => .triage
  | parentReview _ => .parentReview

/-- The error of the workspace's path. -/
def path : RunWorld → Option AgentError
  | work w => w.path
  | triage w => w.path
  | parentReview w => w.path

/-- The `_execute` of the run. -/
def execute (py : Py) (settings : AgentSettings) : RunWorld → Session Unit
  | work w => executeWork py settings w
  | triage w => executeTriage settings .triage w
  | parentReview w => executeTriage settings .parentReview w

end RunWorld

/-- A run as it starts. -/
def newRun (issue : Issue) (attempt : Nat) (runId sessionId : String) (started : Datetime) : RunState where
  runId
  sessionId
  attempt
  issue
  started

/-- The run, over. -/
def finishedRun (py : Py) (settings : AgentSettings) (state : RunState) : RunWorld → FinishedRun
  | .work w => runSession py settings w state
  | .triage w => runTriage settings .triage w state
  | .parentReview w => runTriage settings .parentReview w state

end Issuebot
