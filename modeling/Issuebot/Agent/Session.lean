import Issuebot.GitHub.Models

/-!
# How a session ends

What the orchestrator reads of a finished session: `RunResult`, and the two ends that
return none.
-/

namespace Issuebot
set_option autoImplicit false

inductive RunOutcome where
  | succeeded
  | failed
  | timedOut
  | cancelled
  deriving DecidableEq, Repr

/-- Why a session stopped. -/
inductive StopReason where
  | issueMoved
  | maxTurns
  | issueMissing
  | failure
  | cancelled
  | blocked
  | verdict
  deriving DecidableEq, Repr

inductive AgentErrorCategory where
  | claudeNotFound
  | invalidWorkspaceCwd
  | turnTimeout
  | runTimeout
  | processExit
  | turnFailed
  | budgetExceeded
  | authFailed
  | usageLimited
  | promptError
  | workspaceError
  | hookError
  | githubError
  | cancelled
  deriving DecidableEq, Repr

/-- The word a message prints. -/
def AgentErrorCategory.value : AgentErrorCategory → String
  | claudeNotFound => "claude_not_found"
  | invalidWorkspaceCwd => "invalid_workspace_cwd"
  | turnTimeout => "turn_timeout"
  | runTimeout => "run_timeout"
  | processExit => "process_exit"
  | turnFailed => "turn_failed"
  | budgetExceeded => "budget_exceeded"
  | authFailed => "auth_failed"
  | usageLimited => "usage_limited"
  | promptError => "prompt_error"
  | workspaceError => "workspace_error"
  | hookError => "hook_error"
  | githubError => "github_error"
  | cancelled => "cancelled"

/-- `outcome_for`: the outcome a failed run reports. -/
def outcomeFor : AgentErrorCategory → RunOutcome
  | .turnTimeout => .timedOut
  | .runTimeout => .timedOut
  | .cancelled => .cancelled
  | _ => .failed

structure AgentError where
  category : AgentErrorCategory
  message : String
  deriving DecidableEq, Repr

/-- What one worker session did and why it stopped. -/
structure RunResult where
  outcome : RunOutcome
  stopReason : StopReason
  errorCategory : Option AgentErrorCategory := none
  error : Option String := none
  turns : Nat
  inputTokens : Nat := 0
  outputTokens : Nat := 0
  costUsd : Usd
  finalState : Option StateLabel := none
  logDir : Option String := none
  blocker : Option String := none
  usageResetAt : Option Datetime := none
  usageWindow : Option String := none
  deriving DecidableEq, Repr

/-- The end of a run's task. -/
inductive RunEnd where
  | cancelled
  | crashed (error : String)
  | returned (result : RunResult)
  deriving DecidableEq, Repr

def RunEnd.result : RunEnd → Option RunResult
  | returned result => some result
  | _ => none

end Issuebot
