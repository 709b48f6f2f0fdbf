import Issuebot.Orchestrator.Spend

/-!
# The record a work run leaves, and what a restart makes of it

The last record is written in a `finally`, with the run's outcome as it is by then. The outer
handler, which makes a failure of what nobody classified, comes after it, and a cancellation
that passes through has no outcome at all.
-/

namespace Issuebot
set_option autoImplicit false
open Logic

/-- `_resume_plan`: the session to resume and the attempt its workspace last recorded; `path` is
the error of the workspace's path. -/
def resumePlan (issue : Issue) (path : Option AgentError) (record : Option SessionRecord) : Option (Option String × Nat) :=
  match path with
  | some _ => none
  | none =>
    match record with
    | none => some (none, 1)
    | some record =>
      if record.issueNumber = issue.number ∧ (record.lastOutcome = none ∨ record.lastOutcome = some .cancelled) then
        some (some record.sessionId, record.attempt)
      else some (none, 1)

namespace FinishedRun

variable {run : FinishedRun} {record : SessionRecord}

/-- What the record of the run may say of its end. -/
def Allows (run : FinishedRun) (lastOutcome : Option RunOutcome) : Prop :=
  match run.published with
  | some ended => lastOutcome = some ended.outcome
  | none => lastOutcome = none ∨ lastOutcome = some .cancelled

/-- The run was interrupted: it published no end, or that it was cancelled. -/
def Interrupted (run : FinishedRun) : Prop := ∀ ended, run.published = some ended → ended.outcome = .cancelled

/-- The record left on disk agrees with how the run ended, and a restarted worker resumes the
session, at the attempt of the record, exactly where the run was interrupted. -/
structure RecordAgrees (run : FinishedRun) : Prop where
  outcome : ∀ record, run.record = some record → run.Allows record.lastOutcome
  resumes : ∀ (issue : Issue) (record : SessionRecord), run.record = some record → record.issueNumber = issue.number →
    (resumePlan issue none run.record = some (some record.sessionId, record.attempt) ↔ run.Interrupted)

/-- A plan follows what the record says. -/
theorem resumes_iff {issue : Issue} (kept : run.record = some record) (same : record.issueNumber = issue.number) :
    resumePlan issue none run.record = some (some record.sessionId, record.attempt) ↔
      record.lastOutcome = none ∨ record.lastOutcome = some .cancelled := by
  rw [kept, resumePlan]
  simp only [same, true_and]
  split
  next open_end => exact iff_of_true rfl open_end
  next decided => exact iff_of_false (by simp) decided

/-- A record may say that the run was interrupted exactly where it was. -/
theorem Allows.open_iff {lastOutcome : Option RunOutcome} (allows : run.Allows lastOutcome) :
    lastOutcome = none ∨ lastOutcome = some .cancelled ↔ run.Interrupted := by
  unfold Allows at allows
  unfold Interrupted
  cases published : run.published with
  | none =>
    rw [published] at allows
    exact iff_of_true allows nofun
  | some ended =>
    rw [published] at allows
    simp [allows]

theorem recordAgrees_iff : run.RecordAgrees ↔ ∀ record, run.record = some record → run.Allows record.lastOutcome :=
  ⟨RecordAgrees.outcome, fun allows => ⟨allows, fun _ record kept same =>
    (resumes_iff kept same).trans (allows record kept).open_iff⟩⟩

instance {lastOutcome : Option RunOutcome} : Decidable (run.Allows lastOutcome) :=
  match published : run.published with
  | some ended => decidable_of_iff (lastOutcome = some ended.outcome) (by rw [Allows, published])
  | none => decidable_of_iff (lastOutcome = none ∨ lastOutcome = some .cancelled) (by rw [Allows, published])

instance : Decidable run.RecordAgrees :=
  decidable_of_iff (∀ record ∈ run.record, run.Allows record.lastOutcome) recordAgrees_iff.symm

/-- A record that does not say how the run ended is right where the run published no end. -/
theorem agrees_of_undecided (undecided : ∀ record, run.record = some record → record.lastOutcome = none) :
    run.RecordAgrees ↔ run.record = none ∨ run.published = none := by
  rw [recordAgrees_iff]
  cases kept : run.record with
  | none => simp
  | some record =>
    have open_end : record.lastOutcome = none := undecided record kept
    cases published : run.published with
    | none => simp [Allows, open_end, published]
    | some ended => simp [Allows, open_end, published]

/-- A record that says how the run ended. -/
theorem agrees_of_decided {lastOutcome : RunOutcome} (kept : run.record = some record)
    (decided : record.lastOutcome = some lastOutcome) : run.RecordAgrees ↔ run.Allows (some lastOutcome) := by
  rw [recordAgrees_iff, kept, ← decided]
  simp

end FinishedRun

section Leaving

variable {py : Py} {settings : AgentSettings} {w : WorkWorld}

/-- The end of `_execute`, from the end of its body and the run as the body left it. -/
def leave (w : WorkWorld) (body : Except Abrupt Bool) (inside : SessionRun) : Except Abrupt Unit × SessionRun :=
  match (leaveWorkspace w).outcome inside with
  | (.ok (), run) => (body.map fun _ => (), run)
  | (.error stop, run) => (.error stop, run)

/-- The run in its workspace. -/
def inWorkspace (path : String) (state : RunState) : SessionRun where
  state := { state with logDir := some (path ++ "/.issuebot/runs/" ++ state.runId) }

theorem executeWork_outcome {path : String} {state : RunState} (made : w.workspace = .answered path) :
    (executeWork py settings w).outcome { state } =
      leave w ((workBody py settings w).outcome (inWorkspace path state)).1
        ((workBody py settings w).outcome (inWorkspace path state)).2 := by
  simp only [Session.outcome, executeWork, made, reply, Bind.bind, Pure.pure, changeState, Remote.modify, Remote.lastly, leave,
    inWorkspace]
  generalize workBody py settings w _ _ = left
  rcases left with ⟨body, inside⟩
  rcases leaveWorkspace w _ inside with ⟨stop | ⟨⟩, run⟩
  · rfl
  · cases body <;> rfl

/-- A workspace is left in order where `after_run` was cancelled; where it answered, the record
could be written and the body returned; and else where no record was there that a published end
could belie. -/
def LeftInOrder (w : WorkWorld) (body : Except Abrupt Bool) (inside : SessionRun) : Prop :=
  match w.afterRun with
  | .cancelled => True
  | .raised _ => inside.record = none
  | .refused error => error.elim
  | .answered _ => if w.lastSaved then body.isOk = true else inside.record = none ∨ body = .error .cancelled

theorem leaveWorkspace_answered {hook : Option HookResult} {inside : SessionRun} (answered : w.afterRun = .answered hook) :
    (leaveWorkspace w).outcome inside =
      (.ok (), if w.lastSaved then { inside with record := some (inside.state.sessionRecord inside.state.turns (some inside.state.outcome)) }
        else inside) := by
  simp only [leaveWorkspace, Session.outcome, answered, plain, save, Bind.bind, Pure.pure, Remote.get, Remote.when]
  cases w.lastSaved <;> rfl

theorem leaveWorkspace_raised {exception : Unexpected} {inside : SessionRun} (raised : w.afterRun = .raised exception) :
    (leaveWorkspace w).outcome inside = (.error (.raised exception), inside) := by
  simp only [leaveWorkspace, Session.outcome, raised, plain, Bind.bind, Remote.raise]

theorem leaveWorkspace_cancelled {inside : SessionRun} (cancelled : w.afterRun = .cancelled) :
    (leaveWorkspace w).outcome inside = (.error .cancelled, inside) := by
  simp only [leaveWorkspace, Session.outcome, cancelled, plain, Bind.bind, Remote.raise]

theorem concluded_agrees_iff {issueNumber : Nat} {body : Except Abrupt Bool} {inside : SessionRun} (unsettled : Unsettled inside)
    (stopped : body.isOk = false → inside.state.outcome = .succeeded) :
    (concludeRun .work id issueNumber (leave w body inside)).RecordAgrees ↔ LeftInOrder w body inside := by
  unfold leave LeftInOrder
  cases hook : w.afterRun with
  | refused error => exact error.elim
  | cancelled =>
    rw [leaveWorkspace_cancelled hook]
    exact iff_of_true ((FinishedRun.agrees_of_undecided unsettled.undecided).mpr (.inr rfl)) trivial
  | raised exception =>
    rw [leaveWorkspace_raised hook]
    exact (FinishedRun.agrees_of_undecided unsettled.undecided).trans (or_iff_left nofun)
  | answered =>
    rw [leaveWorkspace_answered hook]
    cases saved : w.lastSaved with
    | true =>
      have decided (run : FinishedRun)
          (kept : run.record = some (inside.state.sessionRecord inside.state.turns (some inside.state.outcome))) :
          run.RecordAgrees ↔ run.Allows (some inside.state.outcome) := FinishedRun.agrees_of_decided kept rfl
      rcases body with (exception | _) | answer
      · refine (decided _ rfl).trans (iff_of_false (fun allows => ?_) nofun)
        have failed : some inside.state.outcome = some RunOutcome.failed := allows
        rw [stopped rfl] at failed
        cases failed
      · refine (decided _ rfl).trans (iff_of_false (fun allows => ?_) nofun)
        have open_end : some inside.state.outcome = none ∨ some inside.state.outcome = some RunOutcome.cancelled := allows
        rw [stopped rfl] at open_end
        simp at open_end
      · exact (decided _ rfl).trans (iff_of_true rfl rfl)
    | false =>
      simp only [Bool.false_eq_true, if_false]
      rcases body with (exception | _) | answer
      · exact (FinishedRun.agrees_of_undecided unsettled.undecided).trans (or_congr_right (iff_of_false nofun nofun))
      · exact (FinishedRun.agrees_of_undecided unsettled.undecided).trans (or_congr_right (iff_of_true rfl rfl))
      · exact (FinishedRun.agrees_of_undecided unsettled.undecided).trans (or_congr_right (iff_of_false nofun nofun))

/-- The body of a run that starts leaves no record that says how it ended, and a run that has
not failed where it stops before its end. -/
theorem workBody_left {run : SessionRun} (going : Going run) :
    Unsettled ((workBody py settings w).outcome run).2 ∧
      (((workBody py settings w).outcome run).1.isOk = false → ((workBody py settings w).outcome run).2.state.outcome = .succeeded) := by
  have left := @workBody_part py settings w Empty.elim run going
  rcases ran : (workBody py settings w).outcome run with ⟨stop | answer, run'⟩
  · have same : workBody py settings w Empty.elim run = (.error stop, run') := (Session.outcome_eq Empty.elim).symm.trans ran
    rw [same] at left
    exact ⟨left.toUnsettled, fun _ => left.outcome⟩
  · have same : workBody py settings w Empty.elim run = (.ok answer, run') := (Session.outcome_eq Empty.elim).symm.trans ran
    rw [same] at left
    exact ⟨left.1, fun stopped => by cases stopped⟩

end Leaving

section Main

variable {py : Py} {settings : AgentSettings} {w : WorkWorld} {path : String} {issue : Issue} {attempt : Nat}
variable {runId sessionId : String} {started : Datetime}

/-- The record a work run leaves, after its workspace was made, agrees with how it ended if and
only if the workspace was left in order. -/
theorem record_agrees_iff (resolved : w.path = none) (made : w.workspace = .answered path) :
    (runSession py settings w (newRun issue attempt runId sessionId started)).RecordAgrees ↔
      LeftInOrder w ((workBody py settings w).outcome (inWorkspace path (newRun issue attempt runId sessionId started))).1
        ((workBody py settings w).outcome (inWorkspace path (newRun issue attempt runId sessionId started))).2 := by
  have going : Going (inWorkspace path (newRun issue attempt runId sessionId started)) := ⟨⟨fun _ => rfl, nofun⟩, rfl⟩
  obtain ⟨unsettled, stopped⟩ := @workBody_left py settings w _ going
  rw [runSession, resolved, runWith, executeWork_outcome made]
  exact concluded_agrees_iff unsettled stopped

/-- A run whose second turn raises, and one that is cancelled in it: the record of both has
`succeeded`. -/
theorem interrupted_recorded_as_success :
    ¬ (Orchestrator.secondTurn (.raised noSpace)).RecordAgrees ∧ ¬ (Orchestrator.secondTurn .cancelled).RecordAgrees := by
  decide +kernel

/-- A run whose second turn is answered. -/
theorem success_recorded :
    (runSession Py.ascii plainAgent (twoTurns (Orchestrator.todoIssue 8) (.answered plainTurn))
      (newRun (Orchestrator.todoIssue 8) 1 "20260928T090500Z-a1b2c3" "session" 0)).RecordAgrees := by
  refine (record_agrees_iff rfl rfl).mpr ?_
  have returned : ((workBody Py.ascii plainAgent (twoTurns (Orchestrator.todoIssue 8) (.answered plainTurn))).outcome
      (inWorkspace "/work/tracker-8" (newRun (Orchestrator.todoIssue 8) 1 "20260928T090500Z-a1b2c3" "session" 0))).1.isOk := by
    decide +kernel
  exact returned

end Main

end Issuebot
