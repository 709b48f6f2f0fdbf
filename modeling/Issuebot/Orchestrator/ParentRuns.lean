import Issuebot.Logic.Runs
import Issuebot.Orchestrator.ParentMemory

/-!
# A parent over the worker's passes

What happens to one issue between two passes of the worker, one thing after another: its
reviews start, end, are filed and tried again, it is handed over, and anyone changes it on
GitHub. `ParentAct` names each with what it meets, and `ParentAct.program` is the worker's own
program for it. `acted` and `gaps` count the verdicts acted on and the gap verdicts filed since
the parent's record was last reset; the proofs speak of them, and no program reads them.
-/

namespace Issuebot
set_option autoImplicit false
open Logic Remote

/-- One issue as the worker meets it: GitHub's state, its memory and the run that is going. -/
structure ParentView where
  system : System
  running : Option RunKind
  acted : Nat := 0
  gaps : Nat := 0
  deriving DecidableEq, Repr

def ParentView.memory (v : ParentView) : ParentMemory := v.system.worker.memory

/-- The record, or a new one. -/
def ParentView.record (v : ParentView) : ParentRecord := v.memory.record.getD {}

/-- What can happen to the issue. -/
inductive ParentAct where
  /-- Anyone changes it or its steps on GitHub. -/
  | outside (family : Family)
  /-- The worker forgets a note it owes, or changes what no review reads. -/
  | aside (worker : Worker)
  /-- A work run starts. -/
  | worked
  /-- A triage run starts, `steps` being what GitHub lists of the issue's. -/
  | triaged (issue : Issue) (steps : List SubIssue)
  /-- The watch starts a review of the parent it read. -/
  | watched (steps : ParentSteps)
  /-- A person's `triage-todo` on a split parent starts a review. -/
  | requested (issue : Issue) (steps : List SubIssue)
  /-- The same while a step is open. -/
  | waiting (issue : Issue) (steps : List SubIssue) (clocks : Clocks) (F : Call → Fate GitHubError)
  /-- A run ends with nothing to file and no failure counted. -/
  | released (worker : Worker)
  | failed (entry : RunningEntry) (error : String) (clocks : Clocks) (F : Call → Fate GitHubError)
  | triageVerdict (entry : RunningEntry) (verdict : TriageVerdict) (result : RunResult) (clocks : Clocks)
      (F : Call → Fate GitHubError)
  | reviewVerdict (entry : RunningEntry) (verdict : ParentReviewVerdict) (result : RunResult) (clocks : Clocks)
      (F : Call → Fate GitHubError)
  | retriedVerdict (clocks : Clocks) (F : Call → Fate GitHubError)
  | retriedReview (clocks : Clocks) (F : Call → Fate GitHubError)
  /-- The watch or the triage pass hands the parent over, or writes a note it owes again. -/
  | handedOver (issue : Issue) (note : ParentHandOver) (clocks : Clocks) (F : Call → Fate GitHubError)
  /-- The triage pass hands back an issue with no steps. -/
  | handedBack (issue : Issue) (title reason wayBack : String) (clocks : Clocks) (F : Call → Fate GitHubError)
  /-- The watch finds the parent closed, or GitHub returns it no longer. -/
  | finished (answer : Option ParentSteps)

variable {py : Py}

/-- The review's verdict as its exit judges it, by the record it finds. -/
def exitReview (settings : Settings py) (entry : RunningEntry) (verdict : ParentReviewVerdict) (result : RunResult)
    (record : ParentRecord) : PendingParentReview where
  issue := entry.issue
  verdict
  seen := entry.stepsSeen
  counts := {
    review := record.reviews + 1
    maxReviews := settings.maxParentReviews
    gapRound := if verdict.verdict = .gap then record.gapRounds + 1 else record.gapRounds
    maxGapRounds := settings.maxGapRounds }
  runId := entry.runId
  attempt := entry.attempt
  turns := result.turns
  cost := result.costUsd

/-- The triage verdict as its exit files it. -/
def exitVerdict (entry : RunningEntry) (verdict : TriageVerdict) (result : RunResult) : PendingVerdict where
  issue := entry.issue
  verdict
  runId := entry.runId
  attempt := entry.attempt
  turns := result.turns
  cost := result.costUsd

namespace ParentAct

variable (settings : Settings py)

/-- The worker's program for it. -/
def program : ParentAct → Filing Unit
  | outside family => .modify fun s => { s with family }
  | aside w | released w => worker fun _ => w
  | worked | triaged .. | watched .. => pure ()
  | requested .. => recordParent {}
  | waiting issue steps clocks _ => reviewWaiting py settings.toFilingConfig issue clocks steps
  | failed entry error clocks _ =>
    triageFailed py settings.toFilingConfig entry settings.maxRetryBackoffMs error clocks
  | triageVerdict entry verdict result clocks _ => fileTriage py settings.toFilingConfig entry verdict result clocks
  | reviewVerdict entry verdict result clocks _ =>
    fileReview py settings.toFilingConfig entry settings.maxParentReviews settings.maxGapRounds verdict result clocks
  | retriedVerdict clocks _ => retryPendingVerdict py settings.toFilingConfig clocks
  | retriedReview clocks _ => retryPendingReview py settings.toFilingConfig clocks
  | handedOver issue note clocks _ => do
    let _ ← handOverParent py settings.toFilingConfig issue note.title note.reason note.wayBack clocks
  | handedBack issue title reason wayBack clocks _ => do
    let _ ← triageHandBack py settings.toFilingConfig issue title reason wayBack clocks
  | finished _ => parentFinished

/-- What becomes of its calls. -/
def fates : ParentAct → Call → Fate GitHubError
  | waiting _ _ _ F | failed _ _ _ F | triageVerdict _ _ _ _ F | reviewVerdict _ _ _ _ F | retriedVerdict _ F
  | retriedReview _ F | handedOver _ _ _ F | handedBack _ _ _ _ _ F => F
  | _ => fun _ => .answered

/-- The run that is going after it. -/
def going (running : Option RunKind) : ParentAct → Option RunKind
  | worked => some .work
  | triaged .. => some .triage
  | watched .. | requested .. => some .parentReview
  | released .. | failed .. | triageVerdict .. | reviewVerdict .. => none
  | _ => running

/-- What only forgets a note. -/
structure Beside (before after : ParentMemory) : Prop where
  triage : after.triage = before.triage
  pending : after.pending = before.pending
  handover : after.handover = before.handover ∨ after.handover = none
  record : after.record = before.record

/-- No run of the issue is going, and no verdict of it is owed. -/
structure Free (v : ParentView) : Prop where
  running : v.running = none
  triage : v.memory.triage = none
  pending : v.memory.pending = none

/-- When the worker does it. -/
def Allowed (v : ParentView) : ParentAct → Prop
  | outside _ | retriedVerdict .. | retriedReview .. => True
  | aside w => Beside v.memory w.memory
  | worked => v.running = none
  | triaged issue steps => Free v ∧ v.memory.handover = none ∧ (issue.subIssueCount = 0 ∨ steps = [])
  | watched steps =>
    v.running = none ∧ v.memory.pending = none ∧ v.memory.handover = none ∧
      (∃ record, v.memory.record = some record ∧ record.watched ∧ record.reviews < settings.maxParentReviews) ∧
      parentReviewDue py steps settings.labels
  | requested issue steps =>
    Free v ∧ v.memory.handover = none ∧ isTriageCandidate py issue settings.labels ∧ steps ≠ [] ∧
      ∀ step ∈ steps, step.state = .closed
  | waiting issue steps _ _ =>
    Free v ∧ v.memory.handover = none ∧ isTriageCandidate py issue settings.labels ∧
      ∃ step ∈ steps, step.state = .opened
  | released w => v.running.isSome ∧ Beside v.memory w.memory
  | failed entry _ _ _ => v.running = some entry.kind ∧ entry.kind ≠ .work
  | triageVerdict .. => v.running = some .triage
  | reviewVerdict .. => v.running = some .parentReview
  | handedOver _ note _ _ =>
    v.running = none ∧ v.memory.pending = none ∧ (v.memory.handover = some note ∨ note.title ≠ notFiledTitle)
  | handedBack issue _ _ _ _ _ => Free v ∧ issue.subIssueCount = 0
  | finished answer => v.memory.record.any ParentRecord.watched ∧ ∀ steps, answer = some steps → steps.state = .closed

/-- The review's verdict it tries to file. -/
def tries (v : ParentView) : ParentAct → Option (PendingParentReview × Clocks)
  | reviewVerdict entry verdict result clocks _ => some (exitReview settings entry verdict result v.record, clocks)
  | retriedReview clocks _ => v.memory.pending.map fun pending => (pending, clocks)
  | _ => none

/-- The attempt it makes to file one. -/
def attempt (v : ParentView) (act : ParentAct) : Option (PendingParentReview × Attempt) :=
  (act.tries settings v).map fun (pending, clocks) =>
    (pending, reviewAttempt settings.toFilingConfig pending clocks act.fates v.system)

/-- What it drops a review's verdict for. -/
def discards (v : ParentView) (act : ParentAct) : Option DiscardReason :=
  (act.tries settings v).bind fun (pending, _) =>
    reviewDiscarded settings.toFilingConfig pending act.fates v.system.family

/-- Whether a triage verdict's filing comes to a filed split. -/
def filesSplit (pending : PendingVerdict) (clocks : Clocks) (F : Call → Fate GitHubError) (s : System) : Bool :=
  match (fileOwedVerdict py settings.toFilingConfig pending clocks.now F
      { s with worker := { s.worker with noted := pending.swapped } }).1 with
  | .ok (some _) => pending.verdict.verdict = .split
  | _ => false

/-- The record is reset: a filed split, or a review a person's `triage-todo` requests. -/
def resets (v : ParentView) : ParentAct → Bool
  | requested .. | waiting .. => true
  | triageVerdict entry verdict result clocks F => filesSplit settings (exitVerdict entry verdict result) clocks F v.system
  | retriedVerdict clocks F => v.memory.triage.any fun pending => filesSplit settings pending clocks F v.system
  | _ => false

/-- The verdict it acts on, if any. -/
def acts (v : ParentView) (act : ParentAct) : Bool := (act.attempt settings v).any fun tried => tried.2.acts

/-- Whether it files a gap verdict. -/
def filesGap (v : ParentView) (act : ParentAct) : Bool :=
  (act.attempt settings v).any fun tried => tried.2 = .filed && tried.1.verdict.verdict = .gap

/-- What it leaves. -/
def after (v : ParentView) (act : ParentAct) : ParentView where
  system := (act.program settings act.fates v.system).2
  running := act.going v.running
  acted := (if act.resets settings v then 0 else v.acted) + (act.acts settings v).toNat
  gaps := (if act.resets settings v then 0 else v.gaps) + (act.filesGap settings v).toNat

/-- One thing happens to the issue. -/
def Step (v : ParentView) (act : ParentAct) (v' : ParentView) : Prop := act.Allowed settings v ∧ v' = act.after settings v

/-- The same with the settings that are in force. -/
def ReloadedStep (v : ParentView) (label : Settings py × ParentAct) (v' : ParentView) : Prop :=
  label.2.Step label.1 v v'

section Attempts

variable {settings : Settings py} {v v' : ParentView}

/-- A review's exit is one attempt to file its verdict. -/
theorem after_reviewVerdict {entry : RunningEntry} {verdict : ParentReviewVerdict} {result : RunResult} {clocks : Clocks}
    {F : Call → Fate GitHubError} :
    ((reviewVerdict entry verdict result clocks F).after settings v).system =
      (fileParentReview py settings.toFilingConfig (exitReview settings entry verdict result v.record) clocks F v.system).2 :=
  after_mapped

theorem after_handedOver {issue : Issue} {note : ParentHandOver} {clocks : Clocks} {F : Call → Fate GitHubError} :
    ((handedOver issue note clocks F).after settings v).system =
      (handOverParent py settings.toFilingConfig issue note.title note.reason note.wayBack clocks F v.system).2 :=
  after_mapped

theorem after_handedBack {issue : Issue} {title reason wayBack : String} {clocks : Clocks} {F : Call → Fate GitHubError} :
    ((handedBack issue title reason wayBack clocks F).after settings v).system =
      (triageHandBack py settings.toFilingConfig issue title reason wayBack clocks F v.system).2 := after_mapped

/-- A retry is an attempt to file what is owed. -/
theorem attempt_retriedReview {pending : PendingParentReview} {clocks : Clocks} {F : Call → Fate GitHubError}
    (owed : v.memory.pending = some pending) :
    (retriedReview clocks F).attempt settings v =
      some (pending, reviewAttempt settings.toFilingConfig pending clocks F v.system) := by
  simp only [attempt, tries, owed, Option.map_some]
  rfl

/-- A step that files no review drops none. -/
theorem discards_of_tries {act : ParentAct} (none : act.tries settings v = none) : act.discards settings v = .none := by
  rw [discards, none]
  rfl

end Attempts

end ParentAct

end Issuebot
