import Issuebot.Orchestrator.PendingVerdicts

/-!
# How an owed verdict ends

The log tells how a verdict left the worker's memory: filed, discarded or handed back. A
hand-back that GitHub refused ends nothing and leaves what was kept as it was
(`handBack_spec`), so a hand-back either lands or is tried again.
-/

namespace Issuebot
set_option autoImplicit false
open Logic Remote

/-- How a verdict leaves the worker's memory. -/
inductive Ending where
  | filed
  | discarded
  | handedBack
  deriving DecidableEq, Repr

/-- The ending a line logs. -/
def LogLine.ending : LogLine → Option Ending
  | triageFiled .. | parentReviewFiled .. => some .filed
  | triageVerdictDiscarded .. | parentReviewDiscarded .. => some .discarded
  | handBackApplied .. => some .handedBack
  | _ => none

def LogLine.isFileFailed : LogLine → Bool
  | triageFileFailed .. | parentReviewFileFailed .. => true
  | _ => false

def Worker.endings (w : Worker) : List Ending := w.logged.filterMap LogLine.ending

/-- The attempts that failed. -/
def Worker.failedTries (w : Worker) : Nat := w.logged.countP LogLine.isFileFailed

/-- What the log says so far. -/
structure Tally (endings : List Ending) (failures : Nat) (w : Worker) : Prop where
  endings : w.endings = endings
  failures : w.failedTries = failures

variable {F : Call → Fate GitHubError} {E : GitHubError → System → Prop}

section Log

variable {w : Worker} {endings : List Ending} {failures : Nat}

/-- A line that neither ends a verdict nor tells of a failed attempt. -/
theorem Tally.note (h : Tally endings failures w) {line : LogLine} (no_ending : line.ending = none)
    (no_failure : line.isFileFailed = false) :
    Tally endings failures { w with logged := w.logged ++ [line] } := by
  constructor
  · have := h.endings
    simpa [Worker.endings, no_ending] using this
  · have := h.failures
    simpa [Worker.failedTries, no_failure] using this

/-- A failed attempt. -/
theorem Tally.fail (h : Tally endings failures w) {line : LogLine} (no_ending : line.ending = none)
    (failure : line.isFileFailed = true) :
    Tally endings (failures + 1) { w with logged := w.logged ++ [line] } := by
  constructor
  · have := h.endings
    simpa [Worker.endings, no_ending] using this
  · have := h.failures
    simpa [Worker.failedTries, failure] using this

/-- A line that ends the verdict. -/
theorem Tally.close (h : Tally endings failures w) {line : LogLine} {ending : Ending}
    (is_ending : line.ending = some ending) (no_failure : line.isFileFailed = false) :
    Tally (endings ++ [ending]) failures { w with logged := w.logged ++ [line] } := by
  constructor
  · have := h.endings
    simp [Worker.endings, is_ending, ← this]
  · have := h.failures
    simpa [Worker.failedTries, no_failure] using this

/-- The log is all a tally reads. -/
theorem Tally.of_logged (h : Tally endings failures w) {w' : Worker} (same : w'.logged = w.logged) :
    Tally endings failures w' := by
  constructor
  · rw [Worker.endings, same]
    exact h.endings
  · rw [Worker.failedTries, same]
    exact h.failures

end Log

section HandBack

variable {py : Py} {config : FilingConfig py} {n : Nat}
variable {I : Family → Option PendingVerdict → Option PendingParentReview → List Event → Prop}

/-- What is kept while a verdict is owed: `I` of the family, the two entries and the events, and
no ending in the log. -/
structure Kept (I : Family → Option PendingVerdict → Option PendingParentReview → List Event → Prop) (n : Nat)
    (s : System) : Prop where
  holds : I s.family s.worker.triagePending s.worker.parentPending s.worker.published
  tally : Tally [] n s.worker

/-- What is left of it after a hand-back that landed: the family and the events have moved on,
and the entries have not. -/
structure Landed (I : Family → Option PendingVerdict → Option PendingParentReview → List Event → Prop)
    (endings : List Ending) (n : Nat) (s : System) : Prop where
  held : ∃ family published, I family s.worker.triagePending s.worker.parentPending published
  tally : Tally endings n s.worker

/-- A hand-back was written, or refused with nothing changed. -/
def Settled (I : Family → Option PendingVerdict → Option PendingParentReview → List Event → Prop) (n : Nat)
    (outcome : EscapeOutcome) (s : System) : Prop :=
  (outcome = .failed → Kept I n s) ∧ (outcome ≠ .failed → Landed I [.handedBack] n s)

theorem handBackNote_spec {event title reason wayBack : String} {now : Datetime} :
    Triple F (Landed I [] n) (handBackNote event title reason wayBack now) (fun _ => Landed I [] n) E := by
  unfold handBackNote comment
  refine Triple.bind (Q := fun _ => Landed I [] n) (Triple.attempt ?_) fun result => ?_
  · exact Triple.call (fun s h => ⟨h.held, h.tally⟩) (fun e s h => h) fun e s _ h => ⟨h.held, h.tally⟩
  cases result with
  | error error => exact Triple.modify fun s h => ⟨h.held, h.tally.note rfl rfl⟩
  | ok _ => exact Triple.pure fun s h => h

theorem handBack_spec (told : ¬ (F .handBackLabel).isLost) {event : String} {number : Nat}
    {title reason wayBack : String} {fromLabel toLabel : Option String} {add remove : List String}
    {now : Datetime} {blocked : Bool} :
    Triple F (Kept I n)
      (handBack py event number title reason wayBack fromLabel toLabel add remove now blocked)
      (Settled I n) E := by
  unfold handBack
  refine Triple.bind (Q := fun result => match result with
    | .ok () => Landed I [] n
    | .error _ => Kept I n) (Triple.attempt ?_) fun result => ?_
  · refine Triple.call (fun s h => ⟨⟨_, _, h.holds⟩, h.tally⟩) (fun e s h => h) fun e s lost h => ?_
    exact absurd (by rw [lost]; trivial) told
  cases result with
  | error error =>
    refine Triple.bind (Q := fun _ => Kept I n) (Triple.modify fun s h => ?_) fun _ => Triple.pure fun s h => ?_
    · exact ⟨h.holds, h.tally.note rfl rfl⟩
    · exact ⟨fun _ => h, fun landed => absurd rfl landed⟩
  | ok _ =>
    have publishing : ∀ (c : Bool) (event : Event), Triple F (Landed I [] n)
        (Remote.when c (publish event)) (fun _ => Landed I [] n) E := fun c event =>
      Triple.when (fun _ => Triple.modify fun s h => ⟨h.held, h.tally.of_logged rfl⟩) fun _ s h => h
    refine handBackNote_spec.bind fun _ => ?_
    refine (publishing _ _).bind fun _ => ?_
    refine (publishing _ _).bind fun _ => ?_
    refine Triple.bind (Q := fun _ => Landed I [.handedBack] n) (Triple.modify fun s h => ?_)
      fun _ => Triple.pure fun s h => ?_
    · exact ⟨h.held, h.tally.close rfl rfl⟩
    · refine ⟨?_, fun _ => h⟩
      rintro ⟨⟩

/-- The bookkeeping of a hand-back that landed. -/
theorem Settled.worker {outcome : EscapeOutcome} (landed : outcome ≠ .failed) {f : Worker → Worker}
    (same : ∀ w, (f w).logged = w.logged ∧ (f w).triagePending = w.triagePending ∧
      (f w).parentPending = w.parentPending) :
    Triple F (Settled I n outcome) (worker f) (fun _ => Settled I n outcome) E := by
  refine Triple.modify fun s h => ⟨fun failed => absurd failed landed, fun _ => ?_⟩
  obtain ⟨logged, triage, parent⟩ := same s.worker
  obtain ⟨⟨family, published, held⟩, tally⟩ := h.2 landed
  refine ⟨⟨family, published, ?_⟩, tally.of_logged logged⟩
  rwa [triage, parent]

theorem handOverParent_spec (told : ¬ (F .handBackLabel).isLost) {issue : Issue} {title reason wayBack : String}
    {clocks : Clocks} :
    Triple F (Kept I n) (handOverParent py config issue title reason wayBack clocks) (Settled I n) E := by
  unfold handOverParent parentHandOver
  refine (handBack_spec told).bind fun outcome => ?_
  split
  next failed =>
    refine Triple.bind (Q := fun _ => Settled I n outcome) (Triple.modify fun s h => ?_)
      fun _ => Triple.pure fun s h => h
    have kept := h.1 failed
    refine ⟨fun _ => ⟨kept.holds, kept.tally.of_logged rfl⟩, fun landed => absurd failed landed⟩
  next landed =>
    refine (Settled.worker landed (by intro w; exact ⟨rfl, rfl, rfl⟩)).bind fun _ => ?_
    refine Triple.bind (Q := fun _ => Settled I n outcome) (Triple.get fun s h => h) fun s => ?_
    refine Triple.bind ((Settled.worker landed (by intro w; exact ⟨rfl, rfl, rfl⟩)).bind fun _ =>
      Settled.worker landed (by intro w; exact ⟨rfl, rfl, rfl⟩)) fun _ => ?_
    exact (Settled.worker landed (by intro w; exact ⟨rfl, rfl, rfl⟩)).bind fun _ => Triple.pure fun s h => h

theorem triageHandBack_spec (told : ¬ (F .handBackLabel).isLost) {issue : Issue} {title reason wayBack : String}
    {clocks : Clocks} :
    Triple F (Kept I n) (triageHandBack py config issue title reason wayBack clocks) (Settled I n) E := by
  unfold triageHandBack triageEscape
  split
  · exact handOverParent_spec told
  · refine (handBack_spec told).bind fun outcome => ?_
    refine Triple.bind (Q := fun _ => Settled I n outcome) (Triple.when ?_ fun _ s h => h)
      fun _ => Triple.pure fun s h => h
    intro applied
    have landed : outcome ≠ .failed := by
      rw [of_decide_eq_true applied]
      rintro ⟨⟩
    exact (Settled.worker landed (by intro w; exact ⟨rfl, rfl, rfl⟩)).bind fun _ => Settled.worker landed (by intro w; exact ⟨rfl, rfl, rfl⟩)

end HandBack
end Issuebot
