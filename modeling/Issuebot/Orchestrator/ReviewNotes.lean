import Issuebot.Orchestrator.ParentRuns
import Issuebot.Orchestrator.ReviewFiled
import Issuebot.Orchestrator.Tick

/-!
# The note a discarded review leaves

A review's verdict that GitHub will not take is handed over, and a hand-over GitHub will not
take either is owed as a note. The discard of the verdict takes the note with it only where the
parent has closed or is gone: a verdict dropped for a state label, for triage labels taken off
or for changed steps leaves its note owed, and a later pass writes it.
-/

namespace Issuebot
set_option autoImplicit false
open Logic Remote

section Programs

/-- The verdict owed stays, and no note of one that was not filed comes up. -/
structure NoteKept (before s : System) : Prop where
  pending : s.worker.parentPending = before.worker.parentPending
  note : s.worker.parentHandover = before.worker.parentHandover ∨
    ∀ note, s.worker.parentHandover = some note → note.title ≠ notFiledTitle

instance : Std.Refl NoteKept := ⟨fun _ => ⟨rfl, .inl rfl⟩⟩

instance : IsTrans System NoteKept where
  trans _ _ _ first second := by
    refine ⟨second.pending.trans first.pending, ?_⟩
    rcases second.note with same | other
    · rw [same]
      exact first.note
    · exact .inr other

/-- A program that writes no such note. -/
abbrev Noteless {α : Type} (x : Filing α) : Prop := Follows NoteKept x

variable {α : Type} {py : Py} {config : FilingConfig py} {issue : Issue} {clocks : Clocks}

theorem Changed.noteKept {f : ParentMemory → ParentMemory} {closing : Prop} {before s : System}
    (changed : Changed f closing before s) (pending : ∀ m, (f m).pending = m.pending)
    (note : ∀ m, (f m).handover = m.handover ∨ ∀ note, (f m).handover = some note → note.title ≠ notFiledTitle) :
    NoteKept before s := by
  have now : s.worker.parentPending = _ := congrArg ParentMemory.pending changed.memory
  have owed : s.worker.parentHandover = _ := congrArg ParentMemory.handover changed.memory
  refine ⟨now.trans (pending _), ?_⟩
  rw [owed]
  exact note before.worker.memory

theorem Bystander.noteless {x : Filing α} (h : Bystander False x) : Noteless x :=
  h.mono fun _ _ changed => changed.noteKept (fun _ => rfl) fun _ => .inl rfl

theorem forgetTriageChain_noteless : Noteless forgetTriageChain :=
  .modify fun _ => ⟨rfl, .inr nofun⟩

theorem recordParent_noteless {record : ParentRecord} : Noteless (recordParent record) :=
  Follows.bind (.modify fun _ => ⟨rfl, .inl rfl⟩) fun _ => publish_bystander.noteless

theorem handOverParent_noteless {title reason wayBack : String} (other : title ≠ notFiledTitle) :
    Noteless (handOverParent py config issue title reason wayBack clocks) := by
  refine .of_triple fun F start => ?_
  have changed : Triple F (Changed id False start) (handOverParent py config issue title reason wayBack clocks)
      (fun outcome =>
        Changed (ParentMemory.afterHandOver outcome ⟨title, config.scrub reason, wayBack⟩ ∘ id) False start)
      fun _ => NoteKept start := handOverParent_changed
  refine changed.conseq (fun _ same => same ▸ .refl)
    (fun outcome _ changed => changed.noteKept (fun _ => ?_) fun _ => .inr ?_) fun _ _ h => h
  · simp only [ParentMemory.afterHandOver]
    split <;> rfl
  · intro note owed
    simp only [ParentMemory.afterHandOver, Function.comp_apply] at owed
    split at owed
    · cases owed
      exact other
    · cases owed

theorem triageHandBack_noteless {title reason wayBack : String} (other : issue.subIssueCount > 0 → title ≠ notFiledTitle) :
    Noteless (triageHandBack py config issue title reason wayBack clocks) := by
  unfold triageHandBack
  split
  next parent => exact handOverParent_noteless (other parent)
  refine triageEscape_bystander.noteless.bind fun _ => ?_
  exact (Follows.when (Follows.bind (.modify fun _ => ⟨rfl, .inl rfl⟩) fun _ => forgetTriageChain_noteless)).bind
    fun _ => .pure

theorem worker_noteless {change : Worker → Worker} (pending : ∀ w, (change w).parentPending = w.parentPending)
    (note : ∀ w, (change w).parentHandover = w.parentHandover ∨ (change w).parentHandover = none) :
    Noteless (worker change) :=
  .modify fun s => ⟨pending _, (note s.worker).imp_right fun none _ owed => by cases none.symm.trans owed⟩

theorem fileVerdict_noteless {pending : PendingVerdict} : Noteless (fileVerdict py config pending clocks) := by
  have step : ∀ change : Worker → Worker, (∀ w, (change w).parentPending = w.parentPending) →
      (∀ w, (change w).parentHandover = w.parentHandover) → Noteless (worker change) :=
    fun _ pending note => worker_noteless pending fun w => .inl (note w)
  have owed : Noteless (fileOwedVerdict py config pending clocks.now) := by
    refine Follows.bind (fetchIssue_bystander.noteless.bind fun found => ?_) fun current => ?_
    · split
      · exact .pure
      · exact (Follows.when forgetTriageChain_noteless).bind fun _ =>
          log_bystander.noteless.bind fun _ => .pure
    · cases current with
      | none => exact .pure
      | some current => exact applyVerdict_bystander.noteless.bind fun _ => .pure
  have recorded : ∀ known, Noteless (recordTriaged pending.verdict.verdict known) := by
    intro known
    unfold recordTriaged
    split
    · exact recordParent_noteless
    · exact .when recordParent_noteless
    · exact .pure
  refine Follows.bind (step _ (fun _ => rfl) fun _ => rfl) fun _ => owed.attempt.bind fun result => ?_
  cases result with
  | error error =>
    exact Follows.bind (step _ (fun _ => rfl) fun _ => rfl) fun _ => Follows.bind (step _ (fun _ => rfl) fun _ => rfl) fun _ => .pure
  | ok current =>
    refine Follows.bind (step _ (fun _ => rfl) fun _ => rfl) fun _ =>
      Follows.bind (step _ (fun _ => rfl) fun _ => rfl) fun _ => ?_
    have filed : Noteless (verdictFiled pending) := forgetTriageChain_noteless.bind fun _ =>
      Follows.get.bind fun _ => (recorded _).bind fun _ => log_bystander.noteless
    exact (Follows.when filed).bind fun _ => .pure

theorem retryPendingVerdict_noteless : Noteless (retryPendingVerdict py config clocks) := by
  have step : ∀ change : Worker → Worker, (∀ w, (change w).parentPending = w.parentPending) →
      (∀ w, (change w).parentHandover = w.parentHandover) → Noteless (worker change) :=
    fun _ pending note => worker_noteless pending fun w => .inl (note w)
  have handedBack : ∀ kept failure, Noteless (handBackVerdict py config kept failure clocks) := by
    intro kept failure
    refine Follows.bind ?_ fun issue => ?_
    · unfold handBackIssue
      split
      · exact .pure
      · refine fetchIssue_bystander.noteless.attempt.bind fun found => ?_
        cases found <;> exact .pure
    · cases issue with
      | error error => exact step _ (fun _ => rfl) fun _ => rfl
      | ok issue =>
        refine (triageHandBack_noteless fun _ => by decide).bind fun outcome => .ite ?_ ?_
        · exact Follows.bind (step _ (fun _ => rfl) fun _ => rfl) fun _ => step _ (fun _ => rfl) fun _ => rfl
        · exact worker_noteless (fun _ => rfl) fun _ => .inr rfl
  refine Follows.get.bind fun s => ?_
  split
  · exact .pure
  · refine fileVerdict_noteless.bind fun failure => ?_
    cases failure with
    | none => exact .pure
    | some failure =>
      refine Follows.get.bind fun s => ?_
      split
      · exact .pure
      · exact Follows.bind (step _ (fun _ => rfl) fun _ => rfl) fun _ => .when (handedBack _ _)

theorem triageFailed_noteless {entry : RunningEntry} {maxRetryBackoffMs : Nat} {error : String} :
    Noteless (triageFailed py config entry maxRetryBackoffMs error clocks) := by
  have step : ∀ change : Worker → Worker, (∀ w, (change w).parentPending = w.parentPending) →
      (∀ w, (change w).parentHandover = w.parentHandover) → Noteless (worker change) :=
    fun _ pending note => worker_noteless pending fun w => .inl (note w)
  have givenUp : ∀ reason, Noteless (triageGiveUp py config entry.issue reason clocks) := by
    intro reason
    refine .ite ((handOverParent_noteless (by decide)).bind fun _ => .pure) ?_
    exact (triageHandBack_noteless fun _ => by decide).bind fun _ => step _ (fun _ => rfl) fun _ => rfl
  refine Follows.get.bind fun s => Follows.bind (step _ (fun _ => rfl) fun _ => rfl) fun _ => .ite ?_ ?_
  · exact step _ (fun _ => rfl) fun _ => rfl
  · refine forgetTriageChain_noteless.bind fun _ => .ite ?_ (givenUp _)
    exact (handOverParent_noteless (by decide)).bind fun _ => .pure

theorem reviewWaiting_noteless {steps : List SubIssue} : Noteless (reviewWaiting py config issue clocks steps) :=
  recordParent_noteless.bind fun _ => parentHandOver_bystander.noteless.bind fun _ => .pure

theorem parentFinished_noteless : Noteless parentFinished :=
  Follows.get.bind fun _ => recordParent_noteless.bind fun _ => forgetTriageChain_noteless

end Programs

section Notes

variable {py : Py} {config : FilingConfig py} {clocks : Clocks} {F : Call → Fate GitHubError} {before s : System}

/-- A note of a review that was not filed is owed only with that review's verdict. -/
def ParentMemory.NotesOwned (m : ParentMemory) : Prop :=
  ∀ note, m.handover = some note → note.title = notFiledTitle → m.pending.isSome

theorem NoteKept.notesOwned (kept : NoteKept before s) (owned : before.worker.memory.NotesOwned) :
    s.worker.memory.NotesOwned := by
  intro note owed title
  have pending : s.worker.memory.pending = before.worker.memory.pending := kept.pending
  rw [pending]
  rcases kept.note with same | other
  · exact owned note (same.symm.trans owed) title
  · exact absurd title (other note owed)

/-- An attempt leaves such a note without its verdict only where it drops the verdict and not the note. -/
theorem Tried.notesOwned_iff {pending : PendingParentReview} {attempt : Attempt}
    (tried : Tried config pending F before s attempt) :
    s.worker.memory.NotesOwned ↔
      ¬ ∃ reason note, reviewDiscarded config pending F before.family = some reason ∧ reason.ends = false ∧
        before.worker.memory.handover = some note ∧ note.title = notFiledTitle := by
  have owed_none : ∀ {p : DiscardReason → ParentHandOver → Prop},
      reviewDiscarded config pending F before.family = none →
      ¬ ∃ reason note, reviewDiscarded config pending F before.family = some reason ∧ p reason note := by
    rintro p owed ⟨reason, note, dropped, -⟩
    cases owed.symm.trans dropped
  cases tried with
  | kept moved owed changed =>
    refine iff_of_true (fun note _ _ => ?_) (owed_none owed)
    rw [changed.memory]
    rfl
  | filed owed within changed =>
    refine iff_of_true (fun note is_owed _ => ?_) (owed_none owed)
    rw [changed.memory] at is_owed
    cases is_owed
  | handedOver owed past note outcome title changed =>
    refine iff_of_true (fun other is_owed is_title => ?_) (owed_none owed)
    rw [changed.memory] at is_owed
    simp only [Function.comp_apply, ParentMemory.counted, ParentMemory.afterHandOver] at is_owed
    split at is_owed
    · cases is_owed
      rw [title] at is_title
      cases (show "parent review gap limit" ≠ notFiledTitle by decide) is_title
    · cases is_owed
  | dropped reason is_reason changed =>
    have after : s.worker.memory = _ := changed.memory
    cases ends : reason.ends with
    | true =>
      refine iff_of_true (fun note is_owed _ => ?_) ?_
      · simp [after, ParentMemory.keeps, ParentMemory.discards, ends, ParentMemory.forgot] at is_owed
      · rintro ⟨other, note, dropped, stays, -⟩
        cases is_reason.symm.trans dropped
        cases ends.symm.trans stays
    | false =>
      have kept : s.worker.memory = { before.worker.memory with pending := none } := by
        rw [after]
        simp [ParentMemory.keeps, ParentMemory.discards, ends]
      rw [kept]
      constructor
      · rintro owned ⟨_, note, -, -, owed, title⟩
        cases owned note owed title
      · intro none note owed title
        exact absurd ⟨reason, note, is_reason, ends, owed, title⟩ none

end Notes

section Runs

variable {py : Py} {settings : Settings py} {v v' : ParentView} {act : ParentAct} {clocks : Clocks}
variable {F : Call → Fate GitHubError}

/-- The step drops a review's verdict and leaves the note that says it was not filed: the parent
is neither closed nor gone. -/
def ParentAct.leavesNote (settings : Settings py) (v : ParentView) (act : ParentAct) : Bool :=
  (act.discards settings v).any (fun reason => !reason.ends) &&
    v.memory.handover.any fun note => note.title = notFiledTitle

theorem leavesNote_iff : act.leavesNote settings v = true ↔
    ∃ reason note, act.discards settings v = some reason ∧ reason.ends = false ∧ v.memory.handover = some note ∧
      note.title = notFiledTitle := by
  simp only [ParentAct.leavesNote, Bool.and_eq_true, Option.any_eq_true, decide_eq_true_eq, Bool.not_eq_true']
  constructor
  · rintro ⟨⟨reason, dropped, stays⟩, note, owed, title⟩
    exact ⟨reason, note, dropped, stays, owed, title⟩
  · rintro ⟨reason, note, dropped, stays, owed, title⟩
    exact ⟨⟨reason, dropped, stays⟩, note, owed, title⟩

/-- A note the worker writes out is of no review that was not filed. -/
theorem handedOver_other {issue : Issue} {note : ParentHandOver}
    (allowed : (ParentAct.handedOver issue note clocks F).Allowed settings v) (owned : v.memory.NotesOwned) :
    note.title ≠ notFiledTitle := by
  obtain ⟨-, pending, owed | other⟩ := allowed
  · intro title
    have kept := owned note owed title
    rw [pending] at kept
    cases kept
  · exact other

/-- What is beside the reviews writes no such note. -/
theorem noteKept_of_tries (step : act.Step settings v v') (owned : v.memory.NotesOwned)
    (none : act.tries settings v = none) (notRetried : ∀ clocks F, act ≠ .retriedReview clocks F) :
    NoteKept v.system v'.system := by
  obtain ⟨allowed, rfl⟩ := step
  have beside : ∀ w, ParentAct.Beside v.memory w.memory → NoteKept v.system { v.system with worker := w } := by
    intro w beside
    refine ⟨beside.pending, beside.handover.imp_right fun none note is_owed => ?_⟩
    cases none.symm.trans is_owed
  cases act with
  | outside family => exact ⟨rfl, .inl rfl⟩
  | aside w => exact beside w allowed
  | released w => exact beside w allowed.2
  | worked => exact ⟨rfl, .inl rfl⟩
  | triaged => exact ⟨rfl, .inl rfl⟩
  | watched => exact ⟨rfl, .inl rfl⟩
  | requested => exact recordParent_noteless (fun _ => .answered) _
  | waiting => exact reviewWaiting_noteless _ _
  | failed => exact triageFailed_noteless _ _
  | triageVerdict => exact (fileVerdict_noteless.bind fun _ => Follows.pure) _ _
  | retriedVerdict => exact retryPendingVerdict_noteless _ _
  | handedOver => exact ((handOverParent_noteless (handedOver_other allowed owned)).bind fun _ => Follows.pure) _ _
  | handedBack issue title reason wayBack clocks F =>
    refine (Follows.bind (triageHandBack_noteless fun parent => ?_) fun _ => Follows.pure) _ _
    exact absurd parent (by rw [allowed.2]; decide)
  | finished => exact parentFinished_noteless (fun _ => .answered) _
  | reviewVerdict => cases none
  | retriedReview clocks F => exact absurd rfl (notRetried clocks F)

/-- A note keeps its verdict in every step but one that drops the verdict and leaves the note. -/
theorem step_notesOwned_iff (step : act.Step settings v v') (owned : v.memory.NotesOwned) :
    v'.memory.NotesOwned ↔ ¬ act.leavesNote settings v = true := by
  rw [leavesNote_iff]
  have beside : act.tries settings v = none → (∀ clocks F, act ≠ .retriedReview clocks F) →
      (v'.memory.NotesOwned ↔ ¬ ∃ reason note, act.discards settings v = some reason ∧ reason.ends = false ∧
        v.memory.handover = some note ∧ note.title = notFiledTitle) := by
    intro none notRetried
    refine iff_of_true ((noteKept_of_tries step owned none notRetried).notesOwned owned) ?_
    rintro ⟨reason, note, dropped, -⟩
    rw [ParentAct.discards_of_tries none] at dropped
    cases dropped
  obtain ⟨-, rfl⟩ := step
  cases act with
  | reviewVerdict entry verdict result clocks F =>
    let pending := exitReview settings entry verdict result v.record
    have tried : Tried settings.toFilingConfig pending F v.system _
        (reviewAttempt settings.toFilingConfig pending clocks F v.system) := fileParentReview_after
    rw [← ParentAct.after_reviewVerdict] at tried
    exact tried.notesOwned_iff
  | retriedReview clocks F =>
    -- where no verdict is dropped, none leaves its note
    have spared : ((ParentAct.retriedReview clocks F).after settings v).memory.NotesOwned →
        (∀ pending, v.memory.pending = some pending →
          reviewDiscarded settings.toFilingConfig pending F v.system.family = none) →
        (((ParentAct.retriedReview clocks F).after settings v).memory.NotesOwned ↔
          ¬ ∃ reason note, (ParentAct.retriedReview clocks F).discards settings v = some reason ∧
            reason.ends = false ∧ v.memory.handover = some note ∧ note.title = notFiledTitle) := by
      intro after owed
      refine iff_of_true after ?_
      rintro ⟨reason, note, dropped, -⟩
      obtain ⟨⟨pending, _⟩, tries, dropped⟩ := Option.bind_eq_some_iff.mp dropped
      obtain ⟨other, is_pending, same⟩ := Option.map_eq_some_iff.mp tries
      cases same
      cases (owed pending is_pending).symm.trans dropped
    cases (retryPendingReview_retried : Retried settings.toFilingConfig clocks F v.system _) with
    | idle none same =>
      refine spared ?_ fun pending is_pending => ?_
      · have after : ((ParentAct.retriedReview clocks F).after settings v).memory = v.memory :=
          congrArg (fun s => s.worker.memory) same
        rw [after]
        exact owned
      · cases none.symm.trans is_pending
    | tried pending is_pending ended tried =>
      have discards : (ParentAct.retriedReview clocks F).discards settings v =
          reviewDiscarded settings.toFilingConfig pending F v.system.family := by
        have slot : v.memory.pending = some pending := is_pending
        simp only [ParentAct.discards, ParentAct.tries, slot, Option.map_some, Option.bind_some]
        rfl
      rw [discards]
      exact tried.notesOwned_iff
    | counted pending is_pending moved kept changed =>
      have after : ((ParentAct.retriedReview clocks F).after settings v).memory = _ := changed.memory
      refine spared (fun _ _ _ => by rw [after]; rfl) fun other same => ?_
      cases is_pending.symm.trans same
      exact reviewDiscarded_of_kept kept
    | handedBack pending is_pending moved kept reason wayBack outcome changed =>
      have after : ((ParentAct.retriedReview clocks F).after settings v).memory = _ := changed.memory
      refine spared ?_ fun other same => ?_
      · rw [after]
        by_cases failed : outcome = .failed
        · simp only [failed, if_true]
          exact fun _ _ _ => rfl
        · simp only [failed, if_false, ParentMemory.afterHandOver]
          intro note is_owed
          cases is_owed
      · cases is_pending.symm.trans same
        exact reviewDiscarded_of_kept kept
  | _ =>
    refine beside rfl fun _ _ same => ?_
    cases same

/-- A step that leaves no note of a review it drops. -/
def ParentAct.CleanStep (v : ParentView) (label : Settings py × ParentAct) (v' : ParentView) : Prop :=
  ParentAct.ReloadedStep v label v' ∧ ¬ label.2.leavesNote label.1 v = true

variable {labels : List (Settings py × ParentAct)}

/-- In every run whose steps leave no note of a review they drop, such a note is owed only with its
verdict, and none is written out. -/
theorem dropped_review_owes_nothing (run : Steps ParentAct.CleanStep v labels v') (start : v.memory.handover = none) :
    v'.memory.NotesOwned ∧
      ∀ issue note clocks F, (ParentAct.handedOver issue note clocks F).Allowed settings v' → note.title ≠ notFiledTitle := by
  have keeps : ∀ (s : ParentView) (label : Settings py × ParentAct) (s' : ParentView),
      ParentAct.CleanStep s label s' → s.memory.NotesOwned → s'.memory.NotesOwned :=
    fun _ _ _ step owned => (step_notesOwned_iff step.1 owned).mpr step.2
  have kept := Steps.invariant keeps run
  have owned : v'.memory.NotesOwned := by
    refine kept fun note owed => ?_
    cases start.symm.trans owed
  exact ⟨owned, fun _ _ _ _ allowed => handedOver_other allowed owned⟩

end Runs

section Plain

variable {py : Py}

/-- A split parent whose steps have closed, watched by a worker that owes nothing. -/
def steppedView : ParentView where
  system := { family := steppedParent, worker := { Worker.idle with parent := some {} } }
  running := none

/-- GitHub answers nothing. -/
def outage (_ : Call) : Fate GitHubError := .refused { category := .transport, message := "offline" }

/-- The exit of a review that says `met`. -/
def metExit (F : Call → Fate GitHubError) : ParentAct :=
  .reviewVerdict {
    issue := plainIssue 7
    attempt := 1
    runId := "r3"
    startedMono := 0
    account := none
    kind := .parentReview
    stepsSeen := [8] } metReview.verdict Orchestrator.plainResult ⟨0, 0⟩ F

/-- A review whose verdict and whose hand-over GitHub refuses, until the note is owed. -/
def refusedReview : List ParentAct :=
  [.watched steppedParent.parentSteps, metExit outage, .retriedReview ⟨0, 0⟩ outage, .retriedReview ⟨0, 0⟩ outage]

/-- The steps one after another. -/
def ParentView.through (settings : Settings py) (v : ParentView) (acts : List ParentAct) : ParentView :=
  acts.foldl (fun v act => act.after settings v) v

/-- The parent closes while the note is owed: verdict and note go. -/
theorem closed_review_owes_nothing :
    let acts := refusedReview ++ [.outside steppedParent.close, .retriedReview ⟨0, 0⟩ fun _ => .answered]
    let v := steppedView.through Orchestrator.plainSettings acts
    v.memory.pending = none ∧ v.memory.handover = none ∧ v.memory.NotesOwned := by
  intro acts v
  have run : Steps ParentAct.CleanStep steppedView (acts.map (Prod.mk Orchestrator.plainSettings)) v :=
    .cons ⟨⟨⟨rfl, rfl, rfl, ⟨{}, rfl, rfl, by decide⟩, by decide +kernel⟩, rfl⟩, by decide +kernel⟩
      (.cons ⟨⟨rfl, rfl⟩, by decide +kernel⟩ (.cons ⟨⟨trivial, rfl⟩, by decide +kernel⟩
        (.cons ⟨⟨trivial, rfl⟩, by decide +kernel⟩ (.cons ⟨⟨trivial, rfl⟩, by decide +kernel⟩
          (.cons ⟨⟨trivial, rfl⟩, by decide +kernel⟩ (.nil v))))))
  have ⟨owned, _⟩ := @dropped_review_owes_nothing _ Orchestrator.plainSettings _ _ _ run rfl
  exact ⟨by decide +kernel, by decide +kernel, owned⟩

/-- A person labels the parent `todo` while the note is owed: the verdict is dropped and its note
stays, and once the label is off again the watch writes it and records the hand-over. -/
theorem labelled_review_leaves_its_note :
    let todo := { steppedParent with labels := ["issuebot/triage-complete", "issuebot/todo"] }
    let acts := refusedReview ++ [.outside todo, .retriedReview ⟨0, 0⟩ fun _ => .answered]
    let note : ParentHandOver := {
      title := "parent review not filed"
      reason := "issuebot could not file the parent review's verdict on GitHub: transport: offline"
      wayBack := "Unlink any sub-issues this review filed from this issue, then add `issuebot/triage-todo` again." }
    let dropped := steppedView.through Orchestrator.plainSettings acts
    let later := dropped.through Orchestrator.plainSettings
      [.outside steppedParent, .handedOver (plainIssue 7) note ⟨0, 0⟩ fun _ => .answered]
    Steps (ParentAct.Step Orchestrator.plainSettings) steppedView acts dropped ∧
      dropped.memory.pending = none ∧ dropped.memory.handover = some note ∧
      Steps (ParentAct.Step Orchestrator.plainSettings) dropped
        [.outside steppedParent, .handedOver (plainIssue 7) note ⟨0, 0⟩ fun _ => .answered] later ∧
      later.memory.record.bind ParentRecord.handedOver = some note.reason ∧ later.system.family.comments.length = 1 := by
  intro todo acts note dropped later
  have is_owed : dropped.memory.handover = some note := by decide +kernel
  refine ⟨?_, by decide +kernel, is_owed, ?_, by decide +kernel, by decide +kernel⟩
  · exact .cons ⟨⟨rfl, rfl, rfl, ⟨{}, rfl, rfl, by decide⟩, by decide +kernel⟩, rfl⟩
      (.cons ⟨rfl, rfl⟩ (.cons ⟨trivial, rfl⟩ (.cons ⟨trivial, rfl⟩ (.cons ⟨trivial, rfl⟩
        (.cons ⟨trivial, rfl⟩ (.nil dropped))))))
  · exact .cons ⟨trivial, rfl⟩ (.cons ⟨⟨by decide +kernel, by decide +kernel, .inl is_owed⟩, rfl⟩ (.nil later))

end Plain

end Issuebot
