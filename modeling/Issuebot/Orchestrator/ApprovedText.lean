import Issuebot.Logic.Runs
import Issuebot.Orchestrator.Approval

/-!
# The text a work session is given

One issue, the accounts that label and edit it, and the worker's way from a poll to a
session. The worker's text is the snapshot a poll answered; its approval is read later, in
two reads of the issue's history, and remembered for as long as a snapshot looks the same.
Anything may happen on GitHub between any two of these steps.

The verdict is about the history at the reads and not about the text of the snapshot. A
label that went on after the snapshot approves the text the issue had by then, so a
snapshot taken before a maintainer put the text right is handed over under their approval
of the corrected one. `started_text_is_approved` is what holds where the labelling the
verdict goes by was there at the snapshot, or was of the same text.
-/

namespace Issuebot
set_option autoImplicit false
open Logic

/-- The text of an issue. -/
structure IssueText where
  title : String
  body : Option String
  deriving DecidableEq, Repr

def Issue.text (issue : Issue) : IssueText := ⟨issue.title, issue.body⟩

/-- What an account does to an issue's text or labels. An account that is no user, or that
GitHub has deleted, is `none`. -/
inductive HistoryEvent where
  | labeled (label : String) (actor : Option String)
  | renamed (editor : Option String) (title : String)
  | bodyEdited (editor : Option String) (body : Option String)
  deriving DecidableEq, Repr

/-- An event as GitHub records it. -/
structure Logged where
  stamp : Datetime
  event : HistoryEvent
  deriving DecidableEq, Repr

/-- The text after an event. -/
def IssueText.after (text : IssueText) : HistoryEvent → IssueText
  | .labeled _ _ => text
  | .renamed _ title => { text with title }
  | .bodyEdited _ body => { text with body }

/-- The text of an issue opened with `opened`, after the events of `log`. -/
def textOf (opened : IssueText) (log : List Logged) : IssueText :=
  log.foldl (fun text logged => text.after logged.event) opened

def Logged.labelApplied? (logged : Logged) : Option LabelApplied :=
  match logged.event with
  | .labeled label actor => some { label, actor, appliedAt := logged.stamp }
  | _ => none

def Logged.titleEdit? (logged : Logged) : Option TextEdit :=
  match logged.event with
  | .renamed editor _ => some { what := .title, editor, editedAt := logged.stamp }
  | _ => none

def Logged.bodyEdit? (logged : Logged) : Option TextEdit :=
  match logged.event with
  | .bodyEdited editor _ => some { what := .body, editor, editedAt := logged.stamp }
  | _ => none

/-- The evidence of two whole reads: the timeline when the log was `timeline`, the body's
edits when it was `edits`. -/
def evidenceRead (timeline edits : List Logged) : ApprovalEvidence where
  labelEvents := timeline.filterMap Logged.labelApplied?
  edits := timeline.filterMap Logged.titleEdit? ++ edits.filterMap Logged.bodyEdit?

/-- A person other than issuebot applied `wanted` in this event. -/
def HistoryEvent.approves (py : Py) (wanted ownLogin who : String) (event : HistoryEvent) : Prop :=
  ∃ label, event = .labeled label (some who) ∧ py.lower label = py.lower wanted ∧
    py.lower who ≠ py.lower ownLogin

/-- An event that leaves the text as `who` approved it: no edit, or an edit of `who`'s. -/
def HistoryEvent.keepsApproval (py : Py) (who : String) : HistoryEvent → Prop
  | .labeled _ _ => True
  | .renamed editor _ => ∃ account, editor = some account ∧ py.lower account = py.lower who
  | .bodyEdited editor _ => ∃ account, editor = some account ∧ py.lower account = py.lower who

/-- `text` is what the issue had at some moment that a person's approval covers: they applied
the label before it, and from then to it nobody else edited the text. -/
def ApprovedText (py : Py) (wanted ownLogin : String) (opened : IssueText) (log : List Logged)
    (text : IssueText) : Prop :=
  ∃ before labelled between after who,
    log = before ++ labelled :: (between ++ after) ∧
    labelled.event.approves py wanted ownLogin who ∧
    (∀ logged ∈ between, logged.event.keepsApproval py who) ∧
    textOf opened (before ++ labelled :: between) = text

/-- What `_assess_approval` keys its memory by. -/
structure ApprovalKey where
  label : String
  authorship : Bool
  updatedAt : Datetime
  title : String
  body : Option String
  authorAssociation : Option String
  deriving DecidableEq, Repr

def approvalKey (label : String) (authorship : Bool) (issue : Issue) : ApprovalKey where
  label
  authorship
  updatedAt := issue.updatedAt
  title := issue.title
  body := issue.body
  authorAssociation := issue.authorAssociation

/-- A snapshot of the issue, with how much of the log there was when it was taken. -/
structure Polled where
  issue : Issue
  moment : Nat
  deriving DecidableEq, Repr

/-- Where the worker is with the issue. -/
inductive Phase where
  | idle
  | readingTimeline (polled : Polled)
  | readingEdits (polled : Polled) (timelineRead : Nat)
  | approved (issue : Issue)
  deriving DecidableEq, Repr

/-- The issue on GitHub and what the worker holds of it. -/
structure Dispatcher where
  opened : IssueText
  log : List Logged
  polled : List Polled
  remembered : Option (ApprovalKey × Decision)
  phase : Phase
  started : List IssueText
  deriving DecidableEq, Repr

inductive DispatchAction where
  /-- Somebody labels or edits. -/
  | history (logged : Logged)
  /-- A poll, or a retry's own read, answers a snapshot. -/
  | poll (issue : Issue)
  /-- `_dispatch` of a snapshot, as far as `_assess_approval`'s memory. -/
  | dispatch (polled : Polled)
  | readTimeline
  | readEdits
  /-- The history is past the page ceiling, which is a refusal. -/
  | pastCeiling (reason : String)
  /-- A read failed, or no account was free for the session. -/
  | giveUp
  /-- The claim's label write, refused or not, and the session's start. -/
  | claim (granted : Bool)
  /-- The triage dispatch remembers its own verdict of the issue. -/
  | rememberTriage (issue : Issue) (verdict : Decision)
  /-- The memory is dropped: the issue was handed back, or is finished. -/
  | forget

section Dispatch

variable (py : Py) (labels : GitHubLabels py) (ownLogin : String)

/-- The branch of `_dispatch` on a work verdict: an issue that is not approved is handed back. -/
def Dispatcher.decided (s : Dispatcher) (issue : Issue) : Decision → Dispatcher
  | .approved _ => { s with phase := .approved issue }
  | .unapproved _ => { s with phase := .idle }

/-- One step of GitHub or of the worker, on a dedicated account (`own_labels_approve` false). -/
def dispatchStep (s : Dispatcher) : DispatchAction → Option Dispatcher
  | .history logged =>
    -- GitHub's clock does not go back
    if ∀ earlier ∈ s.log, earlier.stamp ≤ logged.stamp then some { s with log := s.log ++ [logged] }
    else none
  | .poll issue =>
    if issue.text = textOf s.opened s.log then
      some { s with polled := s.polled ++ [⟨issue, s.log.length⟩] }
    else none
  | .dispatch polled =>
    if s.phase = .idle ∧ polled ∈ s.polled ∧ py.lower labels.operatorStep ∉ polled.issue.labels then
      match s.remembered with
      | some (key, verdict) =>
        if key = approvalKey labels.todo false polled.issue then some (s.decided polled.issue verdict)
        else some { s with phase := .readingTimeline polled }
      | none => some { s with phase := .readingTimeline polled }
    else none
  | .readTimeline =>
    match s.phase with
    | .readingTimeline polled => some { s with phase := .readingEdits polled s.log.length }
    | _ => none
  | .readEdits =>
    match s.phase with
    | .readingEdits polled timelineRead =>
      let verdict := assess py (evidenceRead (s.log.take timelineRead) s.log) labels.todo ownLogin false
      let key := approvalKey labels.todo false polled.issue
      some ({ s with remembered := some (key, verdict) }.decided polled.issue verdict)
    | _ => none
  | .pastCeiling reason =>
    match s.phase with
    | .readingTimeline polled | .readingEdits polled _ =>
      let verdict := Decision.unapproved { reason, approval := none, edit := none }
      let key := approvalKey labels.todo false polled.issue
      some ({ s with remembered := some (key, verdict) }.decided polled.issue verdict)
    | _ => none
  | .giveUp => some { s with phase := .idle }
  | .claim granted =>
    match s.phase with
    | .approved issue =>
      -- an issue already in progress is not claimed again
      if issue.state = some .inProgress ∨ granted then
        some { s with phase := .idle, started := s.started ++ [issue.text] }
      else some { s with phase := .idle }
    | _ => none
  | .rememberTriage issue verdict =>
    some { s with remembered := some (approvalKey labels.triageTodo true issue, verdict) }
  | .forget => some { s with remembered := none }

/-- The labelling the verdict goes by was on GitHub at the snapshot, or was of its text. -/
def SnapshotLabelled (s : Dispatcher) : DispatchAction → Prop
  | .readEdits => ∀ polled timelineRead, s.phase = .readingEdits polled timelineRead →
      ∀ governing,
        (candidates py labels.todo ownLogin false
          ((s.log.take timelineRead).filterMap Logged.labelApplied?)).argmax labelledAt = some governing →
        ∃ before labelled rest, s.log.take timelineRead = before ++ labelled :: rest ∧
          labelled.labelApplied? = some governing.2 ∧
          (before.length < polled.moment ∨ textOf s.opened before = polled.issue.text)
  | _ => True

end Dispatch

/-- The worker before its first poll of an issue opened with `opened`. -/
def Dispatcher.init (opened : IssueText) : Dispatcher where
  opened
  log := []
  polled := []
  remembered := none
  phase := .idle
  started := []

section Approval

variable {py : Py} {wanted ownLogin who : String} {opened text : IssueText} {log more : List Logged}

theorem ApprovedText.append (h : ApprovedText py wanted ownLogin opened log text) :
    ApprovedText py wanted ownLogin opened (log ++ more) text := by
  obtain ⟨before, labelled, between, after, who, rfl, approves, kept, is_text⟩ := h
  refine ⟨before, labelled, between, after ++ more, who, ?_, approves, kept, is_text⟩
  simp only [List.append_assoc, List.cons_append]

/-- A labelling leaves the text as it was. -/
theorem textOf_labelled {before : List Logged} {labelled : Logged}
    (approves : labelled.event.approves py wanted ownLogin who) :
    textOf opened (before ++ [labelled]) = textOf opened before := by
  obtain ⟨label, event, -, -⟩ := approves
  simp only [textOf, List.foldl_append, List.foldl_cons, List.foldl_nil, event, IssueText.after]

theorem approves_of_candidate {c : String × LabelApplied} {labelled : Logged} {events : List LabelApplied}
    (mem : c ∈ candidates py wanted ownLogin false events) (is_c : labelled.labelApplied? = some c.2) :
    labelled.event.approves py wanted ownLogin c.1 ∧ labelled.stamp = c.2.appliedAt := by
  obtain ⟨⟨-, actor, label⟩, other⟩ := by simpa only [mem_candidates, mem_namedLabellings] using mem
  cases event : labelled.event with
  | labeled name account =>
    simp only [Logged.labelApplied?, event, Option.some.injEq] at is_c
    rw [← is_c] at actor label
    refine ⟨⟨name, by rw [← actor], label, other.resolve_left Bool.false_ne_true⟩, ?_⟩
    rw [← is_c]
  | renamed editor title => simp [Logged.labelApplied?, event] at is_c
  | bodyEdited editor body => simp [Logged.labelApplied?, event] at is_c

/-- An event after the approval, where the evidence holds every edit from then on for the
approver's. -/
theorem keepsApproval_of_only {timeline : List Logged} {since : Datetime} {logged : Logged}
    (only : OnlyEditedBy py (evidenceRead timeline log).edits since who)
    (in_timeline : logged ∈ timeline) (in_log : logged ∈ log) (late : since ≤ logged.stamp) :
    logged.event.keepsApproval py who := by
  have own : ∀ {editor : Option String} {edit : TextEdit}, edit ∈ (evidenceRead timeline log).edits →
      edit.editor = editor → edit.editedAt = logged.stamp →
      ∃ account, editor = some account ∧ py.lower account = py.lower who := by
    rintro editor edit mem rfl stamp
    have is_own := only edit mem (stamp ▸ late)
    cases named : edit.editor with
    | none => simp [TextEdit.isBy, named] at is_own
    | some account => exact ⟨account, rfl, by simpa [TextEdit.isBy, named] using is_own⟩
  cases event : logged.event with
  | labeled label account => trivial
  | renamed editor title =>
    have read : ⟨.title, editor, logged.stamp⟩ ∈ (evidenceRead timeline log).edits :=
      List.mem_append_left _ (List.mem_filterMap.mpr ⟨logged, in_timeline, by simp [Logged.titleEdit?, event]⟩)
    exact own read rfl rfl
  | bodyEdited editor body =>
    have read : ⟨.body, editor, logged.stamp⟩ ∈ (evidenceRead timeline log).edits :=
      List.mem_append_right _ (List.mem_filterMap.mpr ⟨logged, in_log, by simp [Logged.bodyEdit?, event]⟩)
    exact own read rfl rfl

/-- An approval read after a snapshot covers its text, where the labelling it goes by was
there at the snapshot or was of that text. -/
theorem approvedText_of_assess {moment timelineRead : Nat} {governing : String × LabelApplied}
    {before rest : List Logged} {labelled : Logged}
    (sorted : log.Pairwise fun a b => a.stamp ≤ b.stamp) (order : moment ≤ timelineRead)
    (snapshot : textOf opened (log.take moment) = text)
    (mem : governing ∈ candidates py wanted ownLogin false
      ((log.take timelineRead).filterMap Logged.labelApplied?))
    (only : OnlyEditedBy py (evidenceRead (log.take timelineRead) log).edits governing.2.appliedAt
      governing.1)
    (split : log.take timelineRead = before ++ labelled :: rest)
    (is_governing : labelled.labelApplied? = some governing.2)
    (covers : before.length < moment ∨ textOf opened before = text) :
    ApprovedText py wanted ownLogin opened log text := by
  obtain ⟨approves, stamp⟩ := approves_of_candidate mem is_governing
  have whole : log = before ++ labelled :: (rest ++ log.drop timelineRead) := by
    conv_lhs => rw [← List.take_append_drop timelineRead log, split]
    simp only [List.append_assoc, List.cons_append]
  rcases covers with there | same
  · obtain ⟨k, rfl⟩ := Nat.exists_eq_add_of_lt there
    -- the events between the labelling and the snapshot, and those the reads saw after it
    have taken : log.take (before.length + k + 1) = before ++ labelled :: rest.take k := by
      have again : log.take (before.length + k + 1) =
          (log.take timelineRead).take (before.length + k + 1) := by
        rw [List.take_take, Nat.min_eq_left order]
      rw [again, split, List.take_append, List.take_of_length_le (by omega),
        show before.length + k + 1 - before.length = k + 1 by omega, List.take_succ_cons]
    refine ⟨before, labelled, rest.take k, rest.drop k ++ log.drop timelineRead, governing.1, ?_, approves,
      fun logged mem_between => ?_, taken ▸ snapshot⟩
    · rw [← List.append_assoc (rest.take k), List.take_append_drop]
      exact whole
    · have in_timeline : logged ∈ log.take timelineRead := by
        rw [split]
        simp [List.mem_of_mem_take mem_between]
      have late : labelled.stamp ≤ logged.stamp := by
        rw [whole] at sorted
        have after_label := (List.pairwise_append.mp sorted).2.1
        exact (List.pairwise_cons.mp after_label).1 logged
          (by simp [List.mem_of_mem_take mem_between])
      exact keepsApproval_of_only only in_timeline (List.mem_of_mem_take in_timeline) (stamp ▸ late)
  · exact ⟨before, labelled, [], rest ++ log.drop timelineRead, governing.1, whole, approves,
      by simp, (textOf_labelled approves).trans same⟩

end Approval
section Run

variable {py : Py} {labels : GitHubLabels py} {ownLogin : String} {s s' : Dispatcher}

/-- A snapshot is of some moment of the log. -/
def Polled.TakenOf (polled : Polled) (opened : IssueText) (log : List Logged) : Prop :=
  polled.moment ≤ log.length ∧ textOf opened (log.take polled.moment) = polled.issue.text

theorem Polled.TakenOf.append {polled : Polled} {opened : IssueText} {log more : List Logged}
    (h : polled.TakenOf opened log) : polled.TakenOf opened (log ++ more) := by
  refine ⟨h.1.trans (by simp), ?_⟩
  rw [List.take_append_of_le_length h.1]
  exact h.2

/-- What the worker's place in a dispatch says of the log. -/
def Phase.Sound (py : Py) (labels : GitHubLabels py) (ownLogin : String) (opened : IssueText)
    (log : List Logged) : Phase → Prop
  | .idle => True
  | .readingTimeline polled => polled.TakenOf opened log
  | .readingEdits polled timelineRead => polled.TakenOf opened log ∧ polled.moment ≤ timelineRead
  | .approved issue => ApprovedText py labels.todo ownLogin opened log issue.text

/-- The invariant: snapshots are of the log, and a text is approved wherever the worker's
memory, its dispatch or a session it started takes it to be. -/
structure Dispatcher.Sound (py : Py) (labels : GitHubLabels py) (ownLogin : String)
    (s : Dispatcher) : Prop where
  sorted : s.log.Pairwise fun a b => a.stamp ≤ b.stamp
  polled : ∀ polled ∈ s.polled, polled.TakenOf s.opened s.log
  phase : s.phase.Sound py labels ownLogin s.opened s.log
  remembered : ∀ key approved, s.remembered = some (key, .approved approved) → key.authorship = false →
    ApprovedText py labels.todo ownLogin s.opened s.log ⟨key.title, key.body⟩
  started : ∀ text ∈ s.started, ApprovedText py labels.todo ownLogin s.opened s.log text

/-- A step on GitHub leaves what was sound sound. -/
theorem Dispatcher.Sound.history (h : s.Sound py labels ownLogin) {logged : Logged}
    (late : ∀ earlier ∈ s.log, earlier.stamp ≤ logged.stamp) :
    { s with log := s.log ++ [logged] }.Sound py labels ownLogin where
  sorted := by
    rw [List.pairwise_append]
    exact ⟨h.sorted, List.pairwise_singleton _ _, fun earlier mem later here =>
      List.mem_singleton.mp here ▸ late earlier mem⟩
  polled := fun polled mem => (h.polled polled mem).append
  phase := by
    have phase := h.phase
    revert phase
    cases s.phase with
    | idle => exact fun _ => trivial
    | readingTimeline polled => exact fun taken => taken.append
    | readingEdits polled timelineRead => exact fun taken => ⟨taken.1.append, taken.2⟩
    | approved issue => exact fun text => text.append
  remembered := fun key approved is_key own => (h.remembered key approved is_key own).append
  started := fun text mem => (h.started text mem).append

/-- A verdict that approves only an approved text is acted on soundly. -/
theorem Dispatcher.Sound.decided (h : s.Sound py labels ownLogin) {issue : Issue} {verdict : Decision}
    (covers : verdict.isApproved = true → ApprovedText py labels.todo ownLogin s.opened s.log issue.text) :
    (s.decided issue verdict).Sound py labels ownLogin := by
  cases verdict with
  | approved approved =>
    exact ⟨h.sorted, h.polled, covers rfl, h.remembered, h.started⟩
  | unapproved refused => exact ⟨h.sorted, h.polled, trivial, h.remembered, h.started⟩

/-- Remembering a verdict that approves only an approved text is sound. -/
theorem Dispatcher.Sound.remember (h : s.Sound py labels ownLogin) {issue : Issue} {verdict : Decision}
    (covers : verdict.isApproved = true → ApprovedText py labels.todo ownLogin s.opened s.log issue.text) :
    { s with remembered := some (approvalKey labels.todo false issue, verdict) }.Sound py labels ownLogin where
  sorted := h.sorted
  polled := h.polled
  phase := h.phase
  remembered := by
    intro key approved is_key _
    simp only [Option.some.injEq, Prod.mk.injEq] at is_key
    obtain ⟨rfl, rfl⟩ := is_key
    exact covers rfl
  started := h.started

/-- The verdict of two reads covers the snapshot's text, where the labelling it goes by was
there at the snapshot or was of that text. -/
theorem Dispatcher.Sound.verdict_covers (h : s.Sound py labels ownLogin) {polled : Polled}
    {timelineRead : Nat} (phase : s.phase = .readingEdits polled timelineRead)
    (labelled : SnapshotLabelled py labels ownLogin s .readEdits)
    (approved : (assess py (evidenceRead (s.log.take timelineRead) s.log) labels.todo ownLogin
      false).isApproved = true) :
    ApprovedText py labels.todo ownLogin s.opened s.log polled.issue.text := by
  obtain ⟨⟨taken, text⟩, order⟩ := phase ▸ h.phase
  obtain ⟨governing, first, only⟩ := assess_approved_iff.mp approved
  obtain ⟨before, label, rest, split, is_governing, covers⟩ := labelled polled timelineRead phase governing first
  exact approvedText_of_assess h.sorted order text (Latest.of_argmax first).mem only split is_governing covers

/-- One step keeps the invariant. -/
theorem dispatchStep_sound {action : DispatchAction} (step : dispatchStep py labels ownLogin s action = some s')
    (labelled : SnapshotLabelled py labels ownLogin s action) (h : s.Sound py labels ownLogin) :
    s'.Sound py labels ownLogin := by
  cases action with
  | history logged =>
    simp only [dispatchStep, Option.ite_none_right_eq_some, Option.some.injEq] at step
    obtain ⟨late, rfl⟩ := step
    exact h.history late
  | poll issue =>
    simp only [dispatchStep, Option.ite_none_right_eq_some, Option.some.injEq] at step
    obtain ⟨text, rfl⟩ := step
    refine ⟨h.sorted, fun polled mem => ?_, h.phase, h.remembered, h.started⟩
    rcases List.mem_append.mp mem with old | new
    · exact h.polled polled old
    · rw [List.mem_singleton.mp new]
      exact ⟨le_refl _, by rw [List.take_length]; exact text.symm⟩
  | dispatch polled =>
    simp only [dispatchStep, Option.ite_none_right_eq_some] at step
    obtain ⟨⟨-, known, -⟩, step⟩ := step
    have reading : { s with phase := .readingTimeline polled }.Sound py labels ownLogin :=
      ⟨h.sorted, h.polled, h.polled polled known, h.remembered, h.started⟩
    cases memory : s.remembered with
    | none =>
      simp only [memory, Option.some.injEq] at step
      rw [memory] at reading
      exact step ▸ reading
    | some entry =>
      obtain ⟨key, verdict⟩ := entry
      simp only [memory] at step
      split at step
      next same =>
        obtain rfl := Option.some.inj step
        refine h.decided fun approved => ?_
        cases verdict with
        | approved approval =>
          have covered := h.remembered key approval memory (by rw [same]; rfl)
          rw [same] at covered
          exact covered
        | unapproved refused => cases approved
      next =>
        obtain rfl := Option.some.inj step
        rw [memory] at reading
        exact reading
  | readTimeline =>
    simp only [dispatchStep] at step
    cases phase : s.phase with
    | readingTimeline polled =>
      simp only [phase, Option.some.injEq] at step
      subst step
      have taken := h.phase
      rw [phase] at taken
      exact ⟨h.sorted, h.polled, ⟨taken, taken.1⟩, h.remembered, h.started⟩
    | _ => simp [phase] at step
  | readEdits =>
    simp only [dispatchStep] at step
    cases phase : s.phase with
    | readingEdits polled timelineRead =>
      simp only [phase, Option.some.injEq] at step
      subst step
      have covers := h.verdict_covers phase labelled
      exact (h.remember covers).decided covers
    | _ => simp [phase] at step
  | pastCeiling reason =>
    simp only [dispatchStep] at step
    have refused : ∀ polled : Polled, (Decision.unapproved ⟨reason, none, none⟩).isApproved = true →
        ApprovedText py labels.todo ownLogin s.opened s.log polled.issue.text := fun _ h => by cases h
    cases phase : s.phase with
    | readingTimeline polled | readingEdits polled _ =>
      simp only [phase, Option.some.injEq] at step
      subst step
      exact (h.remember (refused polled)).decided (refused polled)
    | _ => simp [phase] at step
  | giveUp =>
    obtain rfl := Option.some.inj step
    exact ⟨h.sorted, h.polled, trivial, h.remembered, h.started⟩
  | claim granted =>
    simp only [dispatchStep] at step
    cases phase : s.phase with
    | approved issue =>
      simp only [phase] at step
      have text := h.phase
      rw [phase] at text
      split at step
      · obtain rfl := Option.some.inj step
        refine ⟨h.sorted, h.polled, trivial, h.remembered, fun started mem => ?_⟩
        rcases List.mem_append.mp mem with old | new
        · exact h.started started old
        · rw [List.mem_singleton.mp new]
          exact text
      · obtain rfl := Option.some.inj step
        exact ⟨h.sorted, h.polled, trivial, h.remembered, h.started⟩
    | _ => simp [phase] at step
  | rememberTriage issue verdict =>
    obtain rfl := Option.some.inj step
    refine ⟨h.sorted, h.polled, h.phase, fun key approved is_key own => ?_, h.started⟩
    simp only [Option.some.injEq, Prod.mk.injEq] at is_key
    rw [← is_key.1] at own
    cases own
  | forget =>
    obtain rfl := Option.some.inj step
    exact ⟨h.sorted, h.polled, h.phase, nofun, h.started⟩

theorem Dispatcher.init_sound (opened : IssueText) : (Dispatcher.init opened).Sound py labels ownLogin where
  sorted := List.Pairwise.nil
  polled := fun _ mem => by cases mem
  phase := trivial
  remembered := fun _ _ is_key => by cases is_key
  started := fun _ mem => by cases mem

/-- In every run in which the labelling a verdict goes by was on GitHub at the snapshot, or
was of its text, every session is started on a text a person approved. -/
theorem started_text_is_approved (py : Py) (labels : GitHubLabels py) (ownLogin : String) (opened : IssueText)
    {actions : List DispatchAction} {s : Dispatcher}
    (run : Steps (fun s a s' => dispatchStep py labels ownLogin s a = some s' ∧
      SnapshotLabelled py labels ownLogin s a) (Dispatcher.init opened) actions s) :
    ∀ text ∈ s.started, ApprovedText py labels.todo ownLogin s.opened s.log text := by
  have sound : s.Sound py labels ownLogin :=
    run.invariant (fun _ _ _ step => dispatchStep_sound step.1 step.2) (Dispatcher.init_sound opened)
  exact sound.started

end Run

section Race

/-- A snapshot of issue 7 in `todo`. -/
def todoIssue (text : IssueText) : Issue where
  number := 7
  title := text.title
  body := text.body
  author := some "mallory"
  githubState := .opened
  state := some .todo
  stateLabels := ["issuebot/todo"]
  labels := ["issuebot/todo"]
  createdAt := 0
  updatedAt := seconds 20
  dispatchable := true

def aliceTodo (stamp : Int) : Logged := ⟨seconds stamp, .labeled "issuebot/todo" (some "alice")⟩

/-- Alice labels, the worker polls, reads the history and starts a session. -/
theorem started_text_is_approved_once :
    ∃ s, Steps (fun s a s' => dispatchStep Py.ascii GitHubLabels.default "issuebot" s a = some s' ∧
        SnapshotLabelled Py.ascii GitHubLabels.default "issuebot" s a)
      (Dispatcher.init ⟨"Fix", none⟩)
      [.history (aliceTodo 10), .poll (todoIssue ⟨"Fix", none⟩), .dispatch ⟨todoIssue ⟨"Fix", none⟩, 1⟩,
        .readTimeline, .readEdits, .claim true] s ∧
      s.started = [⟨"Fix", none⟩] ∧
      ∀ text ∈ s.started,
        ApprovedText Py.ascii GitHubLabels.default.todo "issuebot" s.opened s.log text := by
  obtain ⟨s, run, started⟩ : ∃ s,
      Steps (fun s a s' => dispatchStep Py.ascii GitHubLabels.default "issuebot" s a = some s' ∧
        SnapshotLabelled Py.ascii GitHubLabels.default "issuebot" s a)
      (Dispatcher.init ⟨"Fix", none⟩)
      [.history (aliceTodo 10), .poll (todoIssue ⟨"Fix", none⟩), .dispatch ⟨todoIssue ⟨"Fix", none⟩, 1⟩,
        .readTimeline, .readEdits, .claim true] s ∧ s.started = [⟨"Fix", none⟩] := by
    refine ⟨_, .cons ⟨rfl, trivial⟩ (.cons ⟨rfl, trivial⟩ (.cons ⟨rfl, trivial⟩ (.cons ⟨rfl, trivial⟩
      (.cons ⟨rfl, ?_⟩ (.cons ⟨rfl, trivial⟩ (.nil _)))))), rfl⟩
    intro polled timelineRead phase governing first
    obtain ⟨rfl, rfl⟩ := Phase.readingEdits.inj phase
    obtain rfl : ("alice", ⟨"issuebot/todo", some "alice", seconds 10⟩) = governing := Option.some.inj first
    exact ⟨[], aliceTodo 10, [], rfl, rfl, .inl (by decide)⟩
  exact ⟨s, run, started, started_text_is_approved Py.ascii GitHubLabels.default "issuebot" _ run⟩

/-- Mallory's text is polled, Alice puts it right and labels again, and only then is the
history read: the session is given Mallory's text. -/
def raceActions : List DispatchAction :=
  [.history (aliceTodo 10), .history ⟨seconds 20, .bodyEdited (some "mallory") (some "evil")⟩,
    .poll (todoIssue ⟨"Fix", some "evil"⟩), .history ⟨seconds 30, .bodyEdited (some "alice") none⟩,
    .history (aliceTodo 40), .dispatch ⟨todoIssue ⟨"Fix", some "evil"⟩, 2⟩, .readTimeline, .readEdits,
    .claim true]

theorem unapproved_text_is_started :
    ∃ s, Steps (fun s a s' => dispatchStep Py.ascii GitHubLabels.default "issuebot" s a = some s')
        (Dispatcher.init ⟨"Fix", none⟩) raceActions s ∧
      ∃ text ∈ s.started,
        ¬ ApprovedText Py.ascii GitHubLabels.default.todo "issuebot" s.opened s.log text := by
  obtain ⟨s, run, started, opened, log⟩ : ∃ s,
      execute (dispatchStep Py.ascii GitHubLabels.default "issuebot") (Dispatcher.init ⟨"Fix", none⟩)
        raceActions = some s ∧ s.started = [⟨"Fix", some "evil"⟩] ∧ s.opened = ⟨"Fix", none⟩ ∧
      s.log = [aliceTodo 10, ⟨seconds 20, .bodyEdited (some "mallory") (some "evil")⟩,
        ⟨seconds 30, .bodyEdited (some "alice") none⟩, aliceTodo 40] := ⟨_, rfl, rfl, rfl, rfl⟩
  refine ⟨s, .of_execute run, ⟨"Fix", some "evil"⟩, by simp [started], ?_⟩
  rw [opened, log]
  rintro ⟨before, labelled, between, after, who, split, ⟨label, event, -, -⟩, kept, text⟩
  rcases before with _ | ⟨first, _ | ⟨second, _ | ⟨third, _ | ⟨fourth, rest⟩⟩⟩⟩ <;>
    simp only [List.nil_append, List.cons_append, List.cons.injEq, reduceCtorEq, and_false,
      List.nil_eq, List.append_eq_nil_iff] at split
  · -- Alice's first label: Mallory's edit is the first event after it
    obtain ⟨rfl, split⟩ := split
    obtain rfl : "alice" = who := Option.some.inj (HistoryEvent.labeled.inj event).2
    rcases between with _ | ⟨edit, between⟩
    · revert text
      decide
    · obtain ⟨rfl, -⟩ := List.cons.inj split
      obtain ⟨account, named, same⟩ := kept _ List.mem_cons_self
      cases named
      revert same
      decide
  · obtain ⟨-, rfl, -⟩ := split
    cases event
  · obtain ⟨-, -, rfl, -⟩ := split
    cases event
  · -- her second: the text is hers by then
    obtain ⟨rfl, rfl, rfl, rfl, rfl, rfl⟩ := split
    revert text
    decide

end Race
end Issuebot
