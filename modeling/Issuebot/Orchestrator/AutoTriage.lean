import Issuebot.Logic.Runs
import Issuebot.GitHub.Errors
import Issuebot.Orchestrator.TriagePasses

/-!
# Auto-triage's watermark

With `triage.auto` on, every issue opened after the watermark is decided once, oldest first, and the
watermark moves past it. A scan leaves it at the last issue decided, or, where a label write is
refused, strictly before the second the refused issue was opened in (`scanFrom_decides`): an issue
it labelled in that same second is listed again, and remembered.
-/

namespace Issuebot
set_option autoImplicit false
open Logic

/-- `SCAN_INTERVAL_S` -/
def scanInterval : Int := seconds 120

/-- `SETTLE` -/
def settleTime : Int := seconds 60

structure AutoTriageRecord where
  auto : Bool
  watermark : Datetime
  deriving DecidableEq, Repr

/-- What a scan does to an issue, and a record that is published. -/
inductive TriageAct where
  | passedOver (number : Nat) (reason : String)
  | labelled (number : Nat)
  | refused (number : Nat) (error : GitHubError)
  | recorded (record : AutoTriageRecord)
  deriving DecidableEq, Repr

namespace AutoTriage

/-- The record after reading the setting, or `none` when nothing changes. -/
def settle (record : Option AutoTriageRecord) (auto : Bool) (now : Datetime) : Option AutoTriageRecord :=
  match record with
  | none => if auto then some ⟨true, now⟩ else none
  | some record =>
    if auto && !record.auto then some ⟨true, now⟩
    else if !auto && record.auto then some ⟨false, record.watermark⟩
    else none

/-- Why an issue is not auto-triaged, or `none` when it is. -/
def skipReason {py : Py} (labels : GitHubLabels py) (issue : Issue) : Option String :=
  let markers := [labels.noFault, labels.triageTodo, labels.triageComplete, labels.operatorStep]
  if issue.githubState ≠ .opened then some "closed"
  else if issue.labels.any fun name => ((labels.asTuple ++ markers).map py.lower).contains (py.lower name) then
    some "carries an issuebot label"
  else if issue.parent.isSome || issue.parentElsewhere then some "has a parent issue"
  else if issue.subIssueCount > 0 then some "has sub-issues"
  else
    match issue.author with
    | none => some authorDeleted
    | some author =>
      if issue.authorAssociation.any maintainerAssociations.contains then none
      else some (notAMaintainer author (orDefault issue.authorAssociation "unknown"))

/-- A scan under way: the watermark past every issue decided so far, and the one past every issue
opened strictly before the issue in hand, where a refused write leaves it. -/
structure Scan where
  watermark : Datetime
  behind : Datetime
  autoLabelled : List Nat
  acts : List TriageAct

section Scanning

variable {py : Py} (labels : GitHubLabels py) (settled : Datetime) (refusal : Nat → Option GitHubError)

/-- The issues one after another, from the oldest. -/
def scanFrom : List Issue → Scan → Scan
  | [], scan => scan
  | issue :: rest, scan =>
    -- the read is oldest first, so every issue after this one is newer still
    if issue.createdAt > settled then scan
    else
      let behind := if issue.createdAt > scan.watermark then scan.watermark else scan.behind
      let reason := if scan.autoLabelled.contains issue.number then some "already auto-labelled"
        else skipReason labels issue
      match reason with
      | some reason =>
        scanFrom rest
          { scan with
            behind
            watermark := issue.createdAt
            acts := scan.acts ++ [.passedOver issue.number reason] }
      | none =>
        match refusal issue.number with
        | some error =>
          { scan with behind, watermark := behind, acts := scan.acts ++ [.refused issue.number error] }
        | none =>
          scanFrom rest
            { behind
              watermark := issue.createdAt
              autoLabelled := scan.autoLabelled ++ [issue.number]
              acts := scan.acts ++ [.labelled issue.number] }

end Scanning

/-- What one process knows: the record, the issues it has labelled, which it never forgets, and the
clock before which it makes no scan. `acts` is everything it has done. -/
structure State where
  record : Option AutoTriageRecord
  notBefore : Option Int := none
  autoLabelled : List Nat := []
  acts : List TriageAct := []

/-- A tick: the repository's issues as it reads them, the times it reads, the setting, whether it could dispatch, the answer of
`fetch_issues_opened_since`, and the label writes that are refused. -/
structure Tick where
  world : List Issue
  auto : Bool
  now : Datetime
  scanned : Datetime
  clock : Int
  later : Int
  cannotDispatch : Bool
  issues : Except GitHubError (List Issue)
  refusal : Nat → Option GitHubError

namespace State

/-- `_record_auto_triage` -/
def keep (record : AutoTriageRecord) (s : State) : State :=
  { s with record := some record, acts := s.acts ++ [.recorded record] }

/-- `_settle_auto_triage` -/
def settleAuto (tick : Tick) (s : State) : State :=
  match settle s.record tick.auto tick.now with
  | none => s
  | some record =>
    let kept := s.keep record
    if record.auto then { kept with notBefore := none } else kept

/-- The scan of a listing. -/
def scan {py : Py} (labels : GitHubLabels py) (record : AutoTriageRecord) (issues : List Issue) (tick : Tick) (s : State) :
    State :=
  let done := scanFrom labels (tick.scanned - settleTime) tick.refusal issues
    { watermark := record.watermark, behind := record.watermark, autoLabelled := s.autoLabelled, acts := s.acts }
  let decided := { s with autoLabelled := done.autoLabelled, acts := done.acts }
  if done.watermark ≠ record.watermark then decided.keep { record with watermark := done.watermark } else decided

/-- `_scan_for_auto_triage` -/
def scanForAutoTriage {py : Py} (labels : GitHubLabels py) (tick : Tick) (s : State) : State :=
  match s.record with
  | none => s
  | some record =>
    if !record.auto then s
    else if tick.cannotDispatch then s
    else if s.notBefore.any fun time => tick.clock < time then s
    else
      match tick.issues with
      | .error error =>
        { s with notBefore := some (if error.ceiling then tick.later + ceilingRetry else tick.clock + scanInterval) }
      | .ok issues => ({ s with notBefore := some (tick.clock + scanInterval) }).scan labels record issues tick

/-- The part of a tick that is about auto-triage. -/
def tick {py : Py} (labels : GitHubLabels py) (tick : Tick) (s : State) : State :=
  (s.settleAuto tick).scanForAutoTriage labels tick

end State
section Spec

variable {py : Py} {labels : GitHubLabels py} {settled : Datetime} {refusal : Nat → Option GitHubError}
variable {issues : List Issue} {issue : Issue} {acts : List TriageAct}

/-- The issues labelled, in order. -/
def labelledNumbers (acts : List TriageAct) : List Nat :=
  acts.filterMap fun
    | .labelled number => some number
    | _ => none

@[simp] theorem labelledNumbers_append {more : List TriageAct} :
    labelledNumbers (acts ++ more) = labelledNumbers acts ++ labelledNumbers more := List.filterMap_append

/-- The issue has been labelled, or passed over for its `skip_reason`. -/
def Decided (labels : GitHubLabels py) (acts : List TriageAct) (issue : Issue) : Prop :=
  .labelled issue.number ∈ acts ∨ ∃ reason, skipReason labels issue = some reason ∧ .passedOver issue.number reason ∈ acts

theorem Decided.mono {more : List TriageAct} (decided : Decided labels acts issue) (grows : acts <+: more) :
    Decided labels more issue := by
  rcases decided with labelled | ⟨reason, skips, passed⟩
  · exact .inl (grows.subset labelled)
  · exact .inr ⟨reason, skips, grows.subset passed⟩

/-- The process remembers the issues it has labelled, each of them once. -/
structure Remembers (autoLabelled : List Nat) (acts : List TriageAct) : Prop where
  same : autoLabelled = labelledNumbers acts
  once : (labelledNumbers acts).Nodup

theorem Remembers.other {autoLabelled : List Nat} {act : TriageAct} (remembers : Remembers autoLabelled acts)
    (other : labelledNumbers [act] = []) : Remembers autoLabelled (acts ++ [act]) := by
  refine ⟨?_, ?_⟩
  · rw [labelledNumbers_append, other, List.append_nil]
    exact remembers.same
  · rw [labelledNumbers_append, other, List.append_nil]
    exact remembers.once

theorem Remembers.label {autoLabelled : List Nat} {number : Nat} (remembers : Remembers autoLabelled acts)
    (new : number ∉ autoLabelled) : Remembers (autoLabelled ++ [number]) (acts ++ [.labelled number]) := by
  have added : labelledNumbers (acts ++ [.labelled number]) = labelledNumbers acts ++ [number] := labelledNumbers_append
  refine ⟨?_, ?_⟩
  · rw [added, remembers.same]
  · rw [added]
    apply List.nodup_append.mpr ⟨remembers.once, List.nodup_singleton _, _⟩
    rintro other mem _ single rfl
    rw [List.mem_singleton.mp single, ← remembers.same] at mem
    exact new mem

theorem mem_labelledNumbers {number : Nat} : number ∈ labelledNumbers acts ↔ .labelled number ∈ acts := by
  unfold labelledNumbers
  rw [List.mem_filterMap]
  constructor
  · rintro ⟨act, mem, named⟩
    cases act with
    | labelled other =>
      cases named
      exact mem
    | _ => cases named
  · exact fun mem => ⟨_, mem, rfl⟩

/-- Where a scan stands before the issues that are left: none of them is older than the watermark, and
one of its second is there only once the watermark behind is strictly before it. -/
structure Stands (settled : Datetime) (issues : List Issue) (scan : Scan) : Prop where
  oldest : issues.Pairwise fun older newer => older.createdAt ≤ newer.createdAt
  ahead : ∀ issue ∈ issues, scan.watermark ≤ issue.createdAt
  behind : scan.behind ≤ scan.watermark
  strict : scan.behind < scan.watermark ∧ scan.watermark ≤ settled ∨ ∀ issue ∈ issues, scan.watermark < issue.createdAt

/-- What a scan has done when it ends: what is behind its watermark is decided, what it was refused is
strictly ahead of it. -/
structure Scanned (labels : GitHubLabels py) (settled : Datetime) (issues : List Issue) (before after : Scan) : Prop where
  forward : before.behind ≤ after.watermark
  settled : after.watermark ≤ before.watermark ∨ after.watermark ≤ settled
  acts : before.acts <+: after.acts
  remembers : Remembers after.autoLabelled after.acts
  decided : ∀ issue ∈ issues, issue.createdAt ≤ after.watermark → Decided labels after.acts issue
  refused : ∀ number error, .refused number error ∈ after.acts.drop before.acts.length →
    ∃ issue ∈ issues, issue.number = number ∧ after.watermark < issue.createdAt

/-- One issue decided, and then the rest. -/
theorem Scanned.after_decided {scan next after : Scan} {act : TriageAct} {rest : List Issue}
    (acts : next.acts = scan.acts ++ [act]) (behind : scan.behind ≤ next.behind) (decides : Decided labels next.acts issue)
    (granted : ∀ number error, act ≠ .refused number error) (within : next.watermark ≤ settled)
    (done : Scanned labels settled rest next after) : Scanned labels settled (issue :: rest) scan after := by
  obtain ⟨more, whole⟩ := done.acts
  have told : after.acts = scan.acts ++ act :: more := by rw [← whole, acts, List.append_assoc]; rfl
  refine ⟨behind.trans done.forward, .inr ?_, told ▸ List.prefix_append _ _, done.remembers, ?_, ?_⟩
  · exact done.settled.elim (fun older => older.trans within) id
  · intro other mem reached
    rcases List.mem_cons.mp mem with rfl | later
    · exact decides.mono done.acts
    · exact done.decided other later reached
  · intro number error mem
    rw [told, List.drop_left] at mem
    rcases List.mem_cons.mp mem with same | later
    · exact absurd same.symm (granted number error)
    · have refused : .refused number error ∈ after.acts.drop next.acts.length := by
        rw [← whole, List.drop_left]
        exact later
      obtain ⟨other, other_mem, named, ahead⟩ := done.refused number error refused
      exact ⟨other, List.mem_cons_of_mem _ other_mem, named, ahead⟩

theorem scanFrom_decides {scan : Scan} (stands : Stands settled issues scan) (remembers : Remembers scan.autoLabelled scan.acts) :
    Scanned labels settled issues scan (scanFrom labels settled refusal issues scan) := by
  induction issues generalizing scan with
  | nil =>
    refine ⟨stands.behind, .inl (Int.le_refl _), List.prefix_rfl, remembers, fun _ mem => (nomatch mem), ?_⟩
    intro number error mem
    rw [scanFrom, List.drop_length] at mem
    cases mem
  | cons issue rest ih =>
    obtain ⟨oldest, ahead, behind_le, strict⟩ := stands
    obtain ⟨newer, oldest_rest⟩ := List.pairwise_cons.mp oldest
    have here := ahead issue List.mem_cons_self
    let behind := if issue.createdAt > scan.watermark then scan.watermark else scan.behind
    have behind_ge : scan.behind ≤ behind := by
      show scan.behind ≤ ite _ _ _
      split
      · exact behind_le
      · exact Int.le_refl _
    have behind_within : behind ≤ scan.watermark := by
      show ite _ _ _ ≤ scan.watermark
      split
      · exact Int.le_refl _
      · exact behind_le
    have behind_lt : behind < issue.createdAt := by
      show ite _ _ _ < _
      split
      · assumption
      next not_newer =>
        rcases strict with ⟨before, -⟩ | above
        · exact lt_of_lt_of_le before here
        · exact lt_of_le_of_lt behind_le (above issue List.mem_cons_self)
    rw [scanFrom]
    by_cases unsettled : issue.createdAt > settled
    · -- nothing that is left is behind the watermark: it is older than what has settled
      rw [if_pos unsettled]
      refine ⟨behind_le, .inl (Int.le_refl _), List.prefix_rfl, remembers, ?_, ?_⟩
      · intro other mem reached
        have older : issue.createdAt ≤ other.createdAt := by
          rcases List.mem_cons.mp mem with rfl | later
          · exact Int.le_refl _
          · exact newer other later
        rcases strict with ⟨-, within⟩ | above
        · exact absurd (lt_of_lt_of_le unsettled older) (not_lt_of_ge (reached.trans within))
        · exact absurd reached (not_le_of_gt (above other mem))
      · intro number error mem
        rw [List.drop_length] at mem
        cases mem
    · rw [if_neg unsettled]
      have next_stands : ∀ next : Scan, next.watermark = issue.createdAt → next.behind = behind →
          Stands settled rest next := by
        intro next watermark is_behind
        refine ⟨oldest_rest, ?_, ?_, .inl ⟨?_, ?_⟩⟩
        · rw [watermark]
          exact newer
        · rw [watermark, is_behind]
          exact behind_lt.le
        · rw [watermark, is_behind]
          exact behind_lt
        · rw [watermark]
          exact not_lt.mp unsettled
      dsimp only
      split
      next reason skips =>
        have decides : Decided labels (scan.acts ++ [.passedOver issue.number reason]) issue := by
          split at skips
          next known =>
            left
            have mem : issue.number ∈ scan.autoLabelled := List.contains_iff_mem.mp known
            rw [remembers.same, mem_labelledNumbers] at mem
            exact List.mem_append_left _ mem
          next unknown => exact .inr ⟨reason, skips, List.mem_append_right _ (List.mem_singleton_self _)⟩
        have done := ih (next_stands { scan with behind, watermark := issue.createdAt
                                                 acts := scan.acts ++ [.passedOver issue.number reason] } rfl rfl)
          (remembers.other rfl)
        exact done.after_decided rfl behind_ge decides (by nofun) (not_lt.mp unsettled)
      next takes =>
        split
        next error is_error =>
          -- the watermark goes back strictly before the refused issue
          refine ⟨behind_ge, .inl behind_within, List.prefix_append _ _, remembers.other rfl, ?_, ?_⟩
          · intro other mem reached
            have older : issue.createdAt ≤ other.createdAt := by
              rcases List.mem_cons.mp mem with rfl | later
              · exact Int.le_refl _
              · exact newer other later
            exact absurd (lt_of_lt_of_le behind_lt older) (not_lt_of_ge reached)
          · intro number error' mem
            rw [List.drop_left, List.mem_singleton] at mem
            cases mem
            exact ⟨issue, List.mem_cons_self, rfl, behind_lt⟩
        next granted =>
          have new : issue.number ∉ scan.autoLabelled := by
            intro mem
            rw [if_pos (List.contains_iff_mem.mpr mem)] at takes
            cases takes
          have decides : Decided labels (scan.acts ++ [.labelled issue.number]) issue :=
            .inl (List.mem_append_right _ (List.mem_singleton_self _))
          have done := ih (next_stands { behind, watermark := issue.createdAt
                                         autoLabelled := scan.autoLabelled ++ [issue.number]
                                         acts := scan.acts ++ [.labelled issue.number] } rfl rfl)
            (remembers.label new)
          exact done.after_decided rfl behind_ge decides (by nofun) (not_lt.mp unsettled)

end Spec

section Ticks

variable {py : Py} {labels : GitHubLabels py} {t : Tick} {s s' : State}

/-- The complete listing of the open issues opened strictly after `since`, oldest first. -/
structure Lists (world : List Issue) (since : Datetime) (issues : List Issue) : Prop where
  oldest : issues.Pairwise fun a b => a.createdAt < b.createdAt ∨ a.createdAt = b.createdAt ∧ a.number ≤ b.number
  complete : ∀ issue, issue ∈ issues ↔ issue ∈ world ∧ issue.githubState = .opened ∧ since < issue.createdAt

/-- What a tick does with the watermark: it does not go back; what it passes is decided by then, `done`
being what was done when it moved; and what was refused is strictly ahead of it. -/
structure Moves (labels : GitHubLabels py) (t : Tick) (s s' : State) : Prop where
  forward : ∀ record ∈ s.record, ∀ record' ∈ s'.record, record.watermark ≤ record'.watermark
  decided : ∃ record record' done, (s.settleAuto t).record = some record ∧ s'.record = some record' ∧
    (record' = record ∧ s'.acts = done ∨ s'.acts = done ++ [.recorded record']) ∧
    ∀ issue ∈ t.world, issue.githubState = .opened → record.watermark < issue.createdAt →
      issue.createdAt ≤ record'.watermark → Decided labels done issue
  refused : ∀ number error, .refused number error ∈ s'.acts.drop s.acts.length →
    ∃ issue ∈ t.world, issue.number = number ∧ ∀ record' ∈ s'.record, record'.watermark < issue.createdAt

/-- What holds of a process between two ticks: its record is of the past, and it remembers what it has
labelled. -/
structure Sound (s : State) (time : Datetime) : Prop where
  past : ∀ record ∈ s.record, record.watermark ≤ time
  remembers : Remembers s.autoLabelled s.acts

theorem lists_stands {world issues : List Issue} {since settled : Datetime} (lists : Lists world since issues)
    {scan : Scan} (watermark : scan.watermark = since) (behind : scan.behind = since) : Stands settled issues scan := by
  have newer : ∀ issue ∈ issues, since < issue.createdAt := fun issue mem => ((lists.complete issue).mp mem).2.2
  refine ⟨lists.oldest.imp ?_, ?_, ?_, .inr ?_⟩
  · rintro a b (older | ⟨same, -⟩)
    · exact older.le
    · exact same.le
  · rw [watermark]
    exact fun issue mem => (newer issue mem).le
  · rw [watermark, behind]
  · rw [watermark]
    exact newer

/-- The setting read: the record is on, and nothing but a record may have been published. -/
structure SettledOn (t : Tick) (before after : State) : Prop where
  on : ∃ record, after.record = some record ∧ record.auto = true ∧ record.watermark ≤ t.now ∧
    ∀ earlier ∈ before.record, earlier.watermark ≤ record.watermark
  autoLabelled : after.autoLabelled = before.autoLabelled
  acts : after.acts = before.acts ∨ ∃ record, after.acts = before.acts ++ [.recorded record]

theorem settleAuto_on (on : t.auto = true) (past : ∀ record ∈ s.record, record.watermark ≤ t.now) :
    SettledOn t s (s.settleAuto t) := by
  have switched : SettledOn t s { s.keep ⟨true, t.now⟩ with notBefore := none } :=
    ⟨⟨_, rfl, rfl, Int.le_refl _, past⟩, rfl, .inr ⟨_, rfl⟩⟩
  cases is_record : s.record with
  | none =>
    have settles : s.settleAuto t = { s.keep ⟨true, t.now⟩ with notBefore := none } := by
      simp [State.settleAuto, settle, is_record, on]
    exact settles ▸ switched
  | some record =>
    by_cases was_on : record.auto = true
    · have settles : s.settleAuto t = s := by simp [State.settleAuto, settle, is_record, on, was_on]
      rw [settles]
      refine ⟨⟨record, is_record, was_on, past record is_record, ?_⟩, rfl, .inl rfl⟩
      rintro earlier is_earlier
      obtain rfl : record = earlier := Option.some.inj (is_record.symm.trans is_earlier)
      exact Int.le_refl _
    · have settles : s.settleAuto t = { s.keep ⟨true, t.now⟩ with notBefore := none } := by
        simp [State.settleAuto, settle, is_record, on, was_on]
      exact settles ▸ switched

/-- What a tick does once the setting is read, from the record it then has. -/
structure Scans (labels : GitHubLabels py) (t : Tick) (record : AutoTriageRecord) (before after : State) : Prop where
  record : ∃ record', after.record = some record' ∧ record.watermark ≤ record'.watermark ∧
    (record'.watermark ≤ record.watermark ∨ record'.watermark ≤ t.scanned - settleTime) ∧
    ∃ done, before.acts <+: done ∧
      (record' = record ∧ after.acts = done ∨ after.acts = done ++ [.recorded record']) ∧
      (∀ issue ∈ t.world, issue.githubState = .opened → record.watermark < issue.createdAt →
        issue.createdAt ≤ record'.watermark → Decided labels done issue) ∧
      ∀ number error, .refused number error ∈ done.drop before.acts.length →
        ∃ issue ∈ t.world, issue.number = number ∧ record'.watermark < issue.createdAt
  remembers : Remembers after.autoLabelled after.acts

theorem scan_scans {record : AutoTriageRecord} {issues : List Issue} (is_record : s.record = some record)
    (remembers : Remembers s.autoLabelled s.acts) (lists : Lists t.world record.watermark issues) :
    Scans labels t record s (s.scan labels record issues t) := by
  let start : Scan :=
    { watermark := record.watermark, behind := record.watermark, autoLabelled := s.autoLabelled, acts := s.acts }
  have done : Scanned labels (t.scanned - settleTime) issues start
      (scanFrom labels (t.scanned - settleTime) t.refusal issues start) :=
    scanFrom_decides (lists_stands lists rfl rfl) remembers
  have shape : s.scan labels record issues t =
      let after := scanFrom labels (t.scanned - settleTime) t.refusal issues start
      let decided := { s with autoLabelled := after.autoLabelled, acts := after.acts }
      if after.watermark ≠ record.watermark then decided.keep { record with watermark := after.watermark } else decided := rfl
  rw [shape]
  generalize scanFrom labels (t.scanned - settleTime) t.refusal issues start = after at done ⊢
  dsimp only
  have decides : ∀ issue ∈ t.world, issue.githubState = .opened → record.watermark < issue.createdAt →
      issue.createdAt ≤ after.watermark → Decided labels after.acts issue :=
    fun issue mem opened newer reached => done.decided issue ((lists.complete issue).mpr ⟨mem, opened, newer⟩) reached
  have ahead : ∀ number error, .refused number error ∈ after.acts.drop s.acts.length →
      ∃ issue ∈ t.world, issue.number = number ∧ after.watermark < issue.createdAt := by
    intro number error mem
    obtain ⟨issue, listed, named, ahead⟩ := done.refused number error mem
    exact ⟨issue, ((lists.complete issue).mp listed).1, named, ahead⟩
  split
  next moved =>
    exact ⟨⟨_, rfl, done.forward, done.settled, after.acts, done.acts, .inr rfl, decides, ahead⟩, done.remembers.other rfl⟩
  next stays =>
    have same : after.watermark = record.watermark := not_not.mp stays
    rw [same] at decides ahead
    exact ⟨⟨record, is_record, Int.le_refl _, .inl (Int.le_refl _), after.acts, done.acts, .inl ⟨rfl, rfl⟩, decides, ahead⟩,
      done.remembers⟩

/-- A tick that makes no scan. -/
theorem unscanned_scans {record : AutoTriageRecord} {after : State} (is_record : after.record = some record)
    (acts : after.acts = s.acts) (remembers : Remembers after.autoLabelled after.acts) :
    Scans labels t record s after := by
  refine ⟨⟨record, is_record, Int.le_refl _, .inl (Int.le_refl _), s.acts, List.prefix_rfl, .inl ⟨rfl, acts⟩, ?_, ?_⟩,
    remembers⟩
  · exact fun issue _ _ newer reached => absurd newer (not_lt_of_ge reached)
  · intro number error mem
    rw [List.drop_length] at mem
    cases mem

theorem scanForAutoTriage_scans {record : AutoTriageRecord} (is_record : s.record = some record)
    (remembers : Remembers s.autoLabelled s.acts)
    (lists : ∀ issues, t.issues = .ok issues → Lists t.world record.watermark issues) :
    Scans labels t record s (s.scanForAutoTriage labels t) := by
  simp only [State.scanForAutoTriage, is_record]
  split
  · exact unscanned_scans is_record rfl remembers
  · split
    · exact unscanned_scans is_record rfl remembers
    · split
      · exact unscanned_scans is_record rfl remembers
      · split
        next error failed => exact unscanned_scans rfl rfl remembers
        next issues answered =>
          let waits := { s with record := some record, notBefore := some (t.clock + scanInterval) }
          have scanned : Scans labels t record waits (waits.scan labels record issues t) :=
            scan_scans rfl remembers (lists issues answered)
          exact ⟨scanned.record, scanned.remembers⟩

/-- One tick with the setting on, the clock not going back from `s.2`, and a complete listing. -/
structure TickStep (labels : GitHubLabels py) (s : State × Datetime) (t : Tick) (s' : State × Datetime) : Prop where
  on : t.auto = true
  clock : s.2 ≤ t.now ∧ t.now ≤ t.scanned
  lists : ∀ record ∈ (s.1.settleAuto t).record, ∀ issues, t.issues = .ok issues → Lists t.world record.watermark issues
  next : s' = (s.1.tick labels t, t.scanned)

/-- Nothing that is not a refusal is one. -/
theorem refused_mem_drop {number : Nat} {error : GitHubError} {acts settled done after : List TriageAct}
    (settles : settled = acts ∨ ∃ record, settled = acts ++ [.recorded record]) (grows : settled <+: done)
    (ends : after = done ∨ ∃ record, after = done ++ [.recorded record])
    (mem : TriageAct.refused number error ∈ after.drop acts.length) : .refused number error ∈ done.drop settled.length := by
  obtain ⟨more, rfl⟩ := grows
  rw [List.drop_left]
  have told : .refused number error ∈ (settled ++ more).drop acts.length := by
    rcases ends with rfl | ⟨record, rfl⟩
    · exact mem
    · have longer : acts.length ≤ (settled ++ more).length := by
        rw [List.length_append]
        rcases settles with rfl | ⟨record, rfl⟩
        · exact Nat.le_add_right _ _
        · rw [List.length_append]
          omega
      rw [List.drop_append_of_le_length longer] at mem
      rcases List.mem_append.mp mem with told | recorded
      · exact told
      · rw [List.mem_singleton] at recorded
        cases recorded
  rcases settles with rfl | ⟨record, rfl⟩
  · rwa [List.drop_left] at told
  · rw [List.append_assoc, List.drop_left] at told
    rcases List.mem_append.mp told with recorded | told
    · rw [List.mem_singleton] at recorded
      cases recorded
    · exact told

theorem tick_moves {time time' : Datetime} (step : TickStep labels (s, time) t (s', time')) (sound : Sound s time) :
    Moves labels t s s' ∧ Sound s' time' := by
  obtain ⟨on, ⟨before, later⟩, lists, next⟩ := step
  obtain ⟨rfl, rfl⟩ := Prod.mk.inj next
  have settled := settleAuto_on on fun record mem => (sound.past record mem).trans before
  obtain ⟨record, is_record, -, present, forward⟩ := settled.on
  have remembers : Remembers (s.settleAuto t).autoLabelled (s.settleAuto t).acts := by
    rw [settled.autoLabelled]
    rcases settled.acts with same | ⟨record, recorded⟩
    · rw [same]
      exact sound.remembers
    · rw [recorded]
      exact sound.remembers.other rfl
  obtain ⟨⟨record', is_record', further, within, done, grows, ends, decided, refused⟩, remembers'⟩ :=
    scanForAutoTriage_scans is_record remembers (lists record is_record)
  have only : ∀ found ∈ (s.tick labels t).record, found = record' :=
    fun found mem => Option.some.inj (Eq.trans (Eq.symm mem) is_record')
  refine ⟨⟨?_, ⟨record, record', done, is_record, is_record', ends, decided⟩, ?_⟩, ?_, remembers'⟩
  · intro earlier mem found mem'
    rw [only found mem']
    exact (forward earlier mem).trans further
  · intro number error mem
    have ended : (s.tick labels t).acts = done ∨ ∃ record, (s.tick labels t).acts = done ++ [.recorded record] :=
      ends.imp And.right fun moved => ⟨_, moved⟩
    obtain ⟨issue, listed, named, ahead⟩ := refused number error (refused_mem_drop settled.acts grows ended mem)
    refine ⟨issue, listed, named, fun found mem' => ?_⟩
    rw [only found mem']
    exact ahead
  · intro found mem
    rw [only found mem]
    rcases within with stays | within
    · exact stays.trans (present.trans later)
    · have settles : t.scanned - settleTime ≤ t.scanned := Int.sub_le_self _ (by decide)
      exact within.trans settles

/-- The same of a process and the time it has reached. -/
def SoundAt (s : State × Datetime) : Prop := Sound s.1 s.2

/-- While `triage.auto` stays on and the clock does not go back, over complete listings: a process labels
no issue twice, and every tick decides what its watermark passes, keeps it strictly before what it
was refused, and never moves it back. -/
theorem auto_triage_once {start s : State × Datetime} {ticks : List Tick} (run : Steps (TickStep labels) start ticks s)
    (fresh : start.1.autoLabelled = [] ∧ start.1.acts = []) (past : ∀ record ∈ start.1.record, record.watermark ≤ start.2) :
    (labelledNumbers s.1.acts).Nodup ∧ ∀ t s', TickStep labels s t s' → Moves labels t s.1 s'.1 := by
  have begins : SoundAt start := by
    refine ⟨past, ?_, ?_⟩
    · rw [fresh.1, fresh.2]
      rfl
    · rw [fresh.2]
      exact List.nodup_nil
  have keeps : ∀ (s : State × Datetime) t s', TickStep labels s t s' → SoundAt s → SoundAt s' :=
    fun _ _ _ step sound => (tick_moves step sound).2
  have sound : SoundAt s := Steps.invariant keeps run begins
  exact ⟨sound.remembers.once, fun t s' step => (tick_moves step sound).1⟩

end Ticks

section Example

/-- Two issues opened in one second. -/
def oneSecond : List Issue :=
  [4, 5].map fun number =>
    { number, title := "", body := none, author := some "ann", githubState := .opened, state := none, stateLabels := []
      labels := [], createdAt := seconds 10, updatedAt := seconds 10, dispatchable := true
      authorAssociation := some "OWNER" }

/-- A scan of them some seconds after the process's start. -/
def tickAfter (n : Int) (refusal : Nat → Option GitHubError) : Tick where
  world := oneSecond
  auto := true
  now := seconds n
  scanned := seconds n
  clock := seconds n
  later := seconds n
  cannotDispatch := false
  issues := .ok oneSecond
  refusal

/-- The second of two issues of one second is refused: both are listed again, and the first is remembered. -/
theorem refused_second_is_listed_again :
    ∃ ticks s, Steps (TickStep GitHubLabels.default) (({ record := some ⟨true, 0⟩ } : State), (0 : Datetime)) ticks s ∧
      labelledNumbers s.1.acts = [4, 5] ∧ (labelledNumbers s.1.acts).Nodup := by
  let first := tickAfter 100 fun number => if number = 5 then some { category := .status, message := "502" } else none
  let second := tickAfter 300 fun _ => none
  let start : State := { record := some ⟨true, 0⟩ }
  have lists : Lists oneSecond 0 oneSecond := ⟨by decide, fun issue => ⟨fun mem => ⟨mem, ?_⟩, And.left⟩⟩
  swap
  · have all : ∀ issue ∈ oneSecond, issue.githubState = .opened ∧ 0 < issue.createdAt := by decide
    exact all issue mem
  have scans : ∀ (s : State) t, s.record = some ⟨true, 0⟩ → t.world = oneSecond → t.issues = .ok oneSecond → t.auto = true →
      ∀ record ∈ (s.settleAuto t).record, ∀ issues, t.issues = .ok issues → Lists t.world record.watermark issues := by
    intro s t is_record is_world answers on record mem issues answered
    have same : s.settleAuto t = s := by simp [State.settleAuto, settle, is_record, on]
    rw [same, is_record] at mem
    cases mem
    obtain rfl : oneSecond = issues := Except.ok.inj (answers.symm.trans answered)
    rw [is_world]
    exact lists
  have stays : (start.tick GitHubLabels.default first).record = some ⟨true, 0⟩ := by decide +kernel
  have run : Steps (TickStep GitHubLabels.default) (start, 0) [first, second]
      ((start.tick GitHubLabels.default first).tick GitHubLabels.default second, seconds 300) :=
    .cons ⟨rfl, by decide, scans start first rfl rfl rfl rfl, rfl⟩
      (.cons ⟨rfl, by decide, scans _ second stays rfl rfl rfl, rfl⟩ (.nil _))
  have once := (auto_triage_once run ⟨rfl, rfl⟩ (by decide)).1
  exact ⟨_, _, run, by decide +kernel, once⟩

end Example

end AutoTriage
end Issuebot
