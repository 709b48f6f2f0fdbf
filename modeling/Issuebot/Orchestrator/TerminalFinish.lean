import Issuebot.Events
import Issuebot.Logic.Remote
import Issuebot.Logic.Runs
import Issuebot.Orchestrator.Eviction
import Issuebot.Orchestrator.State

/-!
# Closing an issue out

A closed issue is finished by the exit of its run, by its retry or by the terminal sweep, each on a
record read earlier. What keeps them from finishing it twice is its label: a finish that lands takes
off every label the sweep reads, and an issue that is at rest is neither running nor waiting to
retry (`Guarded`). Events and finishes carry the number of the close their record showed.
-/

namespace Issuebot
set_option autoImplicit false
open Logic Remote

/-- An issue on GitHub. `base` is what nothing here changes of it, `labels` are lower-cased, and
`closes` counts how often it has been closed. -/
structure LiveIssue where
  base : Issue
  closed : Bool
  labels : List String
  linkedPr : Option LinkedPr
  closes : Nat

/-- The record of an issue, and the close it shows. -/
structure ClosedRecord where
  issue : Issue
  closing : Nat
  deriving DecidableEq

namespace LiveIssue

variable {py : Py} (labels : GitHubLabels py)

/-- It carries a state label that is not `complete`: one of `TERMINAL_SWEEP_ROLES`. -/
def CarriesOpenRole (live : LiveIssue) : Prop :=
  ∃ role ∈ StateLabel.all, role ≠ .complete ∧ py.lower (labels.labelName role) ∈ live.labels

instance {live : LiveIssue} : Decidable (live.CarriesOpenRole labels) := by
  unfold CarriesOpenRole
  infer_instance

/-- The issue as a read answers it. -/
def read (number : Nat) (live : LiveIssue) : ClosedRecord :=
  let stateLabels := (labels.asTuple.map py.lower).filter (· ∈ live.labels)
  let state := match stateLabels with
    | [name] => StateLabel.all.find? fun role => py.lower (labels.labelName role) = name
    | _ => none
  { issue :=
      { live.base with
        number
        githubState := if live.closed then .closed else .opened
        state
        stateLabels
        labels := live.labels
        dispatchable := !live.closed && state.isSome
        linkedPr := live.linkedPr }
    closing := live.closes }

variable {labels} {live : LiveIssue} {number : Nat}

/-- What carries such a label is not read as complete. -/
theorem read_state_ne (carries : live.CarriesOpenRole labels) : (live.read labels number).issue.state ≠ some .complete := by
  obtain ⟨role, -, ne, on⟩ := carries
  intro is_complete
  have mem : py.lower (labels.labelName role) ∈ (labels.asTuple.map py.lower).filter (· ∈ live.labels) := by
    apply List.mem_filter.mpr
    refine ⟨List.mem_map_of_mem ?_, by simpa using on⟩
    cases role <;> simp [GitHubLabels.asTuple, GitHubLabels.labelName]
  simp only [read] at is_complete
  split at is_complete
  next name single =>
    rw [single, List.mem_singleton] at mem
    have named := List.find?_some is_complete
    exact ne (labels.labelName_injective (mem.trans (of_decide_eq_true named).symm))
  next => cases is_complete

end LiveIssue

/-- `classify_closed` -/
def classifyClosed {py : Py} (labels : GitHubLabels py) (issue : Issue) : FinishOutcome :=
  if issue.linkedPr.any (·.state = .merged) then .complete
  else if issue.labels.contains (py.lower (py.strip labels.noFault)) then .noChange
  else .cancelled

/-- `CANCEL_REASON` -/
def cancelReason : String := "closed without a merged pull request"

/-- An event of one issue, for the close it is about. -/
structure Announcement where
  number : Nat
  closing : Nat
  event : Event
  deriving DecidableEq

/-- One call of `finish_terminal`, and what it answered. -/
structure Finish where
  number : Nat
  closing : Nat
  outcome : FinishOutcome
  deriving DecidableEq

/-- A run in progress, and the record of its issue that a reconcile last saw closed. -/
structure ActiveRun where
  kind : RunKind
  terminalIssue : Option ClosedRecord := none

/-- What the one task of the orchestrator is in the middle of. -/
inductive Doing where
  | idle
  | listing (found : List ClosedRecord)
  | sweeping (left : List ClosedRecord)
  | finishing (found : ClosedRecord)

/-- The records the task is about to finish. -/
def Doing.records : Doing → List ClosedRecord
  | idle => []
  | listing found => found
  | sweeping left => left
  | finishing found => [found]

structure Finisher where
  issues : Nat → LiveIssue
  running : Nat → Option ActiveRun
  retries : Nat → Bool
  ledger : Ledger
  doing : Doing
  issuesCompleted : Nat
  issuesCancelled : Nat
  published : List Announcement
  finishes : List Finish

abbrev Finishing (α : Type) := Remote Unit GitHubError Finisher α

section Finish

variable {py : Py} (labels : GitHubLabels py) (found : ClosedRecord)

/-- `edit_labels` -/
def moveLabels (py : Py) (add remove : List String) : Finishing Unit :=
  .call () fun s =>
    let live := s.issues found.issue.number
    ((), { s with
      issues := Function.update s.issues found.issue.number { live with labels := editedLabels py add remove live.labels } })

def announce (event : Event) : Finishing Unit :=
  .modify fun s => { s with published := s.published ++ [⟨found.issue.number, found.closing, event⟩] }

/-- The label move of a finish, and its events. -/
def closeOut (outcome : FinishOutcome) : Finishing Unit :=
  if outcome = .cancelled then do
    moveLabels found py [] labels.asTuple
    announce found (.stateChanged found.issue.stateLabels.head? none none)
    announce found (.issueCancelled cancelReason)
  else do
    moveLabels found py [labels.complete] ((StateLabel.all.filter (· ≠ .complete)).map labels.labelName)
    announce found (.stateChanged found.issue.stateLabels.head? (some labels.complete) none)
    announce found (.issueCompleted (if outcome = .complete then "merged_pr" else "no_change"))

/-- `finish_terminal` -/
def finishTerminal : Finishing FinishOutcome :=
  if found.issue.state = some .complete then pure .unchanged
  else do
    let outcome := classifyClosed labels found.issue
    match ← (closeOut labels found outcome).attempt with
    | .error _ => pure .failed
    | .ok () => pure outcome

/-- `_finish`, for its ledger entry and its counters. -/
def Finisher.book (outcome : FinishOutcome) (s : Finisher) : Finisher :=
  { s with
    ledger := if outcome = .failed then s.ledger else s.ledger.forget found.issue.number
    issuesCompleted := s.issuesCompleted + if outcome = .complete ∨ outcome = .noChange then 1 else 0
    issuesCancelled := s.issuesCancelled + if outcome = .cancelled then 1 else 0
    finishes := s.finishes ++ [⟨found.issue.number, found.closing, outcome⟩] }

/-- `_finish` -/
def finish : Finishing FinishOutcome := do
  let outcome ← finishTerminal labels found
  modify (Finisher.book found outcome)
  pure outcome

/-- A finish whose label write is refused with `error`, or answered. A refusal has no effect. -/
def Finisher.finish (error : Option GitHubError) (s : Finisher) : Finisher :=
  (Issuebot.finish labels found (fun _ => error.elim .answered .refused) s).2

variable {labels found} {s : Finisher}

/-- The labels a landed finish leaves. -/
def finishedLabels (labels : GitHubLabels py) (outcome : FinishOutcome) (names : List String) : List String :=
  if outcome = .cancelled then editedLabels py [] labels.asTuple names
  else editedLabels py [labels.complete] ((StateLabel.all.filter (· ≠ .complete)).map labels.labelName) names

/-- The events of a landed finish. -/
def finishEvents (labels : GitHubLabels py) (found : ClosedRecord) (outcome : FinishOutcome) : List Event :=
  if outcome = .cancelled then [.stateChanged found.issue.stateLabels.head? none none, .issueCancelled cancelReason]
  else [.stateChanged found.issue.stateLabels.head? (some labels.complete) none,
    .issueCompleted (if outcome = .complete then "merged_pr" else "no_change")]

/-- A finish whose label write lands. -/
def Finisher.landed (labels : GitHubLabels py) (found : ClosedRecord) (s : Finisher) : Finisher :=
  let outcome := classifyClosed labels found.issue
  let live := s.issues found.issue.number
  Finisher.book found outcome
    { s with
      issues := Function.update s.issues found.issue.number { live with labels := finishedLabels labels outcome live.labels }
      published := s.published ++ (finishEvents labels found outcome).map (⟨found.issue.number, found.closing, ·⟩) }

theorem finish_answered (open_ : found.issue.state ≠ some .complete) :
    s.finish labels found none = s.landed labels found := by
  simp only [Finisher.finish, Issuebot.finish, finishTerminal, if_neg open_, closeOut, Finisher.landed, finishedLabels,
    finishEvents]
  split <;> simp [Bind.bind, Remote.attempt, Remote.modify, moveLabels, announce, Remote.call, Pure.pure]

theorem finish_refused {error : GitHubError} (open_ : found.issue.state ≠ some .complete) :
    s.finish labels found (some error) = s.book found .failed := by
  simp only [Finisher.finish, Issuebot.finish, finishTerminal, if_neg open_, closeOut]
  split <;> simp [Bind.bind, Remote.attempt, Remote.modify, moveLabels, Remote.call, Pure.pure]

theorem finish_unchanged {error : Option GitHubError} (rests : found.issue.state = some .complete) :
    s.finish labels found error = s.book found .unchanged := by
  simp only [Finisher.finish, Issuebot.finish, finishTerminal, if_pos rests]
  rfl

/-- A finish that answers `failed` publishes nothing and leaves the ledger. -/
theorem finish_failed {error : Option GitHubError}
    (failed : (Issuebot.finish labels found (fun _ => error.elim .answered .refused) s).1 = .ok .failed) :
    (s.finish labels found error).published = s.published ∧ (s.finish labels found error).ledger = s.ledger := by
  by_cases rests : found.issue.state = some .complete
  · simp [Issuebot.finish, finishTerminal, rests, Bind.bind, Pure.pure, Remote.modify] at failed
  · cases error with
    | some error =>
      rw [finish_refused rests]
      exact ⟨rfl, rfl⟩
    | none =>
      have classified : classifyClosed labels found.issue ≠ .failed := by
        unfold classifyClosed
        split
        · decide
        · split <;> decide
      simp only [Issuebot.finish, finishTerminal, if_neg rests, closeOut] at failed
      split at failed <;>
        simp [Bind.bind, Remote.attempt, Remote.modify, moveLabels, announce, Remote.call, Pure.pure, classified] at failed

end Finish

/-- What happens to the issues and to the orchestrator. `error` is what a label write is refused with. -/
inductive TerminalEvent where
  | closed (number : Nat)
  | reopened (number : Nat)
  | relabelled (number : Nat) (names : List String)
  | linked (number : Nat) (pr : Option LinkedPr)
  | booked (op : LedgerOp)
  | dispatched (number : Nat) (kind : RunKind)
  | scheduled (number : Nat)
  | exited (number : Nat) (error : Option GitHubError)
  | fired (number : Nat) (reads : Bool)
  | finished (error : Option GitHubError)
  | refreshed (number : Nat)
  | sweepStarted
  | listed (number : Nat)
  | sweepFailed
  | sorted
  | swept (error : Option GitHubError)

section Steps

variable {py : Py} (labels : GitHubLabels py)

def Finisher.setIssue (number : Nat) (live : LiveIssue) (s : Finisher) : Finisher :=
  { s with issues := Function.update s.issues number live }

def Finisher.setRunning (number : Nat) (run : Option ActiveRun) (s : Finisher) : Finisher :=
  { s with running := Function.update s.running number run }

def Finisher.setRetry (number : Nat) (waits : Bool) (s : Finisher) : Finisher :=
  { s with retries := Function.update s.retries number waits }

def Doing.isIdle : Doing → Bool
  | idle => true
  | _ => false

/-- The issue is not closed, or it still has to be moved off a label. So is every issue that is
dispatched or scheduled: it was read as open, or held, and no finish came between. -/
def LiveIssue.Unfinished (live : LiveIssue) : Prop := live.closed = false ∨ live.CarriesOpenRole labels

instance {live : LiveIssue} : Decidable (live.Unfinished labels) := by
  unfold LiveIssue.Unfinished
  infer_instance

/-- The order of the sweep: oldest first, then by number. -/
def ClosedRecord.le (a b : ClosedRecord) : Prop :=
  a.issue.createdAt < b.issue.createdAt ∨ a.issue.createdAt = b.issue.createdAt ∧ a.issue.number ≤ b.issue.number

instance : DecidableRel ClosedRecord.le := fun a b => by
  unfold ClosedRecord.le
  infer_instance

/-- One event. The orchestrator is one task, so its own events come one after another; the others'
come between any two of them. -/
def Finisher.step (s : Finisher) : TerminalEvent → Option Finisher
  | .closed number =>
    let live := s.issues number
    if live.closed = false ∧ live.CarriesOpenRole labels then
      some (s.setIssue number { live with closed := true, closes := live.closes + 1 })
    else none
  | .reopened number => some (s.setIssue number { s.issues number with closed := false })
  | .relabelled number names =>
    let live := { s.issues number with labels := names }
    if live.closed = false ∨ (s.issues number).CarriesOpenRole labels ∧ live.CarriesOpenRole labels then
      some (s.setIssue number live)
    else none
  | .linked number pr => some (s.setIssue number { s.issues number with linkedPr := pr })
  | .booked op => some { s with ledger := s.ledger.apply op }
  | .dispatched number kind =>
    if s.doing.isIdle ∧ s.running number = none ∧ s.retries number = false ∧ (s.issues number).Unfinished labels then
      some (s.setRunning number (some { kind }))
    else none
  | .scheduled number =>
    if s.doing.isIdle ∧ s.running number = none ∧ (s.issues number).Unfinished labels then
      some (s.setRetry number true)
    else none
  | .exited number error =>
    if s.doing.isIdle then
      match s.running number with
      | none => none
      | some run =>
        let released := s.setRunning number none
        match run.kind, run.terminalIssue with
        | .work, some found => some (released.finish labels found error)
        | _, _ => some released
    else none
  | .fired number reads =>
    if s.doing.isIdle ∧ s.retries number = true then
      let popped := s.setRetry number false
      if reads ∧ (s.issues number).closed then
        some { popped with doing := .finishing ((s.issues number).read labels number) }
      else some popped
    else none
  | .finished error =>
    match s.doing with
    | .finishing found => some (Finisher.finish labels found error { s with doing := .idle })
    | _ => none
  | .refreshed number =>
    if s.doing.isIdle then
      (s.running number).map fun run =>
        let live := s.issues number
        s.setRunning number
          (some { run with terminalIssue := if live.closed then some (live.read labels number) else none })
    else none
  | .sweepStarted => if s.doing.isIdle then some { s with doing := .listing [] } else none
  | .listed number =>
    match s.doing with
    | .listing found =>
      let live := s.issues number
      if live.closed ∧ live.CarriesOpenRole labels ∧ number ∉ found.map (·.issue.number) then
        some { s with doing := .listing (found ++ [live.read labels number]) }
      else none
    | _ => none
  | .sweepFailed =>
    match s.doing with
    | .listing _ => some { s with doing := .idle }
    | _ => none
  | .sorted =>
    match s.doing with
    | .listing found => some { s with doing := .sweeping (found.insertionSort ClosedRecord.le) }
    | _ => none
  | .swept error =>
    match s.doing with
    | .sweeping [] => some { s with doing := .idle }
    | .sweeping (found :: left) =>
      if (s.running found.issue.number).isSome then some { s with doing := .sweeping left }
      else
        let popped := Finisher.setRetry found.issue.number false { s with doing := .sweeping left }
        some (popped.finish labels found error)
    | _ => none

end Steps
section Invariant

variable {py : Py} {labels : GitHubLabels py} {s s' : Finisher} {found : ClosedRecord} {number : Nat}

/-- The event is the outcome of a close. -/
def Event.isOutcome (event : Event) : Bool := event.isIssueCompleted || event.isIssueCancelled

/-- The close an outcome was published for, in the order of the events. -/
def Finisher.outcomes (s : Finisher) : List (Nat × Nat) :=
  (s.published.filter (·.event.isOutcome)).map fun told => (told.number, told.closing)

def FinishOutcome.isLanded : FinishOutcome → Bool
  | .complete | .noChange | .cancelled => true
  | .unchanged | .failed => false

/-- The closes whose finish has landed. -/
def Finisher.landings (s : Finisher) : List (Nat × Nat) :=
  (s.finishes.filter (·.outcome.isLanded)).map fun done => (done.number, done.closing)

/-- A record that is not finished yet: no finish of its close, or of a later one, has landed. -/
structure Current (s : Finisher) (found : ClosedRecord) : Prop where
  open_ : found.issue.state ≠ some .complete
  closing : found.closing ≤ (s.issues found.issue.number).closes
  later : ∀ closing, (found.issue.number, closing) ∈ s.landings → closing < found.closing

theorem Current.congr (current : Current s found) (issues : s'.issues = s.issues) (landings : s'.landings = s.landings) :
    Current s' found :=
  ⟨current.open_, issues ▸ current.closing, landings ▸ current.later⟩

/-- What keeps a close from being finished twice. -/
structure Guarded (labels : GitHubLabels py) (s : Finisher) : Prop where
  exclusive : ∀ number, s.running number ≠ none → s.retries number = false
  held : ∀ number, (s.issues number).closed = true → s.running number ≠ none ∨ s.retries number = true →
    (s.issues number).CarriesOpenRole labels
  rests : ∀ number closing, (number, closing) ∈ s.landings → closing ≤ (s.issues number).closes ∧
    (closing = (s.issues number).closes → (s.issues number).closed = true → ¬ (s.issues number).CarriesOpenRole labels)
  records : ∀ found ∈ s.doing.records, Current s found
  runs : ∀ number run, s.running number = some run → ∀ found ∈ run.terminalIssue, found.issue.number = number ∧ Current s found
  queue : (s.doing.records.map (·.issue.number)).Nodup
  direct : ∀ found, s.doing = .finishing found →
    s.running found.issue.number = none ∧ s.retries found.issue.number = false

/-- The events and the counters are those of the finishes that landed. -/
structure Tallied (s : Finisher) : Prop where
  told : s.outcomes = s.landings
  once : s.landings.Nodup
  answered : ∀ done ∈ s.finishes, done.outcome ≠ .unchanged
  completed : s.issuesCompleted = s.published.countP (·.event.isIssueCompleted)
  cancelled : s.issuesCancelled = s.published.countP (·.event.isIssueCancelled)

theorem finishedLabels_rests {outcome : FinishOutcome} {live : LiveIssue} :
    ¬ LiveIssue.CarriesOpenRole labels { live with labels := finishedLabels labels outcome live.labels } := by
  rintro ⟨role, mem, ne, on⟩
  have named : labels.labelName role ∈ labels.asTuple := by cases role <;> simp [GitHubLabels.asTuple, GitHubLabels.labelName]
  unfold finishedLabels at on
  split at on
  · rw [mem_editedLabels] at on
    rcases on with added | ⟨-, kept⟩
    · simp at added
    · exact kept (List.mem_map_of_mem named)
  · rw [mem_editedLabels] at on
    rcases on with added | ⟨-, kept⟩
    · simp only [List.map_cons, List.map_nil, List.mem_singleton] at added
      exact ne (labels.labelName_injective added)
    · apply kept
      apply List.mem_map_of_mem
      apply List.mem_map_of_mem
      exact List.mem_filter.mpr ⟨mem, by simpa using ne⟩

theorem landings_book (outcome : FinishOutcome) :
    (s.book found outcome).landings = s.landings ++ if outcome.isLanded then [(found.issue.number, found.closing)] else [] := by
  simp only [Finisher.landings, Finisher.book, List.filter_append, List.map_append]
  cases outcome <;> rfl

theorem classifyClosed_landed (issue : Issue) : (classifyClosed labels issue).isLanded = true := by
  unfold classifyClosed
  split
  · rfl
  · split <;> rfl

theorem landings_landed : (s.landed labels found).landings = s.landings ++ [(found.issue.number, found.closing)] := by
  unfold Finisher.landed
  rw [landings_book, if_pos (classifyClosed_landed _)]
  rfl

theorem Tallied.failed (tallied : Tallied s) : Tallied (s.book found .failed) := by
  have same : (s.book found .failed).landings = s.landings := by
    rw [landings_book]
    exact List.append_nil _
  refine ⟨tallied.told.trans same.symm, same ▸ tallied.once, ?_, tallied.completed, tallied.cancelled⟩
  intro done mem
  rcases List.mem_append.mp mem with old | new
  · exact tallied.answered done old
  · rw [List.mem_singleton] at new
    subst new
    nofun

theorem Tallied.landed (tallied : Tallied s) (current : Current s found) : Tallied (s.landed labels found) := by
  have fresh : (found.issue.number, found.closing) ∉ s.landings := fun mem => Nat.lt_irrefl _ (current.later _ mem)
  refine ⟨?_, ?_, ?_, ?_, ?_⟩
  · rw [landings_landed, ← tallied.told]
    simp only [Finisher.outcomes, Finisher.landed, Finisher.book, List.filter_append, List.map_append, finishEvents]
    split <;> rfl
  · rw [landings_landed]
    exact List.nodup_append.mpr ⟨tallied.once, List.nodup_singleton _, by
      intro a mem b is_b same
      rw [List.mem_singleton] at is_b
      exact fresh (is_b ▸ same ▸ mem)⟩
  · intro done mem
    rcases List.mem_append.mp mem with old | new
    · exact tallied.answered done old
    · rw [List.mem_singleton] at new
      subst new
      intro unchanged
      have landed := @classifyClosed_landed _ labels found.issue
      rw [show classifyClosed labels found.issue = .unchanged from unchanged] at landed
      cases landed
  · have lands := @classifyClosed_landed _ labels found.issue
    simp only [Finisher.landed, Finisher.book, finishEvents, List.countP_append, tallied.completed]
    cases outcome : classifyClosed labels found.issue <;>
      simp [outcome, FinishOutcome.isLanded, Event.isIssueCompleted] at lands ⊢
  · have lands := @classifyClosed_landed _ labels found.issue
    simp only [Finisher.landed, Finisher.book, finishEvents, List.countP_append, tallied.cancelled]
    cases outcome : classifyClosed labels found.issue <;>
      simp [outcome, FinishOutcome.isLanded, Event.isIssueCancelled] at lands ⊢

/-- Nothing but a change of the issues, by the others. -/
theorem Guarded.setIssue (guarded : Guarded labels s) {live : LiveIssue}
    (closes : (s.issues number).closes ≤ live.closes)
    (held : live.closed = true → s.running number ≠ none ∨ s.retries number = true → live.CarriesOpenRole labels)
    (rests : live.closed = true → live.closes = (s.issues number).closes →
      (s.issues number).closed = true ∧ (live.CarriesOpenRole labels → (s.issues number).CarriesOpenRole labels)) :
    Guarded labels (s.setIssue number live) := by
  have issues : ∀ other, (s.setIssue number live).issues other = if other = number then live else s.issues other :=
    fun other => Function.update_apply _ _ _ _
  have current : ∀ found, Current s found → Current (s.setIssue number live) found := by
    intro found current
    refine ⟨current.open_, ?_, current.later⟩
    rw [issues]
    split
    next same => exact current.closing.trans (same ▸ closes)
    next => exact current.closing
  refine ⟨guarded.exclusive, ?_, ?_, ?_, ?_, guarded.queue, guarded.direct⟩
  · intro other
    rw [issues]
    split
    next same =>
      subst same
      exact held
    next => exact guarded.held other
  · intro other closing landed
    obtain ⟨le, at_rest⟩ := guarded.rests other closing landed
    rw [issues]
    split
    next same =>
      subst same
      refine ⟨le.trans closes, fun latest closed carries => ?_⟩
      have same_close : live.closes = (s.issues other).closes := by omega
      obtain ⟨was_closed, carried⟩ := rests closed same_close
      exact at_rest (latest.trans same_close) was_closed (carried carries)
    next => exact ⟨le, at_rest⟩
  · exact fun found mem => current found (guarded.records found mem)
  · intro other run running found mem
    obtain ⟨number, here⟩ := guarded.runs other run running found mem
    exact ⟨number, current found here⟩

/-- A refused finish. -/
theorem Guarded.failed (guarded : Guarded labels s) : Guarded labels (s.book found .failed) := by
  have same : (s.book found .failed).landings = s.landings := by
    rw [landings_book]
    exact List.append_nil _
  have current : ∀ found', Current s found' → Current (s.book found .failed) found' :=
    fun found' current => ⟨current.open_, current.closing, same ▸ current.later⟩
  refine ⟨guarded.exclusive, guarded.held, same ▸ guarded.rests, ?_, ?_, guarded.queue, guarded.direct⟩
  · exact fun found' mem => current found' (guarded.records found' mem)
  · intro other run running found' mem
    obtain ⟨number, here⟩ := guarded.runs other run running found' mem
    exact ⟨number, current found' here⟩

/-- A finish that lands, of a record of which no other is left. -/
theorem Guarded.landed (guarded : Guarded labels s) (current : Current s found)
    (stopped : s.running found.issue.number = none) (idle : s.retries found.issue.number = false)
    (alone : ∀ other ∈ s.doing.records, other.issue.number ≠ found.issue.number) :
    Guarded labels (s.landed labels found) := by
  let outcome := classifyClosed labels found.issue
  have issues : ∀ other, (s.landed labels found).issues other = if other = found.issue.number then
      { s.issues found.issue.number with labels := finishedLabels labels outcome (s.issues found.issue.number).labels }
      else s.issues other := fun other => Function.update_apply _ _ _ _
  have others : ∀ other, other ≠ found.issue.number → (s.landed labels found).issues other = s.issues other :=
    fun other ne => (issues other).trans (if_neg ne)
  have still : ∀ found', found'.issue.number ≠ found.issue.number → Current s found' →
      Current (s.landed labels found) found' := by
    intro found' ne here
    refine ⟨here.open_, (others _ ne).symm ▸ here.closing, fun closing mem => ?_⟩
    rw [landings_landed, List.mem_append, List.mem_singleton] at mem
    rcases mem with old | new
    · exact here.later closing old
    · exact absurd (congrArg Prod.fst new) ne
  refine ⟨guarded.exclusive, ?_, ?_, ?_, ?_, guarded.queue, guarded.direct⟩
  · intro other closed taken
    by_cases same : other = found.issue.number
    · subst same
      rcases taken with running | waiting
      · exact absurd stopped running
      · exact absurd (waiting.symm.trans idle) nofun
    · rw [others other same] at closed ⊢
      exact guarded.held other closed taken
  · intro other closing landed
    rw [landings_landed, List.mem_append, List.mem_singleton] at landed
    by_cases same : other = found.issue.number
    · subst same
      rw [issues, if_pos rfl]
      refine ⟨?_, fun _ _ => finishedLabels_rests⟩
      rcases landed with old | new
      · exact (guarded.rests _ closing old).1
      · have latest : closing = found.closing := congrArg Prod.snd new
        exact latest ▸ current.closing
    · rw [others other same]
      rcases landed with old | new
      · exact guarded.rests other closing old
      · exact absurd (congrArg Prod.fst new) same
  · exact fun found' mem => still found' (alone found' mem) (guarded.records found' mem)
  · intro other run running found' mem
    obtain ⟨number, here⟩ := guarded.runs other run running found' mem
    have ne : found'.issue.number ≠ found.issue.number := by
      rw [number]
      rintro rfl
      exact absurd (running.symm.trans stopped) nofun
    exact ⟨number, still found' ne here⟩

/-- Both invariants, after a finish of a record of which no other is left. -/
theorem finish_kept (guarded : Guarded labels s) (tallied : Tallied s) (current : Current s found)
    (stopped : s.running found.issue.number = none) (idle : s.retries found.issue.number = false)
    (alone : ∀ other ∈ s.doing.records, other.issue.number ≠ found.issue.number) {error : Option GitHubError} :
    Guarded labels (s.finish labels found error) ∧ Tallied (s.finish labels found error) := by
  cases error with
  | some error =>
    rw [finish_refused current.open_]
    exact ⟨guarded.failed, tallied.failed⟩
  | none =>
    rw [finish_answered current.open_]
    exact ⟨guarded.landed current stopped idle alone, tallied.landed current⟩

/-- What the task is in the middle of. -/
theorem Guarded.setDoing (guarded : Guarded labels s) {doing : Doing} (records : ∀ found ∈ doing.records, Current s found)
    (queue : (doing.records.map (·.issue.number)).Nodup)
    (direct : ∀ found, doing = .finishing found →
      s.running found.issue.number = none ∧ s.retries found.issue.number = false) :
    Guarded labels { s with doing } :=
  ⟨guarded.exclusive, guarded.held, guarded.rests, fun found mem => (records found mem).congr rfl rfl,
    fun number run running found mem => (guarded.runs number run running found mem).imp_right (·.congr rfl rfl), queue, direct⟩

/-- A run begins, ends, or sees its issue, while the task is idle. -/
theorem Guarded.setRunning (guarded : Guarded labels s) (idle : s.doing.isIdle = true) {run : Option ActiveRun}
    (takes : run ≠ none → s.retries number = false ∧
      ((s.issues number).closed = true → (s.issues number).CarriesOpenRole labels))
    (sees : ∀ run', run = some run' → ∀ found ∈ run'.terminalIssue, found.issue.number = number ∧ Current s found) :
    Guarded labels (s.setRunning number run) := by
  have running : ∀ other, (s.setRunning number run).running other = if other = number then run else s.running other :=
    fun other => Function.update_apply _ _ _ _
  have no_records : s.doing.records = [] := by
    cases doing : s.doing <;> simp [doing, Doing.isIdle] at idle ⊢
    rfl
  refine ⟨?_, ?_, guarded.rests, ?_, ?_, guarded.queue, ?_⟩
  · intro other
    rw [running]
    split
    next same =>
      subst same
      exact fun taken => (takes taken).1
    next => exact guarded.exclusive other
  · intro other closed
    rw [running]
    split
    next same =>
      subst same
      rintro (taken | waits)
      · exact (takes taken).2 closed
      · exact guarded.held other closed (.inr waits)
    next => exact guarded.held other closed
  · intro found mem
    rw [show (s.setRunning number run).doing.records = [] from no_records] at mem
    cases mem
  · intro other run' is_run found mem
    rw [running] at is_run
    split at is_run
    next same =>
      obtain ⟨named, here⟩ := sees run' is_run found mem
      exact ⟨named.trans same.symm, here.congr rfl rfl⟩
    next => exact (guarded.runs other run' is_run found mem).imp_right (·.congr rfl rfl)
  · intro found finishing
    have doing : s.doing = .finishing found := finishing
    rw [doing] at idle
    cases idle

/-- A retry begins to wait. -/
theorem Guarded.waits (guarded : Guarded labels s) (idle : s.doing.isIdle = true) (stopped : s.running number = none)
    (unfinished : (s.issues number).Unfinished labels) : Guarded labels (s.setRetry number true) := by
  have retries : ∀ other, (s.setRetry number true).retries other = if other = number then true else s.retries other :=
    fun other => Function.update_apply _ _ _ _
  refine ⟨?_, ?_, guarded.rests, fun found mem => (guarded.records found mem).congr rfl rfl,
    fun number run running found mem => (guarded.runs number run running found mem).imp_right (·.congr rfl rfl),
    guarded.queue, ?_⟩
  · intro other taken
    rw [retries, if_neg]
    · exact guarded.exclusive other taken
    · rintro rfl
      exact taken stopped
  · intro other closed
    rw [retries]
    split
    next same =>
      subst same
      intro _
      rcases unfinished with opened | carries
      · exact absurd (opened.symm.trans closed) nofun
      · exact carries
    next => exact guarded.held other closed
  · intro found finishing
    have doing : s.doing = .finishing found := finishing
    rw [doing] at idle
    cases idle

/-- A retry is popped. -/
theorem Guarded.popped (guarded : Guarded labels s) : Guarded labels (s.setRetry number false) := by
  have retries : ∀ other, (s.setRetry number false).retries other = if other = number then false else s.retries other :=
    fun other => Function.update_apply _ _ _ _
  have fewer : ∀ other, s.retries other = false → (s.setRetry number false).retries other = false := by
    intro other none
    rw [retries]
    split
    · rfl
    · exact none
  refine ⟨fun other taken => fewer other (guarded.exclusive other taken), ?_, guarded.rests,
    fun found mem => (guarded.records found mem).congr rfl rfl,
    fun number run running found mem => (guarded.runs number run running found mem).imp_right (·.congr rfl rfl),
    guarded.queue, fun found finishing => (guarded.direct found finishing).imp_right (fewer _)⟩
  intro other closed taken
  apply guarded.held other closed
  apply taken.imp_right
  intro waits
  rw [retries] at waits
  split at waits
  · cases waits
  · exact waits

/-- What a read of a closed issue shows that still has to be moved off its label. -/
theorem Guarded.read (guarded : Guarded labels s) (closed : (s.issues number).closed = true)
    (carries : (s.issues number).CarriesOpenRole labels) :
    Current s ((s.issues number).read labels number) := by
  refine ⟨LiveIssue.read_state_ne carries, Nat.le_refl _, ?_⟩
  intro closing landed
  obtain ⟨le, rests⟩ := guarded.rests number closing landed
  have ne : closing ≠ (s.issues number).closes := fun latest => rests latest closed carries
  exact lt_of_le_of_ne le ne

/-- Both invariants. -/
structure AtMostOnce (labels : GitHubLabels py) (s : Finisher) : Prop where
  guarded : Guarded labels s
  tallied : Tallied s

theorem Tallied.congr (tallied : Tallied s) (published : s'.published = s.published) (finishes : s'.finishes = s.finishes)
    (completed : s'.issuesCompleted = s.issuesCompleted) (cancelled : s'.issuesCancelled = s.issuesCancelled) :
    Tallied s' := by
  have landings : s'.landings = s.landings := by rw [Finisher.landings, finishes, Finisher.landings]
  have outcomes : s'.outcomes = s.outcomes := by rw [Finisher.outcomes, published, Finisher.outcomes]
  refine ⟨?_, landings ▸ tallied.once, finishes ▸ tallied.answered, ?_, ?_⟩
  · rw [outcomes, landings, tallied.told]
  · rw [completed, published, tallied.completed]
  · rw [cancelled, published, tallied.cancelled]

theorem AtMostOnce.same (kept : AtMostOnce labels s) (guarded : Guarded labels s') (published : s'.published = s.published)
    (finishes : s'.finishes = s.finishes) (completed : s'.issuesCompleted = s.issuesCompleted)
    (cancelled : s'.issuesCancelled = s.issuesCancelled) : AtMostOnce labels s' :=
  ⟨guarded, kept.tallied.congr published finishes completed cancelled⟩

/-- The end of a run: it is released, or its closed issue is finished. -/
theorem exited_kept (kept : AtMostOnce labels s) {error : Option GitHubError}
    (step : s.step labels (.exited number error) = some s') : AtMostOnce labels s' := by
  simp only [Finisher.step] at step
  split at step
  next idle =>
    split at step
    next => cases step
    next run running =>
      have released : Guarded labels (s.setRunning number none) :=
        kept.guarded.setRunning idle (fun running => absurd rfl running) fun _ running => nomatch running
      have after := kept.same released rfl rfl rfl rfl
      split at step
      next found kind terminal =>
        obtain ⟨named, current⟩ := kept.guarded.runs number run running found terminal
        cases step
        subst named
        have no_records : (s.setRunning found.issue.number none).doing.records = [] := by
          show s.doing.records = []
          cases doing : s.doing <;> simp [doing, Doing.isIdle] at idle ⊢
          rfl
        have stopped : (s.setRunning found.issue.number none).running found.issue.number = none :=
          Function.update_self _ _ _
        have idle_retry : s.retries found.issue.number = false := by
          apply kept.guarded.exclusive
          rw [running]
          nofun
        have alone : ∀ other ∈ (s.setRunning found.issue.number none).doing.records, other.issue.number ≠ found.issue.number := by
          rw [no_records]
          exact fun _ mem => nomatch mem
        have finished := @finish_kept _ _ _ _ released after.tallied (current.congr rfl rfl) stopped idle_retry alone error
        exact ⟨finished.1, finished.2⟩
      next =>
        cases step
        exact after
  next => cases step

theorem idle_records {doing : Doing} (idle : doing.isIdle = true) : doing.records = [] := by
  cases doing <;> simp [Doing.isIdle] at idle ⊢
  rfl

/-- A retry's read: the record of a closed issue is what is finished next. -/
theorem fired_kept (kept : AtMostOnce labels s) {reads : Bool} (step : s.step labels (.fired number reads) = some s') :
    AtMostOnce labels s' := by
  simp only [Finisher.step] at step
  split at step
  next ready =>
    obtain ⟨idle, waits⟩ := ready
    have cleared : Guarded labels (s.setRetry number false) := kept.guarded.popped
    have popped := kept.same cleared rfl rfl rfl rfl
    split at step
    next found =>
      cases step
      have carries := kept.guarded.held number found.2 (.inr waits)
      have stopped : s.running number = none := by
        by_contra running
        exact absurd (waits.symm.trans (kept.guarded.exclusive number running)) nofun
      refine popped.same ?_ rfl rfl rfl rfl
      apply popped.guarded.setDoing
      · intro record mem
        cases List.mem_singleton.mp mem
        exact (kept.guarded.read found.2 carries).congr rfl rfl
      · exact List.nodup_singleton _
      · rintro record finishing
        cases finishing
        exact ⟨stopped, Function.update_self _ _ _⟩
    next =>
      cases step
      exact popped
  next => cases step

theorem finished_kept (kept : AtMostOnce labels s) {error : Option GitHubError}
    (step : s.step labels (.finished error) = some s') : AtMostOnce labels s' := by
  simp only [Finisher.step] at step
  split at step
  next found finishing =>
    cases step
    have current : Current s found := kept.guarded.records found (by rw [finishing]; exact List.mem_singleton_self _)
    obtain ⟨stopped, idle⟩ := kept.guarded.direct found finishing
    have rested : Guarded labels { s with doing := .idle } :=
      kept.guarded.setDoing (fun _ mem => nomatch mem) List.nodup_nil fun _ finishing => nomatch finishing
    have after := kept.same rested rfl rfl rfl rfl
    have alone : ∀ other ∈ Doing.idle.records, other.issue.number ≠ found.issue.number := fun _ mem => nomatch mem
    have finished := @finish_kept _ _ _ _ rested after.tallied (current.congr rfl rfl) stopped idle alone error
    exact ⟨finished.1, finished.2⟩
  next => cases step

theorem refreshed_kept (kept : AtMostOnce labels s) (step : s.step labels (.refreshed number) = some s') :
    AtMostOnce labels s' := by
  simp only [Finisher.step] at step
  split at step
  next idle =>
    obtain ⟨run, running, rfl⟩ := Option.map_eq_some_iff.mp step
    have taken : s.running number ≠ none := by
      rw [running]
      nofun
    refine kept.same ?_ rfl rfl rfl rfl
    apply kept.guarded.setRunning idle
    · exact fun _ => ⟨kept.guarded.exclusive number taken, fun closed => kept.guarded.held number closed (.inl taken)⟩
    · intro run' is_run found mem
      cases is_run
      simp only at mem
      split at mem
      next closed =>
        cases mem
        exact ⟨rfl, kept.guarded.read closed (kept.guarded.held number closed (.inl taken))⟩
      next => cases mem
  next => cases step

/-- The sweep's listing: every record still has to be finished, each issue once. -/
theorem listed_kept (kept : AtMostOnce labels s) (step : s.step labels (.listed number) = some s') :
    AtMostOnce labels s' := by
  simp only [Finisher.step] at step
  split at step
  next found listing =>
    split at step
    next new =>
      obtain ⟨closed, carries, absent⟩ := new
      cases step
      have queue := kept.guarded.queue
      have records := kept.guarded.records
      rw [listing] at queue records
      refine kept.same ?_ rfl rfl rfl rfl
      apply kept.guarded.setDoing
      · intro record mem
        rcases List.mem_append.mp mem with old | new
        · exact records record old
        · cases List.mem_singleton.mp new
          exact kept.guarded.read closed carries
      · simp only [Doing.records, List.map_append, List.map_cons, List.map_nil]
        apply List.nodup_append.mpr ⟨queue, List.nodup_singleton _, _⟩
        rintro a mem b is_b rfl
        have named : a = number := List.mem_singleton.mp is_b
        exact absent (named ▸ mem)
      · exact fun _ finishing => nomatch finishing
    next => cases step
  next => cases step

/-- One record of the sweep: passed over where its issue runs, else finished. -/
theorem swept_kept (kept : AtMostOnce labels s) {error : Option GitHubError}
    (step : s.step labels (.swept error) = some s') : AtMostOnce labels s' := by
  simp only [Finisher.step] at step
  split at step
  next done =>
    cases step
    exact kept.same (kept.guarded.setDoing (fun _ mem => nomatch mem) List.nodup_nil fun _ finishing => nomatch finishing)
      rfl rfl rfl rfl
  next found left sweeping =>
    have queue := kept.guarded.queue
    have records := kept.guarded.records
    rw [sweeping] at queue records
    obtain ⟨absent, queue_left⟩ := List.nodup_cons.mp queue
    have rest : Guarded labels { s with doing := .sweeping left } :=
      kept.guarded.setDoing (fun record mem => records record (List.mem_cons_of_mem _ mem)) queue_left
        fun _ finishing => nomatch finishing
    split at step
    next running =>
      cases step
      exact kept.same rest rfl rfl rfl rfl
    next stopped =>
      cases step
      have popped : Guarded labels (Finisher.setRetry found.issue.number false { s with doing := .sweeping left }) := rest.popped
      have after := kept.same popped rfl rfl rfl rfl
      have current : Current s found := records found List.mem_cons_self
      have alone : ∀ other ∈ left, other.issue.number ≠ found.issue.number :=
        fun other mem same => absent (List.mem_map.mpr ⟨other, mem, same⟩)
      have none_running : s.running found.issue.number = none := Option.not_isSome_iff_eq_none.mp stopped
      have finished := @finish_kept _ _ _ _ popped after.tallied (current.congr rfl rfl) none_running
        (Function.update_self _ _ _) alone error
      exact ⟨finished.1, finished.2⟩
  next => cases step

theorem step_kept {event : TerminalEvent} (kept : AtMostOnce labels s) (step : s.step labels event = some s') :
    AtMostOnce labels s' := by
  have guarded := kept.guarded
  cases event with
  | exited number error => exact exited_kept kept step
  | fired number reads => exact fired_kept kept step
  | finished error => exact finished_kept kept step
  | refreshed number => exact refreshed_kept kept step
  | listed number => exact listed_kept kept step
  | swept error => exact swept_kept kept step
  | closed number =>
    simp only [Finisher.step] at step
    split at step
    next opened =>
      cases step
      refine kept.same ?_ rfl rfl rfl rfl
      apply guarded.setIssue
      · exact Nat.le_succ _
      · exact fun _ _ => opened.2
      · exact fun _ same => absurd same (Nat.succ_ne_self _)
    next => cases step
  | reopened number =>
    cases step
    refine kept.same ?_ rfl rfl rfl rfl
    exact guarded.setIssue (Nat.le_refl _) (fun closed => nomatch closed) fun closed => nomatch closed
  | relabelled number names =>
    simp only [Finisher.step] at step
    split at step
    next allowed =>
      cases step
      refine kept.same ?_ rfl rfl rfl rfl
      apply guarded.setIssue
      · exact Nat.le_refl _
      · intro closed _
        rcases allowed with opened | ⟨-, carries⟩
        · exact absurd (opened.symm.trans closed) nofun
        · exact carries
      · intro closed _
        refine ⟨closed, fun _ => ?_⟩
        rcases allowed with opened | ⟨carried, -⟩
        · exact absurd (opened.symm.trans closed) nofun
        · exact carried
    next => cases step
  | linked number pr =>
    cases step
    refine kept.same ?_ rfl rfl rfl rfl
    exact guarded.setIssue (Nat.le_refl _) (guarded.held number) fun closed _ => ⟨closed, id⟩
  | booked op =>
    cases step
    refine kept.same ?_ rfl rfl rfl rfl
    exact ⟨guarded.exclusive, guarded.held, guarded.rests, fun found mem => (guarded.records found mem).congr rfl rfl,
      fun number run running found mem => (guarded.runs number run running found mem).imp_right (·.congr rfl rfl),
      guarded.queue, guarded.direct⟩
  | dispatched number kind =>
    simp only [Finisher.step] at step
    split at step
    next free =>
      obtain ⟨idle, -, waits, unfinished⟩ := free
      cases step
      refine kept.same ?_ rfl rfl rfl rfl
      apply guarded.setRunning idle
      · refine fun _ => ⟨waits, fun closed => ?_⟩
        rcases unfinished with opened | carries
        · exact absurd (opened.symm.trans closed) nofun
        · exact carries
      · intro run is_run found mem
        cases is_run
        cases mem
    next => cases step
  | scheduled number =>
    simp only [Finisher.step] at step
    split at step
    next free =>
      obtain ⟨idle, stopped, unfinished⟩ := free
      cases step
      exact kept.same (guarded.waits idle stopped unfinished) rfl rfl rfl rfl
    next => cases step
  | sweepStarted =>
    simp only [Finisher.step] at step
    split at step
    · cases step
      exact kept.same (guarded.setDoing (fun _ mem => nomatch mem) List.nodup_nil fun _ finishing => nomatch finishing)
        rfl rfl rfl rfl
    · cases step
  | sweepFailed =>
    simp only [Finisher.step] at step
    split at step
    · cases step
      exact kept.same (guarded.setDoing (fun _ mem => nomatch mem) List.nodup_nil fun _ finishing => nomatch finishing)
        rfl rfl rfl rfl
    · cases step
  | sorted =>
    simp only [Finisher.step] at step
    split at step
    next found listing =>
      cases step
      have queue := guarded.queue
      have records := guarded.records
      rw [listing] at queue records
      have perm : (found.insertionSort ClosedRecord.le).Perm found := List.perm_insertionSort _ _
      refine kept.same (guarded.setDoing ?_ ?_ fun _ finishing => nomatch finishing) rfl rfl rfl rfl
      · exact fun record mem => records record (perm.subset mem)
      · exact (perm.map _).nodup_iff.mpr queue
    next => cases step

/-- A worker that has finished nothing yet. -/
structure Finisher.Fresh (s : Finisher) : Prop where
  running : ∀ number, s.running number = none
  retries : ∀ number, s.retries number = false
  doing : s.doing = .idle
  published : s.published = []
  finishes : s.finishes = []
  completed : s.issuesCompleted = 0
  cancelled : s.issuesCancelled = 0

theorem Finisher.Fresh.kept (fresh : s.Fresh) : AtMostOnce labels s := by
  have landings : s.landings = [] := by rw [Finisher.landings, fresh.finishes]; rfl
  refine ⟨⟨?_, ?_, ?_, ?_, ?_, ?_, ?_⟩, ⟨?_, ?_, ?_, ?_, ?_⟩⟩
  · exact fun number _ => fresh.retries number
  · rintro number - (running | waits)
    · exact absurd (fresh.running number) running
    · exact absurd (waits.symm.trans (fresh.retries number)) nofun
  · rw [landings]
    exact fun _ _ mem => nomatch mem
  · rw [fresh.doing]
    exact fun _ mem => nomatch mem
  · intro number run running
    exact absurd (running.symm.trans (fresh.running number)) nofun
  · rw [fresh.doing]
    exact List.nodup_nil
  · intro found finishing
    exact absurd (finishing.symm.trans fresh.doing) nofun
  · rw [landings, Finisher.outcomes, fresh.published]
    rfl
  · rw [landings]
    exact List.nodup_nil
  · rw [fresh.finishes]
    exact fun _ mem => nomatch mem
  · rw [fresh.completed, fresh.published]
    rfl
  · rw [fresh.cancelled, fresh.published]
    rfl

theorem mem_landings (tallied : Tallied s) {closing : Nat} : (number, closing) ∈ s.landings ↔
    ∃ done ∈ s.finishes, done.number = number ∧ done.closing = closing ∧ done.outcome ≠ .failed := by
  simp only [Finisher.landings, List.mem_map, List.mem_filter, Prod.mk.injEq]
  constructor
  · rintro ⟨done, ⟨mem, landed⟩, rfl, rfl⟩
    refine ⟨done, mem, rfl, rfl, fun failed => ?_⟩
    rw [failed] at landed
    cases landed
  · rintro ⟨done, mem, rfl, rfl, landed⟩
    refine ⟨done, ⟨mem, ?_⟩, rfl, rfl⟩
    have answered := tallied.answered done mem
    cases outcome : done.outcome <;> simp_all [FinishOutcome.isLanded]

/-- Each close has exactly one outcome once a finish of it lands, and none before; the counters are the
numbers of the events, and a finish that fails publishes nothing and leaves the ledger. -/
theorem finishes_once {start : Finisher} {events : List TerminalEvent} (fresh : start.Fresh)
    (run : Steps (fun s event s' => s.step labels event = some s') start events s) :
    s.outcomes.Nodup ∧
      (∀ number closing, (number, closing) ∈ s.outcomes ↔
        ∃ done ∈ s.finishes, done.number = number ∧ done.closing = closing ∧ done.outcome ≠ .failed) ∧
      s.issuesCompleted = s.published.countP (·.event.isIssueCompleted) ∧
      s.issuesCancelled = s.published.countP (·.event.isIssueCancelled) ∧
      ∀ found error, (Issuebot.finish labels found (fun _ => Option.elim error .answered .refused) s).1 = .ok .failed →
        (s.finish labels found error).published = s.published ∧ (s.finish labels found error).ledger = s.ledger := by
  have keeps : ∀ (s : Finisher) event s', s.step labels event = some s' → AtMostOnce labels s → AtMostOnce labels s' :=
    fun _ _ _ step kept => step_kept kept step
  have kept : AtMostOnce labels s := Steps.invariant keeps run fresh.kept
  obtain ⟨told, once, -, completed, cancelled⟩ := kept.tallied
  refine ⟨told ▸ once, fun number closing => ?_, completed, cancelled, fun found error => finish_failed⟩
  rw [told]
  exact mem_landings kept.tallied

end Invariant

section Example

/-- Open issues in progress, and a worker that runs none of them. -/
def inProgress : Finisher where
  issues number :=
    { base :=
        { number, title := "", body := none, author := none, githubState := .opened, state := none, stateLabels := []
          labels := [], createdAt := 0, updatedAt := 0, dispatchable := true }
      closed := false
      labels := ["issuebot/in-progress"]
      linkedPr := none
      closes := 0 }
  running _ := none
  retries _ := false
  ledger := .ofSeed ∅ 2 Nat.two_pos
  doing := .idle
  issuesCompleted := 0
  issuesCancelled := 0
  published := []
  finishes := []

/-- Issue 7 is closed as it runs, the finish at the exit is refused, and the sweep finishes it. -/
def refusedAtExit : List TerminalEvent :=
  [.dispatched 7 .work, .closed 7, .refreshed 7, .exited 7 (some { category := .status, message := "502" }),
    .sweepStarted, .listed 7, .sorted, .swept none, .swept none]

theorem refused_finish_is_swept : ∃ s : Finisher, s.outcomes = [(7, 1)] ∧ s.outcomes.Nodup ∧ s.finishes.length = 2 ∧
    s.issuesCancelled = s.published.countP (·.event.isIssueCancelled) := by
  have runs : (execute (Finisher.step GitHubLabels.default) inProgress refusedAtExit).map
      (fun s => (s.outcomes, s.finishes.length)) = some ([(7, 1)], 2) := by decide +kernel
  obtain ⟨s, run, shown⟩ := Option.map_eq_some_iff.mp runs
  have fresh : inProgress.Fresh := ⟨fun _ => rfl, fun _ => rfl, rfl, rfl, rfl, rfl, rfl⟩
  obtain ⟨once, -, -, cancelled, -⟩ := finishes_once fresh (Steps.of_execute run)
  exact ⟨s, congrArg Prod.fst shown, once, congrArg Prod.snd shown, cancelled⟩

end Example
end Issuebot
