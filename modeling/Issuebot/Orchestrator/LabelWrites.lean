import Issuebot.Orchestrator.ConflictBounce
import Issuebot.Orchestrator.EscapeRetries
import Issuebot.Orchestrator.TerminalFinish

/-!
# The label writes of the worker

Five actions of the orchestrator write a state label: the claim, two escapes, the conflict bounce and
the finish of a closed issue. Each decides on a record it has read, and none consults `transitions`. What
they write is in the table but for two kinds: an issue refused over its budget goes to `review` from
wherever it waits, and a closed issue goes to `complete` from wherever it was closed (`writes_conform`).
-/

namespace Issuebot
set_option autoImplicit false
open Logic Remote

inductive Actor where
  | human
  | issuebot
  | agent
  deriving DecidableEq, Repr

/-- `TRANSITIONS` -/
def transitions : List (Option StateLabel × StateLabel × Actor) :=
  [(none, .todo, .human),
    (some .todo, .inProgress, .issuebot),
    (some .rework, .inProgress, .issuebot),
    (some .inProgress, .review, .agent),
    (some .inProgress, .review, .issuebot),
    (some .review, .rework, .human),
    (some .review, .rework, .issuebot),
    (some .review, .todo, .human),
    (some .inProgress, .todo, .human),
    (some .review, .complete, .issuebot),
    (some .inProgress, .complete, .issuebot)]

/-- The actions that call `set_state`. -/
inductive LabelAction where
  | claim
  | blockedEscape
  | budgetEscape
  | conflictBounce
  | finish
  deriving DecidableEq, Repr

/-- A `set_state`, and the state of the record it was decided on. -/
structure LabelWrite where
  action : LabelAction
  read : Option StateLabel
  written : StateLabel
  deriving DecidableEq, Repr

/-- The table permits it to issuebot. -/
def LabelWrite.Permitted (write : LabelWrite) : Prop := (write.read, write.written, Actor.issuebot) ∈ transitions

instance {write : LabelWrite} : Decidable write.Permitted := by
  unfold LabelWrite.Permitted
  infer_instance

structure LabelConfig (py : Py) where
  labels : GitHubLabels py
  maxAttempts : Nat
  maxIssueCostUsd : Usd
  maxConflictReworks : Nat

/-- The repository and the orchestrator, as far as its label writes go. `records` are the issues it has read. -/
structure LabelWorker where
  issues : Nat → LiveIssue
  records : List Issue
  ledger : Ledger
  writes : List LabelWrite

/-- What the gate is told beside the issue and its ledger entry. -/
structure GateInputs where
  hold : Option Hold := none
  slots : Nat
  busy : Bool := false
  stopping : Bool := false
  order : Option OrderHold := none

/-- What an escape finds of the worker's comments, and what happens around its calls. -/
structure EscapeRun where
  own : List Text
  attempt : EscapeTry

/-- What happens to the issues and what the orchestrator does. A write that is refused is no event. -/
inductive WriterEvent where
  | others (number : Nat) (live : LiveIssue)
  | booked (op : LedgerOp)
  | reads (number : Nat)
  | dispatched (issue : Issue) (gate : GateInputs)
  | blocked (number : Nat) (context : BlockedContext) (run : EscapeRun)
  | refused (issue : Issue) (gate : GateInputs) (run : EscapeRun)
  | bounced (issue : Issue) (bounces : Nat)
  | finished (issue : Issue)

section Steps

variable {py : Py} (config : LabelConfig py)

/-- The labels `set_state` takes off for `state`. -/
def otherStates (labels : GitHubLabels py) (state : StateLabel) : List String :=
  (StateLabel.all.filter (· ≠ state)).map labels.labelName

def LabelWorker.editLabels (py : Py) (number : Nat) (add remove : List String) (s : LabelWorker) : LabelWorker :=
  let live := s.issues number
  { s with issues := Function.update s.issues number { live with labels := editedLabels py add remove live.labels } }

/-- `set_state`, for a record in the state `read`. -/
def LabelWorker.setState (action : LabelAction) (number : Nat) (read : Option StateLabel) (state : StateLabel)
    (clears : List String) (s : LabelWorker) : LabelWorker :=
  let s := s.editLabels py number [config.labels.labelName state] (otherStates config.labels state ++ clears)
  { s with writes := s.writes ++ [⟨action, read, state⟩] }

/-- The label writes of an escape. -/
def LabelWorker.moved (action : LabelAction) (number : Nat) (moves : List LabelMove) (s : LabelWorker) : LabelWorker :=
  moves.foldl (fun s move => move.written.elim s fun state => s.setState config action number move.read state []) s

/-- The issue, as an escape finds it. -/
def LabelWorker.desk (number : Nat) (run : EscapeRun) (s : LabelWorker) : Desk where
  issue := some ((s.issues number).read config.labels number).issue
  own := run.own
  moves := []
  published := []
  appended := []

/-- What the gate is asked about a record. -/
def LabelWorker.request (issue : Issue) (gate : GateInputs) (s : LabelWorker) : AdmissionRequest where
  issue := some issue
  ledger := s.ledger.get issue.number
  hold := gate.hold
  slots := gate.slots
  busy := gate.busy
  stopping := gate.stopping
  maxAttempts := config.maxAttempts
  maxIssueCostUsd := config.maxIssueCostUsd
  order := gate.order

/-- The budget a refusal is over. -/
def RefusalKind.limit : RefusalKind → Option BudgetLimit
  | attempts => some .attempts
  | spend => some .spend
  | _ => none

/-- `_dispatch` of an approved issue, as far as its claim. -/
def LabelWorker.dispatch (issue : Issue) (s : LabelWorker) : LabelWorker :=
  if issue.state = some .inProgress then s
  else s.setState config .claim issue.number issue.state .inProgress config.labels.claimClears

/-- `finish_terminal` of an issue that is not at rest. -/
def LabelWorker.finish (issue : Issue) (s : LabelWorker) : LabelWorker :=
  if classifyClosed config.labels issue = .cancelled then s.editLabels py issue.number [] config.labels.asTuple
  else s.setState config .finish issue.number issue.state .complete []

/-- One event. -/
def LabelWorker.step (s : LabelWorker) : WriterEvent → Option LabelWorker
  | .others number live => some { s with issues := Function.update s.issues number live }
  | .booked op => some { s with ledger := s.ledger.apply op }
  | .reads number => some { s with records := s.records ++ [((s.issues number).read config.labels number).issue] }
  | .dispatched issue gate =>
    if issue ∈ s.records ∧ py.lower config.labels.operatorStep ∉ issue.labels then
      (admits py (s.request config issue gate)).toOption.map fun _ => s.dispatch config issue
    else none
  | .blocked number context run =>
    let escape := blockedEscape config.labels run.attempt.meanwhile context run.attempt.now
    some (s.moved config .blockedEscape number (escape run.attempt.fates (s.desk config number run)).2.moves)
  | .refused issue gate run =>
    if issue ∈ s.records then
      match admits py (s.request config issue gate) with
      | .ok _ => none
      | .error verdict => verdict.kind.limit.map fun limit =>
        let announce := !(s.ledger.get issue.number).escalated
        let escape := budgetEscape config.labels run.attempt.meanwhile limit verdict.reason run.attempt.now announce
        s.moved config .budgetEscape issue.number (escape run.attempt.fates (s.desk config issue.number run)).2.moves
    else none
  | .bounced issue bounces =>
    if issue ∈ s.records ∧ conflictCandidate issue ∧ (s.ledger.get issue.number).escaped = false ∧
        bounces < config.maxConflictReworks then
      some (s.setState config .conflictBounce issue.number issue.state .rework [])
    else none
  | .finished issue =>
    if issue ∈ s.records ∧ issue.githubState = .closed ∧ issue.state ≠ some .complete then some (s.finish config issue)
    else none

end Steps

section Conforms

/-- What the worker writes: a transition of the table; or an issue over its budget is handed to review from
where it waits; or a closed issue is completed from where it was closed. -/
def LabelWrite.Conforms (write : LabelWrite) : Prop :=
  write.Permitted ∨
    write.action = .budgetEscape ∧ (write.read = some .todo ∨ write.read = some .rework) ∧ write.written = .review ∨
    write.action = .finish ∧ (write.read = none ∨ write.read = some .todo ∨ write.read = some .rework) ∧
      write.written = .complete

variable {py : Py} {config : LabelConfig py} {meanwhile : EscapeCall → Option Issue → Option Issue}

/-- Every move that is new is of an issue the escape takes, to review. -/
def MovesTaken (takes : Issue → Bool) (s s' : Desk) : Prop :=
  ∀ move ∈ s'.moves, move ∈ s.moves ∨ ∃ issue, takes issue = true ∧ move = ⟨issue.state, some .review⟩

instance {takes : Issue → Bool} : Std.Refl (MovesTaken takes) := ⟨fun _ _ mem => .inl mem⟩

instance {takes : Issue → Bool} : IsTrans Desk (MovesTaken takes) where
  trans _ _ _ first second := fun move mem => (second move mem).elim (first move) .inr

theorem MovesTaken.of_moves {takes : Issue → Bool} {s s' : Desk} (same : s'.moves = s.moves) : MovesTaken takes s s' :=
  fun _ mem => .inl (same ▸ mem)

theorem deskCall_taken {takes : Issue → Bool} {α : Type} {call : EscapeCall} {effect : Desk → α × Desk}
    (taken : ∀ s, MovesTaken takes s (effect s).2) : Follows (MovesTaken takes) (deskCall meanwhile call effect) :=
  Follows.bind (Follows.modify fun _ => .of_moves rfl) fun _ => Follows.call taken

theorem publishEvent_taken {takes : Issue → Bool} {event : Event} : Follows (MovesTaken takes) (publishEvent event) :=
  Follows.modify fun _ => .of_moves rfl

theorem appendBlock_taken {takes : Issue → Bool} {call : EscapeCall} {workpad : Option (Nat × Text)} {block : Text} :
    Follows (MovesTaken takes) (appendBlock meanwhile call workpad block) :=
  deskCall_taken fun _ => .of_moves rfl

theorem escapeNote_taken {takes : Issue → Bool} {block : Text} {written : Text → Bool} :
    Follows (MovesTaken takes) (escapeNote meanwhile block written) := by
  refine Follows.bind (deskCall_taken fun _ => .of_moves rfl).attempt fun looked => ?_
  cases looked with
  | error error => exact .ite .raise .pure
  | ok workpad =>
    refine .ite (Follows.bind appendBlock_taken.attempt fun appended => ?_) .pure
    cases appended with
    | error error => exact .ite .raise .pure
    | ok => exact .pure

theorem reportNoteFailure_taken {takes : Issue → Bool} {block : Text} {failure : Option NoteFailure} :
    Follows (MovesTaken takes) (reportNoteFailure meanwhile block failure) :=
  .ite (Follows.bind appendBlock_taken.attempt fun _ => .pure) .pure

/-- An escape moves what it takes. -/
theorem refetchAndMove_taken {takes : Issue → Bool} {block : Text} {written : Text → Bool} :
    Follows (MovesTaken takes) (refetchAndMove meanwhile takes block written) := by
  refine Follows.bind (deskCall_taken fun _ => .of_moves rfl) fun found => ?_
  cases found with
  | none => exact .pure
  | some issue =>
    by_cases taken : takes issue = true
    · simp only [taken, if_true]
      refine Follows.bind (Follows.bind escapeNote_taken fun _ => Follows.bind (deskCall_taken fun s move mem => ?_) fun _ => .pure)
        fun _ => .pure
      rcases List.mem_append.mp mem with before | new
      · exact .inl before
      · exact .inr ⟨issue, taken, List.mem_singleton.mp new⟩
    · simp only [taken]
      exact .pure

theorem blockedEscape_taken {context : BlockedContext} {now : Datetime} :
    Follows (MovesTaken takesBlocked) (blockedEscape config.labels meanwhile context now) := by
  refine Follows.bind refetchAndMove_taken.attempt fun found => ?_
  rcases found with error | _ | ⟨issue, failure⟩
  · exact .pure
  · exact .pure
  · exact Follows.bind publishEvent_taken fun _ => Follows.bind publishEvent_taken fun _ =>
      Follows.bind reportNoteFailure_taken fun _ => .pure

theorem budgetEscape_taken {limit : BudgetLimit} {reason : String} {now : Datetime} {announce : Bool} :
    Follows (MovesTaken takesRefused) (budgetEscape config.labels meanwhile limit reason now announce) := by
  refine Follows.bind refetchAndMove_taken.attempt fun found => ?_
  rcases found with error | _ | ⟨issue, failure⟩
  · exact .pure
  · exact .pure
  · refine Follows.bind publishEvent_taken fun _ => Follows.bind reportNoteFailure_taken fun _ => .ite ?_ .pure
    exact Follows.bind publishEvent_taken fun _ => .pure

/-- The writes of an escape are its moves. -/
theorem mem_moved {action : LabelAction} {number : Nat} {moves : List LabelMove} {s : LabelWorker} {write : LabelWrite}
    (mem : write ∈ (s.moved config action number moves).writes) :
    write ∈ s.writes ∨ ∃ move ∈ moves, ∃ state, move.written = some state ∧ write = ⟨action, move.read, state⟩ := by
  induction moves generalizing s with
  | nil => exact .inl mem
  | cons move moves ih =>
    obtain before | ⟨later, is_later, state, written, same⟩ := ih (s := move.written.elim s _) mem
    · rcases target : move.written with _ | state
      · rw [target] at before
        exact .inl before
      · rw [target] at before
        rcases List.mem_append.mp before with before | new
        · exact .inl before
        · exact .inr ⟨move, List.mem_cons_self, state, target, List.mem_singleton.mp new⟩
    · exact .inr ⟨later, List.mem_cons_of_mem _ is_later, state, written, same⟩

/-- The writes of an escape that takes what `takes` holds of go from a taken state to review. -/
theorem mem_moved_taken {takes : Issue → Bool} {action : LabelAction} {number : Nat} {before after : Desk} {s : LabelWorker}
    (fresh : before.moves = []) (taken : MovesTaken takes before after) {write : LabelWrite}
    (mem : write ∈ (s.moved config action number after.moves).writes) :
    write ∈ s.writes ∨ ∃ issue, takes issue = true ∧ write = ⟨action, issue.state, .review⟩ := by
  obtain old | ⟨move, is_move, state, written, rfl⟩ := mem_moved mem
  · exact .inl old
  · obtain nothing | ⟨issue, takes, rfl⟩ := taken move is_move
    · rw [fresh] at nothing
      cases nothing
    · cases written
      exact .inr ⟨issue, takes, rfl⟩

theorem state_of_takesRefused {issue : Issue} (takes : takesRefused issue = true) :
    issue.state = some .todo ∨ issue.state = some .inProgress ∨ issue.state = some .rework := by
  simp only [takesRefused, Bool.and_eq_true] at takes
  obtain ⟨state, is_state, active⟩ := (Option.any_eq_true _ _).mp takes.2
  simpa [is_state, activeStates] using active

theorem state_of_isActive {issue : Issue} (active : issue.isActive = true) :
    issue.state = some .todo ∨ issue.state = some .inProgress ∨ issue.state = some .rework := by
  simp only [Issue.isActive, Bool.and_eq_true] at active
  obtain ⟨state, is_state, active⟩ := (Option.any_eq_true _ _).mp active.2
  simpa [is_state, activeStates] using active

theorem mem_setState {action : LabelAction} {number : Nat} {read : Option StateLabel} {state : StateLabel}
    {clears : List String} {s : LabelWorker} {write : LabelWrite}
    (mem : write ∈ (s.setState config action number read state clears).writes) :
    write ∈ s.writes ∨ write = ⟨action, read, state⟩ :=
  (List.mem_append.mp mem).imp_right List.mem_singleton.mp

/-- One event adds writes that conform, and no others. -/
theorem step_conforms {s s' : LabelWorker} {event : WriterEvent} (step : s.step config event = some s')
    {write : LabelWrite} (mem : write ∈ s'.writes) : write ∈ s.writes ∨ write.Conforms := by
  cases event with
  | others number live =>
    cases step
    exact .inl mem
  | booked op =>
    cases step
    exact .inl mem
  | reads number =>
    cases step
    exact .inl mem
  | dispatched issue gate =>
    simp only [LabelWorker.step] at step
    split at step
    · rcases asked : admits py (s.request config issue gate) with verdict | admitted
      · rw [asked] at step
        cases step
      · rw [asked] at step
        cases step
        simp only [LabelWorker.dispatch] at mem
        split at mem
        · exact .inl mem
        next idle =>
          obtain old | rfl := mem_setState mem
          · exact .inl old
          · have allows := (admits_eq_ok_iff.mp asked).2.1 issue rfl
            obtain todo | active | rework := state_of_isActive (allows.active rfl)
            · rw [todo]
              exact .inr (.inl (by decide))
            · exact absurd active idle
            · rw [rework]
              exact .inr (.inl (by decide))
    · cases step
  | blocked number context run =>
    cases step
    obtain old | ⟨issue, takes, rfl⟩ := mem_moved_taken rfl (blockedEscape_taken _ _) mem
    · exact .inl old
    · simp only [takesBlocked, Bool.and_eq_true, decide_eq_true_eq] at takes
      rw [takes.2]
      exact .inr (.inl (by decide))
  | refused issue gate run =>
    simp only [LabelWorker.step] at step
    split at step
    · split at step
      · cases step
      · obtain ⟨limit, -, rfl⟩ := Option.map_eq_some_iff.mp step
        obtain old | ⟨issue, takes, rfl⟩ := mem_moved_taken rfl (budgetEscape_taken _ _) mem
        · exact .inl old
        · obtain todo | active | rework := state_of_takesRefused takes
          · exact .inr (.inr (.inl ⟨rfl, .inl todo, rfl⟩))
          · rw [active]
            exact .inr (.inl (by decide))
          · exact .inr (.inr (.inl ⟨rfl, .inr rework, rfl⟩))
    · cases step
  | bounced issue bounces =>
    simp only [LabelWorker.step] at step
    split at step
    next fires =>
      cases step
      obtain old | rfl := mem_setState mem
      · exact .inl old
      · have candidate := fires.2.1
        simp only [conflictCandidate, Bool.and_eq_true, decide_eq_true_eq] at candidate
        rw [candidate.1.1]
        exact .inr (.inl (by decide))
    · cases step
  | finished issue =>
    simp only [LabelWorker.step] at step
    split at step
    next fires =>
      cases step
      simp only [LabelWorker.finish] at mem
      split at mem
      · exact .inl mem
      · obtain old | rfl := mem_setState mem
        · exact .inl old
        · right
          rcases state : issue.state with _ | _ | _ | _ | _ | _
          · exact .inr (.inr ⟨rfl, .inl rfl, rfl⟩)
          · exact .inr (.inr ⟨rfl, .inr (.inl rfl), rfl⟩)
          · exact .inl (by decide)
          · exact .inl (by decide)
          · exact .inr (.inr ⟨rfl, .inr (.inr rfl), rfl⟩)
          · exact absurd state fires.2.2
    · cases step

/-- What the worker has written so far. -/
def LabelWorker.HasConformed (s : LabelWorker) : Prop := ∀ write ∈ s.writes, write.Conforms

/-- Every label write of every run conforms. -/
theorem writes_conform {start s : LabelWorker} {events : List WriterEvent} (fresh : start.writes = [])
    (run : Steps (fun s event s' => s.step config event = some s') start events s) : s.HasConformed := by
  have at_start : start.HasConformed := by
    intro write mem
    rw [fresh] at mem
    cases mem
  exact run.invariant (fun s event s' step conforms write mem => (step_conforms step mem).elim (conforms write) id) at_start

/-- At most a dollar an issue. -/
def oneDollar : LabelConfig Py.ascii where
  labels := .default
  maxAttempts := 3
  maxIssueCostUsd := 1000000
  maxConflictReworks := 2

/-- An issue with `todo`. -/
def todoLive : LiveIssue where
  base := inHand
  closed := false
  labels := ["issuebot/todo"]
  linkedPr := none
  closes := 0

def todoWorker : LabelWorker where
  issues _ := todoLive
  records := []
  ledger := .ofSeed ∅ 2 Nat.two_pos
  writes := []

/-- The issue has cost five dollars when it is read, and the gate refuses it. -/
def overBudget : List WriterEvent :=
  [.booked (.spent 1 1 5000000), .reads 1,
    .refused (todoLive.read oneDollar.labels 1).issue { slots := 1 } ⟨[], quietTry none⟩]

theorem overBudget_writes : (execute (LabelWorker.step oneDollar) todoWorker overBudget).map LabelWorker.writes =
    some [⟨.budgetEscape, some .todo, .review⟩] := by
  decide +kernel

/-- An issue refused over its budget goes from `todo` to `review`, which the table does not have. -/
theorem todo_handed_to_review : ¬ ∀ (events : List WriterEvent) (s : LabelWorker),
    Steps (fun s event s' => s.step oneDollar event = some s') todoWorker events s →
      ∀ write ∈ s.writes, write.Permitted := by
  intro permitted
  obtain ⟨s, ran, writes⟩ := Option.map_eq_some_iff.mp overBudget_writes
  have here := permitted overBudget s (.of_execute ran) ⟨.budgetEscape, some .todo, .review⟩ (by simp [writes])
  exact absurd here (by decide)

theorem writes_conform_overBudget :
    ∃ s, execute (LabelWorker.step oneDollar) todoWorker overBudget = some s ∧ s.HasConformed := by
  obtain ⟨s, ran, -⟩ := Option.map_eq_some_iff.mp overBudget_writes
  exact ⟨s, ran, writes_conform rfl (.of_execute ran)⟩

end Conforms

end Issuebot
