import Issuebot.Db.Queries
import Issuebot.Orchestrator.Spend

/-!
# The ledger a restart seeds, against the one it replaces

One issue's history: its runs with their exits, its escapes, the hand-backs of its triage, the
session records folded in and its finishes. Each entry changes the ledger as the worker does,
and writes the rows of the events it publishes. `Blocked` is published by each escape that is
applied, which the worker counts, and by no other end of a run.
-/

namespace Issuebot
set_option autoImplicit false
open Logic
open Remote (Triple)

/-- The store counts the run as a failure. -/
def FinishedRun.Failed (run : FinishedRun) : Prop :=
  ∃ ended, run.published = some ended ∧ (ended.outcome = .failed ∨ ended.outcome = .timedOut)

def FinishedRun.Succeeded (run : FinishedRun) : Prop := ∃ ended, run.published = some ended ∧ ended.outcome = .succeeded

/-- `w`, whose blocked escape answers `outcome`. -/
def World.escaping (w : World) (outcome : EscapeOutcome) : World := { w with blockedEscape := fun _ => ⟨outcome, false⟩ }

namespace Orchestrator

/-- A run the account or its own clock ended, which escapes without a failure. -/
def HandsOver (entry : RunningEntry) (ending : RunEnd) : Prop :=
  released entry ending = false ∧ entry.stopCause ≠ some .stalled ∧
    ∃ result, ending = .returned result ∧ result.outcome ≠ .succeeded ∧ result.errorCategory ≠ some .usageLimited ∧
      (result.errorCategory = some .authFailed ∨ (result.errorCategory = some .runTimeout ∧ result.finalState = some .inProgress))

/-- The chain of an issue, and the escapes the worker has counted. -/
structure ChainAt (number failures blocked : Nat) (o : Orchestrator) : Prop where
  failures : (o.ledger.get number).failures = failures
  blocked : o.counters.blocked = blocked

/-- What an escape leaves of a chain. -/
inductive EscapeLeaves (number failures blocked : Nat) (outcome : EscapeOutcome) (o : Orchestrator) : Prop where
  | failed (is_failed : outcome = .failed) (kept : ChainAt number failures blocked o)
  | applied (is_applied : outcome = .applied) (counted : o.counters.blocked = blocked + 1)
  | skipped (is_skipped : outcome = .skipped)

/-- What the exit of a work run leaves of a chain. -/
inductive ExitLeaves (number failures blocked : Nat) (entry : RunningEntry) (ending : RunEnd) (w : World)
    (outcome : EscapeOutcome) (o : Orchestrator) : Prop where
  | charged (stays : HandsOver entry ending → outcome ≠ .applied)
      (failures : (o.ledger.get number).failures = failures + chargedFailures entry ending)
  | escaped (is_applied : outcome = .applied) (counted : o.counters.blocked = blocked + 1)
  | dropped (is_skipped : outcome = .skipped)
  | succeeded (result : RunResult) (returned : ending = .returned result) (success : result.outcome = .succeeded)
  | finished (issue : Issue) (terminal : entry.terminalIssue = some issue) (landed : w.finish.answer ≠ .failed)

section Exit

variable {py : Py} {settings : Settings py} {number f b : Nat} {entry : RunningEntry} {ending : RunEnd} {w : World}
variable {outcome : EscapeOutcome} {α : Type} {calls : Empty → Fate Empty} {E : Empty → Orchestrator → Prop}

theorem await_at {awaited : Awaited α} :
    Triple calls (ChainAt number f b) (await awaited) (fun answer o => answer = awaited.answer ∧ ChainAt number f b o) E := by
  refine Triple.bind (Q := fun _ => ChainAt number f b) (.when (fun _ => .modify fun _ h => ⟨h.failures, h.blocked⟩) fun _ _ h => h)
    fun _ => ?_
  exact .pure fun _ h => ⟨rfl, h⟩

theorem queueRetry_at {retry : RetryEntry} :
    Triple calls (ChainAt number f b) (queueRetry retry) (fun _ => ChainAt number f b) E :=
  .modify fun _ h => ⟨h.failures, h.blocked⟩

theorem changeHolds_at {g : Holds → Holds} :
    Triple calls (ChainAt number f b) (changeHolds g) (fun _ => ChainAt number f b) E :=
  .modify fun _ h => ⟨h.failures, h.blocked⟩

theorem escape_leaves {reason : String} {result : Option RunResult} (answers : ∀ context, (w.blockedEscape context).answer = outcome) :
    Triple calls (ChainAt entry.issue.number f b) (escape settings entry reason result w)
      (fun _ => EscapeLeaves entry.issue.number f b outcome) E := by
  refine await_at.bind fun answer => Triple.assuming fun is_answer => ?_
  rw [answers] at is_answer
  subst is_answer
  cases answer with
  | failed =>
    refine .bind (Q := fun _ => ChainAt entry.issue.number f b) (.when nofun fun _ _ h => h) fun _ => ?_
    exact queueRetry_at.conseq (fun _ h => h) (fun _ _ kept => .failed rfl kept) fun _ _ h => h
  | applied =>
    refine .bind (Q := fun _ o => o.counters.blocked = b) (.when (fun _ => .modify fun _ h => h.blocked) fun _ _ h => h.blocked)
      fun _ => .modify fun o same => .applied rfl ?_
    exact congrArg (· + 1) same
  | skipped =>
    exact .bind (Q := fun _ _ => True) (.when (fun _ => .modify fun _ _ => trivial) fun _ _ _ => trivial) fun _ =>
      .pure fun _ _ => .skipped rfl

/-- A failure is counted, and the chain at its ceiling escapes. -/
theorem afterFailure_leaves {error : String} {result : Option RunResult}
    (answers : ∀ context, (w.blockedEscape context).answer = outcome) :
    Triple calls (ChainAt entry.issue.number f b) (afterFailure settings entry error result w)
      (fun _ o => (o.ledger.get entry.issue.number).failures = f + 1 ∨
        EscapeLeaves entry.issue.number (f + 1) b outcome o) E := by
  refine .bind (Q := fun _ => ChainAt entry.issue.number (f + 1) b) (.modify fun o h => ⟨?_, h.blocked⟩) fun _ =>
    .bind_get fun o here => .before (P := ChainAt entry.issue.number (f + 1) b) ?_ fun s same => same ▸ here
  · rw [Ledger.failed_failures, h.failures]
  · dsimp only
    split
    · exact (escape_leaves answers).conseq (fun _ h => h) (fun _ _ leaves => .inr leaves) fun _ _ h => h
    · exact queueRetry_at.conseq (fun _ h => h) (fun _ _ kept => .inl kept.failures) fun _ _ h => h

/-- A run that hands its issue over counts no failure. -/
theorem HandsOver.uncharged (hands : HandsOver entry ending) : chargedFailures entry ending = 0 := by
  obtain ⟨stays, no_stall, result, rfl, -, -, category⟩ := hands
  have unanswered : result.answeredFor = false := by
    rcases category with auth | ⟨timeout, in_progress⟩
    · simp [RunResult.answeredFor, auth]
    · simp [RunResult.answeredFor, timeout, in_progress]
  simp [chargedFailures, stays, no_stall, RunEnd.ownFailures, unanswered]

/-- An escape with no failure counted before it. -/
theorem ExitLeaves.of_escape {o : Orchestrator} (uncharged : chargedFailures entry ending = 0)
    (leaves : EscapeLeaves number f b outcome o) : ExitLeaves number f b entry ending w outcome o := by
  cases leaves with
  | failed is_failed kept => exact .charged (fun _ => by rw [is_failed]; nofun) (by rw [uncharged, kept.failures]; rfl)
  | applied is_applied counted => exact .escaped is_applied counted
  | skipped is_skipped => exact .dropped is_skipped

/-- A failure counted, and perhaps an escape after it. -/
theorem ExitLeaves.of_failure {o : Orchestrator} (charged : chargedFailures entry ending = 1)
    (leaves : (o.ledger.get number).failures = f + 1 ∨ EscapeLeaves number (f + 1) b outcome o) :
    ExitLeaves number f b entry ending w outcome o := by
  have stays : HandsOver entry ending → outcome ≠ .applied := fun hands => absurd (hands.uncharged.symm.trans charged) nofun
  rcases leaves with failures | is_failed | is_applied | is_skipped
  · exact .charged stays (by rw [charged, failures])
  · exact .charged stays (by rw [charged]; exact ChainAt.failures ‹_›)
  · exact .escaped is_applied ‹_›
  · exact .dropped is_skipped

/-- A finish that lands forgets the chain of its issue, and no other. -/
theorem finish_leaves {issue : Issue} :
    Triple calls (ChainAt number f b) (finish issue w)
      (fun _ o => (issue.number = number ∧ w.finish.answer ≠ .failed) ∨ ChainAt number f b o) E := by
  refine await_at.bind fun answer => Triple.assuming fun is_answer => ?_
  subst is_answer
  refine .bind (Q := fun _ => ChainAt number f b) (fun o h => ⟨h.failures, h.blocked⟩) fun _ => ?_
  refine .bind (Q := fun _ o => (issue.number = number ∧ w.finish.answer ≠ .failed) ∨ ChainAt number f b o) ?_ fun _ => ?_
  · refine .when (fun landed => .modify fun o h => ?_) fun _ _ h => .inr h
    by_cases same : issue.number = number
    · exact .inl ⟨same, of_decide_eq_true landed⟩
    · refine .inr ⟨?_, h.blocked⟩
      have kept : (o.ledger.forget issue.number).get number = o.ledger.get number := by
        simp only [Ledger.get, Ledger.forget, AList.lookup_erase_ne (Ne.symm same)]
      rw [kept, h.failures]
  have kept {c : Bool} {g : Counters → Counters} (same : ∀ counters, (g counters).blocked = counters.blocked) :
      Triple calls (fun o => (issue.number = number ∧ w.finish.answer ≠ .failed) ∨ ChainAt number f b o) (.when c (bump g))
        (fun _ o => (issue.number = number ∧ w.finish.answer ≠ .failed) ∨ ChainAt number f b o) E :=
    .when (fun _ => .modify fun o h => h.imp_right fun chain => ⟨chain.failures, (same o.counters).trans chain.blocked⟩)
      fun _ _ h => h
  refine (kept ?_).bind fun _ => kept ?_
  all_goals exact fun _ => rfl

theorem workSucceeded_leaves {result : RunResult} (answers : ∀ context, (w.blockedEscape context).answer = outcome)
    (success : result.outcome = .succeeded) (uncharged : chargedFailures entry (.returned result) = 0) :
    Triple calls (ChainAt entry.issue.number f b) (workSucceeded settings entry result w)
      (fun _ => ExitLeaves entry.issue.number f b entry (.returned result) w outcome) E := by
  have escapes {reason : String} {result' : Option RunResult} :
      Triple calls (ChainAt entry.issue.number f b) (escape settings entry reason result' w)
        (fun _ => ExitLeaves entry.issue.number f b entry (.returned result) w outcome) E :=
    (escape_leaves answers).conseq (fun _ h => h) (fun _ _ => .of_escape uncharged) fun _ _ h => h
  unfold workSucceeded
  split
  · exact escapes
  · split
    · exact escapes
    · intro o _
      exact .succeeded result rfl success

theorem workFailed_leaves {result : RunResult} (answers : ∀ context, (w.blockedEscape context).answer = outcome)
    (failed : result.outcome ≠ .succeeded) (stays : released entry (.returned result) = false)
    (no_stall : entry.stopCause ≠ some .stalled) :
    Triple calls (ChainAt entry.issue.number f b) (workFailed settings entry result w)
      (fun _ => ExitLeaves entry.issue.number f b entry (.returned result) w outcome) E := by
  have charges : chargedFailures entry (.returned result) = if result.answeredFor then 1 else 0 := by
    simp only [chargedFailures, stays, no_stall, Bool.false_eq_true, if_false, RunEnd.ownFailures]
  unfold workFailed
  split
  next auth =>
    have uncharged : chargedFailures entry (.returned result) = 0 := by simp [charges, RunResult.answeredFor, auth]
    refine .bind (Q := fun _ => ChainAt entry.issue.number f b) (changeHolds_at.bind fun _ => .pure fun _ h => h) fun _ => ?_
    exact (escape_leaves answers).conseq (fun _ h => h) (fun _ _ => .of_escape uncharged) fun _ _ h => h
  next not_auth =>
    split
    next usage =>
      have uncharged : chargedFailures entry (.returned result) = 0 := by simp [charges, RunResult.answeredFor, usage]
      refine .bind (Q := fun _ => ChainAt entry.issue.number f b) (changeHolds_at.bind fun _ => .pure fun _ h => h) fun _ => ?_
      refine .bind (Q := fun _ => ChainAt entry.issue.number f b) (.get fun _ h => h) fun _ => ?_
      refine queueRetry_at.conseq (fun _ h => h) (fun _ _ kept => .charged ?_ (by rw [uncharged, kept.failures]; rfl)) fun _ _ h => h
      rintro ⟨-, -, result', same, -, not_usage, -⟩
      cases same
      exact absurd usage not_usage
    next not_usage =>
      split
      next timeout =>
        have uncharged : chargedFailures entry (.returned result) = 0 := by simp [charges, RunResult.answeredFor, timeout]
        exact (escape_leaves answers).conseq (fun _ h => h) (fun _ _ => .of_escape uncharged) fun _ _ h => h
      next not_timeout =>
        have charged : chargedFailures entry (.returned result) = 1 := by
          rw [charges, if_pos (by simp [RunResult.answeredFor, failed, not_auth, not_usage, not_timeout])]
        exact (afterFailure_leaves answers).conseq (fun _ h => h) (fun _ _ => .of_failure charged) fun _ _ h => h

/-- What the end of a work run leaves of its issue's chain. -/
theorem workExit_leaves (answers : ∀ context, (w.blockedEscape context).answer = outcome) :
    Triple calls (ChainAt entry.issue.number f b) (workExit settings entry ending w)
      (fun _ => ExitLeaves entry.issue.number f b entry ending w outcome) E := by
  have let_go {o : Orchestrator} (gone : released entry ending = true) (kept : ChainAt entry.issue.number f b o) :
      ExitLeaves entry.issue.number f b entry ending w outcome o := by
    refine .charged (fun hands => absurd (gone.symm.trans hands.1) nofun) ?_
    rw [chargedFailures, if_pos gone, kept.failures]
    rfl
  unfold workExit
  split
  next issue terminal =>
    refine finish_leaves.conseq (fun _ h => h) (fun _ o leaves => ?_) fun _ _ h => h
    exact leaves.elim (fun landed => .finished issue terminal landed.2) (let_go (by simp [released, terminal]))
  next open_issue =>
    split
    next release => exact .pure fun _ => let_go (by simp [released, release])
    next stays =>
      cases ending with
      | cancelled => exact .pure fun _ => let_go (by simp [released])
      | crashed error =>
        have charged : chargedFailures entry (.crashed error) = 1 := by
          simp [chargedFailures, released, open_issue, stays, RunEnd.ownFailures]
        exact (afterFailure_leaves answers).conseq (fun _ h => h) (fun _ _ => .of_failure charged) fun _ _ h => h
      | returned result =>
        have here : released entry (.returned result) = false := by simp [released, open_issue, stays]
        dsimp only
        split
        next stall =>
          have charged : chargedFailures entry (.returned result) = 1 := by simp [chargedFailures, here, stall]
          exact (afterFailure_leaves answers).conseq (fun _ h => h) (fun _ _ => .of_failure charged) fun _ _ h => h
        next no_stall =>
          split
          next success =>
            refine workSucceeded_leaves answers success ?_
            simp [chargedFailures, here, no_stall, RunEnd.ownFailures, RunResult.answeredFor, success]
          next failed => exact workFailed_leaves answers failed here no_stall

end Exit

section Histories

variable {py : Py}

/-- The worker, what its store has of the issue, and the time. -/
structure Books where
  worker : Orchestrator
  store : Store
  clock : Datetime

/-- One entry of an issue's history. -/
inductive HistoryEntry where
  /-- A run that is over, and its exit: `outcome` is what a blocked escape answers there. -/
  | ran (agent : AgentSettings) (world : RunWorld) (state : RunState) (entry : RunningEntry) (exit : ExitWorld)
      (outcome : EscapeOutcome) (startedAt endedAt exitAt : Datetime)
  /-- A budget, operator-step or unapproved escape, or a blocked one that is retried. -/
  | escaped (outcome : EscapeOutcome) (happened : Datetime)
  /-- The triage track hands the issue back. -/
  | handedBack (happened : Datetime)
  /-- A session record is folded into the chain. -/
  | observed (attempt : Nat)
  /-- A terminal finish outside a run. -/
  | finished (issue : Issue) (w : World)

/-- The row of a run that is over. -/
def runRow (number : Nat) (kind : RunKind) (state : RunState) (startedAt endedAt : Datetime) (published : Option RunEnded) :
    RunRow where
  runId := state.runId
  issueNumber := number
  kind
  startedAt
  endedAt := published.map fun _ => endedAt
  outcome := published.map RunEnded.outcome
  turns := (published.map RunEnded.turns).getD 0
  costUsd := (published.map RunEnded.costUsd).getD 0

/-- The `Blocked` events of the escapes the worker has counted meanwhile. -/
def blockedRows (number : Nat) (o o' : Orchestrator) (happened : Datetime) : List EventRow :=
  .replicate (o'.counters.blocked - o.counters.blocked) { happened, issueNumber := number, kind := .blocked }

/-- What an entry leaves. -/
def Books.record (settings : Settings py) (number : Nat) (books : Books) : HistoryEntry → Books
  | .ran agent world state entry exit outcome startedAt endedAt exitAt =>
    let run := finishedRun py agent state world
    let exit := { exit with world := exit.world.escaping outcome }
    let worker := Pass.after (settleExit settings number entry run.ending exit) books.worker
    { worker
      store := (books.store.addRun (runRow number entry.kind state startedAt endedAt run.published)).addEvents
        (blockedRows number books.worker worker exitAt)
      clock := exitAt }
  | .escaped outcome happened =>
    { worker := Pass.after (recordEscape number outcome) books.worker
      store := books.store.addEvents
        (if outcome = .applied then [{ happened, issueNumber := number, kind := .blocked }] else [])
      clock := happened }
  | .handedBack happened =>
    { books with
      store := books.store.addEvents [{ happened, issueNumber := number, kind := .blocked }]
      clock := happened }
  | .observed attempt =>
    { books with
      worker := Pass.after
        (book (.observed number attempt) fun ledger => ledger.observed number attempt settings.maxAttempts) books.worker }
  | .finished issue w => { books with worker := Pass.after (finish issue w) books.worker }

/-- An entry of the issue, no earlier than the ones before it. -/
def HistoryEntry.Fits (number : Nat) (clock : Datetime) : HistoryEntry → Prop
  | ran _ world _ entry _ _ startedAt endedAt exitAt =>
    entry.issue.number = number ∧ entry.kind = world.kind ∧ clock ≤ startedAt ∧ startedAt ≤ endedAt ∧ endedAt ≤ exitAt
  | escaped _ happened | handedBack happened => clock ≤ happened
  | observed _ | finished _ _ => True

/-- What the entry does to the ledger, the store can see: a failure it counts is counted at the
exit or handed over, and no live chain of its is dropped by an escape that was skipped or by a
finish. -/
def HistoryEntry.Seen (py : Py) (since : Datetime) (number : Nat) (store : Store) : HistoryEntry → Prop
  | ran agent world state entry exit outcome _ _ _ =>
    let run := finishedRun py agent state world
    entry.kind = .work →
      (run.Failed → chargedFailures entry run.ending = 1 ∨ HandsOver entry run.ending ∧ outcome = .applied) ∧
        (outcome = .skipped ∨ entry.terminalIssue.isSome ∧ exit.world.finish.answer ≠ .failed →
          run.Succeeded ∨ store.chain since number = [] ∧ ¬ run.Failed)
  | escaped outcome _ => outcome = .skipped → store.chain since number = []
  | finished issue w => issue.number = number → w.finish.answer ≠ .failed → store.chain since number = []
  | handedBack _ | observed _ => True

/-- An entry of the history, under the settings in force. -/
def Recorded (since : Datetime) (number : Nat) (books : Books) (entry : Settings py × HistoryEntry) (books' : Books) : Prop :=
  entry.2.Fits number books.clock ∧ entry.2.Seen py since number books.store ∧ books' = books.record entry.1 number entry.2

/-- The ledger counts the live chain of the store at least, and no run started after the clock. -/
structure Covers (since : Datetime) (number : Nat) (books : Books) : Prop where
  chain : (books.store.chain since number).length ≤ (books.worker.ledger.get number).failures
  past : ∀ row ∈ books.store.runs, row.startedAt ≤ books.clock

variable {settings : Settings py} {since : Datetime} {number : Nat} {books : Books}

section Ran

variable {agent : AgentSettings} {world : RunWorld} {state : RunState} {entry : RunningEntry} {exit : ExitWorld}
variable {outcome : EscapeOutcome} {startedAt endedAt exitAt : Datetime} {ending : RunEnd} {o : Orchestrator}

/-- The charge of an exit is no failure. -/
theorem charge_at {f b : Nat} (at_start : ChainAt number f b o) : ChainAt number f b (Pass.after (charge number ending) o) := by
  cases ending with
  | cancelled => exact at_start
  | crashed => exact at_start
  | returned result => exact ⟨Ledger.spent_failures.trans at_start.failures, at_start.blocked⟩

theorem settleExit_leaves (work : entry.kind = .work) (here : entry.issue.number = number) :
    ExitLeaves number (o.ledger.get number).failures o.counters.blocked entry ending (exit.world.escaping outcome) outcome
      (Pass.after (settleExit settings number entry ending { exit with world := exit.world.escaping outcome }) o) := by
  subst here
  rw [settleExit, Pass.after_bind, if_pos work]
  exact (workExit_leaves fun _ => rfl).after (charge_at ⟨rfl, rfl⟩)

/-- The exits of the triage track leave the chain alone. -/
theorem settleExit_keeps (track : entry.kind ≠ .work) (here : entry.issue.number = number) :
    ((Pass.after (settleExit settings number entry ending exit) o).ledger.get number).failures =
      (o.ledger.get number).failures := by
  subst here
  have kept : Remote.Adds (fun o : Orchestrator => (o.ledger.get entry.issue.number).failures)
      (triageExit settings entry.issue.number entry ending exit) 0 :=
    triageExit_quiet.adds fun _ _ aside => aside.failures _
  rw [settleExit, Pass.after_bind, if_neg track, figure_after kept]
  exact (charge_at ⟨rfl, rfl⟩).failures

variable {run : FinishedRun}

/-- A row is a failure where the store counts the run as one. -/
theorem failed_of_row {kind : RunKind} (failure : (runRow number kind state startedAt endedAt run.published).failure) :
    kind = .work ∧ run.Failed := by
  simp only [RunRow.failure, runRow, Bool.and_eq_true, Bool.or_eq_true, decide_eq_true_eq, Option.map_eq_some_iff] at failure
  obtain ⟨⟨ended, published, failed⟩ | ⟨ended, published, timedOut⟩, work⟩ := failure
  · exact ⟨of_decide_eq_true work, ended, published, .inl failed⟩
  · exact ⟨of_decide_eq_true work, ended, published, .inr timedOut⟩

/-- The store once the run's rows are written. -/
def withRun (books : Books) (number : Nat) (row : RunRow) (worker : Orchestrator) (exitAt : Datetime) : Store :=
  (books.store.addRun row).addEvents (blockedRows number books.worker worker exitAt)

variable {row : RunRow} {worker : Orchestrator}

theorem chain_withRun_le :
    ((withRun books number row worker exitAt).chain since number).length ≤
      (books.store.chain since number).length + if row.failure && row.endedAt.isSome then 1 else 0 :=
  Store.chain_addEvents_le.trans Store.chain_addRun_le

/-- An escape that was applied at the exit leaves no chain. -/
theorem chain_withRun_escaped (counted : worker.counters.blocked = books.worker.counters.blocked + 1)
    (last : ∀ x ∈ (books.store.addRun row).runs, x.startedAt ≤ exitAt) :
    (withRun books number row worker exitAt).chain since number = [] := by
  refine @Store.chain_of_escape _ _ _ ⟨exitAt, number, .blocked⟩ ?_ rfl rfl last
  refine List.mem_append_right _ (List.mem_replicate.mpr ⟨?_, rfl⟩)
  omega

/-- A success leaves no chain. -/
theorem chain_withRun_succeeded {run : FinishedRun} (succeeded : run.Succeeded)
    (last : ∀ x ∈ (books.store.addRun (runRow number .work state startedAt endedAt run.published)).runs, x.startedAt ≤ startedAt) :
    (withRun books number (runRow number .work state startedAt endedAt run.published) worker exitAt).chain since number = [] := by
  obtain ⟨ended, published, success⟩ := succeeded
  refine @Store.chain_of_success _ _ _ (runRow number .work state startedAt endedAt run.published) ?_ rfl ?_ ?_ last
  · exact List.mem_append_right _ (List.mem_singleton_self _)
  · simp [runRow, published]
  · simp [RunRow.success, runRow, published, success]

/-- Of a work run's exit that the store sees, it counts no more than the ledger. -/
theorem work_covered {w : World} (covers : Covers since number books)
    (concluded : Concluded py agent state world run.published run.ending)
    (leaves : ExitLeaves number (books.worker.ledger.get number).failures books.worker.counters.blocked entry run.ending w outcome
      worker)
    (charged : run.Failed → chargedFailures entry run.ending = 1 ∨ HandsOver entry run.ending ∧ outcome = .applied)
    (dropped : outcome = .skipped ∨ entry.terminalIssue.isSome ∧ w.finish.answer ≠ .failed →
      run.Succeeded ∨ books.store.chain since number = [] ∧ ¬ run.Failed)
    (last : ∀ x ∈ (books.store.addRun (runRow number .work state startedAt endedAt run.published)).runs, x.startedAt ≤ startedAt)
    (exits : startedAt ≤ exitAt) :
    ((withRun books number (runRow number .work state startedAt endedAt run.published) worker exitAt).chain since number).length ≤
      (worker.ledger.get number).failures := by
  have within := @chain_withRun_le since number books exitAt (runRow number .work state startedAt endedAt run.published) worker
  have lost : run.Succeeded ∨ books.store.chain since number = [] ∧ ¬ run.Failed →
      (withRun books number (runRow number .work state startedAt endedAt run.published) worker exitAt).chain since number = [] := by
    rintro (succeeded | ⟨nothing, no_failure⟩)
    · exact chain_withRun_succeeded succeeded last
    · have no_row : (runRow number .work state startedAt endedAt run.published).failure = false :=
        Bool.eq_false_iff.mpr fun failure => no_failure (failed_of_row failure).2
      rw [nothing, no_row] at within
      exact List.length_eq_zero_iff.mp (Nat.le_zero.mp within)
  cases leaves with
  | charged stays failures =>
    have chain := covers.chain
    rw [failures]
    split at within
    next counted =>
      have failed : run.Failed := (failed_of_row (Bool.and_eq_true_iff.mp counted).1).2
      rcases charged failed with one | ⟨hands, is_applied⟩
      · omega
      · exact absurd is_applied (stays hands)
    next => omega
  | escaped _ counted =>
    rw [chain_withRun_escaped counted fun x member => (last x member).trans exits]
    exact Nat.zero_le _
  | dropped is_skipped =>
    rw [lost (dropped (.inl is_skipped))]
    exact Nat.zero_le _
  | succeeded result returned success =>
    have succeeded : run.Succeeded := by
      rw [returned] at concluded
      generalize published : run.published = answer at concluded
      cases concluded with
      | returned ended _ outcome => exact ⟨ended, published, outcome.trans success⟩
    rw [lost (.inl succeeded)]
    exact Nat.zero_le _
  | finished issue terminal landed =>
    rw [lost (dropped (.inr ⟨by rw [terminal]; rfl, landed⟩))]
    exact Nat.zero_le _

/-- A run and its exit, seen by the store. -/
theorem ran_covers (covers : Covers since number books)
    (fits : (HistoryEntry.ran agent world state entry exit outcome startedAt endedAt exitAt).Fits number books.clock)
    (seen : (HistoryEntry.ran agent world state entry exit outcome startedAt endedAt exitAt).Seen py since number books.store) :
    Covers since number
      (books.record settings number (.ran agent world state entry exit outcome startedAt endedAt exitAt)) := by
  obtain ⟨here, -, starts, ends, exits⟩ := fits
  have last (row : RunRow) (start : row.startedAt = startedAt) : ∀ x ∈ (books.store.addRun row).runs, x.startedAt ≤ startedAt := by
    intro x member
    rcases List.mem_append.mp member with earlier | itself
    · exact (covers.past x earlier).trans starts
    · rw [List.mem_singleton.mp itself, start]
  refine ⟨?_, fun x member => (last _ rfl x member).trans (ends.trans exits)⟩
  by_cases work : entry.kind = .work
  · have rows : ∀ o, withRun books number (runRow number entry.kind state startedAt endedAt
        (finishedRun py agent state world).published) o exitAt = withRun books number (runRow number .work state startedAt endedAt
          (finishedRun py agent state world).published) o exitAt := fun o => by rw [work]
    refine (le_of_eq (congrArg (fun store => (Store.chain store since number).length) (rows _))).trans ?_
    exact work_covered covers finishedRun_concluded (settleExit_leaves work here) (seen work).1 (seen work).2 (last _ rfl)
      (ends.trans exits)
  · refine (chain_withRun_le.trans ?_).trans (le_of_eq (settleExit_keeps work here).symm)
    have no_row : (runRow number entry.kind state startedAt endedAt (finishedRun py agent state world).published).failure = false :=
      Bool.eq_false_iff.mpr fun failure => work (failed_of_row failure).1
    rw [no_row]
    exact covers.chain

end Ran

/-- What an entry the store sees leaves. -/
theorem recorded_covers {entry : Settings py × HistoryEntry} {books' : Books} (recorded : Recorded since number books entry books')
    (covers : Covers since number books) : Covers since number books' := by
  obtain ⟨settings, entry⟩ := entry
  obtain ⟨fits, seen, rfl⟩ := recorded
  cases entry with
  | ran => exact ran_covers covers fits seen
  | escaped outcome happened =>
    have past : ∀ x ∈ books.store.runs, x.startedAt ≤ happened := fun x member => (covers.past x member).trans fits
    refine ⟨?_, past⟩
    cases outcome with
    | applied =>
      have emptied : (books.store.addEvents [⟨happened, number, .blocked⟩]).chain since number = [] :=
        Store.chain_of_escape (List.mem_append_right _ (List.mem_singleton_self _)) rfl rfl past
      exact (le_of_eq (congrArg List.length emptied)).trans (Nat.zero_le _)
    | skipped =>
      refine Store.chain_addEvents_le.trans ?_
      rw [seen rfl]
      exact Nat.zero_le _
    | failed => exact Store.chain_addEvents_le.trans covers.chain
  | handedBack happened =>
    exact ⟨Store.chain_addEvents_le.trans covers.chain, fun x member => (covers.past x member).trans fits⟩
  | observed attempt =>
    refine ⟨covers.chain.trans ?_, covers.past⟩
    have raised : ((books.worker.ledger.observed number attempt settings.maxAttempts).get number).failures =
        max (books.worker.ledger.get number).failures (seededChain (attempt - 1) settings.maxAttempts) := Ledger.observed_failures
    exact (Nat.le_max_left _ _).trans (le_of_eq raised.symm)
  | finished issue w =>
    refine ⟨?_, covers.past⟩
    have leaves : (issue.number = number ∧ w.finish.answer ≠ .failed) ∨
        ChainAt number (books.worker.ledger.get number).failures books.worker.counters.blocked
          (Pass.after (finish issue w) books.worker) := finish_leaves.after ⟨rfl, rfl⟩
    rcases leaves with ⟨same, landed⟩ | kept
    · exact (le_of_eq (congrArg List.length (seen same landed))).trans (Nat.zero_le _)
    · exact covers.chain.trans (le_of_eq kept.failures.symm)

variable {o : Orchestrator} {clock : Datetime} {history : List (Settings py × HistoryEntry)} {limit : Nat}

/-- The seed is never stricter than the ledger it replaces, in every history of an issue whose
entries the store sees. -/
theorem seed_never_stricter (recorded : Steps (Recorded since number) ⟨o, {}, clock⟩ history books) :
    books.store.storedFailures since number limit ≤ (books.worker.ledger.get number).failures := by
  have start : Covers since number ⟨o, {}, clock⟩ := ⟨Nat.zero_le _, nofun⟩
  have covers : Covers since number books := recorded.invariant (fun _ _ _ => recorded_covers) start
  exact Store.storedFailures_le.trans covers.chain

end Histories

section Runs

/-- A run of issue 8 whose one turn fails so, and its exit, where a blocked escape answers `outcome`. -/
def failedRun (category : AgentErrorCategory) (outcome : EscapeOutcome) (startedAt : Datetime) : HistoryEntry :=
  .ran plainAgent
    (.work (plainWork fun _ => plainTurnWorld (.answered { plainTurn with errorCategory := some category }) []))
    (newRun (todoIssue 8) 1 "20260928T090500Z-a1b2c3" "session" 0)
    { issue := todoIssue 8
      attempt := 1
      runId := "20260928T090500Z-a1b2c3"
      startedMono := 0
      account := none
      kind := .work }
    plainExit outcome startedAt (startedAt + 1) (startedAt + 2)

theorem failedRun_fits {category : AgentErrorCategory} {outcome : EscapeOutcome} {startedAt : Datetime} :
    (failedRun category outcome startedAt).Fits 8 startedAt :=
  ⟨rfl, rfl, Int.le_refl _, Int.le_add_of_nonneg_right (by decide), Int.add_le_add_left (by decide) _⟩

/-- The books after two failures of the category, the second of which brings the chain to its
ceiling. -/
def twoFailures (category : AgentErrorCategory) (outcome : EscapeOutcome) : Books :=
  ((⟨start plainSettings ∅ ∅ todoFamily, {}, 0⟩ : Books).record plainSettings 8 (failedRun category outcome 0)).record
    plainSettings 8 (failedRun category outcome 2)

/-- Runs the usage limit ended count in the store alone, and an escape that was skipped drops the
chain of two failures from the ledger alone. -/
theorem seed_stricter :
    (twoFailures .usageLimited .applied).store.storedFailures 0 8 500 = 2 ∧
      ((twoFailures .usageLimited .applied).worker.ledger.get 8).failures = 0 ∧
      (twoFailures .processExit .skipped).store.storedFailures 0 8 500 = 2 ∧
      ((twoFailures .processExit .skipped).worker.ledger.get 8).failures = 0 := by
  refine ⟨?_, ?_, ?_, ?_⟩ <;> decide +kernel

/-- Two failures, after which the escape is applied. -/
theorem seed_of_two_failures :
    (twoFailures .processExit .applied).store.storedFailures 0 8 500 ≤
      ((twoFailures .processExit .applied).worker.ledger.get 8).failures := by
  have seen (startedAt : Datetime) (store : Store) : (failedRun .processExit .applied startedAt).Seen Py.ascii 0 8 store := by
    refine fun _ => ⟨fun _ => .inl (by decide +kernel), ?_⟩
    rintro (skipped | ⟨terminal, -⟩)
    · cases skipped
    · cases terminal
  exact @seed_never_stricter Py.ascii 0 8 _ _ _ [(plainSettings, failedRun .processExit .applied 0),
    (plainSettings, failedRun .processExit .applied 2)] 500
    (.cons ⟨failedRun_fits, seen 0 _, rfl⟩ (.cons ⟨failedRun_fits, seen 2 _, rfl⟩ (.nil _)))

end Runs

end Orchestrator

end Issuebot
