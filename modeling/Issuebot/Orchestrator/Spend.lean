import Issuebot.Agent.SessionRules
import Issuebot.Orchestrator.ChainAccounting
import Mathlib.Algebra.Group.Basic

/-!
# Where a run's spend goes

The event of a run's end reports its turns and its cost, and the exit adds what the task
returned. They are one result, unless an exception ended the task: then it returns none.
-/

namespace Issuebot
set_option autoImplicit false
open Logic
open Remote (Adds)

section Reports

variable {py : Py} {settings : AgentSettings} {state : RunState} {world : RunWorld}

/-- What nobody classifies ends the run after a turn. -/
def CrashesAfterATurn (py : Py) (settings : AgentSettings) (state : RunState) (world : RunWorld) : Prop :=
  world.path = none ∧ ∃ exception run,
    (world.execute py settings).outcome { state } = (.error (.raised exception), run) ∧ run.state.turns ≠ 0

/-- How a run ends, and what it publishes: nothing where its task was cancelled, else its result,
or the failure that an exception is. -/
inductive Concluded (py : Py) (settings : AgentSettings) (state : RunState) (world : RunWorld) : Option RunEnded → RunEnd → Prop where
  | cancelled : Concluded py settings state world none .cancelled
  | returned (ended : RunEnded) (result : RunResult) (outcome : ended.outcome = result.outcome) (turns : ended.turns = result.turns)
      (costUsd : ended.costUsd = result.costUsd) (classified : ¬ CrashesAfterATurn py settings state world) :
      Concluded py settings state world (some ended) (.returned result)
  | crashed (ended : RunEnded) (exception : Unexpected) (run : SessionRun) (path : world.path = none)
      (raised : (world.execute py settings).outcome { state } = (.error (.raised exception), run))
      (outcome : ended.outcome = .failed) (turns : ended.turns = run.state.turns) (costUsd : ended.costUsd = run.state.costUsd) :
      Concluded py settings state world (some ended) (.crashed exception.text)

/-- A run of any kind, where what its kind makes of a result leaves the outcome and the spend. -/
theorem runWith_concluded {kind : RunKind} {view : RunResult → RunResult}
    (outcome : ∀ result, (view result).outcome = result.outcome) (turns : ∀ result, (view result).turns = result.turns)
    (costUsd : ∀ result, (view result).costUsd = result.costUsd) :
    Concluded py settings state world (runWith kind view (world.execute py settings) world.path state).published
      (runWith kind view (world.execute py settings) world.path state).ending := by
  cases path : world.path with
  | some error =>
    rw [runWith]
    exact .returned _ _ rfl rfl rfl fun crashes => nomatch path.symm.trans crashes.1
  | none =>
    rw [runWith]
    rcases body : (world.execute py settings).outcome { state } with ⟨(exception | _) | ⟨⟩, run⟩
    · refine .crashed _ exception run path body ?_ ?_ ?_
      · exact outcome (run.crash exception).state.result
      · exact turns (run.crash exception).state.result
      · exact costUsd (run.crash exception).state.result
    · exact .cancelled
    · refine .returned _ _ rfl rfl rfl fun ⟨_, exception, run', raised, _⟩ => ?_
      rw [body] at raised
      cases raised

theorem finishedRun_concluded :
    Concluded py settings state world (finishedRun py settings state world).published
      (finishedRun py settings state world).ending := by
  cases world with
  | work w => exact @runWith_concluded py settings state (.work w) _ _ (fun _ => rfl) (fun _ => rfl) fun _ => rfl
  | triage w => exact @runWith_concluded py settings state (.triage w) _ _ (fun _ => rfl) (fun _ => rfl) fun _ => rfl
  | parentReview w =>
    exact @runWith_concluded py settings state (.parentReview w) _ _ (fun _ => rfl) (fun _ => rfl) fun _ => rfl

/-- A run that crashed before its first turn has cost nothing. -/
theorem crashed_unspent {issue : Issue} {attempt : Nat} {runId sessionId : String} {started : Datetime} {exception : Unexpected}
    {run : SessionRun}
    (raised : (world.execute py settings).outcome { state := newRun issue attempt runId sessionId started } =
      (.error (.raised exception), run)) : Unspent run := by
  have fresh : Going { state := newRun issue attempt runId sessionId started } := ⟨⟨fun _ => rfl, nofun⟩, rfl⟩
  have unspent : Unspent ((world.execute py settings).outcome { state := newRun issue attempt runId sessionId started }).2 := by
    cases world with
    | work w => exact executeWork_unspent.after fresh
    | triage w => exact executeTriage_unspent.after fresh
    | parentReview w => exact executeTriage_unspent.after fresh
  rwa [raised] at unspent

end Reports

namespace Orchestrator

section Exit

variable {py : Py} {settings : Settings py} {number : Nat} {entry : RunningEntry} {ending : RunEnd} {exit : ExitWorld}
variable {o : Orchestrator} {ended : RunEnded}

/-- What an exit has charged, before the end of its run is acted on. -/
def charged (number : Nat) (entry : RunningEntry) (ending : RunEnd) (o : Orchestrator) : Orchestrator :=
  Pass.after (charge entry.issue.number ending) (Pass.after (popRunning number entry) o)

/-- What the exit adds is what the event of the run's end reports. -/
structure SpendDelivered (settings : Settings py) (number : Nat) (entry : RunningEntry) (ending : RunEnd)
    (exit : ExitWorld) (ended : RunEnded) (o : Orchestrator) : Prop where
  turns : ((charged number entry ending o).ledger.get number).turns = (o.ledger.get number).turns + ended.turns
  costUsd : ((charged number entry ending o).ledger.get number).costUsd = (o.ledger.get number).costUsd + ended.costUsd
  /-- The rest of the exit takes nothing back; an issue that is finished is forgotten. -/
  kept : entry.terminalIssue = none →
    ((Pass.after (handleWorkerExit settings number exit) o).ledger.get number).turns =
        ((charged number entry ending o).ledger.get number).turns ∧
      ((Pass.after (handleWorkerExit settings number exit) o).ledger.get number).costUsd =
        ((charged number entry ending o).ledger.get number).costUsd
  totals : (Pass.after (handleWorkerExit settings number exit) o).totals.costUsd = o.totals.costUsd + ended.costUsd

theorem turns_booked : Booked number (fun o => (o.ledger.get number).turns) 0 where
  aside _ _ aside := aside.turns number
  retries _ _ := rfl
  counted _ := by simp
  cleared _ := by simp

theorem costUsd_booked : Booked number (fun o => (o.ledger.get number).costUsd) 0 where
  aside _ _ aside := aside.costUsd number
  retries _ _ := rfl
  counted _ := by simp
  cleared _ := by simp

theorem totals_booked : Booked number (fun o => o.totals.costUsd) 0 where
  aside _ _ aside := by rw [aside.totals]
  retries _ _ := rfl
  counted _ := (add_zero _).symm
  cleared _ := rfl

/-- What follows the charge leaves a figure that no failure moves. -/
theorem figure_kept {M : Type} [AddMonoid M] {figure : Orchestrator → M} (found : o.running.lookup number = some entry)
    (done : entry.task = some ending) (booked : Booked entry.issue.number figure 0)
    (forgotten : ∀ issue, entry.terminalIssue = some issue → ∀ o, figure { o with
      ledger := o.ledger.forget issue.number
      history := o.history ++ [.finished issue.number] } = figure o) :
    figure (Pass.after (handleWorkerExit settings number exit) o) = figure (charged number entry ending o) := by
  rw [handleWorkerExit_after found done, settleExit, Pass.after_bind, charged]
  split
  next =>
    rw [figure_after (workExit_books booked forgotten), nsmul_zero, add_zero]
  next => rw [figure_after (booked.quiet triageExit_quiet), add_zero]

/-- The exit of a session that returned adds what its result reports, a cost below zero apart. -/
theorem spend_of_returned {result : RunResult} (found : o.running.lookup number = some entry)
    (done : entry.task = some (.returned result)) (here : entry.issue.number = number) (turns : ended.turns = result.turns)
    (costUsd : ended.costUsd = result.costUsd) :
    SpendDelivered settings number entry (.returned result) exit ended o ↔ 0 ≤ ended.costUsd := by
  subst here
  have ledger : (charged entry.issue.number entry (.returned result) o).ledger =
      o.ledger.spent entry.issue.number result.turns result.costUsd := rfl
  constructor
  · intro delivered
    have cost := delivered.costUsd
    rw [ledger, Ledger.spent_costUsd, ← costUsd] at cost
    exact max_eq_left_iff.mp (add_left_cancel cost)
  · intro positive
    refine ⟨?_, ?_, fun open_issue => ⟨?_, ?_⟩, ?_⟩
    · rw [ledger, Ledger.spent_turns]
      omega
    · rw [ledger, Ledger.spent_costUsd, ← costUsd, max_eq_left positive]
    · exact figure_kept found done turns_booked fun issue terminal => nomatch open_issue.symm.trans terminal
    · exact figure_kept found done costUsd_booked fun issue terminal => nomatch open_issue.symm.trans terminal
    · rw [costUsd]
      exact figure_kept found done totals_booked fun _ _ _ => rfl

/-- The exit of a task that an exception ended adds nothing. -/
theorem spend_of_crashed {error : String} (found : o.running.lookup number = some entry)
    (done : entry.task = some (.crashed error)) (here : entry.issue.number = number) :
    SpendDelivered settings number entry (.crashed error) exit ended o ↔ ended.turns = 0 ∧ ended.costUsd = 0 := by
  subst here
  constructor
  · intro delivered
    have same : (charged entry.issue.number entry (.crashed error) o).ledger = o.ledger := rfl
    have turns := delivered.turns
    have cost := delivered.costUsd
    rw [same] at turns cost
    exact ⟨Int.natCast_eq_zero.mp (add_eq_left.mp turns.symm), add_eq_left.mp cost.symm⟩
  · rintro ⟨turns, cost⟩
    refine ⟨?_, ?_, fun open_issue => ⟨?_, ?_⟩, ?_⟩
    · rw [turns]
      exact (add_zero _).symm
    · rw [cost]
      exact (add_zero _).symm
    · exact figure_kept found done turns_booked fun issue terminal => nomatch open_issue.symm.trans terminal
    · exact figure_kept found done costUsd_booked fun issue terminal => nomatch open_issue.symm.trans terminal
    · rw [cost, add_zero]
      exact figure_kept found done totals_booked fun _ _ _ => rfl

end Exit

section Main

variable {py : Py} {settings : Settings py} {agent : AgentSettings} {world : RunWorld} {issue : Issue} {attempt number : Nat}
variable {runId sessionId : String} {started : Datetime} {ended : RunEnded} {entry : RunningEntry} {exit : ExitWorld}
variable {entries : Dict IssueLedger} {parents : Dict ParentRecord} {families : Nat → Family}
variable {labels : List (Settings py × Action)} {live : Live py} {o : Orchestrator}

/-- Spend is not lost: in every run of the worker, the exit of a run that published its end adds
what that event reports if and only if no exception ended the run after a turn, and the cost it
reports is not below zero. -/
theorem spend_delivered_iff
    (steps : Steps ReloadStep ⟨settings, start settings entries parents families⟩ labels live)
    (inside : Reached live.settings .reloading live.worker o) (found : o.running.lookup number = some entry)
    (done : entry.task = some (finishedRun py agent (newRun issue attempt runId sessionId started) world).ending)
    (published : (finishedRun py agent (newRun issue attempt runId sessionId started) world).published = some ended) :
    SpendDelivered live.settings number entry (finishedRun py agent (newRun issue attempt runId sessionId started) world).ending
        exit ended o ↔
      ¬ CrashesAfterATurn py agent (newRun issue attempt runId sessionId started) world ∧ 0 ≤ ended.costUsd := by
  have kept : Kept settings .fixed (start settings entries parents families) := start_kept
  have here : entry.issue.number = number := (inside.tidy (reloads_tidy steps kept.toTidy)).keyed number entry found
  have concluded : Concluded py agent (newRun issue attempt runId sessionId started) world (some ended)
      (finishedRun py agent (newRun issue attempt runId sessionId started) world).ending :=
    published ▸ finishedRun_concluded
  revert done concluded
  generalize (finishedRun py agent (newRun issue attempt runId sessionId started) world).ending = ending
  intro done concluded
  cases concluded with
  | returned _ result _ turns costUsd classified =>
    rw [spend_of_returned found done here turns costUsd]
    exact ⟨fun positive => ⟨classified, positive⟩, And.right⟩
  | crashed _ exception run path raised _ turns costUsd =>
    rw [spend_of_crashed found done here, turns, costUsd]
    constructor
    · rintro ⟨no_turn, free⟩
      refine ⟨fun crashes => ?_, free.ge⟩
      obtain ⟨-, exception', run', raised', turned⟩ := crashes
      rw [raised] at raised'
      cases raised'
      exact turned no_turn
    · rintro ⟨no_crash, -⟩
      have no_turn : run.state.turns = 0 := by
        by_contra turned
        exact no_crash ⟨path, exception, run, raised, turned⟩
      exact ⟨no_turn, crashed_unspent raised no_turn⟩

/-- The worker with a session of the issue that is over, and whose exit is next. -/
def sessionOver (ending : RunEnd) : Orchestrator :=
  actAll plainSettings (start plainSettings ∅ ∅ todoFamily) [.tick (plainTick 0 [todoIssue 8]), .sessionEnded 8 ending]

/-- The run of a session whose second turn comes to this. -/
def secondTurn (second : Reply Empty TurnResult) : FinishedRun :=
  finishedRun Py.ascii plainAgent (newRun (todoIssue 8) 1 "20260928T090500Z-a1b2c3" "session" 0)
    (.work (twoTurns (todoIssue 8) second))

/-- The second turn raises: the first turn's spend reaches the store, and not the ledger. -/
theorem spend_lost_by_a_crash :
    ∃ ended entry, (secondTurn (.raised noSpace)).published = some ended ∧
      (sessionOver (secondTurn (.raised noSpace)).ending).running.lookup 8 = some entry ∧
      entry.task = some (secondTurn (.raised noSpace)).ending ∧
      ¬ SpendDelivered plainSettings 8 entry (secondTurn (.raised noSpace)).ending plainExit ended
        (sessionOver (secondTurn (.raised noSpace)).ending) := by
  have publishes : ((secondTurn (.raised noSpace)).published.isSome) := by decide +kernel
  obtain ⟨ended, published⟩ := Option.isSome_iff_exists.mp publishes
  have is_some : ((sessionOver (secondTurn (.raised noSpace)).ending).running.lookup 8).isSome := by decide +kernel
  obtain ⟨entry, found⟩ := Option.isSome_iff_exists.mp is_some
  have done : entry.task = some (secondTurn (.raised noSpace)).ending := read_found found (by decide +kernel)
  refine ⟨ended, entry, published, found, done, fun delivered => ?_⟩
  have reported : ended.turns = 1 := by
    have turns : (secondTurn (.raised noSpace)).published.map RunEnded.turns = some 1 := by decide +kernel
    rw [published] at turns
    exact Option.some.inj turns
  have crashed : (secondTurn (.raised noSpace)).ending = .crashed noSpace.text := by decide +kernel
  have turns := delivered.turns
  rw [crashed, reported] at turns
  have same : ∀ o : Orchestrator, (charged 8 entry (.crashed noSpace.text) o).ledger = o.ledger := fun _ => rfl
  rw [same] at turns
  omega

/-- The second turn is answered, and the issue is gone. -/
theorem spend_delivered_by_a_result :
    ∃ ended entry, (secondTurn (.answered plainTurn)).published = some ended ∧
      SpendDelivered plainSettings 8 entry (secondTurn (.answered plainTurn)).ending plainExit ended
        (sessionOver (secondTurn (.answered plainTurn)).ending) := by
  have publishes : ((secondTurn (.answered plainTurn)).published.isSome) := by decide +kernel
  obtain ⟨ended, published⟩ := Option.isSome_iff_exists.mp publishes
  have is_some : ((sessionOver (secondTurn (.answered plainTurn)).ending).running.lookup 8).isSome := by decide +kernel
  obtain ⟨entry, found⟩ := Option.isSome_iff_exists.mp is_some
  have done : entry.task = some (secondTurn (.answered plainTurn)).ending := read_found found (by decide +kernel)
  have run : Steps ReloadStep ⟨plainSettings, start plainSettings ∅ ∅ todoFamily⟩ _
      ⟨plainSettings, sessionOver (secondTurn (.answered plainTurn)).ending⟩ := actAll_reloads
  refine ⟨ended, entry, published, (spend_delivered_iff run .refl found done published).mpr ⟨?_, ?_⟩⟩
  · rintro ⟨-, exception, run, raised, -⟩
    have answered : (((RunWorld.work (twoTurns (todoIssue 8) (.answered plainTurn))).execute Py.ascii plainAgent).outcome
        { state := newRun (todoIssue 8) 1 "20260928T090500Z-a1b2c3" "session" 0 }).1.isOk := by decide +kernel
    rw [raised] at answered
    cases answered
  · have cost : (secondTurn (.answered plainTurn)).published.map RunEnded.costUsd = some 500000 := by decide +kernel
    rw [published] at cost
    rw [Option.some.inj cost]
    decide

end Main

end Orchestrator
end Issuebot
