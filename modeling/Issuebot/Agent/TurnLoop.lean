import Issuebot.Agent.SessionRules
import Mathlib.Logic.Function.Basic

/-!
# The turns of a work session

A turn is started where claude is called for it: where the loop would stop on what that call raises
(`Starts`). What lets a turn be followed by another is `LeadsOn`. A loop that returns is decided, has
run a first stretch of the turns, and has counted these and no others.
-/

namespace Issuebot
set_option autoImplicit false
open Logic

/-- The calls before claude's are answered, and the deadline has not passed. -/
structure Opens (settings : AgentSettings) (started : Datetime) (w : TurnWorld) : Prop where
  clock : w.clock < started + settings.runTimeoutMs * 1000
  workpad : ∃ workpad, w.workpad = .answered workpad
  prompt : w.prompt = .answered ()
  swept : w.swept = .answered ()

/-- What lets another turn follow: none of its failures but the turn's budget, no cancellation seen, the
issue in progress still, and no `BLOCKED` line. -/
structure LeadsOn (py : Py) (turn : TurnResult) (w : TurnWorld) : Prop where
  passed : turn.errorCategory = none ∨ turn.errorCategory = some .budgetExceeded
  cancel : w.cancel = false
  refreshed : ∃ issue rest, w.refreshed = .answered (issue :: rest) ∧ issue.state = some .inProgress ∧ issue.dispatchable = true
  unblocked : blockerFrom py turn.resultText = none

/-- The turns the run has counted. -/
structure TurnTally (ran : List TurnResult) (state : RunState) : Prop where
  turns : state.turns = ran.length
  inputTokens : state.inputTokens = (ran.map TurnResult.inputTokens).sum
  outputTokens : state.outputTokens = (ran.map TurnResult.outputTokens).sum
  costUsd : state.costUsd = (ran.map TurnResult.costUsd).sum

/-- A run that goes on: nothing says yet how it ends. -/
structure Undecided (started : Datetime) (ran : List TurnResult) (state : RunState) : Prop extends TurnTally ran state where
  started : state.started = started
  outcome : state.outcome = .succeeded
  stopReason : state.stopReason = none
  errorCategory : state.errorCategory = none

/-- A run that is over: it has a reason, and has succeeded where no category says otherwise. -/
structure Decided (ran : List TurnResult) (state : RunState) : Prop extends TurnTally ran state where
  stopReason : state.stopReason.isSome = true
  outcome : state.outcome = .succeeded ↔ state.errorCategory = none

theorem outcomeFor_ne (category : AgentErrorCategory) : outcomeFor category ≠ .succeeded := by
  cases category <;> decide

section States

variable {started : Datetime} {ran : List TurnResult} {state : RunState}

theorem Undecided.recordTurn (going : Undecided started ran state) (turn : TurnResult) :
    Undecided started (ran ++ [turn]) (state.recordTurn turn) where
  turns := by simp [RunState.recordTurn, going.turns]
  inputTokens := by simp [RunState.recordTurn, going.inputTokens]
  outputTokens := by simp [RunState.recordTurn, going.outputTokens]
  costUsd := by simp [RunState.recordTurn, going.costUsd]
  started := going.started
  outcome := going.outcome
  stopReason := going.stopReason
  errorCategory := going.errorCategory

theorem TurnTally.fail (tally : TurnTally ran state) (category : AgentErrorCategory) (message : Option String) :
    Decided ran (state.fail category message) where
  toTurnTally := ⟨tally.turns, tally.inputTokens, tally.outputTokens, tally.costUsd⟩
  stopReason := rfl
  outcome := iff_of_false (outcomeFor_ne category) (Option.some_ne_none _)

theorem Undecided.stop (going : Undecided started ran state) (reason : StopReason) : Decided ran (state.stop reason) where
  toTurnTally := ⟨going.turns, going.inputTokens, going.outputTokens, going.costUsd⟩
  stopReason := rfl
  outcome := iff_of_true rfl going.errorCategory

end States

section Turn

variable {py : Py} {settings : AgentSettings} {started : Datetime} {ran : List TurnResult} {w : TurnWorld} {turnNumber : Nat}
variable {calls : Empty → Fate Abrupt} {run : SessionRun} {out : Except Abrupt Bool × SessionRun}

/-- The loop is stopped, other than by its last turn. -/
structure Stops (ran : List TurnResult) (out : Except Abrupt Bool × SessionRun) : Prop where
  ended : out.1 ≠ .ok false
  decided : out.1 = .ok true → Decided ran out.2.state ∧ out.2.state.stopReason ≠ some .maxTurns

theorem Stops.raised {stop : Abrupt} : Stops ran (.error stop, run) where
  ended same := by cases same
  decided same := by cases same

theorem Stops.failed {category : AgentErrorCategory} {message : Option String} (tally : TurnTally ran run.state) :
    Stops ran (.ok true, { run with state := run.state.fail category message }) where
  ended same := by cases same
  decided _ := by
    refine ⟨tally.fail category message, fun same => ?_⟩
    rw [RunState.fail] at same
    split at same
    · cases same
    · cases same

theorem Stops.returned {isOver : Bool} {after : SessionRun} (stops : Stops ran (.ok isOver, after)) :
    Decided ran after.state ∧ after.state.stopReason ≠ some .maxTurns := by
  cases isOver with
  | true => exact stops.decided rfl
  | false => exact absurd rfl stops.ended

theorem Stops.stopped {reason : StopReason} (going : Undecided started ran run.state) (early : reason ≠ .maxTurns) :
    Stops ran (.ok true, { run with state := run.state.stop reason }) where
  ended same := by cases same
  decided _ := ⟨going.stop reason, fun same => early (Option.some.inj same)⟩

theorem runDeadline_eq (going : Undecided started ran run.state) :
    run.state.runDeadline settings.runTimeoutMs = started + settings.runTimeoutMs * 1000 := by
  rw [RunState.runDeadline, going.started]

theorem pastDeadline_late {clock : Datetime} (going : Undecided started ran run.state)
    (late : ¬ clock < started + settings.runTimeoutMs * 1000) :
    ∃ message, pastDeadline settings.runTimeoutMs clock turnNumber calls run =
      (.ok true, { run with state := run.state.fail .runTimeout message }) := by
  rw [pastDeadline, Remote.bind_ok rfl, runDeadline_eq going, if_neg late]
  exact ⟨_, rfl⟩

theorem pastDeadline_in_time {clock : Datetime} (going : Undecided started ran run.state)
    (in_time : clock < started + settings.runTimeoutMs * 1000) :
    pastDeadline settings.runTimeoutMs clock turnNumber calls run = (.ok false, run) := by
  rw [pastDeadline, Remote.bind_ok rfl, runDeadline_eq going, if_pos in_time]
  rfl

/-- A run that goes on with another workpad. -/
theorem Undecided.withWorkpad {state : RunState} (going : Undecided started ran state) (workpad : Option Nat) :
    Undecided started ran { state with workpad } where
  toTurnTally := ⟨going.turns, going.inputTokens, going.outputTokens, going.costUsd⟩
  started := going.started
  outcome := going.outcome
  stopReason := going.stopReason
  errorCategory := going.errorCategory

/-- A turn that does not open stops the loop, whatever claude would do. -/
theorem workTurn_closed (going : Undecided started ran run.state) (closed : ¬ Opens settings started w) :
    ∃ out, (∀ turn, workTurn py settings { w with turn } turnNumber calls run = out) ∧ Stops ran out := by
  obtain ⟨clock, workpad, prompt, swept, claude, saved, cancel, refreshed⟩ := w
  by_cases in_time : clock < started + settings.runTimeoutMs * 1000
  case neg =>
    obtain ⟨message, late⟩ := @pastDeadline_late settings started ran turnNumber calls run clock going in_time
    exact ⟨_, fun turn => Remote.bind_ok late, .failed going.toTurnTally⟩
  case pos =>
    have begun := @pastDeadline_in_time settings started ran turnNumber calls run clock going in_time
    cases workpad with
    | raised exception => exact ⟨_, fun turn => (Remote.bind_ok begun).trans rfl, .raised⟩
    | cancelled => exact ⟨_, fun turn => (Remote.bind_ok begun).trans rfl, .raised⟩
    | refused error => exact ⟨_, fun turn => (Remote.bind_ok begun).trans rfl, .failed going.toTurnTally⟩
    | answered workpad =>
      cases prompt with
      | raised exception => exact ⟨_, fun turn => (Remote.bind_ok begun).trans rfl, .raised⟩
      | cancelled => exact ⟨_, fun turn => (Remote.bind_ok begun).trans rfl, .raised⟩
      | refused error =>
        exact ⟨_, fun turn => (Remote.bind_ok begun).trans rfl, .failed (going.withWorkpad workpad).toTurnTally⟩
      | answered =>
        cases swept with
        | raised exception => exact ⟨_, fun turn => (Remote.bind_ok begun).trans rfl, .raised⟩
        | cancelled => exact ⟨_, fun turn => (Remote.bind_ok begun).trans rfl, .raised⟩
        | refused error => exact error.elim
        | answered => exact absurd ⟨in_time, ⟨workpad, rfl⟩, rfl, rfl⟩ closed

/-- A turn that opens runs claude. -/
theorem workTurn_opens (going : Undecided started ran run.state) (opens : Opens settings started w) :
    ∃ at_, Undecided started ran at_.state ∧ ∀ turn, workTurn py settings { w with turn } turnNumber calls run =
      runTurn py settings turnNumber { w with turn } calls at_ := by
  obtain ⟨clock, workpad, prompt, swept, claude, saved, cancel, refreshed⟩ := w
  obtain ⟨in_time, ⟨workpad, rfl⟩, rfl, rfl⟩ := opens
  have begun := @pastDeadline_in_time settings started ran turnNumber calls run clock going in_time
  exact ⟨_, going.withWorkpad workpad, fun turn => (Remote.bind_ok begun).trans rfl⟩

/-- A turn that ended leads on, or stops the loop; and where the last one leads on, that is its reason. -/
inductive TurnEnds (py : Py) (settings : AgentSettings) (started : Datetime) (ran : List TurnResult) (w : TurnWorld)
    (turn : TurnResult) (turnNumber : Nat) (out : Except Abrupt Bool × SessionRun) : Prop where
  | stops (unled : ¬ LeadsOn py turn w) (stops : Stops ran out)
  | last (leads : LeadsOn py turn w) (is_last : turnNumber = settings.maxTurns) (ended : out.1 = .ok true)
      (decided : Decided ran out.2.state) (reason : out.2.state.stopReason = some .maxTurns)
      (in_progress : out.2.state.issue.state = some .inProgress ∧ out.2.state.issue.dispatchable = true)
  | goes_on (leads : LeadsOn py turn w) (not_last : turnNumber ≠ settings.maxTurns) (ended : out.1 = .ok false)
      (going : Undecided started ran out.2.state)

/-- A run that goes on with the issue as it is by then. -/
theorem Undecided.withIssue {state : RunState} (going : Undecided started ran state) (issue : Issue) :
    Undecided started ran { state with issue } where
  toTurnTally := ⟨going.turns, going.inputTokens, going.outputTokens, going.costUsd⟩
  started := going.started
  outcome := going.outcome
  stopReason := going.stopReason
  errorCategory := going.errorCategory

/-- A run that goes on with its blocker. -/
theorem Undecided.withBlocker {state : RunState} (going : Undecided started ran state) (blocker : String) :
    Undecided started ran { state with blocker := some blocker } where
  toTurnTally := ⟨going.turns, going.inputTokens, going.outputTokens, going.costUsd⟩
  started := going.started
  outcome := going.outcome
  stopReason := going.stopReason
  errorCategory := going.errorCategory

/-- After a turn that did not fail, by the issue and by what the turn said. -/
theorem afterTurn_ends {turn : TurnResult} (going : Undecided started ran run.state)
    (passed : turn.errorCategory = none ∨ turn.errorCategory = some .budgetExceeded) (cancel : w.cancel = false) :
    TurnEnds py settings started ran w turn turnNumber (afterTurn py settings turnNumber turn w calls run) := by
  have refreshed_of (other : ∀ issue rest, w.refreshed ≠ .answered (issue :: rest)) : ¬ LeadsOn py turn w := by
    intro leads
    obtain ⟨issue, rest, is_refreshed, -⟩ := leads.refreshed
    exact other issue rest is_refreshed
  rw [afterTurn]
  cases is_refreshed : w.refreshed with
  | raised exception => exact .stops (refreshed_of (by simp [is_refreshed])) .raised
  | cancelled => exact .stops (refreshed_of (by simp [is_refreshed])) .raised
  | refused error => exact .stops (refreshed_of (by simp [is_refreshed])) (.failed going.toTurnTally)
  | answered issues =>
    cases issues with
    | nil => exact .stops (refreshed_of (by simp [is_refreshed])) (.stopped going (by decide))
    | cons issue rest =>
      have going := going.withIssue issue
      show TurnEnds py settings started ran w turn turnNumber
        ((if issue.state ≠ some .inProgress ∨ ¬ issue.dispatchable then stopped .issueMoved
          else _ : Session Bool) calls { run with state := { run.state with issue } })
      have same_issue (leads : LeadsOn py turn w) : issue.state = some .inProgress ∧ issue.dispatchable = true := by
        obtain ⟨_, _, leads, in_progress, dispatchable⟩ := leads.refreshed
        cases is_refreshed.symm.trans leads
        exact ⟨in_progress, dispatchable⟩
      split
      case isTrue moved =>
        refine .stops (fun leads => ?_) (.stopped going (by decide))
        exact moved.elim (fun moved => moved (same_issue leads).1) fun held => held (same_issue leads).2
      case isFalse stays =>
        obtain ⟨in_progress, dispatchable⟩ := not_or.mp stays
        have in_progress := not_not.mp in_progress
        have dispatchable := not_not.mp dispatchable
        cases said : blockerFrom py turn.resultText with
        | some blocker =>
          refine .stops (fun leads => ?_) (.stopped (going.withBlocker blocker) (by decide))
          cases said.symm.trans leads.unblocked
        | none =>
          have leads : LeadsOn py turn w := ⟨passed, cancel, ⟨issue, rest, is_refreshed, in_progress, dispatchable⟩, said⟩
          show TurnEnds py settings started ran w turn turnNumber
            ((if turnNumber = settings.maxTurns then stopped .maxTurns else return false : Session Bool) calls _)
          split
          case isTrue is_last => exact .last leads is_last rfl (going.stop _) rfl ⟨in_progress, dispatchable⟩
          case isFalse not_last => exact .goes_on leads not_last rfl going

theorem save_eq {turnNumber : Nat} {written : Bool} : ∃ record, save turnNumber none written calls run = (.ok (), { run with record }) := by
  cases written with
  | true => exact ⟨_, rfl⟩
  | false => exact ⟨run.record, rfl⟩

/-- A turn that claude answered. -/
theorem runTurn_ends {turn : TurnResult} (going : Undecided started ran run.state) (swept : w.swept = .answered ())
    (answered : w.turn = .answered turn) :
    TurnEnds py settings started (ran ++ [turn]) w turn turnNumber (runTurn py settings turnNumber w calls run) := by
  obtain ⟨record, saved⟩ := @save_eq calls { run with state := run.state.recordTurn turn } turnNumber w.saved
  have counted := going.recordTurn turn
  have begun : runTurn py settings turnNumber w calls run =
      (do
        if ← failsOn turn then return true
        else if ← cancelledBetween w.cancel then return true
        else afterTurn py settings turnNumber turn w : Session Bool) calls
          { run with state := run.state.recordTurn turn, record } := by
    rw [runTurn, swept, answered]
    exact Remote.bind_ok saved
  rw [begun]
  by_cases passed : turn.errorCategory = none ∨ turn.errorCategory = some .budgetExceeded
  case neg =>
    refine .stops (fun leads => passed leads.passed) ?_
    obtain ⟨category, is_category⟩ := Option.ne_none_iff_exists'.mp (not_or.mp passed).1
    have other : category ≠ .budgetExceeded := fun same => (not_or.mp passed).2 (same ▸ is_category)
    have failure : failsOn turn calls { run with state := run.state.recordTurn turn, record } =
        failed category turn.error calls { run with
          state := { run.state.recordTurn turn with usageResetAt := turn.usageResetAt, usageWindow := turn.usageWindow }
          record } := by
      rw [failsOn, is_category]
      simp only [if_neg other]
      rfl
    have tally := counted.toTurnTally
    rw [Remote.bind_ok failure]
    exact .failed ⟨tally.turns, tally.inputTokens, tally.outputTokens, tally.costUsd⟩
  case pos =>
    have unfailed : failsOn turn calls { run with state := run.state.recordTurn turn, record } =
        (.ok false, { run with state := run.state.recordTurn turn, record }) := by
      rw [failsOn]
      rcases passed with passed | passed <;> rw [passed] <;> rfl
    rw [Remote.bind_ok unfailed]
    cases cancel : w.cancel with
    | true => exact .stops (fun leads => by cases cancel.symm.trans leads.cancel) (.failed counted.toTurnTally)
    | false => exact afterTurn_ends counted passed cancel

end Turn

section Loop

variable {py : Py} {settings : AgentSettings} {started : Datetime} {calls : Empty → Fate Abrupt}

/-- A turn that is started and leads on. -/
structure Passes (py : Py) (settings : AgentSettings) (started : Datetime) (w : TurnWorld) (turn : TurnResult) : Prop where
  opens : Opens settings started w
  answered : w.turn = .answered turn
  leads : LeadsOn py turn w

/-- One time round the loop: it is stopped before claude, or claude does not answer, or the turn ends. -/
theorem workTurn_cases {ran : List TurnResult} {w : TurnWorld} {turnNumber : Nat} {run : SessionRun}
    (going : Undecided started ran run.state) :
    (¬ Opens settings started w ∧ Stops ran (workTurn py settings w turnNumber calls run)) ∨
    (Opens settings started w ∧ (∀ turn, w.turn ≠ .answered turn) ∧
      ∃ stop at_, workTurn py settings w turnNumber calls run = (.error stop, at_)) ∨
    ∃ turn, Opens settings started w ∧ w.turn = .answered turn ∧
      TurnEnds py settings started (ran ++ [turn]) w turn turnNumber (workTurn py settings w turnNumber calls run) := by
  by_cases opens : Opens settings started w
  case neg =>
    obtain ⟨out, same, stops⟩ := @workTurn_closed py settings started ran w turnNumber calls run going opens
    exact .inl ⟨opens, (same w.turn).symm ▸ stops⟩
  case pos =>
    obtain ⟨at_, begun, same⟩ := @workTurn_opens py settings started ran w turnNumber calls run going opens
    have same : workTurn py settings w turnNumber calls run = runTurn py settings turnNumber w calls at_ := same w.turn
    rw [same]
    refine .inr ?_
    cases answered : w.turn with
    | answered turn => exact .inr ⟨turn, opens, rfl, runTurn_ends begun opens.swept answered⟩
    | refused error => exact error.elim
    | raised exception =>
      refine .inl ⟨opens, fun turn same => ?_, .raised exception, at_, ?_⟩
      · cases same
      · rw [runTurn, opens.swept, answered]
        rfl
    | cancelled =>
      refine .inl ⟨opens, fun turn same => ?_, .cancelled, at_, ?_⟩
      · cases same
      · rw [runTurn, opens.swept, answered]
        rfl

/-- From turn `first` on, each before turn `n` is started and leads on, and turn `n` opens. -/
structure Due (py : Py) (settings : AgentSettings) (started : Datetime) (turns : Nat → TurnWorld) (first n : Nat) : Prop where
  bound : n ≤ settings.maxTurns
  before : ∀ i, first ≤ i → i < n → ∃ turn, Passes py settings started (turns i) turn
  opens : Opens settings started (turns n)

section Due

variable {turns : Nat → TurnWorld} {first n : Nat}

theorem due_self : Due py settings started turns n n ↔ n ≤ settings.maxTurns ∧ Opens settings started (turns n) :=
  ⟨fun due => ⟨due.bound, due.opens⟩, fun due => ⟨due.1, fun _ le lt => absurd lt (Nat.not_lt.mpr le), due.2⟩⟩

theorem Due.passes (due : Due py settings started turns first n) (later : first < n) :
    ∃ turn, Passes py settings started (turns first) turn := due.before first (Nat.le_refl _) later

theorem due_next {turn : TurnResult} (passes : Passes py settings started (turns first) turn) :
    Due py settings started turns first n ↔ Due py settings started turns (first + 1) n := by
  constructor
  · exact fun due => ⟨due.bound, fun i le => due.before i (Nat.le_of_succ_le le), due.opens⟩
  · refine fun due => ⟨due.bound, fun i le lt => ?_, due.opens⟩
    rcases Nat.eq_or_lt_of_le le with rfl | le
    · exact ⟨turn, passes⟩
    · exact due.before i le lt

end Due

theorem turnLoop_stops (turn : Nat → Session Bool) {remaining turnNumber : Nat} {run : SessionRun}
    (stops : (turn turnNumber calls run).1 ≠ .ok false) :
    turnLoop turn (remaining + 1) turnNumber calls run = turn turnNumber calls run := by
  rw [turnLoop]
  rcases ended : turn turnNumber calls run with ⟨_ | isOver, after⟩
  · simp only [bind, ended]
  · cases isOver with
    | true => exact Remote.bind_ok ended
    | false => exact absurd (congrArg Prod.fst ended) stops

theorem turnLoop_goes_on (turn : Nat → Session Bool) {remaining turnNumber : Nat} {run : SessionRun}
    (goes_on : (turn turnNumber calls run).1 = .ok false) :
    turnLoop turn (remaining + 1) turnNumber calls run =
      turnLoop turn remaining (turnNumber + 1) calls (turn turnNumber calls run).2 := by
  rw [turnLoop]
  exact Remote.bind_ok (Prod.ext goes_on rfl)

/-- A loop that returns, from turn `turnNumber` on: the turns that were due are those it ran. -/
theorem turnLoop_ok {turns : Nat → TurnWorld} {remaining turnNumber : Nat} {ran : List TurnResult} {run after : SessionRun}
    {isOver : Bool} (going : Undecided started ran run.state) (counted : ran.length + 1 = turnNumber)
    (bound : turnNumber + remaining = settings.maxTurns + 1) (more : 0 < remaining)
    (returns : turnLoop (fun n => workTurn py settings (turns n) n) remaining turnNumber calls run = (.ok isOver, after)) :
    ∃ new : List TurnResult,
      (∀ i, Due py settings started turns turnNumber (turnNumber + i) ↔ i < new.length) ∧
      (∀ i turn, new[i]? = some turn → (turns (turnNumber + i)).turn = .answered turn) ∧
      Decided (ran ++ new) after.state ∧
      (after.state.stopReason = some .maxTurns → (ran ++ new).length = settings.maxTurns ∧
        after.state.issue.state = some .inProgress ∧ after.state.issue.dispatchable = true) := by
  induction remaining generalizing turnNumber ran run with
  | zero => exact absurd more (Nat.lt_irrefl 0)
  | succ remaining ih =>
    have due_here : Due py settings started turns turnNumber turnNumber ↔ Opens settings started (turns turnNumber) :=
      due_self.trans (and_iff_right (by omega))
    -- the loop ends here: nothing or this turn was run, and no later one is due
    have only (turn : TurnResult) (opens : Opens settings started (turns turnNumber))
        (unled : ∀ i, ¬ Due py settings started turns turnNumber (turnNumber + (i + 1))) (i : Nat) :
        Due py settings started turns turnNumber (turnNumber + i) ↔ i < [turn].length := by
      cases i with
      | zero => exact iff_of_true (due_here.mpr opens) Nat.zero_lt_one
      | succ i => exact iff_of_false (unled i) (Nat.not_lt.mpr (Nat.le_add_left 1 i))
    have single {turn : TurnResult} (answered : (turns turnNumber).turn = .answered turn) (i : Nat) (at_ : TurnResult)
        (found : [turn][i]? = some at_) : (turns (turnNumber + i)).turn = .answered at_ := by
      cases i with
      | zero =>
        cases found
        exact answered
      | succ i => cases found
    let each (n : Nat) := workTurn py settings (turns n) n
    rcases @workTurn_cases py settings started calls ran (turns turnNumber) turnNumber run going with
      ⟨closed, stops⟩ | ⟨opens, -, stop, at_, raised⟩ | ⟨turn, opens, answered, ends⟩
    · have here : workTurn py settings (turns turnNumber) turnNumber calls run = (.ok isOver, after) :=
        (turnLoop_stops each stops.ended).symm.trans returns
      obtain ⟨decided, early⟩ := Stops.returned (here ▸ stops)
      refine ⟨[], fun i => iff_of_false (fun due => closed ?_) (Nat.not_lt_zero i), fun i turn found => ?_, ?_, fun reason => ?_⟩
      · rcases Nat.eq_zero_or_pos i with rfl | later
        · exact due.opens
        · obtain ⟨_, passes⟩ := due.passes (Nat.lt_add_of_pos_right later)
          exact passes.opens
      · cases found
      · rwa [List.append_nil]
      · exact absurd reason early
    · have stopped : (each turnNumber calls run).1 = .error stop := congrArg Prod.fst raised
      have here := (turnLoop_stops each (fun same => by cases stopped.symm.trans same)).symm.trans returns
      cases raised.symm.trans here
    · have due_later (later : Nat) (due : Due py settings started turns turnNumber (turnNumber + (later + 1))) :
          LeadsOn py turn (turns turnNumber) := by
        obtain ⟨_, passes⟩ := due.passes (Nat.lt_add_of_pos_right (Nat.succ_pos later))
        cases answered.symm.trans passes.answered
        exact passes.leads
      cases ends with
      | stops unled stops =>
        have here : workTurn py settings (turns turnNumber) turnNumber calls run = (.ok isOver, after) :=
          (turnLoop_stops each stops.ended).symm.trans returns
        obtain ⟨decided, early⟩ := Stops.returned (here ▸ stops)
        exact ⟨[turn], only turn opens fun later due => unled (due_later later due), single answered, decided,
          fun reason => absurd reason early⟩
      | last leads is_last ended decided reason in_progress =>
        have here := (turnLoop_stops each (fun same => by cases ended.symm.trans same)).symm.trans returns
        have same : workTurn py settings (turns turnNumber) turnNumber calls run = (.ok isOver, after) := here
        rw [same] at decided in_progress
        refine ⟨[turn], only turn opens fun later due => ?_, single answered, decided, fun _ => ⟨?_, in_progress⟩⟩
        · have := due.bound
          omega
        · rw [List.length_append, List.length_singleton, counted, is_last]
      | goes_on leads not_last ended going =>
        have here := (turnLoop_goes_on each ended).symm.trans returns
        obtain ⟨new, dues, answers, decided, reason⟩ := ih going (by rw [List.length_append, List.length_singleton, counted])
          (by omega) (by omega) here
        have passes : Passes py settings started (turns turnNumber) turn := ⟨opens, answered, leads⟩
        refine ⟨turn :: new, fun i => ?_, fun i at_ found => ?_, ?_, ?_⟩
        · cases i with
          | zero => exact iff_of_true (due_here.mpr opens) (Nat.succ_pos _)
          | succ i => rw [due_next passes, List.length_cons, Nat.add_lt_add_iff_right, ← dues i, Nat.add_right_comm, Nat.add_assoc]
        · cases i with
          | zero =>
            cases found
            exact answered
          | succ i =>
            rw [Nat.add_comm i 1, ← Nat.add_assoc]
            exact answers i at_ found
        · rwa [List.append_assoc] at decided
        · rwa [List.append_assoc] at reason

/-- What claude's call for turn `n` raises. -/
def interrupted (turns : Nat → TurnWorld) (n : Nat) (exception : Unexpected) : Nat → TurnWorld :=
  Function.update turns n { turns n with turn := .raised exception }

theorem interrupted_other {turns : Nat → TurnWorld} {n turnNumber : Nat} {exception : Unexpected} (other : turnNumber ≠ n) :
    interrupted turns n exception turnNumber = turns turnNumber := Function.update_of_ne other _ _

theorem interrupted_self {turns : Nat → TurnWorld} {n : Nat} {exception : Unexpected} :
    interrupted turns n exception n = { turns n with turn := .raised exception } := Function.update_self _ _ _

/-- No one result is each exception. -/
theorem not_each_raised {α : Type} {f : Unexpected → Except Abrupt α} (result : Except Abrupt α)
    (fixed : ∀ exception, f exception = result) : ¬ ∀ exception, f exception = .error (.raised exception) := by
  intro each
  have first := (fixed ⟨"OSError", ""⟩).symm.trans (each ⟨"OSError", ""⟩)
  have second := (fixed ⟨"ValueError", ""⟩).symm.trans (each ⟨"ValueError", ""⟩)
  simp [first] at second

/-- From turn `turnNumber` on, claude is called for turn `n` where `n` is due. -/
theorem turnLoop_starts {turns : Nat → TurnWorld} {remaining turnNumber n : Nat} {ran : List TurnResult} {run : SessionRun}
    (going : Undecided started ran run.state) (bound : turnNumber + remaining = settings.maxTurns + 1) (later : turnNumber ≤ n) :
    (∀ exception, (turnLoop (fun i => workTurn py settings (interrupted turns n exception i) i) remaining turnNumber calls run).1 =
        .error (.raised exception)) ↔
      Due py settings started turns turnNumber n := by
  induction remaining generalizing turnNumber ran run with
  | zero =>
    refine iff_of_false (not_each_raised _ fun _ => rfl) fun due => ?_
    have := due.bound
    omega
  | succ remaining ih =>
    let each (exception : Unexpected) (i : Nat) := workTurn py settings (interrupted turns n exception i) i
    rcases Nat.eq_or_lt_of_le later with rfl | later
    · have here (exception : Unexpected) : each exception turnNumber =
          workTurn py settings { turns turnNumber with turn := .raised exception } turnNumber := by
        show workTurn py settings (interrupted turns turnNumber exception turnNumber) turnNumber = _
        rw [interrupted_self]
      rw [due_self, and_iff_right (by omega)]
      by_cases opens : Opens settings started (turns turnNumber)
      · obtain ⟨at_, -, same⟩ := @workTurn_opens py settings started ran (turns turnNumber) turnNumber calls run going opens
        refine iff_of_true (fun exception => ?_) opens
        have raised : each exception turnNumber calls run = (.error (.raised exception), at_) := by
          rw [here, same, runTurn, opens.swept]
          rfl
        rw [turnLoop_stops (each exception) (by rw [raised]; exact fun same => by cases same), raised]
      · obtain ⟨out, same, stops⟩ := @workTurn_closed py settings started ran (turns turnNumber) turnNumber calls run going opens
        refine iff_of_false (not_each_raised out.1 fun exception => ?_) opens
        rw [turnLoop_stops (each exception) (by rw [here, same]; exact stops.ended), here, same]
    · have here (exception : Unexpected) : each exception turnNumber = workTurn py settings (turns turnNumber) turnNumber := by
        show workTurn py settings (interrupted turns n exception turnNumber) turnNumber = _
        rw [interrupted_other (Nat.ne_of_lt later)]
      have fixed (stops : (workTurn py settings (turns turnNumber) turnNumber calls run).1 ≠ .ok false) :
          ¬ ∀ exception, (turnLoop (each exception) (remaining + 1) turnNumber calls run).1 = .error (.raised exception) := by
        refine not_each_raised (workTurn py settings (turns turnNumber) turnNumber calls run).1 fun exception => ?_
        rw [turnLoop_stops (each exception) (by rwa [here]), here]
      rcases @workTurn_cases py settings started calls ran (turns turnNumber) turnNumber run going with
        ⟨closed, stops⟩ | ⟨opens, unanswered, stop, at_, raised⟩ | ⟨turn, opens, answered, ends⟩
      · refine iff_of_false (fixed stops.ended) fun due => ?_
        obtain ⟨_, passes⟩ := due.passes later
        exact closed passes.opens
      · refine iff_of_false (fixed fun same => by cases (congrArg Prod.fst raised).symm.trans same) fun due => ?_
        obtain ⟨turn, passes⟩ := due.passes later
        exact unanswered turn passes.answered
      · have leads_of (due : Due py settings started turns turnNumber n) : LeadsOn py turn (turns turnNumber) := by
          obtain ⟨_, passes⟩ := due.passes later
          cases answered.symm.trans passes.answered
          exact passes.leads
        cases ends with
        | stops unled stops => exact iff_of_false (fixed stops.ended) fun due => unled (leads_of due)
        | last leads is_last ended decided reason in_progress =>
          refine iff_of_false (fixed fun same => by cases ended.symm.trans same) fun due => ?_
          have := due.bound
          omega
        | goes_on leads not_last ended going =>
          rw [due_next ⟨opens, answered, leads⟩, ← ih going (by omega) later]
          refine forall_congr' fun exception => ?_
          rw [turnLoop_goes_on (each exception) (by rwa [here]), here]

/-- No turn before `turnNumber` is started from there on. -/
theorem turnLoop_ignores {turns : Nat → TurnWorld} {remaining turnNumber n : Nat} {exception : Unexpected} (earlier : n < turnNumber) :
    turnLoop (fun i => workTurn py settings (interrupted turns n exception i) i) remaining turnNumber =
      turnLoop (fun i => workTurn py settings (turns i) i) remaining turnNumber := by
  induction remaining generalizing turnNumber with
  | zero => rfl
  | succ remaining ih =>
    rw [turnLoop, turnLoop, interrupted_other (Nat.ne_of_gt earlier), ih (Nat.lt_succ_of_lt earlier)]

end Loop

section Run

variable (py : Py) (settings : AgentSettings) (w : WorkWorld) (start : SessionRun)

/-- Claude is called for turn `n`: what that call raises is how the loop stops. -/
def Starts (n : Nat) : Prop :=
  ∀ exception, ((workLoop py settings { w with turns := interrupted w.turns n exception }).outcome start).1 =
    .error (.raised exception)

/-- A run that has only just begun. -/
structure Fresh (run : SessionRun) : Prop where
  turns : run.state.turns = 0
  inputTokens : run.state.inputTokens = 0
  outputTokens : run.state.outputTokens = 0
  costUsd : run.state.costUsd = 0
  outcome : run.state.outcome = .succeeded
  stopReason : run.state.stopReason = none
  errorCategory : run.state.errorCategory = none

variable {py settings w start} {n : Nat}

theorem Fresh.undecided (fresh : Fresh start) : Undecided start.state.started [] start.state where
  turns := fresh.turns
  inputTokens := fresh.inputTokens
  outputTokens := fresh.outputTokens
  costUsd := fresh.costUsd
  started := rfl
  outcome := fresh.outcome
  stopReason := fresh.stopReason
  errorCategory := fresh.errorCategory

/-- Where what the loop asks before its turns is not answered, it starts none. -/
theorem workLoop_unbegun (fresh : Fresh start) (unanswered : ¬ (w.login = .answered () ∧ w.repository = .answered ())) :
    ∃ out, (∀ turns, (workLoop py settings { w with turns }).outcome start = out) ∧ Stops [] out := by
  have tally := fresh.undecided.toTurnTally
  obtain ⟨path, workspace, beforeRun, renderer, firstSaved, instructions, login, repository, turns, afterRun, lastSaved⟩ := w
  cases login with
  | raised exception => exact ⟨_, fun turns => rfl, .raised⟩
  | cancelled => exact ⟨_, fun turns => rfl, .raised⟩
  | refused error => exact ⟨_, fun turns => rfl, .failed tally⟩
  | answered =>
    cases repository with
    | raised exception => exact ⟨_, fun turns => rfl, .raised⟩
    | cancelled => exact ⟨_, fun turns => rfl, .raised⟩
    | refused error => exact ⟨_, fun turns => rfl, .failed tally⟩
    | answered => exact absurd ⟨rfl, rfl⟩ unanswered

/-- Once they are answered, the loop is its turns. -/
theorem workLoop_turns (login : w.login = .answered ()) (repository : w.repository = .answered ()) :
    (workLoop py settings w).outcome start =
      (turnLoop (fun n => workTurn py settings (w.turns n) n) settings.maxTurns 1).outcome start := by
  rw [workLoop, login, repository]
  rfl

/-- The turns that are started. -/
theorem starts_iff (fresh : Fresh start) :
    Starts py settings w start n ↔ (w.login = .answered () ∧ w.repository = .answered ()) ∧ 1 ≤ n ∧
      Due py settings start.state.started w.turns 1 n := by
  by_cases answered : w.login = .answered () ∧ w.repository = .answered ()
  · rw [and_iff_right answered, Starts]
    have loop (exception : Unexpected) := @workLoop_turns py settings { w with turns := interrupted w.turns n exception } start
      answered.1 answered.2
    simp only [loop]
    by_cases first : 1 ≤ n
    · rw [and_iff_right first]
      exact turnLoop_starts fresh.undecided (Nat.add_comm 1 _) first
    · have ignored (exception : Unexpected) :=
        @turnLoop_ignores py settings w.turns settings.maxTurns 1 n exception (Nat.not_le.mp first)
      exact iff_of_false (not_each_raised _ fun exception => by rw [ignored]) fun due => first due.1
  · obtain ⟨out, same, -⟩ := @workLoop_unbegun py settings w start fresh answered
    exact iff_of_false (not_each_raised out.1 fun exception => by rw [same]) fun due => answered due.1

/-- The loop and its turns. A turn is started within the deadline, and only where each before it was
answered and led on. A loop that returns is decided, has run the turns that were started and counted
these, and stops for the number of its turns only where so many ran and the issue is in progress. -/
theorem workLoop_consistent (fresh : Fresh start) (some_turn : 0 < settings.maxTurns) :
    (∀ n, Starts py settings w start n →
      1 ≤ n ∧ n ≤ settings.maxTurns ∧ (w.turns n).clock < start.state.started + settings.runTimeoutMs * 1000 ∧
      ∀ i, 1 ≤ i → i < n → ∃ turn, (w.turns i).turn = .answered turn ∧ LeadsOn py turn (w.turns i)) ∧
    ∀ isOver after, (workLoop py settings w).outcome start = (.ok isOver, after) →
      ∃ ran : List TurnResult, ran.length ≤ settings.maxTurns ∧
        (∀ n, Starts py settings w start n ↔ 1 ≤ n ∧ n ≤ ran.length) ∧
        (∀ i turn, ran[i]? = some turn → (w.turns (i + 1)).turn = .answered turn) ∧
        Decided ran after.state ∧
        (after.state.stopReason = some .maxTurns → ran.length = settings.maxTurns ∧
          after.state.issue.state = some .inProgress ∧ after.state.issue.dispatchable = true) := by
  constructor
  · intro n starts
    obtain ⟨-, first, due⟩ := (starts_iff fresh).mp starts
    refine ⟨first, due.bound, due.opens.clock, fun i le lt => ?_⟩
    obtain ⟨turn, passes⟩ := due.before i le lt
    exact ⟨turn, passes.answered, passes.leads⟩
  · intro isOver after returns
    by_cases answered : w.login = .answered () ∧ w.repository = .answered ()
    · rw [workLoop_turns answered.1 answered.2] at returns
      obtain ⟨ran, dues, answers, decided, reason⟩ :=
        @turnLoop_ok py settings _ _ w.turns _ 1 [] _ _ _ fresh.undecided rfl (Nat.add_comm 1 _) some_turn returns
      have starts (n : Nat) : Starts py settings w start n ↔ 1 ≤ n ∧ n ≤ ran.length := by
        rw [starts_iff fresh, and_iff_right answered]
        refine and_congr_right fun first => ?_
        obtain ⟨i, rfl⟩ := Nat.exists_eq_add_of_le first
        rw [dues i]
        omega
      refine ⟨ran, ?_, starts, fun i turn found => ?_, decided, reason⟩
      · rcases Nat.eq_zero_or_pos ran.length with none_ran | some_ran
        · omega
        · exact ((starts_iff fresh).mp ((starts ran.length).mpr ⟨some_ran, le_rfl⟩)).2.2.bound
      · rw [Nat.add_comm]
        exact answers i turn found
    · obtain ⟨out, same, stops⟩ := @workLoop_unbegun py settings w start fresh answered
      obtain ⟨decided, early⟩ := Stops.returned ((same w.turns).symm.trans returns ▸ stops)
      refine ⟨[], Nat.zero_le _, fun n => ?_, fun i turn found => ?_, decided, fun reason => absurd reason early⟩
      · refine iff_of_false (fun starts => answered ((starts_iff fresh).mp starts).1) fun within => ?_
        exact Nat.not_succ_le_zero 0 (within.1.trans within.2)
      · cases found

end Run

/-- An issue as a session's run begins. -/
def claimedIssue : Issue where
  number := 8
  title := "Fix"
  body := none
  author := none
  githubState := .opened
  state := some .inProgress
  stateLabels := ["issuebot/in-progress"]
  labels := ["issuebot/in-progress"]
  createdAt := 0
  updatedAt := 0
  dispatchable := true

def claimedRun : SessionRun where
  state := { runId := "r1", sessionId := "s1", attempt := 1, issue := claimedIssue, started := 0 }

/-- Two turns, after which the issue is gone. -/
theorem workLoop_consistent_two : ∃ isOver after, ∃ ran : List TurnResult,
    (workLoop Py.ascii plainAgent (twoTurns claimedIssue (.answered plainTurn))).outcome claimedRun = (.ok isOver, after) ∧
    ran.length ≤ 3 ∧ Decided ran after.state := by
  obtain ⟨-, returned⟩ := @workLoop_consistent Py.ascii plainAgent (twoTurns claimedIssue (.answered plainTurn)) claimedRun
    ⟨rfl, rfl, rfl, rfl, rfl, rfl, rfl⟩ (by decide)
  obtain ⟨ran, bound, -, -, decided, -⟩ := returned true _ rfl
  exact ⟨true, _, ran, rfl, bound, decided⟩

end Issuebot
