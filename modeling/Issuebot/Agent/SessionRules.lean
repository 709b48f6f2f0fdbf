import Issuebot.Agent.TriageSession

/-!
# What a session keeps until it is over

A run that goes on has the outcome `succeeded`, has cost nothing before its first turn, and
has written no record that says how it ended. Every part of a session keeps that until it
answers that the run is over, whatever its calls bring back, and also where it stops before
its end.
-/

namespace Issuebot
set_option autoImplicit false
open Logic
open Remote (Triple)

variable {α β ε : Type}

/-- No cost without a turn. -/
def Unspent (run : SessionRun) : Prop := run.state.turns = 0 → run.state.costUsd = 0

/-- A run whose end no record has. -/
structure Unsettled (run : SessionRun) : Prop where
  unspent : Unspent run
  undecided : ∀ record, run.record = some record → record.lastOutcome = none

/-- A run that is not over. -/
structure Going (run : SessionRun) : Prop extends Unsettled run where
  outcome : run.state.outcome = .succeeded

/-- A program within which the run goes on. -/
def Within (x : Session α) : Prop := ∀ calls, Triple calls Going x (fun _ => Going) fun _ => Going

/-- A part of a session. It answers whether the run is over. -/
def Part (x : Session Bool) : Prop :=
  ∀ calls, Triple calls Going x (fun isOver run => Unsettled run ∧ (isOver = false → run.state.outcome = .succeeded)) fun _ => Going

namespace Within

theorem pure {a : α} : Within (pure a) := fun _ => .pure fun _ h => h

theorem raise {stop : Abrupt} : Within (Remote.raise stop : Session α) := fun _ => .raise fun _ h => h

theorem get : Within (Remote.get : Session SessionRun) := fun _ => .get fun _ h => h

theorem bind {x : Session α} {f : α → Session β} (first : Within x) (rest : ∀ a, Within (f a)) : Within (x >>= f) :=
  fun calls => (first calls).bind fun a => rest a calls

theorem ite {c : Prop} [Decidable c] {x y : Session α} (yes : Within x) (no : Within y) : Within (if c then x else y) := by
  split
  · exact yes
  · exact no

theorem reply {answer : Reply ε α} : Within (reply answer) := by
  cases answer with
  | answered answer => exact pure
  | refused error => exact pure
  | raised exception => exact raise
  | cancelled => exact raise

theorem plain {answer : Reply Empty α} : Within (plain answer) := by
  cases answer with
  | answered answer => exact pure
  | refused error => exact error.elim
  | raised exception => exact raise
  | cancelled => exact raise

/-- A change beside the figures and the outcome. -/
theorem change {f : RunState → RunState} (turns : ∀ state, (f state).turns = state.turns)
    (costUsd : ∀ state, (f state).costUsd = state.costUsd) (outcome : ∀ state, (f state).outcome = state.outcome) :
    Within (changeState f) := by
  refine fun _ => .modify fun run going => ⟨⟨fun none => ?_, going.undecided⟩, ?_⟩
  · rw [costUsd]
    exact going.unspent ((turns _).symm.trans none)
  · rw [outcome, going.outcome]

theorem recordTurn {turn : TurnResult} : Within (changeState fun state => state.recordTurn turn) :=
  fun _ => .modify fun _ going => ⟨⟨fun none => absurd none (Nat.succ_ne_zero _), going.undecided⟩, going.outcome⟩

/-- A record of a run that goes on does not say how it ended. -/
theorem save {turnNumber : Nat} {written : Bool} : Within (save turnNumber none written) := by
  refine fun _ => .when (fun _ => .modify fun _ going => ?_) fun _ _ going => going
  refine ⟨⟨going.unspent, fun record written => ?_⟩, going.outcome⟩
  cases written
  rfl

end Within

namespace Part

theorem answer {isOver : Bool} : Part (pure isOver) := fun _ => .pure fun _ going => ⟨going.toUnsettled, fun _ => going.outcome⟩

theorem bind {x : Session α} {f : α → Session Bool} (first : Within x) (rest : ∀ a, Part (f a)) : Part (x >>= f) :=
  fun calls => (first calls).bind fun a => rest a calls

theorem ite {c : Prop} [Decidable c] {x y : Session Bool} (yes : Part x) (no : Part y) : Part (if c then x else y) := by
  split
  · exact yes
  · exact no

/-- What follows a part where the run is not over. -/
theorem goOn {x y : Session Bool} (first : Part x) (rest : Part y) : Part (do if ← x then return true else y) := by
  refine fun calls => (first calls).bind fun isOver => ?_
  cases isOver with
  | true => exact .pure fun _ held => ⟨held.1, nofun⟩
  | false => exact (rest calls).before fun _ held => ⟨held.1, held.2 rfl⟩

/-- The end of a run, once it is settled. -/
theorem settled {f : RunState → RunState} (turns : ∀ state, (f state).turns = state.turns)
    (costUsd : ∀ state, (f state).costUsd = state.costUsd) : Part (do changeState f; return true) := by
  refine fun _ => .bind (Q := fun _ => Unsettled) (.modify fun _ going => ⟨fun none => ?_, going.undecided⟩) fun _ =>
    .pure fun _ unsettled => ⟨unsettled, nofun⟩
  rw [costUsd]
  exact going.unspent ((turns _).symm.trans none)

theorem failed {category : AgentErrorCategory} {message : Option String} : Part (failed category message) :=
  settled (fun _ => rfl) fun _ => rfl

theorem stopped {reason : StopReason} : Part (stopped reason) := settled (fun _ => rfl) fun _ => rfl

theorem pastDeadline {runTimeoutMs turnNumber : Nat} {clock : Datetime} : Part (pastDeadline runTimeoutMs clock turnNumber) :=
  bind .get fun _ => ite answer failed

theorem failsOn {turn : TurnResult} : Part (failsOn turn) := by
  unfold Issuebot.failsOn
  split
  · exact answer
  · exact ite answer (bind (.change (fun _ => rfl) (fun _ => rfl) fun _ => rfl) fun _ => failed)

theorem cancelledBetween {cancel : Bool} : Part (cancelledBetween cancel) := ite failed answer

theorem turnLoop {turn : Nat → Session Bool} (each : ∀ turnNumber, Part (turn turnNumber)) {remaining turnNumber : Nat} :
    Part (turnLoop turn remaining turnNumber) := by
  induction remaining generalizing turnNumber with
  | zero => exact answer
  | succ remaining ih => exact goOn (each turnNumber) ih

end Part

section Work

variable {py : Py} {settings : AgentSettings} {turnNumber : Nat}

theorem afterTurn_part {turn : TurnResult} {w : TurnWorld} : Part (afterTurn py settings turnNumber turn w) := by
  refine .bind .reply fun answer => ?_
  split
  · exact .failed
  · exact .stopped
  · refine .bind (.change (fun _ => rfl) (fun _ => rfl) fun _ => rfl) fun _ => .ite .stopped ?_
    split
    · exact .bind (.change (fun _ => rfl) (fun _ => rfl) fun _ => rfl) fun _ => .stopped
    · exact .ite .stopped .answer

theorem runTurn_part {w : TurnWorld} : Part (runTurn py settings turnNumber w) :=
  .bind .plain fun _ => .bind .plain fun _ => .bind .recordTurn fun _ => .bind .save fun _ =>
    .goOn .failsOn (.goOn .cancelledBetween afterTurn_part)

theorem workTurn_part {w : TurnWorld} : Part (workTurn py settings w turnNumber) := by
  refine .goOn .pastDeadline (.bind .reply fun workpad => ?_)
  cases workpad with
  | error error => exact .failed
  | ok workpad =>
    refine .bind (.change (fun _ => rfl) (fun _ => rfl) fun _ => rfl) fun _ => .bind .reply fun prompt => ?_
    cases prompt with
    | error error => exact .failed
    | ok => exact runTurn_part

theorem workLoop_part {w : WorkWorld} : Part (workLoop py settings w) := by
  refine .bind .reply fun login => ?_
  cases login with
  | error error => exact .failed
  | ok =>
    refine .bind .reply fun repository => ?_
    cases repository with
    | error error => exact .failed
    | ok => exact .turnLoop fun _ => workTurn_part

theorem workBody_part {w : WorkWorld} : Part (workBody py settings w) := by
  refine .bind .plain fun hook => ?_
  split
  · exact .failed
  · refine .bind .reply fun renderer => ?_
    cases renderer with
    | error error => exact .failed
    | ok => exact .bind .save fun _ => .bind .plain fun _ => workLoop_part

/-- How a workspace is left changes the record only. -/
theorem leaveWorkspace_unspent {w : WorkWorld} {calls : Empty → Fate Abrupt} :
    Triple calls Unspent (leaveWorkspace w) (fun _ => Unspent) fun _ => Unspent := by
  have hook : Triple calls Unspent (plain w.afterRun) (fun _ => Unspent) fun _ => Unspent := by
    cases w.afterRun with
    | answered => exact .pure fun _ h => h
    | refused error => exact error.elim
    | raised => exact .raise fun _ h => h
    | cancelled => exact .raise fun _ h => h
  refine hook.bind fun _ => .bind (.get (Q := fun _ => Unspent) fun _ h => h) fun run => ?_
  exact .when (fun _ => .modify fun _ h => h) fun _ _ h => h

end Work

section Triage

variable {settings : AgentSettings}

theorem triageTurnAt_part {w : TriageTurnWorld} {turnNumber : Nat} : Part (triageTurnAt settings w turnNumber) := by
  refine .goOn .pastDeadline (.bind .reply fun prompt => ?_)
  cases prompt with
  | error error => exact .failed
  | ok =>
    exact .bind .plain fun _ => .bind .plain fun _ => .bind .recordTurn fun _ =>
      .goOn .failsOn (.ite .stopped .cancelledBetween)

theorem readThenTriage_part {kind : RunKind} {w : TriageSessionWorld} : Part (readThenTriage settings kind w) := by
  refine .bind .reply fun comments => ?_
  cases comments with
  | error error => exact .failed
  | ok =>
    refine .bind (Within.ite .reply .pure) fun steps => ?_
    cases steps with
    | error error => exact .failed
    | ok =>
      refine .bind .reply fun login => ?_
      cases login with
      | error error => exact .failed
      | ok =>
        refine .bind .reply fun repository => ?_
        cases repository with
        | error error => exact .failed
        | ok => exact .goOn (.turnLoop fun _ => triageTurnAt_part) .stopped

end Triage

section Whole

variable {py : Py} {settings : AgentSettings} {calls : Empty → Fate Abrupt}

/-- What follows within a run. -/
theorem Within.unspent {x : Session α} {f : α → Session β} (first : Within x)
    (rest : ∀ a, Triple calls Going (f a) (fun _ => Unspent) fun _ => Unspent) :
    Triple calls Going (x >>= f) (fun _ => Unspent) fun _ => Unspent :=
  ((first calls).conseq (fun _ h => h) (fun _ _ h => h) fun _ _ going => going.unspent).bind rest

/-- A part whose answer is left. -/
theorem Part.run {x : Session Bool} (part : Part x) :
    Triple calls Going (do let _ ← x) (fun _ => Unspent) fun _ => Unspent :=
  ((part calls).conseq (fun _ h => h) (fun _ _ held => held.1.unspent) fun _ _ going => going.unspent).bind fun _ =>
    .pure fun _ h => h

theorem executeWork_unspent {w : WorkWorld} :
    Triple calls Going (executeWork py settings w) (fun _ => Unspent) fun _ => Unspent := by
  refine Within.reply.unspent fun workspace => ?_
  cases workspace with
  | error error => exact Part.failed.run
  | ok path =>
    have logged : Within (changeState fun state => { state with logDir := some (path ++ "/.issuebot/runs/" ++ state.runId) }) :=
      .change (fun _ => rfl) (fun _ => rfl) fun _ => rfl
    refine logged.unspent fun _ => ?_
    refine .bind (Q := fun _ => Unspent) ?_ fun _ => .pure fun _ h => h
    have body : Triple calls Going (workBody py settings w) (fun _ => Unspent) fun _ => Unspent :=
      (workBody_part calls).conseq (fun _ h => h) (fun _ _ held => held.1.unspent) fun _ _ going => going.unspent
    exact Triple.lastly (T := fun _ => Unspent) body fun _ => leaveWorkspace_unspent

theorem executeTriage_unspent {kind : RunKind} {w : TriageSessionWorld} :
    Triple calls Going (executeTriage settings kind w) (fun _ => Unspent) fun _ => Unspent := by
  refine Within.reply.unspent fun workspace => ?_
  cases workspace with
  | error error => exact Part.failed.run
  | ok path =>
    have logged : Within (changeState fun state => { state with logDir := some (path ++ "/.issuebot/runs/" ++ state.runId) }) :=
      .change (fun _ => rfl) (fun _ => rfl) fun _ => rfl
    refine logged.unspent fun _ => Within.reply.unspent fun renderer => ?_
    cases renderer with
    | error error => exact Part.failed.run
    | ok => exact Within.plain.unspent fun _ => readThenTriage_part.run

end Whole

end Issuebot
