import Mathlib.Algebra.Group.Action.Defs
import Issuebot.Orchestrator.Budget

/-!
# What the end of a work run adds to the chain

A stop is recorded on the entry of a run whose session may have ended already and only waits
in the queue, and the exit tests the stop before the result. `expectedFailures` is what a run
deserves, by the stop that was recorded when its session ended; `chargedFailures` is what its
exit counts. They differ in one case (`LateStall`): a tick found the run stale after its
session had ended in a way that is no failure of the issue's.
-/

namespace Issuebot
set_option autoImplicit false
open Logic
open Remote (Adds)

/-- A session's result that is a failure of its issue's. The account's limits are not, and a
spent wall clock hands the issue over at once. -/
def RunResult.answeredFor (result : RunResult) : Bool :=
  result.outcome ≠ .succeeded && result.errorCategory ≠ some .authFailed &&
    result.errorCategory ≠ some .usageLimited &&
    ¬ (result.errorCategory = some .runTimeout ∧ result.finalState = some .inProgress)

/-- The failures of a run's own end. -/
def RunEnd.ownFailures : RunEnd → Nat
  | .cancelled => 0
  | .crashed _ => 1
  | .returned result => if result.answeredFor then 1 else 0

namespace Orchestrator

section Figures

variable (entry : RunningEntry) (ending : RunEnd)

/-- Its issue was moved, closed or lost, or its task was cancelled. -/
def released : Bool :=
  entry.terminalIssue.isSome || entry.stopCause.any StopCause.releases || ending = .cancelled

/-- The failures a run deserves. -/
def expectedFailures : Nat :=
  if released entry ending then 0
  else if entry.stopAtEnd = some .stalled then 1
  else ending.ownFailures

/-- The failures its exit counts. -/
def chargedFailures : Nat :=
  if released entry ending then 0
  else if entry.stopCause = some .stalled then 1
  else ending.ownFailures

/-- A stall was recorded after a session's end that is no failure of the issue's. -/
def LateStall : Prop :=
  released entry ending = false ∧ entry.stopCause = some .stalled ∧ entry.stopAtEnd ≠ some .stalled ∧
    ending.ownFailures = 0

variable {entry ending}

theorem ownFailures_le : ending.ownFailures ≤ 1 := by
  cases ending with
  | cancelled => exact Nat.zero_le 1
  | crashed => exact Nat.le_refl 1
  | returned result => cases answers : result.answeredFor <;> simp [RunEnd.ownFailures, answers]

/-- The exit counts what the run deserves, but for a late stall. -/
theorem charged_eq_expected_iff (kept : entry.stopAtEnd.isSome → entry.stopCause = entry.stopAtEnd) :
    chargedFailures entry ending = expectedFailures entry ending ↔ ¬ LateStall entry ending := by
  unfold chargedFailures expectedFailures LateStall
  cases release : released entry ending with
  | true => simp
  | false =>
    simp only [Bool.false_eq_true, if_false, true_and]
    by_cases early : entry.stopAtEnd = some .stalled
    · have stopped : entry.stopCause = some .stalled := by rw [kept (by rw [early]; rfl), early]
      simp [early, stopped]
    · rw [if_neg early]
      by_cases late : entry.stopCause = some .stalled
      · have own_le : ending.ownFailures ≤ 1 := ownFailures_le
        rw [if_pos late]
        constructor
        · rintro counted ⟨-, -, none⟩
          omega
        · intro counts
          have counted : ending.ownFailures ≠ 0 := fun none => counts ⟨late, early, none⟩
          omega
      · simp [late]

end Figures

section Booked

variable {α M : Type} [AddMonoid M] {number : Nat} {figure : Orchestrator → M} {k : M}

/-- A figure that moves by `k` where a failure of the issue is counted, and where nothing is
booked or its chain is over by nothing. -/
structure Booked (number : Nat) (figure : Orchestrator → M) (k : M) : Prop where
  aside : ∀ o o', Aside o o' → figure o' = figure o
  retries : ∀ o retries, figure { o with retries } = figure o
  counted : ∀ o, figure { o with ledger := o.ledger.failed number, history := o.history ++ [.counted number] } = figure o + k
  cleared : ∀ o, figure { o with ledger := o.ledger.cleared number, history := o.history ++ [.cleared number] } = figure o

theorem Booked.quiet {x : Pass α} (booked : Booked number figure k) (quiet : Quiet x) : Adds figure x 0 :=
  quiet.adds booked.aside

theorem Booked.queueRetry {entry : RetryEntry} (booked : Booked number figure k) : Adds figure (queueRetry entry) 0 :=
  .modify fun o => (booked.retries o _).trans (add_zero _).symm

end Booked

section Exit

variable {M : Type} [AddMonoid M] {figure : Orchestrator → M} {k : M}
variable {py : Py} {settings : Settings py} {number : Nat} {entry : RunningEntry} {ending : RunEnd} {w : World}

theorem recordEscape_books {outcome : EscapeOutcome} (booked : Booked number figure k) :
    Adds figure (recordEscape number outcome) 0 := by
  refine .when (.modify fun o => ?_)
  have marked : Aside { o with ledger := o.ledger.cleared number, history := o.history ++ [.cleared number] }
      { o with
        ledger := (o.ledger.cleared number).markEscaped number
        history := o.history ++ [.cleared number] } := aside_mark (fun _ => rfl) (fun _ => rfl) fun _ => rfl
  rw [booked.aside _ _ marked, booked.cleared, add_zero]

theorem escape_books {reason : String} {result : Option RunResult} (booked : Booked entry.issue.number figure k) :
    Adds figure (escape settings entry reason result w) 0 := by
  refine (booked.quiet .await).first fun outcome => (recordEscape_books booked).first fun _ => ?_
  cases outcome with
  | applied => exact booked.quiet .bumpBlocked
  | failed => exact booked.queueRetry
  | skipped => exact .pure

/-- A failure is counted once, also where the chain is at its ceiling. -/
theorem afterFailure_books {error : String} {result : Option RunResult} (booked : Booked entry.issue.number figure k) :
    Adds figure (afterFailure settings entry error result w) k := by
  have counted : Adds figure (book (.counted entry.issue.number) fun ledger => ledger.failed entry.issue.number) k :=
    .modify booked.counted
  refine counted.last fun _ => (booked.quiet .get).first fun o => ?_
  dsimp only
  split
  · exact escape_books booked
  · exact booked.queueRetry

/-- A finish moves what the issue's forgetting moves: nothing. -/
theorem finish_books {issue : Issue} (booked : Booked number figure k)
    (forgotten : ∀ o, figure { o with
      ledger := o.ledger.forget issue.number
      history := o.history ++ [.finished issue.number] } = figure o) : Adds figure (finish issue w) 0 := by
  refine (booked.quiet .await).first fun outcome => (booked.quiet .onIssue).first fun _ => ?_
  refine Adds.first (.when (.modify fun o => (forgotten o).trans (add_zero _).symm)) fun _ => ?_
  refine Adds.first (booked.quiet (.when (.bump ?_ ?_))) fun _ => booked.quiet (.when (.bump ?_ ?_))
  all_goals exact fun _ => rfl

theorem workSucceeded_books {result : RunResult} (booked : Booked entry.issue.number figure k) :
    Adds figure (workSucceeded settings entry result w) 0 := by
  unfold workSucceeded
  split
  · exact escape_books booked
  · split
    · exact escape_books booked
    · have cleared : Adds figure (book (.cleared entry.issue.number) fun ledger => ledger.cleared entry.issue.number) 0 :=
        .modify fun o => (booked.cleared o).trans (add_zero _).symm
      exact cleared.first fun _ => (booked.quiet .get).first fun _ => booked.queueRetry

/-- A run that failed counts one failure where the issue answers for it. -/
theorem workFailed_books {result : RunResult} (booked : Booked entry.issue.number figure k) (failed : result.outcome ≠ .succeeded) :
    Adds figure (workFailed settings entry result w) ((if result.answeredFor then 1 else 0) • k) := by
  unfold workFailed RunResult.answeredFor
  split
  next auth =>
    rw [if_neg (by simp [auth]), zero_nsmul]
    exact (booked.quiet holdForAuthFailure_quiet).first fun _ => escape_books booked
  next not_auth =>
    split
    next usage =>
      rw [if_neg (by simp [usage]), zero_nsmul]
      exact (booked.quiet holdForUsageLimit_quiet).first fun _ => (booked.quiet .get).first fun _ => booked.queueRetry
    next not_usage =>
      split
      next timeout =>
        rw [if_neg (by simp [timeout]), zero_nsmul]
        exact escape_books booked
      next not_timeout =>
        rw [if_pos (by simp [failed, not_auth, not_usage, not_timeout]), one_nsmul]
        exact afterFailure_books booked

/-- What the end of a work run moves: `k` for each failure it counts. -/
theorem workExit_books (booked : Booked entry.issue.number figure k)
    (forgotten : ∀ issue, entry.terminalIssue = some issue → ∀ o, figure { o with
      ledger := o.ledger.forget issue.number
      history := o.history ++ [.finished issue.number] } = figure o) :
    Adds figure (workExit settings entry ending w) (chargedFailures entry ending • k) := by
  unfold workExit chargedFailures released
  split
  next issue terminal =>
    rw [terminal, if_pos (by simp), zero_nsmul]
    exact finish_books booked (forgotten issue terminal)
  next open_issue =>
    split
    next release =>
      rw [if_pos (by simp [release]), zero_nsmul]
      exact .pure
    next stays =>
      cases ending with
      | cancelled =>
        rw [if_pos (by simp), zero_nsmul]
        exact .pure
      | crashed error =>
        rw [if_neg (by simp [open_issue, stays]), RunEnd.ownFailures, ite_self, one_nsmul]
        exact afterFailure_books booked
      | returned result =>
        rw [if_neg (by simp [open_issue, stays])]
        dsimp only
        split
        · rw [one_nsmul]
          exact afterFailure_books booked
        · split
          next succeeded =>
            rw [RunEnd.ownFailures, if_neg (by simp [RunResult.answeredFor, succeeded]), zero_nsmul]
            exact workSucceeded_books booked
          next failed => exact workFailed_books booked failed

/-- The exit of a run whose session has ended: its entry leaves, and its end is settled. -/
theorem handleWorkerExit_after {exit : ExitWorld} {o : Orchestrator} (found : o.running.lookup number = some entry)
    (done : entry.task = some ending) :
    Pass.after (handleWorkerExit settings number exit) o =
      Pass.after (settleExit settings number entry ending exit) (Pass.after (popRunning number entry) o) := by
  have whole : handleWorkerExit settings number exit Empty.elim o =
      (popRunning number entry >>= fun _ => settleExit settings number entry ending exit) Empty.elim o := by
    simp only [handleWorkerExit, Bind.bind, Remote.get, found, done]
  rw [← Pass.after_bind, Pass.after_eq Empty.elim, Pass.after_eq Empty.elim]
  exact congrArg Prod.snd whole

/-- The failures the history has of an issue. -/
def failuresCounted (number : Nat) (o : Orchestrator) : Nat := o.history.countP (countsFailure number)

theorem failuresCounted_booked : Booked number (failuresCounted number) 1 where
  aside o o' aside := by simp only [failuresCounted, aside.history]
  retries _ _ := rfl
  counted o := by simp [failuresCounted, countsFailure]
  cleared o := by simp [failuresCounted, countsFailure]

/-- A work run's exit counts by its entry and its end. -/
theorem handleWorkerExit_counts {exit : ExitWorld} {o : Orchestrator} (found : o.running.lookup number = some entry)
    (work : entry.kind = .work) (done : entry.task = some ending) (here : entry.issue.number = number) :
    failuresCounted number (Pass.after (handleWorkerExit settings number exit) o) =
      failuresCounted number o + chargedFailures entry ending := by
  have popped : Adds (failuresCounted number) (popRunning number entry) 0 :=
    .modify fun o => by simp [failuresCounted, countsFailure]
  have charged : Adds (failuresCounted number) (charge entry.issue.number ending) 0 := by
    cases ending with
    | cancelled => exact .pure
    | crashed => exact .pure
    | returned result => exact .modify fun o => by simp [failuresCounted, countsFailure]
  have counted : Adds (failuresCounted number) (workExit settings entry ending exit.world) (chargedFailures entry ending) := by
    have booked : Booked entry.issue.number (failuresCounted number) 1 := here ▸ failuresCounted_booked
    have books : Adds (failuresCounted number) (workExit settings entry ending exit.world) (chargedFailures entry ending • 1) :=
      workExit_books booked fun issue _ o => by simp [failuresCounted, countsFailure]
    rwa [smul_eq_mul, Nat.mul_one] at books
  have settled : Adds (failuresCounted number) (settleExit settings number entry ending exit) (chargedFailures entry ending) := by
    refine charged.first fun _ => ?_
    rw [if_pos work]
    exact counted
  rw [handleWorkerExit_after found done, figure_after settled, figure_after popped, Nat.add_zero]

end Exit

section Main

variable {py : Py} {settings : Settings py}

/-- The chain is charged at a work run's exit as the run deserves. -/
structure ChargedRightly (settings : Settings py) (number : Nat) (entry : RunningEntry) (ending : RunEnd)
    (exit : ExitWorld) (o : Orchestrator) : Prop where
  failures : failuresCounted number (Pass.after (handleWorkerExit settings number exit) o) =
    failuresCounted number o + expectedFailures entry ending
  /-- A session that had succeeded before a stall was recorded goes on as a success. -/
  succeeded : ∀ result, ending = .returned result → result.outcome = .succeeded → released entry ending = false →
    entry.stopAtEnd ≠ some .stalled →
      Pass.after (handleWorkerExit settings number exit) o =
        Pass.after (workSucceeded settings entry result exit.world)
          (Pass.after (charge entry.issue.number ending) (Pass.after (popRunning number entry) o))

variable {number : Nat} {entry : RunningEntry} {ending : RunEnd} {exit : ExitWorld} {o : Orchestrator}

/-- A success that no stop was recorded on. -/
theorem success_goes_on {result : RunResult} (found : o.running.lookup number = some entry) (work : entry.kind = .work)
    (done : entry.task = some (.returned result)) (success : result.outcome = .succeeded)
    (stays : released entry (.returned result) = false) (no_stall : entry.stopCause ≠ some .stalled) :
    Pass.after (handleWorkerExit settings number exit) o =
      Pass.after (workSucceeded settings entry result exit.world)
        (Pass.after (charge entry.issue.number (.returned result)) (Pass.after (popRunning number entry) o)) := by
  have ended : workExit settings entry (.returned result) exit.world = workSucceeded settings entry result exit.world := by
    simp only [released, Bool.or_eq_false_iff, Option.isSome_eq_false_iff, Option.isNone_iff_eq_none] at stays
    simp only [workExit, stays.1.1, stays.1.2, if_neg no_stall, if_pos success, Bool.false_eq_true, if_false]
  rw [handleWorkerExit_after found done, settleExit, Pass.after_bind, if_pos work, ended]

/-- At an exit of an entry in order, the chain is charged rightly but for a late stall. -/
theorem Tidy.charged_rightly_iff (tidy : Tidy o) (found : o.running.lookup number = some entry)
    (work : entry.kind = .work) (done : entry.task = some ending) :
    ChargedRightly settings number entry ending exit o ↔ ¬ LateStall entry ending := by
  have counted := @handleWorkerExit_counts _ settings _ _ _ exit _ found work done (tidy.keyed number entry found)
  have is_iff : chargedFailures entry ending = expectedFailures entry ending ↔ ¬ LateStall entry ending :=
    charged_eq_expected_iff (tidy.stopped number entry found (by rw [done]; rfl))
  constructor
  · intro rightly
    have same := rightly.failures
    exact is_iff.mp (by omega)
  · intro on_time
    refine ⟨by rw [counted, is_iff.mpr on_time], fun result is_result success stays early => ?_⟩
    subst is_result
    refine success_goes_on found work done success stays fun late => on_time ⟨stays, late, early, ?_⟩
    simp [RunEnd.ownFailures, RunResult.answeredFor, success]

variable {entries : Dict IssueLedger} {parents : Dict ParentRecord} {families : Nat → Family}
variable {labels : List (Settings py × Action)} {actions : List Action} {live : Live py}

/-- Chain accounting: at every exit of a work run, in every run of the worker with reloads and
inside its next action, the chain is charged rightly if and only if no tick recorded a stall
on the entry after a session's end that is no failure of the issue's. -/
theorem exits_charge_rightly_iff
    (run : Steps ReloadStep ⟨settings, start settings entries parents families⟩ labels live)
    (inside : Reached live.settings .reloading live.worker o) (found : o.running.lookup number = some entry)
    (work : entry.kind = .work) (done : entry.task = some ending) :
    ChargedRightly live.settings number entry ending exit o ↔ ¬ LateStall entry ending := by
  have kept : Kept settings .fixed (start settings entries parents families) := start_kept
  exact (inside.tidy (reloads_tidy run kept.toTidy)).charged_rightly_iff found work done

/-- What a lookup's answer shows of an entry. -/
theorem read_found {α : Type} {f : RunningEntry → α} {a : α} {runs : Dict RunningEntry} (found : runs.lookup number = some entry)
    (read : (AList.lookup number runs).map f = some a) : f entry = a := by
  rw [found] at read
  exact Option.some.inj read

/-- A session that succeeds, and a tick before its message is taken. -/
def successThenTick (clock : Datetime) : Orchestrator :=
  actAll plainSettings (start plainSettings ∅ ∅ todoFamily)
    [.tick (plainTick 0 [todoIssue 8]), .sessionEnded 8 (.returned plainResult), .tick (plainTick clock [])]

/-- The tick comes five minutes after the session's last turn. -/
theorem success_counted_as_a_failure :
    ∃ entry, (successThenTick (milliseconds 300001)).running.lookup 8 = some entry ∧
      entry.task = some (.returned plainResult) ∧ plainResult.outcome = .succeeded ∧ entry.stopAtEnd = none ∧
        ¬ ChargedRightly plainSettings 8 entry (.returned plainResult) plainExit (successThenTick (milliseconds 300001)) := by
  have is_some : ((successThenTick (milliseconds 300001)).running.lookup 8).isSome := by decide +kernel
  obtain ⟨entry, found⟩ := Option.isSome_iff_exists.mp is_some
  have done : entry.task = some (.returned plainResult) := read_found found (by decide +kernel)
  have no_stop : entry.stopAtEnd = none := read_found found (by decide +kernel)
  have expected : expectedFailures entry (.returned plainResult) = 0 :=
    read_found (f := fun entry => expectedFailures entry (.returned plainResult)) found (by decide +kernel)
  refine ⟨entry, found, done, rfl, no_stop, fun rightly => ?_⟩
  have failures := rightly.failures
  rw [expected] at failures
  have counted :
      failuresCounted 8 (Pass.after (handleWorkerExit plainSettings 8 plainExit) (successThenTick (milliseconds 300001))) = 1 := by
    decide +kernel
  have before : failuresCounted 8 (successThenTick (milliseconds 300001)) = 0 := by decide +kernel
  omega

/-- The tick comes a second after. -/
theorem success_charged_rightly :
    ∃ entry, ChargedRightly plainSettings 8 entry (.returned plainResult) plainExit (successThenTick (milliseconds 1000)) := by
  have is_some : ((successThenTick (milliseconds 1000)).running.lookup 8).isSome := by decide +kernel
  obtain ⟨entry, found⟩ := Option.isSome_iff_exists.mp is_some
  have work : entry.kind = .work := read_found found (by decide +kernel)
  have done : entry.task = some (.returned plainResult) := read_found found (by decide +kernel)
  have no_stop : entry.stopCause = none := read_found found (by decide +kernel)
  have run : Steps ReloadStep ⟨plainSettings, start plainSettings ∅ ∅ todoFamily⟩ _
      ⟨plainSettings, successThenTick (milliseconds 1000)⟩ := actAll_reloads
  refine ⟨entry, (exits_charge_rightly_iff run .refl found work done).mpr fun late => ?_⟩
  rw [late.2.1] at no_stop
  cases no_stop

/-- In a run whose ticks find stale no run whose session has ended, every exit charges rightly. -/
theorem punctual_exits_charge_rightly
    (run : Steps (TimedStep settings .onTime) (start settings entries parents families) actions o)
    (found : o.running.lookup number = some entry) (work : entry.kind = .work) (done : entry.task = some ending) :
    ChargedRightly settings number entry ending exit o := by
  have kept : Kept settings .onTime o := (timed_reached run start_kept).kept start_kept
  refine (kept.toTidy.charged_rightly_iff found work done).mpr fun late => late.2.2.1 ?_
  exact kept.late trivial number entry found (by rw [done]; rfl) late.2.1

end Main

end Orchestrator
end Issuebot
