import Issuebot.Logic.Histories
import Issuebot.Orchestrator.Conduct

/-!
# Run lifecycle conservation

Each run that starts is removed from `running` once, by the message of its own session's
end or by the shutdown, and no run of its issue starts before. The history's marks of an
issue say so (`lifecycle`), and every move keeps them, whatever the settings in force.
-/

namespace Issuebot
set_option autoImplicit false
open Logic

namespace Orchestrator

/-- What the history has of a run. -/
inductive Mark where
  | start (runId : String)
  | removal (runId : String)
  deriving DecidableEq, Repr

section Marks

variable (number : Nat)

def markOf : Occurrence → Option Mark
  | .started start => if start.issue.number = number then some (.start start.entry.runId) else none
  | .ended other entry => if other = number then some (.removal entry.runId) else none
  | _ => none

/-- The marks of an issue's runs, in order. -/
def marks (history : List Occurrence) : List Mark := history.filterMap (markOf number)

end Marks

/-- Runs each started and then removed, and the one that is going, if any. -/
def lifecycle (past : List String) (going : Option String) : List Mark :=
  past.flatMap (fun runId => [.start runId, .removal runId]) ++ going.toList.map .start

def isStart : Occurrence → Bool
  | .started _ => true
  | _ => false

def isRemoval : Occurrence → Bool
  | .ended .. => true
  | _ => false

/-- What a start meets: the gate has just been asked for its issue, with no hold in force and the
worker not stopping, and the runs going then are fewer than the most there may be. -/
structure Launched (before : List Occurrence) (start : RunStart) : Prop where
  asked : ∃ request, before.getLast? = some (.admitted start.issue request) ∧ request.hold = none ∧
    request.stopping = false
  going : before.countP isStart = before.countP isRemoval + start.going
  slot : start.going < start.limit

/-- The books of the runs. -/
structure Conserved (o : Orchestrator) : Prop where
  started : o.history.countP isStart = o.counters.runsStarted
  ended : o.history.countP isRemoval = o.counters.runsEnded
  balance : o.counters.runsStarted = o.counters.runsEnded + o.running.size
  marks : ∀ number, ∃ past,
    marks number o.history = lifecycle past ((o.running.lookup number).map RunningEntry.runId)
  launched : Throughout (fun before occurrence => ∀ start, occurrence = .started start → Launched before start) o.history
  settled : ∀ number entry, .ended number entry ∈ o.history → entry.task.isSome

section Moves

variable {py : Py} {settings : Settings py} {terms : Terms} {o o' : Orchestrator}

theorem marks_concat {number : Nat} {history : List Occurrence} {occurrence : Occurrence} :
    marks number (history ++ [occurrence]) = marks number history ++ (markOf number occurrence).toList := by
  rw [marks, List.filterMap_append, marks]
  cases mark : markOf number occurrence <;> simp [mark]

/-- The same runs and the same history. -/
theorem Conserved.same (conserved : Conserved o) (history : o'.history = o.history)
    (runs : ∀ number, (o'.running.lookup number).map RunningEntry.runId = (o.running.lookup number).map RunningEntry.runId)
    (size : o'.running.size = o.running.size) (runsStarted : o'.counters.runsStarted = o.counters.runsStarted)
    (runsEnded : o'.counters.runsEnded = o.counters.runsEnded) : Conserved o' where
  started := by rw [history, runsStarted, conserved.started]
  ended := by rw [history, runsEnded, conserved.ended]
  balance := by rw [runsStarted, runsEnded, size, conserved.balance]
  marks number := by rw [history, runs]; exact conserved.marks number
  launched := by rw [history]; exact conserved.launched
  settled := by rw [history]; exact conserved.settled

/-- One more occurrence that is no start and no removal. -/
theorem Conserved.noted {occurrence : Occurrence} {ledger : Ledger} {totals : ClaudeTotals} (conserved : Conserved o)
    (not_start : isStart occurrence = false) (not_removal : isRemoval occurrence = false) :
    Conserved { o with ledger, totals, history := o.history ++ [occurrence] } where
  started := by simp [not_start, conserved.started]
  ended := by simp [not_removal, conserved.ended]
  balance := conserved.balance
  marks number := by
    have unmarked : markOf number occurrence = none := by
      cases occurrence with
      | started => cases not_start
      | ended => cases not_removal
      | _ => rfl
    rw [marks_concat, unmarked]
    simpa using conserved.marks number
  launched := by
    refine throughout_concat.mpr ⟨conserved.launched, fun start is_start => ?_⟩
    subst is_start
    cases not_start
  settled number entry mem := by
    rcases List.mem_append.mp mem with before | last
    · exact conserved.settled number entry before
    · rw [← List.mem_singleton.mp last] at not_removal
      cases not_removal

/-- A run is removed. -/
theorem Conserved.popped {number : Nat} {entry : RunningEntry} (conserved : Conserved o)
    (found : o.running.lookup number = some entry) (done : entry.task.isSome) :
    Conserved
      { o with
        running := o.running.erase number
        counters := { o.counters with runsEnded := o.counters.runsEnded + 1 }
        history := o.history ++ [.ended number entry] } where
  started := by simp [isStart, conserved.started]
  ended := by simp [isRemoval, conserved.ended]
  balance := by
    have size := Dict.size_erase_of_mem (AList.lookup_isSome.mp (by rw [found]; rfl))
    have balance := conserved.balance
    dsimp only
    omega
  marks other := by
    obtain ⟨past, is_over⟩ := conserved.marks other
    rw [marks_concat, is_over]
    by_cases here : number = other
    · subst here
      refine ⟨past ++ [entry.runId], ?_⟩
      rw [found, AList.lookup_erase]
      simp [markOf, lifecycle]
    · refine ⟨past, ?_⟩
      rw [AList.lookup_erase_ne (Ne.symm here)]
      simp [markOf, here]
  launched := throughout_concat.mpr ⟨conserved.launched, fun start is_start => by cases is_start⟩
  settled other removed mem := by
    rcases List.mem_append.mp mem with before | last
    · exact conserved.settled other removed before
    · cases List.mem_singleton.mp last
      exact done

/-- A run is started where none of its issue is going. -/
theorem Conserved.started_run {start : RunStart} {counters : Counters} {retries : Dict RetryEntry} {ledger : Ledger}
    (conserved : Conserved o) (idle : start.issue.number ∉ o.running)
    (runsStarted : counters.runsStarted = o.counters.runsStarted + 1) (runsEnded : counters.runsEnded = o.counters.runsEnded)
    (launched : Launched o.history start) :
    Conserved
      { o with
        running := o.running.set start.issue.number start.entry
        retries
        counters
        ledger
        history := o.history ++ [.started start] } where
  started := by simp [isStart, conserved.started, runsStarted]
  ended := by simp [isRemoval, conserved.ended, runsEnded]
  balance := by
    have size : (o.running.set start.issue.number start.entry).size = o.running.size + 1 := Dict.size_set_of_notMem idle
    have balance := conserved.balance
    dsimp only
    omega
  marks number := by
    obtain ⟨past, is_over⟩ := conserved.marks number
    refine ⟨past, ?_⟩
    rw [marks_concat, is_over]
    by_cases here : start.issue.number = number
    · subst here
      have absent : o.running.lookup start.issue.number = none := AList.lookup_eq_none.mpr idle
      rw [absent, Dict.lookup_set_self]
      simp [markOf, lifecycle]
    · rw [Dict.lookup_set_of_ne (Ne.symm here)]
      simp [markOf, here]
  launched := by
    refine throughout_concat.mpr ⟨conserved.launched, fun other is_start => ?_⟩
    cases is_start
    exact launched
  settled number entry mem := by
    rcases List.mem_append.mp mem with before | last
    · exact conserved.settled number entry before
    · cases List.mem_singleton.mp last

/-- Runs changed in their places. -/
theorem Conserved.mapValues {f : Nat → RunningEntry → RunningEntry} {queue : List Nat} (conserved : Conserved o)
    (same : ∀ number entry, o.running.lookup number = some entry → (f number entry).runId = entry.runId) :
    Conserved { o with running := o.running.mapValues f, queue } := by
  refine conserved.same rfl (fun number => ?_) Dict.size_mapValues rfl rfl
  rw [Dict.lookup_mapValues]
  cases found : o.running.lookup number with
  | none => rfl
  | some entry => simp [same number entry found]

theorem finish_runId {entry : RunningEntry} {ending : RunEnd} : (entry.finish ending).runId = entry.runId := by
  unfold RunningEntry.finish
  split <;> rfl

/-- Every move keeps the books of the runs. -/
theorem Move.conserved (move : Move settings terms o o') (conserved : Conserved o) : Conserved o' := by
  cases move with
  | aside aside =>
    exact conserved.same aside.history (fun _ => by rw [aside.running]) (by rw [aside.running]) aside.runsStarted
      aside.runsEnded
  | touched f same => exact conserved.mapValues fun number entry found => (same number entry found).runId
  | taskOver number ending entry found going =>
    refine conserved.mapValues fun other entry _ => ?_
    split
    · exact finish_runId
    · rfl
  | drained ends => exact conserved.mapValues fun _ _ _ => finish_runId
  | popped number entry found done taken => exact conserved.popped found done
  | started read entry now ready bound same going =>
    obtain ⟨request, last, is_open⟩ := ready.asked
    have launched : Launched o.history {
        issue := read
        entry
        going := o.running.size
        limit := settings.maxConcurrentAgents
        pool := settings.runAs } :=
      ⟨⟨request, last, is_open.noHold, is_open.running⟩, by rw [conserved.started, conserved.ended, conserved.balance],
        ready.slot⟩
    rw [same]
    refine conserved.started_run ready.idle ?_ ?_ launched
    · rfl
    · rfl
  | taken | dropped | queued => exact conserved.same rfl (fun _ => rfl) rfl rfl rfl
  | admitted | held | observed | spent | counted | cleared | finished => exact conserved.noted rfl rfl

theorem Reached.conserved (reached : Reached settings terms o o') (conserved : Conserved o) : Conserved o' := by
  induction reached with
  | refl => exact conserved
  | tail _ move ih => exact move.conserved ih

end Moves

section Main

variable {py : Py} {settings : Settings py} {entries : Dict IssueLedger} {parents : Dict ParentRecord}
variable {families : Nat → Family} {labels : List (Settings py × Action)} {live : Live py} {o : Orchestrator}

/-- What a shutdown leaves: nothing going, and nothing that waits. -/
structure Drained (o : Orchestrator) : Prop where
  running : ∀ number, number ∉ o.running
  retries : ∀ number, number ∉ o.retries

/-- The lifecycle of the runs of a worker, whose next action may be a shutdown. -/
structure Lifecycle (settings : Settings py) (o : Orchestrator) : Prop extends Conserved o, Tidy o where
  drained : ∀ ends exits, Drained (Pass.after (shutdown settings ends exits) o)

theorem start_conserved : Conserved (start settings entries parents families) where
  started := rfl
  ended := rfl
  balance := rfl
  marks _ := ⟨[], rfl⟩
  launched := throughout_nil
  settled _ _ mem := by cases mem

/-- From any worker in order. -/
theorem shutdown_drained {ends : Nat → RunEnd} {exits : Nat → ExitWorld} (tidy : Tidy o) :
    Drained (Pass.after (shutdown settings ends exits) o) := by
  have kept : Kept settings .reloading o := ⟨tidy, False.elim, False.elim, False.elim⟩
  let Ended (o' : Orchestrator) : Prop :=
    Along settings .reloading o anyRuns o' ∧ (∀ number, number ∉ o'.running) ∧ o'.retries = ∅
  have rule : Remote.Triple Empty.elim (Along settings .reloading o anyRuns) (shutdown settings ends exits) (fun _ => Ended)
      fun _ => Ended := shutdown_along kept
  have ended : Ended (Pass.after (shutdown settings ends exits) o) := by
    rw [Pass.after_eq Empty.elim]
    exact rule.after ⟨.refl, trivial⟩
  refine ⟨ended.2.1, fun number => ?_⟩
  rw [ended.2.2]
  exact AList.notMem_empty number

/-- Run lifecycle conservation: in every run of the worker, with reloads. -/
theorem runs_are_conserved
    (run : Steps ReloadStep ⟨settings, start settings entries parents families⟩ labels live) :
    Lifecycle live.settings live.worker := by
  have kept : Kept settings .fixed (start settings entries parents families) := start_kept
  obtain ⟨tidy, conserved⟩ :=
    reloads_keep (fun _ _ _ move _ conserved => move.conserved conserved) run kept.toTidy start_conserved
  exact ⟨conserved, tidy, fun _ _ => shutdown_drained tidy⟩

/-- A run that crashes: none is going, and one of each was counted. -/
theorem runs_are_conserved_through_a_crash :
    let o := actAll plainSettings (start plainSettings ∅ ∅ todoFamily)
      [.tick (plainTick 0 [todoIssue 8]), .sessionEnded 8 (.crashed "boom"), .workerExited plainExit]
    o.counters.runsStarted = 1 ∧ o.counters.runsEnded = 1 ∧ Lifecycle plainSettings o := by
  intro o
  have run : Steps ReloadStep ⟨plainSettings, start plainSettings ∅ ∅ todoFamily⟩ _ ⟨plainSettings, o⟩ := actAll_reloads
  exact ⟨by decide +kernel, by decide +kernel, runs_are_conserved run⟩

end Main

end Orchestrator
end Issuebot
