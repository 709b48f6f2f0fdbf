import Issuebot.Orchestrator.Tick
import Mathlib.Logic.Relation

/-!
# The moves the worker's programs are made of

`Move` is everything a program can do to the runs, the retries and the ledger, one change at
a time and each with what it needs: a start needs the issue idle and its chain below the
ceiling, a counted failure a chain below it. `Aside` is a change to anything else. What every
move preserves, every reached state has, so an invariant of the worker is a short case
analysis of `Move` and no proof of one unfolds a program.
-/

namespace Issuebot
set_option autoImplicit false
open Logic

namespace Orchestrator

/-- What a run of the worker may be known to keep: `steady`, the settings have not changed, and
`punctual`, no tick has found stale a run whose session had ended. -/
structure Terms where
  steady : Prop
  punctual : Prop

def Terms.fixed : Terms := ⟨True, False⟩

def Terms.onTime : Terms := ⟨True, True⟩

def Terms.reloading : Terms := ⟨False, False⟩

variable {py : Py} {settings loaded : Settings py} {terms : Terms} {o o' o'' : Orchestrator}

/-- The runs, the retries and the record: what no change beside them touches. -/
structure Core where
  running : Dict RunningEntry
  retries : Dict RetryEntry
  queue : List Nat
  runsStarted : Nat
  runsEnded : Nat
  totals : ClaudeTotals
  history : List Occurrence

def core (o : Orchestrator) : Core where
  running := o.running
  retries := o.retries
  queue := o.queue
  runsStarted := o.counters.runsStarted
  runsEnded := o.counters.runsEnded
  totals := o.totals
  history := o.history

/-- A change beside the runs, the retries, the ledger's figures and the history. -/
structure Aside (o o' : Orchestrator) : Prop where
  core : o'.core = o.core
  failures : ∀ number, (o'.ledger.get number).failures = (o.ledger.get number).failures
  costUsd : ∀ number, (o'.ledger.get number).costUsd = (o.ledger.get number).costUsd
  turns : ∀ number, (o'.ledger.get number).turns = (o.ledger.get number).turns
  evicted : o'.ledger.evicted = o.ledger.evicted
  stopping : o.stopping = true → o'.stopping = true

namespace Aside

theorem refl : Aside o o := ⟨rfl, fun _ => rfl, fun _ => rfl, fun _ => rfl, rfl, id⟩

/-- A change that leaves the ledger whole too. -/
theorem of_ledger (core : o'.core = o.core) (ledger : o'.ledger = o.ledger)
    (stopping : o.stopping = true → o'.stopping = true) : Aside o o' :=
  ⟨core, fun _ => by rw [ledger], fun _ => by rw [ledger], fun _ => by rw [ledger], by rw [ledger], stopping⟩

theorem running (aside : Aside o o') : o'.running = o.running := congrArg Core.running aside.core

theorem retries (aside : Aside o o') : o'.retries = o.retries := congrArg Core.retries aside.core

theorem queue (aside : Aside o o') : o'.queue = o.queue := congrArg Core.queue aside.core

theorem runsStarted (aside : Aside o o') : o'.counters.runsStarted = o.counters.runsStarted :=
  congrArg Core.runsStarted aside.core

theorem runsEnded (aside : Aside o o') : o'.counters.runsEnded = o.counters.runsEnded :=
  congrArg Core.runsEnded aside.core

theorem totals (aside : Aside o o') : o'.totals = o.totals := congrArg Core.totals aside.core

theorem history (aside : Aside o o') : o'.history = o.history := congrArg Core.history aside.core

end Aside

/-- No run, no chain and no budget in the way of a run of the issue, and a slot for it. -/
structure Allowed (settings : Settings py) (issue : Issue) (kind : RunKind) (o : Orchestrator) : Prop where
  idle : issue.number ∉ o.running
  chain : kind = .work → (o.ledger.get issue.number).failures < settings.maxAttempts
  budget : 0 < settings.maxIssueCostUsd → (o.ledger.get issue.number).costUsd < settings.maxIssueCostUsd
  slot : o.running.size < settings.maxConcurrentAgents

/-- A run of the issue is allowed, and the gate has just said so. -/
structure Ready (settings : Settings py) (issue : Issue) (kind : RunKind) (o : Orchestrator) : Prop
    extends Allowed settings issue kind o where
  asked : ∃ request, o.history.getLast? = some (.admitted issue request) ∧ request.Open

/-- A run may go as this account: under a pool, a member of it that no run goes as. -/
def Bound (settings : Settings py) (account : Option String) (o : Orchestrator) : Prop :=
  1 < settings.runAs.length → ∃ name ∈ settings.runAs, account = some name ∧
    ∀ number entry, o.running.lookup number = some entry → entry.account ≠ some name

/-- The changes of a run's entry while it goes on. -/
structure SameRun (terms : Terms) (entry entry' : RunningEntry) : Prop where
  kind : entry'.kind = entry.kind
  number : entry'.issue.number = entry.issue.number
  runId : entry'.runId = entry.runId
  account : entry'.account = entry.account
  task : entry'.task = entry.task
  stopAtEnd : entry'.stopAtEnd = entry.stopAtEnd
  late : terms.punctual → entry.task.isSome → entry'.stopCause = some .stalled → entry.stopCause = some .stalled
  recorded : entry.stopCause.isSome → entry'.stopCause = entry.stopCause

/-- One change of the runs, the retries, the ledger or the history. -/
inductive Move (settings : Settings py) (terms : Terms) : Orchestrator → Orchestrator → Prop where
  | aside {o o' : Orchestrator} (aside : Aside o o') : Move settings terms o o'
  | touched {o : Orchestrator} (f : Nat → RunningEntry → RunningEntry)
      (same : ∀ number entry, o.running.lookup number = some entry → SameRun terms entry (f number entry)) :
      Move settings terms o { o with running := o.running.mapValues f }
  /-- A session ends, and its message is queued. -/
  | taskOver {o : Orchestrator} (number : Nat) (ending : RunEnd) (entry : RunningEntry)
      (found : o.running.lookup number = some entry) (going : entry.task = none) :
      Move settings terms o
        { o with
          running := o.running.modify number fun entry => entry.finish ending
          queue := o.queue ++ [number] }
  /-- Every session ends, and the messages are dropped. -/
  | drained {o : Orchestrator} (ends : Nat → RunEnd) :
      Move settings terms o
        { o with running := o.running.mapValues fun number entry => entry.finish (ends number), queue := [] }
  | taken {o : Orchestrator} (number : Nat) (queue : List Nat) (first : o.queue = number :: queue) :
      Move settings terms o { o with queue }
  | popped {o : Orchestrator} (number : Nat) (entry : RunningEntry) (found : o.running.lookup number = some entry)
      (done : entry.task.isSome) (taken : number ∉ o.queue) :
      Move settings terms o
        { o with
          running := o.running.erase number
          counters := { o.counters with runsEnded := o.counters.runsEnded + 1 }
          history := o.history ++ [.ended number entry] }
  | dropped {o : Orchestrator} (retries : Dict RetryEntry) (fewer : ∀ number ∈ retries, number ∈ o.retries) :
      Move settings terms o { o with retries }
  | queued {o : Orchestrator} (entry : RetryEntry) (idle : entry.issueNumber ∉ o.running) :
      Move settings terms o { o with retries := o.retries.set entry.issueNumber entry }
  | admitted {o : Orchestrator} (issue : Issue) (kind : RunKind) (order : Option OrderHold) (admitted : Admitted)
      (gate : Issuebot.admits py (o.admissionRequest settings issue.number (some issue) kind order) = .ok admitted) :
      Move settings terms o
        { o with
          history := o.history ++
            [.admitted issue (o.admissionRequest settings issue.number (some issue) kind order)] }
  | held {o : Orchestrator} (issue : Issue) :
      Move settings terms o { o with history := o.history ++ [.held issue] }
  | started {o : Orchestrator} (read : Issue) (entry : RunningEntry) (now : Datetime)
      (ready : Ready settings read entry.kind o) (bound : Bound settings entry.account o)
      (same : entry.issue.number = read.number) (going : entry.task = none) :
      Move settings terms o
        { o with
          running := o.running.set entry.issue.number entry
          retries := o.retries.erase entry.issue.number
          counters := { o.counters with runsStarted := o.counters.runsStarted + 1 }
          ledger := o.ledger.dispatched entry.issue.number now
          history := o.history ++ [.started {
            issue := read
            entry
            going := o.running.size
            limit := settings.maxConcurrentAgents
            pool := settings.runAs }] }
  | observed {o : Orchestrator} (number attempt : Nat) :
      Move settings terms o
        { o with
          ledger := o.ledger.observed number attempt settings.maxAttempts
          history := o.history ++ [.observed number attempt] }
  | spent {o : Orchestrator} (number : Nat) (result : RunResult) :
      Move settings terms o
        { o with
          totals := o.totals.add result
          ledger := o.ledger.spent number result.turns result.costUsd
          history := o.history ++ [.spent number result.turns result.costUsd] }
  | counted {o : Orchestrator} (number : Nat) (idle : number ∉ o.running)
      (chain : terms.steady → (o.ledger.get number).failures < settings.maxAttempts) :
      Move settings terms o
        { o with ledger := o.ledger.failed number, history := o.history ++ [.counted number] }
  | cleared {o : Orchestrator} (number : Nat) :
      Move settings terms o
        { o with ledger := o.ledger.cleared number, history := o.history ++ [.cleared number] }
  | finished {o : Orchestrator} (number : Nat) :
      Move settings terms o
        { o with ledger := o.ledger.forget number, history := o.history ++ [.finished number] }

/-- What a program leads to. -/
def Reached (settings : Settings py) (terms : Terms) : Orchestrator → Orchestrator → Prop :=
  Relation.ReflTransGen (Move settings terms)

/-- A stop recorded at the session's end is the one recorded: the first stays. -/
def StopKept (entry : RunningEntry) : Prop :=
  entry.task.isSome → entry.stopAtEnd.isSome → entry.stopCause = entry.stopAtEnd

/-- The runs and the retries are in order: each entry under its own issue, no issue in both,
and each message of a run that is going and whose session has ended, once. -/
structure Tidy (o : Orchestrator) : Prop where
  keyed : ∀ number entry, o.running.lookup number = some entry → entry.issue.number = number
  apart : ∀ number ∈ o.retries, number ∉ o.running
  done : ∀ number ∈ o.queue, ∃ entry, o.running.lookup number = some entry ∧ entry.task.isSome
  once : o.queue.Nodup
  stopped : ∀ number entry, o.running.lookup number = some entry → StopKept entry

/-- What holds of the worker at every moment. -/
structure Kept (settings : Settings py) (terms : Terms) (o : Orchestrator) : Prop extends Tidy o where
  chain : terms.steady → ∀ number, (o.ledger.get number).failures ≤ settings.maxAttempts
  running : terms.steady → ∀ number entry, o.running.lookup number = some entry → entry.kind = .work →
    (o.ledger.get number).failures < settings.maxAttempts
  /-- A stall recorded on a run whose session has ended was recorded before its end. -/
  late : terms.punctual → ∀ number entry, o.running.lookup number = some entry → entry.task.isSome →
    entry.stopCause = some .stalled → entry.stopAtEnd = some .stalled

section Tidy

theorem finish_isSome {entry : RunningEntry} {ending : RunEnd} : (entry.finish ending).task.isSome := by
  unfold RunningEntry.finish
  split
  · rfl
  next done => exact Option.isSome_iff_ne_none.mpr fun none => done (Option.isNone_iff_eq_none.mpr none)

theorem finish_issue {entry : RunningEntry} {ending : RunEnd} : (entry.finish ending).issue = entry.issue := by
  unfold RunningEntry.finish
  split <;> rfl

theorem finish_kind {entry : RunningEntry} {ending : RunEnd} : (entry.finish ending).kind = entry.kind := by
  unfold RunningEntry.finish
  split <;> rfl

/-- What was recorded before the end is what the end finds recorded. -/
theorem finish_late {entry : RunningEntry} {ending : RunEnd}
    (late : entry.task.isSome → entry.stopCause = some .stalled → entry.stopAtEnd = some .stalled) :
    (entry.finish ending).stopCause = some .stalled → (entry.finish ending).stopAtEnd = some .stalled := by
  unfold RunningEntry.finish
  split
  · exact id
  next done => exact late (Option.isSome_iff_ne_none.mpr fun none => done (Option.isNone_iff_eq_none.mpr none))

theorem finish_stopKept {entry : RunningEntry} {ending : RunEnd} (kept : StopKept entry) :
    StopKept (entry.finish ending) := by
  unfold RunningEntry.finish
  split
  · exact fun _ _ => rfl
  · exact kept

theorem SameRun.stopKept {entry entry' : RunningEntry} (same : SameRun terms entry entry')
    (kept : StopKept entry) : StopKept entry' := by
  intro done stopped
  rw [same.task] at done
  rw [same.stopAtEnd] at stopped ⊢
  have was := kept done stopped
  rw [same.recorded (by rwa [was]), was]

/-- An entry there is one there was, changed. -/
theorem found_mapValues {f : Nat → RunningEntry → RunningEntry} {runs : Dict RunningEntry} {number : Nat}
    {entry : RunningEntry} (found : AList.lookup number (runs.mapValues f) = some entry) :
    ∃ before, runs.lookup number = some before ∧ f number before = entry :=
  Option.map_eq_some_iff.mp (Dict.lookup_mapValues.symm.trans found)

/-- A change that leaves the runs and the queue, and queues no retry. -/
theorem Tidy.of_runs (tidy : Tidy o) (running : o'.running = o.running)
    (retries : ∀ number ∈ o'.retries, number ∈ o.retries) (queue : o'.queue = o.queue) : Tidy o' where
  keyed := by rw [running]; exact tidy.keyed
  apart number waits := by rw [running]; exact tidy.apart number (retries number waits)
  done := by rw [running, queue]; exact tidy.done
  once := by rw [queue]; exact tidy.once
  stopped := by rw [running]; exact tidy.stopped

/-- Each entry changed in its place, its issue kept and no end undone. -/
theorem Tidy.mapValues {f : Nat → RunningEntry → RunningEntry} {queue : List Nat} (tidy : Tidy o)
    (same : ∀ number entry, o.running.lookup number = some entry → (f number entry).issue.number = entry.issue.number)
    (done : ∀ number ∈ queue, ∃ entry, o.running.lookup number = some entry ∧ (f number entry).task.isSome)
    (once : queue.Nodup)
    (stopped : ∀ number entry, o.running.lookup number = some entry → StopKept entry →
      StopKept (f number entry)) : Tidy { o with running := o.running.mapValues f, queue } where
  keyed number entry found := by
    obtain ⟨before, was, rfl⟩ := found_mapValues found
    rw [same number before was]
    exact tidy.keyed number before was
  apart number waits := by
    rw [Dict.mem_mapValues]
    exact tidy.apart number waits
  done number mem := by
    obtain ⟨entry, found, is_done⟩ := done number mem
    exact ⟨f number entry, by rw [Dict.lookup_mapValues, found, Option.map_some], is_done⟩
  once := once
  stopped number entry found := by
    obtain ⟨before, was, rfl⟩ := found_mapValues found
    exact stopped number before was (tidy.stopped number before was)

theorem Tidy.popped {number : Nat} {counters : Counters} {history : List Occurrence} (tidy : Tidy o)
    (taken : number ∉ o.queue) : Tidy { o with running := o.running.erase number, counters, history } where
  keyed other entry found := tidy.keyed other entry (Dict.lookup_of_erase found)
  apart other waits mem := tidy.apart other waits (AList.mem_erase.mp mem).2
  done other mem := by
    obtain ⟨entry, found, is_done⟩ := tidy.done other mem
    have ne : other ≠ number := fun same => taken (same ▸ mem)
    exact ⟨entry, by rw [AList.lookup_erase_ne ne, found], is_done⟩
  once := tidy.once
  stopped other entry found := tidy.stopped other entry (Dict.lookup_of_erase found)

theorem Tidy.started {entry : RunningEntry} {counters : Counters} {ledger : Ledger} {history : List Occurrence}
    (tidy : Tidy o) (idle : entry.issue.number ∉ o.running) (going : entry.task = none) :
    Tidy
      { o with
        running := o.running.set entry.issue.number entry
        retries := o.retries.erase entry.issue.number
        counters
        ledger
        history } where
  keyed number found_entry found := by
    by_cases here : number = entry.issue.number
    · subst here
      rw [Dict.lookup_set_self, Option.some.injEq] at found
      rw [← found]
    · exact tidy.keyed number found_entry (by rwa [Dict.lookup_set_of_ne here] at found)
  apart number waits mem := by
    obtain ⟨ne, waits⟩ := AList.mem_erase.mp waits
    exact tidy.apart number waits ((Dict.mem_set.mp mem).resolve_left ne)
  done number mem := by
    obtain ⟨other, found, is_done⟩ := tidy.done number mem
    have ne : number ≠ entry.issue.number := by
      rintro rfl
      exact idle (AList.lookup_isSome.mp (by rw [found]; rfl))
    exact ⟨other, by rw [Dict.lookup_set_of_ne ne, found], is_done⟩
  once := tidy.once
  stopped number found_entry found := by
    by_cases here : number = entry.issue.number
    · subst here
      rw [Dict.lookup_set_self, Option.some.injEq] at found
      intro done
      rw [← found, going] at done
      cases done
    · exact tidy.stopped number found_entry (by rwa [Dict.lookup_set_of_ne here] at found)

/-- Every move keeps the runs and the retries in order. -/
theorem Move.tidy (move : Move settings terms o o') (tidy : Tidy o) : Tidy o' := by
  cases move with
  | aside aside =>
    exact tidy.of_runs aside.running (fun _ waits => by rwa [aside.retries] at waits) aside.queue
  | touched f same =>
    refine tidy.mapValues (fun number entry found => (same number entry found).number) (fun number mem => ?_) tidy.once
      fun number entry found => (same number entry found).stopKept
    obtain ⟨entry, found, is_done⟩ := tidy.done number mem
    exact ⟨entry, found, by rw [(same number entry found).task]; exact is_done⟩
  | taskOver number ending entry found going =>
    refine tidy.mapValues (fun other entry _ => ?_) (fun other mem => ?_) ?_ fun other entry _ kept => ?_
    · split
      · rw [finish_issue]
      · rfl
    · rcases List.mem_append.mp mem with before | last
      · obtain ⟨entry', found', is_done⟩ := tidy.done other before
        refine ⟨entry', found', ?_⟩
        split
        · exact finish_isSome
        · exact is_done
      · obtain rfl := List.mem_singleton.mp last
        exact ⟨entry, found, by rw [if_pos rfl]; exact finish_isSome⟩
    · refine List.nodup_append.mpr ⟨tidy.once, List.nodup_singleton _, fun other mem last is_last => ?_⟩
      rintro rfl
      obtain rfl := List.mem_singleton.mp is_last
      obtain ⟨entry', found', is_done⟩ := tidy.done other mem
      rw [found, Option.some.injEq] at found'
      rw [← found', going] at is_done
      cases is_done
    · split
      · exact finish_stopKept kept
      · exact kept
  | drained ends =>
    exact tidy.mapValues (fun _ _ _ => by rw [finish_issue]) (by simp) List.nodup_nil fun _ _ _ => finish_stopKept
  | taken number queue first =>
    have fewer : ∀ other ∈ queue, other ∈ o.queue := fun other mem => by
      rw [first]
      exact List.mem_cons_of_mem _ mem
    exact ⟨tidy.keyed, tidy.apart, fun other mem => tidy.done other (fewer other mem),
      (List.nodup_cons.mp (first ▸ tidy.once)).2, tidy.stopped⟩
  | popped number entry found done taken => exact tidy.popped taken
  | dropped retries fewer => exact tidy.of_runs rfl fewer rfl
  | queued entry idle =>
    refine ⟨tidy.keyed, fun number waits => ?_, tidy.done, tidy.once, tidy.stopped⟩
    rcases Dict.mem_set.mp waits with rfl | waits
    · exact idle
    · exact tidy.apart number waits
  | started read entry now ready bound same going => exact tidy.started (same ▸ ready.idle) going
  | admitted | held | observed | spent | counted | cleared | finished => exact tidy.of_runs rfl (fun _ h => h) rfl

theorem Reached.tidy (reached : Reached settings terms o o') (tidy : Tidy o) : Tidy o' := by
  induction reached with
  | refl => exact tidy
  | tail _ move ih => exact move.tidy ih

end Tidy

section Kept

/-- One issue's chain after a change of another's entry. -/
theorem chain_of_only {number other : Nat} {ledger ledger' : Ledger} {bound : Nat} (only : Ledger.Only ledger ledger' number)
    (here : (ledger'.get number).failures ≤ bound) (there : (ledger.get other).failures ≤ bound) :
    (ledger'.get other).failures ≤ bound := by
  by_cases same : other = number
  · exact same ▸ here
  · rcases only.others other same with kept | ⟨gone, -⟩
    · exact kept ▸ there
    · rw [gone]
      exact Nat.zero_le _

/-- A run keeps its chain below the ceiling through a change of another issue's entry. -/
theorem running_of_only {number other : Nat} {ledger ledger' : Ledger} (only : Ledger.Only ledger ledger' number)
    (here : other = number → (ledger'.get number).failures < settings.maxAttempts)
    (there : (ledger.get other).failures < settings.maxAttempts) :
    (ledger'.get other).failures < settings.maxAttempts := by
  by_cases same : other = number
  · exact same ▸ here same
  · rcases only.others other same with kept | ⟨gone, -⟩
    · exact kept ▸ there
    · rw [gone]
      exact settings.maxAttempts_pos

/-- No chain grew, and no run changed its kind. -/
theorem Kept.of_runs (kept : Kept settings terms o) (tidy : Tidy o')
    (failures : ∀ number, (o'.ledger.get number).failures = (o.ledger.get number).failures)
    (runs : ∀ number entry', o'.running.lookup number = some entry' →
      ∃ entry, o.running.lookup number = some entry ∧ entry'.kind = entry.kind)
    (late : terms.punctual → ∀ number entry', o'.running.lookup number = some entry' → entry'.task.isSome →
      entry'.stopCause = some .stalled → entry'.stopAtEnd = some .stalled) : Kept settings terms o' where
  toTidy := tidy
  chain fixed number := by
    rw [failures]
    exact kept.chain fixed number
  running fixed number entry' found work := by
    obtain ⟨entry, was, kind⟩ := runs number entry' found
    rw [failures]
    exact kept.running fixed number entry was (kind ▸ work)
  late := late

/-- A change of one issue's entry that leaves the runs alone. -/
theorem Kept.of_only {number : Nat} (kept : Kept settings terms o) (tidy : Tidy o') (runs : o'.running = o.running)
    (only : Ledger.Only o.ledger o'.ledger number)
    (chain : terms.steady → (o'.ledger.get number).failures ≤ settings.maxAttempts)
    (below : terms.steady → (o.ledger.get number).failures < settings.maxAttempts →
      (o'.ledger.get number).failures < settings.maxAttempts ∨ number ∉ o.running) : Kept settings terms o' where
  toTidy := tidy
  chain fixed other := chain_of_only only (chain fixed) (kept.chain fixed other)
  running fixed other entry found work := by
    rw [runs] at found
    refine running_of_only only (fun same => ?_) (kept.running fixed other entry found work)
    subst same
    rcases below fixed (kept.running fixed other entry found work) with still | idle
    · exact still
    · exact absurd (AList.lookup_isSome.mp (by rw [found]; rfl)) idle
  late := by rw [runs]; exact kept.late

/-- Every move keeps what holds of the worker. -/
theorem Move.kept (move : Move settings terms o o') (kept : Kept settings terms o) : Kept settings terms o' := by
  have tidy := move.tidy kept.toTidy
  have unchanged : ∀ number entry, o.running.lookup number = some entry →
      ∃ before, o.running.lookup number = some before ∧ entry.kind = before.kind :=
    fun number entry found => ⟨entry, found, rfl⟩
  cases move with
  | aside aside =>
    exact kept.of_runs tidy aside.failures (by rwa [aside.running]) (by rw [aside.running]; exact kept.late)
  | touched f same =>
    refine kept.of_runs tidy (fun _ => rfl) (fun number entry found => ?_) fun punctual number entry found done => ?_
    · obtain ⟨before, was, rfl⟩ := found_mapValues found
      exact ⟨before, was, (same number before was).kind⟩
    · obtain ⟨before, was, rfl⟩ := found_mapValues found
      have same := same number before was
      rw [same.task] at done
      rw [same.stopAtEnd]
      exact fun stalled => kept.late punctual number before was done (same.late punctual done stalled)
  | taskOver number ending entry =>
    refine kept.of_runs tidy (fun _ => rfl) (fun other entry found => ?_) fun punctual other entry found done => ?_
    · obtain ⟨before, was, rfl⟩ := found_mapValues found
      refine ⟨before, was, ?_⟩
      split
      · exact finish_kind
      · rfl
    · obtain ⟨before, was, rfl⟩ := found_mapValues found
      have late := kept.late punctual other before was
      by_cases here : other = number
      · rw [if_pos here]
        exact finish_late late
      · rw [if_neg here] at done ⊢
        exact late done
  | drained ends =>
    refine kept.of_runs tidy (fun _ => rfl) (fun number entry found => ?_) fun punctual number entry found _ => ?_
    · obtain ⟨before, was, rfl⟩ := found_mapValues found
      exact ⟨before, was, finish_kind⟩
    · obtain ⟨before, was, rfl⟩ := found_mapValues found
      exact finish_late (kept.late punctual number before was)
  | popped number =>
    refine kept.of_runs tidy (fun _ => rfl) (fun other entry found => ?_) fun punctual other entry found => ?_
    · exact unchanged other entry (Dict.lookup_of_erase found)
    · exact kept.late punctual other entry (Dict.lookup_of_erase found)
  | taken | dropped | queued | admitted | held => exact kept.of_runs tidy (fun _ => rfl) unchanged kept.late
  | started read entry now ready bound same going =>
    refine ⟨tidy, fun fixed number => ?_, fun fixed number found_entry found work => ?_,
      fun punctual number found_entry found done => ?_⟩
    · exact chain_of_only Ledger.put_only (by simpa using kept.chain fixed _) (kept.chain fixed number)
    · by_cases here : number = entry.issue.number
      · subst here
        rw [Dict.lookup_set_self, Option.some.injEq] at found
        rw [Ledger.dispatched_failures, same]
        exact ready.chain (found ▸ work)
      · rw [Dict.lookup_set_of_ne here] at found
        exact running_of_only Ledger.put_only (fun same => absurd same here)
          (kept.running fixed number found_entry found work)
    · by_cases here : number = entry.issue.number
      · subst here
        rw [Dict.lookup_set_self, Option.some.injEq] at found
        rw [← found, going] at done
        cases done
      · rw [Dict.lookup_set_of_ne here] at found
        exact kept.late punctual number found_entry found done
  | observed number attempt =>
    have seed_lt : seededChain (attempt - 1) settings.maxAttempts < settings.maxAttempts :=
      seededChain_lt settings.maxAttempts_pos
    refine kept.of_only tidy rfl Ledger.observed_only (fun fixed => ?_) fun _ below => .inl ?_
    · rw [Ledger.observed_failures]
      exact Nat.max_le.mpr ⟨kept.chain fixed number, seed_lt.le⟩
    · rw [Ledger.observed_failures]
      exact Nat.max_lt.mpr ⟨below, seed_lt⟩
  | spent number =>
    refine kept.of_only tidy rfl Ledger.put_only (fun fixed => ?_) fun _ below => .inl ?_
    · rw [Ledger.spent_failures]
      exact kept.chain fixed number
    · rwa [Ledger.spent_failures]
  | counted number idle chain =>
    refine kept.of_only tidy rfl Ledger.put_only (fun fixed => ?_) fun _ _ => .inr idle
    rw [Ledger.failed_failures]
    exact chain fixed
  | cleared number =>
    refine kept.of_only tidy rfl Ledger.cleared_only (fun _ => ?_) fun _ _ => .inl ?_
    · rw [Ledger.cleared_failures]
      exact Nat.zero_le _
    · rw [Ledger.cleared_failures]
      exact settings.maxAttempts_pos
  | finished number =>
    refine kept.of_only tidy rfl Ledger.forget_only (fun _ => ?_) fun _ _ => .inl ?_
    · rw [Ledger.get_forget_self]
      exact Nat.zero_le _
    · rw [Ledger.get_forget_self]
      exact settings.maxAttempts_pos

theorem Reached.kept (reached : Reached settings terms o o') (kept : Kept settings terms o) :
    Kept settings terms o' := by
  induction reached with
  | refl => exact kept
  | tail _ move ih => exact move.kept ih

/-- Under other settings nothing is known of the chains. -/
theorem Kept.reload (kept : Kept settings terms o) : Kept loaded .reloading o :=
  ⟨kept.toTidy, False.elim, False.elim, False.elim⟩

end Kept

end Orchestrator
end Issuebot
