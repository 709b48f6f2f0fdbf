import Issuebot.Logic.Histories
import Issuebot.Orchestrator.Conduct

/-!
# Account separation under a pool

`goingStarts` is the starts of the runs that are going, in the order they were made. Under a
pool a run goes as no account a run is going as, whatever the settings those were started
under; with one account there is nothing to wait for, and its runs share it.
-/

namespace Issuebot
set_option autoImplicit false
open Logic

/-- A pool: more accounts than one. -/
def RunStart.pooled (start : RunStart) : Prop := 1 < start.pool.length

namespace Orchestrator

/-- A start that is made, and one whose run is removed. -/
def going (starts : List RunStart) : Occurrence → List RunStart
  | .started start => starts ++ [start]
  | .ended number _ => starts.filter fun start => start.issue.number ≠ number
  | _ => starts

/-- The starts of the runs that are going. -/
def goingStarts (history : List Occurrence) : List RunStart := tallied going [] history

/-- The runs that are going and their accounts. -/
structure Separated (o : Orchestrator) : Prop where
  /-- Each start that is going has its entry, with the account it was started as, -/
  entry : ∀ start ∈ goingStarts o.history, ∃ entry, o.running.lookup start.issue.number = some entry ∧
    entry.account = start.entry.account
  /-- and each entry has one. -/
  start : ∀ number ∈ o.running, ∃ start ∈ goingStarts o.history, start.issue.number = number
  once : ((goingStarts o.history).map fun start => start.issue.number).Nodup
  /-- A run started under a pool has an account no earlier run that is going has. -/
  apart : (goingStarts o.history).Pairwise fun earlier later => later.pooled →
    later.entry.account ≠ earlier.entry.account
  /-- A run started under a pool has an account of it. -/
  inPool : ∀ start, .started start ∈ o.history → start.pooled → ∃ name ∈ start.pool, start.entry.account = some name

section Moves

variable {py : Py} {settings : Settings py} {terms : Terms} {o o' : Orchestrator}

theorem goingStarts_concat {history : List Occurrence} {occurrence : Occurrence} :
    goingStarts (history ++ [occurrence]) = going (goingStarts history) occurrence := tallied_concat

/-- The same accounts, and the same history. -/
theorem Separated.same (separated : Separated o) (history : o'.history = o.history)
    (accounts : ∀ number, (o'.running.lookup number).map RunningEntry.account =
      (o.running.lookup number).map RunningEntry.account) : Separated o' where
  entry start mem := by
    rw [history] at mem
    obtain ⟨entry, found, same⟩ := separated.entry start mem
    have here := accounts start.issue.number
    rw [found] at here
    obtain ⟨entry', found', same'⟩ := Option.map_eq_some_iff.mp here
    exact ⟨entry', found', same'.trans same⟩
  start number mem := by
    rw [history]
    refine separated.start number (AList.lookup_isSome.mp ?_)
    rw [← Option.isSome_map (f := RunningEntry.account), ← accounts, Option.isSome_map]
    exact AList.lookup_isSome.mpr mem
  once := by rw [history]; exact separated.once
  apart := by rw [history]; exact separated.apart
  inPool := by rw [history]; exact separated.inPool

/-- One more occurrence that is no start and no removal. -/
theorem Separated.noted {occurrence : Occurrence} {ledger : Ledger} {totals : ClaudeTotals} (separated : Separated o)
    (beside : ∀ starts, going starts occurrence = starts) :
    Separated { o with ledger, totals, history := o.history ++ [occurrence] } := by
  have same : goingStarts (o.history ++ [occurrence]) = goingStarts o.history := by rw [goingStarts_concat, beside]
  refine ⟨?_, ?_, ?_, ?_, fun start mem => ?_⟩
  · rw [same]
    exact separated.entry
  · rw [same]
    exact separated.start
  · rw [same]
    exact separated.once
  · rw [same]
    exact separated.apart
  · rcases List.mem_append.mp mem with before | last
    · exact separated.inPool start before
    · have made := beside []
      rw [← List.mem_singleton.mp last] at made
      cases made

/-- A run is removed. -/
theorem Separated.popped {number : Nat} {entry : RunningEntry} {counters : Counters} (separated : Separated o) :
    Separated
      { o with
        running := o.running.erase number
        counters
        history := o.history ++ [.ended number entry] } where
  entry start mem := by
    rw [goingStarts_concat] at mem
    obtain ⟨mem, other⟩ := List.mem_filter.mp mem
    obtain ⟨found_entry, found, same⟩ := separated.entry start mem
    exact ⟨found_entry, by rw [AList.lookup_erase_ne (by simpa using other), found], same⟩
  start other mem := by
    obtain ⟨ne, mem⟩ := AList.mem_erase.mp mem
    obtain ⟨start, going, rfl⟩ := separated.start other mem
    exact ⟨start, by rw [goingStarts_concat]; exact List.mem_filter.mpr ⟨going, by simpa using ne⟩, rfl⟩
  once := by
    rw [goingStarts_concat]
    exact separated.once.sublist (List.filter_sublist.map _)
  apart := by
    rw [goingStarts_concat]
    exact separated.apart.sublist List.filter_sublist
  inPool start mem := by
    rcases List.mem_append.mp mem with before | last
    · exact separated.inPool start before
    · cases List.mem_singleton.mp last

/-- A run is started, with an account that may be bound. -/
theorem Separated.started {counters : Counters} {retries : Dict RetryEntry} {ledger : Ledger} (separated : Separated o)
    (start : RunStart) (idle : start.issue.number ∉ o.running)
    (bound : start.pooled → ∃ name ∈ start.pool, start.entry.account = some name ∧
      ∀ number entry, o.running.lookup number = some entry → entry.account ≠ some name) :
    Separated
      { o with
        running := o.running.set start.issue.number start.entry
        retries
        counters
        ledger
        history := o.history ++ [.started start] } where
  entry other mem := by
    rw [goingStarts_concat] at mem
    rcases List.mem_append.mp mem with before | last
    · obtain ⟨entry, found, same⟩ := separated.entry other before
      have ne : other.issue.number ≠ start.issue.number := fun here =>
        idle (AList.lookup_isSome.mp (by rw [← here, found]; rfl))
      exact ⟨entry, by rw [Dict.lookup_set_of_ne ne, found], same⟩
    · obtain rfl := List.mem_singleton.mp last
      exact ⟨other.entry, Dict.lookup_set_self, rfl⟩
  start number mem := by
    rw [goingStarts_concat]
    rcases Dict.mem_set.mp mem with rfl | mem
    · exact ⟨start, List.mem_append_right _ List.mem_cons_self, rfl⟩
    · obtain ⟨other, going, rfl⟩ := separated.start number mem
      exact ⟨other, List.mem_append_left _ going, rfl⟩
  once := by
    rw [goingStarts_concat, going, List.map_append]
    refine List.nodup_append.mpr ⟨separated.once, List.nodup_singleton _, fun number mem last is_last => ?_⟩
    rintro rfl
    obtain ⟨other, going, rfl⟩ := List.mem_map.mp mem
    obtain ⟨entry, found, -⟩ := separated.entry other going
    have here : other.issue.number = start.issue.number := List.mem_singleton.mp is_last
    exact idle (AList.lookup_isSome.mp (by rw [← here, found]; rfl))
  apart := by
    rw [goingStarts_concat, going]
    refine List.pairwise_append.mpr ⟨separated.apart, List.pairwise_singleton _ _, fun earlier mem later is_last pooled => ?_⟩
    obtain rfl := List.mem_singleton.mp is_last
    obtain ⟨name, -, account, free⟩ := bound pooled
    obtain ⟨entry, found, same⟩ := separated.entry earlier mem
    rw [account, ← same]
    exact (free _ entry found).symm
  inPool other mem pooled := by
    rcases List.mem_append.mp mem with before | last
    · exact separated.inPool other before pooled
    · cases List.mem_singleton.mp last
      obtain ⟨name, mem, account, -⟩ := bound pooled
      exact ⟨name, mem, account⟩

/-- Runs changed in their places. -/
theorem Separated.mapValues {f : Nat → RunningEntry → RunningEntry} {queue : List Nat} (separated : Separated o)
    (same : ∀ number entry, o.running.lookup number = some entry → (f number entry).account = entry.account) :
    Separated { o with running := o.running.mapValues f, queue } := by
  refine separated.same rfl fun number => ?_
  rw [Dict.lookup_mapValues]
  cases found : o.running.lookup number with
  | none => rfl
  | some entry => simp [same number entry found]

theorem finish_account {entry : RunningEntry} {ending : RunEnd} : (entry.finish ending).account = entry.account := by
  unfold RunningEntry.finish
  split <;> rfl

/-- Every move keeps the accounts apart. -/
theorem Move.separated (move : Move settings terms o o') (separated : Separated o) : Separated o' := by
  cases move with
  | aside aside => exact separated.same aside.history fun _ => by rw [aside.running]
  | touched f same => exact separated.mapValues fun number entry found => (same number entry found).account
  | taskOver number ending entry found going =>
    refine separated.mapValues fun other entry _ => ?_
    split
    · exact finish_account
    · rfl
  | drained ends => exact separated.mapValues fun _ _ _ => finish_account
  | popped number entry found done taken => exact separated.popped
  | started read entry now ready bound same going =>
    rw [same]
    let start : RunStart := {
      issue := read
      entry
      going := o.running.size
      limit := settings.maxConcurrentAgents
      pool := settings.runAs }
    exact separated.started start ready.idle bound
  | taken | dropped | queued => exact separated.same rfl fun _ => rfl
  | admitted | held | observed | spent | counted | cleared | finished => exact separated.noted fun _ => rfl

end Moves

section Main

variable {py : Py} {settings : Settings py} {entries : Dict IssueLedger} {parents : Dict ParentRecord}
variable {families : Nat → Family} {labels : List (Settings py × Action)} {live : Live py}

theorem start_separated : Separated (start settings entries parents families) where
  entry _ mem := by cases mem
  start number mem := absurd mem (AList.notMem_empty number)
  once := List.nodup_nil
  apart := .nil
  inPool _ mem := by cases mem

/-- Account separation: in every run of the worker, with reloads that change the pool, no run
started under a pool shares an account with a run that was going. -/
theorem pooled_runs_are_separated
    (run : Steps ReloadStep ⟨settings, start settings entries parents families⟩ labels live) : Separated live.worker := by
  have kept : Kept settings .fixed (start settings entries parents families) := start_kept
  exact (reloads_keep (fun _ _ _ move _ separated => move.separated separated) run kept.toTidy start_separated).2

/-- No two runs that are going have the same account of the pool. -/
def AccountsApart (live : Live py) : Prop :=
  1 < live.settings.runAs.length → ∀ name ∈ live.settings.runAs, ∀ number other entry entry',
    live.worker.running.lookup number = some entry → entry.account = some name →
      live.worker.running.lookup other = some entry' → entry'.account = some name → number = other

/-- The plain settings with these accounts. -/
def runningAs (runAs : List String) : Settings Py.ascii := { plainSettings with runAs }

/-- With one account its runs share it, and a reload that makes a pool of it leaves them going. -/
theorem accounts_shared_over_a_reload :
    ∃ live, Steps ReloadStep ⟨runningAs ["session-a"], start (runningAs ["session-a"]) ∅ ∅ todoFamily⟩
        [(runningAs ["session-a"], .tick (plainTick 0 [todoIssue 8, todoIssue 9])),
          (runningAs ["session-a", "session-b"], .tick (plainTick 1000 []))] live ∧
      ¬ AccountsApart live := by
  let solo := runningAs ["session-a"]
  let pool := runningAs ["session-a", "session-b"]
  let dispatched := Pass.after (tick solo solo (plainTick 0 [todoIssue 8, todoIssue 9])) (start solo ∅ ∅ todoFamily)
  let reloaded := Pass.after (tick solo pool (plainTick 1000 [])) dispatched
  refine ⟨⟨pool, reloaded⟩, .cons tick_reloads (.cons tick_reloads (.nil _)), fun apart => ?_⟩
  have at_8 : (reloaded.running.lookup 8).map RunningEntry.account = some (some "session-a") := by decide +kernel
  have at_9 : (reloaded.running.lookup 9).map RunningEntry.account = some (some "session-a") := by decide +kernel
  obtain ⟨entry, found, account⟩ := Option.map_eq_some_iff.mp at_8
  obtain ⟨entry', found', account'⟩ := Option.map_eq_some_iff.mp at_9
  have same := apart (by decide) "session-a" List.mem_cons_self 8 9 entry entry' found account found' account'
  cases same

/-- Two runs under a pool of two. -/
theorem two_pooled_runs_are_separated :
    ∃ live, Steps ReloadStep ⟨runningAs [], start (runningAs []) ∅ ∅ todoFamily⟩
        [(runningAs ["session-a", "session-b"], .tick (plainTick 0 [todoIssue 8, todoIssue 9]))] live ∧
      live.worker.running.size = 2 ∧ Separated live.worker := by
  refine ⟨_, .cons tick_reloads (.nil _), by decide +kernel, ?_⟩
  exact pooled_runs_are_separated (.cons tick_reloads (.nil _))

end Main

end Orchestrator
end Issuebot
