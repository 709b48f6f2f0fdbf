import Issuebot.Agent.Session
import Issuebot.Events
import Mathlib.Data.List.MinMax
import Mathlib.Data.List.Sort

/-!
# The ledger's seed

The rows the store keeps of one repository's runs and events, and the query a starting worker
reads its admission ledger from. A null moment is `⊥`, which `greatest` ignores and which
every moment is after. An issue's identifier is its number.
-/

namespace Issuebot
set_option autoImplicit false

/-- A row of `runs`: `RunStarted` makes it, and `RunEnded` writes its end. -/
structure RunRow where
  runId : String
  issueNumber : Nat
  kind : RunKind
  startedAt : Datetime
  endedAt : Option Datetime := none
  outcome : Option RunOutcome := none
  turns : Nat := 0
  costUsd : Usd := 0
  deriving DecidableEq, Repr

/-- The kinds of event the query tells apart. -/
inductive EventKind where
  | blocked
  | other
  deriving DecidableEq, Repr

structure EventRow where
  happened : Datetime
  issueNumber : Nat
  kind : EventKind
  deriving DecidableEq, Repr

/-- One issue's durable run history, as the admission ledger reads it. -/
structure LedgerRow where
  issueNumber : Nat
  failures : Nat
  runs : Nat
  turns : Nat
  costUsd : Usd
  lastRunAt : WithBot Datetime
  deriving DecidableEq

structure Store where
  runs : List RunRow := []
  events : List EventRow := []
  deriving DecidableEq, Repr

/-- A work run that succeeded. -/
def RunRow.success (row : RunRow) : Bool := row.outcome = some .succeeded && row.kind = .work

/-- A work run that failed. `stalled` is an outcome no run reports. -/
def RunRow.failure (row : RunRow) : Bool :=
  (row.outcome = some .failed || row.outcome = some .timedOut) && row.kind = .work

namespace Store

variable (store : Store) (since : Datetime) (number : Nat)

/-- `escapes`: when the issue was escaped, within the window. -/
def escapes : List Datetime :=
  (store.events.filter fun event =>
    event.issueNumber = number && event.kind = .blocked && since ≤ event.happened).map EventRow.happened

/-- `ended`: the issue's runs that ended, started within the window. -/
def ended : List RunRow :=
  store.runs.filter fun row => row.issueNumber = number && row.endedAt.isSome && since ≤ row.startedAt

/-- The moments of its runs that succeeded. -/
def successes : List Datetime := ((store.ended since number).filter RunRow.success).map RunRow.startedAt

/-- `chain_start`: the later of the last success and the last escape. -/
def chainStart : WithBot Datetime :=
  max (store.successes since number).maximum (store.escapes since number).maximum

/-- The runs of the live chain. -/
def chain : List RunRow :=
  (store.ended since number).filter fun row => row.failure && store.chainStart since number < row.startedAt

/-- The row of one issue. -/
def ledgerRow : LedgerRow where
  issueNumber := number
  failures := (store.chain since number).length
  runs := (store.ended since number).length
  turns := ((store.ended since number).map RunRow.turns).sum
  costUsd := ((store.ended since number).map RunRow.costUsd).sum
  lastRunAt := ((store.ended since number).map RunRow.startedAt).maximum

/-- The issues with a run that ended within the window. -/
def ledgerIssues : List Nat :=
  ((store.runs.filter fun row => row.endedAt.isSome && since ≤ row.startedAt).map RunRow.issueNumber).dedup

/-- `ISSUE_LEDGERS`: the rows of the latest runs first, at most `limit` of them. -/
def issueLedgers (limit : Nat) : List LedgerRow :=
  (((store.ledgerIssues since).map (store.ledgerRow since)).insertionSort fun a b => b.lastRunAt ≤ a.lastRunAt).take limit

/-- The chain a starting worker reads of the issue: none without a row. -/
def storedFailures (limit : Nat) : Nat :=
  (((store.issueLedgers since limit).find? fun row => row.issueNumber = number).map LedgerRow.failures).getD 0

def addRun (row : RunRow) : Store := { store with runs := store.runs ++ [row] }

def addEvents (events : List EventRow) : Store := { store with events := store.events ++ events }

section Chains

variable {store since number} {row : RunRow} {events : List EventRow} {limit : Nat}

/-- A row counts the issue's chain, or there is none. -/
theorem storedFailures_le : store.storedFailures since number limit ≤ (store.chain since number).length := by
  unfold storedFailures
  cases found : (store.issueLedgers since limit).find? fun row => row.issueNumber = number with
  | none => exact Nat.zero_le _
  | some ledger =>
    have member : ledger ∈ store.issueLedgers since limit := List.mem_of_find?_eq_some found
    have sorted := (List.mem_insertionSort _).mp (List.mem_of_mem_take member)
    obtain ⟨other, -, rfl⟩ := List.mem_map.mp sorted
    have found_here := List.find?_some found
    have same : other = number := of_decide_eq_true found_here
    rw [same]
    exact Nat.le_refl _

theorem mem_chain {x : RunRow} : x ∈ store.chain since number ↔
    x ∈ store.ended since number ∧ x.failure ∧ store.chainStart since number < x.startedAt := by
  simp [chain]

/-- A later start leaves no more of a chain. -/
theorem chain_length_le {store' : Store} (ended : store'.ended since number = store.ended since number)
    (later : store.chainStart since number ≤ store'.chainStart since number) :
    (store'.chain since number).length ≤ (store.chain since number).length := by
  unfold chain
  rw [ended, ← List.countP_eq_length_filter, ← List.countP_eq_length_filter]
  refine List.countP_mono_left fun x _ counted => ?_
  simp only [Bool.and_eq_true, decide_eq_true_eq] at counted ⊢
  exact ⟨counted.1, later.trans_lt counted.2⟩

theorem escapes_addEvents : (store.addEvents events).escapes since number =
    store.escapes since number ++ ({ events } : Store).escapes since number := by
  simp [escapes, addEvents]

/-- Events leave no more of a chain. -/
theorem chain_addEvents_le : ((store.addEvents events).chain since number).length ≤ (store.chain since number).length := by
  refine chain_length_le rfl (max_le_max (le_refl _) ?_)
  rw [escapes_addEvents]
  exact List.maximum_mono (List.subset_append_left _ _)

theorem ended_addRun : (store.addRun row).ended since number =
    store.ended since number ++ ({ runs := [row] } : Store).ended since number := by
  simp [ended, addRun]

/-- A run adds itself to the chain, or nothing. -/
theorem chain_addRun_le : ((store.addRun row).chain since number).length ≤
    (store.chain since number).length + if row.failure && row.endedAt.isSome then 1 else 0 := by
  have later : store.chainStart since number ≤ (store.addRun row).chainStart since number := by
    refine max_le_max (List.maximum_mono ?_) (le_refl _)
    rw [successes, successes, ended_addRun, List.filter_append, List.map_append]
    exact List.subset_append_left _ _
  have before : ((store.ended since number).filter fun x =>
      x.failure && (store.addRun row).chainStart since number < x.startedAt).length ≤ (store.chain since number).length := by
    rw [chain, ← List.countP_eq_length_filter, ← List.countP_eq_length_filter]
    refine List.countP_mono_left fun x _ counted => ?_
    simp only [Bool.and_eq_true, decide_eq_true_eq] at counted ⊢
    exact ⟨counted.1, later.trans_lt counted.2⟩
  have itself : ((({ runs := [row] } : Store).ended since number).filter fun x =>
      x.failure && (store.addRun row).chainStart since number < x.startedAt).length ≤
        if row.failure && row.endedAt.isSome then 1 else 0 := by
    rw [ended, List.filter_filter, ← List.countP_eq_length_filter, List.countP_singleton]
    split
    next counted =>
      simp only [Bool.and_eq_true] at counted
      rw [if_pos (by simp [counted])]
    next => exact Nat.zero_le _
  rw [chain, ended_addRun, List.filter_append, List.length_append]
  exact Nat.add_le_add before itself

/-- No chain goes on past a moment no run of it started after. -/
theorem chain_eq_nil {moment : Datetime} (last : ∀ x ∈ store.runs, x.startedAt ≤ moment)
    (start : since ≤ moment → moment ≤ store.chainStart since number) : store.chain since number = [] := by
  rw [List.eq_nil_iff_forall_not_mem]
  intro x counted
  obtain ⟨ended, -, after⟩ := mem_chain.mp counted
  obtain ⟨run, within⟩ := List.mem_filter.mp ended
  simp only [Bool.and_eq_true, decide_eq_true_eq] at within
  have before : x.startedAt ≤ moment := last x run
  have reached : (x.startedAt : WithBot Datetime) ≤ store.chainStart since number :=
    (WithBot.coe_le_coe.mpr before).trans (start (within.2.trans before))
  exact absurd after (not_lt_of_ge reached)

/-- No chain goes on past an escape that comes after every run. -/
theorem chain_of_escape {event : EventRow} (member : event ∈ store.events) (here : event.issueNumber = number)
    (blocked : event.kind = .blocked) (last : ∀ x ∈ store.runs, x.startedAt ≤ event.happened) :
    store.chain since number = [] := by
  refine chain_eq_nil last fun within => (List.le_maximum_of_mem' ?_).trans (le_max_right _ _)
  exact List.mem_map.mpr ⟨event, List.mem_filter.mpr ⟨member, by simp [here, blocked, within]⟩, rfl⟩

/-- No chain goes on past a success that no run started after. -/
theorem chain_of_success (member : row ∈ store.runs) (here : row.issueNumber = number) (hasEnded : row.endedAt.isSome)
    (success : row.success) (last : ∀ x ∈ store.runs, x.startedAt ≤ row.startedAt) : store.chain since number = [] := by
  refine chain_eq_nil last fun within => (List.le_maximum_of_mem' ?_).trans (le_max_left _ _)
  have ended : row ∈ store.ended since number := List.mem_filter.mpr ⟨member, by simp [here, hasEnded, within]⟩
  exact List.mem_map.mpr ⟨row, List.mem_filter.mpr ⟨ended, success⟩, rfl⟩

end Chains

end Store

end Issuebot
