import Issuebot.Logic.Runs
import Issuebot.Orchestrator.Admission

/-!
# What a full ledger forgets

A full ledger drops the entry at the far end of its queue, and an eviction is a budget reset. The
queue is in the order of the last runs as long as every entry that moves to its near end is the one
last run (`InTurn`): a dispatch moves it there, and so does a failure, a cost, the end of a chain or
a session's record, whichever issue has run since.
-/

namespace Issuebot
set_option autoImplicit false
open Logic

/-- The operations on a ledger. -/
inductive LedgerOp where
  | dispatched (number : Nat) (now : Datetime)
  | spent (number : Nat) (turns : Int) (costUsd : Usd)
  | failed (number : Nat)
  | cleared (number : Nat)
  | observed (number attempt maxAttempts : Nat)
  | refused (number : Nat) (reason : String)
  | markEscaped (number : Nat)
  | escalate (number : Nat)
  | forget (number : Nat)
  deriving DecidableEq, Repr

namespace Ledger

variable {ledger ledger' : Ledger} {op : LedgerOp} {number other : Nat} {entry : IssueLedger}

def apply (ledger : Ledger) : LedgerOp → Ledger
  | .dispatched number now => ledger.dispatched number now
  | .spent number turns costUsd => ledger.spent number turns costUsd
  | .failed number => ledger.failed number
  | .cleared number => ledger.cleared number
  | .observed number attempt maxAttempts => ledger.observed number attempt maxAttempts
  | .refused number reason => (ledger.refused number reason).2
  | .markEscaped number => ledger.markEscaped number
  | .escalate number => ledger.escalate number
  | .forget number => ledger.forget number

/-- The operations one after another. -/
def applyAll (ledger : Ledger) (ops : List LedgerOp) : Ledger := ops.foldl apply ledger

section Order

/-- The queue is in the order of the last runs, the latest first. -/
def Ordered (ledger : Ledger) : Prop :=
  ledger.entries.entries.Pairwise fun newer older => lastRunLe older.2 newer.2

/-- Every entry dropped on the way from `before` was last run no later than every entry kept. -/
def EvictsLeastRun (before after : Ledger) : Prop :=
  ∀ number ∈ after.evicted.drop before.evicted.length, ∀ kept ∈ after.entries.entries, lastRunLe (before.get number) kept.2

instance : Decidable (EvictsLeastRun ledger ledger') := by
  unfold EvictsLeastRun
  infer_instance

/-- The issue an operation moves to the near end, and the last run it shows there. -/
def moves (ledger : Ledger) : LedgerOp → Option (Nat × Option Datetime)
  | .dispatched number now => some (number, some now)
  | .spent number _ _ | .failed number => some (number, (ledger.get number).lastRunAt)
  | .cleared number =>
    if (ledger.get number).failures = 0 ∧ (ledger.get number).reportedRefusal = none then none
    else some (number, (ledger.get number).lastRunAt)
  | .observed number attempt maxAttempts =>
    if seededChain (attempt - 1) maxAttempts ≤ (ledger.get number).failures then none
    else some (number, (ledger.get number).lastRunAt)
  | .refused _ _ | .markEscaped _ | .escalate _ | .forget _ => none

/-- Nothing has run after the issue the operation moves. -/
def InTurn (ledger : Ledger) (op : LedgerOp) : Prop :=
  ∀ moved ∈ ledger.moves op, ∀ other ∈ ledger.entries.entries, other.1 ≠ moved.1 →
    lastRunLe other.2 { lastRunAt := moved.2 }

instance : Decidable (ledger.InTurn op) := by
  unfold InTurn
  infer_instance

/-- What an operation does to the queue: it moves one entry to the near end and drops what no
longer fits, or it drops nothing and moves nothing. -/
inductive Queued (ledger ledger' : Ledger) (op : LedgerOp) : Prop where
  | moved (number : Nat) (entry : IssueLedger) (put : ledger' = ledger.put number entry)
      (moves : ledger.moves op = some (number, entry.lastRunAt))
  | stayed (moves : ledger.moves op = none) (limit : ledger'.limit = ledger.limit)
      (evicted : ledger'.evicted = ledger.evicted) (ordered : ledger.Ordered → ledger'.Ordered)

theorem lastRunLe_congr {a a' b b' : IssueLedger} (left : a'.lastRunAt = a.lastRunAt) (right : b'.lastRunAt = b.lastRunAt) :
    lastRunLe a' b' = lastRunLe a b := by
  unfold lastRunLe
  rw [left, right]

/-- An entry rewritten in its place keeps it. -/
theorem rewrite_ordered {f : IssueLedger → IssueLedger} (same : ∀ entry, (f entry).lastRunAt = entry.lastRunAt)
    (ordered : ledger.Ordered) : (ledger.rewrite number f).Ordered := by
  apply List.pairwise_map.mpr
  apply ordered.imp
  intro newer older le
  have kept : ∀ found : Sigma fun _ : Nat => IssueLedger,
      (if found.1 = number then f found.2 else found.2).lastRunAt = found.2.lastRunAt := by
    intro found
    split
    · exact same _
    · rfl
  exact (lastRunLe_congr (kept older) (kept newer)).trans le

theorem rewrite_queued {f : IssueLedger → IssueLedger} (same : ∀ entry, (f entry).lastRunAt = entry.lastRunAt)
    (moves : ledger.moves op = none) : Queued ledger (ledger.rewrite number f) op :=
  .stayed moves rfl rfl (rewrite_ordered same)

/-- Every operation moves one entry or none. -/
theorem apply_queued (ledger : Ledger) (op : LedgerOp) : Queued ledger (ledger.apply op) op := by
  have unchanged : ledger.moves op = none → Queued ledger ledger op := fun none => .stayed none rfl rfl id
  cases op with
  | dispatched number now => exact .moved _ _ rfl rfl
  | spent number turns costUsd => exact .moved _ _ rfl rfl
  | failed number => exact .moved _ _ rfl rfl
  | cleared number =>
    by_cases isIdle : (ledger.get number).failures = 0 ∧ (ledger.get number).reportedRefusal = none
    · have same : ledger.apply (.cleared number) = ledger := if_pos isIdle
      rw [same]
      exact unchanged (if_pos isIdle)
    · exact .moved _ _ (if_neg isIdle) (if_neg isIdle)
  | observed number attempt maxAttempts =>
    by_cases within : seededChain (attempt - 1) maxAttempts ≤ (ledger.get number).failures
    · have same : ledger.apply (.observed number attempt maxAttempts) = ledger := if_pos within
      rw [same]
      exact unchanged (if_pos within)
    · exact .moved _ _ (if_neg within) (if_neg within)
  | refused number reason =>
    show Queued ledger (ledger.refused number reason).2 _
    unfold refused
    split
    · exact unchanged rfl
    · split
      · exact unchanged rfl
      · exact rewrite_queued (fun _ => rfl) rfl
  | markEscaped number => exact rewrite_queued (fun _ => rfl) rfl
  | escalate number => exact rewrite_queued (fun _ => rfl) rfl
  | forget number =>
    have erased : (ledger.forget number).entries.entries.Sublist ledger.entries.entries := List.kerase_sublist _ _
    exact .stayed rfl rfl rfl fun ordered => ordered.sublist erased

end Order

section Step

theorem lastRunLe_iff {a b : IssueLedger} : lastRunLe a b ↔ ∀ time ∈ a.lastRunAt, ∃ time' ∈ b.lastRunAt, time ≤ time' := by
  unfold lastRunLe
  cases a.lastRunAt <;> cases b.lastRunAt <;> simp

theorem lastRunLe_trans {a b c : IssueLedger} (first : lastRunLe a b) (second : lastRunLe b c) : lastRunLe a c := by
  rw [lastRunLe_iff] at *
  intro time is_time
  obtain ⟨time', is_time', le⟩ := first time is_time
  obtain ⟨time'', is_time'', le'⟩ := second time' is_time'
  exact ⟨time'', is_time'', Int.le_trans le le'⟩

theorem lastRunLe_total (a b : IssueLedger) : lastRunLe a b ∨ lastRunLe b a := by
  unfold lastRunLe
  cases a.lastRunAt with
  | none => exact .inl rfl
  | some time =>
    cases b.lastRunAt with
    | none => exact .inr rfl
    | some time' => simpa using Int.le_total time time'

/-- Entries in order, cut to the limit: those kept are in order, and none of them was last run
before one that is dropped. -/
theorem trim_ordered {kept : Dict IssueLedger} {limit : Nat} {limit_pos : 0 < limit} {evicted : List Nat}
    (sorted : kept.entries.Pairwise fun newer older => lastRunLe older.2 newer.2) :
    (trim kept limit limit_pos evicted).Ordered ∧
      ∀ newer ∈ (trim kept limit limit_pos evicted).entries.entries, ∀ older ∈ kept.entries.drop limit,
        lastRunLe older.2 newer.2 := by
  rw [← List.take_append_drop limit kept.entries] at sorted
  obtain ⟨ordered, -, across⟩ := List.pairwise_append.mp sorted
  exact ⟨ordered, across⟩

/-- What is dropped when an entry is put, by its key and its entry before. -/
theorem put_evicted : (ledger.put number entry).evicted.drop ledger.evicted.length =
    (((ledger.entries.insert number entry).entries.drop ledger.limit).map Sigma.fst).reverse := by
  show (ledger.evicted ++ _).drop _ = _
  rw [List.drop_left]

theorem mem_dropped {found : Sigma fun _ : Nat => IssueLedger}
    (mem : found ∈ (ledger.entries.insert number entry).entries.drop ledger.limit) :
    found ∈ ledger.entries.entries.kerase number ∧ ledger.get found.1 = found.2 := by
  obtain ⟨limit, is_limit⟩ := Nat.exists_eq_add_of_lt ledger.limit_pos
  rw [AList.entries_insert, is_limit, Nat.zero_add, List.drop_succ_cons] at mem
  have erased := List.mem_of_mem_drop mem
  refine ⟨erased, ?_⟩
  have here : found ∈ ledger.entries.entries := (List.kerase_sublist _ _).subset erased
  have lookup : ledger.entries.lookup found.1 = some found.2 := AList.mem_lookup_iff.mpr here
  simp [get, lookup]

theorem mem_erased {found : Sigma fun _ : Nat => IssueLedger} :
    found ∈ ledger.entries.entries.kerase number ↔ found ∈ ledger.entries.entries ∧ found.1 ≠ number := by
  obtain ⟨other, entry⟩ := found
  show ⟨other, entry⟩ ∈ (ledger.entries.erase number).entries ↔ _
  rw [← AList.mem_lookup_iff]
  by_cases same : other = number
  · subst same
    simp [AList.lookup_erase]
  · rw [AList.lookup_erase_ne same, AList.mem_lookup_iff]
    simp [same]

/-- A ledger an entry was put in: the entry, and then the others, but for those dropped. -/
theorem put_entries : ∃ older, (ledger.put number entry).entries.entries = ⟨number, entry⟩ :: older ∧
    older ++ (ledger.entries.insert number entry).entries.drop ledger.limit = ledger.entries.entries.kerase number := by
  obtain ⟨limit, is_limit⟩ := Nat.exists_eq_add_of_lt ledger.limit_pos
  refine ⟨(ledger.entries.entries.kerase number).take limit, ?_, ?_⟩
  · show (ledger.entries.insert number entry).entries.take ledger.limit = _
    rw [AList.entries_insert, is_limit, Nat.zero_add, List.take_succ_cons]
  · rw [AList.entries_insert, is_limit, Nat.zero_add, List.drop_succ_cons, List.take_append_drop]

/-- From a ledger in order, an operation leaves one in order and evicts the issue not run for
longest exactly when it is in turn. -/
theorem apply_ordered_iff (ordered : ledger.Ordered) :
    (ledger.apply op).Ordered ∧ EvictsLeastRun ledger (ledger.apply op) ↔ ledger.InTurn op := by
  cases apply_queued ledger op with
  | stayed moves limit evicted keeps =>
    refine iff_of_true ⟨keeps ordered, ?_⟩ ?_
    · intro number dropped
      rw [evicted, List.drop_length] at dropped
      cases dropped
    · intro moved is_moved
      rw [moves] at is_moved
      cases is_moved
  | moved number entry put moves =>
    rw [put]
    constructor
    · rintro ⟨kept, evicts⟩ moved is_moved other mem ne
      obtain rfl : (number, entry.lastRunAt) = moved := Option.some.inj (moves.symm.trans is_moved)
      obtain ⟨older, entries, rest⟩ := @put_entries ledger number entry
      unfold Ordered at kept
      rw [entries] at kept
      have left : other ∈ ledger.entries.entries.kerase number := mem_erased.mpr ⟨mem, ne⟩
      rw [← rest, List.mem_append] at left
      rcases left with here | dropped
      · exact (List.pairwise_cons.mp kept).1 other here
      · have gone : other.1 ∈ (ledger.put number entry).evicted.drop ledger.evicted.length := by
          rw [put_evicted]
          exact List.mem_reverse.mpr (List.mem_map_of_mem dropped)
        have le := evicts other.1 gone ⟨number, entry⟩ (by rw [entries]; exact List.mem_cons_self)
        rwa [(mem_dropped dropped).2] at le
    · intro turn
      have sorted : (ledger.entries.insert number entry).entries.Pairwise fun newer older => lastRunLe older.2 newer.2 := by
        rw [AList.entries_insert, List.pairwise_cons]
        refine ⟨fun older mem => ?_, ordered.sublist (List.kerase_sublist _ _)⟩
        obtain ⟨here, ne⟩ := mem_erased.mp mem
        exact turn _ moves older here ne
      obtain ⟨kept, across⟩ := trim_ordered sorted
      refine ⟨kept, fun dropped gone newer mem => ?_⟩
      rw [put_evicted, List.mem_reverse] at gone
      obtain ⟨older, is_dropped, rfl⟩ := List.mem_map.mp gone
      rw [(mem_dropped is_dropped).2]
      exact across newer mem older is_dropped

end Step

section Seed

theorem entries_ofSeed {seed : Dict IssueLedger} {limit : Nat} {limit_pos : 0 < limit} :
    ∃ sorted : Dict IssueLedger, ofSeed seed limit limit_pos = trim sorted limit limit_pos [] ∧
      sorted.entries.Perm seed.entries ∧ sorted.entries.Pairwise fun newer older => lastRunLe older.2 newer.2 := by
  let le (a b : Sigma fun _ : Nat => IssueLedger) : Prop := lastRunLe a.2 b.2
  have total : Std.Total le := ⟨fun a b => lastRunLe_total a.2 b.2⟩
  have trans : IsTrans _ le := ⟨fun _ _ _ => lastRunLe_trans⟩
  refine ⟨_, rfl, ?_, ?_⟩
  · exact ((List.reverse_perm _).trans (List.perm_insertionSort _ _)).trans (List.reverse_perm _)
  · exact List.pairwise_reverse.mpr (List.pairwise_insertionSort le _)

/-- The entries a seed is too long for were last run no later than those it keeps. -/
theorem ofSeed_ordered {seed : Dict IssueLedger} {limit : Nat} {limit_pos : 0 < limit} :
    (ofSeed seed limit limit_pos).Ordered ∧
      ∀ number ∈ (ofSeed seed limit limit_pos).evicted, ∀ dropped ∈ seed.lookup number,
        ∀ kept ∈ (ofSeed seed limit limit_pos).entries.entries, lastRunLe dropped kept.2 := by
  obtain ⟨sorted, is_trim, perm, order⟩ := @entries_ofSeed seed limit limit_pos
  rw [is_trim]
  obtain ⟨ordered, across⟩ := trim_ordered order
  refine ⟨ordered, fun number evicted dropped found newer mem => ?_⟩
  obtain ⟨older, is_older, rfl⟩ := List.mem_map.mp (List.mem_reverse.mp evicted)
  have same : older.2 = dropped := by
    have here : older.2 ∈ seed.lookup older.1 :=
      AList.mem_lookup_iff.mpr (perm.subset (List.mem_of_mem_drop is_older))
    exact Option.mem_unique here found
  exact same ▸ across newer mem older is_older

end Seed

section Runs

/-- One operation, made in turn. -/
def InTurnStep (ledger : Ledger) (op : LedgerOp) (ledger' : Ledger) : Prop :=
  ledger' = ledger.apply op ∧ ledger.InTurn op

theorem run_ordered {ops : List LedgerOp} (run : Steps InTurnStep ledger ops ledger') (ordered : ledger.Ordered) :
    ledger'.Ordered := by
  have keeps : ∀ (s : Ledger) op s', InTurnStep s op s' → s.Ordered → s'.Ordered := by
    rintro s op _ ⟨rfl, turn⟩ ordered
    exact ((apply_ordered_iff ordered).mpr turn).1
  exact run.invariant keeps ordered

theorem apply_limit (ledger : Ledger) (op : LedgerOp) : (ledger.apply op).limit = ledger.limit := by
  cases apply_queued ledger op with
  | moved number entry put moves =>
    rw [put]
    rfl
  | stayed moves limit evicted keeps => exact limit

/-- A seed's own evictions, and those of a run whose operations are all made in turn, are of the
issues not run for longest, and the ledger keeps to its limit. -/
theorem evicts_least_run {seed : Dict IssueLedger} {limit : Nat} {limit_pos : 0 < limit} {ops : List LedgerOp}
    (run : Steps InTurnStep (ofSeed seed limit limit_pos) ops ledger) (step : InTurnStep ledger op ledger') :
    (∀ number ∈ (ofSeed seed limit limit_pos).evicted, ∀ dropped ∈ seed.lookup number,
        ∀ kept ∈ (ofSeed seed limit limit_pos).entries.entries, lastRunLe dropped kept.2) ∧
      EvictsLeastRun ledger ledger' ∧ ledger.entries.size ≤ limit ∧ ledger'.entries.size ≤ limit := by
  have keeps : ∀ (s : Ledger) op s', InTurnStep s op s' → s.limit = limit → s'.limit = limit := by
    rintro s op _ ⟨rfl, -⟩ same
    exact (apply_limit s op).trans same
  have kept := Steps.invariant keeps run
  have limited : ledger.limit = limit := kept rfl
  refine ⟨ofSeed_ordered.2, ?_, limited ▸ ledger.bounded, ?_⟩
  · obtain ⟨rfl, turn⟩ := step
    exact ((apply_ordered_iff (run_ordered run ofSeed_ordered.1)).mpr turn).2
  · rw [← keeps ledger op ledger' step limited]
    exact ledger'.bounded

/-- Issue 1 runs and then issue 2; issue 1 fails; issue 3 runs, and there is room for two: what goes
is issue 2, run after issue 1. -/
theorem failed_issue_outlives_one_run_later :
    ¬ EvictsLeastRun ((ofSeed ∅ 2 (by decide)).applyAll [.dispatched 1 1, .dispatched 2 2, .failed 1])
      ((ofSeed ∅ 2 (by decide)).applyAll [.dispatched 1 1, .dispatched 2 2, .failed 1, .dispatched 3 3]) := by
  decide +kernel

/-- Had issue 2 failed, issue 1 would have gone. -/
theorem first_run_is_evicted :
    EvictsLeastRun ((ofSeed ∅ 2 (by decide)).applyAll [.dispatched 1 1, .dispatched 2 2, .failed 2])
      ((ofSeed ∅ 2 (by decide)).applyAll [.dispatched 1 1, .dispatched 2 2, .failed 2, .dispatched 3 3]) := by
  have run : Steps InTurnStep (ofSeed ∅ 2 (by decide)) [.dispatched 1 1, .dispatched 2 2, .failed 2]
      ((ofSeed ∅ 2 (by decide)).applyAll [.dispatched 1 1, .dispatched 2 2, .failed 2]) :=
    .cons ⟨rfl, by decide +kernel⟩ (.cons ⟨rfl, by decide +kernel⟩ (.cons ⟨rfl, by decide +kernel⟩ (.nil _)))
  have step : InTurnStep ((ofSeed ∅ 2 (by decide)).applyAll [.dispatched 1 1, .dispatched 2 2, .failed 2]) (.dispatched 3 3)
      ((ofSeed ∅ 2 (by decide)).applyAll [.dispatched 1 1, .dispatched 2 2, .failed 2, .dispatched 3 3]) :=
    ⟨rfl, by decide +kernel⟩
  exact (evicts_least_run run step).2.1

end Runs

end Ledger
end Issuebot
