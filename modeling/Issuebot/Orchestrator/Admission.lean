import Issuebot.Dict
import Issuebot.Events
import Issuebot.GitHub.Models
import Mathlib.Data.List.Sort

/-!
# The one gate every claim goes through

May this issue be dispatched, and on what budget? `Ledger` is what each issue has cost this
worker, whatever labels it has worn since, and `admit` (`admits`) the decision. Everything here is pure:
the orchestrator gathers the request and does what the answer says.
-/

namespace Issuebot
set_option autoImplicit false

/-- What the worker may wait for before it claims anything. -/
inductive DispatchHoldKind where
  | preflight
  | auth
  | usage
  | github
  | accounts
  deriving DecidableEq, Repr

/-- Why a retry waits. -/
inductive RetryKind where
  | continuation
  | failure
  | escape
  | slots
  | hold (kind : DispatchHoldKind)
  | order
  deriving DecidableEq, Repr

inductive RefusalKind where
  | stopping
  | hold
  | slots
  | busy
  | inactive
  | order
  | attempts
  | spend
  deriving DecidableEq, Repr

/-- Why this worker will not claim anything at all. -/
structure Hold where
  kind : DispatchHoldKind
  reason : String
  key : Option String := none
  untilTime : Option Datetime := none
  window : Option String := none
  deriving DecidableEq, Repr

/-- What one issue has cost this worker. `failures` is the chain `max_attempts` bounds, and
the other figures are cumulative. -/
structure IssueLedger where
  failures : Nat := 0
  runs : Nat := 0
  turns : Int := 0
  costUsd : Usd := 0
  lastRunAt : Option Datetime := none
  reportedRefusal : Option String := none
  escalated : Bool := false
  escaped : Bool := false
  deriving DecidableEq, Repr

/-- The number of the run about to start. -/
def IssueLedger.attempt (entry : IssueLedger) : Nat := entry.failures + 1

/-- What a chain read from before this process may contribute: one short of the ceiling. -/
def seededChain (failures maxAttempts : Nat) : Nat := min failures (maxAttempts - 1)

/-- A seed leaves the issue a run. -/
theorem seededChain_lt {failures maxAttempts : Nat} (pos : 0 < maxAttempts) :
    seededChain failures maxAttempts < maxAttempts := by
  unfold seededChain
  omega

/-- `LEDGER_LIMIT` -/
def ledgerLimit : Nat := 1024

/-- Per-issue history, bounded: `evicted` is every key `on_evict` was called with. -/
structure Ledger where
  entries : Dict IssueLedger
  limit : Nat
  evicted : List Nat
  limit_pos : 0 < limit
  bounded : entries.size ≤ limit

namespace Ledger

variable {ledger : Ledger} {number other : Nat} {entry : IssueLedger}

/-- This issue's history; the empty one when there is none. -/
def get (ledger : Ledger) (number : Nat) : IssueLedger := (ledger.entries.lookup number).getD {}

/-- The newest `limit` entries of `kept`, the others evicted oldest first. -/
def trim (kept : Dict IssueLedger) (limit : Nat) (limit_pos : 0 < limit) (evicted : List Nat) : Ledger where
  entries := ⟨kept.entries.take limit, kept.nodupKeys.sublist (List.take_sublist _ _)⟩
  limit
  evicted := evicted ++ ((kept.entries.drop limit).map Sigma.fst).reverse
  limit_pos
  bounded := List.length_take_le _ _

/-- Whether an entry was last run no later than another; one never run comes first. -/
def lastRunLe (a b : IssueLedger) : Bool :=
  match a.lastRunAt, b.lastRunAt with
  | none, _ => true
  | some _, none => false
  | some at1, some at2 => decide (at1 ≤ at2)

/-- A ledger of what its reader found, in the order the issues were last run. -/
def ofSeed (seed : Dict IssueLedger) (limit : Nat) (limit_pos : 0 < limit) : Ledger :=
  let sorted := seed.entries.reverse.insertionSort fun a b => lastRunLe a.2 b.2
  trim ⟨sorted.reverse, List.perm_nodupKeys
    (((List.reverse_perm _).trans (List.perm_insertionSort _ _)).trans (List.reverse_perm _)).symm |>.mp seed.nodupKeys⟩
    limit limit_pos []

/-- `_put`: the entry becomes the most recently touched. -/
def put (ledger : Ledger) (number : Nat) (entry : IssueLedger) : Ledger :=
  trim (ledger.entries.insert number entry) ledger.limit ledger.limit_pos ledger.evicted

/-- An entry rewritten in its place; one that is not there stays away. -/
def rewrite (ledger : Ledger) (number : Nat) (f : IssueLedger → IssueLedger) : Ledger :=
  { ledger with
    entries := ledger.entries.modify number f
    bounded := by simpa [Dict.modify, Dict.mapValues, Dict.size] using ledger.bounded }

/-- An entry is trimmed away only as an eviction. -/
theorem get_trim {kept : Dict IssueLedger} {limit : Nat} {limit_pos : 0 < limit} {evicted : List Nat} :
    (trim kept limit limit_pos evicted).get other = (kept.lookup other).getD {} ∨
      (trim kept limit limit_pos evicted).get other = {} ∧ other ∈ (trim kept limit limit_pos evicted).evicted := by
  by_cases dropped : other ∈ (kept.entries.drop limit).map Sigma.fst
  · right
    have absent : other ∉ (kept.entries.take limit).keys := by
      have split := kept.nodupKeys
      rw [← List.take_append_drop limit kept.entries, List.nodupKeys_iff_pairwise] at split
      intro mem
      obtain ⟨entry, taken, rfl⟩ := List.mem_map.mp mem
      obtain ⟨entry', left, same⟩ := List.mem_map.mp dropped
      exact (List.pairwise_append.mp split).2.2 entry taken entry' left same.symm
    refine ⟨?_, List.mem_append_right _ (List.mem_reverse.mpr dropped)⟩
    simp only [get, trim, AList.lookup, List.dlookup_eq_none.mpr absent, Option.getD_none]
  · left
    have whole : kept.entries.dlookup other = (kept.entries.take limit).dlookup other := by
      rw [← List.take_append_drop limit kept.entries, List.dlookup_append]
      simp [List.dlookup_eq_none.mpr dropped]
    simp only [get, trim, AList.lookup, whole]

@[simp] theorem get_put_self : (ledger.put number entry).get number = entry := by
  obtain ⟨limit, is_limit⟩ := Nat.exists_eq_add_of_lt ledger.limit_pos
  have taken : (ledger.entries.insert number entry).entries.take ledger.limit =
      ⟨number, entry⟩ :: (ledger.entries.entries.kerase number).take limit := by
    rw [AList.entries_insert, is_limit, Nat.zero_add, List.take_succ_cons]
  simp only [get, put, trim, AList.lookup, taken, List.dlookup_cons_eq, Option.getD_some]

theorem get_put_of_ne (ne : other ≠ number) :
    (ledger.put number entry).get other = ledger.get other ∨
      (ledger.put number entry).get other = {} ∧ other ∈ (ledger.put number entry).evicted := by
  have kept : (ledger.entries.insert number entry).lookup other = ledger.entries.lookup other :=
    AList.lookup_insert_ne ne
  rw [put, show ledger.get other = ((ledger.entries.insert number entry).lookup other).getD {} by rw [kept, get]]
  exact get_trim

theorem get_rewrite {f : IssueLedger → IssueLedger} :
    (ledger.rewrite number f).get other = ledger.get other ∨
      other = number ∧ (ledger.rewrite number f).get other = f (ledger.get other) := by
  by_cases same : other = number
  · subst same
    cases found : ledger.entries.lookup other with
    | none => exact .inl (by simp [get, rewrite, found])
    | some entry => exact .inr ⟨rfl, by simp [get, rewrite, found]⟩
  · exact .inl (by simp [get, rewrite, Dict.lookup_modify_of_ne same])

/-- One more run for this issue. -/
def dispatched (ledger : Ledger) (number : Nat) (now : Datetime) : Ledger :=
  let current := ledger.get number
  ledger.put number
    { current with
      runs := current.runs + 1
      lastRunAt := some now
      reportedRefusal := none
      escalated := false
      escaped := false }

/-- What the run that just ended used. -/
def spent (ledger : Ledger) (number : Nat) (turns : Int) (costUsd : Usd) : Ledger :=
  let current := ledger.get number
  ledger.put number
    { current with turns := current.turns + max turns 0, costUsd := current.costUsd + max costUsd 0 }

/-- One more failure on the chain. -/
def failed (ledger : Ledger) (number : Nat) : Ledger :=
  let current := ledger.get number
  ledger.put number { current with failures := current.failures + 1 }

/-- The chain is over; the cumulative figures stay. -/
def cleared (ledger : Ledger) (number : Nat) : Ledger :=
  let current := ledger.get number
  if current.failures = 0 ∧ current.reportedRefusal = none then ledger
  else ledger.put number { current with failures := 0, reportedRefusal := none }

/-- A floor from before this process: a session record that was on `attempt`. -/
def observed (ledger : Ledger) (number attempt maxAttempts : Nat) : Ledger :=
  let current := ledger.get number
  let failures := seededChain (attempt - 1) maxAttempts
  if failures ≤ current.failures then ledger else ledger.put number { current with failures }

/-- Record that the gate turned this issue away; true when that is news. -/
def refused (ledger : Ledger) (number : Nat) (reason : String) : Bool × Ledger :=
  match ledger.entries.lookup number with
  | none => (false, ledger)
  | some current =>
    if current.reportedRefusal = some reason then (false, ledger)
    else (true, ledger.rewrite number fun entry => { entry with reportedRefusal := some reason })

/-- This issue was handed to a human, and nothing has run for it since. -/
def markEscaped (ledger : Ledger) (number : Nat) : Ledger :=
  ledger.rewrite number fun entry => { entry with escaped := true }

/-- Mark this issue's budget escalation as announced. -/
def escalate (ledger : Ledger) (number : Nat) : Ledger :=
  ledger.rewrite number fun entry => { entry with escalated := true }

/-- The issue reached a terminal state. -/
def forget (ledger : Ledger) (number : Nat) : Ledger :=
  { ledger with
    entries := ledger.entries.erase number
    bounded := Nat.le_trans (List.kerase_sublist _ _).length_le ledger.bounded }

section Figures

/-- A change of one issue's entry, which may evict the others. -/
structure Only (ledger ledger' : Ledger) (number : Nat) : Prop where
  others : ∀ other ≠ number,
    ledger'.get other = ledger.get other ∨ ledger'.get other = {} ∧ other ∈ ledger'.evicted
  evicted : ∀ other ∈ ledger.evicted, other ∈ ledger'.evicted

theorem Only.refl : Only ledger ledger number := ⟨fun _ _ => .inl rfl, fun _ h => h⟩

/-- A figure of any issue that is not evicted: changed if the entry is its own, and kept if not. -/
theorem Only.figure {α : Type} {ledger' : Ledger} (only : Only ledger ledger' other) (figure : IssueLedger → α)
    (f : α → α) (kept : number ∉ ledger'.evicted) (here : figure (ledger'.get other) = f (figure (ledger.get other))) :
    figure (ledger'.get number) =
      if other = number then f (figure (ledger.get number)) else figure (ledger.get number) := by
  split
  next same => rw [← same, here]
  next ne =>
    rcases only.others number (Ne.symm ne) with same | ⟨-, gone⟩
    · rw [same]
    · exact absurd gone kept

/-- A figure no entry of which changed. -/
theorem Only.same {α : Type} {ledger' : Ledger} (only : Only ledger ledger' other) (figure : IssueLedger → α)
    (kept : number ∉ ledger'.evicted) (here : figure (ledger'.get other) = figure (ledger.get other)) :
    figure (ledger'.get number) = figure (ledger.get number) :=
  (only.figure figure id kept here).trans (ite_self _)

theorem put_only : Only ledger (ledger.put number entry) number :=
  ⟨fun _ ne => get_put_of_ne ne, fun _ h => List.mem_append_left _ h⟩

theorem cleared_only : Only ledger (ledger.cleared number) number := by
  unfold cleared
  dsimp only
  split
  · exact .refl
  · exact put_only

theorem observed_only {attempt maxAttempts : Nat} : Only ledger (ledger.observed number attempt maxAttempts) number := by
  unfold observed
  dsimp only
  split
  · exact .refl
  · exact put_only

theorem forget_only : Only ledger (ledger.forget number) number :=
  ⟨fun _ ne => .inl (by simp only [get, forget, AList.lookup_erase_ne ne]), fun _ h => h⟩

@[simp] theorem dispatched_failures {now : Datetime} :
    ((ledger.dispatched number now).get number).failures = (ledger.get number).failures := by simp [dispatched]

@[simp] theorem dispatched_costUsd {now : Datetime} :
    ((ledger.dispatched number now).get number).costUsd = (ledger.get number).costUsd := by simp [dispatched]

@[simp] theorem spent_failures {turns : Int} {costUsd : Usd} :
    ((ledger.spent number turns costUsd).get number).failures = (ledger.get number).failures := by simp [spent]

@[simp] theorem spent_costUsd {turns : Int} {costUsd : Usd} :
    ((ledger.spent number turns costUsd).get number).costUsd = (ledger.get number).costUsd + max costUsd 0 := by
  simp [spent]

@[simp] theorem spent_turns {turns : Int} {costUsd : Usd} :
    ((ledger.spent number turns costUsd).get number).turns = (ledger.get number).turns + max turns 0 := by
  simp [spent]

@[simp] theorem failed_failures :
    ((ledger.failed number).get number).failures = (ledger.get number).failures + 1 := by simp [failed]

@[simp] theorem failed_costUsd : ((ledger.failed number).get number).costUsd = (ledger.get number).costUsd := by
  simp [failed]

@[simp] theorem failed_turns : ((ledger.failed number).get number).turns = (ledger.get number).turns := by
  simp [failed]

@[simp] theorem cleared_failures : ((ledger.cleared number).get number).failures = 0 := by
  unfold cleared
  dsimp only
  split
  next exceeds => exact exceeds.1
  next => simp

@[simp] theorem cleared_costUsd : ((ledger.cleared number).get number).costUsd = (ledger.get number).costUsd := by
  unfold cleared
  dsimp only
  split <;> simp

@[simp] theorem cleared_turns : ((ledger.cleared number).get number).turns = (ledger.get number).turns := by
  unfold cleared
  dsimp only
  split <;> simp

@[simp] theorem observed_failures {attempt maxAttempts : Nat} :
    ((ledger.observed number attempt maxAttempts).get number).failures =
      max (ledger.get number).failures (seededChain (attempt - 1) maxAttempts) := by
  unfold observed
  dsimp only
  split
  next within => exact (Nat.max_eq_left within).symm
  next exceeds =>
    rw [get_put_self]
    exact (Nat.max_eq_right (Nat.le_of_not_le exceeds)).symm

@[simp] theorem observed_costUsd {attempt maxAttempts : Nat} :
    ((ledger.observed number attempt maxAttempts).get number).costUsd = (ledger.get number).costUsd := by
  unfold observed
  dsimp only
  split <;> simp

@[simp] theorem get_forget_self : (ledger.forget number).get number = {} := by
  simp [get, forget, AList.lookup_erase]

end Figures

section Marks

variable {f : IssueLedger → IssueLedger}

/-- A mark leaves the figures it does not write. -/
theorem rewrite_kept {α : Type} {figure : IssueLedger → α} (same : ∀ entry, figure (f entry) = figure entry) :
    figure ((ledger.rewrite number f).get other) = figure (ledger.get other) := by
  rcases @get_rewrite ledger number other f with kept | ⟨-, marked⟩
  · rw [kept]
  · rw [marked, same]

end Marks

section Seed

variable {seed : Dict IssueLedger} {limit : Nat} {limit_pos : 0 < limit}

/-- A seeded ledger holds what its reader found, but for what it evicted. -/
theorem get_ofSeed :
    (ofSeed seed limit limit_pos).get number = (seed.lookup number).getD {} ∨
      (ofSeed seed limit limit_pos).get number = {} ∧ number ∈ (ofSeed seed limit limit_pos).evicted := by
  have perm : ((seed.entries.reverse.insertionSort fun a b => lastRunLe a.2 b.2).reverse).Perm seed.entries :=
    ((List.reverse_perm _).trans (List.perm_insertionSort _ _)).trans (List.reverse_perm _)
  rw [AList.lookup, List.perm_dlookup number seed.nodupKeys perm.symm]
  exact get_trim

end Seed

end Ledger

/-- A sub-issue held behind an earlier step of its parent's split; `waitsFor` is `none` when
the parent's order could not be read. -/
structure OrderHold where
  parent : Nat
  waitsFor : Option Nat
  deriving DecidableEq, Repr

def orderReason (hold : OrderHold) : String :=
  match hold.waitsFor with
  | none => "the order of #" ++ toString hold.parent ++ "'s sub-issues could not be read"
  | some step => "waits for #" ++ toString step ++ ", an earlier step of #" ++ toString hold.parent

/-- Everything the decision to claim depends on. `issue` is `none` for a caller that has not
refreshed it yet. -/
structure AdmissionRequest where
  issue : Option Issue := none
  ledger : IssueLedger := {}
  hold : Option Hold := none
  slots : Nat
  busy : Bool := false
  stopping : Bool := false
  maxAttempts : Nat
  maxIssueCostUsd : Usd := 0
  kind : RunKind := .work
  order : Option OrderHold := none
  deriving DecidableEq, Repr

/-- Claim it, on this attempt number. -/
structure Admitted where
  attempt : Nat
  ledger : IssueLedger
  deriving DecidableEq, Repr

/-- Do not claim it. `wait` is how a caller that can wait requeues. -/
structure Refused where
  kind : RefusalKind
  reason : String
  wait : Option RetryKind := none
  deriving DecidableEq, Repr

abbrev Admission := Except Refused Admitted

/-- `ACTIVE_STATES` -/
def activeStates : List StateLabel := [.todo, .inProgress, .rework]

/-- `issue.dispatchable and issue.state in ACTIVE_STATES` -/
def Issue.isActive (issue : Issue) : Bool :=
  issue.dispatchable && issue.state.any fun state => activeStates.contains state

/-- Why a work run of this issue is refused, by its state, its order and its chain. -/
def workRefusal (issue : Issue) (request : AdmissionRequest) : Option Refused :=
  if ¬ issue.isActive then
    some { kind := .inactive, reason := "the issue is not in a state this worker claims" }
  else match request.order with
    | some hold =>
      if issue.state = some .todo then some { kind := .order, reason := orderReason hold, wait := some .order }
      else chain
    | none => chain
where
  chain : Option Refused :=
    if request.maxAttempts ≤ request.ledger.failures then
      some {
        kind := .attempts
        reason := toString request.ledger.failures ++
          " worker sessions have failed for this issue in a row and agent.max_attempts is " ++
          toString request.maxAttempts }
    else none

/-- Why a run of any kind is refused, by what the issue has cost. -/
def spendRefusal (py : Py) (request : AdmissionRequest) : Option Refused :=
  if 0 < request.maxIssueCostUsd ∧ request.maxIssueCostUsd ≤ request.ledger.costUsd then
    some {
      kind := .spend
      reason := "this issue has cost $" ++ py.fixed2 request.ledger.costUsd ++ " over " ++
        toString request.ledger.runs ++ " runs and agent.max_issue_cost_usd is $" ++
        py.fixed2 request.maxIssueCostUsd }
  else none

/-- The single admission decision, in the order the preconditions outrank each other. -/
def admits (py : Py) (request : AdmissionRequest) : Admission :=
  let admitted : Admitted := { attempt := request.ledger.attempt, ledger := request.ledger }
  if request.stopping then .error { kind := .stopping, reason := "the worker is shutting down" }
  else match request.hold with
  | some hold => .error { kind := .hold, reason := hold.reason, wait := some (.hold hold.kind) }
  | none =>
    if request.slots = 0 then
      .error { kind := .slots, reason := "no available orchestrator slots", wait := some .slots }
    else if request.busy then
      .error { kind := .busy, reason := "the issue is already running or waiting to retry" }
    else match request.issue with
    | none => .ok admitted
    | some issue =>
      match if request.kind = .work then workRefusal issue request else none with
      | some refused => .error refused
      | none =>
        match spendRefusal py request with
        | some refused => .error refused
        | none => .ok admitted

section Admit

variable {py : Py} {request : AdmissionRequest} {admitted : Admitted} {issue : Issue}

theorem workRefusal_eq_none :
    workRefusal issue request = none ↔ issue.isActive = true ∧
      (issue.state = some .todo → request.order = none) ∧ request.ledger.failures < request.maxAttempts := by
  have chain : workRefusal.chain request = none ↔ request.ledger.failures < request.maxAttempts := by
    unfold workRefusal.chain
    split <;> simp <;> omega
  unfold workRefusal
  by_cases active : issue.isActive
  · cases order : request.order with
    | none => simp [active, chain]
    | some hold =>
      by_cases todo : issue.state = some .todo
      · simp [active, todo]
      · simp [active, todo, chain]
  · simp [active]

theorem spendRefusal_eq_none :
    spendRefusal py request = none ↔
      (0 < request.maxIssueCostUsd → request.ledger.costUsd < request.maxIssueCostUsd) := by
  unfold spendRefusal
  split
  next exceeds =>
    simp only [reduceCtorEq, false_iff]
    exact fun within => absurd (within exceeds.1) (Int.not_lt.mpr exceeds.2)
  next within =>
    simp only [true_iff]
    exact fun positive => Int.not_le.mp fun exceeds => within ⟨positive, exceeds⟩

/-- Admitted without the issue: the worker's own preconditions. -/
structure AdmissionRequest.Open (request : AdmissionRequest) : Prop where
  running : request.stopping = false
  noHold : request.hold = none
  slot : 0 < request.slots
  idle : request.busy = false

/-- What an admitted issue has shown. -/
structure AdmissionRequest.Allows (request : AdmissionRequest) (issue : Issue) : Prop where
  active : request.kind = .work → issue.isActive = true
  inOrder : request.kind = .work → issue.state = some .todo → request.order = none
  chain : request.kind = .work → request.ledger.failures < request.maxAttempts
  budget : 0 < request.maxIssueCostUsd → request.ledger.costUsd < request.maxIssueCostUsd

/-- The gate, read once. -/
theorem admits_eq_ok_iff :
    admits py request = .ok admitted ↔ request.Open ∧ (∀ issue, request.issue = some issue → request.Allows issue) ∧
      admitted = { attempt := request.ledger.attempt, ledger := request.ledger } := by
  unfold admits
  by_cases stopping : request.stopping
  · simp only [stopping, if_true, reduceCtorEq, false_iff, not_and]
    exact fun is_open => absurd is_open.running (by simp [stopping])
  cases hold : request.hold with
  | some hold =>
    simp only [stopping, Bool.false_eq_true, if_false, reduceCtorEq, false_iff, not_and]
    exact fun is_open => absurd is_open.noHold (by simp [hold])
  | none =>
  by_cases slots : request.slots = 0
  · simp only [stopping, Bool.false_eq_true, if_false, slots, if_true, reduceCtorEq, false_iff, not_and]
    exact fun is_open => absurd is_open.slot (by omega)
  by_cases busy : request.busy
  · simp only [stopping, Bool.false_eq_true, if_false, slots, busy, if_true, reduceCtorEq, false_iff, not_and]
    exact fun is_open => absurd is_open.idle (by simp [busy])
  have is_open : request.Open := ⟨by simpa using stopping, hold, by omega, by simpa using busy⟩
  simp only [stopping, Bool.false_eq_true, if_false, slots, busy, is_open, true_and]
  cases shown : request.issue with
  | none => simp [eq_comm]
  | some issue =>
    have work : (if request.kind = .work then workRefusal issue request else none) = none ↔
        (request.kind = .work → issue.isActive = true ∧ (issue.state = some .todo → request.order = none) ∧
          request.ledger.failures < request.maxAttempts) := by
      by_cases is_work : request.kind = .work
      · simp [is_work, workRefusal_eq_none]
      · simp [is_work]
    have allows : request.Allows issue ↔
        (if request.kind = .work then workRefusal issue request else none) = none ∧
          spendRefusal py request = none := by
      rw [work, spendRefusal_eq_none]
      constructor
      · exact fun h => ⟨fun is_work => ⟨h.active is_work, h.inOrder is_work, h.chain is_work⟩, h.budget⟩
      · exact fun h => ⟨fun is_work => (h.1 is_work).1, fun is_work => (h.1 is_work).2.1,
          fun is_work => (h.1 is_work).2.2, h.2⟩
    simp only [Option.some.injEq, forall_eq', allows]
    cases (if request.kind = .work then workRefusal issue request else none) with
    | some refused => simp
    | none =>
      cases spendRefusal py request with
      | some refused => simp
      | none => simp [eq_comm]

/-- Who refuses: one of the four preconditions, the work order or the budget. -/
theorem refused_cases {refused : Refused} (gate : admits py request = .error refused) :
    refused.kind ∈ [.stopping, .hold, .slots, .busy] ∨ (∃ issue, workRefusal issue request = some refused) ∨
      spendRefusal py request = some refused := by
  unfold admits at gate
  dsimp only at gate
  split at gate
  · cases gate
    exact .inl (by simp)
  split at gate
  · cases gate
    exact .inl (by simp)
  split at gate
  · cases gate
    exact .inl (by simp)
  split at gate
  · cases gate
    exact .inl (by simp)
  split at gate
  · cases gate
  next issue _ =>
    split at gate
    next refusal told =>
      cases gate
      split at told
      · exact .inr (.inl ⟨issue, told⟩)
      · cases told
    split at gate
    next refusal told =>
      cases gate
      exact .inr (.inr told)
    · cases gate

theorem spendRefusal_kind {refused : Refused} (spend : spendRefusal py request = some refused) : refused.kind = .spend := by
  unfold spendRefusal at spend
  split at spend
  · cases spend
    rfl
  · cases spend

/-- The gate refuses for the order only where it is given one. -/
theorem order_of_refused {refused : Refused} (gate : admits py request = .error refused)
    (for_order : refused.kind = .order) : request.order.isSome = true := by
  obtain early | ⟨issue, work⟩ | spend := refused_cases gate
  · rw [for_order] at early
    exact absurd early (by decide)
  · unfold workRefusal workRefusal.chain at work
    repeat' split at work
    all_goals cases work
    all_goals simp_all
  · rw [spendRefusal_kind spend] at for_order
    cases for_order

end Admit
end Issuebot
