import Issuebot.Logic.Histories
import Issuebot.Orchestrator.Conduct

/-!
# The failure chain and the budget survive label moves

A label move changes neither figure of an issue: each is a tally of what the worker itself
did with it (`chainAfter`, `spendAfter`). The gate reads both before every start, so the
chain never passes `max_attempts` and an issue over its budget is not admitted, whoever has
moved which label in between.
-/

namespace Issuebot
set_option autoImplicit false
open Logic

namespace Orchestrator

variable {py : Py} (settings : Settings py) (number : Nat)

section Tallies

/-- What an occurrence makes of the issue's chain. -/
def chainStep (failures : Nat) : Occurrence → Nat
  | .observed other attempt =>
    if other = number then max failures (seededChain (attempt - 1) settings.maxAttempts) else failures
  | .counted other => if other = number then failures + 1 else failures
  | .cleared other | .finished other => if other = number then 0 else failures
  | _ => failures

/-- What an occurrence makes of the issue's recorded spend. -/
def spendStep (costUsd : Usd) : Occurrence → Usd
  | .spent other _ cost => if other = number then costUsd + max cost 0 else costUsd
  | .finished other => if other = number then 0 else costUsd
  | _ => costUsd

/-- The chain a history leaves, from the one it began with. -/
def chainAfter (failures : Nat) (history : List Occurrence) : Nat :=
  tallied (chainStep settings number) failures history

/-- The spend a history leaves. -/
def spendAfter (costUsd : Usd) (history : List Occurrence) : Usd := tallied (spendStep number) costUsd history

end Tallies

/-- What an occurrence meets: a start or an admission needs the issue within its budget, a work
run its chain below the ceiling, and no occurrence brings the chain over it. -/
structure Fair (chain₀ : Nat) (cost₀ : Usd) (before : List Occurrence) (occurrence : Occurrence) : Prop where
  started : ∀ start, occurrence = .started start → start.entry.kind = .work → start.issue.number = number →
    chainAfter settings number chain₀ before < settings.maxAttempts
  budget : ∀ issue, occurrence.runOf = some issue → issue.number = number → 0 < settings.maxIssueCostUsd →
    spendAfter number cost₀ before < settings.maxIssueCostUsd
  within : chainStep settings number (chainAfter settings number chain₀ before) occurrence ≤ settings.maxAttempts

/-- The books are kept: each figure is the tally of the history, and each entry was fair. -/
structure Audit (chain₀ : Nat) (cost₀ : Usd) (o : Orchestrator) : Prop where
  failures : (o.ledger.get number).failures = chainAfter settings number chain₀ o.history
  costUsd : (o.ledger.get number).costUsd = spendAfter number cost₀ o.history
  fair : Throughout (Fair settings number chain₀ cost₀) o.history

section Moves

variable {settings} {number} {terms : Terms} {o o' : Orchestrator} {chain₀ : Nat} {cost₀ : Usd}

/-- An eviction is for good. -/
theorem Move.evicted (move : Move settings terms o o') (evicted : number ∈ o.ledger.evicted) :
    number ∈ o'.ledger.evicted := by
  cases move with
  | aside aside => exact aside.evicted ▸ evicted
  | touched | taskOver | drained | taken | popped | dropped | queued | admitted | held => exact evicted
  | started => exact Ledger.put_only.evicted number evicted
  | observed => exact Ledger.observed_only.evicted number evicted
  | spent => exact Ledger.put_only.evicted number evicted
  | counted => exact Ledger.put_only.evicted number evicted
  | cleared => exact Ledger.cleared_only.evicted number evicted
  | finished => exact Ledger.forget_only.evicted number evicted

/-- One more occurrence, booked. -/
theorem Audit.book {occurrence : Occurrence} (audit : Audit settings number chain₀ cost₀ o)
    (history : o'.history = o.history ++ [occurrence])
    (chain : (o'.ledger.get number).failures = chainStep settings number (o.ledger.get number).failures occurrence)
    (spend : (o'.ledger.get number).costUsd = spendStep number (o.ledger.get number).costUsd occurrence)
    (fair : Fair settings number chain₀ cost₀ o.history occurrence) :
    Audit settings number chain₀ cost₀ o' where
  failures := by rw [chain, audit.failures, history, chainAfter, chainAfter, tallied_concat]
  costUsd := by rw [spend, audit.costUsd, history, spendAfter, spendAfter, tallied_concat]
  fair := by
    rw [history]
    exact throughout_concat.mpr ⟨audit.fair, fair⟩

/-- An occurrence that names no run is fair to every issue that it brings to no ceiling. -/
theorem Fair.of_quiet {occurrence : Occurrence} {before : List Occurrence} (quiet : occurrence.runOf = none)
    (within : chainStep settings number (chainAfter settings number chain₀ before) occurrence ≤ settings.maxAttempts) :
    Fair settings number chain₀ cost₀ before occurrence where
  started start is_start := by
    subst is_start
    cases quiet
  budget issue names := by
    rw [quiet] at names
    cases names
  within := within

/-- What a gate let pass, or a start, is fair. -/
theorem Audit.fair_run {occurrence : Occurrence} {issue : Issue} {kind : RunKind}
    (audit : Audit settings number chain₀ cost₀ o) (kept : Kept settings .fixed o) (allowed : Allowed settings issue kind o)
    (names : occurrence.runOf = some issue)
    (of_kind : ∀ start, occurrence = .started start → start.entry.kind = kind) :
    Fair settings number chain₀ cost₀ o.history occurrence where
  started start is_start work here := by
    have same_kind := (of_kind start is_start).symm.trans work
    subst is_start
    obtain rfl : start.issue = issue := Option.some.inj names
    rw [← audit.failures, ← here]
    exact allowed.chain same_kind
  budget other is_other here capped := by
    obtain rfl : issue = other := Option.some.inj (names.symm.trans is_other)
    rw [← audit.costUsd, ← here]
    exact allowed.budget capped
  within := by
    rw [← audit.failures]
    cases occurrence with
    | admitted | started => exact kept.chain trivial number
    | _ => cases names

/-- Every move keeps the books of an issue that is not evicted. -/
theorem Move.audit (move : Move settings .fixed o o') (kept : Kept settings .fixed o) (remains : number ∉ o'.ledger.evicted)
    (audit : Audit settings number chain₀ cost₀ o) : Audit settings number chain₀ cost₀ o' := by
  have within : chainAfter settings number chain₀ o.history ≤ settings.maxAttempts :=
    audit.failures ▸ kept.chain trivial number
  cases move with
  | aside aside =>
    exact ⟨by rw [aside.failures, aside.history, audit.failures], by rw [aside.costUsd, aside.history, audit.costUsd],
      by rw [aside.history]; exact audit.fair⟩
  | touched | taskOver | drained | taken | dropped | queued => exact ⟨audit.failures, audit.costUsd, audit.fair⟩
  | admitted issue kind order admitted gate =>
    exact audit.book rfl rfl rfl (audit.fair_run kept (allowed_of_gate gate) rfl fun _ is_start => by cases is_start)
  | held | popped => exact audit.book rfl rfl rfl (.of_quiet rfl within)
  | started read entry now ready bound same going =>
    refine audit.book rfl ?_ ?_ (audit.fair_run kept ready.toAllowed rfl fun _ is_start => by cases is_start; rfl)
    · exact Ledger.put_only.same IssueLedger.failures remains Ledger.dispatched_failures
    · exact Ledger.put_only.same IssueLedger.costUsd remains Ledger.dispatched_costUsd
  | observed other attempt =>
    have seed_le : seededChain (attempt - 1) settings.maxAttempts ≤ settings.maxAttempts :=
      (seededChain_lt settings.maxAttempts_pos).le
    refine audit.book rfl ?_ ?_ (.of_quiet rfl ?_)
    · exact Ledger.observed_only.figure IssueLedger.failures (max · _) remains Ledger.observed_failures
    · exact Ledger.observed_only.same IssueLedger.costUsd remains Ledger.observed_costUsd
    · dsimp only [chainStep]
      split <;> omega
  | spent other result =>
    refine audit.book rfl ?_ ?_ (.of_quiet rfl within)
    · exact Ledger.put_only.same IssueLedger.failures remains Ledger.spent_failures
    · exact Ledger.put_only.figure IssueLedger.costUsd (· + max result.costUsd 0) remains Ledger.spent_costUsd
  | counted other idle chain =>
    refine audit.book rfl ?_ ?_ (.of_quiet rfl ?_)
    · exact Ledger.put_only.figure IssueLedger.failures (· + 1) remains Ledger.failed_failures
    · exact Ledger.put_only.same IssueLedger.costUsd remains Ledger.failed_costUsd
    · dsimp only [chainStep]
      split
      next same =>
        rw [← audit.failures, ← same]
        exact chain trivial
      next => exact within
  | cleared other =>
    refine audit.book rfl ?_ ?_ (.of_quiet rfl ?_)
    · exact Ledger.cleared_only.figure IssueLedger.failures (fun _ => 0) remains Ledger.cleared_failures
    · exact Ledger.cleared_only.same IssueLedger.costUsd remains Ledger.cleared_costUsd
    · dsimp only [chainStep]
      split <;> omega
  | finished other =>
    refine audit.book rfl ?_ ?_ (.of_quiet rfl ?_)
    · exact Ledger.forget_only.figure IssueLedger.failures (fun _ => 0) remains (by simp)
    · exact Ledger.forget_only.figure IssueLedger.costUsd (fun _ => 0) remains (by simp)
    · dsimp only [chainStep]
      split <;> omega

/-- A whole run keeps the books of an issue that is not evicted at its end. -/
theorem Reached.evicted (reached : Reached settings terms o o') (evicted : number ∈ o.ledger.evicted) :
    number ∈ o'.ledger.evicted := by
  induction reached with
  | refl => exact evicted
  | tail _ move ih => exact move.evicted ih

theorem Reached.audit (reached : Reached settings .fixed o o') (kept : Kept settings .fixed o)
    (remains : number ∉ o'.ledger.evicted) (audit : Audit settings number chain₀ cost₀ o) :
    Audit settings number chain₀ cost₀ o' := by
  induction reached with
  | refl => exact audit
  | @tail s s' reached move ih =>
    have before : number ∉ s.ledger.evicted := fun evicted => remains (move.evicted evicted)
    exact move.audit (Reached.kept reached kept) remains (ih before)

end Moves

section Main

/-- The exit of a work run of the issue that counted a failure. -/
def countsFailure (occurrence : Occurrence) : Bool := occurrence = .counted number

variable {settings} {number} {chain₀ : Nat} {cost₀ : Usd} {o : Orchestrator}

end Main

end Orchestrator
end Issuebot
