import Mathlib.Data.List.MinMax
import Mathlib.Tactic.Common

/-!
# The pool of session accounts

Which account of the pool each workspace belongs to. The record is one file that is read
afresh on every call, and a binding to an account that has left the pool is none.
-/

namespace Issuebot
set_option autoImplicit false

/-- What the registry's file holds, by workspace key, and which workspaces are open: a
workspace is open exactly while a session runs in it. -/
structure AccountRegistry where
  recorded : List (String × String)
  isOpen : String → Bool

namespace AccountRegistry

variable (registry : AccountRegistry) (accounts : List String) (key : String) (busy : List String)

/-- `_load`: the bindings whose account is still in the pool. -/
def load : List (String × String) := registry.recorded.filter fun binding => accounts.contains binding.2

/-- `bound`: the account `key` is bound to, without binding one. -/
def bound : Option String :=
  ((registry.load accounts).find? fun binding => binding.1 = key).map Prod.snd

/-- `busy_accounts`: the accounts with a workspace open. -/
def busyAccounts : List String :=
  ((registry.load accounts).filter fun binding => registry.isOpen binding.1).map Prod.snd

/-- The workspaces bound to an account. -/
def bindingsOf (account : String) : Nat := (registry.load accounts).countP fun binding => binding.2 = account

/-- `allocate`: the account `key` has, else the least-loaded one no session runs as, the
earlier in the pool on a tie. -/
def allocate : Option String :=
  match registry.bound accounts key with
  | some existing => some existing
  | none => (accounts.filter fun name => !busy.contains name).argmin (registry.bindingsOf accounts)

section Pool

variable {registry accounts key busy} {account : String}

theorem bound_mem (found : registry.bound accounts key = some account) : account ∈ accounts := by
  obtain ⟨binding, is_binding, rfl⟩ := Option.map_eq_some_iff.mp found
  have loaded := List.mem_of_find?_eq_some is_binding
  simpa using (List.mem_filter.mp loaded).2

/-- Whatever the registry answers is in the pool. -/
theorem allocate_mem (found : registry.allocate accounts key busy = some account) : account ∈ accounts := by
  unfold allocate at found
  split at found
  next existing =>
    cases found
    exact bound_mem existing
  next => exact (List.mem_filter.mp (List.argmin_mem found)).1

end Pool

end AccountRegistry
end Issuebot
