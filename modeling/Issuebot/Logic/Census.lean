import Mathlib.Data.List.Basic
import Mathlib.Tactic.Common

/-!
# A census of agents

A list of agents, each in some phase, by arrival. `census p` counts those whose phase is in the
class `p`, and a counter kept beside the list is right when it equals the census. One agent's move
shifts the census by what it leaves and what it enters.
-/

namespace Issuebot.Logic
set_option autoImplicit false

variable {α : Type} {p q : α → Bool} {agents : List α} {i : Nat} {a b : α}

/-- The agents in the class. -/
def census (p : α → Bool) (agents : List α) : Int := agents.countP p

/-- One for a member, nothing for another. -/
def weight (p : α → Bool) (a : α) : Int := if p a then 1 else 0

theorem census_nonneg : 0 ≤ census p agents := Int.natCast_nonneg _

theorem weight_of_mem (mem : p a = true) : weight p a = 1 := if_pos mem

theorem weight_of_not (out : p a = false) : weight p a = 0 := if_neg (by simp [out])

theorem weight_nonneg : 0 ≤ weight p a := by
  unfold weight
  split <;> decide

/-- One agent moves from `a` to `b`. -/
theorem census_set (found : agents[i]? = some a) :
    census p (agents.set i b) = census p agents - weight p a + weight p b := by
  induction agents generalizing i with
  | nil => cases found
  | cons agent agents ih =>
    cases i with
    | zero =>
      obtain rfl : agent = a := Option.some.inj found
      simp only [census, weight, List.set_cons_zero, List.countP_cons, Int.natCast_add]
      split <;> split <;> simp
    | succ i =>
      have rest := ih (i := i) found
      simp only [census, List.set_cons_succ, List.countP_cons, Int.natCast_add] at rest ⊢
      rw [rest]
      omega

/-- One agent arrives. -/
theorem census_arrival : census p (agents ++ [a]) = census p agents + weight p a := by
  simp only [census, weight, List.countP_append, List.countP_singleton, Int.natCast_add]
  split <;> rfl

/-- A wider class counts no fewer. -/
theorem census_mono (wider : ∀ a, p a = true → q a = true) : census p agents ≤ census q agents :=
  Int.ofNat_le.mpr (List.countP_mono_left fun a _ => wider a)

theorem census_eq_zero (none : ∀ a ∈ agents, p a = false) : census p agents = 0 := by
  have zero : agents.countP p = 0 := List.countP_eq_zero.mpr fun a mem => by simp [none a mem]
  rw [census, zero]
  rfl

end Issuebot.Logic
