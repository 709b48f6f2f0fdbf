import Issuebot.Strings
import Mathlib.Algebra.Order.Field.Rat
import Mathlib.Data.Nat.Log

/-!
# Python's floats

A float is a rational number, or one of the three values that are none. `PyFloat.ofInt` is `float(n)`
of an integer, rounded to 53 bits, which raises `OverflowError` where no float holds it. `max` and `min`
keep their first argument unless the second is beyond it, so they hand a NaN on.
-/

namespace Issuebot
set_option autoImplicit false

inductive PyFloat where
  | finite (value : Rat)
  | nonfinite (value : NonFinite)
  deriving DecidableEq

namespace PyFloat

def zero : PyFloat := finite 0

def one : PyFloat := finite 1

def nan : PyFloat := nonfinite .nan

/-- `n` to the nearest number of 53 bits, a half to the even one. -/
def roundNat (n : Nat) : Nat :=
  let unit := 2 ^ (n.log2 - 52)
  let whole := n / unit
  if 2 * (n % unit) < unit ∨ 2 * (n % unit) = unit ∧ whole % 2 = 0 then whole * unit else (whole + 1) * unit

/-- What no finite float reaches. -/
def bound : Nat := 2 ^ 1024

/-- `float(n)`; `none` is the `OverflowError`. -/
def ofInt (n : Int) : Option PyFloat :=
  if roundNat n.natAbs < bound then some (finite (n.sign * roundNat n.natAbs)) else none

/-- `a < b`: a NaN is beside every number. -/
def lt : PyFloat → PyFloat → Bool
  | finite a, finite b => a < b
  | nonfinite .negInf, finite _ => true
  | finite _, nonfinite .posInf => true
  | nonfinite .negInf, nonfinite .posInf => true
  | _, _ => false

/-- `max(a, b)` -/
def max (a b : PyFloat) : PyFloat := if a.lt b then b else a

/-- `min(a, b)` -/
def min (a b : PyFloat) : PyFloat := if b.lt a then b else a

/-- A finite number from 0 to 1. -/
def IsShare : PyFloat → Prop
  | finite value => 0 ≤ value ∧ value ≤ 1
  | nonfinite _ => False

/-- Cut to the unit interval, all but a NaN is in it. -/
theorem isShare_clamped {x : PyFloat} : ((x.max zero).min one).IsShare ↔ x ≠ nan := by
  cases x with
  | nonfinite value =>
    have positive : ¬ (1 : Rat) < 0 := not_lt.mpr zero_le_one
    cases value <;> simp [max, min, lt, zero, one, nan, IsShare, positive]
  | finite value =>
    simp only [max, lt, zero, decide_eq_true_eq]
    split
    next below => simp [min, lt, one, nan, IsShare, not_lt.mpr zero_le_one]
    next above =>
      simp only [min, lt, one, decide_eq_true_eq]
      split
      next => simp [nan, IsShare]
      next within => simpa [nan, IsShare] using ⟨not_lt.mp above, not_lt.mp within⟩

end PyFloat

end Issuebot
