import Mathlib.Data.List.MinMax
import Mathlib.Data.List.Sort
import Mathlib.Data.List.Perm.Basic
import Mathlib.Tactic.Common

/-!
# Choosing the latest of a list

`List.argmax` is Python's `max(..., key=...)`: of several maxima it answers the one
nearest the front. `Latest f l m` says that `m` is a maximum of `l`, which is all a
choice that must not depend on the order of `l` may read of it: `choice_order_free_iff`
says that what the choice leads to is the same in every order exactly when it is the
same for every maximum. `Inserted p xs ys` is `ys` obtained from `xs` by inserting elements
satisfying `p` anywhere, which a reader that filters them out again cannot see.
-/

namespace Issuebot.Logic
set_option autoImplicit false

section Inserted

variable {α β : Type} {p : α → Prop} {xs ys : List α}

/-- `Inserted p xs ys`: `ys` is `xs` with elements satisfying `p` inserted. -/
inductive Inserted (p : α → Prop) : List α → List α → Prop where
  | nil : Inserted p [] []
  | keep {xs ys : List α} (a : α) : Inserted p xs ys → Inserted p (a :: xs) (a :: ys)
  | add {xs ys : List α} (a : α) : p a → Inserted p xs ys → Inserted p xs (a :: ys)

/-- Everything that was there is still there. -/
theorem Inserted.subset (h : Inserted p xs ys) : xs ⊆ ys := by
  induction h with
  | nil => exact List.Subset.refl _
  | keep a _ ih => exact List.cons_subset_cons a ih
  | add a _ _ ih => exact List.subset_cons_of_subset a ih

/-- A partial reading that skips every inserted element does not see the insertion. -/
theorem Inserted.filterMap_eq {g : α → Option β} (h : Inserted p xs ys)
    (skips : ∀ a, p a → g a = none) : ys.filterMap g = xs.filterMap g := by
  induction h with
  | nil => rfl
  | keep a _ ih => simp only [List.filterMap_cons, ih]
  | add a pa _ ih => simp only [List.filterMap_cons, skips a pa, ih]

end Inserted

section Latest

variable {α β γ : Type} [LinearOrder β] {f : α → β} {l : List α} {m : α}

/-- `m` is of `l`, and nothing of `l` comes after it. -/
structure Latest (f : α → β) (l : List α) (m : α) : Prop where
  mem : m ∈ l
  max : ∀ a ∈ l, f a ≤ f m

/-- `argmax` answers a latest element. -/
theorem Latest.of_argmax (h : l.argmax f = some m) : Latest f l m :=
  ⟨List.argmax_mem h, fun _ ha => List.le_of_mem_argmax ha h⟩

/-- Two latest elements are equally late. -/
theorem Latest.eq_at {n : α} (hm : Latest f l m) (hn : Latest f l n) : f m = f n :=
  le_antisymm (hn.max m hm.mem) (hm.max n hn.mem)

/-- Being latest does not depend on the order of the list. -/
theorem Latest.perm {l' : List α} (h : Latest f l m) (perm : l.Perm l') : Latest f l' m :=
  ⟨perm.subset h.mem, fun a ha => h.max a (perm.symm.subset ha)⟩

/-- A non-empty list has a latest element, and `argmax` answers one. -/
theorem exists_argmax (h : l ≠ []) : ∃ m, l.argmax f = some m :=
  Option.ne_none_iff_exists'.mp (mt List.argmax_eq_none.mp h)

/-- A latest element at the head is the one `argmax` answers. -/
theorem argmax_cons_of_max (hmax : ∀ a ∈ l, f a ≤ f m) : (m :: l).argmax f = some m := by
  rw [List.argmax_cons]
  cases h : l.argmax f with
  | none => rfl
  | some c =>
    have below := hmax c (List.argmax_mem h)
    simp [not_lt.mpr below]

/-- Every latest element of a partial reading is the one answered in some order of the list. -/
theorem exists_perm_argmax (g : γ → Option α) {events : List γ}
    (latest : Latest f (events.filterMap g) m) :
    ∃ events' : List γ, events'.Perm events ∧ (events'.filterMap g).argmax f = some m := by
  obtain ⟨e, he, ge⟩ := List.mem_filterMap.mp latest.mem
  obtain ⟨s, t, rfl⟩ := List.append_of_mem he
  refine ⟨e :: (s ++ t), List.perm_middle.symm, ?_⟩
  rw [List.filterMap_cons, ge]
  apply argmax_cons_of_max
  intro a ha
  apply latest.max
  rw [List.filterMap_append] at ha ⊢
  rcases List.mem_append.mp ha with left | right
  · exact List.mem_append_left _ left
  · exact List.mem_append_right _ (by rw [List.filterMap_cons, ge]; exact List.mem_cons_of_mem _ right)

/-- What a choice of latest element leads to is the same in every order of the list exactly
when it is the same for every latest element. -/
theorem choice_order_free_iff (g : γ → Option α) (P : α → Prop) {events : List γ} :
    (∀ events' : List γ, events'.Perm events →
        ((∃ m, (events'.filterMap g).argmax f = some m ∧ P m) ↔
          ∃ m, (events.filterMap g).argmax f = some m ∧ P m)) ↔
      ∀ c d, Latest f (events.filterMap g) c → Latest f (events.filterMap g) d → P c → P d := by
  constructor
  · intro free c d latest_c latest_d holds
    obtain ⟨first_c, perm_c, answers_c⟩ := exists_perm_argmax g latest_c
    obtain ⟨first_d, perm_d, answers_d⟩ := exists_perm_argmax g latest_d
    obtain ⟨m, answers_m, holds_m⟩ :=
      (free first_d perm_d).mpr ((free first_c perm_c).mp ⟨c, answers_c, holds⟩)
    rw [answers_d, Option.some.injEq] at answers_m
    exact answers_m ▸ holds_m
  · intro agree events' perm
    have both : ∀ xs ys : List γ, xs.Perm events → ys.Perm events →
        (∃ m, (xs.filterMap g).argmax f = some m ∧ P m) →
          ∃ m, (ys.filterMap g).argmax f = some m ∧ P m := by
      rintro xs ys perm_xs perm_ys ⟨c, answers_c, holds⟩
      have latest_c := (Latest.of_argmax answers_c).perm (perm_xs.filterMap g)
      have filled := List.ne_nil_of_mem ((perm_ys.filterMap g).symm.subset latest_c.mem)
      obtain ⟨d, answers_d⟩ := exists_argmax (f := f) filled
      have latest_d := (Latest.of_argmax answers_d).perm (perm_ys.filterMap g)
      exact ⟨d, answers_d, agree c d latest_c latest_d holds⟩
    exact ⟨both events' events perm (.refl _), both events events' (.refl _) perm⟩

end Latest

section Sorted

variable {α : Type} {r : α → α → Prop} [DecidableRel r] {l : List α} {p : α → Bool}

/-- The first match of a sorted list is missing exactly when the list has no match. -/
theorem find_insertionSort_eq_none :
    (l.insertionSort r).find? p = none ↔ ∀ a ∈ l, p a = false := by
  rw [List.find?_eq_none]
  simp only [List.mem_insertionSort, Bool.not_eq_true]

end Sorted

end Issuebot.Logic
