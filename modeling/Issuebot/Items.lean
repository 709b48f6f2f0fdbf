import Mathlib.Data.List.Nodup

/-!
# Python's mappings, item by item

A dictionary as the list of its items, in the order of its keys: what `d[key] = value` and
`d.pop(key, None)` leave under each key.
-/

namespace Issuebot
set_option autoImplicit false

variable {κ β : Type} [DecidableEq κ] {key other : κ} {value : β} {items : List (κ × β)}

/-- `mapping[key] = value` -/
def setItem (key : κ) (value : β) : List (κ × β) → List (κ × β)
  | [] => [(key, value)]
  | (other, old) :: rest => if other = key then (other, value) :: rest else (other, old) :: setItem key value rest

/-- `mapping.pop(key, None)` -/
def popItem (key : κ) (items : List (κ × β)) : List (κ × β) := items.filter fun item => item.1 ≠ key

/-- A key set to a value, or popped for want of one. -/
def storeItem (key : κ) (value : Option β) (items : List (κ × β)) : List (κ × β) :=
  value.elim (popItem key items) fun value => setItem key value items

section Lookup

variable [BEq κ] [LawfulBEq κ]

theorem lookup_setItem_self : (setItem key value items).lookup key = some value := by
  induction items with
  | nil => simp [setItem]
  | cons item rest ih =>
    obtain ⟨other, old⟩ := item
    by_cases same : other = key
    · simp [setItem, same]
    · simp [setItem, same, List.lookup_cons, beq_false_of_ne (Ne.symm same), ih]

theorem lookup_setItem_of_ne (ne : other ≠ key) : (setItem key value items).lookup other = items.lookup other := by
  induction items with
  | nil => simp [setItem, List.lookup_cons, beq_false_of_ne ne]
  | cons item rest ih =>
    obtain ⟨here, old⟩ := item
    by_cases same : here = key
    · subst same
      simp [setItem, List.lookup_cons, beq_false_of_ne ne]
    · simp [setItem, same, List.lookup_cons, ih]

theorem lookup_popItem_self : (popItem key items).lookup key = none := by
  rw [List.lookup_eq_none_iff]
  intro item kept
  have ne : item.1 ≠ key := by simpa using (List.mem_filter.mp kept).2
  exact bne_iff_ne.mpr ne.symm

theorem lookup_popItem_of_ne (ne : other ≠ key) : (popItem key items).lookup other = items.lookup other := by
  induction items with
  | nil => rfl
  | cons item rest ih =>
    obtain ⟨here, old⟩ := item
    by_cases same : here = key
    · subst same
      simpa [popItem, List.lookup_cons, beq_false_of_ne ne] using ih
    · rw [popItem, List.filter_cons_of_pos (by simpa using same), List.lookup_cons, List.lookup_cons, ← popItem, ih]

@[simp] theorem lookup_storeItem_self {stored : Option β} : (storeItem key stored items).lookup key = stored := by
  cases stored with
  | none => exact lookup_popItem_self
  | some value => exact lookup_setItem_self

theorem lookup_storeItem_of_ne {stored : Option β} (ne : other ≠ key) :
    (storeItem key stored items).lookup other = items.lookup other := by
  cases stored with
  | none => exact lookup_popItem_of_ne ne
  | some value => exact lookup_setItem_of_ne ne

/-- To store what is there changes nothing. -/
theorem storeItem_lookup : storeItem key (items.lookup key) items = items := by
  induction items with
  | nil => rfl
  | cons item rest ih =>
    obtain ⟨here, old⟩ := item
    by_cases same : here = key
    · subst same
      simp [storeItem, setItem]
    · rw [List.lookup_cons, beq_false_of_ne (Ne.symm same)]
      show storeItem key (rest.lookup key) _ = _
      cases found : rest.lookup key with
      | none =>
        rw [found] at ih
        show List.filter _ _ = _
        rw [List.filter_cons_of_pos (by simpa using same)]
        exact congrArg _ ih
      | some value =>
        rw [found] at ih
        show setItem key value _ = _
        rw [setItem, if_neg same]
        exact congrArg _ ih

end Lookup

theorem keys_setItem :
    (setItem key value items).map Prod.fst = if key ∈ items.map Prod.fst then items.map Prod.fst else items.map Prod.fst ++ [key] := by
  induction items with
  | nil => rfl
  | cons item rest ih =>
    obtain ⟨here, old⟩ := item
    by_cases same : here = key
    · simp [setItem, same]
    · rw [setItem, if_neg same, List.map_cons, ih, List.map_cons]
      have mem : key ∈ here :: rest.map Prod.fst ↔ key ∈ rest.map Prod.fst := by simp [Ne.symm same]
      by_cases there : key ∈ rest.map Prod.fst
      · rw [if_pos there, if_pos (mem.mpr there)]
      · rw [if_neg there, if_neg (mt mem.mp there), List.cons_append]

theorem of_mem_setItem {item : κ × β} (mem : item ∈ setItem key value items) : item.2 = value ∨ item ∈ items := by
  induction items with
  | nil => exact .inl (congrArg Prod.snd (List.mem_singleton.mp mem))
  | cons first rest ih =>
    obtain ⟨here, old⟩ := first
    rw [setItem] at mem
    split at mem
    · rcases List.mem_cons.mp mem with rfl | mem
      · exact .inl rfl
      · exact .inr (List.mem_cons_of_mem _ mem)
    · rcases List.mem_cons.mp mem with rfl | mem
      · exact .inr List.mem_cons_self
      · exact (ih mem).imp_right (List.mem_cons_of_mem _)

theorem nodup_keys_storeItem {stored : Option β} (once : (items.map Prod.fst).Nodup) :
    ((storeItem key stored items).map Prod.fst).Nodup := by
  cases stored with
  | none => exact once.sublist (List.filter_sublist.map Prod.fst)
  | some value =>
    show ((setItem key value items).map Prod.fst).Nodup
    rw [keys_setItem]
    split
    · exact once
    next absent =>
      rw [← List.concat_eq_append]
      exact once.concat absent

theorem of_mem_storeItem {stored : Option β} {item : κ × β} (mem : item ∈ storeItem key stored items) :
    stored = some item.2 ∨ item ∈ items := by
  cases stored with
  | none => exact .inr (List.mem_of_mem_filter mem)
  | some value => exact (of_mem_setItem mem).imp_left fun same => congrArg some same.symm

theorem mem_of_lookup [BEq κ] [LawfulBEq κ] (found : items.lookup key = some value) : (key, value) ∈ items := by
  induction items with
  | nil => cases found
  | cons item rest ih =>
    obtain ⟨here, old⟩ := item
    rw [List.lookup_cons] at found
    by_cases same : key = here
    · subst same
      simp only [beq_self_eq_true, Option.some.injEq] at found
      subst found
      exact List.mem_cons_self
    · rw [beq_false_of_ne same] at found
      exact List.mem_cons_of_mem _ (ih found)

end Issuebot
