import Mathlib.Data.List.Basic
import Mathlib.Logic.Function.Basic
import Mathlib.Order.Lattice
import Mathlib.Tactic.Common

/-!
# Coalesced writes

A table's rows bear the moment they were seen at, and a write passes by a row that was seen after it. `put` puts a whole
row in place, `change` alters one that is there. A `put` may be made before every write it comes after (`put_change`), and
takes the place of one it comes after (`put_put`). A queue whose one marker stands for a value that is still replaced
then does what the replacement does behind it (`foldl_coalesce`).
-/

namespace Issuebot.Logic
set_option autoImplicit false

section Rows

variable {ρ τ : Type} [LinearOrder τ] {seen : ρ → τ} {t u : τ} {f : ρ → ρ} {row old : ρ} {r : Option ρ}

/-- A row takes the place of one seen no later. -/
def put (seen : ρ → τ) (row : ρ) : Option ρ → Option ρ
  | none => some row
  | some old => if seen old ≤ seen row then some row else some old

/-- A row seen no later than `t` is changed; none is made. -/
def change (seen : ρ → τ) (t : τ) (f : ρ → ρ) : Option ρ → Option ρ :=
  Option.map fun row => if seen row ≤ t then f row else row

/-- A change at `t` leaves a row seen between the moment it was seen at and `t`, and twice is once. -/
structure Dated (seen : ρ → τ) (t : τ) (f : ρ → ρ) : Prop where
  since : ∀ row, seen row ≤ t → seen row ≤ seen (f row)
  within : ∀ row, seen row ≤ t → seen (f row) ≤ t
  again : ∀ row, f (f row) = f row

theorem Dated.id : Dated seen t (fun row => row) := ⟨fun _ _ => le_refl _, fun _ le => le, fun _ => rfl⟩

theorem put_some_of_le (le : seen old ≤ seen row) : put seen row (some old) = some row := if_pos le

theorem put_some_of_lt (lt : seen row < seen old) : put seen row (some old) = some old := if_neg (not_le_of_gt lt)

theorem change_some_of_le (le : seen row ≤ t) : change seen t f (some row) = some (f row) := congrArg some (if_pos le)

theorem change_some_of_lt (lt : t < seen row) : change seen t f (some row) = some row := congrArg some (if_neg (not_le_of_gt lt))

/-- A row is there, seen at `t` or later. -/
def SeenBy (seen : ρ → τ) (t : τ) (r : Option ρ) : Prop := ∃ row, r = some row ∧ t ≤ seen row

/-- What a row takes the place of is not seen again. -/
theorem put_put (le : seen old ≤ seen row) : put seen row (put seen old r) = put seen row r := by
  cases r with
  | none => exact put_some_of_le le
  | some first =>
    rcases le_or_gt (seen first) (seen old) with earlier | later
    · rw [put_some_of_le earlier, put_some_of_le le, put_some_of_le (earlier.trans le)]
    · rw [put_some_of_lt later]

/-- A row put in place after a change may be put there before it. -/
theorem put_change (dated : Dated seen t f) (after : t < seen row) :
    put seen row (change seen t f r) = change seen t f (put seen row r) := by
  cases r with
  | none => exact (change_some_of_lt after).symm
  | some old =>
    rcases le_or_gt (seen old) t with earlier | later
    · rw [change_some_of_le earlier, put_some_of_le ((dated.within old earlier).trans after.le), put_some_of_le (earlier.trans after.le),
        change_some_of_lt after]
    · rw [change_some_of_lt later]
      rcases le_or_gt (seen old) (seen row) with replaced | kept
      · rw [put_some_of_le replaced, change_some_of_lt after]
      · rw [put_some_of_lt kept, change_some_of_lt later]

theorem change_again (dated : Dated seen t f) : change seen t f (change seen t f r) = change seen t f r := by
  cases r with
  | none => rfl
  | some old =>
    rcases le_or_gt (seen old) t with earlier | later
    · rw [change_some_of_le earlier, change_some_of_le (dated.within old earlier), dated.again]
    · rw [change_some_of_lt later, change_some_of_lt later]

theorem seenBy_put_self : SeenBy seen (seen row) (put seen row r) := by
  cases r with
  | none => exact ⟨row, rfl, le_refl _⟩
  | some old =>
    rcases le_or_gt (seen old) (seen row) with replaced | kept
    · exact ⟨row, put_some_of_le replaced, le_refl _⟩
    · exact ⟨old, put_some_of_lt kept, kept.le⟩

theorem seenBy_put (held : SeenBy seen t r) : SeenBy seen t (put seen row r) := by
  obtain ⟨old, rfl, le⟩ := held
  rcases le_or_gt (seen old) (seen row) with replaced | kept
  · exact ⟨row, put_some_of_le replaced, le.trans replaced⟩
  · exact ⟨old, put_some_of_lt kept, le⟩

theorem seenBy_change (dated : Dated seen u f) (held : SeenBy seen t r) : SeenBy seen t (change seen u f r) := by
  obtain ⟨old, rfl, le⟩ := held
  rcases le_or_gt (seen old) u with earlier | later
  · exact ⟨f old, change_some_of_le earlier, le.trans (dated.since old earlier)⟩
  · exact ⟨old, change_some_of_lt later, le⟩

end Rows

section Tables

variable {κ ρ τ : Type} [DecidableEq κ] [LinearOrder τ] {seen : ρ → τ} {table : κ → Option ρ} {key : κ} {row : ρ}

/-- The row under one key. -/
def putAt (seen : ρ → τ) (table : κ → Option ρ) (key : κ) (row : ρ) : κ → Option ρ :=
  Function.update table key (put seen row (table key))

/-- Rows put in place one after another. -/
def putAll (seen : ρ → τ) (rows : List (κ × ρ)) (table : κ → Option ρ) : κ → Option ρ :=
  rows.foldl (fun table entry => putAt seen table entry.1 entry.2) table

theorem putAt_self : putAt seen table key row key = put seen row (table key) := Function.update_self _ _ _

theorem putAt_of_ne {other : κ} (ne : other ≠ key) : putAt seen table key row other = table other := Function.update_of_ne ne _ _

theorem putAll_of_notMem {rows : List (κ × ρ)} (absent : key ∉ rows.map Prod.fst) : putAll seen rows table key = table key := by
  induction rows generalizing table with
  | nil => rfl
  | cons entry rows ih =>
    obtain ⟨ne, absent⟩ := not_or.mp (mt List.mem_cons.mpr absent)
    show putAll seen rows (putAt seen table entry.1 entry.2) key = _
    rw [ih absent, putAt_of_ne ne]

/-- Where no key comes twice, each key's row is put in place. -/
theorem putAll_of_mem {rows : List (κ × ρ)} (distinct : (rows.map Prod.fst).Nodup) (mem : (key, row) ∈ rows) :
    putAll seen rows table key = put seen row (table key) := by
  induction rows generalizing table with
  | nil => exact absurd mem List.not_mem_nil
  | cons entry rows ih =>
    obtain ⟨absent, distinct⟩ := List.nodup_cons.mp distinct
    show putAll seen rows (putAt seen table entry.1 entry.2) key = _
    rcases List.mem_cons.mp mem with rfl | later
    · rw [putAll_of_notMem absent]
      exact putAt_self
    · have ne : key ≠ entry.1 := fun same => absent (same ▸ List.mem_map_of_mem later)
      rw [ih distinct later, putAt_of_ne ne]

/-- A row a batch holds twice over is put in place once. -/
theorem putAll_again {rows : List (κ × ρ)} (distinct : (rows.map Prod.fst).Nodup) :
    putAll seen rows (putAll seen rows table) = putAll seen rows table := by
  funext key
  by_cases listed : key ∈ rows.map Prod.fst
  · obtain ⟨⟨key, row⟩, mem, rfl⟩ := List.mem_map.mp listed
    rw [putAll_of_mem distinct mem, putAll_of_mem distinct mem, put_put (le_refl _)]
  · rw [putAll_of_notMem listed]

/-- Every row of a table is changed, each in its own way. -/
def changeAll (seen : ρ → τ) (t : τ) (f : κ → ρ → ρ) (table : κ → Option ρ) : κ → Option ρ :=
  fun key => change seen t (f key) (table key)

theorem putAt_changeAll {t : τ} {f : κ → ρ → ρ} (dated : ∀ key, Dated seen t (f key)) (after : t < seen row) :
    putAt seen (changeAll seen t f table) key row = changeAll seen t f (putAt seen table key row) := by
  funext other
  by_cases same : other = key
  · subst same
    rw [putAt_self, changeAll, changeAll, putAt_self, put_change (dated other) after]
  · rw [putAt_of_ne same, changeAll, changeAll, putAt_of_ne same]

omit [DecidableEq κ] in
theorem changeAll_again {t : τ} {f : κ → ρ → ρ} (dated : ∀ key, Dated seen t (f key)) :
    changeAll seen t f (changeAll seen t f table) = changeAll seen t f table :=
  funext fun key => change_again (dated key)

theorem seenBy_putAt {t : τ} {other : κ} (held : SeenBy seen t (table other)) : SeenBy seen t (putAt seen table key row other) := by
  by_cases same : other = key
  · subst same
    rw [putAt_self]
    exact seenBy_put held
  · rwa [putAt_of_ne same]

theorem seenBy_putAll {t : τ} {other : κ} {rows : List (κ × ρ)} (held : SeenBy seen t (table other)) :
    SeenBy seen t (putAll seen rows table other) := by
  induction rows generalizing table with
  | nil => exact held
  | cons entry rows ih => exact ih (seenBy_putAt held)

/-- What a batch holds is there afterwards, seen no earlier. -/
theorem seenBy_putAll_of_mem {rows : List (κ × ρ)} (mem : (key, row) ∈ rows) : SeenBy seen (seen row) (putAll seen rows table key) := by
  induction rows generalizing table with
  | nil => exact absurd mem List.not_mem_nil
  | cons entry rows ih =>
    rcases List.mem_cons.mp mem with rfl | later
    · show SeenBy seen (seen row) (putAll seen rows (putAt seen table key row) key)
      refine seenBy_putAll ?_
      rw [putAt_self]
      exact seenBy_put_self
    · exact ih later

/-- Rows each under its own name, whatever was there. -/
def setAll (name : ρ → κ) (rows : List ρ) (table : κ → Option ρ) : κ → Option ρ :=
  rows.foldl (fun table row => Function.update table (name row) (some row)) table

/-- Rows set twice are set once: under a name that none of them has the table is left, and under theirs it is forgotten. -/
theorem setAll_again {name : ρ → κ} {rows : List ρ} : setAll name rows (setAll name rows table) = setAll name rows table := by
  have left {rows : List ρ} {table : κ → Option ρ} {key : κ} (unnamed : key ∉ rows.map name) : setAll name rows table key = table key := by
    induction rows generalizing table with
    | nil => rfl
    | cons row rows ih =>
      obtain ⟨ne, unnamed⟩ := not_or.mp (mt List.mem_cons.mpr unnamed)
      show setAll name rows (Function.update table (name row) (some row)) key = _
      rw [ih unnamed, Function.update_of_ne ne]
  have forgotten {rows : List ρ} {table table' : κ → Option ρ} {key : κ} (named : key ∈ rows.map name) :
      setAll name rows table key = setAll name rows table' key := by
    induction rows generalizing table table' with
    | nil => exact absurd named List.not_mem_nil
    | cons row rows ih =>
      show setAll name rows (Function.update table _ _) key = setAll name rows (Function.update table' _ _) key
      by_cases later : key ∈ rows.map name
      · exact ih later
      · obtain rfl : key = name row := (List.mem_cons.mp named).resolve_right later
        rw [left later, left later, Function.update_self, Function.update_self]
  funext key
  by_cases named : key ∈ rows.map name
  · exact forgotten named
  · rw [left named]

end Tables

section Queues

variable {α σ : Type} {f f' : σ → α → σ} {g : σ → σ} {marker : α} {before after : List α}

/-- Where an element comes once, the rest is without it. -/
theorem exists_split_of_count [DecidableEq α] {queue : List α} (once : queue.count marker = 1) :
    ∃ before after, queue = before ++ marker :: after ∧ marker ∉ before ∧ marker ∉ after := by
  obtain ⟨before, after, rfl⟩ := List.append_of_mem (List.count_pos_iff.mp (once ▸ Nat.one_pos))
  rw [List.count_append, List.count_cons_self] at once
  exact ⟨before, after, rfl, List.count_eq_zero.mp (by omega), List.count_eq_zero.mp (by omega)⟩

/-- What no item of a queue minds may be done before it. -/
theorem foldl_comm (queue : List α) (s : σ) (comm : ∀ a ∈ queue, ∀ s, f (g s) a = g (f s a)) :
    queue.foldl f (g s) = g (queue.foldl f s) := by
  induction queue generalizing s with
  | nil => rfl
  | cons a queue ih =>
    rw [List.foldl_cons, comm a List.mem_cons_self, List.foldl_cons]
    exact ih (f s a) fun b mem => comm b (List.mem_cons_of_mem _ mem)

theorem foldl_same (queue : List α) (s : σ) (same : ∀ a ∈ queue, ∀ s, f' s a = f s a) : queue.foldl f' s = queue.foldl f s := by
  induction queue generalizing s with
  | nil => rfl
  | cons a queue ih =>
    rw [List.foldl_cons, same a List.mem_cons_self, List.foldl_cons]
    exact ih (f s a) fun b mem => same b (List.mem_cons_of_mem _ mem)

/-- A queue in which one marker also does `g` does `g` at its end, where no item behind the marker minds it. -/
theorem foldl_coalesce (s : σ) (here : ∀ s, f' s marker = g (f s marker))
    (same : ∀ a ∈ before ++ after, ∀ s, f' s a = f s a) (comm : ∀ a ∈ after, ∀ s, f (g s) a = g (f s a)) :
    (before ++ marker :: after).foldl f' s = g ((before ++ marker :: after).foldl f s) := by
  rw [List.foldl_append, List.foldl_append, List.foldl_cons, List.foldl_cons,
    foldl_same before s fun a mem => same a (List.mem_append_left _ mem), here,
    foldl_same after _ fun a mem => same a (List.mem_append_right _ mem)]
  exact foldl_comm after _ comm

variable {P : σ → α → Prop} {s : σ} {queue : List α}

/-- `P` holds of each item of a queue, at the state it comes to. -/
def Along (f : σ → α → σ) (P : σ → α → Prop) : σ → List α → Prop
  | _, [] => True
  | s, a :: queue => P s a ∧ Along f P (f s a) queue

theorem along_append {more : List α} : Along f P s (queue ++ more) ↔ Along f P s queue ∧ Along f P (queue.foldl f s) more := by
  induction queue generalizing s with
  | nil => exact ⟨fun held => ⟨trivial, held⟩, And.right⟩
  | cons a queue ih => exact (and_congr_right fun _ => ih).trans and_assoc.symm

theorem along_same (same : ∀ a ∈ queue, ∀ s, f' s a = f s a) (held : Along f P s queue) : Along f' P s queue := by
  induction queue generalizing s with
  | nil => trivial
  | cons a queue ih =>
    refine ⟨held.1, ?_⟩
    rw [same a List.mem_cons_self]
    exact ih (fun b mem => same b (List.mem_cons_of_mem _ mem)) held.2

theorem along_comm (comm : ∀ a ∈ queue, ∀ s, f (g s) a = g (f s a)) (kept : ∀ s a, P s a → P (g s) a) (held : Along f P s queue) :
    Along f P (g s) queue := by
  induction queue generalizing s with
  | nil => trivial
  | cons a queue ih =>
    refine ⟨kept s a held.1, ?_⟩
    rw [comm a List.mem_cons_self]
    exact ih (fun b mem => comm b (List.mem_cons_of_mem _ mem)) held.2

/-- What holds along a queue, and `g` keeps, holds along it where one marker also does `g`. -/
theorem along_coalesce (here : ∀ s, f' s marker = g (f s marker)) (same : ∀ a ∈ before ++ after, ∀ s, f' s a = f s a)
    (comm : ∀ a ∈ after, ∀ s, f (g s) a = g (f s a)) (kept : ∀ s a, P s a → P (g s) a)
    (held : Along f P s (before ++ marker :: after)) : Along f' P s (before ++ marker :: after) := by
  obtain ⟨earlier, at_marker, later⟩ := along_append.mp held
  have same_later (a : α) (mem : a ∈ after) (s : σ) : f' s a = f s a := same a (List.mem_append_right _ mem) s
  have same_earlier (a : α) (mem : a ∈ before) (s : σ) : f' s a = f s a := same a (List.mem_append_left _ mem) s
  refine along_append.mpr ⟨along_same same_earlier earlier, ?_⟩
  rw [foldl_same before s same_earlier]
  refine ⟨at_marker, ?_⟩
  rw [here]
  exact along_same same_later (along_comm comm kept later)

end Queues

end Issuebot.Logic
