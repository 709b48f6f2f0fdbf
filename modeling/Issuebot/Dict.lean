import Mathlib.Data.List.AList

/-!
# Python's dictionaries

A dictionary keyed by an issue's number, over Mathlib's association lists: the newest key
first, where Python iterates from the oldest. `set` is `d[key] = value`, which keeps the
place of a key that is there.
-/

namespace Issuebot
set_option autoImplicit false

/-- `dict[int, α]` -/
abbrev Dict (α : Type) : Type := AList fun _ : Nat => α

namespace Dict

variable {α β : Type} {d : Dict α} {key other : Nat} {value : α}

/-- Every value changed in its place. -/
def mapValues (f : Nat → α → β) (d : Dict α) : Dict β :=
  ⟨d.entries.map fun entry => ⟨entry.1, f entry.1 entry.2⟩, by
    have := d.nodupKeys
    simpa only [List.NodupKeys, List.keys, List.map_map, Function.comp_def] using this⟩

@[simp] theorem lookup_mapValues {f : Nat → α → β} :
    AList.lookup key (d.mapValues f) = (d.lookup key).map (f key) := List.dlookup_map₂ key

@[simp] theorem mem_mapValues {f : Nat → α → β} : key ∈ d.mapValues f ↔ key ∈ d := by
  rw [← AList.lookup_isSome, ← AList.lookup_isSome, lookup_mapValues, Option.isSome_map]

/-- The value under `key` changed in its place. -/
def modify (key : Nat) (f : α → α) (d : Dict α) : Dict α :=
  d.mapValues fun other value => if other = key then f value else value

@[simp] theorem lookup_modify_self {f : α → α} : AList.lookup key (d.modify key f) = (d.lookup key).map f := by
  simp [modify]

theorem lookup_modify_of_ne {f : α → α} (ne : other ≠ key) :
    AList.lookup other (d.modify key f) = d.lookup other := by
  simp [modify, ne]

/-- `d[key] = value` -/
def set (key : Nat) (value : α) (d : Dict α) : Dict α :=
  if key ∈ d then d.modify key fun _ => value else d.insert key value

@[simp] theorem lookup_set_self : AList.lookup key (d.set key value) = some value := by
  unfold set
  split
  next mem =>
    obtain ⟨old, is_old⟩ := Option.isSome_iff_exists.mp (AList.lookup_isSome.mpr mem)
    simp [is_old]
  next => exact AList.lookup_insert d

theorem lookup_set_of_ne (ne : other ≠ key) : AList.lookup other (d.set key value) = d.lookup other := by
  unfold set
  split
  · exact lookup_modify_of_ne ne
  · exact AList.lookup_insert_ne ne

theorem mem_set : other ∈ d.set key value ↔ other = key ∨ other ∈ d := by
  unfold set
  split
  next mem =>
    rw [modify, mem_mapValues]
    constructor
    · exact .inr
    · rintro (rfl | h)
      · exact mem
      · exact h
  next => exact AList.mem_insert d

/-- What is left after an erasure was there. -/
theorem lookup_of_erase (found : AList.lookup other (d.erase key) = some value) : d.lookup other = some value := by
  by_cases same : other = key
  · subst same
    simp [AList.lookup_erase] at found
  · rwa [AList.lookup_erase_ne same] at found

theorem erase_of_notMem (absent : key ∉ d) : AList.erase key d = d :=
  AList.ext (List.kerase_of_notMem_keys absent)

/-- `len(d)` -/
def size (d : Dict α) : Nat := d.entries.length

theorem size_le_set : d.size ≤ (d.set key value).size := by
  unfold set
  split
  · simp [size, modify, mapValues]
  next absent =>
    rw [size, size, AList.entries_insert_of_notMem absent]
    exact Nat.le_succ _

theorem size_mapValues {f : Nat → α → β} : (d.mapValues f).size = d.size := List.length_map _

theorem size_set_of_notMem (absent : key ∉ d) : (d.set key value).size = d.size + 1 := by
  rw [set, if_neg absent, size, AList.entries_insert_of_notMem absent]
  rfl

theorem size_erase_of_mem (mem : key ∈ d) : size (d.erase key) + 1 = d.size := by
  have keys (d : Dict α) : d.size = d.keys.length := by rw [size, AList.keys, List.keys, List.length_map]
  have pos := List.length_pos_of_mem (AList.mem_keys.mp mem)
  rw [keys, keys, AList.keys_erase, List.length_erase_of_mem mem]
  omega

/-- `{key: value for key, value in d.items() if keep(key)}` -/
def filterKeys (keep : Nat → Bool) (d : Dict α) : Dict α :=
  ⟨d.entries.filter fun entry => keep entry.1, d.nodupKeys.sublist List.filter_sublist⟩

/-- The values from the oldest key on. -/
def values (d : Dict α) : List α := d.entries.reverse.map Sigma.snd

theorem mem_values (found : d.lookup key = some value) : value ∈ d.values :=
  List.mem_map.mpr ⟨⟨key, value⟩, List.mem_reverse.mpr (AList.mem_lookup_iff.mp found), rfl⟩

end Dict
end Issuebot
