import Issuebot.Items

/-!
# Front matter, and an overlay of it

`mergeFrontMatter` lays one mapping over another. What stands at a path of keys afterwards is said by the
overlay as far as it goes along that path, and by the base from where it says nothing
(`merge_paths`). A scalar and a list are leaves: the merge takes them whole.
-/

namespace Issuebot
set_option autoImplicit false

variable {κ α : Type}

/-- What YAML makes of front matter, its scalars and its lists apart. -/
inductive Yaml (κ α : Type) where
  | null
  | leaf (value : α)
  | map (members : List (κ × Yaml κ α))

/-- The members of a mapping; what is none has none. -/
def Yaml.members : Option (Yaml κ α) → List (κ × Yaml κ α)
  | some (.map members) => members
  | _ => []

mutual

/-- What a value of the overlay leaves under its key. -/
def mergeValue [DecidableEq κ] (current : Option (Yaml κ α)) : Yaml κ α → Option (Yaml κ α)
  | .null => none
  | .leaf value => some (.leaf value)
  | .map overlay => some (.map (mergeFrontMatter (Yaml.members current) overlay))

/-- `merge_front_matter`: the overlay's items, one after the other. -/
def mergeFrontMatter [DecidableEq κ] (merged : List (κ × Yaml κ α)) : List (κ × Yaml κ α) → List (κ × Yaml κ α)
  | [] => merged
  | (key, value) :: rest => mergeFrontMatter (storeItem key (mergeValue (merged.lookup key) value) merged) rest

end

mutual

/-- No mapping within the value has a key twice. -/
def Yaml.Proper : Yaml κ α → Prop
  | .null => True
  | .leaf _ => True
  | .map members => Yaml.ProperItems members

def Yaml.ProperItems : List (κ × Yaml κ α) → Prop
  | [] => True
  | (key, value) :: rest => key ∉ rest.map Prod.fst ∧ value.Proper ∧ Yaml.ProperItems rest

end
/-- Properness, item by item. -/
theorem properItems_iff {items : List (κ × Yaml κ α)} :
    Yaml.ProperItems items ↔ (items.map Prod.fst).Nodup ∧ ∀ item ∈ items, item.2.Proper := by
  induction items with
  | nil => simp [Yaml.ProperItems]
  | cons item rest ih =>
    obtain ⟨key, value⟩ := item
    rw [Yaml.ProperItems, ih, List.map_cons, List.nodup_cons, List.forall_mem_cons]
    tauto

section Merge

variable [DecidableEq κ] {key : κ} {base overlay : List (κ × Yaml κ α)}

/-- What stands under a key after the merge. -/
theorem lookup_merge (proper : Yaml.ProperItems overlay) :
    (mergeFrontMatter base overlay).lookup key =
      (overlay.lookup key).elim (base.lookup key) fun value => mergeValue (base.lookup key) value := by
  induction overlay generalizing base with
  | nil => rw [mergeFrontMatter]; rfl
  | cons item rest ih =>
    obtain ⟨here, value⟩ := item
    obtain ⟨once, -, rest_proper⟩ := proper
    rw [mergeFrontMatter, ih rest_proper, List.lookup_cons]
    by_cases same : key = here
    · subst same
      have absent : rest.lookup key = none := by
        rw [List.lookup_eq_none_iff]
        rintro ⟨other, value⟩ mem
        have ne : key ≠ other := fun same => once (same ▸ List.mem_map.mpr ⟨_, mem, rfl⟩)
        simpa using ne
      simp [absent]
    · rw [lookup_storeItem_of_ne same, beq_false_of_ne same]

/-- Where each value of the overlay leaves what is there, the merge leaves the mapping. -/
theorem mergeFrontMatter_of_fixed (fixed : ∀ item ∈ overlay, mergeValue (base.lookup item.1) item.2 = base.lookup item.1) :
    mergeFrontMatter base overlay = base := by
  induction overlay with
  | nil => rw [mergeFrontMatter]
  | cons item rest ih =>
    obtain ⟨here, value⟩ := item
    rw [mergeFrontMatter, fixed _ List.mem_cons_self, storeItem_lookup]
    exact ih fun item mem => fixed item (List.mem_cons_of_mem _ mem)

theorem lookup_of_mem {item : κ × Yaml κ α} (proper : Yaml.ProperItems overlay) (mem : item ∈ overlay) :
    overlay.lookup item.1 = some item.2 := by
  induction overlay with
  | nil => cases mem
  | cons first rest ih =>
    obtain ⟨here, value⟩ := first
    obtain ⟨once, -, rest_proper⟩ := proper
    rcases List.mem_cons.mp mem with rfl | mem
    · simp
    · have ne : item.1 ≠ here := fun same => once (same ▸ List.mem_map.mpr ⟨item, mem, rfl⟩)
      rw [List.lookup_cons, beq_false_of_ne ne]
      exact ih rest_proper mem

/-- Where each value leaves the same twice, so does the mapping. -/
theorem merge_twice_of (proper : Yaml.ProperItems overlay)
    (each : ∀ item ∈ overlay, ∀ current, mergeValue (mergeValue current item.2) item.2 = mergeValue current item.2) :
    mergeFrontMatter (mergeFrontMatter base overlay) overlay = mergeFrontMatter base overlay := by
  refine mergeFrontMatter_of_fixed fun item mem => ?_
  rw [lookup_merge proper, lookup_of_mem proper mem]
  exact each item mem _

mutual

/-- A value that is laid over twice leaves what it left the first time. -/
theorem mergeValue_twice : ∀ value : Yaml κ α, value.Proper →
    ∀ current, mergeValue (mergeValue current value) value = mergeValue current value
  | .null, _, _ => by rw [mergeValue, mergeValue]
  | .leaf _, _, _ => by rw [mergeValue, mergeValue]
  | .map overlay, proper, current => by
    rw [mergeValue, mergeValue]
    exact congrArg (fun members => some (Yaml.map members)) (merge_twice_of proper (mergeItems_twice overlay proper))

theorem mergeItems_twice : ∀ overlay : List (κ × Yaml κ α), Yaml.ProperItems overlay →
    ∀ item ∈ overlay, ∀ current, mergeValue (mergeValue current item.2) item.2 = mergeValue current item.2
  | [], _ => by simp
  | (key, value) :: rest, proper => by
    intro item mem current
    rcases List.mem_cons.mp mem with rfl | mem
    · exact mergeValue_twice value proper.2.1 current
    · exact mergeItems_twice rest proper.2.2 item mem current

end

mutual

/-- What is left of two values without repeated keys has none. -/
theorem mergeValue_proper : ∀ value : Yaml κ α, value.Proper → ∀ current : Option (Yaml κ α), (∀ now, current = some now → now.Proper) →
    ∀ left, mergeValue current value = some left → left.Proper
  | .null, _, _, _ => by simp [mergeValue]
  | .leaf _, _, _, _ => by simp [mergeValue, Yaml.Proper]
  | .map overlay, proper, current, current_proper => by
    have members_proper : Yaml.ProperItems (Yaml.members current) := by
      rcases current with _ | _ | _ | members
      · trivial
      · trivial
      · trivial
      · exact current_proper _ rfl
    rw [mergeValue]
    intro left same
    obtain rfl := Option.some.inj same
    exact mergeItems_proper overlay proper _ members_proper

theorem mergeItems_proper : ∀ overlay : List (κ × Yaml κ α), Yaml.ProperItems overlay →
    ∀ merged : List (κ × Yaml κ α), Yaml.ProperItems merged → Yaml.ProperItems (mergeFrontMatter merged overlay)
  | [], _, merged, merged_proper => by rwa [mergeFrontMatter]
  | (key, value) :: rest, proper, merged, merged_proper => by
    rw [mergeFrontMatter]
    refine mergeItems_proper rest proper.2.2 _ ?_
    obtain ⟨once, each⟩ := properItems_iff.mp merged_proper
    have stored := mergeValue_proper value proper.2.1 (merged.lookup key) fun now found => each _ (mem_of_lookup found)
    exact properItems_iff.mpr ⟨nodup_keys_storeItem once, fun item mem => (of_mem_storeItem mem).elim (stored item.2) (each item)⟩

end

end Merge

/-- The value at a path of keys. -/
def Yaml.atPath [DecidableEq κ] : Yaml κ α → List κ → Option (Yaml κ α)
  | value, [] => some value
  | .map members, key :: path => (members.lookup key).bind fun value => value.atPath path
  | _, _ :: _ => none

section Paths

variable [DecidableEq κ] {key : κ} {path : List κ} {current : Option (Yaml κ α)} {value : Yaml κ α} {members : List (κ × Yaml κ α)}

/-- What a value leaves, at a path. -/
def leftAt (current : Option (Yaml κ α)) (value : Yaml κ α) (path : List κ) : Option (Yaml κ α) :=
  (mergeValue current value).bind fun value => value.atPath path

theorem bind_atPath_cons : (current.bind fun now => now.atPath (key :: path)) =
    ((Yaml.members current).lookup key).bind fun now => now.atPath path := by
  rcases current with _ | _ | _ | members <;> rfl

theorem atPath_cons_eq_some {found : Yaml κ α} (there : value.atPath (key :: path) = some found) :
    ∃ members next, value = .map members ∧ members.lookup key = some next ∧ next.atPath path = some found := by
  cases value with
  | map members =>
    obtain ⟨next, is_next, there⟩ := Option.bind_eq_some_iff.mp there
    exact ⟨members, next, rfl, is_next, there⟩
  | null => cases there
  | leaf => cases there

/-- One key further into what a mapping leaves. -/
theorem leftAt_map_cons (proper : Yaml.ProperItems members) :
    leftAt current (.map members) (key :: path) =
      (members.lookup key).elim (current.bind fun now => now.atPath (key :: path)) fun value =>
        leftAt ((Yaml.members current).lookup key) value path := by
  rw [leftAt, mergeValue, Option.bind_some, Yaml.atPath, lookup_merge proper, bind_atPath_cons]
  cases members.lookup key <;> rfl

/-- A leaf of the overlay stands, and nothing beneath it. -/
theorem leftAt_leaf {leaf : α} {beneath : List κ} (proper : value.Proper) (sets : value.atPath path = some (.leaf leaf)) :
    leftAt current value (path ++ beneath) = (Yaml.leaf leaf : Yaml κ α).atPath beneath := by
  induction path generalizing current value with
  | nil =>
    obtain rfl := Option.some.inj sets
    rw [leftAt, mergeValue]
    rfl
  | cons key path ih =>
    obtain ⟨members, next, rfl, found, there⟩ := atPath_cons_eq_some sets
    rw [List.cons_append, leftAt_map_cons proper, found]
    exact ih ((properItems_iff.mp proper).2 _ (mem_of_lookup found)) there

/-- At a null of the overlay there is nothing, and beneath it neither. -/
theorem leftAt_null {beneath : List κ} (proper : value.Proper) (sets : value.atPath path = some .null) :
    leftAt current value (path ++ beneath) = none := by
  induction path generalizing current value with
  | nil =>
    obtain rfl := Option.some.inj sets
    rw [leftAt, mergeValue]
    rfl
  | cons key path ih =>
    obtain ⟨members, next, rfl, found, there⟩ := atPath_cons_eq_some sets
    rw [List.cons_append, leftAt_map_cons proper, found]
    exact ih ((properItems_iff.mp proper).2 _ (mem_of_lookup found)) there

/-- At a mapping of the overlay there is what it leaves of what was there. -/
theorem leftAt_mapping {overlay : List (κ × Yaml κ α)} (proper : value.Proper) (sets : value.atPath path = some (.map overlay)) :
    leftAt current value path =
      some (.map (mergeFrontMatter (Yaml.members (current.bind fun now => now.atPath path)) overlay)) := by
  induction path generalizing current value with
  | nil =>
    obtain rfl := Option.some.inj sets
    rw [leftAt, mergeValue]
    rcases current with _ | now <;> rfl
  | cons key path ih =>
    obtain ⟨members, next, rfl, found, there⟩ := atPath_cons_eq_some sets
    rw [leftAt_map_cons proper, found, bind_atPath_cons]
    exact ih ((properItems_iff.mp proper).2 _ (mem_of_lookup found)) there

/-- Nothing is said at the path, and nothing that is no mapping on the way to it. -/
def Yaml.Silent (overlay : Yaml κ α) (path : List κ) : Prop :=
  overlay.atPath path = none ∧ ∀ before, before <+: path → ∀ found, overlay.atPath before = some found → ∃ members, found = .map members

/-- Where the overlay says nothing there is what was there. -/
theorem leftAt_silent (proper : value.Proper) (silent : value.Silent path) :
    leftAt current value path = current.bind fun now => now.atPath path := by
  induction path generalizing current value with
  | nil => cases silent.1
  | cons key path ih =>
    obtain ⟨members, rfl⟩ := silent.2 [] List.nil_prefix value rfl
    rw [leftAt_map_cons proper]
    cases found : members.lookup key with
    | none => rfl
    | some next =>
      rw [bind_atPath_cons]
      have along (path : List κ) : (Yaml.map members).atPath (key :: path) = next.atPath path := by
        rw [Yaml.atPath, found]
        rfl
      refine ih ((properItems_iff.mp proper).2 _ (mem_of_lookup found)) ⟨?_, fun before is_before value there => ?_⟩
      · exact (along path).symm.trans silent.1
      · exact silent.2 (key :: before) (List.prefix_cons_inj key |>.mpr is_before) value ((along before).trans there)

/-- A null that stands after the merge stood there before it. -/
theorem leftAt_eq_null (proper : value.Proper) (stands : leftAt current value path = some .null) :
    (current.bind fun now => now.atPath path) = some .null := by
  induction path generalizing current value with
  | nil =>
    cases value with
    | null => rw [leftAt, mergeValue] at stands; cases stands
    | leaf => rw [leftAt, mergeValue] at stands; cases stands
    | map => rw [leftAt, mergeValue] at stands; cases stands
  | cons key path ih =>
    cases value with
    | null => rw [leftAt, mergeValue] at stands; cases stands
    | leaf => rw [leftAt, mergeValue] at stands; cases stands
    | map members =>
      rw [leftAt_map_cons proper] at stands
      cases found : members.lookup key with
      | none => rwa [found] at stands
      | some next =>
        rw [found] at stands
        rw [bind_atPath_cons]
        exact ih ((properItems_iff.mp proper).2 _ (mem_of_lookup found)) stands

/-- What the overlay can say along a path: a leaf on the way, a null on the way, a mapping there, or nothing. -/
theorem said_along (overlay : Yaml κ α) (path : List κ) :
    (∃ before, before <+: path ∧ ((∃ leaf, overlay.atPath before = some (.leaf leaf)) ∨ overlay.atPath before = some .null)) ∨
    (∃ members, overlay.atPath path = some (.map members)) ∨ overlay.Silent path := by
  by_cases said : ∃ before, before <+: path ∧ ((∃ leaf, overlay.atPath before = some (.leaf leaf)) ∨ overlay.atPath before = some .null)
  · exact .inl said
  · have on_the_way (before : List κ) (is_before : before <+: path) (found : Yaml κ α) (there : overlay.atPath before = some found) :
        ∃ members, found = .map members := by
      cases found with
      | map members => exact ⟨members, rfl⟩
      | leaf value => exact absurd ⟨before, is_before, .inl ⟨value, there⟩⟩ said
      | null => exact absurd ⟨before, is_before, .inr there⟩ said
    cases here : overlay.atPath path with
    | none => exact .inr (.inr ⟨here, on_the_way⟩)
    | some found =>
      obtain ⟨members, rfl⟩ := on_the_way path List.prefix_rfl found here
      exact .inr (.inl ⟨members, rfl⟩)

end Paths

/-- Front matter, without a key twice in a mapping, as a dictionary is. -/
structure FrontMatter (κ α : Type) where
  items : List (κ × Yaml κ α)
  proper : Yaml.ProperItems items

namespace FrontMatter

variable [DecidableEq κ]

/-- `merge_front_matter` -/
def merge (base overlay : FrontMatter κ α) : FrontMatter κ α where
  items := mergeFrontMatter base.items overlay.items
  proper := mergeItems_proper overlay.items overlay.proper base.items base.proper

/-- The front matter as a value. -/
def value (matter : FrontMatter κ α) : Yaml κ α := .map matter.items

theorem atPath_merge (base overlay : FrontMatter κ α) (path : List κ) :
    (base.merge overlay).value.atPath path = leftAt (some base.value) overlay.value path := by
  have is_map : overlay.value = .map overlay.items := rfl
  rw [leftAt, is_map, mergeValue]
  rfl

/-- The merge is an override by paths, at every path: a leaf of the overlay stands, at a null of it there
is nothing, a mapping of it is merged with what the base has there, and where it says nothing the base's
value stands; which are all that it can say. No null stands that is not the base's, and a second merge
changes nothing. -/
theorem merge_paths (base overlay : FrontMatter κ α) :
    (∀ path : List κ,
      (∀ leaf beneath, overlay.value.atPath path = some (.leaf leaf) →
        (base.merge overlay).value.atPath (path ++ beneath) = (Yaml.leaf leaf : Yaml κ α).atPath beneath) ∧
      (∀ beneath, overlay.value.atPath path = some .null → (base.merge overlay).value.atPath (path ++ beneath) = none) ∧
      (∀ members, overlay.value.atPath path = some (.map members) →
        (base.merge overlay).value.atPath path =
          some (.map (mergeFrontMatter (Yaml.members (base.value.atPath path)) members))) ∧
      (overlay.value.Silent path → (base.merge overlay).value.atPath path = base.value.atPath path) ∧
      ((∃ before, before <+: path ∧
          ((∃ leaf, overlay.value.atPath before = some (.leaf leaf)) ∨ overlay.value.atPath before = some .null)) ∨
        (∃ members, overlay.value.atPath path = some (.map members)) ∨ overlay.value.Silent path) ∧
      ((base.merge overlay).value.atPath path = some .null → base.value.atPath path = some .null)) ∧
    (base.merge overlay).merge overlay = base.merge overlay := by
  have proper : overlay.value.Proper := overlay.proper
  refine ⟨fun path => ⟨fun leaf beneath sets => ?_, fun beneath sets => ?_, fun members sets => ?_, fun silent => ?_,
    said_along overlay.value path, fun stands => ?_⟩, ?_⟩
  · rw [atPath_merge]
    exact leftAt_leaf proper sets
  · rw [atPath_merge]
    exact leftAt_null proper sets
  · rw [atPath_merge]
    exact leftAt_mapping proper sets
  · rw [atPath_merge]
    exact leftAt_silent proper silent
  · rw [atPath_merge] at stands
    exact leftAt_eq_null proper stands
  · have twice := @merge_twice_of κ α _ base.items overlay.items overlay.proper (mergeItems_twice overlay.items overlay.proper)
    rw [merge, merge]
    simp only [twice]

-- a section that replaces a scalar sheds its nulls
example : mergeFrontMatter [("x", Yaml.leaf 1)] [("x", .map [("y", .null), ("z", .leaf 2)])] =
    [("x", Yaml.map [("z", .leaf 2)])] := rfl

end FrontMatter

end Issuebot
