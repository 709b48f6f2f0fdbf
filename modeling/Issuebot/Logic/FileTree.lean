import Mathlib.Data.List.AList
import Mathlib.Data.List.Infix

/-!
# A tree of files

`FileTree α isDir` is a tree of nodes by their paths: what is under a path is under a directory. A
node is unlinked once nothing is beneath it, so a recursive removal is a list of paths, in whatever
order it comes, of which the last may be the root (`unlinkAll`). What it leaves is what it does not
name (`find_unlinkAll`), and a tree without its root is empty (`find_eq_none`).
-/

namespace Issuebot.Logic
set_option autoImplicit false

abbrev FilePath := List String

structure FileTree (α : Type) (isDir : α → Bool) where
  nodes : AList fun _ : FilePath => α
  rooted : ∀ path name, path ++ [name] ∈ nodes → ∃ node ∈ nodes.lookup path, isDir node = true

namespace FileTree

variable {α : Type} {isDir : α → Bool} {tree tree' : FileTree α isDir} {path other : FilePath} {name : String} {node : α}

/-- What stands at a path. -/
def find (tree : FileTree α isDir) (path : FilePath) : Option α := tree.nodes.lookup path

theorem mem_nodes : path ∈ tree.nodes ↔ tree.find path ≠ none := by
  rw [← AList.lookup_isSome, find, Option.isSome_iff_ne_none]

/-- A path that stands, and so all above it. -/
theorem find_above (path rest : FilePath) (stands : tree.find (path ++ rest) ≠ none) : tree.find path ≠ none := by
  induction rest using List.reverseRecOn with
  | nil => rwa [List.append_nil] at stands
  | append_singleton rest name ih =>
    apply ih
    rw [← List.append_assoc] at stands
    obtain ⟨node, found, -⟩ := tree.rooted _ _ (mem_nodes.mpr stands)
    show tree.nodes.lookup _ ≠ none
    rw [Option.mem_def.mp found]
    nofun

/-- A tree without its root is empty. -/
theorem find_eq_none (gone : tree.find [] = none) (path : FilePath) : tree.find path = none := by
  by_contra stands
  exact find_above [] path stands gone

/-- Nothing stands under what is no directory. -/
theorem find_under (leaf : ∀ node ∈ tree.find path, isDir node = false) : tree.find (path ++ [name]) = none := by
  by_contra stands
  obtain ⟨node, found, dir⟩ := tree.rooted path name (mem_nodes.mpr stands)
  rw [leaf node found] at dir
  cases dir

/-- Something stands beneath the path. -/
def Above (tree : FileTree α isDir) (path : FilePath) : Prop :=
  ∃ below ∈ tree.nodes.keys, path <+: below ∧ below ≠ path

instance : Decidable (tree.Above path) := by
  unfold Above
  infer_instance

/-- A node with nothing beneath it is unlinked. -/
def unlink (tree : FileTree α isDir) (path : FilePath) : Option (FileTree α isDir) :=
  if empty : path ∈ tree.nodes ∧ ¬ tree.Above path then
    some
      { nodes := tree.nodes.erase path
        rooted := by
          intro above name mem
          obtain ⟨ne, stands⟩ := AList.mem_erase.mp mem
          obtain ⟨node, found, dir⟩ := tree.rooted above name stands
          refine ⟨node, ?_, dir⟩
          have kept : above ≠ path := by
            rintro rfl
            exact empty.2 ⟨_, AList.mem_keys.mp stands, List.prefix_append _ _, by simp⟩
          rwa [AList.lookup_erase_ne kept] }
  else none

theorem find_unlink (removed : tree.unlink path = some tree') :
    tree'.find other = if other = path then none else tree.find other := by
  unfold unlink at removed
  split at removed
  · cases removed
    split
    next same =>
      subst same
      exact AList.lookup_erase _ _
    next ne => exact AList.lookup_erase_ne ne
  · cases removed

/-- What is no directory can be unlinked. -/
theorem unlink_leaf (found : tree.find path = some node) (leaf : isDir node = false) : ∃ tree', tree.unlink path = some tree' := by
  have stands : path ∈ tree.nodes := mem_nodes.mpr (found ▸ Option.some_ne_none node)
  have alone : ¬tree.Above path := by
    rintro ⟨below, listed, ⟨rest, rfl⟩, ne⟩
    cases rest with
    | nil => exact ne (List.append_nil path)
    | cons name rest =>
      rw [List.append_cons] at listed
      refine find_above (path ++ [name]) rest (mem_nodes.mp (AList.mem_keys.mpr listed)) (find_under fun other is_found => ?_)
      cases found.symm.trans is_found
      exact leaf
  unfold unlink
  rw [dif_pos ⟨stands, alone⟩]
  exact ⟨_, rfl⟩

/-- The paths are unlinked one after another. -/
def unlinkAll (tree : FileTree α isDir) : List FilePath → Option (FileTree α isDir)
  | [] => some tree
  | path :: rest => (tree.unlink path).bind fun next => next.unlinkAll rest

theorem find_unlinkAll {paths : List FilePath} (removed : tree.unlinkAll paths = some tree') :
    tree'.find other = if other ∈ paths then none else tree.find other := by
  induction paths generalizing tree with
  | nil =>
    cases removed
    rfl
  | cons path rest ih =>
    obtain ⟨next, first, rest_removed⟩ := Option.bind_eq_some_iff.mp removed
    rw [ih rest_removed, find_unlink first]
    by_cases same : other = path <;> simp [same]

/-- A leaf is put under a directory, in the place of any leaf there. -/
def place (tree : FileTree α isDir) (path : FilePath) (name : String) (node : α) : FileTree α isDir :=
  if fits : (tree.find path).any isDir = true ∧ (tree.find (path ++ [name])).all (fun old => !isDir old) = true then
    { nodes := tree.nodes.insert (path ++ [name]) node
      rooted := by
        intro above below mem
        have lookup : ∀ other, other ≠ path ++ [name] → (tree.nodes.insert (path ++ [name]) node).lookup other =
            tree.find other := fun other ne => AList.lookup_insert_ne ne
        have kept : above ≠ path ++ [name] ∧ ∃ node ∈ tree.find above, isDir node = true := by
          rcases (AList.mem_insert _).mp mem with new | old
          · have same : above = path := by simpa using congrArg List.dropLast new
            subst same
            refine ⟨by simp, ?_⟩
            cases found : tree.find above with
            | none => simp [found] at fits
            | some node => exact ⟨node, rfl, by simpa [found] using fits.1⟩
          · obtain ⟨node, found, dir⟩ := tree.rooted above below old
            refine ⟨?_, node, found, dir⟩
            rintro rfl
            have leaf := fits.2
            rw [show tree.find (path ++ [name]) = some node from found] at leaf
            simp [dir] at leaf
        rw [lookup above kept.1]
        exact kept.2 }
  else tree

theorem find_place_of_ne (ne : other ≠ path ++ [name]) : (tree.place path name node).find other = tree.find other := by
  unfold place
  split
  · exact AList.lookup_insert_ne ne
  · rfl

theorem find_place (dir : (tree.find path).any isDir = true)
    (leaf : (tree.find (path ++ [name])).all (fun old => !isDir old) = true) :
    (tree.place path name node).find (path ++ [name]) = some node := by
  unfold place
  rw [dif_pos ⟨dir, leaf⟩]
  exact AList.lookup_insert _

/-- What an unlinking leaves stands as it did. -/
theorem find_of_unlinkAll {paths : List FilePath} (removed : tree.unlinkAll paths = some tree')
    (left : tree'.find path ≠ none) : tree'.find path = tree.find path := by
  rw [find_unlinkAll removed] at left ⊢
  split at left
  · exact absurd rfl left
  next spared => rw [if_neg spared]

/-- So does all above what it leaves. -/
theorem find_of_spared {paths : List FilePath} (path rest : FilePath) (removed : tree.unlinkAll paths = some tree')
    (spared : path ++ rest ∉ paths) (stands : tree.find (path ++ rest) ≠ none) : tree'.find path = tree.find path := by
  apply find_of_unlinkAll removed
  apply find_above path rest
  rw [find_unlinkAll removed, if_neg spared]
  exact stands

/-- The tree with nothing but its root. -/
def root (node : α) : FileTree α isDir where
  nodes := AList.singleton [] node
  rooted path name mem := by
    have same : path ++ [name] = [] := List.mem_singleton.mp (AList.mem_keys.mp mem)
    exact absurd same (by simp)

end FileTree
end Issuebot.Logic
