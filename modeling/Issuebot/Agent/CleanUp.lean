import Issuebot.Logic.FileTree
import Issuebot.GitHub.Errors
import Issuebot.Logic.Remote

/-!
# A clean-up that is killed

The finish of an issue marks its workspace, moves its label and removes the workspace. The marks
that say `created` and `finished` stand inside the tree that is deleted, and the mark that a failed
removal puts back is written by a `finally`, which a kill never runs. So a kill between two
deletions leaves what the deletions made so far have left (`killed_iff`).
-/

namespace Issuebot
set_option autoImplicit false
open Logic

inductive NodeKind where
  | directory
  | regular
  | other
  deriving DecidableEq, Repr

/-- What `lstat` says of a name. -/
structure Node where
  kind : NodeKind
  uid : Nat
  deriving DecidableEq, Repr

def Node.isDir (node : Node) : Bool := node.kind = .directory

/-- A workspace, the paths relative to it. -/
abbrev WorkTree := FileTree Node Node.isDir

namespace WorkTree

/-- `STATE_DIR` -/
def stateDir : String := ".issuebot"

def finishedMarker : String := "finished"

def createdMarker : String := "created"

variable (worker : Nat) (tree : WorkTree)

/-- `path.exists()` -/
def stands : Bool := (tree.find []).isSome

def isOwn (kind : NodeKind) (path : FilePath) : Bool :=
  (tree.find path).any fun node => node.kind = kind && node.uid = worker

/-- Every directory above the last component is the worker's own. -/
def walks (path : FilePath) : Bool := path.dropLast.inits.all (isOwn worker tree .directory)

/-- `is_own_dir` -/
def isOwnDir (path : FilePath) : Bool := walks worker tree path && isOwn worker tree .directory path

/-- `is_own_file` -/
def isOwnFile (path : FilePath) : Bool := walks worker tree path && isOwn worker tree .regular path

/-- `create_marker` of a name that is free. -/
def createMarker (parent : FilePath) (name : String) : WorkTree := tree.place parent name ⟨.regular, worker⟩

/-- The state directory, made where the name is free. -/
def makeStateDir : WorkTree :=
  if isOwnDir worker tree [stateDir] then tree
  else if (tree.find [stateDir]).isNone then tree.place [] stateDir ⟨.directory, worker⟩
  else tree

/-- `_write_finished`. A name that is the worker's own file is left alone, and one that is a
directory stays, since it is not unlinked. -/
def writeFinished : WorkTree :=
  let opened := makeStateDir worker tree
  if isOwnDir worker opened [stateDir] && !isOwnFile worker opened [stateDir, finishedMarker] then
    createMarker worker opened [stateDir] finishedMarker
  else opened

/-- `_mark_finished`, whose error is logged. -/
def markFinished (fails : Bool) : WorkTree := if fails then tree else writeFinished worker tree

/-- It carries the mark: it is among `finished_keys`. -/
def isMarked : Bool := isOwnDir worker tree [] && isOwnFile worker tree [stateDir, finishedMarker]

/-- `_is_complete`, for the account that will work in it. -/
def isComplete (account : Option Nat) : Bool :=
  (tree.find [".git"]).any Node.isDir && isOwnDir worker tree [stateDir] && isOwnDir worker tree [stateDir, "runs"] &&
    isOwnFile worker tree [stateDir, createdMarker] &&
    account.all fun uid => (tree.find [".git"]).any fun node => node.uid = uid

section Marks

variable {worker : Nat} {tree tree' : WorkTree} {paths : List FilePath} {path : FilePath} {kind : NodeKind}

/-- A mark can be written: the state directory is the worker's or can be made, and no directory
stands at the name. -/
def takesMark (worker : Nat) (tree : WorkTree) : Bool :=
  isOwnDir worker tree [] && ((tree.find [stateDir]).isNone || isOwnDir worker tree [stateDir]) &&
    (tree.find [stateDir, finishedMarker]).all fun node => !node.isDir

theorem isOwn_iff : isOwn worker tree kind path = true ↔ tree.find path = some ⟨kind, worker⟩ := by
  unfold isOwn
  cases tree.find path with
  | none => simp
  | some node => obtain ⟨kind', uid⟩ := node; simp

theorem isOwnDir_root : isOwnDir worker tree [] = isOwn worker tree .directory [] := by
  simp [isOwnDir, walks]

theorem isOwnDir_state : isOwnDir worker tree [stateDir] = true ↔
    isOwn worker tree .directory [] = true ∧ isOwn worker tree .directory [stateDir] = true := by
  simp [isOwnDir, walks]

theorem isOwnFile_under {name : String} : isOwnFile worker tree [stateDir, name] = true ↔
    isOwnDir worker tree [stateDir] = true ∧ isOwn worker tree .regular [stateDir, name] = true := by
  simp [isOwnFile, isOwnDir, walks, and_assoc]

theorem isOwnDir_under {name : String} : isOwnDir worker tree [stateDir, name] = true ↔
    isOwnDir worker tree [stateDir] = true ∧ isOwn worker tree .directory [stateDir, name] = true := by
  simp [isOwnDir, walks, and_assoc]

theorem isMarked_iff : isMarked worker tree = true ↔
    isOwnDir worker tree [stateDir] = true ∧ isOwn worker tree .regular [stateDir, finishedMarker] = true := by
  unfold isMarked
  rw [Bool.and_eq_true, isOwnFile_under, isOwnDir_root, isOwnDir_state]
  tauto

theorem find_makeStateDir (ne : path ≠ [stateDir]) : (makeStateDir worker tree).find path = tree.find path := by
  unfold makeStateDir
  split
  · rfl
  · split
    · exact FileTree.find_place_of_ne ne
    · rfl

/-- What a mark leaves as it was. -/
theorem find_writeFinished (state : path ≠ [stateDir]) (mark : path ≠ [stateDir, finishedMarker]) :
    (writeFinished worker tree).find path = tree.find path := by
  unfold writeFinished
  dsimp only
  split
  · have kept : (createMarker worker (makeStateDir worker tree) [stateDir] finishedMarker).find path =
        (makeStateDir worker tree).find path := FileTree.find_place_of_ne mark
    rw [kept, find_makeStateDir state]
  · exact find_makeStateDir state

/-- The state directory of a tree that has one is left. -/
theorem makeStateDir_of_stands (stands : tree.find [stateDir] ≠ none) : makeStateDir worker tree = tree := by
  unfold makeStateDir
  split
  · rfl
  · rw [if_neg]
    rwa [Option.isNone_iff_eq_none]

theorem find_writeFinished_state (stands : tree.find [stateDir] ≠ none) :
    (writeFinished worker tree).find [stateDir] = tree.find [stateDir] := by
  unfold writeFinished
  rw [makeStateDir_of_stands stands]
  dsimp only
  split
  · exact FileTree.find_place_of_ne (by simp)
  · rfl

theorem isOwnDir_makeStateDir : isOwnDir worker (makeStateDir worker tree) [stateDir] = true ↔
    isOwnDir worker tree [] = true ∧ ((tree.find [stateDir]).isNone = true ∨ isOwnDir worker tree [stateDir] = true) := by
  rw [isOwnDir_root]
  by_cases own : isOwnDir worker tree [stateDir] = true
  · have same : makeStateDir worker tree = tree := if_pos own
    rw [same]
    exact ⟨fun own => ⟨(isOwnDir_state.mp own).1, .inr own⟩, fun _ => own⟩
  · by_cases free : (tree.find [stateDir]).isNone = true
    · have made : makeStateDir worker tree = tree.place [] stateDir ⟨.directory, worker⟩ := (if_neg own).trans (if_pos free)
      have root : isOwn worker (makeStateDir worker tree) .directory [] = isOwn worker tree .directory [] := by
        simp only [isOwn, find_makeStateDir (show ([] : FilePath) ≠ [stateDir] by simp)]
      rw [isOwnDir_state, root]
      refine and_congr_right fun is_root => ?_
      have dir : (tree.find []).any Node.isDir = true := by
        rw [isOwn_iff] at is_root
        simp [is_root, Node.isDir]
      have placed : (tree.place [] stateDir ⟨.directory, worker⟩).find [stateDir] = some ⟨.directory, worker⟩ := by
        apply FileTree.find_place dir
        rw [Option.isNone_iff_eq_none] at free
        simp [free]
      exact iff_of_true (by rw [made, isOwn_iff, placed]) (.inl free)
    · have same : makeStateDir worker tree = tree := (if_neg own).trans (if_neg free)
      rw [same]
      exact iff_of_false own fun held => held.2.elim free own

/-- A tree is marked once its mark is written where it takes one, and only there. -/
theorem isMarked_writeFinished : isMarked worker (writeFinished worker tree) = true ↔ takesMark worker tree = true := by
  have leaf : (makeStateDir worker tree).find [stateDir, finishedMarker] = tree.find [stateDir, finishedMarker] :=
    find_makeStateDir (by simp)
  unfold takesMark
  rw [Bool.and_eq_true, Bool.and_eq_true, Bool.or_eq_true, ← isOwnDir_makeStateDir, ← leaf]
  unfold writeFinished
  generalize makeStateDir worker tree = opened
  dsimp only
  by_cases own : isOwnDir worker opened [stateDir] = true
  · by_cases there : isOwnFile worker opened [stateDir, finishedMarker] = true
    · have regular := (isOwnFile_under.mp there).2
      rw [if_neg (by simp [there]), isMarked_iff]
      refine iff_of_true ⟨own, regular⟩ ⟨own, ?_⟩
      rw [isOwn_iff] at regular
      simp [regular, Node.isDir]
    · rw [if_pos (by simp [own, there]), isMarked_iff]
      have kept : ∀ path, path ≠ [stateDir, finishedMarker] →
          (createMarker worker opened [stateDir] finishedMarker).find path = opened.find path :=
        fun path ne => FileTree.find_place_of_ne ne
      have dirs : isOwnDir worker (createMarker worker opened [stateDir] finishedMarker) [stateDir] = true := by
        rw [isOwnDir_state] at own ⊢
        simpa only [isOwn, kept [] (by simp), kept [stateDir] (by simp)] using own
      have dir : (opened.find [stateDir]).any Node.isDir = true := by
        have state := (isOwnDir_state.mp own).2
        rw [isOwn_iff] at state
        simp [state, Node.isDir]
      rw [and_iff_right dirs, and_iff_right own]
      constructor
      · intro marked
        by_contra directory
        have same : createMarker worker opened [stateDir] finishedMarker = opened := dif_neg fun fits => directory fits.2
        rw [same] at marked
        exact there (isOwnFile_under.mpr ⟨own, marked⟩)
      · intro free
        rw [isOwn_iff]
        exact FileTree.find_place dir free
  · have same : (isOwnDir worker opened [stateDir] && !isOwnFile worker opened [stateDir, finishedMarker]) = false := by
      simp [own]
    rw [same, if_neg Bool.false_ne_true, isMarked_iff]
    exact iff_of_false (fun held => own held.1) fun held => own held.1

theorem takesMark_of_isMarked (marked : isMarked worker tree = true) : takesMark worker tree = true := by
  obtain ⟨own, regular⟩ := isMarked_iff.mp marked
  rw [isOwn_iff] at regular
  simp [takesMark, own, isOwnDir_root, (isOwnDir_state.mp own).1, regular, Node.isDir]

theorem isMarked_markFinished {fails : Bool} : isMarked worker (markFinished worker tree fails) = true ↔
    isMarked worker tree = true ∨ fails = false ∧ takesMark worker tree = true := by
  cases fails with
  | true => simp [markFinished]
  | false =>
    simp only [markFinished, Bool.false_eq_true, if_false, isMarked_writeFinished, true_and]
    exact ⟨.inr, Or.rec takesMark_of_isMarked id⟩

theorem stands_markFinished {fails : Bool} : stands (markFinished worker tree fails) = stands tree := by
  unfold markFinished stands
  split
  · rfl
  · rw [find_writeFinished (by simp) (by simp)]

/-- A complete workspace, name by name. -/
theorem isComplete_iff {account : Option Nat} : isComplete worker tree account = true ↔
    (∃ node, tree.find [".git"] = some node ∧ node.isDir = true ∧ ∀ uid ∈ account, node.uid = uid) ∧
      tree.find [] = some ⟨.directory, worker⟩ ∧ tree.find [stateDir] = some ⟨.directory, worker⟩ ∧
      tree.find [stateDir, "runs"] = some ⟨.directory, worker⟩ ∧
      tree.find [stateDir, createdMarker] = some ⟨.regular, worker⟩ := by
  unfold isComplete
  simp only [Bool.and_eq_true, isOwnDir_under, isOwnFile_under, isOwnDir_state, isOwn_iff]
  cases git : tree.find [".git"] with
  | none => simp
  | some node =>
    cases account with
    | none => simp; tauto
    | some uid => simp; tauto

/-- A mark completes nothing: where the state directory is made anew, nothing stands in it. -/
theorem isComplete_markFinished {fails : Bool} {account : Option Nat} :
    isComplete worker (markFinished worker tree fails) account = isComplete worker tree account := by
  cases fails with
  | true => rfl
  | false =>
    show isComplete worker (writeFinished worker tree) account = isComplete worker tree account
    have git : (writeFinished worker tree).find [".git"] = tree.find [".git"] :=
      find_writeFinished (by simp [stateDir]) (by simp)
    have root : (writeFinished worker tree).find [] = tree.find [] := find_writeFinished (by simp) (by simp)
    have runs : (writeFinished worker tree).find [stateDir, "runs"] = tree.find [stateDir, "runs"] :=
      find_writeFinished (by simp) (by simp [finishedMarker])
    have created : (writeFinished worker tree).find [stateDir, createdMarker] = tree.find [stateDir, createdMarker] :=
      find_writeFinished (by simp) (by simp [finishedMarker, createdMarker])
    rw [Bool.eq_iff_iff, isComplete_iff, isComplete_iff, git, root, runs, created]
    by_cases there : tree.find [stateDir] = none
    · have none_runs : tree.find [stateDir, "runs"] = none := by
        by_contra stands
        exact FileTree.find_above [stateDir] ["runs"] stands there
      simp [none_runs]
    · rw [find_writeFinished_state there]

end Marks

section Removal

variable {worker : Nat} {tree tree' : WorkTree} {paths : List FilePath}

/-- The entries a removal has to take for the workspace not to be taken for a complete one. -/
def completing : List FilePath := [[".git"], [stateDir, "runs"], [stateDir, createdMarker]]

theorem stands_removed (removed : tree.unlinkAll paths = some tree') :
    stands tree' = true ↔ stands tree = true ∧ [] ∉ paths := by
  unfold stands
  rw [FileTree.find_unlinkAll removed]
  split <;> simp_all

theorem isMarked_removed (removed : tree.unlinkAll paths = some tree') : isMarked worker tree' = true ↔
    isMarked worker tree = true ∧ [stateDir, finishedMarker] ∉ paths := by
  simp only [isMarked_iff, isOwnDir_state, isOwn_iff]
  by_cases taken : [stateDir, finishedMarker] ∈ paths
  · have gone : tree'.find [stateDir, finishedMarker] = none := by rw [FileTree.find_unlinkAll removed, if_pos taken]
    simp [gone, taken]
  · have mark : tree'.find [stateDir, finishedMarker] = tree.find [stateDir, finishedMarker] := by
      rw [FileTree.find_unlinkAll removed, if_neg taken]
    rw [mark, and_iff_left taken]
    refine and_congr_left fun regular => ?_
    have there : tree.find [stateDir, finishedMarker] ≠ none := by rw [regular]; nofun
    rw [FileTree.find_of_spared [] [stateDir, finishedMarker] removed taken there,
      FileTree.find_of_spared [stateDir] [finishedMarker] removed taken there]

theorem isComplete_removed {account : Option Nat} (removed : tree.unlinkAll paths = some tree') :
    isComplete worker tree' account = true ↔ isComplete worker tree account = true ∧ ∀ path ∈ completing, path ∉ paths := by
  rw [isComplete_iff, isComplete_iff]
  have left : ∀ {path : FilePath} {node : Node}, tree'.find path = some node → path ∉ paths ∧ tree.find path = some node := by
    intro path node found
    have stands : tree'.find path ≠ none := by rw [found]; nofun
    refine ⟨fun taken => ?_, (FileTree.find_of_unlinkAll removed stands).symm.trans found⟩
    rw [FileTree.find_unlinkAll removed, if_pos taken] at found
    cases found
  have spared : ∀ path, path ∉ paths → tree'.find path = tree.find path := by
    intro path spared
    rw [FileTree.find_unlinkAll removed, if_neg spared]
  constructor
  · rintro ⟨⟨node, git, dir⟩, root, state, runs, created⟩
    refine ⟨⟨⟨node, (left git).2, dir⟩, (left root).2, (left state).2, (left runs).2, (left created).2⟩, ?_⟩
    simp only [completing, List.mem_cons, List.not_mem_nil, or_false]
    rintro path (rfl | rfl | rfl)
    · exact (left git).1
    · exact (left runs).1
    · exact (left created).1
  · rintro ⟨⟨⟨node, git, dir⟩, root, state, runs, created⟩, kept⟩
    have git_kept : [".git"] ∉ paths := kept _ (by simp [completing])
    have runs_kept : [stateDir, "runs"] ∉ paths := kept _ (by simp [completing])
    have created_kept : [stateDir, createdMarker] ∉ paths := kept _ (by simp [completing])
    have there : tree.find [stateDir, createdMarker] ≠ none := by rw [created]; nofun
    refine ⟨⟨node, (spared _ git_kept).trans git, dir⟩, ?_, ?_, (spared _ runs_kept).trans runs,
      (spared _ created_kept).trans created⟩
    · exact (FileTree.find_of_spared [] [stateDir, createdMarker] removed created_kept there).trans root
    · exact (FileTree.find_of_spared [stateDir] [createdMarker] removed created_kept there).trans state

/-- A tree takes a mark after a removal that has spared its root, if what stood in the way is gone. -/
theorem takesMark_removed (removed : tree.unlinkAll paths = some tree') : takesMark worker tree' = true ↔
    isOwnDir worker tree [] = true ∧ [] ∉ paths ∧
      ([stateDir] ∈ paths ∨ (tree.find [stateDir]).isNone = true ∨ isOwnDir worker tree [stateDir] = true) ∧
      ([stateDir, finishedMarker] ∈ paths ∨ ((tree.find [stateDir, finishedMarker]).all fun node => !node.isDir) = true) := by
  unfold takesMark
  rw [Bool.and_eq_true, Bool.and_eq_true, Bool.or_eq_true, isOwnDir_root, isOwnDir_root, isOwnDir_state, isOwnDir_state]
  simp only [isOwn_iff, FileTree.find_unlinkAll removed]
  by_cases root : [] ∈ paths
  · simp [root]
  · by_cases state : [stateDir] ∈ paths <;> by_cases mark : [stateDir, finishedMarker] ∈ paths <;>
      simp [root, state, mark, and_assoc]

end Removal

end WorkTree

open WorkTree

/-- What becomes of a clean-up's calls: the label write, which is not made for a record that shows
`complete` already, the three marks, and what is unlinked until it ends. -/
structure CleanUp where
  label : Option (Fate GitHubError)
  markFails : Bool := false
  remarkFails : Bool := false
  restoreFails : Bool := false
  unlinks : List FilePath := []

/-- Where the process is killed: before the first mark, before the label, before the second mark, in
the removal, or after a removal that failed has put the mark back. -/
inductive KillPoint where
  | marking
  | moving
  | remarking
  | removing
  | restored
  deriving DecidableEq, Repr

/-- The workspace, and whether its issue's label has been moved. -/
structure Site where
  tree : WorkTree
  moved : Bool

namespace CleanUp

variable (worker : Nat) (cleanUp : CleanUp) (site : Site)

/-- The label write takes effect. -/
def moves : Bool :=
  match cleanUp.label with
  | some .answered | some (.lost _) => true
  | some (.refused _) | none => false

/-- The tree the removal starts from: `mark_finished`, and the mark of `remove_key`. -/
def markedTree : WorkTree :=
  markFinished worker (markFinished worker site.tree cleanUp.markFails) cleanUp.remarkFails

/-- `finish_terminal` and the removal it performs, up to where the process is killed. -/
def killed : KillPoint → Option Site
  | .marking => some site
  | .moving => some { site with tree := markFinished worker site.tree cleanUp.markFails }
  | .remarking =>
    some { tree := markFinished worker site.tree cleanUp.markFails, moved := site.moved || cleanUp.moves }
  | .removing =>
    ((cleanUp.markedTree worker site).unlinkAll cleanUp.unlinks).map fun tree =>
      { tree, moved := site.moved || cleanUp.moves }
  | .restored =>
    ((cleanUp.markedTree worker site).unlinkAll cleanUp.unlinks).map fun tree =>
      { tree := markFinished worker tree cleanUp.restoreFails, moved := site.moved || cleanUp.moves }

/-- What is deleted by then. -/
def deleted : KillPoint → List FilePath
  | .removing | .restored => cleanUp.unlinks
  | _ => []

/-- The label has been moved by then. -/
def labelMoved : KillPoint → Bool
  | .marking | .moving => site.moved
  | _ => site.moved || cleanUp.moves

/-- The mark was there, or has been written, and has not been deleted since. -/
def MarkStands : KillPoint → Prop
  | .marking => isMarked worker site.tree = true
  | .moving | .remarking => isMarked worker site.tree = true ∨ cleanUp.markFails = false ∧ takesMark worker site.tree = true
  | .removing => isMarked worker (cleanUp.markedTree worker site) = true ∧ [stateDir, finishedMarker] ∉ cleanUp.unlinks
  | .restored =>
    isMarked worker (cleanUp.markedTree worker site) = true ∧ [stateDir, finishedMarker] ∉ cleanUp.unlinks ∨
      cleanUp.restoreFails = false ∧ isOwnDir worker (cleanUp.markedTree worker site) [] = true ∧ [] ∉ cleanUp.unlinks ∧
        ([stateDir] ∈ cleanUp.unlinks ∨ ((cleanUp.markedTree worker site).find [stateDir]).isNone = true ∨
          isOwnDir worker (cleanUp.markedTree worker site) [stateDir] = true) ∧
        ([stateDir, finishedMarker] ∈ cleanUp.unlinks ∨
          (((cleanUp.markedTree worker site).find [stateDir, finishedMarker]).all fun node => !node.isDir) = true)

/-- The kill does no harm: the label is not moved, or the workspace is gone, or the mark stands; and
nothing is deleted, or all of it, or one of the entries a complete workspace has, or it was not
complete. -/
def Harmless (account : Option Nat) (point : KillPoint) : Prop :=
  (cleanUp.labelMoved site point = false ∨ stands site.tree = false ∨ [] ∈ cleanUp.deleted point ∨
    cleanUp.MarkStands worker site point) ∧
  (cleanUp.deleted point = [] ∨ stands site.tree = false ∨ [] ∈ cleanUp.deleted point ∨
    isComplete worker site.tree account = false ∨ ∃ path ∈ completing, path ∈ cleanUp.deleted point)

end CleanUp

/-- What a kill may not leave: a moved label beside a workspace that nothing removes, or a workspace
that is partly deleted and taken for a complete one. -/
structure Site.CrashSafe (worker : Nat) (account : Option Nat) (deleted : List FilePath) (site : Site) : Prop where
  asks : site.moved = true → stands site.tree = false ∨ isMarked worker site.tree = true
  whole : deleted ≠ [] → stands site.tree = true → isComplete worker site.tree account = false

section Killed

variable {worker : Nat} {account : Option Nat} {cleanUp : CleanUp} {site after : Site} {point : KillPoint}

theorem stands_markedTree : stands (cleanUp.markedTree worker site) = stands site.tree := by
  rw [CleanUp.markedTree, stands_markFinished, stands_markFinished]

theorem isComplete_markedTree : isComplete worker (cleanUp.markedTree worker site) account = isComplete worker site.tree account := by
  rw [CleanUp.markedTree, isComplete_markFinished, isComplete_markFinished]

/-- What a kill before the removal leaves, piece by piece: the marks complete nothing. -/
theorem unremoved_cases {tree : WorkTree} {moved : Bool} (same : stands tree = stands site.tree)
    (complete : isComplete worker tree account = isComplete worker site.tree account)
    (deleted : cleanUp.deleted point = []) (killed : after = ⟨tree, moved⟩) :
    (stands after.tree = true ↔ stands site.tree = true ∧ [] ∉ cleanUp.deleted point) ∧
      (isComplete worker after.tree account = true ↔
        isComplete worker site.tree account = true ∧ ∀ path ∈ completing, path ∉ cleanUp.deleted point) := by
  rw [killed, deleted, same, complete]
  simp

/-- What a removal leaves. -/
theorem removed_cases {tree : WorkTree} (removed : (cleanUp.markedTree worker site).unlinkAll cleanUp.unlinks = some tree) :
    (stands tree = true ↔ stands site.tree = true ∧ [] ∉ cleanUp.unlinks) ∧
      (isComplete worker tree account = true ↔
        isComplete worker site.tree account = true ∧ ∀ path ∈ completing, path ∉ cleanUp.unlinks) := by
  rw [stands_removed removed, isComplete_removed removed, stands_markedTree, isComplete_markedTree]
  exact ⟨Iff.rfl, Iff.rfl⟩

/-- The mark, wherever the process is killed. -/
theorem isMarked_killed (killed : cleanUp.killed worker site point = some after) :
    isMarked worker after.tree = true ↔ cleanUp.MarkStands worker site point := by
  cases point with
  | marking =>
    cases killed
    exact Iff.rfl
  | moving =>
    cases killed
    exact isMarked_markFinished
  | remarking =>
    cases killed
    exact isMarked_markFinished
  | removing =>
    obtain ⟨tree, removed, rfl⟩ := Option.map_eq_some_iff.mp killed
    exact isMarked_removed removed
  | restored =>
    obtain ⟨tree, removed, rfl⟩ := Option.map_eq_some_iff.mp killed
    show isMarked worker (markFinished worker tree cleanUp.restoreFails) = true ↔ _
    rw [isMarked_markFinished, isMarked_removed removed, takesMark_removed removed]
    exact Iff.rfl

/-- What a kill leaves, piece by piece. -/
theorem killed_cases (killed : cleanUp.killed worker site point = some after) :
    after.moved = cleanUp.labelMoved site point ∧
      (stands after.tree = true ↔ stands site.tree = true ∧ [] ∉ cleanUp.deleted point) ∧
      (isComplete worker after.tree account = true ↔
        isComplete worker site.tree account = true ∧ ∀ path ∈ completing, path ∉ cleanUp.deleted point) := by
  cases point with
  | marking =>
    cases killed
    exact ⟨rfl, unremoved_cases rfl rfl rfl rfl⟩
  | moving =>
    cases killed
    exact ⟨rfl, unremoved_cases stands_markFinished isComplete_markFinished rfl rfl⟩
  | remarking =>
    cases killed
    exact ⟨rfl, unremoved_cases stands_markFinished isComplete_markFinished rfl rfl⟩
  | removing =>
    obtain ⟨tree, removed, rfl⟩ := Option.map_eq_some_iff.mp killed
    exact ⟨rfl, removed_cases removed⟩
  | restored =>
    obtain ⟨tree, removed, rfl⟩ := Option.map_eq_some_iff.mp killed
    refine ⟨rfl, ?_⟩
    show (stands (markFinished worker tree cleanUp.restoreFails) = true ↔ _) ∧
      (isComplete worker (markFinished worker tree cleanUp.restoreFails) account = true ↔ _)
    rw [stands_markFinished, isComplete_markFinished]
    exact removed_cases removed

/-- A kill leaves only what it may exactly where it does no harm. -/
theorem killed_iff (killed : cleanUp.killed worker site point = some after) :
    after.CrashSafe worker account (cleanUp.deleted point) ↔ cleanUp.Harmless worker site account point := by
  obtain ⟨moved, stands_iff, complete_iff⟩ := @killed_cases _ account _ _ _ _ killed
  have marked_iff := isMarked_killed killed
  have gone_iff : stands after.tree = false ↔ stands site.tree = false ∨ [] ∈ cleanUp.deleted point := by
    rw [← Bool.not_eq_true, stands_iff, ← Bool.not_eq_true]
    tauto
  have broken_iff : isComplete worker after.tree account = false ↔
      isComplete worker site.tree account = false ∨ ∃ path ∈ completing, path ∈ cleanUp.deleted point := by
    rw [← Bool.not_eq_true, complete_iff, ← Bool.not_eq_true, Classical.not_and_iff_not_or_not]
    refine or_congr Iff.rfl ?_
    push Not
    exact Iff.rfl
  constructor
  · rintro ⟨asks, whole⟩
    constructor
    · cases label : cleanUp.labelMoved site point with
      | false => exact .inl rfl
      | true =>
        rcases asks (moved.trans label) with gone | marked
        · exact .inr ((gone_iff.mp gone).imp_right .inl)
        · exact .inr (.inr (.inr (marked_iff.mp marked)))
    · by_cases none : cleanUp.deleted point = []
      · exact .inl none
      · right
        cases there : stands after.tree with
        | false => exact (gone_iff.mp there).imp_right .inl
        | true => exact .inr (.inr (broken_iff.mp (whole none there)))
  · rintro ⟨asks, whole⟩
    constructor
    · intro label
      rcases asks with still | gone | gone | marked
      · exact absurd (label.symm.trans (moved.trans still)) nofun
      · exact .inl (gone_iff.mpr (.inl gone))
      · exact .inl (gone_iff.mpr (.inr gone))
      · exact .inr (marked_iff.mpr marked)
    · intro some_deleted there
      have not_gone : ¬ stands after.tree = false := by simp [there]
      rcases whole with none | gone | gone | broken
      · exact absurd none some_deleted
      · exact absurd (gone_iff.mpr (.inl gone)) not_gone
      · exact absurd (gone_iff.mpr (.inr gone)) not_gone
      · exact broken_iff.mpr broken

/-- A workspace as its creation leaves it, with a file that is not the worker's. -/
def createdTree : WorkTree :=
  let place (tree : WorkTree) (path : FilePath) (name : String) (node : Node) := tree.place path name node
  let clone := place (.root ⟨.directory, 1⟩) [] ".git" ⟨.directory, 2⟩
  let cloned := place (place clone [".git"] "HEAD" ⟨.regular, 2⟩) [] "README.md" ⟨.regular, 2⟩
  let opened := place (place cloned [] stateDir ⟨.directory, 1⟩) [stateDir] "runs" ⟨.directory, 1⟩
  place opened [stateDir] createdMarker ⟨.regular, 1⟩

/-- A clean-up killed once the removal has unlinked the mark. -/
def markFirst : CleanUp where
  label := some .answered
  unlinks := [[stateDir, finishedMarker]]

/-- The label is moved, the workspace stands without its mark, and it is taken for a complete one. -/
theorem kill_after_mark : ¬ ∀ (cleanUp : CleanUp) (site after : Site) (point : KillPoint),
    cleanUp.killed 1 site point = some after → after.CrashSafe 1 (some 2) (cleanUp.deleted point) := by
  intro claimed
  have killed : ∃ after, markFirst.killed 1 ⟨createdTree, false⟩ .removing = some after ∧ after.moved = true ∧
      stands after.tree = true ∧ isMarked 1 after.tree = false := by
    have runs : (markFirst.killed 1 ⟨createdTree, false⟩ .removing).map
        (fun after => (after.moved, stands after.tree, isMarked 1 after.tree)) = some (true, true, false) := by
      decide +kernel
    obtain ⟨after, killed, shown⟩ := Option.map_eq_some_iff.mp runs
    simp only [Prod.mk.injEq] at shown
    exact ⟨after, killed, shown⟩
  obtain ⟨after, killed, moved, there, unmarked⟩ := killed
  rcases (claimed _ _ _ _ killed).asks moved with gone | marked
  · exact absurd (there.symm.trans gone) nofun
  · exact absurd (marked.symm.trans unmarked) nofun

/-- Killed between the label and the second mark, the clean-up leaves a marked workspace. -/
theorem kill_before_removal : ∃ after : Site, after.moved = true ∧ stands after.tree = true ∧
    after.CrashSafe 1 (some 2) [] := by
  have runs : (markFirst.killed 1 ⟨createdTree, false⟩ .remarking).map
      (fun after => (after.moved, stands after.tree)) = some (true, true) := by decide +kernel
  obtain ⟨after, killed, shown⟩ := Option.map_eq_some_iff.mp runs
  simp only [Prod.mk.injEq] at shown
  refine ⟨after, shown.1, shown.2, (killed_iff killed).mpr ⟨?_, .inl rfl⟩⟩
  exact .inr (.inr (.inr (.inr ⟨rfl, by decide +kernel⟩)))

end Killed
end Issuebot
