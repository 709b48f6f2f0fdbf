import Issuebot.Agent.CleanUp
import Issuebot.Logic.Histories
import Issuebot.Logic.Runs

/-!
# A workspace's marks over its life

The worker makes a workspace, hands it to its session's account, uses it again and removes it, may be killed at any point of
that, and what runs as the account does as it likes with its own files in it, the worker's directories being sticky. Both marks
still say what they say: a workspace is used again only once its creation was through (`reused_was_set_up`), and is asked to be
removed only once issuebot was done with it (`marked_was_finished`).
-/

namespace Issuebot
set_option autoImplicit false
open Logic WorkTree

/-- How far the worker is with a workspace. -/
inductive UpkeepStage where
  | idle
  | made
  | cloned
  | setUp
  | hooked
  | failed
  | removing
deriving DecidableEq

structure Upkeep where
  tree : WorkTree
  stage : UpkeepStage

/-- What the worker does, and at the end what its session's account does. -/
inductive UpkeepEvent where
  | create
  | clone (ok : Bool)
  | postClone (ok : Bool)
  | afterCreate (ok : Bool)
  | complete
  | discard (paths : List FilePath)
  | reuse (unmarked : Bool)
  | keep (path : FilePath) (name : String) (node : Node)
  | finish (fails : Bool)
  | remove (fails : Bool)
  | delete (paths : List FilePath)
  | removed (fails : Bool)
  | kill
  | place (path : FilePath) (name : String) (node : Node)
  | unlink (path : FilePath)

namespace UpkeepEvent

/-- The creation is through but for its mark. -/
def setsUp : UpkeepEvent → Bool
  | .afterCreate true => true
  | _ => false

def creates : UpkeepEvent → Bool
  | .create => true
  | _ => false

/-- Issuebot is done with the issue. -/
def finishes : UpkeepEvent → Bool
  | .finish _ | .remove _ => true
  | _ => false

/-- The mark that was there is not there any more. -/
def startsOver : UpkeepEvent → Bool
  | .create | .reuse true => true
  | _ => false

end UpkeepEvent

namespace WorkTree

variable (worker : Nat) (tree : WorkTree)

/-- The tree of no workspace. -/
def gone : WorkTree where
  nodes := ∅
  rooted _ _ mem := absurd mem (AList.notMem_empty _)

/-- `_make_state_dir` under `agent.run_as`: both names are to be free. -/
def openState : Option WorkTree :=
  let opened := tree.place [] stateDir ⟨.directory, worker⟩
  if (tree.find [stateDir]).isNone && (opened.find [stateDir, "runs"]).isNone then
    some (opened.place [stateDir] "runs" ⟨.directory, worker⟩)
  else none

/-- `_unmark_finished`: what is no directory is unlinked. -/
def unmarkFinished : WorkTree :=
  if isOwnDir worker tree [stateDir] && (tree.find [stateDir, finishedMarker]).any fun node => !node.isDir then
    (tree.unlink [stateDir, finishedMarker]).getD tree
  else tree

/-- The names of the two marks. -/
def isMark (path : FilePath) : Bool := path = [stateDir, createdMarker] || path = [stateDir, finishedMarker]

end WorkTree

namespace Upkeep

variable (worker : Nat) (account : Option Nat) (s : Upkeep)

/-- What an event does, `none` where it does not happen. -/
def step : UpkeepEvent → Option Upkeep
  | .create => if s.stage = .idle ∧ stands s.tree = false then some ⟨.root ⟨.directory, worker⟩, .made⟩ else none
  | .clone ok =>
    if s.stage = .made then
      match if ok && (s.tree.find [".git"]).any Node.isDir then openState worker s.tree else none with
      | some tree => some ⟨tree, .cloned⟩
      | none => some ⟨s.tree, .failed⟩
    else none
  | .postClone ok => if s.stage = .cloned then some ⟨s.tree, if ok then .setUp else .failed⟩ else none
  | .afterCreate ok => if s.stage = .setUp then some ⟨s.tree, if ok then .hooked else .failed⟩ else none
  -- written last, and exclusively
  | .complete =>
    if s.stage = .hooked then
      if isOwnDir worker s.tree [stateDir] && (s.tree.find [stateDir, createdMarker]).isNone then
        some ⟨createMarker worker s.tree [stateDir] createdMarker, .idle⟩
      else some ⟨s.tree, .failed⟩
    else none
  -- a creation that failed, or a remnant of one
  | .discard paths =>
    if s.stage = .failed ∨ s.stage = .idle ∧ isComplete worker s.tree account = false then
      (s.tree.unlinkAll paths).map fun tree => ⟨tree, .idle⟩
    else none
  | .reuse unmarked =>
    if s.stage = .idle ∧ isComplete worker s.tree account = true then
      some ⟨if unmarked then unmarkFinished worker s.tree else s.tree, .idle⟩
    else none
  -- the worker's other files: the session's record, a run's log
  | .keep path name node =>
    if node.uid = worker ∧ isMark (path ++ [name]) = false then some ⟨s.tree.place path name node, s.stage⟩ else none
  | .finish fails => if s.stage = .idle ∧ stands s.tree = true then some ⟨markFinished worker s.tree fails, .idle⟩ else none
  | .remove fails =>
    if s.stage = .idle ∧ stands s.tree = true then some ⟨markFinished worker s.tree fails, .removing⟩ else none
  | .delete paths => if s.stage = .removing then (s.tree.unlinkAll paths).map fun tree => ⟨tree, .removing⟩ else none
  | .removed fails =>
    if s.stage = .removing then some ⟨if stands s.tree then markFinished worker s.tree fails else s.tree, .idle⟩ else none
  | .kill => some ⟨s.tree, .idle⟩
  -- a rename is an unlink and a placing
  | .place path name node =>
    if node.uid ≠ worker ∧ (s.tree.find (path ++ [name])).isNone then some ⟨s.tree.place path name node, s.stage⟩ else none
  | .unlink path =>
    if (s.tree.find path).all (fun node => node.uid ≠ worker) then (s.tree.unlink path).map fun tree => ⟨tree, s.stage⟩ else none

end Upkeep

section Marks

variable {worker : Nat} {tree tree' : WorkTree} {kind : NodeKind} {path parent : FilePath} {name : String} {node : Node}

/-- What others place is not the worker's. -/
theorem isOwn_place_foreign (foreign : node.uid ≠ worker) (own : isOwn worker (tree.place parent name node) kind path = true) :
    isOwn worker tree kind path = true := by
  rw [isOwn_iff] at own ⊢
  by_cases same : path = parent ++ [name]
  · subst same
    unfold FileTree.place at own
    split at own
    next =>
      cases (AList.lookup_insert _).symm.trans own
      exact absurd rfl foreign
    next => exact own
  · rwa [FileTree.find_place_of_ne same] at own

theorem isOwn_place_of_ne (ne : path ≠ parent ++ [name]) :
    isOwn worker (tree.place parent name node) kind path = isOwn worker tree kind path := by
  rw [isOwn, FileTree.find_place_of_ne ne, isOwn]

theorem isOwn_unlink (removed : tree.unlink parent = some tree') (own : isOwn worker tree' kind path = true) :
    isOwn worker tree kind path = true := by
  rw [isOwn_iff, FileTree.find_unlink removed] at own
  rw [isOwn_iff]
  split at own
  next => cases own
  next => exact own

theorem isOwn_unlinkAll {paths : List FilePath} (removed : tree.unlinkAll paths = some tree')
    (own : isOwn worker tree' kind path = true) : isOwn worker tree kind path = true := by
  rw [isOwn_iff, FileTree.find_unlinkAll removed] at own
  rw [isOwn_iff]
  split at own
  next => cases own
  next => exact own

theorem isOwn_markFinished {fails : Bool} (state : path ≠ [stateDir]) (mark : path ≠ [stateDir, finishedMarker]) :
    isOwn worker (markFinished worker tree fails) kind path = isOwn worker tree kind path := by
  unfold markFinished
  split
  · rfl
  · rw [isOwn, find_writeFinished state mark, isOwn]

theorem isOwn_openState (opened : openState worker tree = some tree') (state : path ≠ [stateDir]) (runs : path ≠ [stateDir, "runs"]) :
    isOwn worker tree' kind path = isOwn worker tree kind path := by
  unfold openState at opened
  dsimp only at opened
  split at opened
  next =>
    cases opened
    rw [isOwn_place_of_ne runs, isOwn_place_of_ne state]
  next => cases opened

theorem isOwn_unmarkFinished (own : isOwn worker (unmarkFinished worker tree) kind path = true) : isOwn worker tree kind path = true := by
  unfold unmarkFinished at own
  split at own
  next =>
    cases removed : tree.unlink [stateDir, finishedMarker] with
    | none =>
      rw [removed] at own
      exact own
    | some next =>
      rw [removed] at own
      exact isOwn_unlink removed own
  next => exact own

/-- In a state directory of the worker's, no mark is left. -/
theorem not_marked_unmarkFinished (state : isOwnDir worker tree [stateDir] = true) :
    isOwn worker (unmarkFinished worker tree) .regular [stateDir, finishedMarker] = false := by
  rw [Bool.eq_false_iff]
  intro own
  have stood := isOwn_iff.mp (isOwn_unmarkFinished own)
  obtain ⟨next, removed⟩ := FileTree.unlink_leaf stood rfl
  have unmarks : unmarkFinished worker tree = next := by
    unfold unmarkFinished
    rw [state, stood, removed]
    rfl
  rw [unmarks, isOwn_iff, FileTree.find_unlink removed, if_pos rfl] at own
  cases own

end Marks

namespace Upkeep

variable {worker : Nat} {account : Option Nat} {s s' : Upkeep} {event : UpkeepEvent} {past events : List UpkeepEvent}

/-- What the marks of the worker's say of the events so far. -/
structure Recorded (worker : Nat) (past : List UpkeepEvent) (s : Upkeep) : Prop where
  created : isOwn worker s.tree .regular [stateDir, createdMarker] = true → Since UpkeepEvent.setsUp UpkeepEvent.creates past
  hooked : s.stage = .hooked → Since UpkeepEvent.setsUp UpkeepEvent.creates past
  finished : isOwn worker s.tree .regular [stateDir, finishedMarker] = true → Since UpkeepEvent.finishes UpkeepEvent.startsOver past
  removing : s.stage = .removing → Since UpkeepEvent.finishes UpkeepEvent.startsOver past

/-- An event that clears nothing and makes no mark. -/
theorem Recorded.quiet (held : Recorded worker past s) (creates : event.creates = false) (startsOver : event.startsOver = false)
    (stage : s'.stage = .hooked ∨ s'.stage = .removing → s'.stage = s.stage)
    (marks : ∀ path, isMark path = true → isOwn worker s'.tree .regular path = true → isOwn worker s.tree .regular path = true) :
    Recorded worker (past ++ [event]) s' where
  created own := (held.created (marks _ rfl own)).concat creates
  hooked here := (held.hooked ((stage (.inl here)).symm.trans here)).concat creates
  finished own := (held.finished (marks _ rfl own)).concat startsOver
  removing here := (held.removing ((stage (.inr here)).symm.trans here)).concat startsOver

theorem ne_of_isMark {path other : FilePath} (mark : isMark path = true) (none : isMark other = false) : path ≠ other := by
  rintro rfl
  exact Bool.noConfusion (mark.symm.trans none)

/-- What `_mark_finished` leaves of the marks, once issuebot is done. -/
theorem Recorded.marked {fails : Bool} {stage : UpkeepStage} (held : Recorded worker past s) (creates : event.creates = false)
    (not_hooked : stage ≠ .hooked) (done : Since UpkeepEvent.finishes UpkeepEvent.startsOver (past ++ [event])) :
    Recorded worker (past ++ [event]) ⟨markFinished worker s.tree fails, stage⟩ where
  created own := by
    rw [isOwn_markFinished (by decide) (by decide)] at own
    exact (held.created own).concat creates
  hooked here := absurd here not_hooked
  finished _ := done
  removing _ := done

theorem step_recorded (went : s.step worker account event = some s') (held : Recorded worker past s) :
    Recorded worker (past ++ [event]) s' := by
  cases event with
  | create =>
    simp only [step] at went
    split at went
    next =>
      cases went
      have bare (name : String) : isOwn worker (.root ⟨.directory, worker⟩) .regular [stateDir, name] = false := rfl
      refine ⟨fun own => ?_, fun here => UpkeepStage.noConfusion here, fun own => ?_, fun here => UpkeepStage.noConfusion here⟩
      · exact Bool.noConfusion ((bare _).symm.trans own)
      · exact Bool.noConfusion ((bare _).symm.trans own)
    next => cases went
  | clone ok =>
    simp only [step] at went
    split at went
    next =>
      split at went
      next tree opened =>
        cases went
        refine held.quiet rfl rfl (fun here => here.elim UpkeepStage.noConfusion UpkeepStage.noConfusion) fun path mark own => ?_
        split at opened
        next => rwa [isOwn_openState opened (ne_of_isMark mark (by decide)) (ne_of_isMark mark (by decide))] at own
        next => cases opened
      next =>
        cases went
        exact held.quiet rfl rfl (fun here => here.elim UpkeepStage.noConfusion UpkeepStage.noConfusion) fun _ _ own => own
    next => cases went
  | postClone ok =>
    simp only [step] at went
    split at went
    next =>
      cases went
      refine held.quiet rfl rfl (fun here => ?_) fun _ _ own => own
      cases ok <;> exact here.elim UpkeepStage.noConfusion UpkeepStage.noConfusion
    next => cases went
  | afterCreate ok =>
    simp only [step] at went
    split at went
    next =>
      cases went
      cases ok with
      | true =>
        refine ⟨fun own => (held.created own).concat rfl, fun _ => since_concat rfl, fun own => (held.finished own).concat rfl, ?_⟩
        exact fun here => UpkeepStage.noConfusion here
      | false => exact held.quiet rfl rfl (fun here => here.elim UpkeepStage.noConfusion UpkeepStage.noConfusion) fun _ _ own => own
    next => cases went
  | complete =>
    simp only [step] at went
    split at went
    next here =>
      split at went
      next =>
        cases went
        refine ⟨fun _ => (held.hooked here).concat rfl, fun here => UpkeepStage.noConfusion here, fun own => ?_,
          fun here => UpkeepStage.noConfusion here⟩
        rw [createMarker, isOwn_place_of_ne (by decide)] at own
        exact (held.finished own).concat rfl
      next =>
        cases went
        exact held.quiet rfl rfl (fun here => here.elim UpkeepStage.noConfusion UpkeepStage.noConfusion) fun _ _ own => own
    next => cases went
  | discard paths =>
    simp only [step] at went
    split at went
    next =>
      obtain ⟨tree, removed, rfl⟩ := Option.map_eq_some_iff.mp went
      exact held.quiet rfl rfl (fun here => here.elim UpkeepStage.noConfusion UpkeepStage.noConfusion) fun _ _ own => isOwn_unlinkAll removed own
    next => cases went
  | reuse unmarked =>
    simp only [step] at went
    split at went
    next here =>
      cases went
      cases unmarked with
      | true =>
        refine ⟨fun own => (held.created (isOwn_unmarkFinished own)).concat rfl, fun here => UpkeepStage.noConfusion here,
          fun own => ?_, fun here => UpkeepStage.noConfusion here⟩
        have state : isOwnDir worker s.tree [stateDir] = true := by
          have complete := (isComplete_iff.mp here.2).2
          exact isOwnDir_state.mpr ⟨isOwn_iff.mpr complete.1, isOwn_iff.mpr complete.2.1⟩
        exact Bool.noConfusion ((not_marked_unmarkFinished state).symm.trans own)
      | false => exact held.quiet rfl rfl (fun here => here.elim UpkeepStage.noConfusion UpkeepStage.noConfusion) fun _ _ own => own
    next => cases went
  | keep path name node =>
    simp only [step] at went
    split at went
    next own_other =>
      cases went
      refine held.quiet rfl rfl (fun _ => rfl) fun path mark own => ?_
      rwa [isOwn_place_of_ne (ne_of_isMark mark own_other.2)] at own
    next => cases went
  | finish fails =>
    simp only [step] at went
    split at went
    next =>
      cases went
      exact held.marked rfl UpkeepStage.noConfusion (since_concat rfl)
    next => cases went
  | remove fails =>
    simp only [step] at went
    split at went
    next =>
      cases went
      exact held.marked rfl UpkeepStage.noConfusion (since_concat rfl)
    next => cases went
  | delete paths =>
    simp only [step] at went
    split at went
    next here =>
      obtain ⟨tree, removed, rfl⟩ := Option.map_eq_some_iff.mp went
      exact held.quiet rfl rfl (fun _ => here.symm) fun _ _ own => isOwn_unlinkAll removed own
    next => cases went
  | removed fails =>
    simp only [step] at went
    split at went
    next here =>
      cases went
      split
      next => exact held.marked rfl UpkeepStage.noConfusion ((held.removing here).concat rfl)
      next => exact held.quiet rfl rfl (fun here => here.elim UpkeepStage.noConfusion UpkeepStage.noConfusion) fun _ _ own => own
    next => cases went
  | kill =>
    cases went
    exact held.quiet rfl rfl (fun here => here.elim UpkeepStage.noConfusion UpkeepStage.noConfusion) fun _ _ own => own
  | place path name node =>
    simp only [step] at went
    split at went
    next foreign =>
      cases went
      exact held.quiet rfl rfl (fun _ => rfl) fun _ _ own => isOwn_place_foreign foreign.1 own
    next => cases went
  | unlink path =>
    simp only [step] at went
    split at went
    next =>
      obtain ⟨tree, removed, rfl⟩ := Option.map_eq_some_iff.mp went
      exact held.quiet rfl rfl (fun _ => rfl) fun _ _ own => isOwn_unlink removed own
    next => cases went

theorem steps_recorded (run : Steps (fun s event s' => s.step worker account event = some s') ⟨gone, .idle⟩ events s) :
    Recorded worker events s := by
  have nothing {path : FilePath} : isOwn worker gone .regular path = false := rfl
  have start : Recorded worker [] ⟨gone, .idle⟩ :=
    ⟨fun own => Bool.noConfusion (nothing.symm.trans own), fun here => UpkeepStage.noConfusion here,
      fun own => Bool.noConfusion (nothing.symm.trans own), fun here => UpkeepStage.noConfusion here⟩
  exact run.history (fun _ _ _ _ went held => step_recorded went held) start

/-- **A workspace is used again only once its creation was through**: since the directory was made, the clone, the set-up and the
hook behind them have succeeded. -/
theorem reused_was_set_up (run : Steps (fun s event s' => s.step worker account event = some s') ⟨gone, .idle⟩ events s)
    {unmarked : Bool} (reused : s.step worker account (.reuse unmarked) = some s') :
    Since UpkeepEvent.setsUp UpkeepEvent.creates events := by
  simp only [step] at reused
  split at reused
  next here => exact (steps_recorded run).created (isOwn_iff.mpr (isComplete_iff.mp here.2).2.2.2.2)
  next => cases reused

/-- What some events leave where there was no workspace, where they happen. -/
def leftBy (events : List UpkeepEvent) : Upkeep :=
  (execute (fun s event => step 1 (some 2) s event) ⟨gone, .idle⟩ events).getD ⟨gone, .idle⟩

theorem leftBy_runs {events : List UpkeepEvent}
    (happen : (execute (fun s event => step 1 (some 2) s event) ⟨gone, .idle⟩ events).isSome) :
    Steps (fun s event s' => s.step 1 (some 2) event = some s') ⟨gone, .idle⟩ events (leftBy events) :=
  .of_isSome happen

/-- The hook leaves both marks of its own and fails, and what it leaves is removed as far as that goes; the next creation goes
through, and its session leaves a mark that asks for a removal. -/
def forgedMarks : List UpkeepEvent :=
  [.create, .place [] ".git" ⟨.directory, 2⟩, .clone true, .postClone true, .place [stateDir] createdMarker ⟨.regular, 2⟩,
    .place [stateDir] finishedMarker ⟨.regular, 2⟩, .afterCreate false, .kill, .unlink [stateDir, createdMarker],
    .discard [[stateDir, finishedMarker], [stateDir, "runs"], [stateDir], [".git"], []],
    .create, .place [] ".git" ⟨.directory, 2⟩, .clone true, .postClone true, .afterCreate true, .complete,
    .place [stateDir] finishedMarker ⟨.regular, 2⟩]

theorem forged_then_set_up : Since UpkeepEvent.setsUp UpkeepEvent.creates forgedMarks ∧ isMarked 1 (leftBy forgedMarks).tree = false := by
  have reuses : ((leftBy forgedMarks).step 1 (some 2) (.reuse true)).isSome := by decide +kernel
  exact ⟨reused_was_set_up (leftBy_runs (by decide +kernel)) (Option.some_get reuses).symm, by decide +kernel⟩

/-- **A workspace asks to be removed only once issuebot was done with it**: since it was made or used again, its removal was begun
or its issue finished. -/
theorem marked_was_finished (run : Steps (fun s event s' => s.step worker account event = some s') ⟨gone, .idle⟩ events s)
    (marked : isMarked worker s.tree = true) : Since UpkeepEvent.finishes UpkeepEvent.startsOver events :=
  (steps_recorded run).finished (isMarked_iff.mp marked).2

/-- A removal that is cut short, over the mark the session left, and its worker killed. -/
theorem marked_after_forged : Since UpkeepEvent.finishes UpkeepEvent.startsOver (forgedMarks ++ [.remove false, .delete [[".git"]], .kill]) :=
  marked_was_finished (leftBy_runs (by decide +kernel)) (by decide +kernel)

end Upkeep

end Issuebot
