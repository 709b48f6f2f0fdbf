import Issuebot.Orchestrator.Moves

/-!
# The programs that touch no run, retry or figure

A program is `Quiet` when it keeps every predicate that changes beside the runs, the retries,
the ledger's figures and the history leave alone (`Stable`). The filings, the hand-overs, the
reads and the holds are quiet, so the proofs about the others step over them.
-/

namespace Issuebot
set_option autoImplicit false
open Logic

namespace Orchestrator

variable {α β : Type}

/-- A predicate no change aside can break. -/
def Stable (P : Orchestrator → Prop) : Prop := ∀ o o', Aside o o' → P o → P o'

/-- A program that keeps every such predicate. -/
def Quiet (x : Pass α) : Prop :=
  ∀ (calls : Empty → Fate Empty) (P : Orchestrator → Prop) (E : Empty → Orchestrator → Prop), Stable P →
    Remote.Triple calls P x (fun _ => P) E

namespace Quiet

theorem pure {a : α} : Quiet (pure a) := fun _ _ _ _ => .pure fun _ h => h

theorem bind {x : Pass α} {f : α → Pass β} (first : Quiet x) (second : ∀ a, Quiet (f a)) : Quiet (x >>= f) :=
  fun calls P E stable => (first calls P E stable).bind fun a => second a calls P E stable

theorem get : Quiet (Remote.get : Pass Orchestrator) := fun _ _ _ _ => .get fun _ h => h

theorem modify {f : Orchestrator → Orchestrator} (h : ∀ o, Aside o (f o)) : Quiet (Remote.modify f) :=
  fun _ _ _ stable => .modify fun o => stable o (f o) (h o)

theorem when {c : Bool} {x : Pass Unit} (h : Quiet x) : Quiet (Remote.when c x) :=
  fun calls P E stable => .when (fun _ => h calls P E stable) fun _ _ held => held

theorem ite {c : Prop} [Decidable c] {x y : Pass α} (yes : Quiet x) (no : Quiet y) : Quiet (if c then x else y) := by
  split
  · exact yes
  · exact no

theorem onIssue {number : Nat} {fates : Call → Fate GitHubError} {program : Filing α} :
    Quiet (onIssue number fates program) := fun _ _ _ stable o held =>
  stable o _ (.of_ledger rfl rfl id) held

theorem passLoop {body : α → β → Pass Unit} (h : ∀ item w, Quiet (body item w)) {items : List α}
    {worlds : Nat → β} : Quiet (passLoop body items worlds) := by
  induction items generalizing worlds with
  | nil => exact pure
  | cons item items ih => exact (h item _).bind fun _ => ih

theorem foldlM {f : β → α → Pass β} (h : ∀ b a, Quiet (f b a)) {items : List α} {b : β} :
    Quiet (items.foldlM f b) := by
  induction items generalizing b with
  | nil => exact pure
  | cons item items ih =>
    rw [List.foldlM_cons]
    exact (h b item).bind fun _ => ih

theorem requestStop : Quiet requestStop := .modify fun _ => .of_ledger rfl rfl fun _ => rfl

theorem await {awaited : Awaited α} : Quiet (await awaited) := (when requestStop).bind fun _ => pure

theorem changeHolds {f : Holds → Holds} : Quiet (changeHolds f) :=
  .modify fun _ => .of_ledger rfl rfl id

/-- The counters beside those of the runs. -/
theorem bump {f : Counters → Counters} (runsStarted : ∀ counters, (f counters).runsStarted = counters.runsStarted)
    (runsEnded : ∀ counters, (f counters).runsEnded = counters.runsEnded) : Quiet (bump f) := by
  refine .modify fun o => .of_ledger ?_ rfl id
  simp only [core, runsStarted, runsEnded]

theorem bumpBlocked : Quiet bumpBlocked := bump (fun _ => rfl) fun _ => rfl

/-- A quiet program adds nothing to a figure no change aside can move. -/
theorem adds {M : Type} [AddMonoid M] {figure : Orchestrator → M} {x : Pass α} (quiet : Quiet x)
    (stable : ∀ o o', Aside o o' → figure o' = figure o) : Remote.Adds figure x 0 := by
  intro calls o
  have kept : Stable fun o' => figure o' = figure o + 0 := fun s s' aside same => (stable s s' aside).trans same
  exact (quiet calls _ (fun _ o' => figure o' = figure o + 0) kept).after (add_zero _).symm

end Quiet

/-- What a program adds, it has added once it has run. -/
theorem figure_after {M : Type} [AddMonoid M] {figure : Orchestrator → M} {x : Pass α} {k : M} {o : Orchestrator}
    (adds : Remote.Adds figure x k) : figure (Pass.after x o) = figure o + k := by
  rw [Pass.after_eq Empty.elim]
  exact adds Empty.elim o

section Programs

variable {py : Py} {settings : Settings py} {issue : Issue} {w : World} {number : Nat}

theorem admitUnread_quiet : Quiet (admitUnread settings number) := Quiet.get.bind fun _ => .pure

theorem bindAccount_quiet {registry : Except String AccountRegistry} {key : String} :
    Quiet (bindAccount settings registry key) := by
  refine Quiet.get.bind fun o => .ite .pure (.ite .pure ?_)
  cases registry with
  | error message => exact Quiet.changeHolds.bind fun _ => .pure
  | ok registry =>
    dsimp only
    split
    · exact .pure
    · exact .ite .pure .pure

theorem claim_quiet : Quiet (claim settings issue w) := .ite .pure (Quiet.await.bind fun _ => .pure)

theorem filing_quiet {program : Clocks → Filing α} : Quiet (filing number w program) :=
  Quiet.onIssue.bind fun _ => Quiet.await.bind fun _ => .pure

theorem fileFor_quiet {program : Clocks → Filing α} : Quiet (fileFor number w program) :=
  filing_quiet.bind fun _ => .pure

theorem retryPendingVerdicts_quiet {triage reviews : Nat → World} :
    Quiet (retryPendingVerdicts settings triage reviews) :=
  Quiet.get.bind fun _ => (Quiet.passLoop fun _ _ => fileFor_quiet).bind fun _ =>
    Quiet.get.bind fun _ => .passLoop fun _ _ => fileFor_quiet

theorem dropOwedNotesTakenBack_quiet {candidates : List Nat} : Quiet (dropOwedNotesTakenBack candidates) :=
  .modify fun _ => .of_ledger rfl rfl id

theorem rewriteNote_quiet {note : ParentHandOver} : Quiet (rewriteNote settings issue note w) := fileFor_quiet

theorem fetchCandidates_quiet {t : TriageWorld} : Quiet (fetchCandidates t) := by
  refine Quiet.await.bind fun answer => ?_
  cases answer with
  | ok issues => exact .pure
  | error error =>
    refine Quiet.bind (.when (.modify ?_)) fun _ => .pure
    exact fun _ => .of_ledger rfl rfl id

theorem triageIssues_quiet {track : Option TrackRead} {t : TriageWorld} : Quiet (triageIssues settings track t) := by
  refine Quiet.get.bind fun o => ?_
  split
  · exact .pure
  · exact .pure
  · exact .ite .pure (.ite .pure fetchCandidates_quiet)

theorem watchParent_quiet {answers : List ParentAnswer} {clock : Datetime} {busy : Nat → Bool} {list : WatchList} :
    Quiet (watchParent settings answers clock busy list number) := by
  refine Quiet.get.bind fun o => ?_
  split
  · exact .pure
  · exact Quiet.onIssue.bind fun _ => .pure
  · exact .ite (Quiet.onIssue.bind fun _ => .pure) (.ite .pure (.ite .pure (.ite .pure .pure)))

theorem watchNote_quiet {issues : List Issue} : Quiet (watchNote settings issues number w) := by
  refine Quiet.get.bind fun o => ?_
  split
  · exact rewriteNote_quiet
  · exact .pure

theorem readParents_quiet {issues : Option (List Issue)}
    {ask : List Nat → Awaited (Except GitHubError (List ParentAnswer))} : Quiet (readParents settings issues ask) :=
  Quiet.get.bind fun _ => .ite .pure (Quiet.await.bind fun _ => .pure)

theorem holdForUsageLimit_quiet {result : RunResult} {now : Datetime} :
    Quiet (holdForUsageLimit settings result now) := Quiet.changeHolds.bind fun _ => .pure

theorem holdForAuthFailure_quiet {result : RunResult} : Quiet (holdForAuthFailure result) :=
  Quiet.changeHolds.bind fun _ => .pure

theorem triageRunSettled_quiet {entry : RunningEntry} {ending : RunEnd} :
    Quiet (triageRunSettled settings number entry ending w) := by
  refine .ite (fileFor_quiet.bind fun _ => .pure) ?_
  cases ending with
  | cancelled => exact .pure
  | crashed => exact .pure
  | returned result =>
    exact .ite (holdForUsageLimit_quiet.bind fun _ => fileFor_quiet.bind fun _ => .pure)
      (.ite (holdForAuthFailure_quiet.bind fun _ => fileFor_quiet.bind fun _ => .pure) .pure)

theorem settleVerdict_quiet {entry : RunningEntry} {ending : RunEnd} {verdict : Except String α}
    {file : α → RunResult → Clocks → Filing Unit} : Quiet (settleVerdict settings entry ending verdict file w) := by
  cases ending with
  | cancelled => exact fileFor_quiet
  | crashed => exact fileFor_quiet
  | returned result =>
    refine .ite ?_ fileFor_quiet
    cases verdict <;> exact fileFor_quiet

/-- The triage track's exits leave the work track alone. -/
theorem triageExit_quiet {entry : RunningEntry} {ending : RunEnd} {exit : ExitWorld} :
    Quiet (triageExit settings number entry ending exit) :=
  triageRunSettled_quiet.bind fun _ => .ite .pure (.ite settleVerdict_quiet settleVerdict_quiet)

theorem noteFetchFailure_quiet {error : GitHubError} {status : Awaited (Option String)} :
    Quiet (noteFetchFailure error status) :=
  Quiet.changeHolds.bind fun _ => Quiet.get.bind fun _ =>
    .ite .pure (.ite (Quiet.await.bind fun _ => .changeHolds) .changeHolds)

theorem fetchIssues_quiet {t : TickWorld} : Quiet (fetchIssues t) := by
  refine Quiet.await.bind fun answer => ?_
  cases answer with
  | error error => exact noteFetchFailure_quiet.bind fun _ => .pure
  | ok issues => exact Quiet.changeHolds.bind fun _ => Quiet.await.bind fun _ => .pure

theorem pollIssues_quiet {t : TickWorld} : Quiet (pollIssues t) :=
  .ite (fetchIssues_quiet.bind fun _ => .pure) .changeHolds

theorem settleHolds_quiet {t : TickWorld} : Quiet (settleHolds settings t) :=
  Quiet.get.bind fun _ => (Quiet.when (Quiet.await.bind fun _ => .changeHolds)).bind fun _ => .changeHolds

theorem discardTriageWorkspaces_quiet {clock : Awaited Datetime} : Quiet (discardTriageWorkspaces clock) :=
  Quiet.await.bind fun _ => .modify fun _ => .of_ledger rfl rfl id

end Programs

end Orchestrator
end Issuebot
