import Issuebot.GitHub.Models
import Issuebot.Logic.Latest
import Mathlib.Data.Prod.Lex

/-!
# Is the text a session would act on the text a human approved?

`assess` is the work rule: the latest `todo` by an account that can approve is the
approval, and an edit at or after it by anyone else un-approves the issue. `assessTriage`
asks that rule of `triage-todo` first, and where it refuses and the latest label is
issuebot's own, asks who wrote the text (`assessAuthorship`).

Each decision is read once, by `assess_approved_iff`, `assessAuthorship_approved_iff` and
`assessTriage_approved_iff`. Later results use those three and no definition.
-/

namespace Issuebot
set_option autoImplicit false
open Logic

structure Approved where
  approver : String
  approvedAt : Datetime
  deriving DecidableEq, Repr

/-- Why the issue is not dispatched. -/
structure Unapproved where
  reason : String
  approval : Option LabelApplied
  edit : Option TextEdit
  deriving DecidableEq, Repr

inductive Decision where
  | approved (approved : Approved)
  | unapproved (unapproved : Unapproved)
  deriving DecidableEq, Repr

/-- The kind of a decision: `isinstance(verdict, Approved)`. -/
def Decision.isApproved : Decision → Bool
  | .approved _ => true
  | .unapproved _ => false

@[simp] theorem Decision.isApproved_approved (a : Approved) : (Decision.approved a).isApproved = true := rfl

@[simp] theorem Decision.isApproved_unapproved (u : Unapproved) :
    (Decision.unapproved u).isApproved = false := rfl

def deletedAccount : String := "an account GitHub has deleted"

/-- `NO_OTHER_APPROVER` -/
def noOtherApprover (ownLogin todoLabel : String) : String :=
  "no account other than " ++ ownLogin ++ " has applied `" ++ todoLabel ++ "`"

/-- `NO_APPROVER` -/
def noApprover (todoLabel : String) : String := "no account has applied `" ++ todoLabel ++ "`"

def authorDeleted : String := "opened by an account GitHub has deleted"

/-- `NOT_A_MAINTAINER` -/
def notAMaintainer (author association : String) : String :=
  "opened by " ++ author ++ ", whose association is " ++ association ++ ", not a maintainer's"

section Rules

variable (py : Py)

/-- `edit.editor is not None and edit.editor.lower() == who.lower()` -/
def TextEdit.isBy (edit : TextEdit) (who : String) : Bool :=
  match edit.editor with
  | some editor => py.lower editor == py.lower who
  | none => false

/-- `edit.editor if edit.editor is not None else DELETED_ACCOUNT` -/
def TextEdit.editorName (edit : TextEdit) : String := edit.editor.getD deletedAccount

/-- One labelling of `wanted` by an account GitHub still names. -/
def namedLabelling (wanted : String) (event : LabelApplied) : Option (String × LabelApplied) :=
  match event.actor with
  | some actor => if py.lower event.label = py.lower wanted then some (actor, event) else none
  | none => none

/-- The list `assess` calls `todos` and `assess_triage` calls `named`. -/
def namedLabellings (wanted : String) (events : List LabelApplied) : List (String × LabelApplied) :=
  events.filterMap (namedLabelling py wanted)

/-- One labelling that can approve: issuebot's own counts only when its account administers
the repository. -/
def candidate (wanted ownLogin : String) (ownLabelsApprove : Bool) (event : LabelApplied) :
    Option (String × LabelApplied) :=
  (namedLabelling py wanted event).filter fun c =>
    ownLabelsApprove || py.lower c.1 != py.lower ownLogin

/-- The list `assess` calls `candidates`. -/
def candidates (wanted ownLogin : String) (ownLabelsApprove : Bool) (events : List LabelApplied) :
    List (String × LabelApplied) :=
  (namedLabellings py wanted events).filter fun c =>
    ownLabelsApprove || py.lower c.1 != py.lower ownLogin

/-- When a labelling was made. -/
def labelledAt (c : String × LabelApplied) : Datetime := c.2.appliedAt

/-- `sorted(evidence.edits, key=lambda item: item.at)` -/
def editsInOrder (edits : List TextEdit) : List TextEdit :=
  edits.insertionSort fun a b => a.editedAt ≤ b.editedAt

/-- The verdict for one issue. -/
def assess (evidence : ApprovalEvidence) (todoLabel ownLogin : String) (ownLabelsApprove : Bool) :
    Decision :=
  let todos := namedLabellings py todoLabel evidence.labelEvents
  match (candidates py todoLabel ownLogin ownLabelsApprove evidence.labelEvents).argmax labelledAt with
  | none =>
    .unapproved {
      reason := if todos.isEmpty then noApprover todoLabel else noOtherApprover ownLogin todoLabel
      approval := none
      edit := none }
  | some (approver, approval) =>
    let unapproves (edit : TextEdit) : Bool :=
      !decide (edit.editedAt < approval.appliedAt) && !edit.isBy py approver
    match (editsInOrder evidence.edits).find? unapproves with
    | none => .approved { approver, approvedAt := approval.appliedAt }
    | some edit =>
      .unapproved {
        reason :=
          edit.what.value ++ " edited at " ++ utcStamp edit.editedAt ++ " by " ++ edit.editorName ++
            ", after " ++ approver ++ " applied `" ++ approval.label ++ "` at " ++
            utcStamp approval.appliedAt
        approval := some approval
        edit := some edit }

/-- The authorship verdict for an issue whose latest `triage-todo` is `labelled`. -/
def assessAuthorship (evidence : ApprovalEvidence) (author authorAssociation : Option String)
    (labelled : LabelApplied) : Decision :=
  match author with
  | none => .unapproved { reason := authorDeleted, approval := some labelled, edit := none }
  | some author =>
    if ¬ authorAssociation.any (· ∈ maintainerAssociations) then
      -- `author_association or "unknown"`: an empty association prints as an unknown one
      let association := (authorAssociation.filter (· ≠ "")).getD "unknown"
      .unapproved {
        reason := notAMaintainer author association, approval := some labelled, edit := none }
    else
      match (editsInOrder evidence.edits).find? fun edit => !edit.isBy py author with
      | none => .approved { approver := author, approvedAt := labelled.appliedAt }
      | some edit =>
        .unapproved {
          reason :=
            edit.what.value ++ " edited at " ++ utcStamp edit.editedAt ++ " by " ++ edit.editorName ++
              ", not by " ++ author ++ ", who opened it"
          approval := some labelled
          edit := some edit }

/-- The key `assess_triage` takes the latest labelling by: the time, and in a tie a person's
label over issuebot's. -/
def triageKey (ownLogin : String) (c : String × LabelApplied) : Datetime ×ₗ Bool :=
  toLex (c.2.appliedAt, py.lower c.1 != py.lower ownLogin)

/-- The verdict for a triage or parent-review run. -/
def assessTriage (evidence : ApprovalEvidence) (triageLabel ownLogin : String)
    (ownLabelsApprove : Bool) (author authorAssociation : Option String) : Decision :=
  match assess py evidence triageLabel ownLogin ownLabelsApprove with
  | .approved approved => .approved approved
  | .unapproved verdict =>
    match (namedLabellings py triageLabel evidence.labelEvents).argmax (triageKey py ownLogin) with
    | none => .unapproved verdict
    | some (actor, latest) =>
      if py.lower actor ≠ py.lower ownLogin then .unapproved verdict
      else
        match assessAuthorship py evidence author authorAssociation latest with
        | .approved authored => .approved authored
        | .unapproved authored =>
          if verdict.approval.isNone then .unapproved authored else .unapproved verdict

end Rules

section Reading

variable {py : Py} {evidence : ApprovalEvidence} {events : List LabelApplied} {edits : List TextEdit}
variable {wanted ownLogin : String} {ownLabelsApprove : Bool} {author authorAssociation : Option String}

theorem mem_namedLabellings {c : String × LabelApplied} :
    c ∈ namedLabellings py wanted events ↔
      c.2 ∈ events ∧ c.2.actor = some c.1 ∧ py.lower c.2.label = py.lower wanted := by
  obtain ⟨actor, event⟩ := c
  simp only [namedLabellings, List.mem_filterMap, namedLabelling]
  constructor
  · rintro ⟨e, mem, read⟩
    cases named : e.actor with
    | none => simp [named] at read
    | some a =>
      simp only [named, Option.ite_none_right_eq_some, Option.some.injEq, Prod.mk.injEq] at read
      obtain ⟨label, rfl, rfl⟩ := read
      exact ⟨mem, named, label⟩
  · rintro ⟨mem, named, label⟩
    exact ⟨event, mem, by simp [named, label]⟩

theorem mem_candidates {c : String × LabelApplied} :
    c ∈ candidates py wanted ownLogin ownLabelsApprove events ↔
      c ∈ namedLabellings py wanted events ∧
        (ownLabelsApprove = true ∨ py.lower c.1 ≠ py.lower ownLogin) := by
  simp [candidates]

/-- The candidates are one reading of the label events. -/
theorem candidates_eq_filterMap :
    candidates py wanted ownLogin ownLabelsApprove events =
      events.filterMap (candidate py wanted ownLogin ownLabelsApprove) := by
  rw [candidates, namedLabellings, List.filter_filterMap]
  rfl

/-- Every edit at or after `since` is `who`'s. -/
def OnlyEditedBy (py : Py) (edits : List TextEdit) (since : Datetime) (who : String) : Prop :=
  ∀ edit ∈ edits, since ≤ edit.editedAt → edit.isBy py who = true

/-- The work rule approves exactly when there is a labelling to go by and every edit from
then on is the labeller's. -/
theorem assess_approved_iff :
    (assess py evidence wanted ownLogin ownLabelsApprove).isApproved = true ↔
      ∃ c, (candidates py wanted ownLogin ownLabelsApprove evidence.labelEvents).argmax labelledAt = some c ∧
        OnlyEditedBy py evidence.edits c.2.appliedAt c.1 := by
  simp only [assess]
  cases first : (candidates py wanted ownLogin ownLabelsApprove evidence.labelEvents).argmax labelledAt with
  | none => simp
  | some c =>
    obtain ⟨approver, approval⟩ := c
    simp only [Option.some.injEq, exists_eq_left']
    cases found : (editsInOrder evidence.edits).find? fun edit =>
        !decide (edit.editedAt < approval.appliedAt) && !edit.isBy py approver with
    | none =>
      have none_unapproves := find_insertionSort_eq_none.mp found
      simp only [Decision.isApproved_approved, true_iff]
      intro edit mem late
      have keeps := none_unapproves edit mem
      simpa [not_lt.mpr late] using keeps
    | some edit =>
      simp only [Decision.isApproved_unapproved, Bool.false_eq_true, false_iff]
      intro only
      have unapproves := List.find?_some found
      have mem : edit ∈ evidence.edits := (List.mem_insertionSort _).mp (List.mem_of_find?_eq_some found)
      simp only [Bool.and_eq_true, Bool.not_eq_true', decide_eq_false_iff_not, not_lt] at unapproves
      exact Bool.false_ne_true (unapproves.2.symm.trans (only edit mem unapproves.1))

/-- The issue is a maintainer's own wording: a named author with a maintainer's association,
who made every edit. -/
structure Authored (py : Py) (edits : List TextEdit) (author authorAssociation : Option String) : Prop where
  named : ∃ who, author = some who ∧ ∀ edit ∈ edits, edit.isBy py who = true
  maintainer : ∃ association ∈ maintainerAssociations, authorAssociation = some association

theorem assessAuthorship_approved_iff (labelled : LabelApplied) :
    (assessAuthorship py evidence author authorAssociation labelled).isApproved = true ↔
      Authored py evidence.edits author authorAssociation := by
  cases author with
  | none =>
    simp only [assessAuthorship, Decision.isApproved_unapproved, Bool.false_eq_true, false_iff]
    rintro ⟨⟨who, named, -⟩, -⟩
    cases named
  | some who =>
    simp only [assessAuthorship]
    have maintainer_iff : authorAssociation.any (· ∈ maintainerAssociations) = true ↔
        ∃ association ∈ maintainerAssociations, authorAssociation = some association := by
      cases authorAssociation <;> simp
    split
    next refused =>
      simp only [Decision.isApproved_unapproved, Bool.false_eq_true, false_iff]
      exact fun authored => refused (maintainer_iff.mpr authored.maintainer)
    next granted =>
      have maintainer := maintainer_iff.mp (not_not.mp granted)
      cases found : (editsInOrder evidence.edits).find? fun edit => !edit.isBy py who with
      | none =>
        have all_own := find_insertionSort_eq_none.mp found
        simp only [Decision.isApproved_approved, true_iff]
        exact ⟨⟨who, rfl, fun edit mem => by simpa using all_own edit mem⟩, maintainer⟩
      | some edit =>
        simp only [Decision.isApproved_unapproved, Bool.false_eq_true, false_iff]
        rintro ⟨⟨who', same, all_own⟩, -⟩
        cases same
        have mem : edit ∈ evidence.edits := (List.mem_insertionSort _).mp (List.mem_of_find?_eq_some found)
        have foreign := List.find?_some found
        simp [all_own edit mem] at foreign

/-- The latest named labelling is issuebot's own, and no other named account labelled at or
after it: a person's label wins a tie. -/
structure OwnLatest (py : Py) (wanted ownLogin : String) (events : List LabelApplied)
    (c : String × LabelApplied) : Prop where
  latest : Latest labelledAt (namedLabellings py wanted events) c
  own : py.lower c.1 = py.lower ownLogin
  alone : ∀ d ∈ namedLabellings py wanted events, py.lower d.1 ≠ py.lower ownLogin →
    d.2.appliedAt < c.2.appliedAt

/-- The labelling `assess_triage` takes is issuebot's exactly when issuebot's is latest. -/
theorem triage_argmax_own_iff :
    (∃ c, (namedLabellings py wanted events).argmax (triageKey py ownLogin) = some c ∧
      py.lower c.1 = py.lower ownLogin) ↔ ∃ c, OwnLatest py wanted ownLogin events c := by
  constructor
  · rintro ⟨c, first, own⟩
    have latest := Latest.of_argmax first
    have below : ∀ d ∈ namedLabellings py wanted events, d.2.appliedAt < c.2.appliedAt ∨
        d.2.appliedAt = c.2.appliedAt ∧ py.lower d.1 = py.lower ownLogin := by
      intro d mem
      have le := latest.max d mem
      rw [triageKey, triageKey, Prod.Lex.toLex_le_toLex] at le
      simpa [own, Bool.le_iff_imp] using le
    refine ⟨c, ⟨latest.mem, fun d mem => ?_⟩, own, fun d mem other => ?_⟩
    · rcases below d mem with earlier | ⟨same, -⟩
      · exact earlier.le
      · exact same.le
    · exact (below d mem).resolve_right fun tied => other tied.2
  · rintro ⟨c, latest, own, alone⟩
    obtain ⟨m, first⟩ := exists_argmax (f := triageKey py ownLogin) (List.ne_nil_of_mem latest.mem)
    refine ⟨m, first, ?_⟩
    by_contra other
    have chosen := Latest.of_argmax first
    have le := chosen.max c latest.mem
    have earlier := alone m chosen.mem other
    rw [triageKey, triageKey, Prod.Lex.toLex_le_toLex] at le
    rcases le with lt | ⟨same, -⟩
    · exact absurd lt earlier.not_gt
    · exact absurd same earlier.ne'

/-- The triage rule approves exactly when the work rule does of the same label, or issuebot's
own labelling is latest and the issue is a maintainer's own wording. -/
theorem assessTriage_approved_iff :
    (assessTriage py evidence wanted ownLogin ownLabelsApprove author authorAssociation).isApproved = true ↔
      (assess py evidence wanted ownLogin ownLabelsApprove).isApproved = true ∨
        (∃ c, OwnLatest py wanted ownLogin evidence.labelEvents c) ∧
          Authored py evidence.edits author authorAssociation := by
  rw [← triage_argmax_own_iff]
  simp only [assessTriage]
  cases assess py evidence wanted ownLogin ownLabelsApprove with
  | approved approved => simp
  | unapproved verdict =>
    simp only [Decision.isApproved_unapproved, Bool.false_eq_true, false_or]
    cases (namedLabellings py wanted evidence.labelEvents).argmax (triageKey py ownLogin) with
    | none => simp
    | some c =>
      simp only [Option.some.injEq, exists_eq_left']
      by_cases own : py.lower c.1 = py.lower ownLogin
      · rw [if_neg (not_not.mpr own), ← assessAuthorship_approved_iff c.2]
        cases assessAuthorship py evidence author authorAssociation c.2 with
        | approved authored => simp [own]
        | unapproved authored => by_cases counted : verdict.approval.isNone <;> simp [counted]
      · simp [own]

end Reading
end Issuebot
