import Issuebot.Orchestrator.Approval

/-!
# The order the evidence is listed in

GitHub records label events to the second and promises no order within one, and `max`
keeps the first of several equal times. So where two accounts labelled in the latest second
and one of them edited the text afterwards, which of the two `assess` goes by is decided by
the listing: by the editor it approves, by the other it refuses. `SplitTie` is that case,
and the only one. Triage's own tie rule settles a tie between a person and issuebot, never
one between two accounts that may approve.
-/

namespace Issuebot
set_option autoImplicit false
open Logic

/-- The same evidence in another order. -/
structure Reordered (evidence evidence' : ApprovalEvidence) : Prop where
  labelEvents : evidence'.labelEvents.Perm evidence.labelEvents
  edits : evidence'.edits.Perm evidence.edits

/-- Two accounts that may approve labelled in the latest second, and the edits made since,
of which there is one at least, are all by the first of them. -/
def SplitTie (py : Py) (evidence : ApprovalEvidence) (wanted ownLogin : String)
    (ownLabelsApprove : Bool) : Prop :=
  ∃ c d, Latest labelledAt (candidates py wanted ownLogin ownLabelsApprove evidence.labelEvents) c ∧
    Latest labelledAt (candidates py wanted ownLogin ownLabelsApprove evidence.labelEvents) d ∧
    py.lower c.1 ≠ py.lower d.1 ∧
    (∃ edit ∈ evidence.edits, c.2.appliedAt ≤ edit.editedAt) ∧
    OnlyEditedBy py evidence.edits c.2.appliedAt c.1

variable {py : Py} {evidence : ApprovalEvidence} {wanted ownLogin : String} {ownLabelsApprove : Bool}

theorem OnlyEditedBy.perm {edits edits' : List TextEdit} (perm : edits'.Perm edits) {since : Datetime}
    {who : String} : OnlyEditedBy py edits' since who ↔ OnlyEditedBy py edits since who :=
  ⟨fun h edit mem => h edit (perm.symm.subset mem), fun h edit mem => h edit (perm.subset mem)⟩

/-- Without a split tie every latest labelling leads to the same answer. -/
theorem not_splitTie_iff :
    ¬ SplitTie py evidence wanted ownLogin ownLabelsApprove ↔
      ∀ c d, Latest labelledAt (candidates py wanted ownLogin ownLabelsApprove evidence.labelEvents) c →
        Latest labelledAt (candidates py wanted ownLogin ownLabelsApprove evidence.labelEvents) d →
        OnlyEditedBy py evidence.edits c.2.appliedAt c.1 → OnlyEditedBy py evidence.edits d.2.appliedAt d.1 := by
  constructor
  · intro whole c d latest_c latest_d only edit mem late
    have same_time : c.2.appliedAt = d.2.appliedAt := latest_c.eq_at latest_d
    have by_c := only edit mem (same_time ▸ late)
    by_contra by_other
    apply whole
    refine ⟨c, d, latest_c, latest_d, fun same_account => by_other ?_, ⟨edit, mem, same_time ▸ late⟩, only⟩
    simpa only [TextEdit.isBy, same_account] using by_c
  · rintro agree ⟨c, d, latest_c, latest_d, differ, ⟨edit, mem, late⟩, only⟩
    have same_time : c.2.appliedAt = d.2.appliedAt := latest_c.eq_at latest_d
    have by_c := only edit mem late
    have by_d := agree c d latest_c latest_d only edit mem (same_time ▸ late)
    cases named : edit.editor with
    | none => simp [TextEdit.isBy, named] at by_c
    | some editor =>
      simp only [TextEdit.isBy, named, beq_iff_eq] at by_c by_d
      exact differ (by_c.symm.trans by_d)

/-- What `assess` answers of reordered evidence, over the original edits. -/
theorem assess_reordered_iff {evidence' : ApprovalEvidence} (same : Reordered evidence evidence') :
    (assess py evidence' wanted ownLogin ownLabelsApprove).isApproved = true ↔
      ∃ c, (evidence'.labelEvents.filterMap (candidate py wanted ownLogin ownLabelsApprove)).argmax
          labelledAt = some c ∧ OnlyEditedBy py evidence.edits c.2.appliedAt c.1 := by
  rw [assess_approved_iff, candidates_eq_filterMap]
  simp only [OnlyEditedBy.perm same.edits]

/-- The work rule's answer does not depend on the listing exactly without a split tie. -/
theorem assess_order_free_iff :
    (∀ evidence', Reordered evidence evidence' →
        (assess py evidence' wanted ownLogin ownLabelsApprove).isApproved =
          (assess py evidence wanted ownLogin ownLabelsApprove).isApproved) ↔
      ¬ SplitTie py evidence wanted ownLogin ownLabelsApprove := by
  rw [not_splitTie_iff, candidates_eq_filterMap, ← choice_order_free_iff
    (candidate py wanted ownLogin ownLabelsApprove) fun c => OnlyEditedBy py evidence.edits c.2.appliedAt c.1]
  have as_listed := @assess_reordered_iff py evidence wanted ownLogin ownLabelsApprove evidence ⟨.refl _, .refl _⟩
  constructor
  · intro free events' perm
    have other : Reordered evidence { evidence with labelEvents := events' } := ⟨perm, .refl _⟩
    rw [← assess_reordered_iff other, ← as_listed, free _ other]
  · intro free evidence' same
    rw [Bool.eq_iff_iff, assess_reordered_iff same, as_listed]
    exact free evidence'.labelEvents same.labelEvents

theorem OwnLatest.perm {events events' : List LabelApplied} (perm : events'.Perm events)
    {c : String × LabelApplied} (h : OwnLatest py wanted ownLogin events c) :
    OwnLatest py wanted ownLogin events' c := by
  have named := (perm.filterMap (namedLabelling py wanted)).symm
  exact ⟨h.latest.perm named, h.own, fun d mem => h.alone d (named.symm.subset mem)⟩

theorem Authored.perm {edits edits' : List TextEdit} (perm : edits'.Perm edits)
    {author authorAssociation : Option String} (h : Authored py edits author authorAssociation) :
    Authored py edits' author authorAssociation := by
  obtain ⟨⟨who, named, all_own⟩, maintainer⟩ := h
  exact ⟨⟨who, named, fun edit mem => all_own edit (perm.subset mem)⟩, maintainer⟩

/-- The authorship route does not read the listing. -/
theorem authorship_reordered_iff {evidence' : ApprovalEvidence} (same : Reordered evidence evidence')
    {author authorAssociation : Option String} :
    ((∃ c, OwnLatest py wanted ownLogin evidence'.labelEvents c) ∧
        Authored py evidence'.edits author authorAssociation) ↔
      (∃ c, OwnLatest py wanted ownLogin evidence.labelEvents c) ∧
        Authored py evidence.edits author authorAssociation := by
  constructor
  · rintro ⟨⟨c, own⟩, authored⟩
    exact ⟨⟨c, own.perm same.labelEvents.symm⟩, authored.perm same.edits.symm⟩
  · rintro ⟨⟨c, own⟩, authored⟩
    exact ⟨⟨c, own.perm same.labelEvents⟩, authored.perm same.edits⟩

/-- Neither rule's answer depends on the listing exactly where there is no split tie; for
triage, also where issuebot's own label is later than the tie and authorship approves. -/
theorem decisions_order_free_iff (py : Py) (evidence : ApprovalEvidence)
    (todoLabel triageLabel ownLogin : String) (ownLabelsApprove : Bool)
    (author authorAssociation : Option String) :
    ((∀ evidence', Reordered evidence evidence' →
        (assess py evidence' todoLabel ownLogin ownLabelsApprove).isApproved =
          (assess py evidence todoLabel ownLogin ownLabelsApprove).isApproved) ↔
      ¬ SplitTie py evidence todoLabel ownLogin ownLabelsApprove) ∧
    ((∀ evidence', Reordered evidence evidence' →
        (assessTriage py evidence' triageLabel ownLogin ownLabelsApprove author authorAssociation).isApproved =
          (assessTriage py evidence triageLabel ownLogin ownLabelsApprove author authorAssociation).isApproved) ↔
      ¬ SplitTie py evidence triageLabel ownLogin ownLabelsApprove ∨
        (∃ c, OwnLatest py triageLabel ownLogin evidence.labelEvents c) ∧
          Authored py evidence.edits author authorAssociation) := by
  refine ⟨assess_order_free_iff, ?_⟩
  by_cases authored : (∃ c, OwnLatest py triageLabel ownLogin evidence.labelEvents c) ∧
      Authored py evidence.edits author authorAssociation
  · refine ⟨fun _ => .inr authored, fun _ evidence' same => ?_⟩
    rw [Bool.eq_iff_iff, assessTriage_approved_iff, assessTriage_approved_iff,
      authorship_reordered_iff same]
    exact iff_of_true (.inr authored) (.inr authored)
  · rw [← assess_order_free_iff, or_iff_left authored]
    refine forall₂_congr fun evidence' same => ?_
    rw [Bool.eq_iff_iff, assessTriage_approved_iff, assessTriage_approved_iff,
      authorship_reordered_iff same, or_iff_left authored, or_iff_left authored, ← Bool.eq_iff_iff]

/-- Alice and Bob both label in second 100 and Alice edits the body in second 150. -/
def splitTieEvidence : ApprovalEvidence where
  labelEvents := [⟨"issuebot/todo", some "alice", 100⟩, ⟨"issuebot/todo", some "bob", 100⟩]
  edits := [⟨.body, some "alice", 150⟩]

/-- Listed with Alice first the issue is approved by both rules; with Bob first both refuse it. -/
theorem split_tie_reads_the_listing :
    let swapped := { splitTieEvidence with labelEvents := splitTieEvidence.labelEvents.reverse }
    Reordered splitTieEvidence swapped ∧
    (assess Py.ascii splitTieEvidence "issuebot/todo" "issuebot" false).isApproved = true ∧
    (assess Py.ascii swapped "issuebot/todo" "issuebot" false).isApproved = false ∧
    (assessTriage Py.ascii splitTieEvidence "issuebot/todo" "issuebot" false none none).isApproved = true ∧
    (assessTriage Py.ascii swapped "issuebot/todo" "issuebot" false none none).isApproved = false := by
  refine ⟨⟨List.reverse_perm _, .refl _⟩, ?_⟩
  decide +kernel

end Issuebot
