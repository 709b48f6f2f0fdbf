import Issuebot.Orchestrator.Approval

/-!
# Who can approve

The two approval rules as conditions on the history. An approval by the work rule is
always a person's (`assess_only_a_person_approves`), and triage's laxer rule speaks only
where the latest label is issuebot's own (`assessTriage_rule`).
-/

namespace Issuebot
set_option autoImplicit false
open Logic

variable {py : Py} {evidence : ApprovalEvidence} {events : List LabelApplied}
variable {wanted ownLogin : String} {event : LabelApplied} {who : String}

/-- `who`, an account GitHub names and not issuebot's own, applied the approving label. -/
structure PersonLabelled (py : Py) (wanted ownLogin : String) (events : List LabelApplied)
    (event : LabelApplied) (who : String) : Prop where
  listed : event ∈ events
  label : py.lower event.label = py.lower wanted
  actor : event.actor = some who
  other : py.lower who ≠ py.lower ownLogin

/-- No such labelling is later. -/
structure LatestPerson (py : Py) (wanted ownLogin : String) (events : List LabelApplied)
    (event : LabelApplied) (who : String) : Prop extends PersonLabelled py wanted ownLogin events event who where
  latest : ∀ event' who', PersonLabelled py wanted ownLogin events event' who' →
    event'.appliedAt ≤ event.appliedAt

/-- A label event that is no person's labelling: issuebot's own, an unnamed actor's, or of
another label. -/
def NoPersonLabels (py : Py) (wanted ownLogin : String) (event : LabelApplied) : Prop :=
  event.actor.map py.lower = some (py.lower ownLogin) ∨ event.actor = none ∨
    py.lower event.label ≠ py.lower wanted

theorem mem_candidates_iff_personLabelled :
    (who, event) ∈ candidates py wanted ownLogin false events ↔
      PersonLabelled py wanted ownLogin events event who := by
  simp only [mem_candidates, mem_namedLabellings, Bool.false_eq_true, false_or]
  constructor
  · rintro ⟨⟨listed, actor, label⟩, other⟩
    exact ⟨listed, label, actor, other⟩
  · rintro ⟨listed, label, actor, other⟩
    exact ⟨⟨listed, actor, label⟩, other⟩

theorem latest_candidate_iff_latestPerson :
    Latest labelledAt (candidates py wanted ownLogin false events) (who, event) ↔
      LatestPerson py wanted ownLogin events event who := by
  constructor
  · rintro ⟨mem, max⟩
    exact ⟨mem_candidates_iff_personLabelled.mp mem, fun event' who' labelled =>
      max (who', event') (mem_candidates_iff_personLabelled.mpr labelled)⟩
  · rintro ⟨labelled, latest⟩
    exact ⟨mem_candidates_iff_personLabelled.mpr labelled, fun d mem =>
      latest d.2 d.1 (mem_candidates_iff_personLabelled.mp mem)⟩

/-- A label event that is no person's is no candidate. -/
theorem candidate_eq_none (h : NoPersonLabels py wanted ownLogin event) :
    candidate py wanted ownLogin false event = none := by
  cases named : event.actor with
  | none => simp [candidate, namedLabelling, named]
  | some actor =>
    rcases h with own | unnamed | label
    · have own : py.lower actor = py.lower ownLogin := by simpa [named] using own
      simp only [candidate, namedLabelling, named]
      split <;> simp [Option.filter, own]
    · rw [named] at unnamed
      cases unnamed
    · simp [candidate, namedLabelling, named, label]

/-- A later edit list refuses whatever the shorter one refused. -/
theorem OnlyEditedBy.of_subset {edits edits' : List TextEdit} {since : Datetime}
    (h : OnlyEditedBy py edits' since who) (sub : edits ⊆ edits') : OnlyEditedBy py edits since who :=
  fun edit mem late => h edit (sub mem) late

/-- On a dedicated account an approval is a person's: the work rule approves only where a
person labelled last and every edit since is theirs, and it does approve there unless two
people labelled in that same second. Label events that are no person's never change the kind
of the answer, and no added edit turns a refusal into an approval. -/
theorem assess_only_a_person_approves (py : Py) (evidence : ApprovalEvidence) (todoLabel ownLogin : String) :
    ((assess py evidence todoLabel ownLogin false).isApproved = true →
      ∃ event who, LatestPerson py todoLabel ownLogin evidence.labelEvents event who ∧
        OnlyEditedBy py evidence.edits event.appliedAt who) ∧
    ((∃ event who, LatestPerson py todoLabel ownLogin evidence.labelEvents event who ∧
        OnlyEditedBy py evidence.edits event.appliedAt who) →
      (∀ event event' who who', LatestPerson py todoLabel ownLogin evidence.labelEvents event who →
        LatestPerson py todoLabel ownLogin evidence.labelEvents event' who' → py.lower who = py.lower who') →
      (assess py evidence todoLabel ownLogin false).isApproved = true) ∧
    (∀ labelEvents', Inserted (NoPersonLabels py todoLabel ownLogin) evidence.labelEvents labelEvents' →
      (assess py { evidence with labelEvents := labelEvents' } todoLabel ownLogin false).isApproved =
        (assess py evidence todoLabel ownLogin false).isApproved) ∧
    (∀ edits', Inserted (fun _ => True) evidence.edits edits' →
      (assess py evidence todoLabel ownLogin false).isApproved = false →
      (assess py { evidence with edits := edits' } todoLabel ownLogin false).isApproved = false) := by
  refine ⟨fun approved => ?_, ?_, fun labelEvents' inserted => ?_, fun edits' inserted refused => ?_⟩
  · obtain ⟨⟨who, event⟩, first, only⟩ := assess_approved_iff.mp approved
    exact ⟨event, who, latest_candidate_iff_latestPerson.mp (.of_argmax first), only⟩
  · rintro ⟨event, who, latest, only⟩ alone
    have mem := (latest_candidate_iff_latestPerson.mpr latest).mem
    obtain ⟨⟨who', event'⟩, first⟩ := exists_argmax (f := labelledAt) (List.ne_nil_of_mem mem)
    have latest' := latest_candidate_iff_latestPerson.mp (.of_argmax first)
    have same_account := alone event event' who who' latest latest'
    have same_time : event.appliedAt = event'.appliedAt :=
      (latest_candidate_iff_latestPerson.mpr latest).eq_at (.of_argmax first)
    refine assess_approved_iff.mpr ⟨(who', event'), first, fun edit listed late => ?_⟩
    have own := only edit listed (same_time ▸ late)
    simpa only [TextEdit.isBy, same_account] using own
  · rw [Bool.eq_iff_iff, assess_approved_iff, assess_approved_iff, candidates_eq_filterMap,
      candidates_eq_filterMap, inserted.filterMap_eq fun _ h => candidate_eq_none h]
  · by_contra approved
    obtain ⟨c, first, only⟩ := assess_approved_iff.mp (Bool.not_eq_false _ ▸ approved)
    have approved' : (assess py evidence todoLabel ownLogin false).isApproved = true :=
      assess_approved_iff.mpr ⟨c, first, only.of_subset inserted.subset⟩
    exact Bool.false_ne_true (refused.symm.trans approved')

/-- The domain of the authorship rule: triage approves where the work rule does, or where
issuebot's own label is latest and the issue is a maintainer's own wording. Another person's
label at or after issuebot's closes that route, and so does any edit but the author's. -/
theorem assessTriage_rule (py : Py) (evidence : ApprovalEvidence) (triageLabel ownLogin : String)
    (ownLabelsApprove : Bool) (author authorAssociation : Option String) :
    let named := namedLabellings py triageLabel evidence.labelEvents
    let work := (assess py evidence triageLabel ownLogin ownLabelsApprove).isApproved
    let triage := (assessTriage py evidence triageLabel ownLogin ownLabelsApprove author
      authorAssociation).isApproved
    (triage = true ↔ work = true ∨
      (∃ c, OwnLatest py triageLabel ownLogin evidence.labelEvents c) ∧
        Authored py evidence.edits author authorAssociation) ∧
    (∀ d ∈ named, py.lower d.1 ≠ py.lower ownLogin →
      (∀ c ∈ named, py.lower c.1 = py.lower ownLogin → c.2.appliedAt ≤ d.2.appliedAt) →
      triage = work) ∧
    (∀ edit ∈ evidence.edits, (∀ who, author = some who → edit.isBy py who = false) →
      triage = work) := by
  intro named work triage
  have rule : triage = true ↔ work = true ∨
      (∃ c, OwnLatest py triageLabel ownLogin evidence.labelEvents c) ∧
        Authored py evidence.edits author authorAssociation := assessTriage_approved_iff
  refine ⟨rule, fun d mem other later => ?_, fun edit mem foreign => ?_⟩
  · have closed : ¬ ∃ c, OwnLatest py triageLabel ownLogin evidence.labelEvents c := by
      rintro ⟨c, latest, own, alone⟩
      exact absurd (later c latest.mem own) (alone d mem other).not_ge
    rw [Bool.eq_iff_iff, rule]
    simp only [closed, false_and, or_false]
  · have closed : ¬ Authored py evidence.edits author authorAssociation := by
      rintro ⟨⟨who, named, all_own⟩, -⟩
      exact Bool.false_ne_true ((foreign who named).symm.trans (all_own edit mem))
    rw [Bool.eq_iff_iff, rule]
    simp only [closed, and_false, or_false]

end Issuebot
