import Mathlib.Data.List.Induction
import Mathlib.Data.List.Nodup
import Issuebot.Orchestrator.Triage

/-!
# Filing drafts, whatever the writes' fates

`Filable` is what a family keeps through every prefix of a filing, each write of which may
be refused, or lost after taking effect: of the children the session did not see, no draft
has two and no child wears the operator label but an operator draft's. So the title match
of the next attempt finds what the earlier ones created, and an attempt that comes to its
end leaves one child for each draft (`fileDrafts_spec`).
-/

namespace Issuebot
set_option autoImplicit false
open Logic Remote

variable {py : Py} {config : FilingConfig py} {seen : List Nat} {drafts : List SubIssueDraft}

/-- The child's title matches the draft's. -/
def Child.Matches (py : Py) (child : Child) (draft : SubIssueDraft) : Prop :=
  titleKey py child.title = titleKey py draft.title

/-- The child wears the operator label. -/
def Child.WearsOperatorStep (config : FilingConfig py) (child : Child) : Prop :=
  py.lower config.labels.operatorStep ∈ child.labels

/-- What a filing of `drafts` after the steps `seen` keeps. -/
structure Filable (config : FilingConfig py) (seen : List Nat) (drafts : List SubIssueDraft)
    (family : Family) : Prop where
  nodup : (family.children.map Child.number).Nodup
  fresh : ∀ c ∈ family.children, c.number < family.nextNumber
  notParent : ∀ c ∈ family.children, c.number ≠ family.base.number
  parentBelow : family.base.number < family.nextNumber
  seenBelow : ∀ n ∈ seen, n < family.nextNumber
  room : family.children.length ≤ pageSize
  oneEach : ∀ d ∈ drafts, ∀ c ∈ family.children, ∀ c' ∈ family.children, c.number ∉ seen →
    c'.number ∉ seen → c.Matches py d → c'.Matches py d → c = c'
  operator : ∀ c ∈ family.children, c.number ∉ seen → c.WearsOperatorStep config →
    ∃ d ∈ drafts, d.kind = .operator ∧ c.Matches py d

/-- The drafts are filed and nothing else is: the children that were not there before and the
drafts are one to one, and the operator label is on the operator drafts' children alone. -/
structure FiledOnce (config : FilingConfig py) (seen : List Nat) (drafts : List SubIssueDraft)
    (start family : Family) : Prop where
  oneChild : ∀ d ∈ drafts, ∃! c, c ∈ family.children ∧ c.number ∉ seen ∧ c.Matches py d
  oneDraft : ∀ c ∈ family.children, c.number ∉ start.children.map Child.number →
    ∃! d, d ∈ drafts ∧ c.Matches py d
  operator : ∀ c ∈ family.children, c.number ∉ seen →
    (c.WearsOperatorStep config ↔ ∃ d ∈ drafts, d.kind = .operator ∧ c.Matches py d)

/-- The draft has a child the session did not see, labelled if it is an operator's. -/
def Filed (config : FilingConfig py) (seen : List Nat) (family : Family) (draft : SubIssueDraft) : Prop :=
  ∃ c ∈ family.children, c.number ∉ seen ∧ c.Matches py draft ∧
    (draft.kind = .operator → c.WearsOperatorStep config)

/-- The dictionary of the children the session did not see. -/
structure KeyedBy (py : Py) (seen : List Nat) (existing : String → Option SubIssue) (family : Family) :
    Prop where
  found : ∀ key sub, existing key = some sub → ∃ c ∈ family.children, c.number ∉ seen ∧
    c.number = sub.number ∧ titleKey py c.title = key
  missing : ∀ key, existing key = none → ∀ c ∈ family.children, c.number ∉ seen → titleKey py c.title ≠ key

/-- Children are appended, each under a draft's title. -/
def Appended (py : Py) (drafts : List SubIssueDraft) (before after : Family) : Prop :=
  ∃ added : List SubIssue,
    after.children.map Child.subIssue = before.children.map Child.subIssue ++ added ∧
    ∀ sub ∈ added, ∃ d ∈ drafts, titleKey py sub.title = titleKey py d.title

theorem Appended.refl (family : Family) : Appended py drafts family family := ⟨[], by simp, by simp⟩

theorem Appended.trans {first second third : Family} (h : Appended py drafts first second)
    (h' : Appended py drafts second third) : Appended py drafts first third := by
  obtain ⟨added, grown, titles⟩ := h
  obtain ⟨added', grown', titles'⟩ := h'
  refine ⟨added ++ added', by rw [grown', grown, List.append_assoc], fun sub mem => ?_⟩
  rcases List.mem_append.mp mem with old | new
  · exact titles sub old
  · exact titles' sub new

/-- A filing that came to its end, by what it kept. -/
theorem Filable.filedOnce {start family : Family} (h : Filable config seen drafts family)
    (distinct : (drafts.map fun d => titleKey py d.title).Nodup) (appended : Appended py drafts start family)
    (filed : ∀ d ∈ drafts, Filed config seen family d) : FiledOnce config seen drafts start family where
  oneChild := by
    intro d of_drafts
    obtain ⟨c, hc, new, is_d, -⟩ := filed d of_drafts
    refine ⟨c, ⟨hc, new, is_d⟩, fun c' h' => ?_⟩
    exact h.oneEach d of_drafts c' h'.1 c hc h'.2.1 new h'.2.2 is_d
  oneDraft := by
    intro c hc unknown
    obtain ⟨added, grown, titles⟩ := appended
    have listed : c.subIssue ∈ start.children.map Child.subIssue ++ added :=
      grown ▸ List.mem_map_of_mem hc
    rcases List.mem_append.mp listed with old | new
    · obtain ⟨c₀, h₀, same⟩ := List.mem_map.mp old
      refine absurd (List.mem_map.mpr ⟨c₀, h₀, ?_⟩) unknown
      exact congrArg SubIssue.number same
    · obtain ⟨d, of_drafts, is_d⟩ := titles _ new
      refine ⟨d, ⟨of_drafts, is_d⟩, fun d' h' => ?_⟩
      exact List.inj_on_of_nodup_map distinct h'.1 of_drafts (h'.2.symm.trans is_d)
  operator := by
    intro c hc new
    refine ⟨h.operator c hc new, ?_⟩
    rintro ⟨d, of_drafts, operator, is_d⟩
    obtain ⟨c', hc', new', is_d', wears⟩ := filed d of_drafts
    rw [h.oneEach d of_drafts c hc c' hc' new new' is_d is_d']
    exact wears operator

/-- All that a filing of drafts changes: children are appended, and labels are put on
children. -/
structure Grew (py : Py) (drafts : List SubIssueDraft) (before after : System) : Prop where
  worker : after.worker = before.worker
  base : after.family.base = before.family.base
  state : after.family.state = before.family.state
  labels : after.family.labels = before.family.labels
  comments : after.family.comments = before.family.comments
  children : Appended py drafts before.family after.family

theorem Grew.refl (s : System) : Grew py drafts s s := ⟨rfl, rfl, rfl, rfl, rfl, .refl _⟩

section Parent

variable {start family : Family} {add remove : List String}

/-- What a filing keeps of its parent through every write but the last one, the comment. -/
structure Underway (config : FilingConfig py) (seen : List Nat) (drafts : List SubIssueDraft)
    (start family : Family) : Prop where
  filable : Filable config seen drafts family
  appended : Appended py drafts start family
  base : family.base = start.base
  comments : family.comments = start.comments

theorem Underway.stopped {before s : System} (h : Underway config seen drafts start before.family)
    (filable : Filable config seen drafts s.family) (grew : Grew py drafts before s) :
    Underway config seen drafts start s.family :=
  ⟨filable, h.appended.trans grew.children, grew.base.trans h.base, grew.comments.trans h.comments⟩

/-- A label edit of the parent changes its labels alone. -/
theorem Family.editLabels_parent : family.editLabels py family.base.number add remove =
    { family with
      labels := editedLabels py add remove family.labels
      writes := family.writes ++ [.labelled family.base.number] } := if_pos rfl

theorem Underway.editLabels (h : Underway config seen drafts start family) :
    Underway config seen drafts start (family.editLabels py family.base.number add remove) := by
  rw [Family.editLabels_parent]
  obtain ⟨nodup, fresh, notParent, parentBelow, seenBelow, room, oneEach, operator⟩ := h.filable
  exact ⟨⟨nodup, fresh, notParent, parentBelow, seenBelow, room, oneEach, operator⟩, h.appended, h.base,
    h.comments⟩

theorem Filed.editLabels {d : SubIssueDraft} (h : Filed config seen family d) :
    Filed config seen (family.editLabels py family.base.number add remove) d := by
  rw [Family.editLabels_parent]
  exact h

/-- The drafts stay filed under a comment. -/
theorem FiledOnce.comment (h : FiledOnce config seen drafts start family) {body : String} :
    FiledOnce config seen drafts start (family.comment body) := ⟨h.oneChild, h.oneDraft, h.operator⟩

end Parent

section Label

variable {family : Family} {number : Nat}

/-- The child with the operator label put on it. -/
def Child.relabelled (py : Py) (config : FilingConfig py) (number : Nat) (child : Child) : Child :=
  if child.number = number then
    { child with labels := editedLabels py [config.labels.operatorStep] [] child.labels }
  else child

@[simp] theorem Child.relabelled_number (child : Child) :
    (child.relabelled py config number).number = child.number := by
  simp only [Child.relabelled]
  split <;> rfl

@[simp] theorem Child.relabelled_title (child : Child) :
    (child.relabelled py config number).title = child.title := by
  simp only [Child.relabelled]
  split <;> rfl

@[simp] theorem Child.relabelled_subIssue (child : Child) :
    (child.relabelled py config number).subIssue = child.subIssue := by
  simp only [Child.relabelled]
  split <;> rfl

/-- The label is on the child it was put on, and on those that had it. -/
theorem Child.relabelled_wears {child : Child} :
    (child.relabelled py config number).WearsOperatorStep config ↔
      child.number = number ∨ child.WearsOperatorStep config := by
  simp only [Child.relabelled, Child.WearsOperatorStep]
  split
  next same => simp [mem_editedLabels, same]
  next other => simp [other]

/-- A label edit of a child is one of the children alone. -/
theorem Family.editLabels_child (other : number ≠ family.base.number) :
    family.editLabels py number [config.labels.operatorStep] [] =
      { family with
        children := family.children.map (Child.relabelled py config number)
        writes := family.writes ++ [.labelled number] } := by
  simp only [Family.editLabels, if_neg other]
  rfl

theorem Filable.label (h : Filable config seen drafts family) {child : Child} (mem : child ∈ family.children)
    {draft : SubIssueDraft} (of_draft : draft ∈ drafts) (operator : draft.kind = .operator)
    (is_child : child.Matches py draft) :
    Filable config seen drafts (family.editLabels py child.number [config.labels.operatorStep] []) := by
  rw [Family.editLabels_child (h.notParent child mem)]
  have number_of : (family.children.map (Child.relabelled py config child.number)).map Child.number =
      family.children.map Child.number := by
    rw [List.map_map]
    exact List.map_congr_left fun c _ => c.relabelled_number
  refine ⟨number_of ▸ h.nodup, ?_, ?_, h.parentBelow, h.seenBelow, by simpa using h.room, ?_, ?_⟩
  · simpa using h.fresh
  · simpa using h.notParent
  · simp only [List.mem_map, Child.Matches]
    rintro d of_drafts _ ⟨c, hc, rfl⟩ _ ⟨c', hc', rfl⟩ new new' is_d is_d'
    simp only [Child.relabelled_number, Child.relabelled_title] at new new' is_d is_d'
    rw [h.oneEach d of_drafts c hc c' hc' new new' is_d is_d']
  · simp only [List.mem_map, Child.Matches]
    rintro _ ⟨c, hc, rfl⟩ new wears
    rw [Child.relabelled_number] at new
    rw [Child.relabelled_title]
    rcases Child.relabelled_wears.mp wears with same | wore
    · have is_same : c = child := List.inj_on_of_nodup_map h.nodup hc mem same
      exact ⟨draft, of_draft, operator, is_same ▸ is_child⟩
    · exact h.operator c hc new wore

theorem Filed.label {draft : SubIssueDraft} (h : Filed config seen family draft)
    (other : number ≠ family.base.number) :
    Filed config seen (family.editLabels py number [config.labels.operatorStep] []) draft := by
  rw [Family.editLabels_child other]
  obtain ⟨c, hc, new, is_draft, wears⟩ := h
  refine ⟨c.relabelled py config number, List.mem_map_of_mem hc, by simpa using new, ?_, fun operator =>
    Child.relabelled_wears.mpr (.inr (wears operator))⟩
  simpa [Child.Matches] using is_draft

theorem KeyedBy.label {existing : String → Option SubIssue} (h : KeyedBy py seen existing family)
    (other : number ≠ family.base.number) :
    KeyedBy py seen existing (family.editLabels py number [config.labels.operatorStep] []) := by
  rw [Family.editLabels_child other]
  constructor
  · intro key sub is_sub
    obtain ⟨c, hc, new, same, is_key⟩ := h.found key sub is_sub
    exact ⟨c.relabelled py config number, List.mem_map_of_mem hc, by simpa using new, by simpa using same,
      by simpa using is_key⟩
  · intro key is_none
    simpa using h.missing key is_none

theorem Grew.label {before after : System} (h : Grew py drafts before after)
    (other : number ≠ after.family.base.number) :
    Grew py drafts before
      { after with family := after.family.editLabels py number [config.labels.operatorStep] [] } := by
  rw [Family.editLabels_child other]
  obtain ⟨added, grown, titles⟩ := h.children
  refine ⟨h.worker, h.base, h.state, h.labels, h.comments, added, ?_, titles⟩
  rw [← grown, List.map_map]
  exact List.map_congr_left fun c _ => c.relabelled_subIssue

end Label

section Create

variable {family : Family} {draft : SubIssueDraft} {body : String}

/-- The child a draft is created as. -/
def createdChild (family : Family) (draft : SubIssueDraft) (body : String) : Child where
  number := family.nextNumber
  title := draft.title
  body
  state := .opened
  labels := []

theorem Filable.create (h : Filable config seen drafts family) (space : family.children.length < pageSize)
    (absent : ∀ c ∈ family.children, c.number ∉ seen → titleKey py c.title ≠ titleKey py draft.title) :
    Filable config seen drafts (family.createSubIssue draft.title body).2 where
  nodup := by
    simp only [Family.createSubIssue, List.map_append, List.map_cons, List.map_nil, List.nodup_append]
    refine ⟨h.nodup, List.nodup_singleton _, ?_⟩
    rintro _ old _ new rfl
    obtain ⟨c, hc, rfl⟩ := List.mem_map.mp old
    exact absurd (List.mem_singleton.mp new) (Nat.ne_of_lt (h.fresh c hc))
  fresh := by
    intro c hc
    rcases List.mem_append.mp hc with old | new
    · exact Nat.lt_succ_of_lt (h.fresh c old)
    · rw [List.mem_singleton.mp new]
      exact Nat.lt_succ_self _
  notParent := by
    intro c hc
    rcases List.mem_append.mp hc with old | new
    · exact h.notParent c old
    · rw [List.mem_singleton.mp new]
      exact Nat.ne_of_gt h.parentBelow
  parentBelow := Nat.lt_succ_of_lt h.parentBelow
  seenBelow := fun n mem => Nat.lt_succ_of_lt (h.seenBelow n mem)
  room := by
    simp only [Family.createSubIssue, List.length_append, List.length_singleton]
    exact space
  oneEach := by
    intro d of_drafts c hc c' hc' new new' is_d is_d'
    have only_old : ∀ c ∈ family.children, c.number ∉ seen → c.Matches py d →
        titleKey py draft.title ≠ titleKey py d.title := fun c hc new is_d same =>
      absent c hc new (is_d.trans same.symm)
    rcases List.mem_append.mp hc with old | created <;> rcases List.mem_append.mp hc' with old' | created'
    · exact h.oneEach d of_drafts c old c' old' new new' is_d is_d'
    · rw [List.mem_singleton.mp created'] at is_d'
      exact absurd is_d' (only_old c old new is_d)
    · rw [List.mem_singleton.mp created] at is_d
      exact absurd is_d (only_old c' old' new' is_d')
    · rw [List.mem_singleton.mp created, List.mem_singleton.mp created']
  operator := by
    intro c hc new wears
    rcases List.mem_append.mp hc with old | created
    · exact h.operator c old new wears
    · rw [List.mem_singleton.mp created] at wears
      cases wears

theorem Filed.create {d : SubIssueDraft} (h : Filed config seen family d) :
    Filed config seen (family.createSubIssue draft.title body).2 d := by
  obtain ⟨c, hc, rest⟩ := h
  exact ⟨c, List.mem_append_left _ hc, rest⟩

theorem KeyedBy.create {existing : String → Option SubIssue} (h : KeyedBy py seen existing family)
    (fresh : family.nextNumber ∉ seen) :
    KeyedBy py seen
      (Function.update existing (titleKey py draft.title)
        (some (family.createSubIssue draft.title body).1))
      (family.createSubIssue draft.title body).2 := by
  constructor
  · intro key sub is_sub
    by_cases same : key = titleKey py draft.title
    · subst same
      rw [Function.update_self, Option.some.injEq] at is_sub
      subst is_sub
      exact ⟨_, List.mem_append_right _ List.mem_cons_self, fresh, rfl, rfl⟩
    · rw [Function.update_of_ne same] at is_sub
      obtain ⟨c, hc, rest⟩ := h.found key sub is_sub
      exact ⟨c, List.mem_append_left _ hc, rest⟩
  · intro key is_none c hc new
    by_cases same : key = titleKey py draft.title
    · rw [same, Function.update_self] at is_none
      cases is_none
    · rw [Function.update_of_ne same] at is_none
      rcases List.mem_append.mp hc with old | created
      · exact h.missing key is_none c old new
      · rw [List.mem_singleton.mp created]
        exact Ne.symm same

theorem Grew.create {before after : System} (h : Grew py drafts before after) (of_draft : draft ∈ drafts) :
    Grew py drafts before
      { after with family := (after.family.createSubIssue draft.title body).2 } := by
  obtain ⟨added, grown, titles⟩ := h.children
  refine ⟨h.worker, h.base, h.state, h.labels, h.comments,
    added ++ [(after.family.createSubIssue draft.title body).1], ?_, ?_⟩
  · simp only [Family.createSubIssue, List.map_append, grown, List.map_cons, List.map_nil, List.append_assoc]
  · intro sub mem
    rcases List.mem_append.mp mem with old | new
    · exact titles sub old
    · rw [List.mem_singleton.mp new]
      exact ⟨draft, of_draft, rfl⟩

end Create
section Loop

variable {F : Call → Fate GitHubError} {parent steps : Nat} {filedBy : String} {before : System}

/-- A filing that stopped, wherever it did. -/
def Stopped (config : FilingConfig py) (seen : List Nat) (drafts : List SubIssueDraft) (before s : System) :
    Prop :=
  Filable config seen drafts s.family ∧ Grew py drafts before s

/-- The loop's invariant, once the drafts of `done` are filed. -/
structure Filing.Invariant (config : FilingConfig py) (seen : List Nat) (drafts : List SubIssueDraft)
    (before : System) (done : List (SubIssueDraft × Nat))
    (found : (String → Option SubIssue) × List SubIssue) (s : System) : Prop where
  filable : Filable config seen drafts s.family
  grew : Grew py drafts before s
  keyed : KeyedBy py seen found.1 s.family
  filed : ∀ entry ∈ done, Filed config seen s.family entry.1

theorem Filing.Invariant.stopped {done : List (SubIssueDraft × Nat)}
    {found : (String → Option SubIssue) × List SubIssue} {s : System}
    (h : Filing.Invariant config seen drafts before done found s) : Stopped config seen drafts before s :=
  ⟨h.filable, h.grew⟩

/-- The dictionary built from a list of children. -/
theorem childrenByKey_append (children : List SubIssue) (child : SubIssue) :
    childrenByKey py (children ++ [child]) =
      Function.update (childrenByKey py children) (titleKey py child.title) (some child) := by
  simp only [childrenByKey, List.foldl_append, List.foldl_cons, List.foldl_nil]

theorem childrenByKey_found {children : List SubIssue} {key : String} {sub : SubIssue}
    (h : childrenByKey py children key = some sub) : sub ∈ children ∧ titleKey py sub.title = key := by
  induction children using List.reverseRecOn with
  | nil => cases h
  | append_singleton children child ih =>
    rw [childrenByKey_append] at h
    by_cases same : key = titleKey py child.title
    · subst same
      rw [Function.update_self, Option.some.injEq] at h
      subst h
      exact ⟨List.mem_append_right _ List.mem_cons_self, rfl⟩
    · rw [Function.update_of_ne same] at h
      exact ⟨List.mem_append_left _ (ih h).1, (ih h).2⟩

theorem childrenByKey_missing {children : List SubIssue} {key : String}
    (h : childrenByKey py children key = none) : ∀ sub ∈ children, titleKey py sub.title ≠ key := by
  induction children using List.reverseRecOn with
  | nil => simp
  | append_singleton children child ih =>
    rw [childrenByKey_append] at h
    by_cases same : key = titleKey py child.title
    · rw [same, Function.update_self] at h
      cases h
    · rw [Function.update_of_ne same] at h
      intro sub mem
      rcases List.mem_append.mp mem with old | new
      · exact ih h sub old
      · rw [List.mem_singleton.mp new]
        exact Ne.symm same

/-- The dictionary a filing starts with. -/
theorem keyedBy_childrenByKey {family : Family} (room : family.children.length ≤ pageSize) :
    KeyedBy py seen (childrenByKey py (family.subIssues.filter fun sub => sub.number ∉ seen)) family := by
  have all : family.subIssues = family.children.map Child.subIssue := by
    rw [Family.subIssues, List.take_of_length_le room]
  constructor
  · intro key sub is_sub
    obtain ⟨mem, is_key⟩ := childrenByKey_found is_sub
    obtain ⟨listed, new⟩ := List.mem_filter.mp mem
    rw [all] at listed
    obtain ⟨c, hc, rfl⟩ := List.mem_map.mp listed
    exact ⟨c, hc, of_decide_eq_true new, rfl, is_key⟩
  · intro key is_none c hc new
    refine childrenByKey_missing is_none c.subIssue (List.mem_filter.mpr ⟨?_, decide_eq_true new⟩)
    rw [all]
    exact List.mem_map_of_mem hc

/-- A draft's child is found in the dictionary, or created and put into it. -/
theorem draftChild_spec {done : List (SubIssueDraft × Nat)} {existing : String → Option SubIssue}
    {filed : List SubIssue} {draft : SubIssueDraft} {step : Nat} (of_draft : draft ∈ drafts) :
    Triple F (Filing.Invariant config seen drafts before done (existing, filed))
      (draftChild py config parent step steps filedBy existing draft)
      (fun child s => Filing.Invariant config seen drafts before done (child.2, filed) s ∧
        ∃ c ∈ s.family.children, c.number ∉ seen ∧ c.number = child.1.number ∧ c.Matches py draft)
      (fun _ => Stopped config seen drafts before) := by
  unfold draftChild
  split
  next child is_child => exact Triple.pure fun s h => ⟨h, h.keyed.found _ _ is_child⟩
  next is_none =>
    have created : ∀ body s, Filing.Invariant config seen drafts before done (existing, filed) s →
        s.family.children.length < pageSize →
        Filing.Invariant config seen drafts before done
          (Function.update existing (titleKey py draft.title)
            (some (s.family.createSubIssue draft.title body).1), filed)
          { s with family := (s.family.createSubIssue draft.title body).2 } := by
      intro body s h space
      refine ⟨h.filable.create space (h.keyed.missing _ is_none), h.grew.create of_draft,
        h.keyed.create fun mem => Nat.lt_irrefl _ (h.filable.seenBelow _ mem), ?_⟩
      intro entry mem
      exact (h.filed entry mem).create
    unfold createSubIssue
    refine Triple.bind (Q := fun child s => Filing.Invariant config seen drafts before done
      (Function.update existing (titleKey py draft.title) (some child), filed) s ∧
        ∃ c ∈ s.family.children, c.number ∉ seen ∧ c.number = child.number ∧ c.Matches py draft) ?_ ?_
    · refine Triple.bind_get fun now h => ?_
      split
      next space =>
        refine Triple.call ?_ ?_ ?_
        · rintro s rfl
          refine ⟨created _ _ h space, _, List.mem_append_right _ List.mem_cons_self, ?_, rfl, rfl⟩
          exact fun mem => Nat.lt_irrefl _ (h.filable.seenBelow _ mem)
        · rintro e s rfl
          exact h.stopped
        · rintro e s _ rfl
          exact (created _ _ h space).stopped
      next full => exact Triple.raise fun s same => same ▸ h.stopped
    · intro child
      exact Triple.pure fun s h => h

/-- One draft: its child is found or created, and labelled where it is an operator's. -/
theorem fileDraft_spec {done : List (SubIssueDraft × Nat)} {entry : SubIssueDraft × Nat}
    {found : (String → Option SubIssue) × List SubIssue} (of_draft : entry.1 ∈ drafts) :
    Triple F (Filing.Invariant config seen drafts before done found)
      (fileDraft py config parent steps filedBy found entry)
      (Filing.Invariant config seen drafts before (done ++ [entry]))
      (fun _ => Stopped config seen drafts before) := by
  unfold fileDraft
  refine (draftChild_spec of_draft).bind fun child => ?_
  -- the draft's child, labelled by now where it has to be
  refine Triple.bind (Q := fun _ s => Filing.Invariant config seen drafts before done (child.2, found.2) s ∧
    Filed config seen s.family entry.1) (Triple.when ?_ ?_) fun _ => Triple.pure ?_
  · intro operator
    have operator : entry.1.kind = .operator := of_decide_eq_true operator
    have labelled : ∀ s, Filing.Invariant config seen drafts before done (child.2, found.2) s →
        (∃ c ∈ s.family.children, c.number ∉ seen ∧ c.number = child.1.number ∧ c.Matches py entry.1) →
        let family := s.family.editLabels py child.1.number [config.labels.operatorStep] []
        Filing.Invariant config seen drafts before done (child.2, found.2) { s with family } ∧
          Filed config seen family entry.1 := by
      rintro s h ⟨c, hc, new, same, is_draft⟩
      rw [← same]
      have other := h.filable.notParent c hc
      refine ⟨⟨h.filable.label hc of_draft operator is_draft, h.grew.label other, h.keyed.label other,
        fun entry mem => (h.filed entry mem).label other⟩, ?_⟩
      rw [Family.editLabels_child other]
      exact ⟨c.relabelled py config c.number, List.mem_map_of_mem hc, by simpa using new,
        by simpa [Child.Matches] using is_draft, fun _ => Child.relabelled_wears.mpr (.inl rfl)⟩
    refine Triple.call (fun s h => labelled s h.1 h.2) (fun e s h => h.1.stopped) ?_
    intro e s _ h
    exact (labelled s h.1 h.2).1.stopped
  · rintro issuebot s ⟨h, c, hc, new, same, is_draft⟩
    refine ⟨h, c, hc, new, is_draft, fun operator => ?_⟩
    exact absurd operator (of_decide_eq_false issuebot)
  · rintro s ⟨h, filed⟩
    refine ⟨h.filable, h.grew, h.keyed, fun other mem => ?_⟩
    rcases List.mem_append.mp mem with old | new
    · exact h.filed other old
    · rw [List.mem_singleton.mp new]
      exact filed

/-- An attempt that comes to its end leaves a child for each draft, and one that stops leaves a
filing that the next attempt goes on with. -/
theorem fileDrafts_spec (filable : Filable config seen drafts before.family) :
    Triple F (fun s => s = before) (fileDrafts py config parent seen filedBy drafts)
      (fun _ s => Stopped config seen drafts before s ∧ ∀ d ∈ drafts, Filed config seen s.family d)
      (fun _ => Stopped config seen drafts before) := by
  unfold fileDrafts subIssues
  refine Triple.bind (Q := fun children s => s = before ∧ children = s.family.subIssues)
    (Triple.ask (fun s h => ⟨h, rfl⟩) ?_) fun children => ?_
  · rintro e s rfl
    exact ⟨filable, .refl s⟩
  refine Triple.bind (Q := Filing.Invariant config seen drafts before (drafts.zipIdx (seen.length + 1)))
    ?_ fun found => Triple.pure ?_
  · refine Triple.conseq (Triple.foldlM (I := Filing.Invariant config seen drafts before) ?_) ?_
      (fun _ _ h => h) fun _ _ h => h
    · intro done entry rest found whole
      refine fileDraft_spec ?_
      exact List.fst_mem_of_mem_zipIdx (whole ▸ List.mem_append_right _ List.mem_cons_self)
    · rintro s ⟨rfl, rfl⟩
      exact ⟨filable, .refl s, keyedBy_childrenByKey filable.room, by simp⟩
  · intro s h
    refine ⟨h.stopped, fun d mem => ?_⟩
    obtain ⟨i, hi, rfl⟩ := List.getElem_of_mem mem
    exact h.filed (drafts[i], seen.length + 1 + i) (List.mk_add_mem_zipIdx_iff_getElem?.mpr (by simp))

end Loop
end Issuebot
