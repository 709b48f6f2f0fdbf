import Issuebot.Orchestrator.Additions
import Mathlib.Data.List.TakeWhile

/-!
# The steps of a split run in order

Labelled `todo` all at once, the steps of a split start one after another. What GitHub answers
to the tick's one read of parents is a `ParentsRead`; `Clear` and `Waits` are what it says of
a step's turn. The sweep starts only a clear step and holds only one that waits
(`sweep_keeps_the_order`). The read is not made for the order while the tick cannot dispatch,
and a gate that was shut then is shut when the sweep comes to it (`Shut`).
-/

namespace Issuebot
set_option autoImplicit false
open Logic Remote

section Split

variable {py : Py} {labels : GitHubLabels py} {issue : Issue} {steps : ParentSteps}

/-- The parent wears a triage label and lists an open step before the issue. -/
structure WaitsBehind (labels : GitHubLabels py) (issue : Issue) (steps : ParentSteps) : Prop where
  labelled : py.lower labels.triageTodo ∈ steps.labels ∨ py.lower labels.triageComplete ∈ steps.labels
  earlier : ∃ before step after, steps.subIssues = before ++ step :: after ∧ step.state = .opened ∧
    (∀ sub ∈ before ++ [step], sub.number ≠ issue.number) ∧ ∃ own ∈ after, own.number = issue.number

/-- An element of the longest prefix in `p` is one with only such elements up to it. -/
theorem mem_takeWhile_iff {α : Type} {p : α → Bool} {x : α} {xs : List α} :
    x ∈ xs.takeWhile p ↔ ∃ before after, xs = before ++ x :: after ∧ ∀ y ∈ before ++ [x], p y = true := by
  constructor
  · intro mem
    obtain ⟨before, rest, split⟩ := List.append_of_mem mem
    refine ⟨before, rest ++ xs.dropWhile p, ?_, ?_⟩
    · calc xs = xs.takeWhile p ++ xs.dropWhile p := List.takeWhile_append_dropWhile.symm
        _ = before ++ x :: (rest ++ xs.dropWhile p) := by rw [split, List.append_assoc, List.cons_append]
    · intro y before_x
      apply List.mem_takeWhile_imp
      rw [split]
      rcases List.mem_append.mp before_x with here | here
      · exact List.mem_append_left _ here
      · rw [List.mem_singleton.mp here]
        exact List.mem_append_right _ List.mem_cons_self
  · rintro ⟨before, after, rfl, all⟩
    have within : before ++ x :: after = (before ++ [x]) ++ after := by rw [List.append_assoc, List.singleton_append]
    rw [within, List.takeWhile_append_of_pos all]
    exact List.mem_append_left _ (List.mem_append_right _ List.mem_cons_self)

theorem earlierOpenStep_isSome_iff (parent : issue.parent = some steps.number) :
    (earlierOpenStep py issue steps labels).isSome ↔ WaitsBehind labels issue steps := by
  unfold earlierOpenStep
  by_cases labelled : py.lower labels.triageTodo ∈ steps.labels ∨ py.lower labels.triageComplete ∈ steps.labels
  swap
  · have bare : ¬ WaitsBehind labels issue steps := fun waits => labelled waits.labelled
    simp [parent, labelled, bare]
  by_cases listed : issue.number ∈ steps.subIssues.map SubIssue.number
  swap
  · have gone : ¬ WaitsBehind labels issue steps := by
      rintro ⟨-, before, step, after, split, -, -, own, mem, same⟩
      apply listed
      rw [split, ← same]
      exact List.mem_map_of_mem (List.mem_append_right _ (List.mem_cons_of_mem _ mem))
    simp [parent, labelled, listed, gone]
  have found : ∀ before step after, steps.subIssues = before ++ step :: after →
      (∀ sub ∈ before ++ [step], sub.number ≠ issue.number) → ∃ own ∈ after, own.number = issue.number := by
    intro before step after split others
    obtain ⟨own, mem, same⟩ := List.mem_map.mp listed
    rw [split, ← List.singleton_append, ← List.append_assoc] at mem
    rcases List.mem_append.mp mem with early | late
    · exact absurd same (others own early)
    · exact ⟨own, late, same⟩
  have on_track : ¬ (issue.parent ≠ some steps.number ∨
      ¬ [py.lower labels.triageTodo, py.lower labels.triageComplete].any fun name => steps.labels.contains name) := by
    simpa [parent, ← or_iff_not_imp_left] using labelled
  simp only [if_neg on_track, not_not.mpr listed, if_false, Option.isSome_map, List.find?_isSome, mem_takeWhile_iff,
    decide_eq_true_eq]
  constructor
  · rintro ⟨step, ⟨before, after, split, others⟩, is_open⟩
    exact ⟨labelled, before, step, after, split, is_open, others, found before step after split others⟩
  · rintro ⟨-, before, step, after, split, is_open, others, -⟩
    exact ⟨step, ⟨before, after, split, others⟩, is_open⟩

/-- What a tick's one read of parents comes to: GitHub's failure, or each parent's record,
`none` for a parent GitHub does not return. -/
abbrev ParentsRead : Type :=
  Except GitHubError ((number : Nat) → Option { answer : ParentAnswer // answer.number = number })

/-- The answer to a request for the parents `wanted`. -/
def ParentsRead.answers (read : ParentsRead) (wanted : List Nat) : Except GitHubError (List ParentAnswer) :=
  read.map fun found => wanted.filterMap fun number => (found number).map Subtype.val

/-- A parent that was asked for has its record in the answer. -/
theorem answerFor_asked {found : (number : Nat) → Option { answer : ParentAnswer // answer.number = number }}
    {wanted : List Nat} {parent : Nat} (asked : parent ∈ wanted) :
    answerFor (wanted.filterMap fun number => (found number).map Subtype.val) parent = (found parent).map Subtype.val := by
  -- what the answer lists under a number is that number's record
  have listed : ∀ answer ∈ wanted.filterMap (fun number => (found number).map Subtype.val), answer.number = parent →
      (found parent).map Subtype.val = some answer := by
    intro answer mem here
    obtain ⟨number, -, record⟩ := List.mem_filterMap.mp mem
    obtain ⟨own, is_own, same⟩ := Option.map_eq_some_iff.mp record
    have number_parent : number = parent := by rw [← here, ← same, own.property]
    rw [← number_parent, record]
  cases record : (found parent).map Subtype.val with
  | none =>
    apply List.find?_eq_none.mpr
    intro answer mem here
    rw [listed answer mem (of_decide_eq_true here)] at record
    cases record
  | some answer =>
    have mem : answer ∈ wanted.filterMap fun number => (found number).map Subtype.val :=
      List.mem_filterMap.mpr ⟨parent, asked, record⟩
    have here : answer.number = parent := by
      obtain ⟨own, -, same⟩ := Option.map_eq_some_iff.mp record
      rw [← same, own.property]
    have present : (answerFor (wanted.filterMap fun number => (found number).map Subtype.val) parent).isSome :=
      List.find?_isSome.mpr ⟨answer, mem, decide_eq_true here⟩
    obtain ⟨first, is_first⟩ := Option.isSome_iff_exists.mp present
    have same := listed first (List.mem_of_find?_eq_some is_first) (answerFor_number is_first)
    rw [record, Option.some.injEq] at same
    rw [same]
    exact is_first

end Split

namespace Orchestrator

variable {py : Py} {settings : Settings py} {issue : Issue} {parent : Nat} {read : ParentsRead}

/-- A `todo` sub-issue of the parent that is no operator step. -/
structure IsStepOf (settings : Settings py) (parent : Nat) (issue : Issue) : Prop where
  todo : issue.state = some .todo
  child : issue.parent = some parent
  ours : py.lower settings.labels.operatorStep ∉ issue.labels

/-- Its turn has come: its parent's order was read, and no step before it is open. -/
def Clear (settings : Settings py) (read : ParentsRead) (issue : Issue) : Prop :=
  ∀ parent, IsStepOf settings parent issue → ∃ found, read = .ok found ∧ ∀ answer, found parent = some answer →
    ∃ steps, answer.val = .ok steps ∧ ¬ WaitsBehind settings.labels issue steps

/-- A step whose parent's order could not be read, or that waits behind an open one. -/
def Waits (settings : Settings py) (read : ParentsRead) (issue : Issue) : Prop :=
  ∃ parent, IsStepOf settings parent issue ∧ ∀ found, read = .ok found → ∃ answer, found parent = some answer ∧
    ∀ steps, answer.val = .ok steps → WaitsBehind settings.labels issue steps

/-- A work run starts only where its issue is clear, and only an issue that waits is held. -/
def InOrder (settings : Settings py) (read : ParentsRead) : Occurrence → Prop
  | .started start => start.entry.kind = .work → Clear settings read start.issue
  | .held issue => Waits settings read issue
  | _ => True

theorem InOrder.of_beside {occurrence : Occurrence} (beside : occurrence.Beside) : InOrder settings read occurrence := by
  cases occurrence with
  | started start => exact fun work => absurd work beside
  | held issue => exact beside.elim
  | _ => trivial

theorem inOrder_of_adds {α : Type} {x : Pass α} (adds : Follows (OnlyAdds Occurrence.Beside) x) :
    Follows (OnlyAdds (InOrder settings read)) x :=
  adds.mono fun _ _ grown => grown.mono fun _ => InOrder.of_beside

theorem orderApplies_iff : orderApplies settings issue = true ↔ ∃ parent, IsStepOf settings parent issue := by
  constructor
  · intro applies
    simp only [orderApplies, isOperatorStep, Bool.and_eq_true, decide_eq_true_eq, Option.isSome_iff_exists,
      Bool.not_eq_true', List.contains_eq_mem, decide_eq_false_iff_not] at applies
    obtain ⟨⟨todo, parent, child⟩, ours⟩ := applies
    exact ⟨parent, todo, child, ours⟩
  · rintro ⟨parent, todo, child, ours⟩
    simp [orderApplies, isOperatorStep, todo, child, ours]

theorem clear_iff : Clear settings read issue ↔ ¬ Waits settings read issue := by
  unfold Clear Waits
  push Not
  rfl

section Hold

/-- What the hold makes of a read that asked for the step's parent. -/
theorem orderHold_isSome_iff {wanted : List Nat} (asked : ∀ parent, IsStepOf settings parent issue → parent ∈ wanted) :
    (orderHold settings issue (read.answers wanted).toOption).isSome ↔ Waits settings read issue := by
  unfold orderHold
  by_cases applies : orderApplies settings issue = true
  swap
  · have other : ¬ Waits settings read issue := fun ⟨parent, step, _⟩ => applies (orderApplies_iff.mpr ⟨parent, step⟩)
    simp [applies, other]
  obtain ⟨parent, step⟩ := orderApplies_iff.mp applies
  have mem := asked parent step
  have only : ∀ other, IsStepOf settings other issue → other = parent := fun other step' =>
    Option.some.inj (step'.child.symm.trans step.child)
  simp only [applies, Bool.not_true, Bool.false_eq_true, if_false, step.child]
  cases read with
  | error error =>
    have waits : Waits settings (.error error) issue := ⟨parent, step, nofun⟩
    simp [ParentsRead.answers, Except.map, Except.toOption, waits]
  | ok found =>
    simp only [ParentsRead.answers, Except.map, Except.toOption, answerFor_asked mem]
    cases record : found parent with
    | none =>
      have free : ¬ Waits settings (.ok found) issue := by
        rintro ⟨other, step', waits⟩
        obtain ⟨answer, returned, -⟩ := waits found rfl
        obtain rfl := only other step'
        rw [record] at returned
        cases returned
      simp [free]
    | some answer =>
      obtain ⟨answer, here⟩ := answer
      cases answer with
      | error unreadable =>
        have waits : Waits settings (.ok found) issue :=
          ⟨parent, step, fun _ same => ⟨⟨.error unreadable, here⟩, Except.ok.inj same ▸ record, nofun⟩⟩
        simp [waits]
      | ok steps =>
        have child : issue.parent = some steps.number := by rw [step.child]; exact congrArg some here.symm
        simp only [Option.map_some, Option.isSome_map, earlierOpenStep_isSome_iff child]
        constructor
        · intro behind
          refine ⟨parent, step, fun _ same => ⟨⟨.ok steps, here⟩, Except.ok.inj same ▸ record, ?_⟩⟩
          rintro _ ⟨⟩
          exact behind
        · rintro ⟨other, step', waits⟩
          obtain ⟨answer, returned, behind⟩ := waits found rfl
          obtain rfl := only other step'
          rw [record, Option.some.injEq] at returned
          exact behind steps (by rw [← returned])

end Hold

section Shut

variable {o o' : Orchestrator} {w : World} {number : Nat} {α : Type}

/-- A worker that can dispatch nothing still cannot. -/
def StaysShut (settings : Settings py) (o o' : Orchestrator) : Prop :=
  o.cannotDispatch settings = true → o'.cannotDispatch settings = true

instance : Std.Refl (StaysShut settings) := ⟨fun _ => id⟩

instance : IsTrans Orchestrator (StaysShut settings) := ⟨fun _ _ _ first second shut => second (first shut)⟩

/-- No slot is freed, no stop taken back and no hold released. -/
theorem StaysShut.of_kept (size : o.running.size ≤ o'.running.size) (stopping : o.stopping = true → o'.stopping = true)
    (hold : o.currentHold.isSome = true → o'.currentHold.isSome = true) : StaysShut settings o o' := by
  intro shut
  simp only [cannotDispatch, Bool.or_eq_true, decide_eq_true_eq] at shut ⊢
  unfold slots at shut ⊢
  rcases shut with (full | stopped) | held
  · exact .inl (.inl (by omega))
  · exact .inl (.inr (stopping stopped))
  · exact .inr (hold held)

theorem await_shut {awaited : Awaited α} : Follows (StaysShut settings) (await awaited) := by
  refine Follows.bind (.when (.modify fun o => ?_)) fun _ => .pure
  exact .of_kept (Nat.le_refl _) (fun _ => rfl) id

/-- What an `await` brings back, and what it keeps. -/
theorem await_gated {calls : Empty → Fate Empty} {E : Empty → Orchestrator → Prop} {P : Occurrence → Prop}
    {awaited : Awaited α} :
    Triple calls (fun s => s = o) (await awaited)
      (fun answer s => answer = awaited.answer ∧ OnlyAdds P o s ∧ StaysShut settings o s) E := by
  refine Triple.bind (Q := fun _ s => OnlyAdds P o s ∧ StaysShut settings o s) ?_ fun _ => .pure fun _ h => ⟨rfl, h⟩
  apply Triple.when
  · intro _
    refine .modify ?_
    rintro s rfl
    exact ⟨.of_same rfl, .of_kept (Nat.le_refl _) (fun _ => rfl) id⟩
  · rintro _ s rfl
    exact ⟨Std.Refl.refl _, Std.Refl.refl _⟩

theorem onIssue_shut {fates : Call → Fate GitHubError} {program : Filing α} :
    Follows (StaysShut settings) (onIssue number fates program) :=
  fun _ _ => .of_kept (Nat.le_refl _) id id

theorem fileFor_shut {program : Clocks → Filing α} : Follows (StaysShut settings) (fileFor number w program) :=
  Follows.bind (onIssue_shut.bind fun _ => await_shut.bind fun _ => .pure) fun _ => .pure

theorem admits_shut {kind : RunKind} {order : Option OrderHold} :
    Follows (StaysShut settings) (admits settings issue kind order) := by
  refine Follows.bind .get fun o => ?_
  dsimp only
  split
  · exact Follows.bind (.modify fun _ => .of_kept (Nat.le_refl _) id id) fun _ => .pure
  · exact .pure

theorem currentHold_of_accounts (blocked : o.accountsHold.isSome = true) : o.currentHold.isSome = true := by
  obtain ⟨reason, is_reason⟩ := Option.isSome_iff_exists.mp blocked
  unfold currentHold
  rw [is_reason]
  split
  · rfl
  split
  · rfl
  split <;> rfl

/-- A record of accounts that will not be read is one more hold. -/
theorem bindAccount_shut {registry : Except String AccountRegistry} {key : String} :
    Follows (StaysShut settings) (bindAccount settings registry key) := by
  refine Follows.bind .get fun o => .ite .pure (.ite .pure ?_)
  cases registry with
  | error message =>
    refine Follows.bind (.modify fun o => .of_kept (Nat.le_refl _) id fun _ => ?_) fun _ => .pure
    apply currentHold_of_accounts
    unfold accountsHold
    dsimp only
    split <;> rfl
  | ok registry =>
    dsimp only
    split
    · exact .pure
    · exact .ite .pure .pure

theorem startTriageRun_shut {kind : RunKind} {attempt : Nat} {stepsSeen : List Nat} :
    Follows (StaysShut settings) (startTriageRun settings issue kind attempt stepsSeen (pure ()) w) := by
  apply Follows.bind bindAccount_shut
  rintro ⟨account, ready⟩
  refine .ite .pure (Follows.bind .pure fun _ => Follows.bind (.modify fun o => ?_) fun _ => .pure)
  exact .of_kept Dict.size_le_set id id

theorem dispatchParentReviewOne_shut {steps : List Nat} {attempt : Nat} :
    Follows (StaysShut settings) (dispatchParentReviewOne settings issue steps attempt w) := by
  apply Follows.bind await_shut
  intro approval
  split
  · exact .pure
  · exact fileFor_shut.bind fun _ => .pure
  · exact startTriageRun_shut

theorem watchDue_shut {issues : List Issue} {due : Nat × List Nat} :
    Follows (StaysShut settings) (watchDue settings issues due w) := by
  refine Follows.bind .get fun o => ?_
  split
  · exact .pure
  · refine .ite (fileFor_shut.bind fun _ => .pure) ?_
    apply Follows.bind admits_shut
    intro verdict
    split
    · exact .ite .pure (Follows.bind (.when fileFor_shut) fun _ => .pure)
    · refine Follows.bind .get fun o => ?_
      exact dispatchParentReviewOne_shut.bind fun _ => .pure

theorem watchParent_shut {answers : List ParentAnswer} {clock : Datetime} {busy : Nat → Bool} {list : WatchList} :
    Follows (StaysShut settings) (watchParent settings answers clock busy list number) := by
  refine Follows.bind .get fun o => ?_
  split
  · exact .pure
  · exact onIssue_shut.bind fun _ => .pure
  · exact .ite (onIssue_shut.bind fun _ => .pure) (.ite .pure (.ite .pure (.ite .pure .pure)))

/-- The watch opens no gate. -/
theorem dispatchParentReviews_shut {parents : ParentRead} {watch : WatchWorld} {notes reviews : Nat → World} :
    Follows (StaysShut settings) (dispatchParentReviews settings parents watch notes reviews) := by
  have noted : ∀ issues number w, Follows (StaysShut settings) (watchNote settings issues number w) := by
    intro issues number w
    refine Follows.bind .get fun o => ?_
    split
    · exact fileFor_shut
    · exact .pure
  unfold dispatchParentReviews
  split
  · exact .pure
  · refine Follows.bind .get fun o => ?_
    apply Follows.bind (Follows.foldlM fun _ _ => watchParent_shut)
    intro list
    refine .ite .pure ?_
    apply Follows.bind await_shut
    intro answer
    split
    · exact .pure
    · apply Follows.bind (follows_passLoop fun _ _ => noted _ _ _)
      intro _
      exact follows_dispatchLoop fun _ _ _ => watchDue_shut

end Shut

section Sweep

variable {o : Orchestrator} {w : World} {steps : Option (List ParentAnswer)}

theorem resume_adds {verdict : Admitted} : Follows (OnlyAdds Occurrence.Beside) (resume settings issue verdict w) := by
  refine .ite .pure ?_
  split
  · exact .pure
  · refine .ite .pure (Follows.bind (.modify fun _ => .of_one rfl trivial) fun _ => ?_)
    apply admits_follows admits_adds
    · intro refused unordered
      exact (handleRefusal_adds fun order => nomatch unordered order).bind fun _ => .pure
    · exact fun _ _ => .pure

/-- One candidate's turn: it starts only where it is clear, and is held only where it waits. -/
theorem candidateTurn_inOrder (view : (orderHold settings issue steps).isSome ↔ Waits settings read issue) :
    Follows (OnlyAdds (InOrder settings read)) (candidateTurn settings steps issue w) := by
  apply admits_follows (inOrder_of_adds admits_adds)
  · intro refused ordered
    refine .ite .pure (Follows.bind ?_ fun _ => .pure)
    by_cases order : refused.kind = .order
    · -- the hold itself
      unfold handleRefusal
      rw [order]
      refine Follows.bind (.modify fun _ => .of_one rfl ?_) fun _ => .modify fun _ => .of_same rfl
      exact view.mp (ordered order)
    · exact inOrder_of_adds (handleRefusal_adds order)
  · intro admitted unheld
    have clear : Clear settings read issue := by
      apply clear_iff.mpr
      intro waits
      have none := unheld rfl waits.choose_spec.1.todo
      rw [← view, none] at waits
      cases waits
    refine Follows.bind (.modify fun _ => .of_same rfl) fun _ => ?_
    apply Follows.bind (inOrder_of_adds resume_adds)
    intro plan
    split
    · exact .pure
    · refine Follows.bind (dispatch_adds (fun _ => InOrder.of_beside) ?_) fun _ => .pure
      exact fun _ _ _ start same _ _ => same ▸ clear

theorem dispatchCandidates_inOrder {issues : List Issue} {worlds : Nat → World}
    (view : ∀ issue ∈ issues, (orderHold settings issue steps).isSome ↔ Waits settings read issue) :
    Follows (OnlyAdds (InOrder settings read)) (dispatchCandidates settings (some issues) steps worlds) := by
  refine Follows.bind (.modify fun _ => .of_same rfl) fun _ => ?_
  apply follows_dispatchLoop
  intro issue mem w
  exact candidateTurn_inOrder (view issue (mem_sortCandidates.mp mem))

/-- A gate that is shut admits nothing, and the next candidate would be told the same. -/
theorem admits_of_shut {kind : RunKind} {order : Option OrderHold} (shut : o.cannotDispatch settings = true) :
    ∃ refused, Issuebot.admits py (o.admissionRequest settings issue.number (some issue) kind order) = .error refused ∧
      refused.kind.halts = true := by
  unfold Issuebot.admits admissionRequest
  dsimp only
  by_cases stopping : o.stopping = true
  · exact ⟨_, if_pos stopping, rfl⟩
  rw [if_neg stopping]
  cases hold : o.currentHold with
  | some hold => exact ⟨_, rfl, rfl⟩
  | none =>
    have full : o.slots settings = 0 := by simpa [cannotDispatch, stopping, hold] using shut
    exact ⟨_, if_pos full, rfl⟩

/-- A sweep behind a gate that is shut ends at its first candidate. -/
theorem dispatchCandidates_halted {calls : Empty → Fate Empty} {E : Empty → Orchestrator → Prop} {P : Occurrence → Prop}
    {issues : Option (List Issue)} {worlds : Nat → World} :
    Triple calls (fun s => s.cannotDispatch settings = true ∧ OnlyAdds P o s)
      (dispatchCandidates settings issues steps worlds) (fun _ => OnlyAdds P o) E := by
  have told : ∀ issue w, Triple calls (fun s => s.cannotDispatch settings = true ∧ OnlyAdds P o s)
      (candidateTurn settings steps issue w) (fun turn s => turn = .halted ∧ OnlyAdds P o s) E := by
    intro issue w
    refine Triple.bind (Q := fun verdict s => (∃ refused : Refused, verdict = .error refused ∧
      refused.kind.halts = true) ∧ OnlyAdds P o s) ?_ ?_
    · refine .bind_get fun s ⟨shut, adds⟩ => ?_
      obtain ⟨refused, gate, halts⟩ := admits_of_shut shut
      dsimp only
      rw [gate]
      exact .pure fun s' same => ⟨⟨refused, rfl, halts⟩, same ▸ adds⟩
    · intro verdict
      refine .assuming ?_
      rintro ⟨refused, rfl, halts⟩
      dsimp only
      rw [if_pos halts]
      exact .pure fun s adds => ⟨rfl, adds⟩
  cases issues with
  | none => exact .pure fun s h => h.2
  | some issues =>
    refine .bind (Q := fun _ s => s.cannotDispatch settings = true ∧ OnlyAdds P o s) (.modify ?_) fun _ => ?_
    · rintro s ⟨shut, adds⟩
      exact ⟨shut, IsTrans.trans _ _ _ adds (.of_same rfl)⟩
    · cases sortCandidates issues with
      | nil => exact .pure fun s h => h.2
      | cons issue rest =>
        apply Triple.bind (told issue _)
        intro turn
        refine .assuming ?_
        rintro rfl
        exact .pure fun s adds => adds

end Sweep

section Tick

variable {loaded : Settings py} {o : Orchestrator} {t : TickWorld} {outcome : Awaited ParentsRead}

/-- The tick whose one read of parents comes to `outcome`. -/
def TickWorld.reading (t : TickWorld) (outcome : Awaited ParentsRead) : TickWorld :=
  { t with steps := fun wanted => ⟨outcome.answer.answers wanted, outcome.stopped⟩ }

/-- The hold's view of the read is right about every candidate. -/
def Viewed (settings : Settings py) (read : ParentsRead) (issues : Option (List Issue)) (parents : ParentRead) : Prop :=
  ∀ listed, issues = some listed → ∀ issue ∈ listed,
    (orderHold settings issue parents.forHold).isSome ↔ Waits settings read issue

/-- While the tick can dispatch, the read asks for every parent the hold needs. -/
theorem readParents_viewed {calls : Empty → Fate Empty} {E : Empty → Orchestrator → Prop} {P : Occurrence → Prop}
    {issues : Option (List Issue)} :
    Triple calls (OnlyAdds P o) (readParents settings issues (t.reading outcome).steps)
      (fun parents s => OnlyAdds P o s ∧ (s.cannotDispatch settings = true ∨ Viewed settings outcome.answer issues parents))
      E := by
  refine .bind_get fun s adds => ?_
  -- what the order hold asks for
  have asks : s.cannotDispatch settings = false → ∀ listed, issues = some listed → ∀ issue ∈ listed, ∀ parent,
      IsStepOf settings parent issue → parent ∈ s.orderedParents settings issues := by
    rintro gate listed rfl issue mem parent step
    simp only [orderedParents, gate, Bool.false_eq_true, if_false, mem_sortedSet, List.mem_filterMap]
    exact ⟨issue, mem, by rw [if_pos (orderApplies_iff.mpr ⟨parent, step⟩), step.child]⟩
  -- nothing asked for, nothing to hold
  have idle : s.cannotDispatch settings = false → s.orderedParents settings issues = [] →
      ∀ parents : ParentRead, Viewed settings outcome.answer issues parents := by
    intro gate none parents listed is_listed issue mem
    have no_step : ∀ parent, ¬ IsStepOf settings parent issue := by
      intro parent step
      have asked := asks gate listed is_listed issue mem parent step
      rw [none] at asked
      cases asked
    have unheld : orderHold settings issue parents.forHold = .none := by
      unfold orderHold
      rw [if_pos]
      simpa using mt orderApplies_iff.mp (not_exists.mpr no_step)
    rw [unheld]
    refine iff_of_false (by simp) ?_
    rintro ⟨parent, step, -⟩
    exact no_step parent step
  dsimp only
  by_cases unasked : (sortedSet (s.watchedParents settings ++ s.orderedParents settings issues)).isEmpty = true
  · rw [if_pos unasked]
    refine .pure fun s' same => ⟨same ▸ adds, ?_⟩
    subst same
    cases gate : s'.cannotDispatch settings with
    | true => exact .inl rfl
    | false =>
      have none : s'.orderedParents settings issues = [] := by
        apply List.eq_nil_iff_forall_not_mem.mpr
        intro parent mem
        have asked := mem_sortedSet.mpr (List.mem_append_right (s'.watchedParents settings) mem)
        rw [List.isEmpty_iff.mp unasked] at asked
        cases asked
      exact .inr (idle gate none _)
  · rw [if_neg unasked]
    refine Triple.bind (Q := fun _ s' => _ ∧ OnlyAdds P s s' ∧ StaysShut settings s s') await_gated fun _ => ?_
    refine .pure ?_
    rintro s' ⟨rfl, grown, shut⟩
    refine ⟨IsTrans.trans _ _ _ adds grown, ?_⟩
    cases gate : s.cannotDispatch settings with
    | true => exact .inl (shut gate)
    | false =>
      by_cases none : s.orderedParents settings issues = []
      · exact .inr (idle gate none _)
      · refine .inr fun listed is_listed issue mem => ?_
        unfold ParentRead.forHold
        rw [if_neg (by simpa using none)]
        apply orderHold_isSome_iff
        intro parent step
        exact mem_sortedSet.mpr (List.mem_append_right _ (asks gate listed is_listed issue mem parent step))

/-- The dispatching end of a tick. -/
theorem dispatchPolled_inOrder {issues : Option (List Issue)} :
    Follows (OnlyAdds (InOrder settings outcome.answer)) (dispatchPolled settings (t.reading outcome) issues) := by
  refine .of_triple fun calls start => ?_
  refine Triple.before ?_ fun s same => (same ▸ Std.Refl.refl s : OnlyAdds (InOrder settings outcome.answer) start s)
  apply Triple.bind readParents_viewed
  intro parents
  refine Triple.bind (Q := fun _ s => OnlyAdds (InOrder settings outcome.answer) start s ∧
    (s.cannotDispatch settings = true ∨ Viewed settings outcome.answer issues parents)) ?_ fun reviews => ?_
  · refine Triple.conseq ((dispatchParentReviews_adds.and dispatchParentReviews_shut).keeps ?_) (fun _ h => h)
      (fun _ _ h => h) fun error => error.elim
    rintro s s' ⟨grown, shut⟩ ⟨adds, gate⟩
    exact ⟨IsTrans.trans _ _ _ adds (grown.mono fun _ => InOrder.of_beside), gate.imp_left shut⟩
  · refine Triple.bind (Q := fun _ => OnlyAdds (InOrder settings outcome.answer) start) ?_ fun _ => .pure fun _ h => h
    rintro s ⟨adds, shut | viewed⟩
    · exact dispatchCandidates_halted s ⟨shut, adds⟩
    · cases issues with
      | none => exact adds
      | some listed => exact (dispatchCandidates_inOrder (viewed listed rfl)).triple s adds

theorem tickLoaded_inOrder : Follows (OnlyAdds (InOrder loaded outcome.answer)) (tickLoaded loaded (t.reading outcome)) := by
  have dispatched : Follows (OnlyAdds (InOrder loaded outcome.answer)) (dispatchAll loaded (t.reading outcome)) := by
    apply Follows.bind Quiet.await.adds_nothing
    intro _
    apply Follows.bind retryPendingVerdicts_quiet.adds_nothing
    intro _
    apply Follows.bind Quiet.await.adds_nothing
    intro track
    apply Follows.bind (inOrder_of_adds dispatchTriage_adds)
    intro triage
    apply Follows.bind fetchIssues_quiet.adds_nothing
    intro issues
    exact dispatchPolled_inOrder.bind fun _ => .pure
  have unlessHeld : Follows (OnlyAdds (InOrder loaded outcome.answer)) (dispatchUnlessHeld loaded (t.reading outcome)) := by
    refine Follows.bind .get fun s => ?_
    apply Follows.bind (Quiet.when (Quiet.await.bind fun _ => .changeHolds)).adds_nothing
    intro _
    refine Follows.bind .get fun s => .ite ?_ (dispatched.bind fun _ => .pure)
    exact (retryPendingVerdicts_quiet.bind fun _ => pollIssues_quiet).adds_nothing
  have polled : Follows (OnlyAdds (InOrder loaded outcome.answer)) (pollOrDispatch loaded (t.reading outcome)) :=
    .ite unlessHeld (Quiet.adds_nothing (.ite .changeHolds pollIssues_quiet))
  apply Follows.bind settleHolds_quiet.adds_nothing
  intro _
  apply Follows.bind Quiet.changeHolds.adds_nothing
  intro _
  apply Follows.bind polled
  intro _
  apply Follows.bind discardTriageWorkspaces_quiet.adds_nothing
  intro _
  exact .modify fun _ => .of_same rfl

/-- Whatever the tick lists and however its read of parents ends, every work run it starts is of
an issue that is clear, and every issue it holds waits. -/
theorem sweep_keeps_the_order (settings loaded : Settings py) (t : TickWorld) (outcome : Awaited ParentsRead)
    (o : Orchestrator) :
    ∃ more, (Pass.after (tick settings loaded (t.reading outcome)) o).history = o.history ++ more ∧
      ∀ occurrence ∈ more, InOrder loaded outcome.answer occurrence := by
  have reconciled : Follows (OnlyAdds (InOrder loaded outcome.answer)) (reconcile settings (t.reading outcome).reconcile) :=
    inOrder_of_adds reconcile_adds
  rw [Pass.after_eq Empty.elim]
  exact (reconciled.bind fun _ => tickLoaded_inOrder) Empty.elim o

end Tick

end Orchestrator
end Issuebot
