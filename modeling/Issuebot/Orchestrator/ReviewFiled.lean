import Issuebot.Orchestrator.VerdictFiled

/-!
# A parent review's verdict over all its attempts

`Reviewed` is what the parent keeps while its review's verdict is owed, after any prefix of
any number of attempts: the steps the review saw, all closed, then steps under the verdict's
own titles, and of the labels and the close only what the verdict itself writes.
`_parent_review_owed` accepts exactly such a parent (`parentReviewOwed_spec`), also where a
write landed under an error.
-/

namespace Issuebot
set_option autoImplicit false
open Logic Remote

variable {py : Py} {config : FilingConfig py} {pending : PendingParentReview} {start : Family}
variable {F : Call → Fate GitHubError} {n : Nat}

/-- The parent while its review's verdict is owed, `moved` being what the worker knows of the
move. A `met` parent may wear `complete`, and is closed only under it. -/
structure Reviewed (config : FilingConfig py) (pending : PendingParentReview) (start : Family) (moved : Bool)
    (family : Family) : Prop extends Underway config pending.seen pending.filing start family where
  triage : py.lower config.labels.triageTodo ∈ family.labels ∨
    py.lower config.labels.triageComplete ∈ family.labels
  own : ∀ name ∈ config.labels.asTuple, py.lower name ∈ family.labels →
    pending.verdict.verdict = .met ∧ py.lower name = py.lower config.labels.complete
  closed : family.state = .closed →
    pending.verdict.verdict = .met ∧ py.lower config.labels.complete ∈ family.labels
  swap : moved = true → Swapped config family
  met : moved = true → pending.verdict.verdict = .met → family.state = .closed

/-- At most so many label moves and completions were published. -/
structure Announced (published : List Event) (moves completions : Nat) : Prop where
  moves : published.countP Event.isStateChanged ≤ moves
  completions : published.countP Event.isIssueCompleted ≤ completions

/-- What a filed review leaves: its steps or the close, the swap, and the one comment after every
other write. -/
structure ReviewFiled (config : FilingConfig py) (pending : PendingParentReview) (start family : Family) :
    Prop where
  steps : pending.verdict.verdict ≠ .met →
    FiledOnce config pending.seen pending.verdict.subIssues start family
  met : pending.verdict.verdict = .met →
    family.state = .closed ∧ py.lower config.labels.complete ∈ family.labels
  swap : Swapped config family
  comments : ∃ filed now, family.comments = start.comments ++
    [parentReviewComment py pending.verdict filed pending.counts pending.runId pending.attempt pending.turns
      pending.cost config.labels now]
  last : family.writes.getLast? = some .commented

section Family

variable {family : Family} {moved : Bool}

/-- Filing steps leaves the rest of the parent as it was. -/
theorem Reviewed.stopped {before s : System} (h : Reviewed config pending start moved before.family)
    (stopped : Stopped config pending.seen pending.filing before s) :
    Reviewed config pending start moved s.family := by
  obtain ⟨filable, grew⟩ := stopped
  refine ⟨h.toUnderway.stopped filable grew, ?_, ?_, ?_, ?_, ?_⟩
  · rw [grew.labels]
    exact h.triage
  · rw [grew.labels]
    exact h.own
  · rw [grew.labels, grew.state]
    exact h.closed
  · intro known
    have := h.swap known
    rwa [Swapped, ← grew.labels] at this
  · rw [grew.state]
    exact h.met

/-- The swap of a `next` or a `gap`. -/
theorem Reviewed.swapLabels (h : Reviewed config pending start moved family)
    (steps : pending.verdict.verdict ≠ .met) :
    Reviewed config pending start true (family.editLabels py family.base.number [config.labels.triageComplete]
      [config.labels.triageTodo]) := by
  have swap : Swapped config (family.editLabels py family.base.number [config.labels.triageComplete]
      [config.labels.triageTodo]) := .of_swap (by simp) (by simpa using config.labels.triageTodo_ne)
  refine ⟨h.toUnderway.editLabels, .inr swap.1, ?_, ?_, fun _ => swap, fun _ met => absurd met steps⟩
  · rw [Family.editLabels_parent]
    intro name is_state mem
    rcases mem_editedLabels.mp mem with added | ⟨kept, -⟩
    · exact absurd (by simpa using added) (config.labels.state_ne_triage is_state).2
    · exact h.own name is_state kept
  · rw [Family.editLabels_parent]
    exact fun closed => absurd (h.closed closed).1 steps

/-- The labels of a `met`, made once or again. -/
theorem Reviewed.metLabels (h : Reviewed config pending start false family)
    (met : pending.verdict.verdict = .met) :
    let after := family.editLabels py family.base.number [config.labels.complete, config.labels.triageComplete]
      [config.labels.triageTodo]
    Reviewed config pending start false after ∧ Swapped config after ∧
      py.lower config.labels.complete ∈ after.labels := by
  intro after
  have is_state : config.labels.complete ∈ config.labels.asTuple := by simp [GitHubLabels.asTuple]
  have swap : Swapped config after := by
    refine .of_swap (by simp) ?_
    simp only [List.map_cons, List.map_nil, List.mem_cons, List.not_mem_nil, or_false, not_or]
    exact ⟨(config.labels.state_ne_triage is_state).1.symm, config.labels.triageTodo_ne⟩
  have complete : py.lower config.labels.complete ∈ after.labels := by
    simp only [after, Family.editLabels_parent]
    exact mem_editedLabels.mpr (.inl (by simp))
  refine ⟨⟨h.toUnderway.editLabels, .inr swap.1, ?_, fun _ => ⟨met, complete⟩, ?_, ?_⟩, swap, complete⟩
  · simp only [after, Family.editLabels_parent]
    intro name is_state mem
    rcases mem_editedLabels.mp mem with added | ⟨kept, -⟩
    · refine ⟨met, ?_⟩
      simpa [(config.labels.state_ne_triage is_state).2] using added
    · exact h.own name is_state kept
  · rintro ⟨⟩
  · rintro ⟨⟩

/-- The close of a `met`. -/
theorem Reviewed.close (h : Reviewed config pending start false family) (met : pending.verdict.verdict = .met)
    (swap : Swapped config family) (complete : py.lower config.labels.complete ∈ family.labels) (known : Bool) :
    Reviewed config pending start known family.close := by
  refine ⟨⟨?_, h.appended, h.base, h.comments⟩, h.triage, h.own, fun _ => ⟨met, complete⟩, fun _ => swap,
    fun _ _ => rfl⟩
  obtain ⟨nodup, fresh, notParent, parentBelow, seenBelow, room, oneEach, operator⟩ := h.filable
  exact ⟨nodup, fresh, notParent, parentBelow, seenBelow, room, oneEach, operator⟩

/-- The verdict's own steps are no change of the steps the review saw. -/
theorem Reviewed.stepsAsSeen (h : Reviewed config pending start moved family)
    (saw : start.children.map Child.number = pending.seen)
    (allClosed : ∀ c ∈ start.children, c.state = .closed) :
    stepsAsSeen py family.parentSteps pending.seen pending.filing = true := by
  obtain ⟨added, grown, titles⟩ := h.appended
  have all : family.parentSteps.subIssues = start.children.map Child.subIssue ++ added := by
    rw [← grown, Family.parentSteps, Family.subIssues, List.take_of_length_le h.filable.room]
  have length : pending.seen.length = (start.children.map Child.subIssue).length := by
    simp [← saw]
  simp only [Issuebot.stepsAsSeen, all, length, List.take_left, List.drop_left, Bool.and_eq_true,
    decide_eq_true_eq, List.all_eq_true]
  refine ⟨⟨?_, ?_⟩, ?_⟩
  · rw [← saw, List.map_map]
    rfl
  · intro sub mem
    obtain ⟨c, hc, rfl⟩ := List.mem_map.mp mem
    exact allClosed c hc
  · intro sub mem
    obtain ⟨d, of_drafts, same⟩ := titles sub mem
    exact List.contains_iff_mem.mpr (same ▸ List.mem_map_of_mem of_drafts)

/-- A review's verdict is owed by a parent that only its filing has changed. -/
theorem Reviewed.owed (h : Reviewed config pending start pending.moved family) :
    ∃ settled, reviewDiscard py config pending (some (family.issue py config.labels)) =
      .ok (family.issue py config.labels, settled) := by
  by_cases moved : pending.moved
  · exact ⟨true, by simp [reviewDiscard, moved]⟩
  have triage : [py.lower config.labels.triageTodo, py.lower config.labels.triageComplete].any
      (fun name => (family.issue py config.labels).labels.contains name) = true := by
    have : (family.issue py config.labels).labels = family.labels := rfl
    simpa [this] using h.triage
  have worn : ∀ name, name ∈ (family.issue py config.labels).stateLabels ↔
      (∃ label ∈ config.labels.asTuple, py.lower label = name) ∧ name ∈ family.labels := by
    simp [Family.issue]
  cases state : family.state with
  | closed =>
    obtain ⟨met, complete⟩ := h.closed state
    have closed : (family.issue py config.labels).githubState = .closed := state
    have own : py.lower config.labels.complete ∈ (family.issue py config.labels).stateLabels :=
      (worn _).mpr ⟨⟨_, by simp [GitHubLabels.asTuple], rfl⟩, complete⟩
    exact ⟨true, by simp [reviewDiscard, moved, closed, met, own]⟩
  | opened =>
    have opened : (family.issue py config.labels).githubState = .opened := state
    have own : ¬ ((family.issue py config.labels).stateLabels.any fun name =>
        !(if pending.verdict.verdict = .met then [py.lower config.labels.complete] else []).contains name) := by
      simp only [List.any_eq_true, not_exists, not_and]
      intro name mem
      obtain ⟨⟨label, is_state, rfl⟩, on⟩ := (worn name).mp mem
      obtain ⟨met, same⟩ := h.own label is_state on
      simp [met, same]
    refine ⟨false, ?_⟩
    simp only [reviewDiscard, moved, opened, own, triage]
    simp

end Family

section Attempt

/-- Wherever an attempt stops, the verdict stays owed, and its move is announced only once it is
known. -/
structure Halted (config : FilingConfig py) (pending : PendingParentReview) (start : Family) (n : Nat)
    (s : System) : Prop where
  reviewed : Reviewed config pending start s.worker.noted s.family
  announced : Announced s.worker.published s.worker.noted.toNat s.worker.noted.toNat
  tally : Tally [] n s.worker

/-- The parent with the move made and announced, and only the comment missing. -/
structure Moved (config : FilingConfig py) (pending : PendingParentReview) (start : Family) (n : Nat)
    (s : System) : Prop extends Halted config pending start n s where
  known : s.worker.noted = true
  filed : pending.verdict.verdict ≠ .met → ∀ d ∈ pending.filing, Filed config pending.seen s.family d

theorem Announced.move {published : List Event} {moves completions : Nat}
    (h : Announced published moves completions) {fromLabel toLabel note : Option String} :
    Announced (published ++ [.stateChanged fromLabel toLabel note]) (moves + 1) completions := by
  obtain ⟨hm, hc⟩ := h
  constructor
  · simpa [Event.isStateChanged] using hm
  · simpa [Event.isIssueCompleted] using hc

theorem Announced.complete {published : List Event} {moves completions : Nat}
    (h : Announced published moves completions) {resolution : String} :
    Announced (published ++ [.issueCompleted resolution]) moves (completions + 1) := by
  obtain ⟨hm, hc⟩ := h
  constructor
  · simpa [Event.isStateChanged] using hm
  · simpa [Event.isIssueCompleted] using hc

/-- The verdict's own filing never makes it owed no longer. -/
theorem parentReviewOwed_spec (same : pending.issue.number = start.base.number)
    (saw : start.children.map Child.number = pending.seen)
    (allClosed : ∀ c ∈ start.children, c.state = .closed) :
    Triple F (fun s => Halted config pending start n s ∧ s.worker.noted = pending.moved)
      (parentReviewOwed py config pending)
      (fun found s => (Halted config pending start n s ∧ s.worker.noted = pending.moved) ∧
        ∃ current, found = some current ∧ current.number = start.base.number)
      (fun _ => Halted config pending start n) := by
  unfold parentReviewOwed fetchIssue
  refine Triple.bind (Q := fun found s => found = [s.family.issue py config.labels] ∧
    Halted config pending start n s ∧ s.worker.noted = pending.moved)
    (Triple.ask (fun s h => ⟨rfl, h⟩) fun e s h => h.1) fun found => Triple.of_each ?_
  rintro before ⟨rfl, halted, known⟩
  have is_this : (before.family.issue py config.labels).number = pending.issue.number :=
    (congrArg Issue.number halted.reviewed.base).trans same.symm
  have current : ∃ current, some (before.family.issue py config.labels) = some current ∧
      current.number = start.base.number := ⟨_, rfl, is_this.trans same⟩
  obtain ⟨settled, owed⟩ := (known ▸ halted.reviewed).owed
  rw [List.find?_cons_of_pos (by simpa using is_this), owed]
  cases settled with
  | true =>
    refine Triple.pure ?_
    rintro s rfl
    exact ⟨⟨halted, known⟩, current⟩
  | false =>
    have asSeen := halted.reviewed.stepsAsSeen saw allClosed
    have reading : Triple F (fun s => s = before) parentSteps
        (fun steps s => s = before ∧ (∀ read, steps = .ok read → read = before.family.parentSteps))
        (fun _ => Halted config pending start n) := by
      rintro s rfl
      simp only [parentSteps]
      cases F .parentSteps with
      | answered => exact ⟨rfl, fun read is_read => (Except.ok.inj is_read).symm⟩
      | refused error => exact halted
      | lost error => exact ⟨rfl, nofun⟩
    refine reading.bind fun steps => Triple.of_each ?_
    rintro s ⟨rfl, answer⟩
    cases steps with
    | error unreadable => exact Triple.raise fun s same => same ▸ halted
    | ok steps =>
      simp only [answer steps rfl, asSeen]
      refine Triple.pure ?_
      rintro s rfl
      exact ⟨⟨halted, known⟩, current⟩

/-- The close of a `met`, announced once it is known. -/
theorem closeMet_spec {issue : Issue} (is_parent : issue.number = start.base.number)
    (met : pending.verdict.verdict = .met) :
    Triple F (fun s => Halted config pending start n s ∧ s.worker.noted = false) (closeMet py config issue)
      (fun _ => Moved config pending start n) (fun _ => Halted config pending start n) := by
  unfold closeMet editLabels closeAsCompleted
  -- the labels are written, and the close is still to come
  let labelled := fun s : System => Halted config pending start n s ∧ s.worker.noted = false ∧
    Swapped config s.family ∧ py.lower config.labels.complete ∈ s.family.labels
  have labelling : ∀ s, Halted config pending start n s ∧ s.worker.noted = false →
      let family := s.family.editLabels py issue.number [config.labels.complete, config.labels.triageComplete]
        [config.labels.triageTodo]
      labelled { s with family } := by
    rintro s ⟨h, unknown⟩
    have reviewed := h.reviewed
    rw [unknown] at reviewed
    rw [is_parent, ← reviewed.base]
    obtain ⟨after, swap, complete⟩ := reviewed.metLabels met
    exact ⟨⟨by simpa only [unknown] using after, h.announced, h.tally⟩, unknown, swap, complete⟩
  refine Triple.bind (Q := fun _ => labelled)
    (Triple.call labelling (fun e s h => h.1) fun e s _ h => (labelling s h).1) fun _ => ?_
  have closing : ∀ s, labelled s → ∀ known, Reviewed config pending start known s.family.close := by
    rintro s ⟨h, unknown, swap, complete⟩
    exact (unknown ▸ h.reviewed).close met swap complete
  refine Triple.bind (Q := fun _ s => (∀ known, Reviewed config pending start known s.family) ∧
    Announced s.worker.published 0 0 ∧ Tally [] n s.worker) (Triple.call ?_ (fun e s h => h.1) ?_) fun _ => ?_
  · intro s h
    have announced := h.1.announced
    rw [h.2.1] at announced
    exact ⟨closing s h, announced, h.1.tally⟩
  · exact fun e s _ h => ⟨closing s h _, h.1.announced, h.1.tally⟩
  refine Triple.bind (Q := fun _ s => Reviewed config pending start true s.family ∧ s.worker.noted = true ∧
    Announced s.worker.published 0 0 ∧ Tally [] n s.worker)
    (Triple.modify fun s h => ⟨h.1 true, rfl, h.2.1, h.2.2.of_logged rfl⟩) fun _ => ?_
  refine Triple.bind (Q := fun _ s => Reviewed config pending start true s.family ∧ s.worker.noted = true ∧
    Announced s.worker.published 1 0 ∧ Tally [] n s.worker)
    (Triple.modify fun s h => ⟨h.1, h.2.1, h.2.2.1.move, h.2.2.2.of_logged rfl⟩) fun _ => ?_
  refine Triple.modify fun s ⟨reviewed, known, announced, tally⟩ => ?_
  refine ⟨⟨?_, ?_, tally.of_logged rfl⟩, known, fun steps => absurd met steps⟩
  · simpa only [known] using reviewed
  · simp only [known]
    exact announced.complete

/-- The steps of a `next` or a `gap`, announced once the swap is known. -/
theorem fileSteps_spec {issue : Issue} (is_parent : issue.number = start.base.number)
    (steps : pending.verdict.verdict ≠ .met) (within : pending.pastGapLimit = false) :
    Triple F (fun s => Halted config pending start n s ∧ s.worker.noted = pending.moved)
      (fileSteps py config issue pending.verdict pending.seen pending.moved)
      (fun _ => Moved config pending start n) (fun _ => Halted config pending start n) := by
  have drafts : pending.filing = pending.verdict.subIssues := by
    simp [PendingParentReview.filing, within]
  refine Triple.of_each fun before ⟨halted, known⟩ => ?_
  have stopping : ∀ s, Stopped config pending.seen pending.filing before s →
      Halted config pending start n s ∧ s.worker.noted = pending.moved := by
    intro s stopped
    obtain ⟨reviewed, announced, tally⟩ := halted
    rw [← stopped.2.worker] at reviewed announced tally known
    exact ⟨⟨reviewed.stopped stopped, announced, tally⟩, known⟩
  unfold fileSteps editLabels
  refine Triple.bind (Q := fun _ s => (Halted config pending start n s ∧ s.worker.noted = pending.moved) ∧
    ∀ d ∈ pending.filing, Filed config pending.seen s.family d) ?_ fun filed => ?_
  · rw [drafts] at stopping ⊢
    refine Triple.conseq (fileDrafts_spec (drafts ▸ halted.reviewed.filable)) (fun s h => h) ?_
      fun e s h => (stopping s h).1
    exact fun filed s h => ⟨stopping s h.1, h.2⟩
  -- the swap is made, and known from before or not yet
  have swapping : ∀ s, Halted config pending start n s →
      let family := s.family.editLabels py issue.number [config.labels.triageComplete]
        [config.labels.triageTodo]
      ∀ known, Reviewed config pending start known family := by
    intro s h family known
    have swapped : Reviewed config pending start true family := by
      simp only [family, is_parent, ← h.reviewed.base]
      exact h.reviewed.swapLabels steps
    exact ⟨swapped.toUnderway, swapped.triage, swapped.own, swapped.closed, fun _ => swapped.swap rfl,
      fun _ met => absurd met steps⟩
  refine Triple.bind (Q := fun _ s => (∀ known, Reviewed config pending start known s.family) ∧
    Announced s.worker.published pending.moved.toNat pending.moved.toNat ∧ Tally [] n s.worker ∧
    ∀ d ∈ pending.filing, Filed config pending.seen s.family d) (Triple.call ?_ (fun e s h => h.1.1) ?_)
    fun _ => ?_
  · intro s ⟨⟨h, known⟩, filed⟩
    refine ⟨swapping s h, known ▸ h.announced, h.tally, fun d of_drafts => ?_⟩
    rw [is_parent, ← h.reviewed.base]
    exact (filed d of_drafts).editLabels
  · exact fun e s _ ⟨⟨h, known⟩, filed⟩ => ⟨swapping s h _, h.announced, h.tally⟩
  refine Triple.bind (Q := fun _ s => s.worker.noted = true ∧ Reviewed config pending start true s.family ∧
    Announced s.worker.published pending.moved.toNat pending.moved.toNat ∧ Tally [] n s.worker ∧
    ∀ d ∈ pending.filing, Filed config pending.seen s.family d)
    (Triple.modify fun s h => ⟨rfl, h.1 true, h.2.1, h.2.2.1.of_logged rfl, h.2.2.2⟩) fun _ => ?_
  refine Triple.bind (Q := fun _ => Moved config pending start n) (Triple.when ?_ ?_)
    fun _ => Triple.pure fun s h => h
  · intro unmoved
    refine Triple.modify fun s ⟨known, reviewed, announced, tally, filed⟩ => ?_
    have unmoved : pending.moved = false := by simpa using unmoved
    rw [unmoved] at announced
    refine ⟨⟨?_, ?_, tally.of_logged rfl⟩, known, fun _ => filed⟩
    · simpa only [known] using reviewed
    · simp only [known]
      exact ⟨announced.move.moves, Nat.le_trans announced.move.completions (Nat.zero_le 1)⟩
  · intro moved s ⟨known, reviewed, announced, tally, filed⟩
    have moved : pending.moved = true := by simpa using moved
    rw [moved] at announced
    exact ⟨⟨known ▸ reviewed, known ▸ announced, tally⟩, known, fun _ => filed⟩

/-- An attempt's writes: they come to their end, or leave the verdict owed. -/
theorem applyParentReview_spec {issue : Issue} {now : Datetime} (is_parent : issue.number = start.base.number)
    (within : pending.pastGapLimit = false) (commented : ¬ (F .comment).isLost)
    (distinct : (pending.verdict.subIssues.map fun d => titleKey py d.title).Nodup) :
    Triple F (fun s => Halted config pending start n s ∧ s.worker.noted = pending.moved)
      (applyParentReview py config issue pending.verdict pending.seen pending.counts pending.runId pending.attempt
        pending.turns pending.cost now pending.moved)
      (fun _ s => ReviewFiled config pending start s.family ∧ Announced s.worker.published 1 1 ∧
        Tally [] n s.worker)
      (fun _ => Halted config pending start n) := by
  unfold applyParentReview comment
  refine Triple.bind (Q := fun _ => Moved config pending start n) ?_ fun filed => Triple.call ?_ ?_ ?_
  · unfold moveReviewed
    split
    next met =>
      refine Triple.bind (Q := fun _ => Moved config pending start n) (Triple.when ?_ ?_)
        fun _ => Triple.pure fun s h => h
      · intro unmoved
        refine Triple.conseq (closeMet_spec is_parent met) ?_ (fun _ _ h => h) fun _ _ h => h
        exact fun s h => ⟨h.1, h.2.trans (by simpa using unmoved)⟩
      · intro moved s h
        exact ⟨h.1, h.2.trans (by simpa using moved), fun steps => absurd met steps⟩
    next is_next => exact fileSteps_spec is_parent (by simp [is_next]) within
    next is_gap => exact fileSteps_spec is_parent (by simp [is_gap]) within
  · intro s h
    have reviewed := h.reviewed
    have announced := h.announced
    rw [h.known] at reviewed announced
    have drafts : pending.filing = pending.verdict.subIssues := by
      simp [PendingParentReview.filing, within]
    refine ⟨⟨fun steps => ?_, fun met => ?_, reviewed.swap rfl, ?_, ?_⟩, announced, h.tally⟩
    · have filed := drafts ▸ h.filed steps
      exact ((drafts ▸ reviewed.filable).filedOnce distinct (drafts ▸ reviewed.appended) filed).comment
    · have closed := reviewed.met rfl met
      exact ⟨closed, (reviewed.closed closed).2⟩
    · exact ⟨_, _, congrArg (· ++ [_]) reviewed.comments⟩
    · simp [Family.comment]
  · exact fun e s h => h.toHalted
  · exact fun e s lost h => absurd (by rw [lost]; trivial) commented

/-- What the last step of a gap past its limit leaves: the entry is gone, and the hand-over
landed or is the worker's to write again. -/
def GivenUp (n : Nat) (s : System) : Prop :=
  s.worker.parentPending = none ∧ (Tally [] n s.worker ∨ Tally [.handedBack] n s.worker)

theorem GivenUp.worker {E : GitHubError → System → Prop} {f : Worker → Worker}
    (same : ∀ w, (f w).logged = w.logged ∧ (f w).parentPending = w.parentPending) :
    Triple F (GivenUp n) (worker f) (fun _ => GivenUp n) E := by
  refine Triple.modify fun s h => ⟨(same s.worker).2.trans h.1, ?_⟩
  exact h.2.imp (fun t => t.of_logged (same s.worker).1) fun t => t.of_logged (same s.worker).1

theorem handOverAtGapLimit_spec {issue : Issue} {clocks : Clocks} (told : ¬ (F .handBackLabel).isLost)
    {E : GitHubError → System → Prop} :
    Triple F (fun s => s.worker.parentPending = none ∧ Tally [] n s.worker)
      (handOverAtGapLimit py config issue pending clocks) (fun _ => GivenUp n) E := by
  unfold handOverAtGapLimit
  refine Triple.bind (Q := fun _ => GivenUp n) ?_ fun _ => Triple.bind_get fun now h => ?_
  · refine Triple.conseq (handOverParent_spec (I := fun _ _ parent _ => parent = none) told)
      (fun s h => ⟨h.1, h.2⟩) (fun outcome s settled => ?_) fun e s h => h
    by_cases failed : outcome = .failed
    · exact ⟨(settled.1 failed).holds, .inl (settled.1 failed).tally⟩
    · obtain ⟨⟨_, _, gone⟩, tally⟩ := settled.2 failed
      exact ⟨gone, .inr tally⟩
  · refine Triple.conseq (P := GivenUp n) ((GivenUp.worker (by intro w; exact ⟨rfl, rfl⟩)).bind fun _ =>
      GivenUp.worker (by intro w; exact ⟨rfl, rfl⟩)) (fun s same => same ▸ h) (fun _ _ h => h) fun _ _ h => h

variable (pending) in
/-- An attempt files the verdict, hands a gap past its limit over, or keeps the verdict with what
it knows of its move. -/
theorem fileParentReview_spec {clocks : Clocks} (same : pending.issue.number = start.base.number)
    (saw : start.children.map Child.number = pending.seen)
    (allClosed : ∀ c ∈ start.children, c.state = .closed)
    (distinct : (pending.verdict.subIssues.map fun d => titleKey py d.title).Nodup)
    (commented : ¬ (F .comment).isLost) (told : ¬ (F .handBackLabel).isLost) {E : GitHubError → System → Prop} :
    Triple F (fun s => Reviewed config pending start pending.moved s.family ∧
        Announced s.worker.published pending.moved.toNat pending.moved.toNat ∧ Tally [] n s.worker)
      (fileParentReview py config pending clocks)
      (fun failure s => match failure with
        | none => pending.pastGapLimit = true ∧ GivenUp n s ∨
            s.worker.parentPending = none ∧ ReviewFiled config pending start s.family ∧
              Announced s.worker.published 1 1 ∧ Tally [.filed] n s.worker
        | some _ => ∃ moved, s.worker.parentPending = some { pending with moved } ∧
            Reviewed config pending start moved s.family ∧
            Announced s.worker.published moved.toNat moved.toNat ∧ Tally [] (n + 1) s.worker) E := by
  unfold fileParentReview fileOwedReview
  refine Triple.bind (Q := fun _ s => Halted config pending start n s ∧ s.worker.noted = pending.moved)
    (Triple.modify fun s h => ⟨⟨h.1, h.2.1, h.2.2.of_logged rfl⟩, rfl⟩) fun _ => ?_
  refine Triple.bind (Q := fun result s => match result with
    | .ok found => found.isSome ∧ Tally [] n s.worker ∧ (pending.pastGapLimit = false →
        ReviewFiled config pending start s.family ∧ Announced s.worker.published 1 1)
    | .error _ => Halted config pending start n s) (Triple.attempt ?_) fun result => ?_
  · refine (parentReviewOwed_spec same saw allClosed).bind fun found => Triple.of_each ?_
    rintro before ⟨⟨halted, known⟩, current, rfl, is_parent⟩
    refine Triple.bind (Q := fun _ s => Tally [] n s.worker ∧ (pending.pastGapLimit = false →
      ReviewFiled config pending start s.family ∧ Announced s.worker.published 1 1)) (Triple.when ?_ ?_)
      fun _ => Triple.pure fun s h => ⟨rfl, h⟩
    · intro within
      have within : pending.pastGapLimit = false := by simpa using within
      refine Triple.bind (Q := fun _ s => Halted config pending start n s ∧ s.worker.noted = pending.moved)
        (Triple.modify ?_) fun _ => ?_
      · rintro s rfl
        exact ⟨⟨halted.reviewed, halted.announced, halted.tally.of_logged rfl⟩, known⟩
      · exact Triple.conseq (applyParentReview_spec is_parent within commented distinct) (fun s h => h)
          (fun _ s h => ⟨h.2.2, fun _ => ⟨h.1, h.2.1⟩⟩) fun e s h => h
    · rintro past s rfl
      exact ⟨halted.tally, fun within => by simp [within] at past⟩
  cases result with
  | error error =>
    refine Triple.bind (Q := fun _ s => Reviewed config pending start s.worker.noted s.family ∧
      Announced s.worker.published s.worker.noted.toNat s.worker.noted.toNat ∧ Tally [] (n + 1) s.worker)
      (Triple.modify fun s h => ⟨h.reviewed, h.announced, h.tally.fail rfl rfl⟩) fun _ => ?_
    refine Triple.bind (Triple.modify fun s h => ?_) fun _ => Triple.pure fun s h => h
    exact ⟨s.worker.noted, rfl, h.1, h.2.1, h.2.2.of_logged rfl⟩
  | ok found =>
    let ended := fun s : System => s.worker.parentPending = none ∧ Tally [] n s.worker ∧
      (pending.pastGapLimit = false → ReviewFiled config pending start s.family ∧
        Announced s.worker.published 1 1)
    refine Triple.bind (Q := fun _ s => found.isSome ∧ ended s)
      (Triple.modify fun s h => ⟨h.1, rfl, h.2.1.of_logged rfl, h.2.2⟩) fun _ => Triple.assuming fun some => ?_
    refine Triple.bind (Q := fun _ => ended)
      (Triple.modify fun s h => ⟨h.1, h.2.1.of_logged rfl, h.2.2⟩) fun _ => ?_
    obtain ⟨current, rfl⟩ := Option.isSome_iff_exists.mp some
    dsimp only
    split
    next past =>
      refine Triple.bind (Q := fun _ => GivenUp n) (Triple.conseq (handOverAtGapLimit_spec told)
        (fun s h => ⟨h.1, h.2.1⟩) (fun _ s h => h) fun _ _ h => h) fun _ => Triple.pure fun s h => .inl ⟨past, h⟩
    next within =>
      have within : pending.pastGapLimit = false := by simpa using within
      unfold reviewFiled recordParent forgetTriageChain
      refine Triple.bind (Q := fun _ s => s.worker.parentPending = none ∧
        ReviewFiled config pending start s.family ∧ Announced s.worker.published 1 1 ∧
        Tally [.filed] n s.worker) ?_ fun _ => Triple.pure fun s h => .inr h
      refine Triple.bind (Q := fun _ => ended) ?_ fun _ => ?_
      · refine Triple.bind (Q := fun _ => ended)
          (Triple.modify fun s h => ⟨h.1, h.2.1.of_logged rfl, h.2.2⟩) fun _ => Triple.modify fun s h => ?_
        refine ⟨h.1, h.2.1.of_logged rfl, fun within => ⟨(h.2.2 within).1, ?_⟩⟩
        obtain ⟨moves, completions⟩ := (h.2.2 within).2
        constructor
        · simpa [ParentRecord.stateEvent, Event.isStateChanged] using moves
        · simpa [ParentRecord.stateEvent, Event.isIssueCompleted] using completions
      refine Triple.bind (Q := fun _ => ended) (Triple.modify fun s h => ⟨h.1, h.2.1.of_logged rfl, h.2.2⟩)
        fun _ => Triple.modify fun s h => ?_
      obtain ⟨filed, announced⟩ := h.2.2 within
      exact ⟨h.1, filed, announced, h.2.1.close rfl rfl⟩

end Attempt

section Retry

variable {E : GitHubError → System → Prop}

/-- The entry while it waits: the verdict it was made with, as many failed attempts as its tries
tell, and its move announced at most once. -/
def AwaitingReview (config : FilingConfig py) (pending : PendingParentReview) (start : Family) (n : Nat)
    (family : Family) (_ : Option PendingVerdict) (slot : Option PendingParentReview) (published : List Event) :
    Prop :=
  ∃ tries moved, slot = some { pending with tries, moved } ∧ Reviewed config pending start moved family ∧
    Announced published moved.toNat moved.toNat ∧ tries + 1 = n

/-- Where the verdict stands between two attempts. -/
inductive ReviewStatus (config : FilingConfig py) (pending : PendingParentReview) (start : Family) (s : System) :
    Prop where
  | awaiting (n : Nat) (kept : Kept (AwaitingReview config pending start n) n s)
  | filed (n : Nat) (gone : s.worker.parentPending = none) (filed : ReviewFiled config pending start s.family)
      (announced : Announced s.worker.published 1 1) (tally : Tally [.filed] n s.worker)
  | handedOver (n : Nat) (past : pending.pastGapLimit = true) (gone : GivenUp n s)
  | handedBack (n : Nat) (gone : s.worker.parentPending = none) (spent : config.maxAttempts < n)
      (tally : Tally [.handedBack] n s.worker)

/-- The tries and what is known of the move are all that a retry changes of its entry. -/
theorem Reviewed.entry {tries : Nat} {moved known : Bool} {family : Family} :
    Reviewed config { pending with tries, moved } start known family ↔
      Reviewed config pending start known family :=
  ⟨fun h => ⟨h.toUnderway, h.triage, h.own, h.closed, h.swap, h.met⟩,
    fun h => ⟨h.toUnderway, h.triage, h.own, h.closed, h.swap, h.met⟩⟩

/-- The hand-over lands, or leaves the entry as it was. -/
theorem handBackReview_spec {p : PendingParentReview} {failure : GitHubError} {clocks : Clocks}
    (told : ¬ (F .handBackLabel).isLost) (spent : config.maxAttempts < n) :
    Triple F (Kept (AwaitingReview config pending start n) n) (handBackReview py config p failure clocks)
      (fun _ => ReviewStatus config pending start) E := by
  unfold handBackReview
  refine (handOverParent_spec told).bind fun outcome => Triple.when (fun landed => ?_) fun failed s h => ?_
  · have landed : outcome ≠ .failed := of_decide_eq_true landed
    refine Triple.bind (Q := fun _ s => s.worker.parentPending = none ∧ Tally [.handedBack] n s.worker)
      (Triple.modify fun s h => ⟨rfl, (h.2 landed).tally.of_logged rfl⟩) fun _ => Triple.modify fun s h => ?_
    exact .handedBack n h.1 spent (h.2.of_logged rfl)
  · exact .awaiting n (h.1 (by simpa using failed))

/-- What an attempt asks of GitHub: the comment and the hand-back's label edit are not refused
after they were made. -/
structure CommentTold (F : Call → Fate GitHubError) : Prop where
  comment : ¬ (F .comment).isLost
  handBack : ¬ (F .handBackLabel).isLost

/-- The parent and the worker right before the first attempt: the steps the review saw, all
closed, under an open parent with a triage label and no state label. -/
structure ReviewStart (config : FilingConfig py) (pending : PendingParentReview) (s : System) : Prop where
  same : pending.issue.number = s.family.base.number
  fresh : pending.tries = 0 ∧ pending.moved = false
  opened : s.family.state = .opened
  noState : ∀ name ∈ config.labels.asTuple, py.lower name ∉ s.family.labels
  triage : py.lower config.labels.triageTodo ∈ s.family.labels ∨
    py.lower config.labels.triageComplete ∈ s.family.labels
  saw : s.family.children.map Child.number = pending.seen
  allClosed : ∀ c ∈ s.family.children, c.state = .closed
  filable : Filable config pending.seen pending.filing s.family
  logged : s.worker.logged = []
  published : s.worker.published = []

theorem ReviewStart.reviewed {s : System} (h : ReviewStart config pending s) :
    Reviewed config pending s.family pending.moved s.family where
  toUnderway := ⟨h.filable, .refl _, rfl, rfl⟩
  triage := h.triage
  own := fun name is_state mem => absurd mem (h.noState name is_state)
  closed := by simp [h.opened]
  swap := by simp [h.fresh.2]
  met := by simp [h.fresh.2]

/-- One pass of the tick over the entry. -/
theorem retryPendingReview_spec {clocks : Clocks} (same : pending.issue.number = start.base.number)
    (saw : start.children.map Child.number = pending.seen) (allClosed : ∀ c ∈ start.children, c.state = .closed)
    (distinct : (pending.verdict.subIssues.map fun d => titleKey py d.title).Nodup) (told : CommentTold F) :
    Triple F (Kept (AwaitingReview config pending start n) n) (retryPendingReview py config clocks)
      (fun _ => ReviewStatus config pending start) E := by
  unfold retryPendingReview
  refine Triple.bind_get fun now kept => ?_
  obtain ⟨tries, moved, slot, reviewed, announced, rfl⟩ := kept.holds
  rw [slot]
  refine Triple.bind (Triple.conseq (fileParentReview_spec (n := tries + 1) { pending with tries, moved } same saw
    allClosed distinct told.comment told.handBack) ?_ (fun _ _ h => h) fun _ _ h => h) fun failure => ?_
  · rintro s rfl
    exact ⟨Reviewed.entry.mpr reviewed, announced, kept.tally⟩
  cases failure with
  | none =>
    refine Triple.pure fun s h => ?_
    rcases h with ⟨past, gone⟩ | ⟨gone, filed, announced, tally⟩
    · exact .handedOver _ past gone
    · exact .filed _ gone ⟨filed.steps, filed.met, filed.swap, filed.comments, filed.last⟩ announced tally
  | some failure =>
    refine Triple.bind_get fun now ⟨moved, slot, reviewed, announced, tally⟩ => ?_
    rw [slot]
    unfold countReviewFailure
    refine Triple.bind (Q := fun _ => Kept (AwaitingReview config pending start (tries + 2)) (tries + 2))
      (Triple.modify ?_) fun _ => Triple.when (fun spent => ?_) fun _ s h => .awaiting _ h
    · rintro _ rfl
      exact ⟨⟨tries + 1, moved, rfl, Reviewed.entry.mp reviewed, announced, rfl⟩, tally.of_logged rfl⟩
    · exact handBackReview_spec told.handBack (Nat.lt_succ_of_le (of_decide_eq_true spent))

/-- No entry, nothing to do. -/
theorem retryPendingReview_idle {clocks : Clocks} {before : System}
    (gone : before.worker.parentPending = none) :
    Triple F (fun s => s = before) (retryPendingReview py config clocks) (fun _ s => s = before) E := by
  unfold retryPendingReview
  refine Triple.bind_get ?_
  rintro _ rfl
  rw [gone]
  exact Triple.pure fun s h => h

end Retry

section Run

/-- One pass of the tick over the entry. -/
def ReviewRetry (config : FilingConfig py) (s : System) (attempt : Clocks × (Call → Fate GitHubError))
    (s' : System) : Prop :=
  CommentTold attempt.2 ∧ s' = (retryPendingReview py config attempt.1 attempt.2 s).2

theorem ReviewStatus.retry (same : pending.issue.number = start.base.number)
    (saw : start.children.map Child.number = pending.seen) (allClosed : ∀ c ∈ start.children, c.state = .closed)
    (distinct : (pending.verdict.subIssues.map fun d => titleKey py d.title).Nodup) {s s' : System}
    {attempt : Clocks × (Call → Fate GitHubError)} (step : ReviewRetry config s attempt s')
    (status : ReviewStatus config pending start s) : ReviewStatus config pending start s' := by
  obtain ⟨told, rfl⟩ := step
  cases status with
  | awaiting n kept => exact (retryPendingReview_spec same saw allClosed distinct told).after kept
  | filed n gone filed announced tally =>
    rw [(retryPendingReview_idle gone).after rfl]
    exact .filed n gone filed announced tally
  | handedOver n past gone =>
    rw [(retryPendingReview_idle gone.1).after rfl]
    exact .handedOver n past gone
  | handedBack n gone spent tally =>
    rw [(retryPendingReview_idle gone).after rfl]
    exact .handedBack n gone spent tally

/-- Over all attempts a review's verdict is never discarded: it waits, it was filed, once, or the
parent was handed over, past the gap limit or after `max_attempts` failed retries. -/
theorem review_filed_once {clocks : Clocks} {retries : List (Clocks × (Call → Fate GitHubError))}
    {s₀ s : System} (start : ReviewStart config pending s₀)
    (distinct : (pending.verdict.subIssues.map fun d => titleKey py d.title).Nodup) (told : CommentTold F)
    (run : Steps (ReviewRetry config) (fileParentReview py config pending clocks F s₀).2 retries s) :
    .discarded ∉ s.worker.endings ∧
    (∀ p, s.worker.parentPending = some p → p.verdict = pending.verdict ∧ s.worker.endings = [] ∧
      Announced s.worker.published 1 1) ∧
    (s.worker.parentPending = none →
      s.worker.endings = [.filed] ∧ ReviewFiled config pending s₀.family s.family ∧
        Announced s.worker.published 1 1 ∨
      pending.pastGapLimit = true ∧ .filed ∉ s.worker.endings ∨
      s.worker.endings = [.handedBack] ∧ config.maxAttempts < s.worker.failedTries) := by
  have filing : ReviewStatus config pending s₀.family (fileParentReview py config pending clocks F s₀).2 := by
    refine Triple.after (T := ReviewStatus config pending s₀.family) ((fileParentReview_spec (n := 0) pending
      start.same start.saw start.allClosed distinct told.comment told.handBack).conseq (fun _ h => h) ?_
      fun _ _ h => h) ⟨start.reviewed, ?_, ?_⟩
    · intro failure s h
      cases failure with
      | none =>
        rcases h with ⟨past, gone⟩ | ⟨gone, filed, announced, tally⟩
        · exact .handedOver 0 past gone
        · exact .filed 0 gone filed announced tally
      | some failure =>
        obtain ⟨moved, slot, reviewed, announced, tally⟩ := h
        refine .awaiting 1 ⟨⟨0, moved, ?_, reviewed, announced, rfl⟩, tally⟩
        rw [slot, ← start.fresh.1]
    · constructor <;> simp [start.published]
    · constructor
      · simp [Worker.endings, start.logged]
      · simp [Worker.failedTries, start.logged]
  have status := run.invariant
    (fun _ _ _ step => ReviewStatus.retry start.same start.saw start.allClosed distinct step) filing
  cases status with
  | awaiting n kept =>
    obtain ⟨tries, moved, slot, -, ⟨moves, completions⟩, -⟩ := kept.holds
    refine ⟨by simp [kept.tally.endings], fun p is_p => ?_, fun gone => ?_⟩
    · rw [slot, Option.some.injEq] at is_p
      exact ⟨is_p ▸ rfl, kept.tally.endings, Nat.le_trans moves moved.toNat_le,
        Nat.le_trans completions moved.toNat_le⟩
    · rw [slot] at gone
      cases gone
  | filed n gone filed announced tally =>
    refine ⟨by simp [tally.endings], fun p is_p => ?_, fun _ => .inl ⟨tally.endings, filed, announced⟩⟩
    rw [gone] at is_p
    cases is_p
  | handedOver n past gone =>
    have ended : .discarded ∉ s.worker.endings ∧ .filed ∉ s.worker.endings := by
      rcases gone.2 with tally | tally <;> simp [tally.endings]
    refine ⟨ended.1, fun p is_p => ?_, fun _ => .inr (.inl ⟨past, ended.2⟩)⟩
    rw [gone.1] at is_p
    cases is_p
  | handedBack n gone spent tally =>
    refine ⟨by simp [tally.endings], fun p is_p => ?_, fun _ => .inr (.inr ⟨tally.endings, ?_⟩)⟩
    · rw [gone] at is_p
      cases is_p
    · rwa [tally.failures]

/-- A split parent whose one step has closed. -/
def steppedParent : Family where
  base := plainIssue 7
  state := .opened
  labels := ["issuebot/triage-complete"]
  children := [⟨8, "Rotate the key", "By hand.", .closed, ["issuebot/operator-step"]⟩]
  comments := []
  nextNumber := 9
  writes := []

def metReview : PendingParentReview where
  issue := plainIssue 7
  verdict := ⟨.met, "Done.", "The key is rotated.", "", []⟩
  seen := [8]
  counts := ⟨1, 4, 0, 2⟩
  runId := "r3"
  attempt := 1
  turns := 6
  cost := 200000

/-- The call takes effect and is answered with an error. -/
def losing (lost : Call) (call : Call) : Fate GitHubError :=
  if call = lost then .lost { category := .status, message := "502" } else .answered

/-- The labels, the close and the comment each fail once. -/
theorem review_filed_once_after_refusals :
    let clocks : Clocks := ⟨seconds 0, seconds 0⟩
    let first := (fileParentReview Py.ascii defaultFiling metReview clocks (losing .move)
      ⟨steppedParent, .idle⟩).2
    let second := (retryPendingReview Py.ascii defaultFiling clocks (losing .close) first).2
    let third := (retryPendingReview Py.ascii defaultFiling clocks commentRefused second).2
    let fourth := (retryPendingReview Py.ascii defaultFiling clocks (fun _ => .answered) third).2
    fourth.worker.endings = [.filed] ∧ ReviewFiled defaultFiling metReview steppedParent fourth.family ∧
      Announced fourth.worker.published 1 1 := by
  intro clocks first second third fourth
  have start : ReviewStart defaultFiling metReview ⟨steppedParent, .idle⟩ := by
    refine ⟨rfl, ⟨rfl, rfl⟩, rfl, by decide +kernel, by decide +kernel, rfl, by decide, ?_, rfl, rfl⟩
    constructor <;> simp [steppedParent, metReview, plainIssue, PendingParentReview.filing, pageSize]
  have told : ∀ F ∈ [losing .move, losing .close, commentRefused, fun _ => .answered], CommentTold F := by
    simp only [List.forall_mem_cons, List.not_mem_nil, false_implies, implies_true, and_true]
    exact ⟨⟨id, id⟩, ⟨id, id⟩, ⟨id, id⟩, ⟨id, id⟩⟩
  have retry : ∀ s F, CommentTold F →
      ReviewRetry defaultFiling s (clocks, F) (retryPendingReview Py.ascii defaultFiling clocks F s).2 :=
    fun s F told => ⟨told, rfl⟩
  have outcome := review_filed_once (s := fourth) start (by decide) (told (losing .move) (by simp))
    (.cons (retry first _ (told (losing .close) (by simp))) (.cons (retry second _ (told commentRefused (by simp)))
      (.cons (retry third _ (told _ (by simp))) (.nil fourth))))
  have gone : fourth.worker.parentPending = none := by decide +kernel
  have not_spent : ¬ defaultFiling.maxAttempts < fourth.worker.failedTries := by decide +kernel
  have within : ¬ metReview.pastGapLimit = true := by decide
  rcases outcome.2.2 gone with filed | ⟨past, -⟩ | ⟨-, spent⟩
  · exact filed
  · exact absurd past within
  · exact absurd spent not_spent

end Run
end Issuebot
