import Issuebot.Orchestrator.ReviewNotes

/-!
# The limits on a parent's reviews

Between two resets of a parent's record its count of reviews is the number of verdicts acted on,
also while a verdict waits that GitHub refused: what waits carries the counts it would bring the
parent to, and nothing else is acted on meanwhile (`WithinLimits`).
-/

namespace Issuebot
set_option autoImplicit false
open Logic Remote

variable {py : Py} {settings : Settings py} {v v' : ParentView} {act : ParentAct} {acts : List ParentAct}

/-- People move labels and close steps: the parent stays as open or closed as it is, and a split
parent keeps a step. The worker reads what GitHub has. -/
def ParentAct.Faithful (v : ParentView) : ParentAct → Prop
  | outside family =>
    family.state = v.system.family.state ∧ (v.system.family.children ≠ [] → family.children ≠ [])
  | triaged issue steps =>
    issue.subIssueCount = v.system.family.children.length ∧ steps = v.system.family.subIssues
  | watched steps => steps.state = v.system.family.state
  | requested issue _ => issue.githubState = v.system.family.state
  | finished answer => ∃ steps, answer = some steps ∧ steps.state = v.system.family.state
  | _ => True

def ParentAct.FaithfulStep (settings : Settings py) (v : ParentView) (act : ParentAct) (v' : ParentView) : Prop :=
  act.Step settings v v' ∧ act.Faithful v

/-- The record has just been reset: nothing of the parent is owed or being triaged. -/
structure JustReset (v : ParentView) : Prop where
  record : v.memory.record = some {}
  triage : v.memory.triage = none
  pending : v.memory.pending = none
  running : v.running = none ∨ v.running = some .parentReview ∧ v.system.family.state = .opened
  stepped : v.system.family.children ≠ []
  acted : v.acted = 0
  gaps : v.gaps = 0

/-- A verdict judged by the record as it is, with room for it. -/
structure Judged (settings : Settings py) (v : ParentView) (pending : PendingParentReview) : Prop where
  review : pending.counts.review = v.acted + 1
  room : v.acted < max settings.maxParentReviews 1
  gapRound : pending.counts.gapRound = if pending.verdict.verdict = .gap then v.gaps + 1 else v.gaps
  maxGapRounds : pending.counts.maxGapRounds = settings.maxGapRounds
  handedOver : v.record.handedOver = none
  met : v.record.finished = true ∨ v.system.family.state = .closed → pending.verdict.verdict = .met

/-- A review that is going. -/
structure Reviewing (settings : Settings py) (v : ParentView) : Prop where
  pending : v.memory.pending = none
  room : v.acted < max settings.maxParentReviews 1
  watched : v.record.watched = true
  opened : v.system.family.state = .opened

/-- The counts are those of the verdicts acted on and within their limits, and so is what waits. -/
structure WithinLimits (settings : Settings py) (v : ParentView) : Prop where
  recorded : v.memory.record.isSome
  reviews : v.record.reviews = v.acted
  rounds : v.record.gapRounds = v.gaps
  acted : v.acted ≤ max settings.maxParentReviews 1
  gaps : v.gaps ≤ settings.maxGapRounds
  triage : v.memory.triage = none
  running : v.running ≠ some .triage
  stepped : v.system.family.children ≠ []
  reviewing : v.running = some .parentReview → Reviewing settings v
  owed : ∀ pending, v.memory.pending = some pending → Judged settings v pending

theorem JustReset.withinLimits (reset : JustReset v) : WithinLimits settings v := by
  have record : v.record = {} := by rw [ParentView.record, reset.record]; rfl
  refine ⟨by rw [reset.record]; rfl, ?_, ?_, ?_, ?_, reset.triage, ?_, reset.stepped, fun going => ?_, fun pending owed => ?_⟩
  · rw [record, reset.acted]
  · rw [record, reset.gaps]
  · rw [reset.acted]
    exact Nat.zero_le _
  · rw [reset.gaps]
    exact Nat.zero_le _
  · rcases reset.running with idle | ⟨going, -⟩
    · rw [idle]
      nofun
    · rw [going]
      nofun
  · rcases reset.running with idle | ⟨-, opened⟩
    · cases idle.symm.trans going
    · refine ⟨reset.pending, ?_, by rw [record]; rfl, opened⟩
      rw [reset.acted]
      omega
  · cases reset.pending.symm.trans owed

section HandOver

variable {outcome : EscapeOutcome} {note : ParentHandOver} {m : ParentMemory}

@[simp] theorem afterHandOver_triage : (m.afterHandOver outcome note).triage = m.triage := by
  unfold ParentMemory.afterHandOver
  split <;> rfl

@[simp] theorem afterHandOver_pending : (m.afterHandOver outcome note).pending = m.pending := by
  unfold ParentMemory.afterHandOver
  split <;> rfl

/-- A hand-over keeps the counts, and whatever ended the watch. -/
theorem afterHandOver_record :
    let record := (m.afterHandOver outcome note).record.getD {}
    record.reviews = (m.record.getD {}).reviews ∧ record.gapRounds = (m.record.getD {}).gapRounds ∧
      (record.watched = true → (m.record.getD {}).watched = true) := by
  unfold ParentMemory.afterHandOver
  split
  · exact ⟨rfl, rfl, id⟩
  · exact ⟨rfl, rfl, nofun⟩

theorem afterHandOver_recorded (recorded : m.record.isSome) : (m.afterHandOver outcome note).record.isSome := by
  unfold ParentMemory.afterHandOver
  split
  · exact recorded
  · rfl

end HandOver

section Step

/-- The limits go on holding, and the watch does not take up a parent it has left. -/
structure Onward (settings : Settings py) (v v' : ParentView) : Prop where
  within : WithinLimits settings v'
  watched : v'.record.watched = true → v.record.watched = true

/-- Nothing of the parent is going or owed, and its counts are what they were. -/
theorem WithinLimits.idle (w : WithinLimits settings v) (recorded : v'.memory.record.isSome)
    (record : v'.record.reviews = v.record.reviews ∧ v'.record.gapRounds = v.record.gapRounds ∧
      (v'.record.watched = true → v.record.watched = true))
    (acted : v'.acted = v.acted) (gaps : v'.gaps = v.gaps) (triage : v'.memory.triage = v.memory.triage)
    (running : v'.running ≠ some .triage ∧ v'.running ≠ some .parentReview) (pending : v'.memory.pending = none)
    (stepped : v.system.family.children ≠ [] → v'.system.family.children ≠ []) : Onward settings v v' := by
  obtain ⟨reviews, rounds, watched⟩ := record
  refine ⟨⟨recorded, by rw [reviews, acted, w.reviews], by rw [rounds, gaps, w.rounds], by rw [acted]; exact w.acted,
    by rw [gaps]; exact w.gaps, by rw [triage]; exact w.triage, running.1, stepped w.stepped,
    fun going => absurd going running.2, fun p owed => ?_⟩, watched⟩
  cases pending.symm.trans owed

/-- What is beside the reviews. -/
theorem WithinLimits.beside (w : WithinLimits settings v) (triage : v'.memory.triage = v.memory.triage)
    (pending : v'.memory.pending = v.memory.pending) (record : v'.memory.record = v.memory.record)
    (state : v'.system.family.state = v.system.family.state)
    (stepped : v.system.family.children ≠ [] → v'.system.family.children ≠ [])
    (running : v'.running = v.running ∨ v'.running = none ∨ v'.running = some .work)
    (acted : v'.acted = v.acted) (gaps : v'.gaps = v.gaps) : Onward settings v v' := by
  have same : v'.record = v.record := by rw [ParentView.record, record, ParentView.record]
  refine ⟨⟨by rw [record]; exact w.recorded, by rw [same, acted, w.reviews], by rw [same, gaps, w.rounds], ?_, ?_,
    by rw [triage]; exact w.triage, ?_, stepped w.stepped, fun going => ?_, fun p owed => ?_⟩, by rw [same]; exact id⟩
  · rw [acted]
    exact w.acted
  · rw [gaps]
    exact w.gaps
  · rcases running with kept | idle | work
    · rw [kept]
      exact w.running
    · rw [idle]
      nofun
    · rw [work]
      nofun
  · rcases running with kept | idle | work
    · obtain ⟨none, room, watched, opened⟩ := w.reviewing (kept.symm.trans going)
      exact ⟨by rw [pending, none], by rw [acted]; exact room, by rw [same]; exact watched, by rw [state]; exact opened⟩
    · cases idle.symm.trans going
    · cases work.symm.trans going
  · obtain ⟨review, room, gapRound, maxGapRounds, handedOver, met⟩ := w.owed p (pending.symm.trans owed)
    exact ⟨by rw [acted, review], by rw [acted]; exact room, by rw [gaps]; exact gapRound, maxGapRounds,
      by rw [same]; exact handedOver, by rw [same, state]; exact met⟩

theorem WithinLimits.left {f : ParentMemory → ParentMemory} (w : WithinLimits settings v)
    (changed : Changed f False v.system v'.system) (beside : f = id ∨ f = ParentMemory.forgot)
    (running : v'.running = v.running ∨ v'.running = none ∨ v'.running = some .work)
    (acted : v'.acted = v.acted) (gaps : v'.gaps = v.gaps) : Onward settings v v' := by
  have memory : v'.memory = _ := changed.memory
  have state := changed.state.resolve_right fun never => never.1
  rcases beside with rfl | rfl
  · exact w.beside (by rw [memory]; rfl) (by rw [memory]; rfl) (by rw [memory]; rfl) state changed.stepped running acted gaps
  · exact w.beside (by rw [memory]; rfl) (by rw [memory]; rfl) (by rw [memory]; rfl) state changed.stepped running acted gaps

/-- A hand-over of a parent that nothing is owed on. -/
theorem WithinLimits.handed {f : ParentMemory → ParentMemory} {outcome : EscapeOutcome} {note : ParentHandOver}
    (w : WithinLimits settings v) (changed : Changed (ParentMemory.afterHandOver outcome note ∘ f) False v.system v'.system)
    (triage : ∀ m, (f m).triage = m.triage) (pending : ∀ m, (f m).pending = m.pending)
    (record : ∀ m, (f m).record = m.record) (none : v.memory.pending = none) (running : v'.running = .none)
    (acted : v'.acted = v.acted) (gaps : v'.gaps = v.gaps) : Onward settings v v' := by
  have memory : v'.memory = _ := changed.memory
  have counts : (((f v.memory).afterHandOver outcome note).record.getD {}).reviews = _ ∧ _ ∧ _ := afterHandOver_record
  rw [record] at counts
  refine w.idle ?_ ?_ acted gaps ?_ ?_ ?_ changed.stepped
  · rw [memory]
    exact afterHandOver_recorded (by rw [record]; exact w.recorded)
  · rw [ParentView.record, memory]
    exact counts
  · rw [memory]
    exact afterHandOver_triage.trans (triage _)
  · rw [running]
    exact ⟨nofun, nofun⟩
  · rw [memory]
    exact afterHandOver_pending.trans ((pending _).trans none)

/-- A judged verdict waits, whatever note is owed with it. -/
theorem WithinLimits.kept {pending kept : PendingParentReview} (w : WithinLimits settings v)
    (judged : Judged settings v pending) (slot : v'.memory.pending = some kept) (verdict : kept.verdict = pending.verdict)
    (counts : kept.counts = pending.counts) (triage : v'.memory.triage = v.memory.triage)
    (memory : v'.memory.record = v.memory.record)
    (state : v'.system.family.state = v.system.family.state ∨
      pending.verdict.verdict = .met ∧ v'.system.family.state = .closed)
    (stepped : v.system.family.children ≠ [] → v'.system.family.children ≠ [])
    (running : v'.running ≠ some .triage ∧ v'.running ≠ some .parentReview) (acted : v'.acted = v.acted)
    (gaps : v'.gaps = v.gaps) : Onward settings v v' := by
  obtain ⟨review, room, gapRound, maxGapRounds, handedOver, met⟩ := judged
  have record : v'.record = v.record := by rw [ParentView.record, memory, ParentView.record]
  refine ⟨⟨by rw [memory]; exact w.recorded, by rw [record, acted, w.reviews], by rw [record, gaps, w.rounds],
    by rw [acted]; exact w.acted, by rw [gaps]; exact w.gaps, by rw [triage]; exact w.triage, running.1,
    stepped w.stepped, fun going => absurd going running.2, fun p owed => ?_⟩, by rw [record]; exact id⟩
  cases slot.symm.trans owed
  refine ⟨by rw [counts, acted, review], by rw [acted]; exact room, by rw [counts, verdict, gaps]; exact gapRound,
    by rw [counts]; exact maxGapRounds, by rw [record]; exact handedOver, ?_⟩
  rw [verdict]
  rintro (finished | closed)
  · rw [record] at finished
    exact met (.inl finished)
  · rcases state with same | ⟨is_met, -⟩
    · exact met (.inr (same.symm.trans closed))
    · exact is_met

/-- A verdict judged by the record: kept, dropped, or acted on and counted once. -/
theorem WithinLimits.tried {pending : PendingParentReview} {F : Call → Fate GitHubError} {attempt : Attempt}
    (w : WithinLimits settings v) (judged : Judged settings v pending)
    (tried : Tried settings.toFilingConfig pending F v.system v'.system attempt)
    (running : v'.running ≠ some .triage ∧ v'.running ≠ some .parentReview)
    (acted : v'.acted = v.acted + attempt.acts.toNat)
    (gaps : v'.gaps = v.gaps + (decide (attempt = .filed) && decide (pending.verdict.verdict = .gap)).toNat) :
    Onward settings v v' := by
  obtain ⟨review, room, gapRound, maxGapRounds, handedOver, met⟩ := id judged
  cases tried with
  | kept moved owed changed =>
    have memory : v'.memory = _ := changed.memory
    have slot : v'.memory.pending = some { pending with moved } := by rw [memory]; rfl
    exact w.kept judged slot rfl rfl (by rw [memory]; rfl) (by rw [memory]; rfl) changed.state changed.stepped running
      acted (by simpa using gaps)
  | dropped reason is_reason changed =>
    have memory : v'.memory = _ := changed.memory
    have record : v'.memory.record = v.memory.record := by
      rw [memory]
      simp only [Function.comp_apply, ParentMemory.keeps, ParentMemory.discards]
      split <;> rfl
    have triage : v'.memory.triage = v.memory.triage := by
      rw [memory]
      simp only [Function.comp_apply, ParentMemory.keeps, ParentMemory.discards]
      split <;> rfl
    have same : v'.record = v.record := by rw [ParentView.record, record, ParentView.record]
    refine w.idle (by rw [record]; exact w.recorded) (by rw [same]; exact ⟨rfl, rfl, id⟩) acted (by simpa using gaps) triage
      running ?_ changed.stepped
    rw [memory]
    rfl
  | filed owed within changed =>
    have memory : v'.memory = _ := changed.memory
    have record : v'.record = pending.record := by rw [ParentView.record, memory]; rfl
    have acted : v'.acted = v.acted + 1 := acted
    have gaps : v'.gaps = pending.counts.gapRound := by
      rw [gaps, gapRound]
      by_cases gap : pending.verdict.verdict = .gap <;> simp [gap]
    have rounds : v'.gaps ≤ settings.maxGapRounds := by
      rw [gaps]
      by_cases gap : pending.verdict.verdict = .gap
      · have := within
        simp only [PendingParentReview.pastGapLimit, gap, maxGapRounds, decide_true, Bool.true_and,
          decide_eq_false_iff_not, Nat.not_lt] at this
        exact this
      · rw [gapRound, if_neg gap]
        exact w.gaps
    refine ⟨⟨by rw [memory]; rfl, by rw [record, acted]; exact review, by rw [record, gaps]; rfl, by omega, rounds,
      by rw [memory]; exact w.triage, running.1, changed.stepped w.stepped, fun going => absurd going running.2,
      fun p slot => ?_⟩, fun watched => ?_⟩
    · rw [memory] at slot
      cases slot
    · -- a parent that was finished is finished again: only a `met` is owed on it
      rw [record] at watched
      have not_met : pending.verdict.verdict ≠ .met := by simpa [ParentRecord.watched, PendingParentReview.record] using watched
      have unfinished : v.record.finished = false := by
        by_contra finished
        exact not_met (met (.inl (by simpa using finished)))
      simp [ParentRecord.watched, handedOver, unfinished]
  | handedOver owed past note outcome title changed =>
    have memory : v'.memory = _ := changed.memory
    let handed := (v.memory.keeps none).afterHandOver outcome note
    have record : v'.record = { handed.record.getD {} with reviews := (handed.record.getD {}).reviews + 1 } := by
      rw [ParentView.record, memory]
      rfl
    obtain ⟨reviews, rounds, watched⟩ : (handed.record.getD {}).reviews = v.record.reviews ∧ _ ∧ _ := afterHandOver_record
    have acted : v'.acted = v.acted + 1 := acted
    have gaps : v'.gaps = v.gaps := by simpa using gaps
    refine ⟨⟨by rw [memory]; rfl, ?_, ?_, by omega, by rw [gaps]; exact w.gaps, ?_, running.1, changed.stepped w.stepped,
      fun going => absurd going running.2, fun p slot => ?_⟩, by rw [record]; exact watched⟩
    · rw [record, acted, ← w.reviews, ← reviews]
    · rw [record, gaps, ← w.rounds]
      exact rounds
    · rw [memory]
      exact afterHandOver_triage.trans w.triage
    · rw [memory] at slot
      have gone : handed.pending = none := afterHandOver_pending
      cases gone.symm.trans slot

/-- A step that changes nothing of the parent's. -/
theorem WithinLimits.still (w : WithinLimits settings v) (same : v'.system = v.system) (running : v'.running = v.running)
    (acted : v'.acted = v.acted) (gaps : v'.gaps = v.gaps) : Onward settings v v' := by
  have memory : v'.memory = v.memory := congrArg (fun s => s.worker.memory) same
  exact w.beside (by rw [memory]) (by rw [memory]) (by rw [memory]) (by rw [same]) (by rw [same]; exact id) (.inl running)
    acted gaps

/-- The watch starts a review of a watched parent with room for one. -/
theorem watched_onward {steps : ParentSteps} (w : WithinLimits settings v)
    (allowed : (ParentAct.watched steps).Allowed settings v) (faithful : (ParentAct.watched steps).Faithful v) :
    Onward settings v ((ParentAct.watched steps).after settings v) := by
  obtain ⟨idle, pending, -, ⟨record, is_record, watched, below⟩, due⟩ := allowed
  have same : v.record = record := by rw [ParentView.record, is_record]; rfl
  refine ⟨⟨w.recorded, w.reviews, w.rounds, w.acted, w.gaps, w.triage, nofun, w.stepped,
    fun _ => ⟨pending, ?_, same ▸ watched, ?_⟩, fun p owed => ?_⟩, id⟩
  · have counted : v.acted = record.reviews := by rw [← w.reviews, same]
    exact lt_max_of_lt_left (counted ▸ below)
  · simp only [parentReviewDue, Bool.and_eq_true, decide_eq_true_eq] at due
    exact faithful.symm.trans due.1.1.1.1
  · cases pending.symm.trans owed

/-- A review's exit judges its verdict by the record as it is. -/
theorem reviewVerdict_onward {entry : RunningEntry} {verdict : ParentReviewVerdict} {result : RunResult}
    {clocks : Clocks} {F : Call → Fate GitHubError} (w : WithinLimits settings v) (going : v.running = some .parentReview) :
    Onward settings v ((ParentAct.reviewVerdict entry verdict result clocks F).after settings v) := by
  obtain ⟨none, room, watched, opened⟩ := w.reviewing going
  let pending := exitReview settings entry verdict result v.record
  have judged : Judged settings v pending := by
    simp only [ParentRecord.watched, Bool.and_eq_true, Option.isNone_iff_eq_none, Bool.not_eq_true'] at watched
    refine ⟨by rw [← w.reviews]; rfl, room, by rw [← w.rounds]; rfl, rfl, watched.1, ?_⟩
    rintro (finished | closed)
    · cases watched.2.symm.trans finished
    · cases opened.symm.trans closed
  have tried : Tried settings.toFilingConfig pending F v.system _
      (reviewAttempt settings.toFilingConfig pending clocks F v.system) := fileParentReview_after
  rw [← ParentAct.after_reviewVerdict] at tried
  exact w.tried judged tried ⟨nofun, nofun⟩ rfl rfl

/-- A retry acts on what is owed at most once. -/
theorem retriedReview_onward {clocks : Clocks} {F : Call → Fate GitHubError} (w : WithinLimits settings v) :
    Onward settings v ((ParentAct.retriedReview clocks F).after settings v) := by
  let v' := (ParentAct.retriedReview clocks F).after settings v
  have running : ∀ pending, v.memory.pending = some pending → v'.running ≠ some .triage ∧ v'.running ≠ some .parentReview := by
    refine fun pending owed => ⟨w.running, fun going => ?_⟩
    cases (w.reviewing going).pending.symm.trans owed
  -- what the attempt adds to the counts
  have figures : ∀ pending attempt, v.memory.pending = some pending →
      reviewAttempt settings.toFilingConfig pending clocks F v.system = attempt →
      v'.acted = v.acted + attempt.acts.toNat ∧
        v'.gaps = v.gaps + (decide (attempt = .filed) && decide (pending.verdict.verdict = .gap)).toNat := by
    rintro pending _ owed rfl
    have attempt : (ParentAct.retriedReview clocks F).attempt settings v = _ :=
      ParentAct.attempt_retriedReview owed
    constructor
    · simp only [v', ParentAct.after, ParentAct.acts, attempt]
      rfl
    · simp only [v', ParentAct.after, ParentAct.filesGap, attempt]
      rfl
  cases (retryPendingReview_retried : Retried settings.toFilingConfig clocks F v.system v'.system) with
  | idle none same =>
    have nothing : (ParentAct.retriedReview clocks F).attempt settings v = .none := by
      have gone : v.memory.pending = .none := none
      simp only [ParentAct.attempt, ParentAct.tries, gone, Option.map_none]
    refine w.still same rfl ?_ ?_
    · simp only [ParentAct.after, ParentAct.acts, nothing]
      rfl
    · simp only [ParentAct.after, ParentAct.filesGap, nothing]
      rfl
  | tried pending owed ended tried =>
    obtain ⟨acted, gaps⟩ := figures pending _ owed rfl
    exact w.tried (w.owed pending owed) tried (running pending owed) acted gaps
  | counted pending owed moved kept changed =>
    obtain ⟨acted, gaps⟩ := figures pending _ owed kept
    have memory : v'.memory = _ := changed.memory
    have slot : v'.memory.pending = some { pending with moved, tries := pending.tries + 1 } := by rw [memory]; rfl
    exact w.kept (w.owed pending owed) slot rfl rfl (by rw [memory]; rfl) (by rw [memory]; rfl) changed.state
      changed.stepped (running pending owed) acted (by simpa using gaps)
  | handedBack pending owed moved kept reason wayBack outcome changed =>
    obtain ⟨acted, gaps⟩ := figures pending _ owed kept
    have memory : v'.memory = _ := changed.memory
    by_cases failed : outcome = .failed
    · simp only [failed, if_true, ParentMemory.afterHandOver] at memory
      have slot : v'.memory.pending = some { pending with moved, tries := pending.tries + 1 } := by rw [memory]; rfl
      exact w.kept (w.owed pending owed) slot rfl rfl (by rw [memory]; rfl) (by rw [memory]; rfl) changed.state
        changed.stepped (running pending owed) acted (by simpa using gaps)
    · simp only [failed, if_false, ParentMemory.afterHandOver] at memory
      have record : v'.record = { v.record with handedOver := some reason } := by rw [ParentView.record, memory]; rfl
      exact w.idle (by rw [memory]; rfl) (by rw [record]; exact ⟨rfl, rfl, fun none => by cases none⟩) acted (by simpa using gaps)
        (by rw [memory]; rfl) (running pending owed) (by rw [memory]; rfl) changed.stepped

/-- A review that failed is no verdict. -/
theorem failed_onward {entry : RunningEntry} {error : String} {clocks : Clocks} {F : Call → Fate GitHubError}
    (w : WithinLimits settings v) (allowed : (ParentAct.failed entry error clocks F).Allowed settings v) :
    Onward settings v ((ParentAct.failed entry error clocks F).after settings v) := by
  have is_review : entry.kind = .parentReview := by
    cases kind : entry.kind with
    | work => exact absurd kind allowed.2
    | triage => exact absurd (allowed.1.trans (congrArg some kind)) w.running
    | parentReview => rfl
  have reviewing := w.reviewing (allowed.1.trans (congrArg some is_review))
  have failed : Changed id False v.system ((ParentAct.failed entry error clocks F).after settings v).system ∨ _ :=
    triageFailed_after is_review
  rcases failed with changed | ⟨outcome, note, changed⟩
  · exact w.left changed (.inl rfl) (.inr (.inl rfl)) rfl rfl
  · exact w.handed changed (fun _ => rfl) (fun _ => rfl) (fun _ => rfl) reviewing.pending rfl rfl rfl

/-- Every step that resets nothing. -/
theorem WithinLimits.onward (w : WithinLimits settings v) (step : act.FaithfulStep settings v v')
    (no_reset : act.resets settings v = false) : Onward settings v v' := by
  obtain ⟨⟨allowed, rfl⟩, faithful⟩ := step
  cases act with
  | outside family => exact w.beside rfl rfl rfl faithful.1 faithful.2 (.inl rfl) rfl rfl
  | aside worker => exact w.beside allowed.triage allowed.pending allowed.record rfl id (.inl rfl) rfl rfl
  | worked => exact w.beside rfl rfl rfl rfl id (.inr (.inr rfl)) rfl rfl
  | triaged issue steps =>
    -- a parent keeps its steps, so it is not triaged again
    obtain ⟨count, listed⟩ := faithful
    refine absurd ?_ w.stepped
    rcases allowed.2.2 with none | none
    · exact List.length_eq_zero_iff.mp (count.symm.trans none)
    · simpa [Family.subIssues, pageSize] using listed.symm.trans none
  | watched steps => exact watched_onward w allowed faithful
  | requested => cases no_reset
  | waiting => cases no_reset
  | released worker => exact w.beside allowed.2.triage allowed.2.pending allowed.2.record rfl id (.inr (.inl rfl)) rfl rfl
  | failed => exact failed_onward w allowed
  | triageVerdict => exact absurd allowed w.running
  | reviewVerdict => exact reviewVerdict_onward w allowed
  | retriedVerdict clocks F =>
    refine w.still ((retryPendingVerdict_idle w.triage).after rfl) rfl ?_ ?_
    · simp only [ParentAct.after, no_reset]
      rfl
    · simp only [ParentAct.after, no_reset]
      rfl
  | retriedReview => exact retriedReview_onward w
  | handedOver issue note clocks F =>
    obtain ⟨idle, none, -⟩ := allowed
    obtain ⟨outcome, changed⟩ : ∃ outcome, Changed (ParentMemory.afterHandOver outcome _) False v.system
        ((ParentAct.handedOver issue note clocks F).after settings v).system := by
      rw [ParentAct.after_handedOver]
      exact handOverParent_after
    exact w.handed (f := id) changed (fun _ => rfl) (fun _ => rfl) (fun _ => rfl) none idle rfl rfl
  | handedBack issue title reason wayBack clocks F =>
    obtain ⟨f, beside, changed⟩ : ∃ f, (f = id ∨ f = ParentMemory.forgot) ∧ Changed f False v.system
        ((ParentAct.handedBack issue title reason wayBack clocks F).after settings v).system := by
      rw [ParentAct.after_handedBack]
      exact triageHandBack_after allowed.2
    exact w.left changed beside (.inl rfl) rfl rfl
  | finished answer =>
    obtain ⟨steps, rfl, same⟩ := faithful
    have closed : v.system.family.state = .closed := same.symm.trans (allowed.2 steps rfl)
    refine ⟨⟨rfl, w.reviews, w.rounds, w.acted, w.gaps, w.triage, w.running, w.stepped, fun going => ?_,
      fun p owed => ?_⟩, fun watched => ?_⟩
    · cases (w.reviewing going).opened.symm.trans closed
    · obtain ⟨review, room, gapRound, maxGapRounds, handedOver, met⟩ := w.owed p owed
      exact ⟨review, room, gapRound, maxGapRounds, handedOver, fun _ => met (.inr closed)⟩
    · have unwatched : ((ParentAct.finished (some steps)).after settings v).record.watched = false := by
        simp [ParentRecord.watched, ParentView.record, ParentView.memory, ParentAct.after, ParentAct.program, parentFinished_after.memory]
      cases unwatched.symm.trans watched

/-- A reset starts the counts again. -/
theorem WithinLimits.reset (w : WithinLimits settings v) (step : act.FaithfulStep settings v v')
    (reset : act.resets settings v = true) : JustReset v' := by
  obtain ⟨⟨allowed, rfl⟩, faithful⟩ := step
  cases act with
  | requested issue steps =>
    refine ⟨rfl, allowed.1.triage, allowed.1.pending, .inr ⟨rfl, ?_⟩, w.stepped, rfl, rfl⟩
    have candidate := allowed.2.2.1
    simp only [isTriageCandidate, Bool.and_eq_true, decide_eq_true_eq] at candidate
    exact faithful.symm.trans candidate.1.1
  | waiting issue steps clocks F =>
    have changed : Changed (ParentMemory.records {}) False v.system
      ((ParentAct.waiting issue steps clocks F).after settings v).system := reviewWaiting_after
    have memory : ((ParentAct.waiting issue steps clocks F).after settings v).memory = _ := changed.memory
    refine ⟨by rw [memory]; rfl, ?_, ?_, .inl allowed.1.running, changed.stepped w.stepped, rfl, rfl⟩
    · rw [memory]
      exact allowed.1.triage
    · rw [memory]
      exact allowed.1.pending
  | triageVerdict => exact absurd allowed w.running
  | retriedVerdict =>
    simp only [ParentAct.resets, w.triage, Option.any_none] at reset
    cases reset
  | _ => cases reset

/-- A step within the limits stays within them. -/
theorem WithinLimits.step (w : WithinLimits settings v) (step : act.FaithfulStep settings v v') : WithinLimits settings v' := by
  cases reset : act.resets settings v with
  | true => exact (w.reset step reset).withinLimits
  | false => exact (w.onward step reset).within

end Step

section Reset

variable {clocks : Clocks} {F : Call → Fate GitHubError}

theorem filesSplit_spec {pending : PendingVerdict} {s : System}
    (files : ParentAct.filesSplit settings pending clocks F s = true) :
    pending.verdict.verdict = .split ∧ ∃ current, (fileOwedVerdict py settings.toFilingConfig pending clocks.now F
      { s with worker := { s.worker with noted := pending.swapped } }).1 = .ok (some current) := by
  unfold ParentAct.filesSplit at files
  split at files
  next current answer => exact ⟨of_decide_eq_true files, current, answer⟩
  next => cases files

/-- What is left where a split was filed and no review of the parent is owed. -/
theorem JustReset.of_split {v' : ParentView} (changed : Changed ParentMemory.split False v.system v'.system)
    (stepped : Stepped v'.system) (none : v.memory.pending = none) (idle : v'.running = .none) (acted : v'.acted = 0)
    (gaps : v'.gaps = 0) : JustReset v' := by
  have memory : v'.memory = _ := changed.memory
  refine ⟨by rw [memory]; rfl, by rw [memory]; rfl, ?_, .inl idle, stepped, acted, gaps⟩
  rw [memory]
  exact none

/-- A triage run's verdict that is filed as a split. -/
theorem triageVerdict_resets {entry : RunningEntry} {verdict : TriageVerdict} {result : RunResult}
    (files : (ParentAct.triageVerdict entry verdict result clocks F).resets settings v = true)
    (some_draft : verdict.subIssues ≠ []) (none : v.memory.pending = none) :
    JustReset ((ParentAct.triageVerdict entry verdict result clocks F).after settings v) := by
  obtain ⟨split, filed⟩ := filesSplit_spec files
  have filing : Triple F (fun s => s = v.system)
      (fileVerdict py settings.toFilingConfig (exitVerdict entry verdict result) clocks) _ fun _ _ => False :=
    fileVerdict_split split some_draft filed
  have ended : Changed ParentMemory.split False v.system _ ∧ Stepped _ :=
    (filing.conseq (fun _ h => h) (fun _ _ h => h.2) fun _ _ never => never.elim).after rfl
  have system : ((ParentAct.triageVerdict entry verdict result clocks F).after settings v).system =
    (fileVerdict py settings.toFilingConfig (exitVerdict entry verdict result) clocks F v.system).2 := after_mapped
  rw [← system] at ended
  refine .of_split ended.1 ended.2 none rfl ?_ ?_
  · simp only [ParentAct.after, files, if_true]
    rfl
  · simp only [ParentAct.after, files, if_true]
    rfl

/-- A kept triage verdict that is filed as a split. -/
theorem retriedVerdict_resets {pending : PendingVerdict} (owed : v.memory.triage = some pending)
    (files : (ParentAct.retriedVerdict clocks F).resets settings v = true) (some_draft : pending.verdict.subIssues ≠ [])
    (none : v.memory.pending = none) (idle : v.running = .none) :
    JustReset ((ParentAct.retriedVerdict clocks F).after settings v) := by
  have once : ParentAct.filesSplit settings pending clocks F v.system = true := by
    simpa only [ParentAct.resets, owed, Option.any_some] using files
  obtain ⟨split, filed⟩ := filesSplit_spec once
  have filing : Triple F (fun s => s = v.system) (retryPendingVerdict py settings.toFilingConfig clocks)
      (fun _ s => Changed ParentMemory.split False v.system s ∧ Stepped s) fun _ _ => False := by
    unfold retryPendingVerdict
    refine Triple.bind_get ?_
    rintro _ rfl
    have slot : v.system.worker.triagePending = some pending := owed
    rw [slot]
    refine (fileVerdict_split split some_draft filed).bind fun failure => ?_
    cases failure with
    | none => exact Triple.pure fun _ h => h.2
    | some failure => exact fun _ h => nomatch h.1
  have ended : Changed ParentMemory.split False v.system
      ((ParentAct.retriedVerdict clocks F).after settings v).system ∧ Stepped _ :=
    (filing.conseq (fun _ h => h) (fun _ _ h => h) fun _ _ never => never.elim).after rfl
  refine .of_split ended.1 ended.2 none idle ?_ ?_
  · simp only [ParentAct.after, files, if_true]
    rfl
  · simp only [ParentAct.after, files, if_true]
    rfl

end Reset

section Main

theorem WithinLimits.run (run : Steps (ParentAct.FaithfulStep settings) v acts v') (w : WithinLimits settings v) :
    WithinLimits settings v' := by
  have keeps : ∀ (s : ParentView) (act : ParentAct) (s' : ParentView),
      act.FaithfulStep settings s s' → WithinLimits settings s → WithinLimits settings s' :=
    fun _ _ _ step w => w.step step
  exact Steps.invariant keeps run w

end Main

end Issuebot
