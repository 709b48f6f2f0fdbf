import Issuebot.Orchestrator.DraftFiling
import Issuebot.Orchestrator.WorkerExit

/-!
# What the programs of the triage track do to a parent's memory

The verdicts a worker owes, the hand-over note it owes and its record of the parent are written
by a few programs only. `Changed f` says what a program made of them; a `Bystander` leaves them,
and of the parent itself it takes no step away and closes it only where it may.
-/

namespace Issuebot
set_option autoImplicit false
open Logic Remote

/-- What the worker owes on a parent, and its record of it. -/
structure ParentMemory where
  triage : Option PendingVerdict
  pending : Option PendingParentReview
  handover : Option ParentHandOver
  record : Option ParentRecord
  deriving DecidableEq, Repr

def Worker.memory (w : Worker) : ParentMemory where
  triage := w.triagePending
  pending := w.parentPending
  handover := w.parentHandover
  record := w.parent

namespace ParentMemory

/-- `_forget_triage_chain` -/
def forgot (m : ParentMemory) : ParentMemory := { m with handover := none }

def owes (note : ParentHandOver) (m : ParentMemory) : ParentMemory := { m with handover := some note }

def records (record : ParentRecord) (m : ParentMemory) : ParentMemory := { m with record := some record }

/-- A parent hand-over that landed. -/
def handedOver (reason : String) (m : ParentMemory) : ParentMemory :=
  { m with handover := none, record := some { m.record.getD {} with handedOver := some reason } }

/-- A parent hand-over, by what became of its label write. -/
def afterHandOver (outcome : EscapeOutcome) (note : ParentHandOver) : ParentMemory → ParentMemory :=
  if outcome = .failed then owes note else handedOver note.reason

def keeps (pending : Option PendingParentReview) (m : ParentMemory) : ParentMemory := { m with pending }

end ParentMemory

/-- From `before` to `s` the memory became `f` of itself; the parent keeps a step, and is closed
only where it was or where `closing`. -/
structure Changed (f : ParentMemory → ParentMemory) (closing : Prop) (before s : System) : Prop where
  memory : s.worker.memory = f before.worker.memory
  state : s.family.state = before.family.state ∨ closing ∧ s.family.state = .closed
  stepped : before.family.children ≠ [] → s.family.children ≠ []

namespace Changed

variable {f g : ParentMemory → ParentMemory} {closing : Prop} {before s s' : System}

theorem refl : Changed id closing s s := ⟨rfl, .inl rfl, id⟩

theorem trans (first : Changed f closing before s) (second : Changed g closing s s') :
    Changed (g ∘ f) closing before s' := by
  obtain ⟨memory, state, stepped⟩ := second
  refine ⟨by rw [memory, first.memory]; rfl, ?_, stepped ∘ first.stepped⟩
  rcases state with same | closed
  · rw [same]
    exact first.state
  · exact .inr closed

/-- A change of the worker's own memory. -/
theorem worker (changed : Changed f closing before s) {w : Worker} (memory : w.memory = g s.worker.memory) :
    Changed (g ∘ f) closing before { s with worker := w } :=
  changed.trans ⟨memory, .inl rfl, id⟩

/-- Only what is made of this memory matters. -/
theorem congr (changed : Changed f closing before s) (same : f before.worker.memory = g before.worker.memory) :
    Changed g closing before s := ⟨changed.memory.trans same, changed.state, changed.stepped⟩

theorem mono {closing' : Prop} (changed : Changed f closing before s) (weaker : closing → closing') :
    Changed f closing' before s :=
  ⟨changed.memory, changed.state.imp_right fun closed => ⟨weaker closed.1, closed.2⟩, changed.stepped⟩

end Changed

instance (closing : Prop) : Std.Refl (Changed id closing) := ⟨fun _ => .refl⟩

instance (closing : Prop) : IsTrans System (Changed id closing) := ⟨fun _ _ _ first second => first.trans second⟩

/-- A program that leaves the memory as it is. -/
abbrev Bystander {α : Type} (closing : Prop) (x : Filing α) : Prop := Follows (Changed id closing) x

namespace Bystander

variable {α : Type} {closing : Prop} {x : Filing α} {F : Call → Fate GitHubError}
variable {f : ParentMemory → ParentMemory} {before : System}

theorem worker {change : Worker → Worker} (same : ∀ w, (change w).memory = w.memory) :
    Bystander closing (worker change) := .modify fun _ => ⟨same _, .inl rfl, id⟩

/-- What came before it still holds. -/
theorem triple (h : Bystander closing x) :
    Triple F (Changed f closing before) x (fun _ => Changed f closing before) fun _ => Changed f closing before := by
  intro s held
  have after := held.trans (h F s)
  rw [Function.id_comp] at after
  rcases run : x F s with ⟨_ | a, s'⟩ <;> simpa only [run] using after

theorem triple_total {E : GitHubError → System → Prop} (h : Bystander closing x) (total : Total x) :
    Triple F (Changed f closing before) x (fun _ => Changed f closing before) E := (triple h).total total

end Bystander

section Calls

variable {py : Py} {config : FilingConfig py} {closing : Prop}

theorem fetchIssue_bystander {call : Call} : Bystander closing (fetchIssue config call) := .ask

theorem subIssues_bystander : Bystander closing subIssues := .ask

theorem publish_bystander {event : Event} : Bystander closing (publish event) := .worker fun _ => rfl

theorem noted_bystander : Bystander closing (worker fun w => { w with noted := true }) := .worker fun _ => rfl

theorem log_bystander {line : LogLine} : Bystander closing (log line) := .worker fun _ => rfl

theorem comment_bystander {call : Call} {body : String} : Bystander closing (comment call body) :=
  .call fun _ => ⟨rfl, .inl rfl, id⟩

theorem editLabels_bystander {call : Call} {number : Nat} {add remove : List String} :
    Bystander closing (editLabels py call number add remove) := by
  refine .call fun s => ⟨rfl, .inl ?_, ?_⟩
  · dsimp only [Family.editLabels]
    split <;> rfl
  · dsimp only [Family.editLabels]
    split
    · exact id
    · simp

theorem createSubIssue_bystander {step : Nat} {title body : String} :
    Bystander closing (createSubIssue step title body) := by
  refine Follows.get.bind fun s => .ite (.call fun s => ⟨rfl, .inl rfl, fun _ => ?_⟩) .raise
  simp [Family.createSubIssue]

theorem closeAsCompleted_bystander : Bystander True closeAsCompleted := .call fun _ => ⟨rfl, .inr ⟨trivial, rfl⟩, id⟩

theorem parentSteps_bystander : Bystander closing parentSteps := by
  intro F s
  unfold parentSteps
  cases F .parentSteps <;> exact .refl

theorem scheduleTriageDiscard_bystander {clock : Datetime} : Bystander closing (scheduleTriageDiscard clock) :=
  .worker fun _ => rfl

theorem fileDrafts_bystander {parent : Nat} {seen : List Nat} {filedBy : String} {drafts : List SubIssueDraft} :
    Bystander closing (fileDrafts py config parent seen filedBy drafts) := by
  refine subIssues_bystander.bind fun _ => Follows.bind (.foldlM fun found entry => ?_) fun _ => .pure
  refine Follows.bind ?_ fun _ => (Follows.when editLabels_bystander).bind fun _ => .pure
  unfold draftChild
  split
  · exact .pure
  · exact createSubIssue_bystander.bind fun _ => .pure

theorem applyVerdict_bystander {issue : Issue} {verdict : TriageVerdict} {runId : String} {attempt turns : Nat}
    {cost : Usd} {now : Datetime} {swapped : Bool} :
    Bystander closing (applyVerdict py config issue verdict runId attempt turns cost now swapped) := by
  refine Follows.bind ?_ fun _ => editLabels_bystander.bind fun _ =>
    noted_bystander.bind fun _ => (Follows.when publish_bystander).bind fun _ => comment_bystander
  unfold fileSplit
  split
  · exact fileDrafts_bystander
  · exact .pure

/-- A review's filing closes the parent only where it was met. -/
theorem applyParentReview_bystander {issue : Issue} {verdict : ParentReviewVerdict} {seen : List Nat}
    {counts : ReviewCounts} {runId : String} {attempt turns : Nat} {cost : Usd} {now : Datetime} {moved : Bool} :
    Bystander (verdict.verdict = .met)
      (applyParentReview py config issue verdict seen counts runId attempt turns cost now moved) := by
  refine Follows.bind ?_ fun _ => comment_bystander
  unfold moveReviewed
  have steps : Bystander (verdict.verdict = .met) (fileSteps py config issue verdict seen moved) :=
    fileDrafts_bystander.bind fun _ => editLabels_bystander.bind fun _ =>
      noted_bystander.bind fun _ => (Follows.when publish_bystander).bind fun _ => .pure
  cases outcome : verdict.verdict with
  | met =>
    refine (Follows.when ?_).bind fun _ => .pure
    refine editLabels_bystander.bind fun _ => Follows.bind ?_ fun _ =>
      noted_bystander.bind fun _ => publish_bystander.bind fun _ => publish_bystander
    exact fun F s => (closeAsCompleted_bystander F s).mono fun _ => rfl
  | next =>
    rw [outcome] at steps
    exact steps
  | gap =>
    rw [outcome] at steps
    exact steps

theorem handBack_bystander {event : String} {number : Nat} {title reason wayBack : String}
    {fromLabel toLabel : Option String} {add remove : List String} {now : Datetime} {blocked : Bool} :
    Bystander closing (handBack py event number title reason wayBack fromLabel toLabel add remove now blocked) := by
  refine editLabels_bystander.attempt.bind fun result => ?_
  cases result with
  | error error => exact log_bystander.bind fun _ => .pure
  | ok _ =>
    have noted : Bystander closing (handBackNote event title reason wayBack now) := by
      refine comment_bystander.attempt.bind fun result => ?_
      cases result with
      | error error => exact log_bystander
      | ok _ => exact .pure
    exact noted.bind fun _ => (Follows.when publish_bystander).bind fun _ =>
      (Follows.when publish_bystander).bind fun _ => log_bystander.bind fun _ => .pure

theorem parentHandOver_bystander {issue : Issue} {title reason wayBack : String} {now : Datetime} {blocked : Bool} :
    Bystander closing (parentHandOver py config issue title reason wayBack now blocked) := handBack_bystander

theorem triageEscape_bystander {issue : Issue} {title reason wayBack : String} {now : Datetime} :
    Bystander closing (triageEscape py config issue title reason wayBack now) := handBack_bystander

theorem handBack_total {event : String} {number : Nat} {title reason wayBack : String}
    {fromLabel toLabel : Option String} {add remove : List String} {now : Datetime} {blocked : Bool} :
    Total (handBack py event number title reason wayBack fromLabel toLabel add remove now blocked) := by
  refine Total.attempt.bind fun result => ?_
  cases result with
  | error error => exact Total.modify.bind fun _ => .pure
  | ok _ =>
    have noted : Total (handBackNote event title reason wayBack now) := by
      refine Total.attempt.bind fun result => ?_
      cases result with
      | error error => exact .modify
      | ok _ => exact .pure
    exact noted.bind fun _ => (Total.when .modify).bind fun _ => (Total.when .modify).bind fun _ =>
      Total.modify.bind fun _ => .pure

end Calls

section HandOver

variable {py : Py} {config : FilingConfig py} {F : Call → Fate GitHubError} {E : GitHubError → System → Prop}
variable {f : ParentMemory → ParentMemory} {closing : Prop} {before : System} {issue : Issue}
variable {title reason wayBack : String} {clocks : Clocks}

/-- A step of the worker's own. -/
theorem worker_changed {change : Worker → Worker} {g : ParentMemory → ParentMemory}
    (memory : ∀ w : Worker, (change w).memory = g w.memory) :
    Triple F (Changed f closing before) (worker change) (fun _ => Changed (g ∘ f) closing before) E :=
  Triple.modify fun _ changed => changed.worker (memory _)

theorem forgetTriageChain_changed :
    Triple F (Changed f closing before) forgetTriageChain (fun _ => Changed (ParentMemory.forgot ∘ f) closing before) E :=
  worker_changed fun _ => rfl

theorem recordParent_changed {record : ParentRecord} :
    Triple F (Changed f closing before) (recordParent record)
      (fun _ => Changed (ParentMemory.records record ∘ f) closing before) E :=
  (worker_changed fun _ => rfl).bind fun _ => publish_bystander.triple_total .modify

/-- A hand-over is owed where GitHub refused it, and recorded where it landed. -/
theorem handOverParent_changed :
    Triple F (Changed f closing before) (handOverParent py config issue title reason wayBack clocks)
      (fun outcome => Changed (ParentMemory.afterHandOver outcome ⟨title, config.scrub reason, wayBack⟩ ∘ f) closing before)
      E := by
  unfold handOverParent
  refine (parentHandOver_bystander.triple_total handBack_total).bind fun outcome => ?_
  by_cases failed : outcome = .failed
  · simp only [failed, if_true, ParentMemory.afterHandOver]
    exact (worker_changed fun _ => rfl).bind fun _ => Triple.pure fun _ h => h
  · simp only [failed, if_false]
    refine Triple.bind (Q := fun _ => Changed f closing before) (Triple.modify fun s h => ?_) fun _ =>
      Triple.bind_get fun s h => ?_
    · exact ⟨h.memory, h.state, h.stepped⟩
    refine Triple.bind (recordParent_changed.before fun now same => same ▸ h) fun _ =>
      forgetTriageChain_changed.bind fun _ => Triple.pure fun now changed => changed.congr ?_
    have record : s.worker.parent = (f before.worker.memory).record := congrArg ParentMemory.record h.memory
    simp [ParentMemory.afterHandOver, ParentMemory.forgot, ParentMemory.records, ParentMemory.handedOver, record, failed]

theorem handOverParent_after :
    ∃ outcome, Changed (ParentMemory.afterHandOver outcome ⟨title, config.scrub reason, wayBack⟩) False before
      (handOverParent py config issue title reason wayBack clocks F before).2 := by
  let Ended (s : System) : Prop :=
    ∃ outcome, Changed (ParentMemory.afterHandOver outcome ⟨title, config.scrub reason, wayBack⟩) False before s
  have handOver : Triple F (Changed id False before) (handOverParent py config issue title reason wayBack clocks)
      (fun _ => Ended) fun _ => Ended :=
    handOverParent_changed.weaken (fun _ h => h) fun outcome _ h => ⟨outcome, h⟩
  exact handOver.after .refl

/-- The note to wait is no hand-over. -/
theorem reviewWaiting_after {steps : List SubIssue} :
    Changed (ParentMemory.records {}) False before (reviewWaiting py config issue clocks steps F before).2 := by
  have waiting : Triple F (Changed id False before) (reviewWaiting py config issue clocks steps)
      (fun _ => Changed (ParentMemory.records {}) False before) fun _ => Changed (ParentMemory.records {}) False before :=
    recordParent_changed.bind fun _ => (parentHandOver_bystander.triple_total handBack_total).bind fun _ =>
      Triple.pure fun _ h => h
  exact waiting.after .refl

theorem parentFinished_after :
    Changed (fun m => { m with handover := none, record := some { m.record.getD {} with finished := true } }) False before
      (parentFinished F before).2 := ⟨rfl, .inl rfl, id⟩

/-- The hand-back of an issue with no steps ends its chain where it landed. -/
theorem triageHandBack_after (no_steps : issue.subIssueCount = 0) :
    ∃ f, (f = id ∨ f = ParentMemory.forgot) ∧
      Changed f False before (triageHandBack py config issue title reason wayBack clocks F before).2 := by
  let Ended (s : System) : Prop := ∃ f, (f = id ∨ f = ParentMemory.forgot) ∧ Changed f False before s
  have back : Triple F (Changed id False before) (triageHandBack py config issue title reason wayBack clocks)
      (fun _ => Ended) fun _ => Ended := by
    unfold triageHandBack
    rw [if_neg (by omega)]
    refine (triageEscape_bystander.triple_total handBack_total).bind fun outcome => Triple.bind (Q := fun _ => Ended) ?_
      fun _ => Triple.pure fun _ h => h
    refine Triple.when (fun _ => ?_) fun _ _ h => ⟨id, .inl rfl, h⟩
    refine Triple.bind (Q := fun _ => Changed id False before) (Triple.modify fun s h => ⟨h.memory, h.state, h.stepped⟩)
      fun _ => forgetTriageChain_changed.weaken (fun _ h => h) fun _ _ h => ⟨ParentMemory.forgot, .inr rfl, h⟩
  exact back.after .refl

/-- A review that failed: one more on its chain, or a hand-over. -/
theorem triageFailed_after {entry : RunningEntry} {maxRetryBackoffMs : Nat} {error : String}
    (is_review : entry.kind = .parentReview) :
    Changed id False before (triageFailed py config entry maxRetryBackoffMs error clocks F before).2 ∨
      ∃ outcome note, Changed (ParentMemory.afterHandOver outcome note ∘ ParentMemory.forgot) False before
        (triageFailed py config entry maxRetryBackoffMs error clocks F before).2 := by
  let Ended (s : System) : Prop := Changed id False before s ∨
    ∃ outcome note, Changed (ParentMemory.afterHandOver outcome note ∘ ParentMemory.forgot) False before s
  have failed : Triple F (Changed id False before) (triageFailed py config entry maxRetryBackoffMs error clocks)
      (fun _ => Ended) fun _ => Ended := by
    unfold triageFailed
    refine Triple.bind_get fun now h => Triple.before ?_ fun _ same => same ▸ h
    refine (scheduleTriageDiscard_bystander.triple_total .modify).bind fun _ => ?_
    split
    · exact Triple.modify fun s h => .inl ⟨h.memory, h.state, h.stepped⟩
    · refine forgetTriageChain_changed.bind fun _ => ?_
      exact handOverParent_changed.bind fun outcome => Triple.pure fun _ h => .inr ⟨outcome, _, h⟩
  exact failed.after .refl

end HandOver

section Attempt

variable {py : Py} {config : FilingConfig py} {pending : PendingParentReview} {clocks : Clocks}
variable {F : Call → Fate GitHubError} {before : System}

/-- What `_parent_review_owed` drops the verdict for, by the reads as they come back. -/
def reviewDiscarded (config : FilingConfig py) (pending : PendingParentReview) (F : Call → Fate GitHubError)
    (family : Family) : Option DiscardReason :=
  let read := [family.issue py config.labels].find? fun issue => issue.number = pending.issue.number
  match F .fetchIssue, reviewDiscard py config pending read, F .parentSteps with
  | .answered, .error reason, _ => some reason
  | .answered, .ok (_, false), .answered =>
    if stepsAsSeen py family.parentSteps pending.seen pending.filing then none else some .stepsChanged
  | _, _, _ => none

/-- A parent that is closed or gone has no chain left. -/
def DiscardReason.ends (reason : DiscardReason) : Bool := reason = .closed || reason = .missing

def ParentMemory.discards (reason : DiscardReason) (m : ParentMemory) : ParentMemory :=
  if reason.ends then m.forgot else m

theorem discardReview_changed {reason : DiscardReason} {closing : Prop} {f : ParentMemory → ParentMemory}
    {E : GitHubError → System → Prop} :
    Triple F (Changed f closing before) (discardReview pending reason)
      (fun found s => found = none ∧ Changed (ParentMemory.discards reason ∘ f) closing before s) E := by
  refine Triple.bind (Q := fun _ => Changed (ParentMemory.discards reason ∘ f) closing before)
    (Triple.when (fun ends => ?_) fun stays s h => ?_) fun _ =>
    (log_bystander.triple_total .modify).bind fun _ => Triple.pure fun s h => ⟨rfl, h⟩
  · refine forgetTriageChain_changed.weaken (fun _ h => h) fun _ s h => h.congr ?_
    simp [ParentMemory.discards, DiscardReason.ends, ends]
  · refine h.congr ?_
    simp [ParentMemory.discards, DiscardReason.ends, stays]

/-- A verdict is dropped where its reads say so, and only there. -/
theorem parentReviewOwed_changed :
    Triple F (fun s => s = before) (parentReviewOwed py config pending)
      (fun found s => match reviewDiscarded config pending F before.family with
        | some reason => found = none ∧ Changed (ParentMemory.discards reason) False before s
        | none => found.isSome ∧ Changed id False before s)
      (fun _ s => reviewDiscarded config pending F before.family = none ∧ Changed id False before s) := by
  rintro s rfl
  have start : Changed id False s s := .refl
  have discarding : ∀ reason, Triple F (fun s' => s' = s) (discardReview pending reason)
      (fun found s' => found = none ∧ Changed (ParentMemory.discards reason) False s s')
      (fun _ s' => some reason = none ∧ Changed id False s s') :=
    fun reason => discardReview_changed.before fun _ same => same ▸ start
  simp only [parentReviewOwed, fetchIssue, Remote.ask, Remote.call, Bind.bind]
  cases read : F .fetchIssue with
  | refused => exact ⟨by simp [reviewDiscarded, read], start⟩
  | lost => exact ⟨by simp [reviewDiscarded, read], start⟩
  | answered =>
    dsimp only
    -- the branches of the fresh read, and the steps where they decide
    cases judged : reviewDiscard py config pending
        ([s.family.issue py config.labels].find? fun issue => issue.number = pending.issue.number) with
    | error reason =>
      have dropped : reviewDiscarded config pending F s.family = some reason := by simp only [reviewDiscarded, read, judged]
      rw [dropped]
      exact discarding reason s rfl
    | ok owed =>
      obtain ⟨current, settled⟩ := owed
      cases settled with
      | true =>
        have owed : reviewDiscarded config pending F s.family = none := by simp only [reviewDiscarded, read, judged]
        rw [owed]
        exact ⟨rfl, start⟩
      | false =>
        dsimp only [parentSteps]
        cases steps : F .parentSteps with
        | refused => exact ⟨by simp only [reviewDiscarded, read, judged, steps], start⟩
        | lost => exact ⟨by simp only [reviewDiscarded, read, judged, steps], start⟩
        | answered =>
          dsimp only
          by_cases same : stepsAsSeen py s.family.parentSteps pending.seen pending.filing
          · have owed : reviewDiscarded config pending F s.family = none := by
              simp only [reviewDiscarded, read, judged, steps, same, if_true]
            rw [owed, if_pos same]
            exact ⟨rfl, start⟩
          · have dropped : reviewDiscarded config pending F s.family = some .stepsChanged := by
              simp only [reviewDiscarded, read, judged, steps, same]
              rfl
            rw [dropped, if_neg same]
            exact discarding .stepsChanged s rfl

/-- The reads of an attempt, and the filing where they leave the verdict owed. -/
theorem fileOwedReview_changed {now : Datetime} :
    Triple F (fun s => s = before) (fileOwedReview py config pending now)
      (fun found s => match reviewDiscarded config pending F before.family with
        | some reason => found = none ∧ Changed (ParentMemory.discards reason) (pending.verdict.verdict = .met) before s
        | none => found.isSome ∧ Changed id (pending.verdict.verdict = .met) before s)
      (fun _ s => reviewDiscarded config pending F before.family = none ∧
        Changed id (pending.verdict.verdict = .met) before s) := by
  unfold fileOwedReview
  refine (parentReviewOwed_changed.conseq (fun _ h => h) (fun _ _ h => h) fun _ s h => ⟨h.1, h.2.mono False.elim⟩).bind
    fun found => ?_
  cases dropped : reviewDiscarded config pending F before.family with
  | some reason =>
    rintro s ⟨rfl, changed⟩
    exact ⟨rfl, changed.mono False.elim⟩
  | none =>
    cases found with
    | none =>
      rintro s ⟨missing, -⟩
      cases missing
    | some current =>
      refine Triple.bind (Q := fun _ => Changed id (pending.verdict.verdict = .met) before)
        (Triple.when (fun _ => ?_) fun _ s h => h.2.mono False.elim) fun _ => Triple.pure fun s h => ⟨rfl, h⟩
      refine Triple.bind (Q := fun _ => Changed id (pending.verdict.verdict = .met) before)
        (Triple.modify fun s h => (h.2.mono False.elim).worker (g := id) rfl) fun _ => ?_
      exact applyParentReview_bystander.triple.conseq (fun _ h => h) (fun _ _ h => h) fun _ s h => ⟨rfl, h⟩

/-- What an attempt to file a review's verdict came to. -/
inductive Attempt where
  /-- GitHub's error; `moved` is whether the move had landed. -/
  | kept (moved : Bool)
  | dropped
  | filed
  /-- Past the gap limit. -/
  | handedOver
  deriving DecidableEq, Repr

/-- The worker acted on the verdict. -/
def Attempt.acts : Attempt → Bool
  | filed | handedOver => true
  | _ => false

def reviewAttempt (config : FilingConfig py) (pending : PendingParentReview) (clocks : Clocks)
    (F : Call → Fate GitHubError) (s : System) : Attempt :=
  match fileOwedReview py config pending clocks.now F { s with worker := { s.worker with noted := pending.moved } } with
  | (.error _, s') => .kept s'.worker.noted
  | (.ok none, _) => .dropped
  | (.ok (some _), _) => if pending.pastGapLimit then .handedOver else .filed

/-- The record a filed review leaves. -/
def PendingParentReview.record (pending : PendingParentReview) : ParentRecord where
  reviews := pending.counts.review
  gapRounds := pending.counts.gapRound
  finished := decide (pending.verdict.verdict = .met)

/-- One more review in the record as it is. -/
def ParentMemory.counted (m : ParentMemory) : ParentMemory :=
  let record := m.record.getD {}
  { m with record := some { record with reviews := record.reviews + 1 } }

/-- What an attempt makes of the memory. -/
inductive Tried (config : FilingConfig py) (pending : PendingParentReview) (F : Call → Fate GitHubError)
    (before s : System) : Attempt → Prop where
  | kept (moved : Bool) (owed : reviewDiscarded config pending F before.family = none)
      (changed : Changed (ParentMemory.keeps (some { pending with moved })) (pending.verdict.verdict = .met) before s) :
      Tried config pending F before s (.kept moved)
  | dropped (reason : DiscardReason) (is_reason : reviewDiscarded config pending F before.family = some reason)
      (changed : Changed (ParentMemory.keeps none ∘ ParentMemory.discards reason) (pending.verdict.verdict = .met) before s) :
      Tried config pending F before s .dropped
  | filed (owed : reviewDiscarded config pending F before.family = none) (within : pending.pastGapLimit = false)
      (changed : Changed (ParentMemory.forgot ∘ ParentMemory.records pending.record ∘ ParentMemory.keeps none)
        (pending.verdict.verdict = .met) before s) : Tried config pending F before s .filed
  | handedOver (owed : reviewDiscarded config pending F before.family = none) (past : pending.pastGapLimit = true)
      (note : ParentHandOver) (outcome : EscapeOutcome) (title : note.title = "parent review gap limit")
      (changed : Changed (ParentMemory.counted ∘ ParentMemory.afterHandOver outcome note ∘ ParentMemory.keeps none)
        (pending.verdict.verdict = .met) before s) : Tried config pending F before s .handedOver

theorem handOverAtGapLimit_changed {issue : Issue} {f : ParentMemory → ParentMemory} {closing : Prop}
    {E : GitHubError → System → Prop} :
    Triple F (Changed f closing before) (handOverAtGapLimit py config issue pending clocks)
      (fun _ s => ∃ note outcome, note.title = "parent review gap limit" ∧
        Changed (ParentMemory.counted ∘ ParentMemory.afterHandOver outcome note ∘ f) closing before s) E := by
  have counting : ∀ (note : ParentHandOver) (outcome : EscapeOutcome) (s : System),
      Changed (ParentMemory.afterHandOver outcome note ∘ f) closing before s →
      Triple F (fun now => now = s)
        (recordParent { s.worker.parent.getD {} with reviews := (s.worker.parent.getD {}).reviews + 1 })
        (fun _ => Changed (ParentMemory.counted ∘ ParentMemory.afterHandOver outcome note ∘ f) closing before) E := by
    intro note outcome s changed
    have record : s.worker.parent = _ := congrArg ParentMemory.record changed.memory
    refine (recordParent_changed.before fun now same => same ▸ changed).weaken (fun _ h => h) fun _ now after =>
      after.congr ?_
    rw [record]
    rfl
  unfold handOverAtGapLimit
  refine handOverParent_changed.bind fun outcome => Triple.bind_get fun s changed => ?_
  exact (counting _ outcome s changed).weaken (fun _ h => h) fun _ now after => ⟨_, outcome, rfl, after⟩

/-- `_file_parent_review`, by what the attempt came to; its error says the verdict is kept. -/
theorem fileParentReview_tried {E : GitHubError → System → Prop} :
    Triple F (fun s => s = before) (fileParentReview py config pending clocks)
      (fun failure s => Tried config pending F before s (reviewAttempt config pending clocks F before) ∧
        (failure = none ↔ ∀ moved, reviewAttempt config pending clocks F before ≠ .kept moved)) E := by
  let start : System := { before with worker := { before.worker with noted := pending.moved } }
  let met : Prop := pending.verdict.verdict = .met
  have noted : Changed id met before start := ⟨rfl, .inl rfl, id⟩
  have filing : Triple F (fun s => s = start) (fileOwedReview py config pending clocks.now) _ _ := fileOwedReview_changed
  have tried := filing start rfl
  unfold fileParentReview
  refine Triple.bind (Q := fun _ s => s = start) (Triple.modify fun s same => same ▸ rfl) fun _ => ?_
  refine Triple.bind (Q := fun result s => fileOwedReview py config pending clocks.now F start = (result, s))
    (Triple.attempt .run) fun result => Triple.of_each fun s run => ?_
  rw [run] at tried
  cases result with
  | error error =>
    have attempt : reviewAttempt config pending clocks F before = .kept s.worker.noted := by
      simp only [reviewAttempt]
      rw [run]
    rw [attempt]
    refine Triple.bind (Q := fun _ now => Changed id met before now ∧ now.worker.noted = s.worker.noted)
      (Triple.modify fun now same => ?_) fun _ => ?_
    · subst same
      exact ⟨(noted.trans tried.2).worker (g := id) rfl, rfl⟩
    · refine Triple.bind (Triple.modify fun now held => ?_) fun _ => Triple.pure fun now tried => ⟨tried, by simp⟩
      refine .kept _ tried.1 (held.1.worker (g := ParentMemory.keeps (some { pending with moved := s.worker.noted })) ?_)
      simp only [Worker.memory, ParentMemory.keeps, held.2]
  | ok current =>
    cases dropped : reviewDiscarded config pending F start.family with
    | some reason =>
      rw [dropped] at tried
      obtain ⟨rfl, changed⟩ := tried
      have attempt : reviewAttempt config pending clocks F before = .dropped := by
        simp only [reviewAttempt]
        rw [run]
      rw [attempt]
      refine (worker_changed (g := ParentMemory.keeps none) fun _ => rfl).before
        (fun now same => same ▸ noted.trans changed) |>.bind fun _ => ?_
      exact (scheduleTriageDiscard_bystander.triple_total .modify).bind fun _ => Triple.pure fun now after =>
        ⟨.dropped reason dropped after, by simp⟩
    | none =>
      rw [dropped] at tried
      obtain ⟨is_some, changed⟩ := tried
      obtain ⟨current, rfl⟩ := Option.isSome_iff_exists.mp is_some
      refine (worker_changed (g := ParentMemory.keeps none) fun _ => rfl).before
        (fun now same => same ▸ noted.trans changed) |>.bind fun _ => ?_
      refine (scheduleTriageDiscard_bystander.triple_total .modify).bind fun _ => ?_
      have attempt : reviewAttempt config pending clocks F before =
          if pending.pastGapLimit then .handedOver else .filed := by
        simp only [reviewAttempt]
        rw [run]
      rw [attempt]
      by_cases past : pending.pastGapLimit
      · simp only [past, if_true]
        refine handOverAtGapLimit_changed.bind fun _ => Triple.pure fun now after => ?_
        obtain ⟨note, outcome, title, after⟩ := after
        exact ⟨.handedOver dropped past note outcome title after, by simp⟩
      · simp only [past]
        refine Triple.bind ?_ fun _ => Triple.pure fun now after => ⟨.filed dropped (by simpa using past) after, by simp⟩
        exact recordParent_changed.bind fun _ => forgetTriageChain_changed.bind fun _ => log_bystander.triple_total .modify

theorem fileParentReview_after :
    Tried config pending F before (fileParentReview py config pending clocks F before).2
      (reviewAttempt config pending clocks F before) := by
  have tried : Triple F (fun s => s = before) (fileParentReview py config pending clocks) _ fun _ _ => False :=
    fileParentReview_tried
  exact (tried.conseq (fun _ h => h) (fun _ _ h => h.1) fun _ _ never => never.elim).after rfl

/-- A verdict that is kept was not dropped. -/
theorem reviewDiscarded_of_kept {moved : Bool} (kept : reviewAttempt config pending clocks F before = .kept moved) :
    reviewDiscarded config pending F before.family = none := by
  have tried : Tried config pending F before _ (reviewAttempt config pending clocks F before) := fileParentReview_after
  rw [kept] at tried
  cases tried with
  | kept _ owed => exact owed

/-- The title of the hand-over of a review whose retries are spent. -/
def notFiledTitle : String := "parent review not filed"

/-- What a retry makes of the memory, by the attempt and what is done about one that failed. -/
inductive Retried (config : FilingConfig py) (clocks : Clocks) (F : Call → Fate GitHubError) (before s : System) : Prop where
  | idle (none : before.worker.parentPending = none) (same : s = before)
  | tried (pending : PendingParentReview) (is_pending : before.worker.parentPending = some pending)
      (ended : ∀ moved, reviewAttempt config pending clocks F before ≠ .kept moved)
      (tried : Tried config pending F before s (reviewAttempt config pending clocks F before))
  | counted (pending : PendingParentReview) (is_pending : before.worker.parentPending = some pending) (moved : Bool)
      (kept : reviewAttempt config pending clocks F before = .kept moved)
      (changed : Changed (ParentMemory.keeps (some { pending with moved, tries := pending.tries + 1 }))
        (pending.verdict.verdict = .met) before s)
  | handedBack (pending : PendingParentReview) (is_pending : before.worker.parentPending = some pending) (moved : Bool)
      (kept : reviewAttempt config pending clocks F before = .kept moved) (reason wayBack : String)
      (outcome : EscapeOutcome)
      (changed : Changed ((if outcome = .failed then id else ParentMemory.keeps none) ∘
        ParentMemory.afterHandOver outcome ⟨notFiledTitle, reason, wayBack⟩ ∘
        ParentMemory.keeps (some { pending with moved, tries := pending.tries + 1 }))
        (pending.verdict.verdict = .met) before s)

theorem handBackReview_changed {failure : GitHubError} {f : ParentMemory → ParentMemory} {closing : Prop}
    {E : GitHubError → System → Prop} :
    Triple F (Changed f closing before) (handBackReview py config pending failure clocks)
      (fun _ s => ∃ reason wayBack outcome, Changed ((if outcome = .failed then id else ParentMemory.keeps none) ∘
        ParentMemory.afterHandOver outcome ⟨notFiledTitle, reason, wayBack⟩ ∘ f) closing before s) E := by
  unfold handBackReview
  refine handOverParent_changed.bind fun outcome => ?_
  have given : ∀ (c : Bool) (note : ParentHandOver), note.title = notFiledTitle → c = decide (outcome ≠ .failed) →
      Triple F (Changed (ParentMemory.afterHandOver outcome note ∘ f) closing before)
        (.when c do
          worker fun w => { w with parentPending := none }
          scheduleTriageDiscard clocks.clock)
        (fun _ s => ∃ reason wayBack outcome, Changed ((if outcome = .failed then id else ParentMemory.keeps none) ∘
          ParentMemory.afterHandOver outcome ⟨notFiledTitle, reason, wayBack⟩ ∘ f) closing before s) E := by
    rintro c ⟨title, reason, wayBack⟩ rfl is_c
    refine Triple.when (fun yes => ?_) fun no s h => ⟨reason, wayBack, outcome, ?_⟩
    · have landed : ¬ outcome = .failed := by simpa [is_c] using yes
      refine Triple.bind (worker_changed (g := ParentMemory.keeps none) fun _ => rfl) fun _ =>
        (scheduleTriageDiscard_bystander.triple_total .modify).weaken (fun _ h => h) fun _ s h =>
          ⟨reason, wayBack, outcome, ?_⟩
      simpa only [landed, if_false] using h
    · have failed : outcome = .failed := by simpa [is_c] using no
      simpa only [failed, if_true, Function.id_comp] using h
  exact given _ _ rfl rfl

/-- One pass of the tick over a review's entry. -/
theorem retryPendingReview_retried :
    Retried config clocks F before (retryPendingReview py config clocks F before).2 := by
  suffices h : Triple F (fun s => s = before) (retryPendingReview py config clocks)
      (fun _ => Retried config clocks F before) (fun _ => Retried config clocks F before) from h.after rfl
  unfold retryPendingReview
  refine Triple.bind_get ?_
  rintro s rfl
  cases is_pending : s.worker.parentPending with
  | none => exact Triple.pure fun now same => .idle is_pending same
  | some pending =>
    refine fileParentReview_tried.bind fun failure => ?_
    cases failure with
    | none => exact Triple.pure fun now held => .tried pending is_pending (held.2.mp rfl) held.1
    | some failure =>
      refine Triple.bind_get fun now held => ?_
      obtain ⟨tried, ended⟩ := held
      obtain ⟨moved, kept⟩ : ∃ moved, reviewAttempt config pending clocks F s = .kept moved := by
        by_contra none
        simp only [not_exists] at none
        cases ended.mpr none
      rw [kept] at tried
      cases tried with
      | kept moved owed changed =>
      have slot : now.worker.parentPending = some { pending with moved } := congrArg ParentMemory.pending changed.memory
      rw [slot]
      let count := ParentMemory.keeps (some { pending with moved, tries := pending.tries + 1 })
      refine Triple.bind (Q := fun _ => Changed count (pending.verdict.verdict = .met) s) (Triple.modify fun s' same => ?_)
        fun _ => Triple.when (fun _ => ?_) fun _ s' h => .counted pending is_pending moved kept h
      · subst same
        exact changed.worker (g := count) rfl
      refine handBackReview_changed.weaken (fun _ h => h) fun _ s' h => ?_
      obtain ⟨reason, wayBack, outcome, h⟩ := h
      exact .handedBack pending is_pending moved kept reason wayBack outcome h

end Attempt
section Split

variable {py : Py} {config : FilingConfig py} {F : Call → Fate GitHubError} {pending : PendingVerdict} {clocks : Clocks}
variable {before : System}

/-- The parent has a step. -/
def Stepped (s : System) : Prop := s.family.children ≠ []

theorem Bystander.stepped {α : Type} {x : Filing α} (h : Bystander False x) :
    Triple F Stepped x (fun _ => Stepped) fun _ => Stepped := by
  intro s stepped
  have after := (h F s).stepped stepped
  rcases run : x F s with ⟨_ | _, s'⟩ <;> (rw [run] at after; exact after)

/-- A draft that was filed is a step. -/
theorem draftChild_stepped {parent step steps : Nat} {filedBy : String} {existing : String → Option SubIssue}
    {draft : SubIssueDraft} {P : System → Prop} (known : ∀ key child s, existing key = some child → P s → Stepped s) :
    Triple F P (draftChild py config parent step steps filedBy existing draft) (fun _ => Stepped) fun _ _ => True := by
  unfold draftChild
  split
  next child found => exact Triple.pure fun s h => known _ child s found h
  next missing =>
    refine Triple.bind (Q := fun _ => Stepped) ?_ fun _ => Triple.pure fun _ h => h
    unfold createSubIssue
    refine Triple.bind_get fun now _ => ?_
    split
    · exact Triple.call (fun s _ => by simp [Stepped, Family.createSubIssue]) (fun _ _ _ => trivial) fun _ _ _ _ => trivial
    · exact Triple.raise fun _ _ => trivial

theorem fileDrafts_stepped {parent : Nat} {seen : List Nat} {filedBy : String} {drafts : List SubIssueDraft}
    (some_draft : drafts ≠ []) {P : System → Prop} :
    Triple F P (fileDrafts py config parent seen filedBy drafts) (fun _ => Stepped) fun _ _ => True := by
  unfold fileDrafts subIssues
  refine Triple.bind (Q := fun children s => children ≠ [] → Stepped s) (Triple.ask (fun s _ => ?_) fun _ _ _ => trivial)
    fun children => ?_
  · simp [Stepped, Family.subIssues, pageSize]
  -- before the first draft a known child is one that was read, and after it there is a step
  refine Triple.bind (Q := fun _ => Stepped) (Triple.conseq (Triple.foldlM (E := fun _ _ => True)
    (I := fun done found s => (done = [] → ∀ key child, found.1 key = some child → Stepped s) ∧ (done ≠ [] → Stepped s)) ?_)
    (fun s read => ⟨fun _ key child found => ?_, absurd rfl⟩) (fun _ s h => h.2 (by simpa using some_draft)) fun _ _ _ => trivial)
    fun _ => Triple.pure fun _ h => h
  · intro done entry rest found _
    unfold fileDraft
    refine (draftChild_stepped fun key child s is_child h => ?_).bind fun child => ?_
    · by_cases first : done = []
      · exact h.1 first key child is_child
      · exact h.2 first
    · refine Triple.bind ((Bystander.stepped (Follows.when editLabels_bystander)).conseq (fun _ h => h) (fun _ _ h => h)
        fun _ _ _ => trivial) fun _ => Triple.pure fun s h => ⟨by simp, fun _ => h⟩
  · have mem := (childrenByKey_found found).1
    exact read (List.ne_nil_of_mem (List.mem_of_mem_filter mem))

/-- What a filed split leaves of the memory. -/
def ParentMemory.split (m : ParentMemory) : ParentMemory :=
  { m with triage := none, handover := none, record := some {} }

theorem fileOwedVerdict_stepped {now : Datetime} (split : pending.verdict.verdict = .split)
    (some_draft : pending.verdict.subIssues ≠ []) :
    Triple F (Changed id False before) (fileOwedVerdict py config pending now)
      (fun found s => found.isSome → Changed id False before s ∧ Stepped s) fun _ _ => True := by
  have owed : Triple F (Changed id False before) (verdictOwed py config pending)
      (fun found s => found.isSome → Changed id False before s) fun _ _ => True := by
    unfold verdictOwed
    refine Triple.bind (Triple.conseq fetchIssue_bystander.triple (fun _ h => h) (fun _ _ h => h) fun _ _ _ => trivial)
      fun found => ?_
    split
    · exact Triple.pure fun _ h _ => h
    · refine Triple.bind (Q := fun _ _ => True) ?_ fun _ => Triple.bind (Q := fun _ _ => True) ?_ fun _ => Triple.pure fun _ _ => nofun
      · exact Triple.when (fun _ => Triple.modify fun _ _ => trivial) fun _ _ _ => trivial
      · exact Triple.modify fun _ _ => trivial
  refine owed.bind fun found => ?_
  cases found with
  | none => exact Triple.pure fun _ _ => nofun
  | some current =>
    refine Triple.bind (Q := fun _ s => Changed id False before s ∧ Stepped s) ?_ fun _ => Triple.pure fun _ h _ => h
    have stepped : Triple F (fun _ => True) (applyVerdict py config current pending.verdict pending.runId pending.attempt
        pending.turns pending.cost now pending.swapped) (fun _ => Stepped) fun _ _ => True := by
      unfold applyVerdict fileSplit
      rw [split]
      refine (fileDrafts_stepped some_draft).bind fun _ => Triple.conseq (Bystander.stepped ?_) (fun _ h => h)
        (fun _ _ h => h) fun _ _ _ => trivial
      exact editLabels_bystander.bind fun _ => noted_bystander.bind fun _ =>
        (Follows.when publish_bystander).bind fun _ => comment_bystander
    exact (applyVerdict_bystander.triple.and stepped).conseq (fun _ h => ⟨h rfl, trivial⟩) (fun _ _ h => h)
      fun _ _ _ => trivial

/-- A filed split: its parent has steps, and a new record. -/
theorem fileVerdict_split (split : pending.verdict.verdict = .split) (some_draft : pending.verdict.subIssues ≠ [])
    (filed : ∃ current, (fileOwedVerdict py config pending clocks.now F
      { before with worker := { before.worker with noted := pending.swapped } }).1 = .ok (some current))
    {E : GitHubError → System → Prop} :
    Triple F (fun s => s = before) (fileVerdict py config pending clocks)
      (fun failure s => failure = none ∧ Changed ParentMemory.split False before s ∧ Stepped s) E := by
  let start : System := { before with worker := { before.worker with noted := pending.swapped } }
  have noted : Changed id False before start := ⟨rfl, .inl rfl, id⟩
  obtain ⟨current, filed⟩ := filed
  let Along (g : ParentMemory → ParentMemory) (s : System) : Prop := Changed g False before s ∧ Stepped s
  have along : ∀ (f g : ParentMemory → ParentMemory) (change : Worker → Worker),
      (∀ w : Worker, (change w).memory = g w.memory) →
      Triple F (Along f) (worker change) (fun _ => Along (g ∘ f)) E :=
    fun f g change same => Triple.modify fun s h => ⟨h.1.worker (same _), h.2⟩
  let untriaged : ParentMemory → ParentMemory := fun m => { m with triage := none }
  unfold fileVerdict
  refine Triple.bind (Q := fun _ s => s = start) (Triple.modify fun s same => same ▸ rfl) fun _ => ?_
  refine Triple.bind (Q := fun result s => fileOwedVerdict py config pending clocks.now F start = (result, s))
    (Triple.attempt .run) fun result => Triple.of_each fun s run => ?_
  have answer : result = .ok (some current) := by
    rw [run] at filed
    exact filed
  subst answer
  have owed : Triple F (Changed id False before) (fileOwedVerdict py config pending clocks.now)
      (fun found s => found.isSome → Changed id False before s ∧ Stepped s) fun _ _ => True :=
    fileOwedVerdict_stepped split some_draft
  have after := owed start noted
  rw [run] at after
  have filed : Along id s := after rfl
  refine Triple.bind ((along id untriaged _ fun _ => rfl).before fun s' same => same ▸ filed) fun _ => ?_
  refine Triple.bind (along _ id _ fun _ => rfl) fun _ => ?_
  refine Triple.bind (Q := fun _ => Along ParentMemory.split) ?_ fun _ => Triple.pure fun _ h => ⟨rfl, h⟩
  refine Triple.bind (along _ ParentMemory.forgot _ fun _ => rfl) fun _ => ?_
  refine Triple.bind (Q := fun _ => Along (ParentMemory.forgot ∘ untriaged)) (Triple.get fun _ h => h) fun s' => ?_
  rw [split]
  refine Triple.bind (Triple.bind (along _ (ParentMemory.records {}) _ fun _ => rfl) fun _ => along _ id _ fun _ => rfl)
    fun _ => ?_
  exact Triple.weaken (along _ id _ fun _ => rfl) (fun _ h => h) fun _ _ h => h

end Split

end Issuebot
