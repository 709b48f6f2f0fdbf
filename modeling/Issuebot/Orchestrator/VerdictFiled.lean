import Issuebot.Logic.Runs
import Issuebot.Orchestrator.DraftFiling
import Issuebot.Orchestrator.HandBack

/-!
# A triage verdict over all its attempts

`Unfiled` is what the parent keeps while its verdict is owed, after any prefix of any number
of attempts. It is what `_verdict_owed` accepts (`verdictOwed_spec`), each write of
`apply_verdict` keeps it (`applyVerdict_spec`), and so does the whole of an attempt and of
its hand-back.

The one write it is not kept by is the first label swap where GitHub refuses it after having
made it: `triage_todo` is gone and the entry does not know that the swap landed.
-/

namespace Issuebot
set_option autoImplicit false
open Logic Remote

variable {py : Py} {config : FilingConfig py} {pending : PendingVerdict} {start : Family}
variable {F : Call → Fate GitHubError} {n : Nat}

/-- The steps a verdict files. -/
def TriageVerdict.drafts (verdict : TriageVerdict) : List SubIssueDraft :=
  match verdict.verdict with
  | .split => verdict.subIssues
  | .fits => []

/-- The parent after the label swap. -/
def Swapped (config : FilingConfig py) (family : Family) : Prop :=
  py.lower config.labels.triageComplete ∈ family.labels ∧ py.lower config.labels.triageTodo ∉ family.labels

/-- The parent while its verdict is owed, `swapped` being what the worker knows of the swap. -/
structure Unfiled (config : FilingConfig py) (drafts : List SubIssueDraft) (start : Family) (swapped : Bool)
    (family : Family) : Prop extends Underway config [] drafts start family where
  opened : family.state = .opened
  noState : ∀ name ∈ config.labels.asTuple, py.lower name ∉ family.labels
  todo : swapped = false → py.lower config.labels.triageTodo ∈ family.labels
  swap : swapped = true → Swapped config family

/-- What a filed verdict leaves: its steps, the swap, and the one comment after every other
write. -/
structure VerdictFiled (config : FilingConfig py) (pending : PendingVerdict) (start family : Family) : Prop where
  steps : FiledOnce config [] pending.verdict.drafts start family
  swap : Swapped config family
  comments : ∃ filed now, family.comments = start.comments ++
    [verdictComment py pending.verdict filed pending.runId pending.attempt pending.turns pending.cost
      config.labels now]
  last : family.writes.getLast? = some .commented

section Swap

variable {drafts : List SubIssueDraft} {family : Family} {swapped : Bool}

/-- Made once or again, the swap leaves the same labels. -/
theorem Swapped.of_swap {add : List String} (mem : config.labels.triageComplete ∈ add)
    (not_mem : py.lower config.labels.triageTodo ∉ add.map py.lower) :
    Swapped config (family.editLabels py family.base.number add [config.labels.triageTodo]) := by
  rw [Family.editLabels_parent]
  constructor
  · exact mem_editedLabels.mpr (.inl (List.mem_map_of_mem mem))
  · intro mem
    rcases mem_editedLabels.mp mem with added | ⟨-, kept⟩
    · exact not_mem added
    · exact kept (by simp)

theorem Unfiled.swapLabels (h : Unfiled config drafts start swapped family) :
    Unfiled config drafts start true (family.editLabels py family.base.number [config.labels.triageComplete]
      [config.labels.triageTodo]) := by
  refine ⟨h.toUnderway.editLabels, ?_, ?_, nofun, fun _ => .of_swap (by simp) ?_⟩
  · rw [Family.editLabels_parent]
    exact h.opened
  · rw [Family.editLabels_parent]
    intro name is_state mem
    rcases mem_editedLabels.mp mem with added | ⟨kept, -⟩
    · exact (config.labels.state_ne_triage is_state).2 (by simpa using added)
    · exact h.noState name is_state kept
  · simpa using config.labels.triageTodo_ne

/-- Filing steps leaves the rest of the parent as it was. -/
theorem Unfiled.stopped {before s : System} (h : Unfiled config drafts start swapped before.family)
    (stopped : Stopped config [] drafts before s) : Unfiled config drafts start swapped s.family := by
  obtain ⟨filable, grew⟩ := stopped
  refine ⟨h.toUnderway.stopped filable grew, grew.state.trans h.opened, ?_, ?_, ?_⟩
  · rw [grew.labels]
    exact h.noState
  · rw [grew.labels]
    exact h.todo
  · intro known
    have := h.swap known
    rwa [Swapped, ← grew.labels] at this

/-- An unfiled verdict's parent is a triage candidate until the swap. -/
theorem Unfiled.candidate (h : Unfiled config drafts start false family) :
    isTriageCandidate py (family.issue py config.labels) config.labels = true := by
  have none_on := Family.stateLabels_eq_nil py h.noState
  have opened : (family.issue py config.labels).githubState = .opened := h.opened
  have todo : py.lower config.labels.triageTodo ∈ (family.issue py config.labels).labels := h.todo rfl
  simp [isTriageCandidate, none_on, opened, todo]

end Swap

section Attempt

variable {swapped : Bool}

/-- Wherever an attempt stops, the verdict stays unfiled. -/
def Interrupted (config : FilingConfig py) (pending : PendingVerdict) (start : Family) (n : Nat) (s : System) :
    Prop :=
  Unfiled config pending.verdict.drafts start s.worker.noted s.family ∧ Tally [] n s.worker

/-- The verdict's own filing never makes it owed no longer. -/
theorem verdictOwed_spec (same : pending.issue.number = start.base.number) :
    Triple F (fun s => Interrupted config pending start n s ∧ s.worker.noted = pending.swapped)
      (verdictOwed py config pending)
      (fun found s => Interrupted config pending start n s ∧ s.worker.noted = pending.swapped ∧
        ∃ current, found = some current ∧ current.number = start.base.number)
      (fun _ s => Interrupted config pending start n s) := by
  unfold verdictOwed fetchIssue
  refine Triple.bind (Q := fun found s => found = [s.family.issue py config.labels] ∧
    Interrupted config pending start n s ∧ s.worker.noted = pending.swapped)
    (Triple.ask (fun s h => ⟨rfl, h⟩) fun e s h => h.1) fun found => ?_
  refine Triple.of_each ?_
  rintro before ⟨rfl, interrupted, known⟩
  have unfiled := interrupted.1
  have is_this : (before.family.issue py config.labels).number = pending.issue.number :=
    (congrArg Issue.number unfiled.base).trans same.symm
  have owed : verdictDiscard py config pending (some (before.family.issue py config.labels)) =
      .ok (before.family.issue py config.labels) := by
    have opened : (before.family.issue py config.labels).githubState = .opened := unfiled.opened
    rw [known] at unfiled
    cases swapped : pending.swapped with
    | false =>
      rw [swapped] at unfiled
      simp [verdictDiscard, unfiled.candidate]
    | true => simp [verdictDiscard, opened, swapped]
  rw [List.find?_cons_of_pos (by simpa using is_this), owed]
  refine Triple.pure ?_
  rintro s rfl
  exact ⟨interrupted, known, _, rfl, is_this.trans same⟩

/-- The steps of a split, or nothing. -/
theorem fileSplit_spec {issue : Issue} :
    Triple F (fun s => Interrupted config pending start n s ∧ s.worker.noted = pending.swapped)
      (fileSplit py config issue pending.verdict)
      (fun _ s => (Interrupted config pending start n s ∧ s.worker.noted = pending.swapped) ∧
        ∀ d ∈ pending.verdict.drafts, Filed config [] s.family d)
      (fun _ => Interrupted config pending start n) := by
  refine Triple.of_each fun before ⟨interrupted, known⟩ => ?_
  have stopping : ∀ s, Stopped config [] pending.verdict.drafts before s →
      Interrupted config pending start n s ∧ s.worker.noted = pending.swapped := by
    intro s stopped
    obtain ⟨unfiled, tally⟩ := interrupted
    rw [← stopped.2.worker] at unfiled tally known
    exact ⟨⟨unfiled.stopped stopped, tally⟩, known⟩
  unfold fileSplit
  split
  next split =>
    have drafts : pending.verdict.drafts = pending.verdict.subIssues := by
      simp only [TriageVerdict.drafts, split]
    rw [drafts] at stopping ⊢
    refine Triple.conseq (fileDrafts_spec (drafts ▸ interrupted.1.filable)) (fun s h => h) ?_
      fun e s h => (stopping s h).1
    exact fun filed s h => ⟨stopping s h.1, h.2⟩
  next fits =>
    refine Triple.pure fun s same => ⟨same ▸ ⟨interrupted, known⟩, ?_⟩
    simp only [TriageVerdict.drafts, fits]
    simp

/-- An attempt's writes: they come to their end, or leave the verdict unfiled. -/
theorem applyVerdict_spec {issue : Issue} {now : Datetime} (is_parent : issue.number = start.base.number)
    (commented : ¬ (F .comment).isLost) (swap_told : pending.swapped = false → ¬ (F .move).isLost)
    (distinct : (pending.verdict.drafts.map fun d => titleKey py d.title).Nodup) :
    Triple F (fun s => Interrupted config pending start n s ∧ s.worker.noted = pending.swapped)
      (applyVerdict py config issue pending.verdict pending.runId pending.attempt pending.turns pending.cost now
        pending.swapped)
      (fun _ s => VerdictFiled config pending start s.family ∧ Tally [] n s.worker)
      (fun _ => Interrupted config pending start n) := by
  unfold applyVerdict editLabels comment
  refine fileSplit_spec.bind fun filed => ?_
  -- the parent with its labels swapped, and only the comment missing
  let ready := fun s : System => Unfiled config pending.verdict.drafts start true s.family ∧
    Tally [] n s.worker ∧ ∀ d ∈ pending.verdict.drafts, Filed config [] s.family d
  have swapping : ∀ s, Interrupted config pending start n s →
      (∀ d ∈ pending.verdict.drafts, Filed config [] s.family d) →
      let family := s.family.editLabels py issue.number [config.labels.triageComplete]
        [config.labels.triageTodo]
      ready { s with family } := by
    intro s h filed
    rw [is_parent, ← h.1.base]
    exact ⟨h.1.swapLabels, h.2, fun d of_drafts => (filed d of_drafts).editLabels⟩
  refine Triple.bind (Q := fun _ => ready) ?_ fun _ => ?_
  · refine Triple.call (fun s h => swapping s h.1.1 h.2) (fun e s h => h.1.1) ?_
    intro e s lost h
    have known : pending.swapped = true := by
      by_contra unknown
      exact swap_told (Bool.eq_false_iff.mpr unknown) (by rw [lost]; trivial)
    obtain ⟨unfiled, tally, -⟩ := swapping s h.1.1 h.2
    refine ⟨?_, tally⟩
    simpa only [h.1.2, known] using unfiled
  refine Triple.bind (Q := fun _ s => s.worker.noted = true ∧ ready s) (Triple.modify fun s h => ?_) fun _ => ?_
  · exact ⟨rfl, h.1, h.2.1.of_logged rfl, h.2.2⟩
  refine Triple.bind (Q := fun _ s => s.worker.noted = true ∧ ready s) (Triple.when (fun _ => ?_) fun _ s h => h)
    fun _ => ?_
  · exact Triple.modify fun s h => ⟨h.1, h.2.1, h.2.2.1.of_logged rfl, h.2.2.2⟩
  refine Triple.call (fun s h => ?_) (fun e s h => ?_) fun e s lost h => ?_
  · obtain ⟨-, unfiled, tally, filed⟩ := h
    have steps := unfiled.filable.filedOnce distinct unfiled.appended filed
    refine ⟨⟨steps.comment, unfiled.swap rfl, ?_, ?_⟩, tally⟩
    · exact ⟨_, _, congrArg (· ++ [_]) unfiled.comments⟩
    · simp [Family.comment]
  · exact ⟨h.1 ▸ h.2.1, h.2.2.1⟩
  · exact absurd (by rw [lost]; trivial) commented

variable (pending) in
/-- An attempt files the verdict, or keeps it with what it knows of its swap. -/
theorem fileVerdict_spec {clocks : Clocks} (same : pending.issue.number = start.base.number)
    (commented : ¬ (F .comment).isLost) (swap_told : pending.swapped = false → ¬ (F .move).isLost)
    (distinct : (pending.verdict.drafts.map fun d => titleKey py d.title).Nodup) {E : GitHubError → System → Prop} :
    Triple F (fun s => Unfiled config pending.verdict.drafts start pending.swapped s.family ∧ Tally [] n s.worker)
      (fileVerdict py config pending clocks)
      (fun failure s => match failure with
        | none => s.worker.triagePending = none ∧ VerdictFiled config pending start s.family ∧
            Tally [.filed] n s.worker
        | some _ => ∃ swapped, s.worker.triagePending = some { pending with swapped } ∧
            Unfiled config pending.verdict.drafts start swapped s.family ∧ Tally [] (n + 1) s.worker) E := by
  unfold fileVerdict fileOwedVerdict
  refine Triple.bind (Q := fun _ s => Interrupted config pending start n s ∧ s.worker.noted = pending.swapped)
    (Triple.modify fun s h => ⟨⟨h.1, h.2.of_logged rfl⟩, rfl⟩) fun _ => ?_
  refine Triple.bind (Q := fun result s => match result with
    | .ok found => found.isSome ∧ VerdictFiled config pending start s.family ∧ Tally [] n s.worker
    | .error _ => Interrupted config pending start n s) (Triple.attempt ?_) fun result => ?_
  · refine (verdictOwed_spec same).bind fun found => Triple.of_each ?_
    rintro before ⟨interrupted, known, current, rfl, is_parent⟩
    refine Triple.bind (Triple.conseq (applyVerdict_spec is_parent commented swap_told distinct) ?_
      (fun _ _ h => h) fun _ _ h => h) fun _ => Triple.pure fun s h => ⟨rfl, h⟩
    rintro s rfl
    exact ⟨interrupted, known⟩
  cases result with
  | error error =>
    refine Triple.bind (Q := fun _ => Interrupted config pending start (n + 1))
      (Triple.modify fun s h => ⟨h.1, h.2.fail rfl rfl⟩) fun _ => ?_
    refine Triple.bind (Triple.modify fun s h => ?_) fun _ => Triple.pure fun s h => h
    exact ⟨s.worker.noted, rfl, h.1, h.2.of_logged rfl⟩
  | ok found =>
    -- the rest is the worker's own bookkeeping
    let filed := fun (tally : Worker → Prop) (s : System) => s.worker.triagePending = none ∧
      VerdictFiled config pending start s.family ∧ tally s.worker
    have keeping : ∀ f : Worker → Worker, (∀ w, (f w).logged = w.logged) →
        (∀ w, w.triagePending = none → (f w).triagePending = none) →
        Triple F (filed (Tally [] n)) (worker f) (fun _ => filed (Tally [] n)) E := fun f unlogged kept =>
      Triple.modify fun s h => ⟨kept _ h.1, h.2.1, h.2.2.of_logged (unlogged _)⟩
    refine Triple.bind (Q := fun _ s => found.isSome ∧ filed (Tally [] n) s)
      (Triple.modify fun s h => ⟨h.1, rfl, h.2.1, h.2.2.of_logged rfl⟩) fun _ => Triple.assuming fun some => ?_
    refine (keeping _ (by intro w; rfl) (by intro w h; exact h)).bind fun _ => ?_
    refine Triple.bind (Q := fun _ => filed (Tally [.filed] n)) ?_ fun _ => Triple.pure fun s h => h
    refine Triple.when (fun _ => ?_) fun no => absurd some (by simp [no])
    unfold verdictFiled forgetTriageChain
    refine (keeping _ (by intro w; rfl) (by intro w h; exact h)).bind fun _ => ?_
    refine Triple.bind_get fun now h => Triple.conseq (P := filed (Tally [] n)) ?_ (fun s same => same ▸ h)
      (fun _ _ h => h) fun _ _ h => h
    refine Triple.bind (Q := fun _ => filed (Tally [] n)) ?_
      fun _ => Triple.modify fun s h => ⟨h.1, h.2.1, h.2.2.close rfl rfl⟩
    have recording : ∀ record, Triple F (filed (Tally [] n)) (recordParent record)
        (fun _ => filed (Tally [] n)) E := fun record =>
      (keeping _ (by intro w; rfl) (by intro w h; exact h)).bind fun _ =>
        keeping _ (by intro w; rfl) (by intro w h; exact h)
    unfold recordTriaged
    split
    · exact recording _
    · exact Triple.when (fun _ => recording _) fun _ s h => h
    · exact Triple.pure fun s h => h

end Attempt

section Retry

variable {E : GitHubError → System → Prop}

/-- The entry while it waits: the verdict it was made with, and as many failed attempts as its
tries tell. -/
def Awaiting (config : FilingConfig py) (pending : PendingVerdict) (start : Family) (n : Nat) (family : Family)
    (slot : Option PendingVerdict) (_ : Option PendingParentReview) (_ : List Event) : Prop :=
  ∃ tries swapped, slot = some { pending with tries, swapped } ∧
    Unfiled config pending.verdict.drafts start swapped family ∧ tries + 1 = n

/-- Where the verdict stands between two attempts. -/
inductive VerdictStatus (config : FilingConfig py) (pending : PendingVerdict) (start : Family) (s : System) : Prop where
  | awaiting (n : Nat) (kept : Kept (Awaiting config pending start n) n s)
  | filed (n : Nat) (gone : s.worker.triagePending = none) (filed : VerdictFiled config pending start s.family)
      (tally : Tally [.filed] n s.worker)
  | handedBack (n : Nat) (gone : s.worker.triagePending = none) (spent : config.maxAttempts < n)
      (tally : Tally [.handedBack] n s.worker)

theorem handBackIssue_spec {p : PendingVerdict} {P : System → Prop} :
    Triple F P (handBackIssue py config p) (fun _ => P) E := by
  unfold handBackIssue fetchIssue
  split
  · exact Triple.pure fun s h => h
  · refine Triple.bind (Q := fun _ => P) (Triple.attempt (Triple.ask (fun s h => h) fun e s h => h)) fun result => ?_
    cases result with
    | error error => exact Triple.pure fun s h => h
    | ok found => exact Triple.pure fun s h => h

/-- The hand-back lands, or leaves the entry as it was. -/
theorem handBackVerdict_spec {p : PendingVerdict} {failure : GitHubError} {clocks : Clocks}
    (told : ¬ (F .handBackLabel).isLost) (spent : config.maxAttempts < n) :
    Triple F (Kept (Awaiting config pending start n) n) (handBackVerdict py config p failure clocks)
      (fun _ => VerdictStatus config pending start) E := by
  unfold handBackVerdict
  refine handBackIssue_spec.bind fun issue => ?_
  cases issue with
  | error error => exact Triple.modify fun s h => .awaiting n ⟨h.holds, h.tally.note rfl rfl⟩
  | ok issue =>
    refine (triageHandBack_spec told).bind fun outcome => ?_
    split
    next landed =>
      refine Triple.bind (Q := fun _ s => s.worker.triagePending = none ∧ Tally [.handedBack] n s.worker)
        (Triple.modify fun s h => ⟨rfl, (h.2 landed).tally.of_logged rfl⟩) fun _ => Triple.modify fun s h => ?_
      exact .handedBack n h.1 spent (h.2.of_logged rfl)
    next failed =>
      refine Triple.modify fun s h => ?_
      have kept := h.1 (not_not.mp failed)
      exact .awaiting n ⟨kept.holds, kept.tally.of_logged rfl⟩

/-- What an attempt asks of GitHub: the comment and the hand-back's label edit are not refused
after they were made, and neither is the swap while the entry does not know that it landed. -/
structure SwapTold (swapped : Bool) (F : Call → Fate GitHubError) : Prop where
  comment : ¬ (F .comment).isLost
  handBack : ¬ (F .handBackLabel).isLost
  swap : swapped = false → ¬ (F .move).isLost

/-- One pass of the tick over the entry. -/
theorem retryPendingVerdict_spec {clocks : Clocks} (same : pending.issue.number = start.base.number)
    (distinct : (pending.verdict.drafts.map fun d => titleKey py d.title).Nodup) :
    Triple F (fun s => (∀ p, s.worker.triagePending = some p → SwapTold p.swapped F) ∧
        Kept (Awaiting config pending start n) n s)
      (retryPendingVerdict py config clocks) (fun _ => VerdictStatus config pending start) E := by
  unfold retryPendingVerdict
  refine Triple.bind_get fun now ⟨told, kept⟩ => ?_
  obtain ⟨tries, swapped, slot, unfiled, rfl⟩ := kept.holds
  have told := told _ slot
  rw [slot]
  refine Triple.bind (Triple.conseq (fileVerdict_spec (n := tries + 1) { pending with tries, swapped } same
    told.comment told.swap distinct) ?_ (fun _ _ h => h) fun _ _ h => h) fun failure => ?_
  · rintro s rfl
    exact ⟨unfiled, kept.tally⟩
  cases failure with
  | none =>
    refine Triple.pure fun s ⟨gone, filed, tally⟩ => .filed _ gone ?_ tally
    exact ⟨filed.steps, filed.swap, filed.comments, filed.last⟩
  | some failure =>
    refine Triple.bind_get fun now ⟨swapped, slot, unfiled, tally⟩ => ?_
    rw [slot]
    unfold countVerdictFailure
    refine Triple.bind (Q := fun _ => Kept (Awaiting config pending start (tries + 2)) (tries + 2))
      (Triple.modify ?_) fun _ => Triple.when (fun spent => ?_) fun _ s h => .awaiting _ h
    · rintro _ rfl
      exact ⟨⟨tries + 1, swapped, rfl, unfiled, rfl⟩, tally.of_logged rfl⟩
    · exact handBackVerdict_spec told.handBack (Nat.lt_succ_of_le (of_decide_eq_true spent))

/-- No entry, nothing to do. -/
theorem retryPendingVerdict_idle {clocks : Clocks} {before : System}
    (gone : before.worker.triagePending = none) :
    Triple F (fun s => s = before) (retryPendingVerdict py config clocks) (fun _ s => s = before) E := by
  unfold retryPendingVerdict
  refine Triple.bind_get ?_
  rintro _ rfl
  rw [gone]
  exact Triple.pure fun s h => h

end Retry

section Run

/-- The parent and the worker right before the first attempt: a triage candidate, whose children
so far are no drafts of the verdict's unless one each. -/
structure VerdictStart (config : FilingConfig py) (pending : PendingVerdict) (s : System) : Prop where
  same : pending.issue.number = s.family.base.number
  fresh : pending.tries = 0 ∧ pending.swapped = false
  opened : s.family.state = .opened
  noState : ∀ name ∈ config.labels.asTuple, py.lower name ∉ s.family.labels
  todo : py.lower config.labels.triageTodo ∈ s.family.labels
  filable : Filable config [] pending.verdict.drafts s.family
  logged : s.worker.logged = []

theorem VerdictStart.unfiled {s : System} (h : VerdictStart config pending s) :
    Unfiled config pending.verdict.drafts s.family pending.swapped s.family :=
  ⟨⟨h.filable, .refl _, rfl, rfl⟩, h.opened, h.noState, fun _ => h.todo,
    fun known => by simp [h.fresh.2] at known⟩

/-- One pass of the tick over the entry. -/
def VerdictRetry (config : FilingConfig py) (s : System) (attempt : Clocks × (Call → Fate GitHubError))
    (s' : System) : Prop :=
  (∀ p, s.worker.triagePending = some p → SwapTold p.swapped attempt.2) ∧
    s' = (retryPendingVerdict py config attempt.1 attempt.2 s).2

theorem VerdictStatus.retry (same : pending.issue.number = start.base.number)
    (distinct : (pending.verdict.drafts.map fun d => titleKey py d.title).Nodup) {s s' : System}
    {attempt : Clocks × (Call → Fate GitHubError)} (step : VerdictRetry config s attempt s')
    (status : VerdictStatus config pending start s) : VerdictStatus config pending start s' := by
  obtain ⟨told, rfl⟩ := step
  cases status with
  | awaiting n kept => exact (retryPendingVerdict_spec same distinct).after ⟨told, kept⟩
  | filed n gone filed tally =>
    rw [(retryPendingVerdict_idle gone).after rfl]
    exact .filed n gone filed tally
  | handedBack n gone spent tally =>
    rw [(retryPendingVerdict_idle gone).after rfl]
    exact .handedBack n gone spent tally

/-- Over all attempts the verdict is never discarded: it waits, it was filed, once, or it was
handed back after `max_attempts` failed retries. -/
theorem verdict_filed_once {clocks : Clocks} {retries : List (Clocks × (Call → Fate GitHubError))}
    {s₀ s : System} (start : VerdictStart config pending s₀)
    (distinct : (pending.verdict.drafts.map fun d => titleKey py d.title).Nodup)
    (told : SwapTold pending.swapped F)
    (run : Steps (VerdictRetry config) (fileVerdict py config pending clocks F s₀).2 retries s) :
    .discarded ∉ s.worker.endings ∧
    (∀ p, s.worker.triagePending = some p → p.verdict = pending.verdict ∧ s.worker.endings = []) ∧
    (s.worker.triagePending = none →
      s.worker.endings = [.filed] ∧ VerdictFiled config pending s₀.family s.family ∨
      s.worker.endings = [.handedBack] ∧ config.maxAttempts < s.worker.failedTries) := by
  have filing : VerdictStatus config pending s₀.family (fileVerdict py config pending clocks F s₀).2 := by
    refine Triple.after (T := VerdictStatus config pending s₀.family) ((fileVerdict_spec (n := 0) pending start.same told.comment told.swap distinct).conseq
      (fun _ h => h) ?_ fun _ _ h => h) ⟨start.unfiled, ?_⟩
    · intro failure s h
      cases failure with
      | none => exact .filed 0 h.1 h.2.1 h.2.2
      | some failure =>
        obtain ⟨swapped, slot, unfiled, tally⟩ := h
        refine .awaiting 1 ⟨⟨0, swapped, ?_, unfiled, rfl⟩, tally⟩
        rw [slot, ← start.fresh.1]
    · constructor
      · simp [Worker.endings, start.logged]
      · simp [Worker.failedTries, start.logged]
  have status := run.invariant (fun _ _ _ step => VerdictStatus.retry start.same distinct step) filing
  cases status with
  | awaiting n kept =>
    obtain ⟨tries, swapped, slot, -⟩ := kept.holds
    refine ⟨by simp [kept.tally.endings], fun p is_p => ?_, fun gone => ?_⟩
    · rw [slot, Option.some.injEq] at is_p
      exact ⟨is_p ▸ rfl, kept.tally.endings⟩
    · rw [slot] at gone
      cases gone
  | filed n gone filed tally =>
    refine ⟨by simp [tally.endings], fun p is_p => ?_, fun _ => .inl ⟨tally.endings, filed⟩⟩
    rw [gone] at is_p
    cases is_p
  | handedBack n gone spent tally =>
    refine ⟨by simp [tally.endings], fun p is_p => ?_, fun _ => .inr ⟨tally.endings, ?_⟩⟩
    · rw [gone] at is_p
      cases is_p
    · rwa [tally.failures]

/-- The settings of the runs below. -/
def defaultFiling : FilingConfig Py.ascii where
  labels := .default
  maxAttempts := 3
  maxAttempts_pos := by decide
  scrub := id

/-- An issue as the first poll lists it. -/
def plainIssue (number : Nat) : Issue where
  number
  title := "Fix"
  body := none
  author := some "alice"
  githubState := .opened
  state := none
  stateLabels := []
  labels := ["issuebot/triage-todo"]
  createdAt := seconds 0
  updatedAt := seconds 0
  dispatchable := false

/-- A parent of no steps, with `triage_todo`. -/
def plainParent : Family where
  base := plainIssue 7
  state := .opened
  labels := ["issuebot/triage-todo"]
  children := []
  comments := []
  nextNumber := 8
  writes := []

def fitsVerdict : PendingVerdict where
  issue := plainIssue 7
  verdict := ⟨.fits, "Small.", "yes", "yes", "no", "", []⟩
  runId := "r1"
  attempt := 1
  turns := 4
  cost := 120000

/-- A verdict on a parent of no steps may be filed. -/
theorem VerdictStart.plain {py : Py} {config : FilingConfig py} {pending : PendingVerdict}
    {family : Family} (same : pending.issue.number = family.base.number)
    (fresh : pending.tries = 0 ∧ pending.swapped = false) (childless : family.children = [])
    (below : family.base.number < family.nextNumber) (opened : family.state = .opened)
    (todo : family.labels = [py.lower config.labels.triageTodo]) :
    VerdictStart config pending ⟨family, .idle⟩ where
  same := same
  fresh := fresh
  opened := opened
  noState := by
    intro name is_state mem
    rw [todo, List.mem_singleton] at mem
    exact (config.labels.state_ne_triage is_state).1 mem
  todo := by simp [todo]
  filable := by
    constructor <;> simp [childless, below, pageSize]
  logged := rfl

def splitVerdict : PendingVerdict where
  issue := plainIssue 7
  verdict := ⟨.split, "Large.", "no", "no", "no", "", [⟨"Rotate the key", "By hand.", .operator⟩,
    ⟨"Read the key", "From the vault.", .issuebot⟩]⟩
  runId := "r2"
  attempt := 1
  turns := 9
  cost := 450000

/-- The first operator label is refused after it was put on. -/
def operatorLabelLost : Call → Fate GitHubError
  | .operatorStep 1 => .lost { category := .transport, message := "reset" }
  | _ => .answered

def commentRefused : Call → Fate GitHubError
  | .comment => .refused { category := .status, message := "502" }
  | _ => .answered

theorem verdict_filed_once_after_refusals :
    let clocks : Clocks := ⟨seconds 0, seconds 0⟩
    let first := (fileVerdict Py.ascii defaultFiling splitVerdict clocks operatorLabelLost ⟨plainParent, .idle⟩).2
    let second := (retryPendingVerdict Py.ascii defaultFiling clocks commentRefused first).2
    let third := (retryPendingVerdict Py.ascii defaultFiling clocks (fun _ => .answered) second).2
    third.worker.endings = [.filed] ∧ VerdictFiled defaultFiling splitVerdict plainParent third.family := by
  intro clocks first second third
  have told : ∀ F ∈ [operatorLabelLost, commentRefused, fun _ => .answered], ∀ swapped, SwapTold swapped F := by
    simp only [List.forall_mem_cons, List.not_mem_nil, false_implies, implies_true, and_true]
    exact ⟨fun _ => ⟨id, id, fun _ => id⟩, fun _ => ⟨id, id, fun _ => id⟩, fun _ => ⟨id, id, fun _ => id⟩⟩
  have retry : ∀ s F, (∀ swapped, SwapTold swapped F) →
      VerdictRetry defaultFiling s (clocks, F) (retryPendingVerdict Py.ascii defaultFiling clocks F s).2 :=
    fun s F told => ⟨fun p _ => told p.swapped, rfl⟩
  have outcome := verdict_filed_once (s := third)
    (.plain rfl ⟨rfl, rfl⟩ rfl (by decide) rfl (by decide +kernel)) (by decide +kernel)
    (told operatorLabelLost (by simp) _)
    (.cons (retry first _ (told commentRefused (by simp))) (.cons (retry second _ (told _ (by simp))) (.nil third)))
  have gone : third.worker.triagePending = none := by decide +kernel
  have not_spent : ¬ defaultFiling.maxAttempts < third.worker.failedTries := by decide +kernel
  exact (outcome.2.2 gone).resolve_right fun spent => not_spent spent.2

/-- GitHub swaps the labels and answers with an error. -/
def swapLost : Call → Fate GitHubError
  | .move => .lost { category := .status, message := "502" }
  | _ => .answered

/-- The next attempt finds `triage_todo` gone and drops the verdict: no comment says what it was. -/
theorem lost_swap_discards_the_verdict :
    let clocks : Clocks := ⟨seconds 0, seconds 0⟩
    let after := (retryPendingVerdict Py.ascii defaultFiling clocks (fun _ => .answered)
      (fileVerdict Py.ascii defaultFiling fitsVerdict clocks swapLost ⟨plainParent, .idle⟩).2).2
    VerdictStart defaultFiling fitsVerdict ⟨plainParent, .idle⟩ ∧
      (fitsVerdict.verdict.drafts.map fun d => titleKey Py.ascii d.title).Nodup ∧ ¬ (swapLost .comment).isLost ∧
      ¬ (swapLost .handBackLabel).isLost ∧ after.worker.triagePending = none ∧
      after.worker.logged.getLast? = some (.triageVerdictDiscarded "r1" .triageTodoRemoved) ∧
      after.worker.endings = [.discarded] ∧ after.family.comments = [] := by
  refine ⟨.plain rfl ⟨rfl, rfl⟩ rfl (by decide) rfl (by decide +kernel), by decide, fun h => h,
    fun h => h, ?_⟩
  decide +kernel

end Run
end Issuebot
