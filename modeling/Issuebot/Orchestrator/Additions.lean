import Issuebot.Orchestrator.Quiet

/-!
# What the programs add to the history

A pass only ever adds to the history. `OnlyAdds P` says that everything it adds is in `P`; a
quiet program adds nothing. `Beside` is what no candidate sweep and no retry is needed for:
everything but a work run's start and an order hold.
-/

namespace Issuebot
set_option autoImplicit false
open Logic Remote

/-- Neither a work run's start nor a hold. -/
def Occurrence.Beside : Occurrence → Prop
  | started start => start.entry.kind ≠ .work
  | held _ => False
  | _ => True

namespace Orchestrator

variable {α β : Type} {P Q : Occurrence → Prop} {o o' : Orchestrator}

/-- The history grew, by occurrences in `P` only. -/
def OnlyAdds (P : Occurrence → Prop) (o o' : Orchestrator) : Prop :=
  ∃ more, o'.history = o.history ++ more ∧ ∀ occurrence ∈ more, P occurrence

theorem OnlyAdds.of_same (same : o'.history = o.history) : OnlyAdds P o o' :=
  ⟨[], by rw [same, List.append_nil], by simp⟩

theorem OnlyAdds.of_one {occurrence : Occurrence} (one : o'.history = o.history ++ [occurrence]) (holds : P occurrence) :
    OnlyAdds P o o' :=
  ⟨[occurrence], one, by simpa using holds⟩

theorem OnlyAdds.mono (adds : OnlyAdds P o o') (weaker : ∀ occurrence, P occurrence → Q occurrence) : OnlyAdds Q o o' := by
  obtain ⟨more, grown, all⟩ := adds
  exact ⟨more, grown, fun occurrence mem => weaker _ (all occurrence mem)⟩

instance : Std.Refl (OnlyAdds P) := ⟨fun _ => .of_same rfl⟩

instance : IsTrans Orchestrator (OnlyAdds P) where
  trans o o' o'' := by
    rintro ⟨more, grown, all⟩ ⟨more', grown', all'⟩
    refine ⟨more ++ more', by rw [grown', grown, List.append_assoc], ?_⟩
    intro occurrence mem
    rcases List.mem_append.mp mem with here | there
    · exact all occurrence here
    · exact all' occurrence there

/-- A quiet program adds nothing. -/
theorem Quiet.adds_nothing {x : Pass α} (quiet : Quiet x) : Follows (OnlyAdds P) x := by
  intro calls o
  have stable : Stable fun o' => o'.history = o.history := fun s s' aside same => aside.history.trans same
  exact .of_same ((quiet calls _ (fun _ o' => o'.history = o.history) stable).after rfl)

section Loops

variable {R : Orchestrator → Orchestrator → Prop} [Std.Refl R] [IsTrans Orchestrator R]

theorem follows_passLoop {body : α → β → Pass Unit} (each : ∀ item w, Follows R (body item w)) {items : List α}
    {worlds : Nat → β} : Follows R (passLoop body items worlds) := by
  induction items generalizing worlds with
  | nil => exact .pure
  | cons item items ih => exact (each item _).bind fun _ => ih

theorem follows_dispatchLoop {body : α → β → Pass Turn} {items : List α} {worlds : Nat → β}
    (each : ∀ item ∈ items, ∀ w, Follows R (body item w)) : Follows R (dispatchLoop body items worlds) := by
  induction items generalizing worlds with
  | nil => exact .pure
  | cons item items ih =>
    have rest : ∀ worlds, Follows R (dispatchLoop body items worlds) := fun worlds =>
      ih fun item mem => each item (List.mem_cons_of_mem _ mem)
    apply Follows.bind (each item List.mem_cons_self _)
    intro turn
    cases turn with
    | halted => exact .pure
    | passed => exact rest _
    | dispatched => exact (rest _).bind fun _ => .pure

end Loops

section Programs

variable {py : Py} {settings : Settings py} {issue : Issue} {kind : RunKind} {w : World} {number : Nat}

theorem admits_adds {order : Option OrderHold} :
    Follows (OnlyAdds Occurrence.Beside) (admits settings issue kind order) := by
  refine Follows.bind .get fun o => ?_
  dsimp only
  split
  · exact Follows.bind (.modify fun o => .of_one rfl trivial) fun _ => .pure
  · exact .pure

theorem recordEscape_adds {outcome : EscapeOutcome} : Follows (OnlyAdds Occurrence.Beside) (recordEscape number outcome) :=
  .when (.modify fun _ => .of_one rfl trivial)

theorem escapeBudget_adds {reason : String} : Follows (OnlyAdds Occurrence.Beside) (escapeBudget issue reason w) := by
  refine Follows.bind (.modify fun _ => .of_same rfl) fun _ => ?_
  refine Follows.bind .get fun o => ?_
  apply Follows.bind Quiet.await.adds_nothing
  intro outcome
  apply Follows.bind _ fun _ => recordEscape_adds
  exact .when (Follows.bind (.modify fun _ => .of_same rfl) fun _ => Quiet.bumpBlocked.adds_nothing)

theorem escapeUnclaimed_adds {escape : Awaited EscapeOutcome} :
    Follows (OnlyAdds Occurrence.Beside) (escapeUnclaimed number escape) := by
  apply Follows.bind Quiet.await.adds_nothing
  intro outcome
  exact Follows.bind (.when Quiet.bumpBlocked.adds_nothing) fun _ => recordEscape_adds

/-- A refusal holds the issue only when it is for its order. -/
theorem handleRefusal_adds {verdict : Refused} (other : verdict.kind ≠ .order) :
    Follows (OnlyAdds Occurrence.Beside) (handleRefusal issue verdict w) := by
  unfold handleRefusal
  split
  next order => exact absurd order other
  · exact escapeBudget_adds
  · exact escapeBudget_adds
  · exact .pure

theorem await_answer {awaited : Awaited α} {calls : Empty → Logic.Fate Empty} {o : Orchestrator} :
    (await awaited calls o).1 = .ok awaited.answer := by
  unfold await
  cases awaited.stopped <;> rfl

/-- The gate's answer, when it is asked. -/
theorem admits_answer {order : Option OrderHold} {calls : Empty → Logic.Fate Empty} {o : Orchestrator} :
    (admits settings issue kind order calls o).1 =
      .ok (Issuebot.admits py (o.admissionRequest settings issue.number (some issue) kind order)) := by
  unfold admits
  simp only [Bind.bind, Remote.get]
  cases Issuebot.admits py (o.admissionRequest settings issue.number (some issue) kind order) <;> rfl

/-- What follows the gate: a refusal for the order means there was one to hold for. -/
theorem admits_follows {R : Orchestrator → Orchestrator → Prop} [IsTrans Orchestrator R] {order : Option OrderHold}
    {f : Admission → Pass α} (gate : Follows R (admits settings issue kind order))
    (no : ∀ refused : Refused, (refused.kind = .order → order.isSome = true) → Follows R (f (.error refused)))
    (yes : ∀ admitted, (kind = .work → issue.state = some .todo → order = none) → Follows R (f (.ok admitted))) :
    Follows R (admits settings issue kind order >>= f) := by
  refine Follows.bind_answer (p := fun verdict =>
    (∀ refused, verdict = .error refused → refused.kind = .order → order.isSome = true) ∧
      ∀ admitted, verdict = .ok admitted → kind = .work → issue.state = some .todo → order = none) gate ?_ ?_
  · intro calls o verdict answer
    rw [admits_answer, Except.ok.injEq] at answer
    subst answer
    exact ⟨fun refused told => order_of_refused told,
      fun admitted allowed => ((admits_eq_ok_iff.mp allowed).2.1 issue rfl).inOrder⟩
  · rintro verdict ⟨refusal, admission⟩
    cases verdict with
    | error refused => exact no refused (refusal refused rfl)
    | ok admitted => exact yes admitted (admission admitted rfl)

theorem startRun_adds {entry : RunningEntry} {now : Datetime} (holds : ∀ start : RunStart,
    start.issue = issue → start.entry = entry → P (.started start)) :
    Follows (OnlyAdds P) (startRun settings issue entry now) := .modify fun _ => .of_one rfl (holds _ rfl rfl)

/-- `dispatch` starts a run of the issue and the attempt it is given, once it is approved. -/
theorem dispatch_adds {attempt : Nat} {session : Option String} (beside : ∀ occurrence : Occurrence, occurrence.Beside → P occurrence)
    (starts : isOperatorStep settings issue = false → ∀ approved, w.approval.answer = some (.approved approved) →
      ∀ start : RunStart, start.issue = issue → start.entry.attempt = attempt → P (.started start)) :
    Follows (OnlyAdds P) (dispatch settings issue attempt session w) := by
  have escaped : ∀ escape, Follows (OnlyAdds P) (escapeUnclaimed issue.number escape) := fun _ =>
    escapeUnclaimed_adds.mono fun _ _ adds => adds.mono beside
  unfold dispatch
  split
  · exact (escaped _).bind fun _ => .pure
  next ours =>
    refine Follows.bind_answer (p := fun approval => approval = w.approval.answer) Quiet.await.adds_nothing
      (fun _ _ _ answer => (Except.ok.inj ((await_answer).symm.trans answer)).symm) ?_
    rintro _ rfl
    split
    · exact .pure
    · exact (escaped _).bind fun _ => .pure
    next approved is_approved =>
      apply Follows.bind bindAccount_quiet.adds_nothing
      rintro ⟨account, ready⟩
      refine .ite .pure ?_
      apply Follows.bind claim_quiet.adds_nothing
      intro claimed
      split
      · exact .pure
      · refine Follows.bind (startRun_adds fun start same entry => ?_) fun _ => .pure
        exact starts (by simpa using ours) approved is_approved start same (by rw [entry])

theorem finish_adds : Follows (OnlyAdds Occurrence.Beside) (finish issue w) := by
  apply Follows.bind Quiet.await.adds_nothing
  intro outcome
  apply Follows.bind Quiet.onIssue.adds_nothing
  intro _
  refine Follows.bind (.when (.modify fun _ => .of_one rfl trivial)) fun _ => ?_
  refine Follows.bind (.when (.modify fun _ => .of_same rfl)) fun _ => ?_
  exact .when (.modify fun _ => .of_same rfl)

theorem queueRetry_adds {entry : RetryEntry} : Follows (OnlyAdds P) (queueRetry entry) := .modify fun _ => .of_same rfl

end Programs

section Track

variable {py : Py} {settings : Settings py} {issue : Issue} {kind : RunKind} {w : World}

theorem startTriageRun_adds {attempt : Nat} {stepsSeen : List Nat} {before : Pass Unit} (track : kind ≠ .work)
    (quiet : Quiet before) :
    Follows (OnlyAdds Occurrence.Beside) (startTriageRun settings issue kind attempt stepsSeen before w) := by
  apply Follows.bind bindAccount_quiet.adds_nothing
  rintro ⟨account, ready⟩
  refine .ite .pure ?_
  apply Follows.bind quiet.adds_nothing
  intro _
  exact (startRun_adds fun start _ same => by rw [Occurrence.Beside, same]; exact track).bind fun _ => .pure

theorem dispatchRequestedReview_adds {steps : List SubIssue} {attempt : Nat} :
    Follows (OnlyAdds Occurrence.Beside) (dispatchRequestedReview settings issue steps attempt w) :=
  .ite (fileFor_quiet.adds_nothing.bind fun _ => .pure) (startTriageRun_adds nofun fileFor_quiet)

theorem dispatchTriageOne_adds {attempt : Nat} :
    Follows (OnlyAdds Occurrence.Beside) (dispatchTriageOne settings issue attempt w) := by
  apply Follows.bind Quiet.await.adds_nothing
  intro approval
  split
  · exact .pure
  · exact fileFor_quiet.adds_nothing.bind fun _ => .pure
  · refine .ite ?_ (startTriageRun_adds nofun .pure)
    apply Follows.bind Quiet.await.adds_nothing
    intro children
    split
    · exact .pure
    · exact startTriageRun_adds nofun .pure
    · exact dispatchRequestedReview_adds

theorem dispatchParentReviewOne_adds {steps : List Nat} {attempt : Nat} :
    Follows (OnlyAdds Occurrence.Beside) (dispatchParentReviewOne settings issue steps attempt w) := by
  apply Follows.bind Quiet.await.adds_nothing
  intro approval
  split
  · exact .pure
  · exact fileFor_quiet.adds_nothing.bind fun _ => .pure
  · exact startTriageRun_adds nofun .pure

theorem admitTurn_adds {hand : String → Clocks → Filing α} {start : Nat → Pass Bool}
    (starts : ∀ attempt, Follows (OnlyAdds Occurrence.Beside) (start attempt)) :
    Follows (OnlyAdds Occurrence.Beside) (admitTurn settings issue kind hand start w) := by
  apply Follows.bind admits_adds
  intro verdict
  split
  · refine .ite .pure ?_
    exact Follows.bind (.when fileFor_quiet.adds_nothing) fun _ => .pure
  · refine Follows.bind .get fun o => ?_
    exact (starts _).bind fun _ => .pure

theorem triageTurn_adds {autoLabelled : List Nat} :
    Follows (OnlyAdds Occurrence.Beside) (triageTurn settings autoLabelled issue w) := by
  refine Follows.bind .get fun o => ?_
  refine .ite .pure ?_
  split
  · exact rewriteNote_quiet.adds_nothing.bind fun _ => .pure
  · refine .ite .pure ?_
    split
    · exact fileFor_quiet.adds_nothing.bind fun _ => .pure
    · exact admitTurn_adds fun _ => dispatchTriageOne_adds

theorem dispatchTriage_adds {track : Option TrackRead} {t : TriageWorld} {worlds : Nat → World} :
    Follows (OnlyAdds Occurrence.Beside) (dispatchTriage settings track t worlds) := by
  apply Follows.bind triageIssues_quiet.adds_nothing
  intro issues
  split
  · exact .pure
  · apply Follows.bind dropOwedNotesTakenBack_quiet.adds_nothing
    intro _
    exact follows_dispatchLoop fun _ _ _ => triageTurn_adds

theorem watchDue_adds {issues : List Issue} {due : Nat × List Nat} :
    Follows (OnlyAdds Occurrence.Beside) (watchDue settings issues due w) := by
  refine Follows.bind .get fun o => ?_
  split
  · exact .pure
  · refine .ite (fileFor_quiet.adds_nothing.bind fun _ => .pure) ?_
    exact admitTurn_adds fun _ => dispatchParentReviewOne_adds

theorem dispatchParentReviews_adds {parents : ParentRead} {watch : WatchWorld} {notes reviews : Nat → World} :
    Follows (OnlyAdds Occurrence.Beside) (dispatchParentReviews settings parents watch notes reviews) := by
  unfold dispatchParentReviews
  split
  · exact .pure
  · refine Follows.bind .get fun o => ?_
    apply Follows.bind (Quiet.foldlM fun _ _ => watchParent_quiet).adds_nothing
    intro list
    refine .ite .pure ?_
    apply Follows.bind Quiet.await.adds_nothing
    intro answer
    split
    · exact .pure
    · apply Follows.bind (Quiet.passLoop fun _ _ => watchNote_quiet).adds_nothing
      intro _
      exact follows_dispatchLoop fun _ _ _ => watchDue_adds

end Track

section Tick

variable {py : Py} {settings : Settings py}

theorem sweepTerminal_adds {issue : Issue} {w : World} : Follows (OnlyAdds Occurrence.Beside) (sweepTerminal issue w) := by
  refine Follows.bind .get fun o => ?_
  refine .ite .pure ?_
  refine Follows.bind (.modify fun _ => .of_same rfl) fun _ => ?_
  exact finish_adds

theorem reconcile_adds {r : ReconcileWorld} : Follows (OnlyAdds Occurrence.Beside) (reconcile settings r) := by
  have refreshed : Follows (OnlyAdds Occurrence.Beside) (refreshRunning settings r.clock r.refreshed) := by
    apply Follows.bind Quiet.await.adds_nothing
    intro answer
    split
    · exact .pure
    · exact .modify fun _ => .of_same rfl
  have swept : Follows (OnlyAdds Occurrence.Beside) (terminalSweep r.terminal r.worlds) := by
    apply Follows.bind Quiet.await.adds_nothing
    intro answer
    split
    · exact .pure
    · exact follows_passLoop fun _ _ => sweepTerminal_adds
  refine Follows.bind (.when (.modify fun _ => .of_same rfl)) fun _ => ?_
  refine Follows.bind .get fun o => ?_
  apply Follows.bind (.when refreshed)
  intro _
  exact .when swept

end Tick

end Orchestrator
end Issuebot
