import Issuebot.Orchestrator.Additions
import Issuebot.Orchestrator.Conduct

/-!
# The two doors to a work run

The candidate sweep and the retry timer ask the one gate, each with a request of its own. The
timer's has no order: what it fires is a retry, and only the sweep holds a step behind an
earlier one. In everything else the two agree, down to the run they start
(`timer_starts_what_the_sweep_would`).
-/

namespace Issuebot
set_option autoImplicit false
open Logic Remote

/-- The run an occurrence starts. -/
def Occurrence.startOf : Occurrence → Option RunStart
  | started start => some start
  | _ => none

namespace Orchestrator

variable {py : Py} {settings : Settings py} {α : Type}

/-- The runs a program starts. -/
def startsOf (x : Pass α) (o : Orchestrator) : List RunStart :=
  ((Pass.after x o).history.drop o.history.length).filterMap Occurrence.startOf

/-- The gate's answer to a work run of the issue. -/
def workGate (settings : Settings py) (o : Orchestrator) (issue : Issue) (order : Option OrderHold) : Admission :=
  Issuebot.admits py (o.admissionRequest settings issue.number (some issue) .work order)

/-- The worker, once the gate has let a work run of the issue pass. -/
def admitting (o : Orchestrator) (settings : Settings py) (issue : Issue) (order : Option OrderHold) : Orchestrator :=
  { o with history := o.history ++ [.admitted issue (o.admissionRequest settings issue.number (some issue) .work order)] }

section Starts

variable {P : Occurrence → Prop} {x : Pass α} {o o' : Orchestrator} {start : RunStart}

theorem mem_startsOf : start ∈ startsOf x o ↔ .started start ∈ (Pass.after x o).history.drop o.history.length := by
  unfold startsOf
  rw [List.mem_filterMap]
  constructor
  · rintro ⟨occurrence, mem, is_start⟩
    cases occurrence <;> cases is_start
    exact mem
  · exact fun mem => ⟨_, mem, rfl⟩

/-- What a program adds holds of the runs it starts. -/
theorem of_startsOf (adds : OnlyAdds P o (Pass.after x o)) (mem : start ∈ startsOf x o) : P (.started start) := by
  obtain ⟨more, grown, all⟩ := adds
  rw [mem_startsOf, grown, List.drop_left] at mem
  exact all _ mem

end Starts

section Gate

variable {o : Orchestrator} {issue : Issue} {order : Option OrderHold} {admitted : Admitted}

/-- With an order given, the gate's answer differs only for a `todo` issue. -/
theorem workGate_order (gate : workGate settings o issue none = .ok admitted) (hold : OrderHold) (todo : issue.state = some .todo) :
    ∃ refused, workGate settings o issue (some hold) = .error refused ∧ refused.kind = .order := by
  obtain ⟨is_open, allows, -⟩ := admits_eq_ok_iff.mp gate
  have active := (allows issue rfl).active rfl
  have refused : workRefusal issue (o.admissionRequest settings issue.number (some issue) .work (some hold)) =
      some { kind := .order, reason := orderReason hold, wait := some .order } := by
    unfold workRefusal
    rw [if_neg (not_not.mpr active)]
    exact if_pos todo
  refine ⟨{ kind := .order, reason := orderReason hold, wait := some .order }, ?_, rfl⟩
  have running : o.stopping = false := is_open.running
  have noHold : o.currentHold = none := is_open.noHold
  have slot : 0 < o.slots settings := is_open.slot
  have idle : (decide (issue.number ∈ o.running) || decide (issue.number ∈ o.retries)) = false := is_open.idle
  unfold workGate Issuebot.admits
  rw [if_neg (by simp [admissionRequest, running])]
  simp only [admissionRequest] at refused ⊢
  rw [noHold] at refused ⊢
  dsimp only
  rw [if_neg (by omega), if_neg (by simp [idle]), if_pos trivial, refused]

/-- Without one it does not differ. -/
theorem workGate_unordered (gate : workGate settings o issue none = .ok admitted) (free : issue.state = some .todo → order = none) :
    workGate settings o issue order = .ok admitted := by
  obtain ⟨is_open, allows, same⟩ := admits_eq_ok_iff.mp gate
  refine admits_eq_ok_iff.mpr ⟨⟨is_open.running, is_open.noHold, is_open.slot, is_open.idle⟩, ?_, same⟩
  rintro _ ⟨⟩
  have here := allows issue rfl
  exact ⟨here.active, fun _ => free, here.chain, here.budget⟩

/-- A worker that is stopping lets nothing pass. -/
theorem workGate_stopping (gate : workGate settings o issue order = .ok admitted) : o.stopping = false :=
  (admits_eq_ok_iff.mp gate).1.running

/-- The gate, asked: a refusal changes nothing. -/
theorem admits_refused {refused : Refused} {calls : Empty → Logic.Fate Empty}
    (gate : workGate settings o issue order = .error refused) :
    admits settings issue .work order calls o = (.ok (.error refused), o) := by
  unfold workGate at gate
  unfold admits
  simp only [Bind.bind, Remote.get, gate]
  rfl

theorem admits_passed {calls : Empty → Logic.Fate Empty} (gate : workGate settings o issue order = .ok admitted) :
    admits settings issue .work order calls o = (.ok (.ok admitted), o.admitting settings issue order) := by
  unfold workGate at gate
  unfold admits
  simp only [Bind.bind, Remote.get, gate]
  rfl

end Gate

section Timer

variable {entry : RetryEntry} {t : TimerWorld} {o : Orchestrator} {issue : Issue} {w : World}

/-- An account that is ready was found without a change. -/
theorem bindAccount_ready {registry : Except String AccountRegistry} {key : String} {calls : Empty → Logic.Fate Empty} :
    ∃ account ready o', bindAccount settings registry key calls o = (.ok (account, ready), o') ∧
      (ready = true → o' = o) := by
  unfold bindAccount
  simp only [Bind.bind, Remote.get]
  split
  · exact ⟨_, _, _, rfl, fun ready => by cases ready⟩
  split
  · exact ⟨_, _, _, rfl, fun _ => rfl⟩
  cases registry with
  | error message => exact ⟨_, _, _, rfl, fun ready => by cases ready⟩
  | ok registry =>
    let busy := o.running.values.filterMap RunningEntry.account ++ registry.busyAccounts settings.runAs
    dsimp only
    cases registry.bound settings.runAs key <|> registry.allocate settings.runAs key busy with
    | none => exact ⟨_, _, _, rfl, fun ready => by cases ready⟩
    | some account =>
      dsimp only
      by_cases is_busy : account ∈ busy
      · rw [if_pos is_busy]
        exact ⟨_, _, _, rfl, fun ready => by cases ready⟩
      · rw [if_neg is_busy]
        exact ⟨_, _, _, rfl, fun _ => rfl⟩

theorem waitOrRelease_adds {verdict : Refused} {read : Option Issue} (unordered : verdict.kind ≠ .order) :
    Follows (OnlyAdds Occurrence.Beside) (waitOrRelease settings entry verdict read w) := by
  refine .ite queueRetry_adds ?_
  split
  · exact queueRetry_adds
  · split
    · exact handleRefusal_adds unordered
    · exact .pure

/-- What a firing comes to: no work run, or the dispatch of the issue it has refreshed, which the
gate has let pass. -/
inductive Fired (settings : Settings py) (entry : RetryEntry) (t : TimerWorld) (o o' : Orchestrator) : Prop where
  | idle (adds : OnlyAdds Occurrence.Beside o o')
  | dispatched (issue : Issue) (rest : List Issue) (admitted : Admitted)
      (refreshed : t.world.refreshed.answer = .ok (issue :: rest))
      (gate : workGate settings o issue none = .ok admitted)
      (after : o' = Pass.after (dispatch settings issue admitted.attempt none t.world) (o.admitting settings issue none))

theorem fireEscape_adds {context : BlockedContext} :
    Follows (OnlyAdds Occurrence.Beside) (fireEscape settings entry context w) := by
  apply Follows.bind Quiet.await.adds_nothing
  intro outcome
  apply Follows.bind recordEscape_adds
  intro _
  split
  · exact Quiet.bumpBlocked.adds_nothing
  · exact queueRetry_adds
  · exact .pure

/-- The end of a firing the gate has let pass. -/
theorem fireAdmitted_fired {admitted : Admitted} {rest : List Issue} (refreshed : t.world.refreshed.answer = .ok (issue :: rest))
    (gate : workGate settings o issue none = .ok admitted) {calls : Empty → Logic.Fate Empty} :
    Fired settings entry t o (fireAdmitted settings entry issue admitted.attempt t calls (o.admitting settings issue none)).2 := by
  obtain ⟨account, ready, o', bound, same⟩ := @bindAccount_ready _ settings (o.admitting settings issue none)
    t.boundFirst t.world.key calls
  cases ready with
  | true =>
    refine .dispatched issue rest admitted refreshed gate ?_
    rw [same rfl] at bound
    unfold fireAdmitted
    rw [bind_ok bound, Pass.after_eq calls]
    exact after_mapped
  | false =>
    have unbound : Follows (OnlyAdds Occurrence.Beside) (bindAccount settings t.boundFirst t.world.key) :=
      bindAccount_quiet.adds_nothing
    have noted : OnlyAdds Occurrence.Beside o (o.admitting settings issue none) := .of_one rfl trivial
    have first := unbound calls (o.admitting settings issue none)
    rw [bound] at first
    apply Fired.idle
    refine IsTrans.trans _ o' _ (IsTrans.trans _ _ _ noted first) ?_
    unfold fireAdmitted
    rw [bind_ok bound]
    -- it is queued again, whatever it waits for
    refine Follows.bind (R := OnlyAdds Occurrence.Beside) .get (fun o => ?_) calls o'
    split <;> exact queueRetry_adds

/-- A firing, once its issue has been refreshed. -/
theorem fireRefreshed_fired {rest : List Issue} (refreshed : t.world.refreshed.answer = .ok (issue :: rest)) {o' : Orchestrator}
    {calls : Empty → Logic.Fate Empty} (held : o' = o ∨ o'.stopping = true ∧ o'.history = o.history) :
    Fired settings entry t o (fireRefreshed settings entry issue t calls o').2 := by
  have same : OnlyAdds Occurrence.Beside o o' := by
    rcases held with rfl | ⟨-, same⟩
    · exact Std.Refl.refl _
    · exact .of_same same
  by_cases closed : issue.githubState = .closed
  · have finished : Follows (OnlyAdds Occurrence.Beside) (fireRefreshed settings entry issue t) := by
      unfold fireRefreshed
      rw [if_pos closed]
      exact finish_adds
    exact .idle (IsTrans.trans _ _ _ same (finished calls o'))
  cases gate : workGate settings o' issue none with
  | error refused =>
    apply Fired.idle
    refine IsTrans.trans _ _ _ same ?_
    have unordered : refused.kind ≠ .order := fun order => nomatch order_of_refused gate order
    have waited : Follows (OnlyAdds Occurrence.Beside) (waitOrRelease settings entry refused (some issue) t.world) :=
      waitOrRelease_adds unordered
    have told : fireRefreshed settings entry issue t calls o' =
        waitOrRelease settings entry refused (some issue) t.world calls o' := by
      unfold fireRefreshed
      rw [if_neg closed]
      exact bind_ok (admits_refused gate)
    rw [told]
    exact waited calls o'
  | ok admitted =>
    -- a worker asked to stop meanwhile lets nothing pass
    have here : o' = o := held.resolve_right fun stopped => by
      rw [workGate_stopping gate] at stopped
      exact nomatch stopped.1
    subst here
    have told : fireRefreshed settings entry issue t calls o' =
        fireAdmitted settings entry issue admitted.attempt t calls (o'.admitting settings issue none) := by
      unfold fireRefreshed
      rw [if_neg closed]
      exact bind_ok (admits_passed gate)
    rw [told]
    exact fireAdmitted_fired refreshed gate

theorem fire_cases (settings : Settings py) (entry : RetryEntry) (t : TimerWorld) :
    (∃ context, fire settings entry t = fireEscape settings entry context t.world) ∨
      fire settings entry t = fireRun settings entry t := by
  unfold fire
  split
  · exact .inl ⟨_, rfl⟩
  · exact .inr rfl

/-- Every firing. -/
theorem fire_fired {calls : Empty → Logic.Fate Empty} : Fired settings entry t o (fire settings entry t calls o).2 := by
  have ran : Fired settings entry t o (fireRun settings entry t calls o).2 := by
    have asked : admitUnread settings entry.issueNumber calls o =
        (.ok (Issuebot.admits py (o.admissionRequest settings entry.issueNumber none .work none)), o) := rfl
    unfold fireRun
    rw [bind_ok asked]
    cases gate : Issuebot.admits py (o.admissionRequest settings entry.issueNumber none .work none) with
    | error refused =>
      have waited : Follows (OnlyAdds Occurrence.Beside) (waitOrRelease settings entry refused none t.world) :=
        waitOrRelease_adds fun order => nomatch order_of_refused gate order
      exact .idle (waited calls o)
    | ok admitted =>
      obtain ⟨o', brought, held⟩ : ∃ o', await t.world.refreshed calls o = (.ok t.world.refreshed.answer, o') ∧
          (o' = o ∨ o'.stopping = true ∧ o'.history = o.history) := by
        unfold await
        cases t.world.refreshed.stopped with
        | false => exact ⟨o, rfl, .inl rfl⟩
        | true => exact ⟨_, rfl, .inr ⟨rfl, rfl⟩⟩
      have same : o'.history = o.history := by
        rcases held with rfl | ⟨-, same⟩
        · rfl
        · exact same
      dsimp only
      rw [bind_ok brought]
      cases refreshed : t.world.refreshed.answer with
      | error error => exact .idle (.of_same same)
      | ok issues =>
        cases issues with
        | nil => exact .idle (.of_same same)
        | cons issue rest => exact fireRefreshed_fired refreshed held
  rcases fire_cases settings entry t with ⟨context, escaping⟩ | running
  · rw [escaping]
    have escaped : Follows (OnlyAdds Occurrence.Beside) (fireEscape settings entry context t.world) := fireEscape_adds
    exact .idle (escaped calls o)
  · rw [running]
    exact ran

end Timer

section Frame

variable {issue : Issue} {w : World} {attempt : Nat} {session : Option String} {held : Dict String}

/-- Another memory of what is held. -/
def holding (held : Dict String) (o : Orchestrator) : Orchestrator := { o with held }

theorem await_ignores {awaited : Awaited α} : Ignores (holding held) (await awaited) :=
  Ignores.bind (.when (.modify fun _ => rfl)) fun _ => .pure

theorem bindAccount_ignores {registry : Except String AccountRegistry} {key : String} :
    Ignores (holding held) (bindAccount settings registry key) := by
  refine .bind_get (fun _ => rfl) fun s => .ite .pure (.ite .pure ?_)
  cases registry with
  | error message => exact Ignores.bind (.modify fun _ => rfl) fun _ => .pure
  | ok registry =>
    dsimp only
    split
    · exact .pure
    · exact .ite .pure .pure

/-- What is held is nothing to `dispatch`. -/
theorem dispatch_ignores : Ignores (holding held) (dispatch settings issue attempt session w) := by
  have escaped : ∀ escape, Ignores (holding held) (escapeUnclaimed issue.number escape) := fun _ =>
    Ignores.bind await_ignores fun _ =>
      Ignores.bind (.when (.modify fun _ => rfl)) fun _ => .when (.modify fun _ => rfl)
  refine .ite (Ignores.bind (escaped _) fun _ => .pure) ?_
  apply Ignores.bind await_ignores
  intro approval
  split
  · exact .pure
  · exact Ignores.bind (escaped _) fun _ => .pure
  · apply Ignores.bind bindAccount_ignores
    rintro ⟨account, ready⟩
    refine .ite .pure (Ignores.bind (.ite .pure (Ignores.bind await_ignores fun _ => .pure)) fun claimed => ?_)
    split
    · exact .pure
    · exact Ignores.bind (.modify fun _ => rfl) fun _ => .pure

end Frame

section Agreement

variable {o : Orchestrator} {issue : Issue} {w : World} {admitted : Admitted} {steps : Option (List ParentAnswer)}

/-- The sweep's turn for an issue the gate lets pass, which no session has been orphaned on. -/
theorem candidateTurn_after (gate : workGate settings o issue (orderHold settings issue steps) = .ok admitted)
    (fresh : issue.state ≠ some .inProgress) :
    Pass.after (candidateTurn settings steps issue w) o =
      holding (o.held.erase issue.number)
        (Pass.after (dispatch settings issue admitted.attempt none w)
          (o.admitting settings issue (orderHold settings issue steps))) := by
  rw [Pass.after_eq Empty.elim, Pass.after_eq Empty.elim]
  unfold candidateTurn
  rw [bind_ok (admits_passed gate)]
  have resumed : resume settings issue admitted w = pure (some (admitted.attempt, none)) := if_pos fresh
  dsimp only
  rw [resumed]
  have ran := @dispatch_ignores _ settings issue w admitted.attempt none (o.held.erase issue.number) Empty.elim
    (o.admitting settings issue (orderHold settings issue steps))
  exact after_mapped.trans (congrArg Prod.snd ran)

/-- Beside the sweep, given the same worker, world and issue and an answer for its parent: it starts
the very run the timer has started where no earlier step holds the issue, and refuses the issue for
its order alone where one does. An issue in progress it admits too, on the session it finds. -/
structure SweepAgrees (settings : Settings py) (w : World) (o : Orchestrator) (start : RunStart)
    (answers : List ParentAnswer) : Prop where
  admitted : orderHold settings start.issue (some answers) = none →
    ∃ admitted, workGate settings o start.issue (orderHold settings start.issue (some answers)) = .ok admitted ∧
      admitted.attempt = start.entry.attempt
  started : orderHold settings start.issue (some answers) = none → start.issue.state ≠ some .inProgress →
    start ∈ startsOf (candidateTurn settings (some answers) start.issue w) o
  ordered : ∀ hold, orderHold settings start.issue (some answers) = some hold →
    ∃ refused, workGate settings o start.issue (orderHold settings start.issue (some answers)) = .error refused ∧
      refused.kind = .order

theorem orderHold_todo {hold : OrderHold} (held : orderHold settings issue steps = some hold) : issue.state = some .todo := by
  unfold orderHold at held
  split at held
  · cases held
  next applies =>
    unfold orderApplies at applies
    simp at applies
    exact applies.1.1

/-- What a dispatch of the issue starts. -/
def StartsAs (settings : Settings py) (issue : Issue) (attempt : Nat) (w : World) (occurrence : Occurrence) : Prop :=
  ∀ start, occurrence = .started start → start.entry.kind = .work →
    start.issue = issue ∧ start.entry.attempt = attempt ∧ isOperatorStep settings issue = false ∧
      ∃ approved, w.approval.answer = some (.approved approved)

theorem dispatch_startsAs {attempt : Nat} : Follows (OnlyAdds (StartsAs settings issue attempt w)) (dispatch settings issue attempt none w) := by
  apply dispatch_adds
  · rintro occurrence beside start rfl work
    exact absurd work beside
  · intro ours approved answer start of_issue of_attempt start' is_start work
    cases is_start
    exact ⟨of_issue, of_attempt, ours, approved, answer⟩

/-- Every work run a firing starts is one the sweep would start, but for the order. -/
theorem timer_starts_what_the_sweep_would {entry : RetryEntry} {t : TimerWorld} {start : RunStart}
    (fired : start ∈ startsOf (fire settings entry t) o) (work : start.entry.kind = .work) :
    (∃ rest, t.world.refreshed.answer = .ok (start.issue :: rest)) ∧ isOperatorStep settings start.issue = false ∧
      (∃ approved, t.world.approval.answer = some (.approved approved)) ∧
      ∀ answers, SweepAgrees settings t.world o start answers := by
  have firing : Fired settings entry t o (Pass.after (fire settings entry t) o) := fire_fired
  rcases firing with adds | ⟨issue, rest, admitted, refreshed, gate, after⟩
  · exact absurd work (of_startsOf adds fired)
  have noted : OnlyAdds (StartsAs settings issue admitted.attempt t.world) o (o.admitting settings issue none) :=
    .of_one rfl fun _ other => by cases other
  have adds : OnlyAdds (StartsAs settings issue admitted.attempt t.world) o (Pass.after (fire settings entry t) o) := by
    rw [after, Pass.after_eq Empty.elim]
    exact IsTrans.trans _ _ _ noted (dispatch_startsAs Empty.elim (o.admitting settings issue none))
  have shown : StartsAs settings issue admitted.attempt t.world (.started start) := of_startsOf adds fired
  obtain ⟨rfl, attempt, ours, approved⟩ := shown start rfl work
  refine ⟨⟨rest, refreshed⟩, ours, approved, fun answers => ⟨?_, ?_, ?_⟩⟩
  · intro free
    rw [free]
    exact ⟨admitted, gate, attempt.symm⟩
  · intro free fresh
    have ungated : workGate settings o start.issue (orderHold settings start.issue (some answers)) = .ok admitted := by
      rw [free]
      exact gate
    rw [mem_startsOf] at fired ⊢
    rw [candidateTurn_after ungated fresh, free]
    rw [after] at fired
    exact fired
  · intro hold held
    rw [held]
    exact workGate_order gate hold (orderHold_todo held)

end Agreement

section Relabelled

/-- A worker whose run of issue 8 has failed once and waits to be retried. -/
def backingOff : Orchestrator :=
  actAll plainSettings (start plainSettings ∅ ∅ todoFamily)
    [.tick (plainTick 0 [todoIssue 8]), .sessionEnded 8 (.returned { plainResult with outcome := .failed }),
      .workerExited plainExit]

/-- Its retry comes due, and GitHub answers the issue as `todo`, a step of issue 7. -/
def relabelledTimer : TimerWorld where
  world := { plainWorld with refreshed := ⟨.ok [{ todoIssue 8 with parent := some 7 }], false⟩ }
  boundFirst := .ok ⟨[], fun _ => false⟩

/-- Issue 7 as a split leaves it, its first step still open. -/
def stepsOfSeven : ParentSteps where
  number := 7
  labels := ["issuebot/triage-complete"]
  subIssues := [⟨5, "First", .opened⟩, ⟨8, "Fix", .opened⟩]
  state := .opened

/-- The work runs of an issue among some starts. -/
def workStarts (number : Nat) (starts : List RunStart) : List RunStart :=
  starts.filter fun start => start.issue.number = number ∧ start.entry.kind = .work

theorem exists_start {starts : List RunStart} {number : Nat} (some_start : (workStarts number starts).head?.isSome) :
    ∃ start ∈ starts, start.issue.number = number ∧ start.entry.kind = .work := by
  obtain ⟨start, is_head⟩ := Option.isSome_iff_exists.mp some_start
  have mem := List.mem_of_mem_head? is_head
  exact ⟨start, by simpa [workStarts] using mem⟩

/-- The timer starts the step though an earlier one is open, which the sweep would not. -/
theorem timer_passes_the_order_by :
    Steps (Step plainSettings) (start plainSettings ∅ ∅ todoFamily)
        [.tick (plainTick 0 [todoIssue 8]), .sessionEnded 8 (.returned { plainResult with outcome := .failed }),
          .workerExited plainExit] backingOff ∧
      ∃ entry, backingOff.retries.lookup 8 = some entry ∧
        (∃ start ∈ startsOf (fire plainSettings entry relabelledTimer) (Pass.after (dropRetry 8) backingOff),
          start.issue.number = 8 ∧ start.entry.kind = .work) ∧
        ∀ admitted, workGate plainSettings (Pass.after (dropRetry 8) backingOff) { todoIssue 8 with parent := some 7 }
          (orderHold plainSettings { todoIssue 8 with parent := some 7 } (some [.ok stepsOfSeven])) ≠ .ok admitted := by
  refine ⟨actAll_steps, ?_⟩
  have is_some : (backingOff.retries.lookup 8).isSome := by decide +kernel
  obtain ⟨entry, found⟩ := Option.isSome_iff_exists.mp is_some
  refine ⟨entry, found, exists_start ?_, fun admitted gate => ?_⟩
  · have started : (backingOff.retries.lookup 8).all fun entry => (workStarts 8 (startsOf (fire plainSettings entry relabelledTimer)
        (Pass.after (dropRetry 8) backingOff))).head?.isSome := by decide +kernel
    rw [found] at started
    exact started
  · have refused : (workGate plainSettings (Pass.after (dropRetry 8) backingOff) { todoIssue 8 with parent := some 7 }
        (orderHold plainSettings { todoIssue 8 with parent := some 7 } (some [.ok stepsOfSeven]))).isOk = false := by
      decide +kernel
    rw [gate] at refused
    cases refused

/-- The same firing beside the sweep's view of it. -/
theorem relabelled_timer_agrees :
    ∃ start : RunStart, start.issue.number = 8 ∧
      ∀ answers, SweepAgrees plainSettings relabelledTimer.world (Pass.after (dropRetry 8) backingOff) start answers := by
  have is_some : (backingOff.retries.lookup 8).isSome := by decide +kernel
  obtain ⟨entry, found⟩ := Option.isSome_iff_exists.mp is_some
  have started : (backingOff.retries.lookup 8).all fun entry => (workStarts 8 (startsOf (fire plainSettings entry relabelledTimer)
      (Pass.after (dropRetry 8) backingOff))).head?.isSome := by decide +kernel
  rw [found] at started
  obtain ⟨start, mem, number, work⟩ := exists_start started
  exact ⟨start, number, (timer_starts_what_the_sweep_would mem work).2.2.2⟩

end Relabelled

end Orchestrator
end Issuebot
