import Issuebot.Logic.Runs
import Issuebot.Orchestrator.Quiet

/-!
# Every program is made of moves

`Along` is what a proof carries through a program: the state is reached from the start by
moves, and the runs are as `F` says. Each program of the work track has its rule here, and
the last of them is that whatever happens to the worker is a run of moves
(`act_reached`).
-/

namespace Issuebot
set_option autoImplicit false
open Logic

namespace Orchestrator

variable {py : Py} {settings loaded : Settings py} {terms : Terms} {o₀ : Orchestrator}
variable {F : Dict RunningEntry → List Nat → Prop}
variable {calls : Empty → Fate Empty} {E : Empty → Orchestrator → Prop}

/-- Reached from the start by moves, with the runs as `F` says. -/
def Along (settings : Settings py) (terms : Terms) (o₀ : Orchestrator) (F : Dict RunningEntry → List Nat → Prop) (o : Orchestrator) : Prop :=
  Reached settings terms o₀ o ∧ F o.running o.queue

/-- Nothing is asked of the runs. -/
def anyRuns : Dict RunningEntry → List Nat → Prop := fun _ _ => True

theorem Along.move {o o' : Orchestrator} (along : Along settings terms o₀ F o) (move : Move settings terms o o')
    (runs : F o.running o.queue → F o'.running o'.queue) : Along settings terms o₀ F o' := ⟨along.1.tail move, runs along.2⟩

theorem Along.any {o : Orchestrator} (along : Along settings terms o₀ F o) : Along settings terms o₀ anyRuns o :=
  ⟨along.1, trivial⟩

theorem Along.stable : Stable (Along settings terms o₀ F) := fun _ _ aside along =>
  along.move (.aside aside) fun runs => by rwa [aside.running, aside.queue]

theorem Ready.aside {issue : Issue} {kind : RunKind} {o o' : Orchestrator} (ready : Ready settings issue kind o)
    (aside : Aside o o') : Ready settings issue kind o' where
  idle := by rw [aside.running]; exact ready.idle
  chain work := by rw [aside.failures]; exact ready.chain work
  budget capped := by rw [aside.costUsd]; exact ready.budget capped
  slot := by rw [aside.running]; exact ready.slot
  asked := by rw [aside.history]; exact ready.asked

theorem Bound.aside {account : Option String} {o o' : Orchestrator} (bound : Bound settings account o)
    (aside : Aside o o') : Bound settings account o' := by
  unfold Bound
  rw [aside.running]
  exact bound

/-- On the way to a start of the issue. -/
def AlongReady (settings : Settings py) (terms : Terms) (o₀ : Orchestrator) (F : Dict RunningEntry → List Nat → Prop) (issue : Issue)
    (kind : RunKind) (o : Orchestrator) : Prop :=
  Along settings terms o₀ F o ∧ Ready settings issue kind o

theorem AlongReady.stable {issue : Issue} {kind : RunKind} : Stable (AlongReady settings terms o₀ F issue kind) :=
  fun o o' aside along => ⟨Along.stable o o' aside along.1, along.2.aside aside⟩

section Rules

/-- A quiet program keeps the way. -/
theorem Quiet.along {α : Type} {x : Pass α} (quiet : Quiet x) :
    Remote.Triple calls (Along settings terms o₀ F) x (fun _ => Along settings terms o₀ F) E := quiet _ _ _ Along.stable

/-- One move that leaves the runs alone. -/
theorem along_modify {f : Orchestrator → Orchestrator}
    (move : ∀ o, F o.running o.queue → Move settings terms o (f o))
    (runs : ∀ o, (f o).running = o.running ∧ (f o).queue = o.queue) :
    Remote.Triple calls (Along settings terms o₀ F) (.modify f) (fun _ => Along settings terms o₀ F) E :=
  .modify fun o along => along.move (move o along.2) fun held => by rwa [(runs o).1, (runs o).2]

theorem along_passLoop {α β : Type} {body : α → β → Pass Unit} {items : List α} {worlds : Nat → β}
    (h : ∀ item w, Remote.Triple calls (Along settings terms o₀ F) (body item w) (fun _ => Along settings terms o₀ F) E) :
    Remote.Triple calls (Along settings terms o₀ F) (passLoop body items worlds) (fun _ => Along settings terms o₀ F) E := by
  induction items generalizing worlds with
  | nil => exact .pure fun _ h => h
  | cons item items ih => exact (h item _).bind fun _ => ih

theorem along_dispatchLoop {α β : Type} {body : α → β → Pass Turn} {items : List α} {worlds : Nat → β}
    (h : ∀ item w, Remote.Triple calls (Along settings terms o₀ F) (body item w) (fun _ => Along settings terms o₀ F) E) :
    Remote.Triple calls (Along settings terms o₀ F) (dispatchLoop body items worlds) (fun _ => Along settings terms o₀ F) E := by
  induction items generalizing worlds with
  | nil => exact .pure fun _ h => h
  | cons item items ih =>
    refine (h item _).bind fun turn => ?_
    cases turn with
    | halted => exact .pure fun _ h => h
    | passed => exact ih
    | dispatched => exact ih.bind fun _ => .pure fun _ h => h

end Rules

section Gate

variable {issue : Issue} {kind : RunKind} {order : Option OrderHold}

/-- What the gate lets pass is allowed to start. -/
theorem allowed_of_gate {o : Orchestrator} {admitted : Admitted}
    (gate : Issuebot.admits py (o.admissionRequest settings issue.number (some issue) kind order) = .ok admitted) :
    Allowed settings issue kind o := by
  obtain ⟨is_open, allows, -⟩ := admits_eq_ok_iff.mp gate
  have idle := is_open.idle
  simp only [admissionRequest, Bool.or_eq_false_iff, decide_eq_false_iff_not] at idle
  have slot : 0 < settings.maxConcurrentAgents - o.running.size := is_open.slot
  exact ⟨idle.1, (allows issue rfl).chain, (allows issue rfl).budget, by omega⟩

/-- Once it has said so, the run is ready. -/
theorem ready_of_gate {o : Orchestrator} {admitted : Admitted}
    (gate : Issuebot.admits py (o.admissionRequest settings issue.number (some issue) kind order) = .ok admitted) :
    Ready settings issue kind
      { o with
        history := o.history ++ [.admitted issue (o.admissionRequest settings issue.number (some issue) kind order)] } :=
  have allowed := allowed_of_gate gate
  ⟨⟨allowed.idle, allowed.chain, allowed.budget, allowed.slot⟩, _, List.getLast?_concat, (admits_eq_ok_iff.mp gate).1⟩

theorem admits_along :
    Remote.Triple calls (Along settings terms o₀ F) (admits settings issue kind order)
      (fun verdict o => Along settings terms o₀ F o ∧ ∀ admitted, verdict = .ok admitted → Ready settings issue kind o) E := by
  refine .bind_get fun o along => ?_
  dsimp only
  cases gate : Issuebot.admits py (o.admissionRequest settings issue.number (some issue) kind order) with
  | error refused =>
    refine .pure fun s same => ⟨same ▸ along, fun admitted is_ok => ?_⟩
    cases is_ok
  | ok admitted =>
    refine .bind (.modify (Q := fun _ => AlongReady settings terms o₀ F issue kind) fun s same => ?_) fun _ =>
      .pure fun s held => ⟨held.1, fun _ _ => held.2⟩
    subst same
    exact ⟨along.move (.admitted issue kind order admitted gate) id, ready_of_gate gate⟩

/-- What follows the gate, by its answer. -/
theorem admits_bind {α : Type} {f : Admission → Pass α} {R : α → Orchestrator → Prop}
    (no : ∀ refused, Remote.Triple calls (Along settings terms o₀ F) (f (.error refused)) R E)
    (yes : ∀ admitted, Remote.Triple calls (AlongReady settings terms o₀ F issue kind) (f (.ok admitted)) R E) :
    Remote.Triple calls (Along settings terms o₀ F) (admits settings issue kind order >>= f) R E := by
  refine admits_along.bind fun verdict => ?_
  cases verdict with
  | error refused => exact (no refused).before (fun _ h => h.1)
  | ok admitted => exact (yes admitted).before (fun _ h => ⟨h.1, h.2 admitted rfl⟩)

end Gate

section Escapes

variable {issue : Issue} {w : World} {number : Nat}

/-- A mark in the ledger is no figure. -/
theorem aside_mark {f : IssueLedger → IssueLedger} {o : Orchestrator} {ledger : Ledger} {history : List Occurrence}
    (failures : ∀ entry, (f entry).failures = entry.failures) (costUsd : ∀ entry, (f entry).costUsd = entry.costUsd)
    (turns : ∀ entry, (f entry).turns = entry.turns) :
    Aside { o with ledger, history } { o with ledger := ledger.rewrite number f, history } :=
  ⟨rfl, fun _ => Ledger.rewrite_kept failures, fun _ => Ledger.rewrite_kept costUsd, fun _ => Ledger.rewrite_kept turns,
    rfl, id⟩

theorem aside_refused {o : Orchestrator} {reason : String} :
    Aside o { o with ledger := (o.ledger.refused number reason).2 } := by
  unfold Ledger.refused
  split
  · exact .refl
  · split
    · exact .refl
    · exact aside_mark (fun _ => rfl) (fun _ => rfl) fun _ => rfl

theorem recordEscape_along {outcome : EscapeOutcome} :
    Remote.Triple calls (Along settings terms o₀ F) (recordEscape number outcome) (fun _ => Along settings terms o₀ F) E := by
  refine .when (fun _ => .modify fun o along => ?_) fun _ _ h => h
  have marked : Aside { o with ledger := o.ledger.cleared number, history := o.history ++ [.cleared number] }
      { o with
        ledger := (o.ledger.cleared number).markEscaped number
        history := o.history ++ [.cleared number] } := aside_mark (fun _ => rfl) (fun _ => rfl) fun _ => rfl
  exact (along.move (.cleared number) id).move (.aside marked) id

theorem escapeBudget_along {reason : String} :
    Remote.Triple calls (Along settings terms o₀ F) (escapeBudget issue reason w) (fun _ => Along settings terms o₀ F) E := by
  have escalated : Quiet (changeLedger fun ledger => ledger.escalate issue.number) :=
    .modify fun _ => aside_mark (fun _ => rfl) (fun _ => rfl) fun _ => rfl
  refine (Quiet.modify fun _ => aside_refused).along.bind fun _ => Quiet.get.along.bind fun o =>
    Quiet.await.along.bind fun outcome => ?_
  exact (Quiet.when (escalated.bind fun _ => .bumpBlocked)).along.bind fun _ => recordEscape_along

theorem handleRefusal_along {verdict : Refused} :
    Remote.Triple calls (Along settings terms o₀ F) (handleRefusal issue verdict w) (fun _ => Along settings terms o₀ F) E := by
  unfold handleRefusal
  split
  · refine .bind (along_modify (fun _ _ => .held issue) fun _ => ⟨rfl, rfl⟩) fun _ => ?_
    refine Quiet.along (.modify ?_)
    exact fun _ => .of_ledger rfl rfl id
  · exact escapeBudget_along
  · exact escapeBudget_along
  · exact .pure fun _ h => h

theorem escapeUnclaimed_along {outcome : Awaited EscapeOutcome} :
    Remote.Triple calls (Along settings terms o₀ F) (escapeUnclaimed number outcome) (fun _ => Along settings terms o₀ F) E :=
  Quiet.await.along.bind fun _ => (Quiet.when .bumpBlocked).along.bind fun _ => recordEscape_along

end Escapes

section Start

variable {issue read : Issue} {kind : RunKind} {w : World}

/-- On the way to a start as an account. -/
def AlongBound (settings : Settings py) (terms : Terms) (o₀ : Orchestrator) (F : Dict RunningEntry → List Nat → Prop)
    (issue : Issue) (kind : RunKind) (account : Option String) (o : Orchestrator) : Prop :=
  AlongReady settings terms o₀ F issue kind o ∧ Bound settings account o

theorem AlongBound.stable {account : Option String} :
    Stable (AlongBound settings terms o₀ F issue kind account) :=
  fun o o' aside along => ⟨AlongReady.stable o o' aside along.1, along.2.aside aside⟩

/-- Under a pool the account bound is a member no run goes as. -/
theorem bindAccount_along {registry : Except String AccountRegistry} {key : String} :
    Remote.Triple calls (AlongReady settings terms o₀ F issue kind) (bindAccount settings registry key)
      (fun answer o => AlongReady settings terms o₀ F issue kind o ∧
        (answer.2 = true → Bound settings answer.1 o)) E := by
  refine .bind_get fun o along => ?_
  have no {account : Option String} : Remote.Triple calls (fun s => s = o) (pure (account, false))
      (fun answer o => AlongReady settings terms o₀ F issue kind o ∧
        (answer.2 = true → Bound settings answer.1 o)) E :=
    .pure fun s same => ⟨same ▸ along, fun ready => by cases ready⟩
  split
  · exact no
  · split
    next single => exact .pure fun s same => ⟨same ▸ along, fun _ pooled => absurd pooled (by omega)⟩
    next =>
      match registry with
      | .error message =>
        refine .bind (Q := fun _ => AlongReady settings terms o₀ F issue kind) ?_ fun _ =>
          .pure fun s along => ⟨along, fun ready => by cases ready⟩
        exact (Quiet.changeHolds _ _ _ AlongReady.stable).before fun s same => same ▸ along
      | .ok registry =>
        dsimp only
        split
        · exact no
        next account bound =>
          split
          · exact no
          next free =>
            refine .pure fun s same => ⟨same ▸ along, fun _ _ => ⟨account, ?_, rfl, ?_⟩⟩
            · cases recorded : registry.bound settings.runAs key with
              | some existing =>
                rw [recorded] at bound
                cases bound
                exact AccountRegistry.bound_mem recorded
              | none =>
                rw [recorded] at bound
                exact AccountRegistry.allocate_mem bound
            · intro number entry found is_account
              subst same
              refine free (List.mem_append_left _ (List.mem_filterMap.mpr ⟨entry, Dict.mem_values found, is_account⟩))

/-- What follows the binding, by whether it is ready. -/
theorem bindAccount_bind {α : Type} {registry : Except String AccountRegistry} {key : String}
    {f : Option String × Bool → Pass α} {R : α → Orchestrator → Prop}
    (no : ∀ account, Remote.Triple calls (AlongReady settings terms o₀ F issue kind) (f (account, false)) R E)
    (yes : ∀ account, Remote.Triple calls (AlongBound settings terms o₀ F issue kind account) (f (account, true)) R E) :
    Remote.Triple calls (AlongReady settings terms o₀ F issue kind) (bindAccount settings registry key >>= f) R E := by
  refine bindAccount_along.bind fun (account, ready) => ?_
  cases ready with
  | false => exact (no account).before fun _ h => h.1
  | true => exact (yes account).before fun _ h => ⟨h.1, h.2 rfl⟩

theorem startRun_along {entry : RunningEntry} {account : Option String} {now : Datetime} (is_kind : entry.kind = kind)
    (is_account : entry.account = account) (same : entry.issue.number = read.number) (going : entry.task = none) :
    Remote.Triple calls (AlongBound settings terms o₀ F read kind account) (startRun settings read entry now)
      (fun _ => Along settings terms o₀ anyRuns) E := by
  subst is_kind is_account
  exact .modify fun _ along => along.1.1.any.move (.started read entry now along.1.2 along.2 same going) id

/-- A claim keeps the issue's number. -/
theorem claim_along {account : Option String} :
    Remote.Triple calls (AlongBound settings terms o₀ F issue kind account) (claim settings issue w)
      (fun claimed o => (∀ snapshot, claimed = some snapshot → snapshot.number = issue.number) ∧
        AlongBound settings terms o₀ F issue kind account o) E := by
  unfold claim
  split
  · exact .pure fun _ along => ⟨fun snapshot is_issue => by cases is_issue; rfl, along⟩
  · refine (Quiet.await _ _ _ AlongBound.stable).bind fun claimed => .pure fun _ along => ⟨?_, along⟩
    intro snapshot is_snapshot
    cases claimed with
    | false => cases is_snapshot
    | true =>
      cases is_snapshot
      rfl

theorem dispatchApproved_along {attempt : Nat} {session : Option String} :
    Remote.Triple calls (AlongReady settings terms o₀ F issue .work) (dispatchApproved settings issue attempt session w)
      (fun _ => Along settings terms o₀ anyRuns) E := by
  refine bindAccount_bind (fun _ => .pure fun _ along => along.1.any) fun account => ?_
  refine claim_along.bind fun claimed => ?_
  cases claimed with
  | none => exact .pure fun _ along => along.2.1.1.any
  | some snapshot =>
    refine .assuming fun same => .bind (startRun_along rfl rfl ?_ rfl) fun _ => .pure fun _ along => along
    exact same snapshot rfl

theorem dispatch_along {attempt : Nat} {session : Option String} :
    Remote.Triple calls (AlongReady settings terms o₀ F issue .work) (dispatch settings issue attempt session w)
      (fun _ => Along settings terms o₀ anyRuns) E := by
  have escaped {outcome : Awaited EscapeOutcome} :
      Remote.Triple calls (AlongReady settings terms o₀ F issue .work)
        (escapeUnclaimed issue.number outcome >>= fun _ => pure false) (fun _ => Along settings terms o₀ anyRuns) E :=
    .bind (escapeUnclaimed_along.before (fun _ along => along.1.any))
      fun _ => .pure fun _ along => along
  unfold dispatch
  split
  · exact escaped
  · refine .bind (Quiet.await _ _ _ AlongReady.stable) fun verdict => ?_
    match verdict with
    | none => exact .pure fun _ along => along.1.any
    | some (.unapproved verdict) => exact escaped
    | some (.approved _) => exact dispatchApproved_along

end Start

section Sweep

variable {issue : Issue} {w : World}

/-- A session record is folded in below the ceiling, and the gate is asked again. -/
theorem resume_along {verdict : Admitted} :
    Remote.Triple calls (AlongReady settings terms o₀ F issue .work) (resume settings issue verdict w)
      (fun plan o => Along settings terms o₀ F o ∧ (plan.isSome → Ready settings issue .work o)) E := by
  have keep {plan : Option (Nat × Option String)} :
      Remote.Triple calls (AlongReady settings terms o₀ F issue .work) (pure plan)
        (fun plan o => Along settings terms o₀ F o ∧ (plan.isSome → Ready settings issue .work o)) E :=
    .pure fun _ along => ⟨along.1, fun _ => along.2⟩
  unfold resume
  split
  · exact keep
  · split
    · exact keep
    · split
      · exact keep
      · refine .bind (.modify (Q := fun _ => Along settings terms o₀ F) fun o along =>
          along.1.move (.observed issue.number _) id) fun _ => ?_
        refine admits_bind (fun refused => ?_) fun again => ?_
        · exact handleRefusal_along.bind fun _ => .pure fun _ along => ⟨along, fun is_some => by cases is_some⟩
        · exact .pure fun _ along => ⟨along.1, fun _ => along.2⟩

theorem candidateTurn_along {steps : Option (List ParentAnswer)} :
    Remote.Triple calls (Along settings terms o₀ anyRuns) (candidateTurn settings steps issue w)
      (fun _ => Along settings terms o₀ anyRuns) E := by
  refine admits_bind (fun refused => ?_) fun verdict => ?_
  · dsimp only
    split
    · exact .pure fun _ along => along
    · exact handleRefusal_along.bind fun _ => .pure fun _ along => along
  · have forgotten : Quiet (.modify fun o => { o with held := o.held.erase issue.number }) := by
      refine .modify ?_
      exact fun _ => .of_ledger rfl rfl id
    refine .bind (forgotten _ _ _ AlongReady.stable) fun _ => resume_along.bind fun plan => ?_
    cases plan with
    | none => exact .pure fun _ along => along.1
    | some plan =>
      refine .bind (Q := fun _ => Along settings terms o₀ anyRuns) ?_ fun _ => .pure fun _ along => along
      exact (dispatch_along (F := anyRuns)).before (fun _ along => ⟨along.1, along.2 rfl⟩)

theorem dispatchCandidates_along {issues : Option (List Issue)} {steps : Option (List ParentAnswer)}
    {worlds : Nat → World} :
    Remote.Triple calls (Along settings terms o₀ anyRuns) (dispatchCandidates settings issues steps worlds)
      (fun _ => Along settings terms o₀ anyRuns) E := by
  cases issues with
  | none => exact .pure fun _ along => along
  | some issues =>
    refine .bind (Q := fun _ => Along settings terms o₀ anyRuns) (Quiet.along (.modify ?_)) fun _ =>
      along_dispatchLoop fun _ _ => candidateTurn_along
    exact fun _ => .of_ledger rfl rfl id

end Sweep

section Track

variable {issue : Issue} {w : World} {kind : RunKind}

/-- The kinds of the triage track need no chain. -/
theorem AlongReady.track {kind' : RunKind} {o : Orchestrator} (along : AlongReady settings terms o₀ F issue kind o)
    (track : kind' ≠ .work) : AlongReady settings terms o₀ F issue kind' o :=
  ⟨along.1, ⟨along.2.idle, fun work => absurd work track, along.2.budget, along.2.slot⟩, along.2.asked⟩

theorem startTriageRun_along {attempt : Nat} {stepsSeen : List Nat} {before : Pass Unit} (quiet : Quiet before) :
    Remote.Triple calls (AlongReady settings terms o₀ F issue kind)
      (startTriageRun settings issue kind attempt stepsSeen before w) (fun _ => Along settings terms o₀ anyRuns) E := by
  refine bindAccount_bind (fun _ => .pure fun _ along => along.1.any) fun account => ?_
  exact .bind (quiet _ _ _ AlongBound.stable) fun _ => .bind (startRun_along rfl rfl rfl rfl) fun _ =>
    .pure fun _ along => along

theorem dispatchRequestedReview_along {steps : List SubIssue} {attempt : Nat} :
    Remote.Triple calls (AlongReady settings terms o₀ F issue kind) (dispatchRequestedReview settings issue steps attempt w)
      (fun _ => Along settings terms o₀ anyRuns) E := by
  unfold dispatchRequestedReview
  split
  · exact .bind (fileFor_quiet _ _ _ AlongReady.stable) fun _ => .pure fun _ along => along.1.any
  · exact (startTriageRun_along fileFor_quiet).before (fun _ along => along.track (by decide))

theorem dispatchTriageOne_along {attempt : Nat} :
    Remote.Triple calls (AlongReady settings terms o₀ F issue .triage) (dispatchTriageOne settings issue attempt w)
      (fun _ => Along settings terms o₀ anyRuns) E := by
  refine .bind (Quiet.await _ _ _ AlongReady.stable) fun verdict => ?_
  match verdict with
  | none => exact .pure fun _ along => along.1.any
  | some (.unapproved verdict) =>
    exact .bind (fileFor_quiet _ _ _ AlongReady.stable) fun _ => .pure fun _ along => along.1.any
  | some (.approved _) =>
    dsimp only
    split
    · refine .bind (Quiet.await _ _ _ AlongReady.stable) fun steps => ?_
      match steps with
      | .error _ => exact .pure fun _ along => along.1.any
      | .ok [] => exact startTriageRun_along .pure
      | .ok (step :: steps) => exact dispatchRequestedReview_along
    · exact startTriageRun_along .pure

theorem dispatchParentReviewOne_along {steps : List Nat} {attempt : Nat} :
    Remote.Triple calls (AlongReady settings terms o₀ F issue .parentReview)
      (dispatchParentReviewOne settings issue steps attempt w) (fun _ => Along settings terms o₀ anyRuns) E := by
  refine .bind (Quiet.await _ _ _ AlongReady.stable) fun verdict => ?_
  match verdict with
  | none => exact .pure fun _ along => along.1.any
  | some (.unapproved verdict) =>
    exact .bind (fileFor_quiet _ _ _ AlongReady.stable) fun _ => .pure fun _ along => along.1.any
  | some (.approved _) => exact startTriageRun_along .pure

/-- What the gate admits on the triage track is ready when it starts. -/
theorem admitTurn_along {α : Type} {hand : String → Clocks → Filing α} {start : Nat → Pass Bool}
    (started : ∀ attempt, Remote.Triple calls (AlongReady settings terms o₀ anyRuns issue kind) (start attempt)
      (fun _ => Along settings terms o₀ anyRuns) E) :
    Remote.Triple calls (Along settings terms o₀ anyRuns) (admitTurn settings issue kind hand start w)
      (fun _ => Along settings terms o₀ anyRuns) E := by
  refine admits_bind (fun refused => ?_) fun _ => ?_
  · dsimp only
    split
    · exact .pure fun _ along => along
    · exact (Quiet.when fileFor_quiet).along.bind fun _ => .pure fun _ along => along
  · exact .bind (Quiet.get _ _ _ AlongReady.stable) fun _ => (started _).bind fun _ => .pure fun _ along => along

theorem triageTurn_along {autoLabelled : List Nat} :
    Remote.Triple calls (Along settings terms o₀ anyRuns) (triageTurn settings autoLabelled issue w)
      (fun _ => Along settings terms o₀ anyRuns) E := by
  refine Quiet.get.along.bind fun o => ?_
  have passed : Remote.Triple calls (Along settings terms o₀ anyRuns) (pure Turn.passed)
      (fun _ => Along settings terms o₀ anyRuns) E := .pure fun _ along => along
  split
  · exact passed
  · split
    · exact rewriteNote_quiet.along.bind fun _ => passed
    · split
      · exact passed
      · split
        · exact fileFor_quiet.along.bind fun _ => passed
        · exact admitTurn_along fun _ => dispatchTriageOne_along

theorem dispatchTriage_along {track : Option TrackRead} {t : TriageWorld} {worlds : Nat → World} :
    Remote.Triple calls (Along settings terms o₀ anyRuns) (dispatchTriage settings track t worlds)
      (fun _ => Along settings terms o₀ anyRuns) E := by
  refine triageIssues_quiet.along.bind fun issues => ?_
  cases issues with
  | none => exact .pure fun _ along => along
  | some issues =>
    exact dropOwedNotesTakenBack_quiet.along.bind fun _ => along_dispatchLoop fun _ _ => triageTurn_along

theorem watchDue_along {issues : List Issue} {due : Nat × List Nat} :
    Remote.Triple calls (Along settings terms o₀ anyRuns) (watchDue settings issues due w)
      (fun _ => Along settings terms o₀ anyRuns) E := by
  refine Quiet.get.along.bind fun o => ?_
  split
  · exact .pure fun _ along => along
  · split
    · exact fileFor_quiet.along.bind fun _ => .pure fun _ along => along
    · exact admitTurn_along fun _ => dispatchParentReviewOne_along

theorem dispatchParentReviews_along {parents : ParentRead} {watch : WatchWorld} {notes reviews : Nat → World} :
    Remote.Triple calls (Along settings terms o₀ anyRuns) (dispatchParentReviews settings parents watch notes reviews)
      (fun _ => Along settings terms o₀ anyRuns) E := by
  unfold dispatchParentReviews
  split
  · exact .pure fun _ along => along
  · refine Quiet.get.along.bind fun o => (Quiet.foldlM fun _ _ => watchParent_quiet).along.bind fun list => ?_
    split
    · exact .pure fun _ along => along
    · refine Quiet.await.along.bind fun issues => ?_
      cases issues with
      | error => exact .pure fun _ along => along
      | ok issues =>
        exact (Quiet.passLoop fun _ _ => watchNote_quiet).along.bind fun _ =>
          along_dispatchLoop fun _ _ => watchDue_along

end Track

section Ends

variable {issue : Issue} {w : World} {entry : RunningEntry} {result : RunResult}

theorem finish_along :
    Remote.Triple calls (Along settings terms o₀ F) (finish issue w) (fun _ => Along settings terms o₀ F) E := by
  refine Quiet.await.along.bind fun outcome => Quiet.onIssue.along.bind fun _ => ?_
  refine .bind (Q := fun _ => Along settings terms o₀ F) ?_ fun _ => ?_
  · exact .when (fun _ => along_modify (fun _ _ => .finished issue.number) fun _ => ⟨rfl, rfl⟩) fun _ _ h => h
  · refine .bind (Q := fun _ => Along settings terms o₀ F) (Quiet.along (.when (.bump ?_ ?_))) fun _ =>
      Quiet.along (.when (.bump ?_ ?_))
    all_goals exact fun _ => rfl

/-- A retry is queued only for an issue that does not run. -/
theorem queueRetry_along {retry : RetryEntry} (idle : ∀ runs queue, F runs queue → retry.issueNumber ∉ runs) :
    Remote.Triple calls (Along settings terms o₀ F) (queueRetry retry) (fun _ => Along settings terms o₀ F) E :=
  along_modify (fun _ held => .queued retry (idle _ _ held)) fun _ => ⟨rfl, rfl⟩

theorem escape_along {reason : String} {result : Option RunResult}
    (idle : ∀ runs queue, F runs queue → entry.issue.number ∉ runs) :
    Remote.Triple calls (Along settings terms o₀ F) (escape settings entry reason result w)
      (fun _ => Along settings terms o₀ F) E := by
  refine Quiet.await.along.bind fun outcome => recordEscape_along.bind fun _ => ?_
  cases outcome with
  | applied => exact Quiet.bumpBlocked.along
  | skipped => exact .pure fun _ along => along
  | failed => exact queueRetry_along idle

/-- On the way through the exit of a work run, its chain below the ceiling. -/
def AlongExit (settings : Settings py) (terms : Terms) (o₀ : Orchestrator) (F : Dict RunningEntry → List Nat → Prop) (number : Nat)
    (o : Orchestrator) : Prop :=
  Along settings terms o₀ F o ∧ (terms.steady → (o.ledger.get number).failures < settings.maxAttempts)

theorem AlongExit.stable {number : Nat} : Stable (AlongExit settings terms o₀ F number) := fun o o' aside along =>
  ⟨Along.stable o o' aside along.1, by rw [aside.failures]; exact along.2⟩

theorem afterFailure_along {error : String} {result : Option RunResult}
    (idle : ∀ runs queue, F runs queue → entry.issue.number ∉ runs) :
    Remote.Triple calls (AlongExit settings terms o₀ F entry.issue.number) (afterFailure settings entry error result w)
      (fun _ => Along settings terms o₀ F) E := by
  refine .bind (.modify (Q := fun _ => Along settings terms o₀ F) fun o along =>
    along.1.move (.counted entry.issue.number (idle _ _ along.1.2) along.2) id) fun _ => ?_
  refine Quiet.get.along.bind fun o => ?_
  dsimp only
  split
  · exact escape_along idle
  · exact queueRetry_along idle

theorem workSucceeded_along (idle : ∀ runs queue, F runs queue → entry.issue.number ∉ runs) :
    Remote.Triple calls (Along settings terms o₀ F) (workSucceeded settings entry result w)
      (fun _ => Along settings terms o₀ F) E := by
  unfold workSucceeded
  split
  · exact escape_along idle
  · split
    · exact escape_along idle
    · refine .bind (along_modify (fun _ _ => .cleared entry.issue.number) fun _ => ⟨rfl, rfl⟩) fun _ => ?_
      exact Quiet.get.along.bind fun _ => queueRetry_along idle

theorem workFailed_along (idle : ∀ runs queue, F runs queue → entry.issue.number ∉ runs) :
    Remote.Triple calls (AlongExit settings terms o₀ F entry.issue.number) (workFailed settings entry result w)
      (fun _ => Along settings terms o₀ F) E := by
  have drop {x : Pass Unit} (h : Remote.Triple calls (Along settings terms o₀ F) x (fun _ => Along settings terms o₀ F) E) :
      Remote.Triple calls (AlongExit settings terms o₀ F entry.issue.number) x (fun _ => Along settings terms o₀ F) E :=
    h.before (fun _ along => along.1)
  unfold workFailed
  split
  · exact drop (holdForAuthFailure_quiet.along.bind fun _ => escape_along idle)
  · split
    · exact drop (holdForUsageLimit_quiet.along.bind fun _ => Quiet.get.along.bind fun _ => queueRetry_along idle)
    · split
      · exact drop (escape_along idle)
      · exact afterFailure_along idle

/-- The end of a work run, by its stop and its result. -/
theorem workExit_along {ending : RunEnd} (idle : ∀ runs queue, F runs queue → entry.issue.number ∉ runs) :
    Remote.Triple calls (AlongExit settings terms o₀ F entry.issue.number) (workExit settings entry ending w)
      (fun _ => Along settings terms o₀ F) E := by
  have released : Remote.Triple calls (AlongExit settings terms o₀ F entry.issue.number) (pure ())
      (fun _ => Along settings terms o₀ F) E := .pure fun _ along => along.1
  unfold workExit
  split
  · exact finish_along.before (fun _ along => along.1)
  · split
    · exact released
    · cases ending with
      | cancelled => exact released
      | crashed error => exact afterFailure_along idle
      | returned result =>
        dsimp only
        split
        · exact afterFailure_along idle
        · split
          · exact (workSucceeded_along idle).before (fun _ along => along.1)
          · exact workFailed_along idle

/-- The spend of an exit leaves the chain. -/
theorem charge_along {number : Nat} {ending : RunEnd} {chain : Prop} :
    Remote.Triple calls
      (fun o => Along settings terms o₀ F o ∧ (chain → (o.ledger.get number).failures < settings.maxAttempts))
      (charge number ending)
      (fun _ o => Along settings terms o₀ F o ∧ (chain → (o.ledger.get number).failures < settings.maxAttempts)) E := by
  cases ending with
  | cancelled => exact .pure fun _ h => h
  | crashed => exact .pure fun _ h => h
  | returned result =>
    refine .modify fun o along => ⟨along.1.move (.spent number result) id, fun h => ?_⟩
    rw [Ledger.spent_failures]
    exact along.2 h

/-- What an exit does once its entry is gone, its chain below the ceiling if it was a work run. -/
theorem settleExit_along {number : Nat} {ending : RunEnd} {exit : ExitWorld}
    (idle : ∀ runs queue, F runs queue → entry.issue.number ∉ runs) :
    Remote.Triple calls
      (fun o => Along settings terms o₀ F o ∧
        (entry.kind = .work ∧ terms.steady → (o.ledger.get entry.issue.number).failures < settings.maxAttempts))
      (settleExit settings number entry ending exit) (fun _ => Along settings terms o₀ F) E := by
  refine charge_along.bind fun _ => ?_
  split
  next work => exact (workExit_along idle).before fun _ along => ⟨along.1, fun fixed => along.2 ⟨work, fixed⟩⟩
  next => exact triageExit_quiet.along.before fun _ along => along.1

/-- An exit is handled of a run whose session has ended and whose message is taken. -/
theorem handleWorkerExit_along {F' : Dict RunningEntry → List Nat → Prop} {number : Nat} {exit : ExitWorld}
    (kept : Kept settings terms o₀) (gone : ∀ runs queue, F runs queue → F' (runs.erase number) queue) :
    Remote.Triple calls
      (fun o => Along settings terms o₀ F o ∧ number ∉ o.queue ∧
        ∀ entry, o.running.lookup number = some entry → entry.task.isSome)
      (handleWorkerExit settings number exit) (fun _ => Along settings terms o₀ F') E := by
  refine .bind_get fun o along => ?_
  obtain ⟨along, taken, done⟩ := along
  cases found : o.running.lookup number with
  | none =>
    have absent : o.running.erase number = o.running := Dict.erase_of_notMem (AList.lookup_eq_none.mp found)
    refine .pure fun s same => ?_
    subst same
    exact ⟨along.1, absent ▸ gone _ _ along.2⟩
  | some entry =>
    have kept := along.1.kept kept
    obtain rfl := kept.keyed number entry found
    let idle (runs : Dict RunningEntry) (queue : List Nat) : Prop := F' runs queue ∧ entry.issue.number ∉ runs
    refine .bind (Q := fun _ s => Along settings terms o₀ idle s ∧
      (entry.kind = .work ∧ terms.steady → (s.ledger.get entry.issue.number).failures < settings.maxAttempts)) ?_ fun _ => ?_
    · refine .modify fun s same => ?_
      subst same
      refine ⟨⟨along.1.tail (.popped _ entry found (done entry found) taken), gone _ _ along.2, ?_⟩,
        fun is_work => kept.running is_work.2 _ entry found is_work.1⟩
      exact fun mem => (AList.mem_erase.mp mem).1 rfl
    · split
      · exact .pure fun _ along => ⟨along.1.1, along.1.2.1⟩
      next ending ended =>
        have settled : Remote.Triple calls (fun s => Along settings terms o₀ idle s ∧
            (entry.kind = .work ∧ terms.steady → (s.ledger.get entry.issue.number).failures < settings.maxAttempts))
            (settleExit settings entry.issue.number entry ending exit) (fun _ => Along settings terms o₀ idle) E :=
          settleExit_along fun _ _ held => held.2
        exact settled.weaken (fun _ along => along) fun _ _ along => ⟨along.1, along.2.1⟩

/-- A message finds its own run, whose session has ended. -/
theorem takeExit_along {exit : ExitWorld} (kept : Kept settings terms o₀) :
    Remote.Triple calls (Along settings terms o₀ anyRuns) (takeExit settings exit)
      (fun _ => Along settings terms o₀ anyRuns) E := by
  refine .bind_get fun o along => ?_
  cases waiting : o.queue with
  | nil => exact .pure fun s same => same ▸ along
  | cons number queue =>
    have tidy := (along.1.kept kept).toTidy
    obtain ⟨entry, found, done⟩ := tidy.done number (by rw [waiting]; exact List.mem_cons_self)
    refine .bind (Q := fun _ o => Along settings terms o₀ anyRuns o ∧ number ∉ o.queue ∧
      ∀ entry, o.running.lookup number = some entry → entry.task.isSome) ?_ fun _ =>
        handleWorkerExit_along kept fun _ _ _ => trivial
    refine .modify fun s same => ?_
    subst same
    refine ⟨⟨along.1.tail (.taken number queue waiting), trivial⟩, (List.nodup_cons.mp (waiting ▸ tidy.once)).1, ?_⟩
    intro other is_other
    rw [found, Option.some.injEq] at is_other
    exact is_other ▸ done

end Ends

section Timer

variable {issue : Issue} {entry : RetryEntry} {t : TimerWorld}

theorem requeue_along {kind : RetryKind} {delayMs : Nat} {error : String} {clock : Datetime}
    (idle : ∀ runs queue, F runs queue → entry.issueNumber ∉ runs) :
    Remote.Triple calls (Along settings terms o₀ F) (requeue entry kind delayMs error clock)
      (fun _ => Along settings terms o₀ F) E := queueRetry_along idle

theorem waitOrRelease_along {verdict : Refused} {issue : Option Issue} {w : World}
    (idle : ∀ runs queue, F runs queue → entry.issueNumber ∉ runs) :
    Remote.Triple calls (Along settings terms o₀ F) (waitOrRelease settings entry verdict issue w)
      (fun _ => Along settings terms o₀ F) E := by
  unfold waitOrRelease
  split
  · exact queueRetry_along idle
  · split
    · exact queueRetry_along idle
    · split
      · exact handleRefusal_along
      · exact .pure fun _ along => along

theorem fireEscape_along {context : BlockedContext} {w : World} (idle : ∀ runs queue, F runs queue → entry.issueNumber ∉ runs) :
    Remote.Triple calls (Along settings terms o₀ F) (fireEscape settings entry context w)
      (fun _ => Along settings terms o₀ F) E := by
  refine Quiet.await.along.bind fun outcome => recordEscape_along.bind fun _ => ?_
  cases outcome with
  | applied => exact Quiet.bumpBlocked.along
  | skipped => exact .pure fun _ along => along
  | failed => exact queueRetry_along idle

theorem fireAdmitted_along {attempt : Nat} (idle : ∀ runs queue, F runs queue → entry.issueNumber ∉ runs) :
    Remote.Triple calls (AlongReady settings terms o₀ F issue .work) (fireAdmitted settings entry issue attempt t)
      (fun _ => Along settings terms o₀ anyRuns) E := by
  refine .bind (bindAccount_quiet _ _ _ AlongReady.stable) fun (account, ready) => ?_
  dsimp only
  cases ready with
  | true => exact dispatch_along.bind fun _ => .pure fun _ along => along
  | false =>
    refine .bind (Quiet.get _ _ _ AlongReady.stable) fun o => ?_
    have waits {kind : RetryKind} {error : String} :
        Remote.Triple calls (AlongReady settings terms o₀ F issue .work)
          (requeue entry kind settings.intervalMs error t.world.clock) (fun _ => Along settings terms o₀ anyRuns) E :=
      (requeue_along idle).weaken (fun _ along => along.1) fun _ _ along => along.any
    split <;> exact waits

theorem fireRefreshed_along (idle : ∀ runs queue, F runs queue → entry.issueNumber ∉ runs) :
    Remote.Triple calls (Along settings terms o₀ F) (fireRefreshed settings entry issue t)
      (fun _ => Along settings terms o₀ anyRuns) E := by
  unfold fireRefreshed
  split
  · exact finish_along.weaken (fun _ along => along) fun _ _ along => along.any
  · refine admits_bind (fun refused => ?_) fun admitted => fireAdmitted_along idle
    exact (waitOrRelease_along idle).weaken (fun _ along => along) fun _ _ along => along.any

theorem fireRun_along (idle : ∀ runs queue, F runs queue → entry.issueNumber ∉ runs) :
    Remote.Triple calls (Along settings terms o₀ F) (fireRun settings entry t) (fun _ => Along settings terms o₀ anyRuns) E := by
  refine admitUnread_quiet.along.bind fun verdict => ?_
  cases verdict with
  | error refused => exact (waitOrRelease_along idle).weaken (fun _ along => along) fun _ _ along => along.any
  | ok _ =>
    refine Quiet.await.along.bind fun refreshed => ?_
    match refreshed with
    | .error error => exact (requeue_along idle).weaken (fun _ along => along) fun _ _ along => along.any
    | .ok [] => exact .pure fun _ along => along.any
    | .ok (issue :: _) => exact fireRefreshed_along idle

theorem fire_along (idle : ∀ runs queue, F runs queue → entry.issueNumber ∉ runs) :
    Remote.Triple calls (Along settings terms o₀ F) (fire settings entry t) (fun _ => Along settings terms o₀ anyRuns) E := by
  unfold fire
  split
  · exact (fireEscape_along idle).weaken (fun _ along => along) fun _ _ along => along.any
  · exact fireRun_along idle

/-- An entry that waits is of an issue that does not run. -/
theorem fireDue_along (kept : Kept settings terms o₀) :
    Remote.Triple calls (Along settings terms o₀ anyRuns) (fireDue settings entry t) (fun _ => Along settings terms o₀ anyRuns)
      E := by
  refine .bind_get fun o along => ?_
  split
  · exact .pure fun s same => same ▸ along
  next live =>
    simp only [Bool.or_eq_true, decide_eq_true_eq, not_or, not_not] at live
    have waits : entry.issueNumber ∈ o.retries := AList.lookup_isSome.mp (by rw [live.2]; rfl)
    have idle := (along.1.kept kept).apart _ waits
    refine .bind (.modify (Q := fun _ => Along settings terms o₀ fun runs _ => entry.issueNumber ∉ runs) fun s same => ?_)
      fun _ => fire_along fun _ _ idle => idle
    subst same
    exact ⟨along.1.tail (.dropped _ fun number mem => (AList.mem_erase.mp mem).2), idle⟩

theorem fireDueRetries_along {clock : Datetime} {worlds : Nat → TimerWorld} (kept : Kept settings terms o₀) :
    Remote.Triple calls (Along settings terms o₀ anyRuns) (fireDueRetries settings clock worlds)
      (fun _ => Along settings terms o₀ anyRuns) E :=
  Quiet.get.along.bind fun _ => along_passLoop fun _ _ => fireDue_along kept

end Timer

section Tick

variable {t : TickWorld}

theorem SameRun.refl {entry : RunningEntry} : SameRun terms entry entry :=
  ⟨rfl, rfl, rfl, rfl, rfl, rfl, fun _ _ stalled => stalled, fun _ => rfl⟩

/-- A stop, not late if it is for a stall. -/
theorem stop_sameRun {entry : RunningEntry} {cause : StopCause} {detail : String}
    (late : terms.punctual → entry.task.isSome → cause = .stalled → entry.stopCause = some .stalled) :
    SameRun terms entry (entry.stop cause detail) := by
  unfold RunningEntry.stop
  split
  next fresh =>
    refine ⟨rfl, rfl, rfl, rfl, rfl, rfl, fun punctual done stalled => late punctual done (Option.some.inj stalled),
      fun stopped => ?_⟩
    rw [Option.isNone_iff_eq_none.mp fresh] at stopped
    cases stopped
  · exact .refl

theorem SameRun.trans {first second third : RunningEntry} (one : SameRun terms first second) (two : SameRun terms second third) :
    SameRun terms first third :=
  ⟨two.kind.trans one.kind, two.number.trans one.number, two.runId.trans one.runId, two.account.trans one.account,
    two.task.trans one.task, two.stopAtEnd.trans one.stopAtEnd, fun punctual done stalled =>
      one.late punctual done (two.late punctual (by rwa [one.task]) stalled), fun stopped =>
      (two.recorded (by rwa [one.recorded stopped])).trans (one.recorded stopped)⟩

theorem stallCheck_sameRun {clock : Datetime} {entry : RunningEntry}
    (onTime : terms.punctual → entry.task.isSome → stallCheck settings clock entry = entry) :
    SameRun terms entry (stallCheck settings clock entry) := by
  refine ⟨?_, ?_, ?_, ?_, ?_, ?_, fun punctual done stalled => by rwa [onTime punctual done] at stalled,
    fun stopped => by rw [stallCheck, if_pos stopped]⟩
  all_goals
    unfold stallCheck RunningEntry.stop
    split
    · rfl
    · dsimp only
      split
      · split <;> rfl
      · rfl

theorem refreshWork_sameRun {clock : Datetime} {current : Issue} {entry : RunningEntry} :
    SameRun terms entry (refreshWork settings clock current entry) := by
  unfold refreshWork
  split
  · exact .refl
  · split
    · split
      · exact ⟨rfl, rfl, rfl, rfl, rfl, rfl, fun _ _ stalled => stalled, fun _ => rfl⟩
      · split
        · exact stop_sameRun fun _ _ other => by cases other
        · exact .refl
    · exact stop_sameRun fun _ _ other => by cases other

theorem refreshTrack_sameRun {wanted : List String} {gone : String} {current : Issue} {entry : RunningEntry} :
    SameRun terms entry (refreshTrack wanted gone current entry) := by
  unfold refreshTrack
  split
  · exact stop_sameRun fun _ _ other => by cases other
  · split
    · exact stop_sameRun fun _ _ other => by cases other
    · exact .refl

/-- A refresh reads the run's own issue. -/
theorem refreshEntry_sameRun {clock : Datetime} {current : Option Issue} {entry : RunningEntry}
    (own : ∀ issue, current = some issue → issue.number = entry.issue.number) :
    SameRun terms entry (refreshEntry settings clock current entry) := by
  cases current with
  | none => exact stop_sameRun fun _ _ other => by cases other
  | some current =>
    have same := own current rfl
    unfold refreshEntry
    dsimp only
    split
    · have closed : SameRun terms entry { entry with terminalIssue := some current } := ⟨rfl, rfl, rfl, rfl, rfl, rfl, fun _ _ stalled => stalled, fun _ => rfl⟩
      exact closed.trans (stop_sameRun fun _ _ other => by cases other)
    · have read : SameRun terms entry { entry with issue := current, terminalIssue := none } := ⟨rfl, same, rfl, rfl, rfl, rfl, fun _ _ stalled => stalled, fun _ => rfl⟩
      split
      · exact read.trans refreshWork_sameRun
      · exact read.trans refreshTrack_sameRun
      · exact read.trans refreshTrack_sameRun

theorem touched_along {f : Nat → RunningEntry → RunningEntry} (kept : Kept settings terms o₀)
    (same : ∀ number entry, entry.issue.number = number → SameRun terms entry (f number entry)) :
    Remote.Triple calls (Along settings terms o₀ anyRuns)
      (.modify fun o => { o with running := o.running.mapValues f }) (fun _ => Along settings terms o₀ anyRuns) E := by
  refine .modify fun o along => along.move (.touched f fun number entry found => ?_) id
  exact same number entry ((along.1.kept kept).keyed number entry found)

theorem sweepTerminal_along {issue : Issue} {w : World} :
    Remote.Triple calls (Along settings terms o₀ anyRuns) (sweepTerminal issue w) (fun _ => Along settings terms o₀ anyRuns)
      E := by
  refine Quiet.get.along.bind fun o => ?_
  split
  · exact .pure fun _ along => along
  · refine .bind (along_modify ?_ fun _ => ⟨rfl, rfl⟩) fun _ => finish_along
    exact fun _ _ => .dropped _ fun number mem => (AList.mem_erase.mp mem).2

theorem reconcile_along {r : ReconcileWorld} (kept : Kept settings terms o₀) :
    Remote.Triple calls
      (fun o => Along settings terms o₀ anyRuns o ∧ (terms.punctual → OnTime settings r.clock o))
      (reconcile settings r) (fun _ => Along settings terms o₀ anyRuns) E := by
  have stalls : Remote.Triple calls
      (fun o => Along settings terms o₀ anyRuns o ∧ (terms.punctual → OnTime settings r.clock o))
      (checkStalls settings r.clock) (fun _ => Along settings terms o₀ anyRuns) E := by
    refine .when (fun timeout => .modify fun o along => along.1.move (.touched _ fun number entry found => ?_) id)
      fun _ _ along => along.1
    exact stallCheck_sameRun fun punctual done => along.2 punctual (by simpa using timeout) number entry found done
  have refreshed : Remote.Triple calls (Along settings terms o₀ anyRuns) (refreshRunning settings r.clock r.refreshed)
      (fun _ => Along settings terms o₀ anyRuns) E := by
    refine Quiet.await.along.bind fun answer => ?_
    cases answer with
    | error => exact .pure fun _ along => along
    | ok issues =>
      refine touched_along kept fun number entry keyed => refreshEntry_sameRun fun issue found => ?_
      exact (by simpa using List.find?_some found : issue.number = number).trans keyed.symm
  have swept : Remote.Triple calls (Along settings terms o₀ anyRuns) (terminalSweep r.terminal r.worlds)
      (fun _ => Along settings terms o₀ anyRuns) E := by
    refine Quiet.await.along.bind fun answer => ?_
    cases answer with
    | error => exact .pure fun _ along => along
    | ok issues => exact along_passLoop fun _ _ => sweepTerminal_along
  refine stalls.bind fun _ => Quiet.get.along.bind fun o => ?_
  refine .bind (.when (fun _ => refreshed) fun _ _ along => along) fun _ => ?_
  exact .when (fun _ => swept) fun _ _ along => along

theorem dispatchPolled_along {issues : Option (List Issue)} :
    Remote.Triple calls (Along settings terms o₀ anyRuns) (dispatchPolled settings t issues)
      (fun _ => Along settings terms o₀ anyRuns) E :=
  readParents_quiet.along.bind fun _ => dispatchParentReviews_along.bind fun _ =>
    dispatchCandidates_along.bind fun _ => .pure fun _ along => along

theorem dispatchAll_along :
    Remote.Triple calls (Along settings terms o₀ anyRuns) (dispatchAll settings t) (fun _ => Along settings terms o₀ anyRuns)
      E :=
  Quiet.await.along.bind fun _ => retryPendingVerdicts_quiet.along.bind fun _ => Quiet.await.along.bind fun _ =>
    dispatchTriage_along.bind fun _ => fetchIssues_quiet.along.bind fun _ => dispatchPolled_along.bind fun _ =>
      .pure fun _ along => along

theorem pollOrDispatch_along :
    Remote.Triple calls (Along settings terms o₀ anyRuns) (pollOrDispatch settings t)
      (fun _ => Along settings terms o₀ anyRuns) E := by
  unfold pollOrDispatch
  split
  · refine Quiet.get.along.bind fun o => ?_
    refine (Quiet.along (Quiet.when (Quiet.bind Quiet.await fun _ => Quiet.changeHolds))).bind fun _ => ?_
    refine Quiet.get.along.bind fun _ => ?_
    split
    · exact (retryPendingVerdicts_quiet.bind fun _ => pollIssues_quiet).along
    · exact dispatchAll_along.bind fun _ => .pure fun _ along => along
  · exact (Quiet.ite .changeHolds pollIssues_quiet).along

theorem tickLoaded_along :
    Remote.Triple calls (Along settings terms o₀ anyRuns) (tickLoaded settings t)
      (fun _ => Along settings terms o₀ anyRuns) E := by
  refine settleHolds_quiet.along.bind fun _ => Quiet.changeHolds.along.bind fun _ => pollOrDispatch_along.bind fun _ =>
    discardTriageWorkspaces_quiet.along.bind fun _ => Quiet.along (.modify ?_)
  exact fun _ => .of_ledger rfl rfl id

/-- Every session has ended, no message waits, and the runs left are of these issues. -/
def draining (rest : List Nat) (runs : Dict RunningEntry) (queue : List Nat) : Prop :=
  queue = [] ∧ (∀ number entry, runs.lookup number = some entry → entry.task.isSome) ∧ ∀ number ∈ runs, number ∈ rest

theorem drain_along {rest : List Nat} {exits : Nat → ExitWorld} (kept : Kept settings terms o₀) :
    Remote.Triple calls (Along settings terms o₀ (draining rest)) (passLoop (handleWorkerExit settings) rest exits)
      (fun _ => Along settings terms o₀ (draining [])) E := by
  induction rest generalizing exits with
  | nil => exact .pure fun _ along => along
  | cons number rest ih =>
    refine .bind (Q := fun _ => Along settings terms o₀ (draining rest)) ?_ fun _ => ih
    refine (handleWorkerExit_along kept fun runs queue held => ?_).before fun o along =>
      ⟨along, by rw [along.2.1]; exact List.not_mem_nil, along.2.2.1 number⟩
    refine ⟨held.1, fun other entry found => held.2.1 other entry (Dict.lookup_of_erase found), fun other mem => ?_⟩
    obtain ⟨ne, mem⟩ := AList.mem_erase.mp mem
    exact (List.mem_cons.mp (held.2.2 other mem)).resolve_left ne

/-- A shutdown leaves no run and no retry. -/
theorem shutdown_along {ends : Nat → RunEnd} {exits : Nat → ExitWorld} (kept : Kept settings terms o₀) :
    Remote.Triple calls (Along settings terms o₀ anyRuns) (shutdown settings ends exits)
      (fun _ o => Along settings terms o₀ anyRuns o ∧ (∀ number, number ∉ o.running) ∧ o.retries = ∅) E := by
  refine Quiet.requestStop.along.bind fun _ =>
    (touched_along kept fun _ _ _ => stop_sameRun fun _ _ other => by cases other).bind fun _ => ?_
  let allDone (runs : Dict RunningEntry) (queue : List Nat) : Prop :=
    queue = [] ∧ ∀ number entry, runs.lookup number = some entry → entry.task.isSome
  refine .bind (.modify (Q := fun _ => Along settings terms o₀ allDone) fun o along =>
    ⟨along.1.tail (.drained ends), rfl, fun number entry found => ?_⟩) fun _ => ?_
  · obtain ⟨before, -, rfl⟩ := found_mapValues found
    exact finish_isSome
  · refine .bind_get fun o along => .bind ((drain_along kept).before fun s same => ?_) fun _ => ?_
    · subst same
      exact ⟨along.1, along.2.1, along.2.2, fun number mem => List.mem_reverse.mpr (AList.mem_keys.mp mem)⟩
    · refine .modify fun o along => ⟨along.any.move (.dropped _ fun number mem => ?_) id, fun number mem => ?_, rfl⟩
      · exact absurd mem (AList.notMem_empty number)
      · exact absurd (along.2.2.2 number mem) List.not_mem_nil

/-- A session's end finds its entry still going, or is nothing. -/
theorem sessionEnded_along {number : Nat} {ending : RunEnd} :
    Remote.Triple calls (Along settings terms o₀ anyRuns) (sessionEnded number ending)
      (fun _ => Along settings terms o₀ anyRuns) E := by
  refine .bind_get fun o along => ?_
  split
  next found =>
    refine .modify fun s same => ?_
    subst same
    exact along.move (.taskOver number ending _ found rfl) id
  next => exact .pure fun s same => same ▸ along

end Tick

section Run

variable {action : Action} {actions : List Action} {o o' : Orchestrator}

/-- Under fixed settings. -/
theorem act_along (kept : Kept settings terms o₀) :
    Remote.Triple calls
      (fun o => Along settings terms o₀ anyRuns o ∧ (terms.punctual → Punctual settings o action))
      (act settings action) (fun _ => Along settings terms o₀ anyRuns) E := by
  have drop {x : Pass Unit} (h : Remote.Triple calls (Along settings terms o₀ anyRuns) x
      (fun _ => Along settings terms o₀ anyRuns) E) :
      Remote.Triple calls
        (fun o => Along settings terms o₀ anyRuns o ∧ (terms.punctual → Punctual settings o action)) x
        (fun _ => Along settings terms o₀ anyRuns) E := h.before fun _ along => along.1
  cases action with
  | tick t =>
    refine .bind ((reconcile_along kept).before fun o along => ?_) fun _ => tickLoaded_along
    exact ⟨along.1, fun punctual => along.2 punctual t rfl⟩
  | workerExited exit => exact drop (takeExit_along kept)
  | timer clock worlds => exact drop (fireDueRetries_along kept)
  | sessionTurn number clock turns =>
    refine drop (touched_along kept fun other entry _ => ?_)
    dsimp only
    split
    · exact ⟨rfl, rfl, rfl, rfl, rfl, rfl, fun _ _ stalled => stalled, fun _ => rfl⟩
    · exact .refl
  | sessionEnded number ending => exact drop sessionEnded_along
  | stopRequested => exact drop Quiet.requestStop.along
  | shutdown ends exits => exact drop ((shutdown_along kept).weaken (fun _ along => along) fun _ _ along => along.1)
  | relabelled number family =>
    refine drop (Quiet.along (.modify ?_))
    exact fun _ => .of_ledger rfl rfl id

/-- What a program that keeps the way leads to. -/
theorem reached_of_along {x : Pass Unit} {P : Orchestrator → Prop} (along : ∀ calls E,
    Remote.Triple calls (fun s => Along settings terms o anyRuns s ∧ P s) x
      (fun _ => Along settings terms o anyRuns) E) (here : P o) : Reached settings terms o (Pass.after x o) := by
  have ended : Along settings terms o anyRuns (Pass.after x o) := by
    rw [Pass.after_eq Empty.elim]
    exact Remote.Triple.after (along Empty.elim fun _ => Along settings terms o anyRuns) ⟨⟨.refl, trivial⟩, here⟩
  exact ended.1

/-- Whatever happens to the worker is a run of moves. -/
theorem act_reached (kept : Kept settings terms o) (punctual : terms.punctual → Punctual settings o action) :
    Reached settings terms o (Pass.after (act settings action) o) := reached_of_along (fun _ _ => act_along kept) punctual

/-- A step, and a tick in it not late where the terms say so. -/
def TimedStep (settings : Settings py) (terms : Terms) (o : Orchestrator) (action : Action) (o' : Orchestrator) : Prop :=
  Step settings o action o' ∧ (terms.punctual → Punctual settings o action)

/-- A whole run of the worker is a run of moves. -/
theorem timed_reached (run : Steps (TimedStep settings terms) o actions o') (kept : Kept settings terms o) :
    Reached settings terms o o' := by
  induction run with
  | nil => exact .refl
  | @cons s s' s'' action actions step _ ih =>
    have first : Reached settings terms s s' := by
      rw [step.1]
      exact act_reached kept step.2
    exact first.trans (ih (first.kept kept))

/-- The actions one after another are a run. -/
theorem actAll_steps : Steps (Step settings) o actions (actAll settings o actions) := by
  induction actions generalizing o with
  | nil => exact .nil o
  | cons action actions ih => exact .cons rfl ih

/-- Only a tick loads anything. -/
theorem actLoading_of_not_tick (others : ∀ t, action ≠ .tick t) : actLoading settings loaded action = act settings action := by
  cases action with
  | tick t => exact absurd rfl (others t)
  | workerExited | timer | sessionTurn | sessionEnded | stopRequested | shutdown | relabelled => rfl

/-- The actions one after another are a run whose reloads change nothing. -/
theorem actAll_reloads :
    Steps ReloadStep ⟨settings, o⟩ (actions.map (Prod.mk settings)) ⟨settings, actAll settings o actions⟩ := by
  induction actions generalizing o with
  | nil => exact .nil _
  | cons action actions ih =>
    have first : ReloadStep ⟨settings, o⟩ (settings, action) ⟨settings, Pass.after (act settings action) o⟩ :=
      ⟨rfl, by cases action <;> rfl⟩
    exact .cons first ih

/-- A tick, and the settings it loads. -/
theorem tick_reloads {t : TickWorld} :
    ReloadStep ⟨settings, o⟩ (loaded, .tick t) ⟨loaded, Pass.after (tick settings loaded t) o⟩ := ⟨rfl, rfl⟩

/-- With a reload: moves under the settings in force, and then under those loaded. -/
theorem reload_reached {live live' : Live py} {label : Settings py × Action} (step : ReloadStep live label live')
    (kept : Kept live.settings .reloading live.worker) :
    ∃ middle, Reached live.settings .reloading live.worker middle ∧ Reached live'.settings .reloading middle live'.worker := by
  obtain ⟨loaded, action⟩ := label
  obtain ⟨worker, settings⟩ := step
  by_cases is_tick : ∃ t, action = .tick t
  · obtain ⟨t, rfl⟩ := is_tick
    have split : Pass.after (actLoading live.settings loaded (.tick t)) live.worker =
        Pass.after (tickLoaded loaded t) (Pass.after (reconcile live.settings t.reconcile) live.worker) := Pass.after_bind
    refine ⟨Pass.after (reconcile live.settings t.reconcile) live.worker,
      reached_of_along (fun _ _ => reconcile_along kept) False.elim, ?_⟩
    rw [worker, settings, split]
    exact reached_of_along (P := fun _ => True) (fun _ _ => tickLoaded_along.before fun _ along => along.1) trivial
  · have others : ∀ t, action ≠ .tick t := fun t same => is_tick ⟨t, same⟩
    refine ⟨live'.worker, ?_, .refl⟩
    rw [worker, actLoading_of_not_tick others]
    exact act_reached kept False.elim

/-- What every move keeps of a worker in order, whatever the settings in force, every run with
reloads keeps. -/
theorem reloads_keep {Inv : Orchestrator → Prop}
    (keeps : ∀ (settings : Settings py) o o', Move settings .reloading o o' → Tidy o → Inv o → Inv o')
    {live live' : Live py} {labels : List (Settings py × Action)} (run : Steps ReloadStep live labels live')
    (tidy : Tidy live.worker) (inv : Inv live.worker) : Tidy live'.worker ∧ Inv live'.worker := by
  have along {settings : Settings py} {o o' : Orchestrator} (reached : Reached settings .reloading o o')
      (held : Tidy o ∧ Inv o) : Tidy o' ∧ Inv o' := by
    induction reached with
    | refl => exact held
    | tail _ move ih => exact ⟨move.tidy ih.1, keeps _ _ _ move ih.1 ih.2⟩
  induction run with
  | nil => exact ⟨tidy, inv⟩
  | cons step _ ih =>
    obtain ⟨middle, first, second⟩ := reload_reached step ⟨tidy, False.elim, False.elim, False.elim⟩
    have held := along second (along first ⟨tidy, inv⟩)
    exact ih held.1 held.2

/-- A worker in order stays in order, whatever is reloaded. -/
theorem reloads_tidy {live live' : Live py} {labels : List (Settings py × Action)} (run : Steps ReloadStep live labels live')
    (tidy : Tidy live.worker) : Tidy live'.worker := by
  have both : Tidy live'.worker ∧ True := reloads_keep (fun _ _ _ _ _ _ => trivial) run tidy trivial
  exact both.1

end Run

section Start

variable {entries : Dict IssueLedger} {parents : Dict ParentRecord} {families : Nat → Family} {number : Nat}

/-- What the store kept of an issue, its chain one short of the ceiling. -/
theorem seeded_get {entry : IssueLedger} (is_entry : (entries.lookup number).getD {} = entry) :
    ((seeded settings entries).lookup number).getD {} =
      { entry with failures := seededChain entry.failures settings.maxAttempts } := by
  subst is_entry
  rw [seeded, Dict.lookup_mapValues]
  cases entries.lookup number with
  | none => simp [seededChain]
  | some entry => rfl

theorem start_get {entry : IssueLedger} (is_entry : (entries.lookup number).getD {} = entry) :
    (start settings entries parents families).ledger.get number =
        { entry with failures := seededChain entry.failures settings.maxAttempts } ∨
      (start settings entries parents families).ledger.get number = {} ∧
        number ∈ (start settings entries parents families).ledger.evicted := by
  rw [← seeded_get is_entry]
  exact Ledger.get_ofSeed

theorem start_chain_lt :
    ((start settings entries parents families).ledger.get number).failures < settings.maxAttempts := by
  rcases @start_get _ settings entries parents families number _ rfl with seed | ⟨gone, -⟩
  · rw [seed]
    exact seededChain_lt settings.maxAttempts_pos
  · rw [gone]
    exact settings.maxAttempts_pos

/-- A worker that starts has everything in order. -/
theorem start_kept : Kept settings terms (start settings entries parents families) where
  keyed _ _ found := by cases found
  apart number waits := absurd waits (AList.notMem_empty number)
  done _ mem := by cases mem
  once := List.nodup_nil
  stopped _ _ found := by cases found
  chain _ number := start_chain_lt.le
  running _ _ _ found := by cases found
  late _ _ _ found := by cases found

end Start

end Orchestrator
end Issuebot
