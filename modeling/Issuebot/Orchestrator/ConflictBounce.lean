import Issuebot.GitHub.LabelHistory
import Issuebot.Orchestrator.Dispatch
import Issuebot.Orchestrator.Eviction

/-!
# The conflict bounce

A review issue whose pull request conflicts goes back to `rework`, and at most
`max_conflict_reworks` times: every bounce adds the label under the worker's account, so the
timeline counts at least as many additions as there were bounces (`Bounded`), and the count is read
just before the write. That survives restarts, rewritten workpads and writes whose answer is lost.

An escape is not undone: it marks the issue's ledger entry, which only a dispatch clears. What does
not last is the entry, and an issue that is finished and opened again starts from nothing.
-/

namespace Issuebot
set_option autoImplicit false
open Logic Remote

/-- The tracked repository. -/
abbrev Tracker := Nat → Tracked

/-- The calls of one bounce. -/
inductive BounceCall where
  | ownLogin
  | labelEvents (page : Nat)
  | findWorkpad
  | setState
  | note
  deriving DecidableEq, Repr

inductive ConflictOutcome where
  | reworked
  | limitReached
  | limitNoted
  | failed
  | gaveUp
  deriving DecidableEq, Repr

structure BounceConfig (py : Py) where
  labels : GitHubLabels py
  login : String
  maxConflictReworks : Nat

/-- What one process remembers, and the repository, which outlives it. -/
structure Bouncer where
  ledger : Ledger
  conflictLimitNoted : Dict Nat := ∅
  conflictGaveUp : Dict Datetime := ∅
  published : List (Nat × Event) := []
  tracker : Tracker

/-- A program of one poll, its calls named by the issue's place in it. -/
abbrev Bouncing (α : Type) := Remote (Nat × BounceCall) GitHubError Bouncer α

/-- `set_state`, by the account `login`. -/
def Tracked.setState {py : Py} (labels : GitHubLabels py) (login : String) (state : StateLabel) (tracked : Tracked) :
    Tracked :=
  let others := StateLabel.all.filter (· ≠ state)
  tracked.editLabels py login [labels.labelName state] (others.map labels.labelName)

/-- The label write of a bounce, which may move the issue from `review` to `rework`. -/
def Tracked.bounce {py : Py} (labels : GitHubLabels py) (login : String) (tracked : Tracked) : Tracked :=
  let moves := py.lower labels.review ∈ tracked.labels ∧ py.lower labels.rework ∉ tracked.labels
  { tracked.setState labels login .rework with bounced := if moves then tracked.bounced + 1 else tracked.bounced }

/-- `_append_workpad`: `workpad` is the comment's body when it was read. -/
def Tracked.appendWorkpad (workpad : Option String) (block : String) (tracked : Tracked) : Tracked :=
  match workpad with
  | none => { tracked with workpad := some (tracked.workpad.getD ("## Issuebot Workpad\n\n" ++ block ++ "\n")) }
  | some body =>
    let kept := String.ofList (body.toList.reverse.dropWhile (· = '\n')).reverse
    { tracked with workpad := some (kept ++ "\n\n" ++ block ++ "\n") }

/-- A review issue whose open pull request GitHub reports as conflicting. -/
def conflictCandidate (issue : Issue) : Bool :=
  issue.state = some .review && issue.dispatchable &&
    issue.linkedPr.any fun pr => pr.state = .opened && pr.mergeable = .conflicting

section Blocks

variable {py : Py} (labels : GitHubLabels py) (pr limit : Nat) (now : Datetime)

def conflictHeading : String := "### Issuebot merge conflict ("

def conflictLimitHeading : String := "### Issuebot merge conflict limit ("

/-- The block one bounce appends to the workpad. -/
def conflictBlock (bounce : Nat) : String :=
  conflictHeading ++ utcStamp now ++ ")\n\nPull request #" ++ toString pr ++
    " conflicts with the default branch (bounce " ++ toString bounce ++ " of " ++ toString limit ++ ").\nMoved to `" ++
    labels.rework ++ "`: the next session merges the default branch into the branch, resolves the conflict, " ++
    "re-runs validation and returns the issue to `" ++ labels.review ++ "`."

/-- The block written once when the bounces are used up. -/
def conflictLimitBlock : String :=
  conflictLimitHeading ++ utcStamp now ++ ")\n\nPull request #" ++ toString pr ++
    " conflicts with the default branch again. issuebot has moved this issue to `" ++ labels.rework ++ "` " ++
    toString limit ++ (if limit = 1 then " time" else " times") ++ " for it and will not again. " ++
    "A human resolves the conflict on the branch, or moves the issue."

end Blocks

section Programs

variable {py : Py} (config : BounceConfig py) (meanwhile : Nat × BounceCall → Tracker → Tracker)
variable (position number : Nat)

/-- A call for one issue, before which the others have done as they pleased. -/
def awaitGitHub {α : Type} (call : BounceCall) (effect : Tracked → α × Tracked) : Bouncing α := do
  modify fun s => { s with tracker := meanwhile (position, call) s.tracker }
  Remote.call (position, call) fun s =>
    let (answer, changed) := effect (s.tracker number)
    (answer, { s with tracker := Function.update s.tracker number changed })

/-- The pages of the label history from `page` on, at most `left` of them, the additions counted. -/
def countPages (label : String) : (left page count : Nat) → Bouncing Nat
  | 0, _, _ => .raise
      { category := .response
        message := "label history of #" ++ toString number ++ " runs past " ++
          toString (maxTimelinePages * pageSize) ++ " events" }
  | left + 1, page, count => do
    let connection ← awaitGitHub meanwhile position number (.labelEvents page) fun tracked =>
      (tracked.labelEvents page, tracked)
    let count := count + connection.nodes.countP (LabelEvent.isOwn py config.login label)
    if connection.hasNextPage then countPages label left (page + 1) count else pure count

/-- How many times the worker's account has added `label` to the issue. -/
def countOwnLabelAdditions (label : String) : Bouncing Nat := do
  awaitGitHub meanwhile position number .ownLogin fun tracked => ((), tracked)
  countPages config meanwhile position number label maxTimelinePages 0 0

/-- Add `block` to the workpad, or make the workpad with it. -/
def appendWorkpad (workpad : Option String) (block : String) : Bouncing Unit :=
  awaitGitHub meanwhile position number .note fun tracked => ((), tracked.appendWorkpad workpad block)

/-- The count and the write of a bounce: an outcome, or the bounces before it and the workpad. -/
def countAndMove (pr : LinkedPr) (now : Datetime) : Bouncing (ConflictOutcome ⊕ Nat × Option String) := do
  let bounces ← countOwnLabelAdditions config meanwhile position number config.labels.rework
  let workpad ← awaitGitHub meanwhile position number .findWorkpad fun tracked => (tracked.workpad, tracked)
  if bounces ≥ config.maxConflictReworks then
    if conflictLimitHeading.toList <:+: (workpad.getD "").toList then pure (.inl .limitNoted)
    else do
      appendWorkpad meanwhile position number workpad
        (conflictLimitBlock config.labels pr.number config.maxConflictReworks now)
      pure (.inl .limitReached)
  else do
    awaitGitHub meanwhile position number .setState fun tracked =>
      ((), tracked.bounce config.labels config.login)
    pure (.inr (bounces, workpad))

/-- What follows a bounce: the transition is published, and the note may fail. -/
def reworked (issue : Issue) (pr : LinkedPr) (now : Datetime) (bounces : Nat) (workpad : Option String) :
    Bouncing ConflictOutcome := do
  modify fun s =>
    { s with
      published := s.published ++
        [(issue.number, .stateChanged issue.stateLabels.head? (some config.labels.rework) none)] }
  let _ ← (appendWorkpad meanwhile position issue.number workpad
    (conflictBlock config.labels pr.number config.maxConflictReworks now (bounces + 1))).attempt
  pure .reworked

/-- Move a review issue whose pull request conflicts to `rework`, at most `maxConflictReworks` times. -/
def conflictRework (issue : Issue) (now : Datetime) : Bouncing ConflictOutcome :=
  match issue.linkedPr with
  | none => pure .failed
  | some pr => do
    match ← (countAndMove config meanwhile position issue.number pr now).attempt with
    | .error error => pure (if error.category = .response then .gaveUp else .failed)
    | .ok (.inl outcome) => pure outcome
    | .ok (.inr (bounces, workpad)) => reworked config meanwhile position issue pr now bounces workpad

/-- The memos after an outcome. -/
def Bouncer.noted (limit : Nat) (issue : Issue) (outcome : ConflictOutcome) (s : Bouncer) : Bouncer :=
  { s with
    conflictGaveUp :=
      if outcome = .gaveUp then s.conflictGaveUp.set issue.number issue.updatedAt
      else s.conflictGaveUp.erase issue.number
    conflictLimitNoted :=
      if outcome = .limitReached ∨ outcome = .limitNoted then s.conflictLimitNoted.set issue.number limit
      else s.conflictLimitNoted }

/-- One poll: its issues, those the orchestrator holds, and what happens around its calls. -/
structure Poll where
  issues : List Issue
  running : List Nat := []
  retries : List Nat := []
  clock : Nat → Datetime := fun _ => 0
  meanwhile : Nat × BounceCall → Tracker → Tracker := fun _ tracker => tracker
  fates : Nat × BounceCall → Fate GitHubError := fun _ => .answered

/-- The bounce leaves the issue alone. -/
def Bouncer.passesOver (poll : Poll) (limit : Nat) (issue : Issue) (s : Bouncer) : Bool :=
  !conflictCandidate issue || poll.running.contains issue.number || poll.retries.contains issue.number ||
    (s.ledger.get issue.number).escaped || s.conflictLimitNoted.lookup issue.number = some limit ||
    s.conflictGaveUp.lookup issue.number = some issue.updatedAt

def bounceConflict (poll : Poll) (issue : Issue) : Bouncing Unit := do
  let s ← get
  .when (!s.passesOver poll config.maxConflictReworks issue) do
    let outcome ← conflictRework config poll.meanwhile position issue (poll.clock position)
    modify (Bouncer.noted config.maxConflictReworks issue outcome)

/-- `_bounce_conflicts` -/
def bounceConflicts (poll : Poll) : Bouncing Unit :=
  .when (0 < config.maxConflictReworks)
    (poll.issues.zipIdx.foldlM (fun _ found => bounceConflict config found.2 poll found.1) ())

end Programs
section Bound

variable {py : Py} {config : BounceConfig py} {meanwhile : Nat × BounceCall → Tracker → Tracker}
variable {position number : Nat} {F : Nat × BounceCall → Fate GitHubError}

/-- What the others do between two calls. -/
def Meddles (change : Tracker → Tracker) : Prop :=
  ∀ (tracker : Tracker) number, (tracker number).Grows (change tracker number)

/-- Every bounce is in the timeline, and there are no more of them than may be. -/
def Bounded (config : BounceConfig py) (s : Bouncer) : Prop :=
  ∀ number, (s.tracker number).bounced ≤ config.maxConflictReworks ∧
    (s.tracker number).bounced ≤ (s.tracker number).ownAdditions py config.login config.labels.rework

/-- Bounded, and no more bounces of the issue than `count`. -/
def Counted (config : BounceConfig py) (number count : Nat) (s : Bouncer) : Prop :=
  Bounded config s ∧ (s.tracker number).bounced ≤ count

theorem Bounded.others {s : Bouncer} (bounded : Bounded config s) {change : Tracker → Tracker} (meddles : Meddles change) :
    Bounded config { s with tracker := change s.tracker } := by
  intro number
  obtain ⟨within, shown⟩ := bounded number
  have grows := meddles s.tracker number
  constructor
  · show (change s.tracker number).bounced ≤ _
    rw [grows.bounced]
    exact within
  · show (change s.tracker number).bounced ≤ _
    rw [grows.bounced]
    exact shown.trans (Tracked.ownAdditions_mono grows.history)

theorem Bounded.update {s : Bouncer} (bounded : Bounded config s) {changed : Tracked}
    (here : changed.bounced ≤ config.maxConflictReworks ∧
      changed.bounced ≤ changed.ownAdditions py config.login config.labels.rework) :
    Bounded config { s with tracker := Function.update s.tracker number changed } := by
  intro other
  show (Function.update s.tracker number changed other).bounced ≤ _ ∧ _
  by_cases same : other = number
  · subst same
    simpa using here
  · simpa [same] using bounded other

/-- A call, by its fates, between which the others act. -/
theorem awaitGitHub_triple {α : Type} {call : BounceCall} {effect : Tracked → α × Tracked} {P : Bouncer → Prop}
    {Q : α → Bouncer → Prop} {E : GitHubError → Bouncer → Prop} (meddles : ∀ call, Meddles (meanwhile call))
    (others : ∀ s change, Meddles change → P s → P { s with tracker := change s.tracker })
    (answered : ∀ s, P s → Q (effect (s.tracker number)).1
      { s with tracker := Function.update s.tracker number (effect (s.tracker number)).2 })
    (refused : ∀ e s, P s → E e s)
    (lost : ∀ e s, P s → E e { s with tracker := Function.update s.tracker number (effect (s.tracker number)).2 }) :
    Triple F P (awaitGitHub meanwhile position number call effect) Q E := by
  apply Triple.bind (Q := fun _ => P)
  · exact Triple.modify fun s holds => others s _ (meddles _) holds
  · intro _
    exact Triple.call answered refused fun e s _ => lost e s

/-- A read of one issue changes nothing. -/
theorem readGitHub_triple {α : Type} {call : BounceCall} {answer : Tracked → α} {P : Bouncer → Prop}
    {Q : α → Bouncer → Prop} {E : GitHubError → Bouncer → Prop} (meddles : ∀ call, Meddles (meanwhile call))
    (others : ∀ s change, Meddles change → P s → P { s with tracker := change s.tracker })
    (answered : ∀ s, P s → Q (answer (s.tracker number)) s) (refused : ∀ e s, P s → E e s) :
    Triple F P (awaitGitHub meanwhile position number call fun tracked => (answer tracked, tracked)) Q E := by
  have same : ∀ s : Bouncer, { s with tracker := Function.update s.tracker number (s.tracker number) } = s := by
    intro s
    rw [Function.update_eq_self]
  apply awaitGitHub_triple meddles others
  · intro s holds
    rw [same]
    exact answered s holds
  · exact refused
  · intro e s holds
    rw [same]
    exact refused e s holds

theorem Counted.others {count : Nat} {s : Bouncer} {change : Tracker → Tracker} (meddles : Meddles change)
    (counted : Counted config number count s) : Counted config number count { s with tracker := change s.tracker } :=
  ⟨counted.1.others meddles, ((meddles s.tracker number).bounced).trans_le counted.2⟩

/-- The pages before `page` are read and their additions counted. -/
structure ReadTo (config : BounceConfig py) (number page count : Nat) (s : Bouncer) : Prop where
  bounded : Bounded config s
  within : page * pageSize ≤ (s.tracker number).history.length
  counted : ((s.tracker number).history.take (page * pageSize)).countP
    (LabelEvent.isOwn py config.login config.labels.rework) ≤ count

theorem ReadTo.others {page count : Nat} {s : Bouncer} {change : Tracker → Tracker} (meddles : Meddles change)
    (read : ReadTo config number page count s) : ReadTo config number page count { s with tracker := change s.tracker } := by
  have grows := (meddles s.tracker number).history
  refine ⟨read.bounded.others meddles, read.within.trans grows.length_le, ?_⟩
  show ((change s.tracker number).history.take _).countP _ ≤ count
  rw [Tracked.take_grown grows read.within]
  exact read.counted

/-- A timeline read to its end has shown every bounce. -/
theorem ReadTo.last {page count : Nat} {s : Bouncer} (read : ReadTo config number page count s)
    (last : ((s.tracker number).labelEvents page).hasNextPage = false) :
    Counted config number (count + ((s.tracker number).labelEvents page).nodes.countP
      (LabelEvent.isOwn py config.login config.labels.rework)) s := by
  refine ⟨read.bounded, (read.bounded number).2.trans ?_⟩
  have whole := @Tracked.count_page py config.login config.labels.rework page (s.tracker number)
  rw [Tracked.take_last last] at whole
  have before := read.counted
  show List.countP _ _ ≤ _
  omega

theorem ReadTo.next {page count : Nat} {s : Bouncer} (read : ReadTo config number page count s)
    (more : ((s.tracker number).labelEvents page).hasNextPage = true) :
    ReadTo config number (page + 1) (count + ((s.tracker number).labelEvents page).nodes.countP
      (LabelEvent.isOwn py config.login config.labels.rework)) s := by
  refine ⟨read.bounded, ?_, ?_⟩
  · have longer : (page + 1) * pageSize < (s.tracker number).history.length := of_decide_eq_true more
    exact longer.le
  · rw [Tracked.count_page]
    exact Nat.add_le_add_right read.counted _

/-- A count of a timeline that only grows is never too small. -/
theorem countPages_triple (meddles : ∀ call, Meddles (meanwhile call)) (left page count : Nat) :
    Triple F (ReadTo config number page count)
      (countPages config meanwhile position number config.labels.rework left page count)
      (Counted config number) fun _ => Bounded config := by
  induction left generalizing page count with
  | zero => exact Triple.raise fun s read => read.bounded
  | succ left ih =>
    apply Triple.bind (Q := fun connection s => ReadTo config number page count s ∧
      connection = (s.tracker number).labelEvents page)
    · exact readGitHub_triple meddles (fun s change meddles read => read.others meddles)
        (fun s read => ⟨read, rfl⟩) fun e s read => read.bounded
    · intro connection
      dsimp only
      split
      next more => exact (ih (page + 1) _).before fun s ⟨read, here⟩ => here ▸ read.next (here ▸ more)
      next last =>
        exact Triple.pure fun s ⟨read, here⟩ => here ▸ read.last (here ▸ Bool.eq_false_iff.mpr last)

theorem countOwnLabelAdditions_triple (meddles : ∀ call, Meddles (meanwhile call)) :
    Triple F (Bounded config) (countOwnLabelAdditions config meanwhile position number config.labels.rework)
      (Counted config number) fun _ => Bounded config := by
  apply Triple.bind (Q := fun _ => Bounded config)
  · exact readGitHub_triple meddles (fun s change meddles bounded => bounded.others meddles)
      (fun s bounded => bounded) fun e s bounded => bounded
  · intro _
    apply (countPages_triple meddles maxTimelinePages 0 0).before
    intro s bounded
    refine ⟨bounded, ?_, ?_⟩
    · rw [Nat.zero_mul]
      exact Nat.zero_le _
    · rw [Nat.zero_mul]
      exact Nat.zero_le _

/-- A note leaves the labels and the timeline alone. -/
theorem appendWorkpad_triple (meddles : ∀ call, Meddles (meanwhile call)) {workpad : Option String} {block : String} :
    Triple F (Bounded config) (appendWorkpad meanwhile position number workpad block)
      (fun _ => Bounded config) fun _ => Bounded config := by
  have noted : ∀ s, Bounded config s → Bounded config
      { s with tracker := Function.update s.tracker number ((s.tracker number).appendWorkpad workpad block) } := by
    intro s bounded
    apply bounded.update
    cases workpad with
    | none => exact bounded number
    | some body => exact bounded number
  exact awaitGitHub_triple meddles (fun s change meddles bounded => bounded.others meddles) noted
    (fun e s bounded => bounded) fun e => noted

/-- A bounce that moves the issue shows in its timeline. -/
theorem bounce_within {tracked : Tracked} (below : tracked.bounced < config.maxConflictReworks)
    (shown : tracked.bounced ≤ tracked.ownAdditions py config.login config.labels.rework) :
    (tracked.bounce config.labels config.login).bounced ≤ config.maxConflictReworks ∧
      (tracked.bounce config.labels config.login).bounced ≤
        (tracked.bounce config.labels config.login).ownAdditions py config.login config.labels.rework := by
  have grown : tracked.ownAdditions py config.login config.labels.rework ≤
      (tracked.bounce config.labels config.login).ownAdditions py config.login config.labels.rework :=
    Tracked.ownAdditions_mono (List.prefix_append _ _)
  have counts : (tracked.bounce config.labels config.login).bounced =
      if py.lower config.labels.review ∈ tracked.labels ∧ py.lower config.labels.rework ∉ tracked.labels then
        tracked.bounced + 1 else tracked.bounced := rfl
  rw [counts]
  split
  next moves =>
    refine ⟨below, ?_⟩
    have added : (tracked.bounce config.labels config.login).ownAdditions py config.login config.labels.rework =
        tracked.ownAdditions py config.login config.labels.rework + 1 := by
      simp [Tracked.bounce, Tracked.setState, Tracked.editLabels, Tracked.ownAdditions, GitHubLabels.labelName, moves.2,
        LabelEvent.isOwn]
    omega
  next stays => exact ⟨below.le, shown.trans grown⟩

theorem countAndMove_triple (meddles : ∀ call, Meddles (meanwhile call)) {pr : LinkedPr} {now : Datetime} :
    Triple F (Bounded config) (countAndMove config meanwhile position number pr now)
      (fun _ => Bounded config) fun _ => Bounded config := by
  apply (countOwnLabelAdditions_triple meddles).bind
  intro bounces
  apply Triple.bind (Q := fun _ => Counted config number bounces)
  · exact readGitHub_triple meddles (fun s change meddles counted => counted.others meddles)
      (fun s counted => counted) fun e s counted => counted.1
  · intro workpad
    split
    next used =>
      split
      · exact Triple.pure fun s counted => counted.1
      · apply ((appendWorkpad_triple meddles).before fun s counted => counted.1).bind
        intro _
        exact Triple.pure fun s bounded => bounded
    next left =>
      have moved : ∀ s, Counted config number bounces s → Bounded config
          { s with tracker := Function.update s.tracker number ((s.tracker number).bounce config.labels config.login) } := by
        rintro s ⟨bounded, counted⟩
        exact bounded.update (bounce_within (by omega) (bounded number).2)
      apply Triple.bind (Q := fun _ => Bounded config)
      · exact awaitGitHub_triple meddles (fun s change meddles counted => counted.others meddles) moved
          (fun e s counted => counted.1) fun e => moved
      · intro _
        exact Triple.pure fun s bounded => bounded

theorem reworked_triple (meddles : ∀ call, Meddles (meanwhile call)) {issue : Issue} {pr : LinkedPr} {now : Datetime}
    {bounces : Nat} {workpad : Option String} :
    Triple F (Bounded config) (reworked config meanwhile position issue pr now bounces workpad)
      (fun _ => Bounded config) fun _ => Bounded config := by
  apply Triple.bind (Q := fun _ => Bounded config)
  · exact Triple.modify fun s bounded => bounded
  · intro _
    apply (Triple.attempt (T := fun _ => Bounded config) (appendWorkpad_triple meddles)).bind
    intro _
    exact Triple.pure fun s bounded => bounded

theorem conflictRework_triple (meddles : ∀ call, Meddles (meanwhile call)) {issue : Issue} {now : Datetime} :
    Triple F (Bounded config) (conflictRework config meanwhile position issue now)
      (fun _ => Bounded config) fun _ => Bounded config := by
  unfold conflictRework
  split
  next none => exact Triple.pure fun s bounded => bounded
  next pr is_pr =>
    apply (Triple.attempt (T := fun _ => Bounded config) (countAndMove_triple meddles)).bind
    intro result
    split
    next error => exact Triple.pure fun s bounded => bounded
    next outcome => exact Triple.pure fun s bounded => bounded
    next bounces workpad => exact reworked_triple meddles

theorem bounceConflicts_triple {poll : Poll} (meddles : ∀ call, Meddles (poll.meanwhile call)) :
    Triple F (Bounded config) (bounceConflicts config poll) (fun _ => Bounded config) fun _ => Bounded config := by
  apply Triple.when
  · intro _
    apply Triple.foldlM (I := fun _ _ => Bounded config)
    rintro done ⟨issue, position⟩ rest _ -
    apply Triple.bind_get
    intro s bounded
    apply Triple.when
    · intro _
      apply ((conflictRework_triple meddles).before fun s' same => same ▸ bounded).bind
      intro outcome
      exact Triple.modify fun s bounded => bounded
    · intro _ s' same
      exact same ▸ bounded
  · exact fun _ s bounded => bounded

end Bound

section Escapes

variable {py : Py} {config : BounceConfig py} {meanwhile : Nat × BounceCall → Tracker → Tracker}
variable {position number : Nat} {F : Nat × BounceCall → Fate GitHubError}

/-- The ledger stays, and no bounce of `number` is made. -/
structure Spares (number : Nat) (before after : Bouncer) : Prop where
  ledger : after.ledger = before.ledger
  bounced : (after.tracker number).bounced = (before.tracker number).bounced

instance : Std.Refl (Spares number) := ⟨fun _ => ⟨rfl, rfl⟩⟩

instance : IsTrans Bouncer (Spares number) where
  trans _ _ _ first second := ⟨second.ledger.trans first.ledger, second.bounced.trans first.bounced⟩

/-- A call that bounces nothing, or one for another issue. -/
theorem awaitGitHub_spares {α : Type} {call : BounceCall} {effect : Tracked → α × Tracked} {other : Nat}
    (meddles : ∀ call, Meddles (meanwhile call))
    (harmless : other = number → ∀ tracked, (effect tracked).2.bounced = tracked.bounced) :
    Follows (Spares number) (awaitGitHub meanwhile position other call effect) := by
  apply Follows.bind
  · exact Follows.modify fun s => ⟨rfl, (meddles _ s.tracker number).bounced⟩
  · intro _
    apply Follows.call
    intro s
    refine ⟨rfl, ?_⟩
    show (Function.update s.tracker other (effect (s.tracker other)).2 number).bounced = _
    by_cases same : other = number
    · subst same
      simpa using harmless rfl (s.tracker other)
    · rw [Function.update_of_ne (Ne.symm same)]

theorem countPages_spares {label : String} {other : Nat} (meddles : ∀ call, Meddles (meanwhile call)) (left page count : Nat) :
    Follows (Spares number) (countPages config meanwhile position other label left page count) := by
  induction left generalizing page count with
  | zero => exact Follows.raise
  | succ left ih =>
    apply (awaitGitHub_spares meddles fun _ _ => rfl).bind
    intro connection
    exact Follows.ite (ih _ _) .pure

theorem appendWorkpad_spares {workpad : Option String} {block : String} {other : Nat}
    (meddles : ∀ call, Meddles (meanwhile call)) :
    Follows (Spares number) (appendWorkpad meanwhile position other workpad block) := by
  apply awaitGitHub_spares meddles
  intro _ tracked
  cases workpad with
  | none => rfl
  | some body => rfl

/-- A bounce of another issue. -/
theorem conflictRework_spares {issue : Issue} {now : Datetime} (other : issue.number ≠ number)
    (meddles : ∀ call, Meddles (meanwhile call)) :
    Follows (Spares number) (conflictRework config meanwhile position issue now) := by
  have counts : Follows (Spares number)
      (countOwnLabelAdditions config meanwhile position issue.number config.labels.rework) :=
    (awaitGitHub_spares meddles fun _ _ => rfl).bind fun _ => countPages_spares meddles _ _ _
  have moves : ∀ pr, Follows (Spares number) (countAndMove config meanwhile position issue.number pr now) := by
    intro pr
    apply counts.bind
    intro bounces
    apply (awaitGitHub_spares meddles fun _ _ => rfl).bind
    intro workpad
    apply Follows.ite
    · apply Follows.ite
      · exact Follows.pure
      · exact (appendWorkpad_spares meddles).bind fun _ => .pure
    · exact (awaitGitHub_spares meddles fun same => absurd same other).bind fun _ => .pure
  unfold conflictRework
  split
  next none => exact .pure
  next pr is_pr =>
    apply (moves pr).attempt.bind
    intro result
    split
    next error => exact .pure
    next outcome => exact .pure
    next bounces workpad =>
      have publishes : Follows (Spares number) (reworked config meanwhile position issue pr now bounces workpad) := by
        apply Follows.bind
        · exact Follows.modify fun s => ⟨rfl, rfl⟩
        · intro _
          exact (appendWorkpad_spares meddles).attempt.bind fun _ => .pure
      exact publishes

/-- The ledger stays. -/
def SameLedger (before after : Bouncer) : Prop := after.ledger = before.ledger

instance : Std.Refl SameLedger := ⟨fun _ => rfl⟩

instance : IsTrans Bouncer SameLedger where
  trans _ _ _ first second := Eq.trans second first

theorem bounceConflicts_ledger {poll : Poll} (meddles : ∀ call, Meddles (poll.meanwhile call)) :
    Follows SameLedger (bounceConflicts config poll) := by
  apply Follows.when
  apply Follows.foldlM
  rintro _ ⟨issue, position⟩
  refine Follows.bind .get fun s => ?_
  apply Follows.when
  apply Follows.bind
  · have other : issue.number ≠ issue.number + 1 := by omega
    exact (conflictRework_spares other meddles).mono fun _ _ spares => spares.ledger
  · exact fun outcome => .modify fun s => rfl

/-- A poll while the issue's escape is marked. -/
theorem bounceConflicts_spares {poll : Poll} (meddles : ∀ call, Meddles (poll.meanwhile call)) {start : Bouncer}
    (escaped : (start.ledger.get number).escaped = true) :
    Triple F (fun s => s = start) (bounceConflicts config poll) (fun _ => Spares number start) fun _ => Spares number start := by
  apply Triple.when
  · intro _
    have starts : ∀ s, s = start → Spares number start s := by
      rintro s rfl
      exact ⟨rfl, rfl⟩
    apply (Triple.foldlM (I := fun _ _ => Spares number start) ?_).before starts
    rintro done ⟨issue, position⟩ rest _ -
    apply Triple.bind_get
    intro s spares
    by_cases same : issue.number = number
    · have passes : s.passesOver poll config.maxConflictReworks issue = true := by
        have marked : (s.ledger.get issue.number).escaped = true := by rw [same, spares.ledger, escaped]
        simp [Bouncer.passesOver, marked]
      rw [passes]
      exact Triple.pure fun s' here => here ▸ spares
    · have follows : Follows (Spares number) (do
          let outcome ← conflictRework config poll.meanwhile position issue (poll.clock position)
          modify (Bouncer.noted config.maxConflictReworks issue outcome)) :=
        (conflictRework_spares same meddles).bind fun outcome => .modify fun s => ⟨rfl, rfl⟩
      exact (Follows.when follows).triple.before fun s' here => here ▸ spares
  · exact fun _ s same => same ▸ ⟨rfl, rfl⟩

end Escapes

/-- The operation drops the mark of the issue's escape. -/
def LedgerOp.unmarks (number : Nat) : LedgerOp → Bool
  | .dispatched other _ | .forget other => other = number
  | _ => false

namespace Ledger

variable {ledger : Ledger} {number other : Nat} {entry : IssueLedger} {op : LedgerOp}

/-- `number` has been evicted since the ledger was `before`. -/
def EvictedSince (number : Nat) (before after : Ledger) : Prop :=
  number ∈ after.evicted.drop before.evicted.length

theorem get_put_since (ne : other ≠ number) :
    (ledger.put number entry).get other = ledger.get other ∨ EvictedSince other ledger (ledger.put number entry) := by
  have kept : (ledger.entries.insert number entry).lookup other = ledger.entries.lookup other :=
    AList.lookup_insert_ne ne
  have trimmed := @get_trim other (ledger.entries.insert number entry) ledger.limit ledger.limit_pos []
  rw [kept] at trimmed
  apply trimmed.imp id
  rintro ⟨-, dropped⟩
  unfold EvictedSince
  rw [put_evicted]
  simpa [trim] using dropped

theorem apply_evicted (ledger : Ledger) (op : LedgerOp) : ledger.evicted <+: (ledger.apply op).evicted := by
  cases apply_queued ledger op with
  | moved number entry put moves =>
    rw [put]
    exact List.prefix_append _ _
  | stayed moves limit evicted keeps =>
    rw [evicted]

theorem rewrite_escaped {f : IssueLedger → IssueLedger} (keeps : ∀ entry, entry.escaped = true → (f entry).escaped = true)
    (escaped : (ledger.get number).escaped = true) : ((ledger.rewrite other f).get number).escaped = true := by
  rcases @get_rewrite ledger other number f with same | ⟨-, marked⟩
  · rw [same, escaped]
  · rw [marked]
    exact keeps _ escaped

theorem put_escaped (keeps : other = number → entry.escaped = true) (escaped : (ledger.get number).escaped = true) :
    ((ledger.put other entry).get number).escaped = true ∨ EvictedSince number ledger (ledger.put other entry) := by
  by_cases same : number = other
  · subst same
    rw [get_put_self]
    exact .inl (keeps rfl)
  · apply (get_put_since same).imp_left
    intro kept
    rw [kept, escaped]

/-- Only a dispatch clears the mark of an escape, as long as the entry lasts. -/
theorem apply_escaped (keeps : op.unmarks number = false) (escaped : (ledger.get number).escaped = true) :
    ((ledger.apply op).get number).escaped = true ∨ EvictedSince number ledger (ledger.apply op) := by
  cases op with
  | dispatched other now =>
    apply put_escaped (fun same => ?_) escaped
    exact absurd same (of_decide_eq_false keeps)
  | spent other turns costUsd => exact put_escaped (fun same => same ▸ escaped) escaped
  | failed other => exact put_escaped (fun same => same ▸ escaped) escaped
  | cleared other =>
    show ((ledger.cleared other).get number).escaped = true ∨ EvictedSince number ledger (ledger.cleared other)
    unfold cleared
    dsimp only
    split
    · exact .inl escaped
    · exact put_escaped (fun same => same ▸ escaped) escaped
  | observed other attempt maxAttempts =>
    show ((ledger.observed other attempt maxAttempts).get number).escaped = true ∨
      EvictedSince number ledger (ledger.observed other attempt maxAttempts)
    unfold observed
    dsimp only
    split
    · exact .inl escaped
    · exact put_escaped (fun same => same ▸ escaped) escaped
  | refused other reason =>
    left
    show ((ledger.refused other reason).2.get number).escaped = true
    unfold refused
    split
    · exact escaped
    · split
      · exact escaped
      · exact rewrite_escaped (fun _ marked => marked) escaped
  | markEscaped other => exact .inl (rewrite_escaped (fun _ _ => rfl) escaped)
  | escalate other => exact .inl (rewrite_escaped (fun _ marked => marked) escaped)
  | forget other =>
    left
    have other_ne : other ≠ number := of_decide_eq_false keeps
    show ((ledger.forget other).get number).escaped = true
    rcases forget_only.others number (Ne.symm other_ne) with same | ⟨-, gone⟩
    · rw [same, escaped]
    · simp only [get, forget, AList.lookup_erase_ne (Ne.symm other_ne)]
      exact escaped

/-- An escape marks the entry that is there. -/
theorem markEscaped_escaped (present : number ∈ ledger.entries) :
    ((ledger.markEscaped number).get number).escaped = true := by
  obtain ⟨entry, found⟩ := Option.isSome_iff_exists.mp (AList.lookup_isSome.mpr present)
  simp [markEscaped, rewrite, get, found]

theorem mem_cleared (present : number ∈ ledger.entries) : number ∈ (ledger.cleared number).entries := by
  unfold cleared
  dsimp only
  split
  · exact present
  · obtain ⟨older, entries, -⟩ := @put_entries ledger number { ledger.get number with failures := 0, reportedRefusal := none }
    apply AList.mem_keys.mpr
    show number ∈ List.keys (ledger.put number _).entries.entries
    rw [entries]
    exact List.mem_cons_self

end Ledger

section Runs

/-- What happens to the worker and the repository. The ledger's other operations are those of the
dispatches, the exits and the gate. -/
inductive BounceEvent where
  | polled (poll : Poll)
  | booked (op : LedgerOp)
  | escaped (number : Nat) (outcome : EscapeOutcome)
  | finished (number : Nat) (outcome : FinishOutcome)
  | others (change : Tracker → Tracker)
  | restarted (seed : Dict IssueLedger)

namespace BounceEvent

/-- The others meddle, in a poll and between two. -/
def Allowed : BounceEvent → Prop
  | polled poll => ∀ call, Meddles (poll.meanwhile call)
  | others change => Meddles change
  | _ => True

/-- A dispatch of the issue, or the end of the process. -/
def startsAfresh (number : Nat) : BounceEvent → Bool
  | booked (.dispatched other _) => other = number
  | restarted _ => true
  | _ => false

/-- The issue's entry is dropped because it is finished. -/
def forgets (number : Nat) : BounceEvent → Bool
  | booked (.forget other) => other = number
  | finished other outcome => other = number && outcome ≠ .failed
  | _ => false

end BounceEvent

variable {py : Py} {config : BounceConfig py} {s s' start : Bouncer} {event : BounceEvent} {events : List BounceEvent}
variable {number : Nat}

/-- `_finish`, for its memos and its ledger entry. -/
def Bouncer.finish (number : Nat) (outcome : FinishOutcome) (s : Bouncer) : Bouncer :=
  { s with
    conflictLimitNoted := s.conflictLimitNoted.erase number
    conflictGaveUp := s.conflictGaveUp.erase number
    ledger := if outcome = .failed then s.ledger else s.ledger.forget number }

/-- `_record_escape` -/
def Bouncer.recordEscape (number : Nat) (outcome : EscapeOutcome) (s : Bouncer) : Bouncer :=
  { s with ledger := if outcome = .failed then s.ledger else (s.ledger.cleared number).markEscaped number }

def Bouncer.apply (config : BounceConfig py) (s : Bouncer) : BounceEvent → Bouncer
  | .polled poll => (bounceConflicts config poll poll.fates s).2
  | .booked op => { s with ledger := s.ledger.apply op }
  | .escaped number outcome => s.recordEscape number outcome
  | .finished number outcome => s.finish number outcome
  | .others change => { s with tracker := change s.tracker }
  | .restarted seed => { ledger := .ofSeed seed s.ledger.limit s.ledger.limit_pos, tracker := s.tracker }

def BounceStep (config : BounceConfig py) (s : Bouncer) (event : BounceEvent) (s' : Bouncer) : Prop :=
  s' = s.apply config event ∧ event.Allowed

/-- A step that neither dispatches the issue nor ends the process. -/
def UndispatchedStep (config : BounceConfig py) (number : Nat) (s : Bouncer) (event : BounceEvent) (s' : Bouncer) : Prop :=
  BounceStep config s event s' ∧ event.startsAfresh number = false

/-- Nor does it finish the issue. -/
def QuietStep (config : BounceConfig py) (number : Nat) (s : Bouncer) (event : BounceEvent) (s' : Bouncer) : Prop :=
  UndispatchedStep config number s event s' ∧ event.forgets number = false

theorem bounceStep_bounded (step : BounceStep config s event s') (bounded : Bounded config s) : Bounded config s' := by
  obtain ⟨rfl, allowed⟩ := step
  cases event with
  | polled poll => exact (bounceConflicts_triple allowed).after bounded
  | others change => exact bounded.others allowed
  | booked op => exact bounded
  | escaped number outcome => exact bounded
  | finished number outcome => exact bounded
  | restarted seed => exact bounded

/-- Since `start` the issue's escape is marked and no bounce of it was made, or its entry was evicted. -/
structure Escaped (number : Nat) (start s : Bouncer) : Prop where
  grown : start.ledger.evicted <+: s.ledger.evicted
  marked : (s.ledger.get number).escaped = true ∧ (s.tracker number).bounced = (start.tracker number).bounced ∨
    Ledger.EvictedSince number start.ledger s.ledger

theorem evictedSince_trans {before between after : Ledger} (grown : before.evicted <+: between.evicted)
    (evicted : Ledger.EvictedSince number between after) : Ledger.EvictedSince number before after := by
  have later : between.evicted.length - before.evicted.length + before.evicted.length = between.evicted.length :=
    Nat.sub_add_cancel grown.length_le
  unfold Ledger.EvictedSince at *
  rw [← later, Nat.add_comm, ← List.drop_drop] at evicted
  exact List.mem_of_mem_drop evicted

theorem evictedSince_mono {before between after : Ledger} (grown : between.evicted <+: after.evicted)
    (evicted : Ledger.EvictedSince number before between) : Ledger.EvictedSince number before after :=
  (grown.drop _).subset evicted

/-- A change of the ledger by one operation that leaves the mark. -/
theorem Escaped.book (escaped : Escaped number start s) {op : LedgerOp} (keeps : op.unmarks number = false) :
    Escaped number start { s with ledger := s.ledger.apply op } := by
  have grown := Ledger.apply_evicted s.ledger op
  refine ⟨escaped.grown.trans grown, ?_⟩
  rcases escaped.marked with ⟨marked, bounced⟩ | evicted
  · rcases Ledger.apply_escaped keeps marked with kept | gone
    · exact .inl ⟨kept, bounced⟩
    · exact .inr (evictedSince_trans escaped.grown gone)
  · exact .inr (evictedSince_mono grown evicted)

theorem quietStep_escaped (step : QuietStep config number s event s') (escaped : Escaped number start s) :
    Escaped number start s' := by
  obtain ⟨⟨⟨rfl, allowed⟩, same⟩, kept⟩ := step
  cases event with
  | polled poll =>
    rcases escaped.marked with ⟨marked, bounced⟩ | evicted
    · have spares : Spares number s (bounceConflicts config poll poll.fates s).2 :=
        (bounceConflicts_spares allowed marked).after rfl
      show Escaped number start (bounceConflicts config poll poll.fates s).2
      exact ⟨spares.ledger ▸ escaped.grown, .inl ⟨spares.ledger ▸ marked, spares.bounced.trans bounced⟩⟩
    · have same : SameLedger s (bounceConflicts config poll poll.fates s).2 := bounceConflicts_ledger allowed _ _
      show Escaped number start (bounceConflicts config poll poll.fates s).2
      exact ⟨same ▸ escaped.grown, .inr (same ▸ evicted)⟩
  | booked op =>
    apply escaped.book
    cases op with
    | dispatched other now => exact same
    | forget other => exact kept
    | _ => rfl
  | escaped other outcome =>
    show Escaped number start (s.recordEscape other outcome)
    unfold Bouncer.recordEscape
    split
    · exact escaped
    · have cleared : Escaped number start { s with ledger := s.ledger.apply (.cleared other) } := escaped.book rfl
      have marks : (LedgerOp.markEscaped other).unmarks number = false := rfl
      exact cleared.book marks
  | finished other outcome =>
    show Escaped number start (s.finish other outcome)
    have memos : ∀ ledger : Ledger, Escaped number start { s with ledger } →
        Escaped number start { s.finish other outcome with ledger } := fun _ held => ⟨held.grown, held.marked⟩
    apply memos
    split
    next failed => exact escaped
    next landed =>
      have unmarks : (LedgerOp.forget other).unmarks number = false := by
        simpa [BounceEvent.forgets, landed, LedgerOp.unmarks] using kept
      exact escaped.book unmarks
  | others change =>
    refine ⟨escaped.grown, escaped.marked.imp_left fun ⟨marked, bounced⟩ => ⟨marked, ?_⟩⟩
    exact (allowed s.tracker number).bounced.trans bounced
  | restarted seed => cases same

/-- A bounce moves an issue from `review` to `rework` at most `maxConflictReworks` times, whatever
happens, and once an escape is recorded in the issue's ledger entry there is none before the next
dispatch, as long as the process and the entry last. -/
theorem bounces_bounded (run : Steps (BounceStep config) start events s)
    (fresh : ∀ number, (start.tracker number).bounced = 0) :
    (∀ number, (s.tracker number).bounced ≤ config.maxConflictReworks) ∧
      ∀ number outcome quiet s', outcome ≠ EscapeOutcome.failed → number ∈ s.ledger.entries →
        Steps (QuietStep config number) (s.recordEscape number outcome) quiet s' →
        ¬ Ledger.EvictedSince number (s.recordEscape number outcome).ledger s'.ledger →
        (s'.tracker number).bounced = (s.tracker number).bounced := by
  have begins : Bounded config start := by
    intro number
    rw [fresh number]
    exact ⟨Nat.zero_le _, Nat.zero_le _⟩
  have bounded : Bounded config s := Steps.invariant (fun _ _ _ step held => bounceStep_bounded step held) run begins
  refine ⟨fun number => (bounded number).1, ?_⟩
  intro number outcome quiet s' landed present rest lasts
  have marked : ((s.recordEscape number outcome).ledger.get number).escaped = true := by
    have ledger : (s.recordEscape number outcome).ledger = (s.ledger.cleared number).markEscaped number := if_neg landed
    rw [ledger]
    exact Ledger.markEscaped_escaped (Ledger.mem_cleared present)
  have first : Escaped number (s.recordEscape number outcome) (s.recordEscape number outcome) :=
    ⟨List.prefix_rfl, .inl ⟨marked, rfl⟩⟩
  have last := Steps.invariant (fun _ _ _ step held => quietStep_escaped step held) rest first
  rcases last.marked with ⟨-, bounced⟩ | evicted
  · exact bounced
  · exact absurd evicted lasts

/-- The labels somebody leaves on every issue. -/
def relabelled (labels : List String) (tracker : Tracker) : Tracker := fun number => { tracker number with labels }

theorem relabelled_meddles (labels : List String) : Meddles (relabelled labels) :=
  fun _ _ => ⟨List.prefix_rfl, rfl⟩

def defaultBounces : BounceConfig Py.ascii where
  labels := .default
  login := "issuebot"
  maxConflictReworks := 3

/-- Issue 7 in review, its pull request in conflict. -/
def conflicting : Issue where
  number := 7
  title := ""
  body := none
  author := none
  githubState := .opened
  state := some .review
  stateLabels := ["issuebot/review"]
  labels := ["issuebot/review"]
  createdAt := 0
  updatedAt := 0
  dispatchable := true
  linkedPr := some { number := 8, state := .opened, mergeable := .conflicting }

/-- A worker that has run issue 7 once, which is in review. -/
def ranOnce : Bouncer where
  ledger := (Ledger.ofSeed ∅ 2 (by decide)).dispatched 7 1
  tracker := fun _ => { labels := ["issuebot/review"], history := [] }

/-- Issue 7 is closed and finished, and then opened again with its label. -/
def closedAndReopened : List BounceEvent :=
  [.others (relabelled []), .finished 7 .cancelled, .others (relabelled ["issuebot/review"])]

/-- The finish of issue 7 has dropped its entry, and with it the mark: opened again, it is bounced
with no dispatch since its escape. -/
theorem finish_unmarks_escape : ¬ ∀ (start s s' : Bouncer) events number outcome quiet,
    (∀ number, (start.tracker number).bounced = 0) → Steps (BounceStep defaultBounces) start events s →
      outcome ≠ EscapeOutcome.failed → Steps (UndispatchedStep defaultBounces number) (s.recordEscape number outcome) quiet s' →
      number ∉ s'.ledger.evicted → (s'.tracker number).bounced = (s.tracker number).bounced := by
  intro claimed
  have step : ∀ (s : Bouncer) event, event.Allowed → event.startsAfresh 7 = false →
      UndispatchedStep defaultBounces 7 s event (s.apply defaultBounces event) := fun s event allowed same => ⟨⟨rfl, allowed⟩, same⟩
  have bounced := claimed ranOnce ranOnce _ [] 7 .applied (closedAndReopened ++ [.polled { issues := [conflicting] }])
    (fun _ => rfl) (.nil _) nofun
    (.cons (step _ _ (relabelled_meddles _) rfl) (.cons (step _ _ trivial rfl)
      (.cons (step _ _ (relabelled_meddles _) rfl) (.cons (step _ _ (fun _ _ _ => Std.Refl.refl _) rfl) (.nil _)))))
    (by decide +kernel)
  revert bounced
  decide +kernel

/-- Polled again after its escape, issue 7 stays where it is. -/
theorem escape_is_not_undone : ((((ranOnce.recordEscape 7 .applied).apply defaultBounces
    (.polled { issues := [conflicting] })).tracker 7).bounced) = 0 := by
  have quiet : QuietStep defaultBounces 7 (ranOnce.recordEscape 7 .applied) (.polled { issues := [conflicting] })
      ((ranOnce.recordEscape 7 .applied).apply defaultBounces (.polled { issues := [conflicting] })) :=
    ⟨⟨⟨rfl, fun _ _ _ => Std.Refl.refl _⟩, rfl⟩, rfl⟩
  have run : Steps (BounceStep defaultBounces) ranOnce [] ranOnce := .nil _
  exact (bounces_bounded run fun _ => rfl).2 7 .applied _ _ nofun
    (by decide +kernel) (.cons quiet (.nil _)) (by unfold Ledger.EvictedSince; decide +kernel)

end Runs
end Issuebot
