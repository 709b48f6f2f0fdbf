import Issuebot.Orchestrator.Timer

/-!
# The tick, and the worker's whole run

One tick reconciles the runs with the board, settles the holds, and then dispatches: triage,
the parent watch and the candidates, with one read of parents between the last two. `Action`
is everything that can happen to the worker, one after another: its ticks, its exits and its
timer, a session's progress, a request to stop, and a human's label moves.
-/

namespace Issuebot
set_option autoImplicit false
open Logic

/-- What a run's entry learns of its session. -/
def RunningEntry.sawTurn (entry : RunningEntry) (clock : Datetime) (turns : Option Nat) : RunningEntry :=
  { entry with lastActivityMono := some clock, turns := turns.getD entry.turns }

/-- Its task ends, where it has not. -/
def RunningEntry.finish (entry : RunningEntry) (ending : RunEnd) : RunningEntry :=
  if entry.task.isNone then { entry with task := some ending, stopAtEnd := entry.stopCause } else entry

namespace Orchestrator

variable {py : Py} (settings : Settings py)

section Reconcile

/-- A run with no activity for the stall timeout is stopped. -/
def stallCheck (clock : Datetime) (entry : RunningEntry) : RunningEntry :=
  if entry.stopCause.isSome then entry
  else
    let elapsed := clock - entry.lastActivityMono.getD entry.startedMono
    if milliseconds settings.stallTimeoutMs < elapsed then
      entry.stop .stalled ("no activity for " ++ toString (elapsed / seconds 1) ++ " s")
    else entry

/-- `_check_stalls` -/
def checkStalls (clock : Datetime) : Pass Unit :=
  .when (0 < settings.stallTimeoutMs)
    (.modify fun o => { o with running := o.running.mapValues fun _ entry => stallCheck settings clock entry })

/-- What a work run's issue shows: in progress it goes on, in review it has one poll interval. -/
def refreshWork (clock : Datetime) (current : Issue) (entry : RunningEntry) : RunningEntry :=
  if current.state = some .inProgress ∧ current.dispatchable then entry
  else if current.state = some .review then
    match entry.reviewSeenMono with
    | none => { entry with reviewSeenMono := some clock }
    | some seen =>
      if milliseconds settings.intervalMs ≤ clock - seen then entry.stop .moved "review" else entry
  else
    entry.stop .moved (match current.state with
      | some .todo => "todo"
      | some .inProgress => "in_progress"
      | some .review => "review"
      | some .rework => "rework"
      | some .complete => "complete"
      | none => "unlabelled")

/-- What a triage run's issue shows: a state label wins, and its labels gone mean leave alone. -/
def refreshTrack (wanted : List String) (gone : String) (current : Issue) (entry : RunningEntry) : RunningEntry :=
  if ¬ current.stateLabels.isEmpty then entry.stop .moved "state label"
  else if ¬ wanted.any fun name => current.labels.contains name then entry.stop .moved gone
  else entry

/-- One entry after the refresh. -/
def refreshEntry (clock : Datetime) (current : Option Issue) (entry : RunningEntry) : RunningEntry :=
  match current with
  | none => entry.stop .missing "issue no longer found"
  | some current =>
    if current.githubState = .closed then
      let entry := { entry with terminalIssue := some current }
      entry.stop .closed "issue closed"
    else
      let entry := { entry with issue := current, terminalIssue := none }
      match entry.kind with
      | .work => refreshWork settings clock current entry
      | .triage => refreshTrack [py.lower settings.labels.triageTodo] "triage-todo removed" current entry
      | .parentReview =>
        refreshTrack [py.lower settings.labels.triageTodo, py.lower settings.labels.triageComplete]
          "triage labels removed" current entry

/-- `_refresh_running` -/
def refreshRunning (clock : Datetime)
    (refreshed : Awaited (Except GitHubError (List Issue))) : Pass Unit := do
  match ← await refreshed with
  | .error _ => pure ()
  | .ok issues =>
    .modify fun o =>
      { o with
        running := o.running.mapValues fun number entry =>
          refreshEntry settings clock (issues.find? fun issue => issue.number = number) entry }

/-- The sweep's turn for one closed issue. -/
def sweepTerminal (issue : Issue) (w : World) : Pass Unit := do
  let o ← Remote.get
  if issue.number ∈ o.running then return ()
  else do
    dropRetry issue.number
    finish issue w

/-- Closed issues still carrying a state label. -/
def terminalSweep (terminal : Awaited (Except GitHubError (List Issue))) (worlds : Nat → World) : Pass Unit := do
  match ← await terminal with
  | .error _ => pure ()
  | .ok issues => passLoop sweepTerminal issues worlds

/-- What a reconcile meets. -/
structure ReconcileWorld where
  clock : Datetime
  refreshed : Awaited (Except GitHubError (List Issue))
  terminal : Awaited (Except GitHubError (List Issue))
  worlds : Nat → World

/-- Stalls, then the label refresh; plus the terminal sweep on schedule. -/
def reconcile (r : ReconcileWorld) : Pass Unit := do
  checkStalls settings r.clock
  let o ← Remote.get
  .when (0 < o.running.size) (refreshRunning settings r.clock r.refreshed)
  .when (o.tickCount % terminalSweepEveryTicks = 0) (terminalSweep r.terminal r.worlds)

end Reconcile

section Holding

/-- What `claude auth status` said. -/
inductive AuthVerdict where
  | ok
  | ambiguous
  | loggedOut
  | unreadable
  deriving DecidableEq, Repr

def AuthVerdict.value : AuthVerdict → String
  | ok => "ok"
  | ambiguous => "ambiguous"
  | loggedOut => "logged_out"
  | unreadable => "unreadable"

/-- `MAX_UNREADABLE_AUTH_PROBES` -/
def maxUnreadableAuthProbes : Nat := 10

/-- `MAX_FETCH_FAILURES` -/
def maxFetchFailures : Nat := 3

/-- `_release_hold` -/
def releaseHold (holds : Holds) : Holds :=
  { holds with authReason := none, authKey := none, unreadableAuthProbes := 0 }

/-- `_release_usage_hold` -/
def releaseUsageHold (holds : Holds) : Holds :=
  { holds with usageReason := none, usageResetAt := none, usageUntil := none, usageWindow := none }

/-- `_settle_run_as` after the probe. -/
def settleRunAs (problems : List String) (holds : Holds) : Holds :=
  { holds with
    runAsBlock := if problems.isEmpty then none else some ("agent.run_as: " ++ "; ".intercalate problems) }

/-- `_read_accounts` -/
def readAccounts (record : Option String) (holds : Holds) : Holds :=
  { holds with accountsBlock := if settings.runAs.length ≤ 1 then none else record }

/-- `_settle_usage_hold` -/
def settleUsageHold (now : Datetime) (holds : Holds) : Holds :=
  if holds.usageResetAt.any fun reset => reset ≤ now then releaseUsageHold holds else holds

/-- `_refresh_auth_hold` after the probe. -/
def refreshAuthHold (verdict : AuthVerdict) (detail : String) (holds : Holds) : Holds :=
  let probes := if verdict = .loggedOut then 0 else holds.unreadableAuthProbes + 1
  if verdict = .ok || verdict = .ambiguous || maxUnreadableAuthProbes ≤ probes then releaseHold holds
  else
    { holds with
      authReason := some ("claude authentication unavailable: " ++ detail)
      authKey := some verdict.value
      unreadableAuthProbes := probes }

/-- `_github_hold_reason` -/
def githubHoldReason (error : GitHubError) (note : Option String) : String :=
  let detail := clipped error.text maxHoldErrorChars
  let reason :=
    if error.category = .rateLimited then "GitHub is rate-limiting this worker's account: " ++ detail
    else "GitHub is not answering this worker: " ++ detail
  match note with
  | none | some "" => reason
  | some note => reason ++ " — githubstatus.com " ++ note

/-- `_note_fetch_failure` once past the threshold; the status page is read when the hold engages. -/
def holdForGitHub (error : GitHubError) (note : Option String) (holds : Holds) : Holds :=
  { holds with githubNote := note, githubBlock := some (githubHoldReason error note) }

/-- `_forget_fetch_failures` -/
def forgetFetchFailures (holds : Holds) : Holds :=
  { holds with fetchFailures := 0, githubBlock := none, githubNote := none }

end Holding

/-- What a tick meets, in the order it asks. -/
structure TickWorld where
  now : Datetime
  reconcile : ReconcileWorld
  runAsPending : Bool
  runAs : Awaited (List String)
  accounts : Option String
  /-- What `preflight` and `fetch_preflight` find. -/
  preflight : Option String
  fetchPreflight : Bool
  auth : Awaited (AuthVerdict × String)
  /-- Whether a poll is worth making while nothing is claimed. -/
  observed : Bool
  status : Awaited (Option String)
  poll : Awaited (Except GitHubError (List Issue))
  /-- After a poll that answered: the store's read of the track, and the conflict bounces. -/
  board : Awaited Unit
  scan : Awaited Unit
  owedTriage : Nat → World
  owedReviews : Nat → World
  /-- The tick's read of the triage track. -/
  track : Awaited (Option TrackRead)
  triage : TriageWorld
  triageWorlds : Nat → World
  steps : List Nat → Awaited (Except GitHubError (List ParentAnswer))
  watch : WatchWorld
  notes : Nat → World
  reviews : Nat → World
  candidates : Nat → World
  discards : Awaited Datetime

section Tick

/-- `_note_fetch_failure` -/
def noteFetchFailure (error : GitHubError) (status : Awaited (Option String)) : Pass Unit := do
  changeHolds fun holds => { holds with fetchFailures := holds.fetchFailures + 1 }
  let o ← Remote.get
  if o.holds.fetchFailures < maxFetchFailures then return ()
  else if o.holds.githubBlock.isNone then do
    let note ← await status
    changeHolds (holdForGitHub error note)
  else changeHolds (holdForGitHub error o.holds.githubNote)

/-- `_fetch_issues` -/
def fetchIssues (t : TickWorld) : Pass (Option (List Issue)) := do
  match ← await t.poll with
  | .error error => do
    noteFetchFailure error t.status
    return none
  | .ok issues => do
    changeHolds forgetFetchFailures
    await t.board
    return some issues

/-- `_poll_issues`: the board is read while dispatch is held. -/
def pollIssues (t : TickWorld) : Pass Unit :=
  if t.observed then do
    let _ ← fetchIssues t
  else changeHolds forgetFetchFailures

/-- The dispatching end of a tick: one read of parents between the poll and the passes it is for. -/
def dispatchPolled (t : TickWorld) (issues : Option (List Issue)) : Pass Nat := do
  let parents ← readParents settings issues t.steps
  let reviews ← dispatchParentReviews settings parents t.watch t.notes t.reviews
  let work ← dispatchCandidates settings issues parents.forHold t.candidates
  return reviews + work

/-- The part of a tick that dispatches. -/
def dispatchAll (t : TickWorld) : Pass Nat := do
  await t.scan
  retryPendingVerdicts settings t.owedTriage t.owedReviews
  let track ← await t.track
  let triage ← dispatchTriage settings track t.triage t.triageWorlds
  let issues ← fetchIssues t
  let others ← dispatchPolled settings t issues
  return triage + others

/-- The holds a tick settles before it asks anything of GitHub. -/
def settleHolds (t : TickWorld) : Pass Unit := do
  let o ← Remote.get
  .when (t.runAsPending || o.holds.runAsBlock.isSome) do
    let problems ← await t.runAs
    changeHolds (settleRunAs problems)
  changeHolds fun holds => settleUsageHold t.now (readAccounts settings t.accounts holds)

/-- Each triage clone whose delay is up goes, unless a run for its issue is reading it. -/
def discardTriageWorkspaces (clock : Awaited Datetime) : Pass Unit := do
  let clock ← await clock
  .modify fun o =>
    { o with workers := o.workers.mapValues fun number w =>
      if w.triageDiscard.any fun due => due ≤ clock && decide (number ∉ o.running) then
        { w with triageDiscard := none }
      else w }

/-- A tick whose preflight found nothing wrong: what it owes and the board, and dispatch unless
the account holds it. -/
def dispatchUnlessHeld (t : TickWorld) : Pass Unit := do
  let o ← Remote.get
  .when o.holds.authReason.isSome do
    let (verdict, detail) ← await t.auth
    changeHolds (refreshAuthHold verdict detail)
  let o ← Remote.get
  if o.holds.authReason.isSome || o.holds.usageReason.isSome then do
    retryPendingVerdicts settings t.owedTriage t.owedReviews
    pollIssues t
  else do
    let _ ← dispatchAll settings t

/-- The middle of a tick, by its preflight. -/
def pollOrDispatch (t : TickWorld) : Pass Unit :=
  if t.preflight.isNone then dispatchUnlessHeld settings t
  else if t.fetchPreflight then changeHolds forgetFetchFailures
  else pollIssues t

/-- What follows a tick's reload. -/
def tickLoaded (t : TickWorld) : Pass Unit := do
  settleHolds settings t
  changeHolds fun holds => { holds with preflightBlock := t.preflight }
  pollOrDispatch settings t
  discardTriageWorkspaces t.discards
  .modify fun o => { o with tickCount := o.tickCount + 1 }

/-- Reconcile, reload, settle the holds, fetch, dispatch; `loaded` is the settings after the reload. -/
def tick (loaded : Settings py) (t : TickWorld) : Pass Unit := do
  reconcile settings t.reconcile
  tickLoaded loaded t

end Tick

/-- Cancel every worker, drain the exits, drop the retries; `ends` is how the sessions still
going end. The queue is dropped before the exits rather than after them: nothing reads it. -/
def shutdown (ends : Nat → RunEnd) (exits : Nat → ExitWorld) : Pass Unit := do
  requestStop
  .modify fun o => { o with running := o.running.mapValues fun _ entry => entry.stop .shutdown "worker stopping" }
  .modify fun o =>
    { o with running := o.running.mapValues fun number entry => entry.finish (ends number), queue := [] }
  let o ← Remote.get
  passLoop (handleWorkerExit settings) o.running.keys.reverse exits
  .modify fun o => { o with retries := ∅ }

/-- A session ends: its task is done, and its message is queued. -/
def sessionEnded (number : Nat) (ending : RunEnd) : Pass Unit := do
  let o ← Remote.get
  match o.running.lookup number with
  | some { task := none, .. } =>
    .modify fun o =>
      { o with
        running := o.running.modify number fun entry => entry.finish ending
        queue := o.queue ++ [number] }
  | _ => pure ()

/-- What can happen to the worker. -/
inductive Action where
  | tick (t : TickWorld)
  /-- The oldest message of a run that has ended is taken. -/
  | workerExited (exit : ExitWorld)
  | timer (clock : Datetime) (worlds : Nat → TimerWorld)
  | sessionTurn (number : Nat) (clock : Datetime) (turns : Option Nat)
  | sessionEnded (number : Nat) (ending : RunEnd)
  | stopRequested
  | shutdown (ends : Nat → RunEnd) (exits : Nat → ExitWorld)
  /-- Anyone changes an issue on GitHub: a label move, a close, an edit. -/
  | relabelled (number : Nat) (family : Family)

/-- One thing happens; a tick goes on with the settings it loads. -/
def actLoading (loaded : Settings py) (action : Action) : Pass Unit :=
  match action with
  | .tick t => tick settings loaded t
  | .workerExited exit => takeExit settings exit
  | .timer clock worlds => fireDueRetries settings clock worlds
  | .sessionTurn number clock turns =>
    .modify fun o => { o with running := o.running.modify number fun entry => entry.sawTurn clock turns }
  | .sessionEnded number ending => sessionEnded number ending
  | .stopRequested => requestStop
  | .shutdown ends exits => shutdown settings ends exits
  | .relabelled number family =>
    .modify fun o =>
      { o with families := fun other => if other = number then family else o.families other }

/-- One thing happens, and the settings stay. -/
def act (action : Action) : Pass Unit := actLoading settings settings action

/-- The worker's step system under fixed settings. -/
def Step (o : Orchestrator) (action : Action) (o' : Orchestrator) : Prop := o' = Pass.after (act settings action) o

/-- A worker and the settings in force. -/
structure Live (py : Py) where
  settings : Settings py
  worker : Orchestrator

/-- The step system with reloads: the label carries the settings a tick would load. -/
def ReloadStep (live : Live py) (label : Settings py × Action) (live' : Live py) : Prop :=
  live'.worker = Pass.after (actLoading live.settings label.1 label.2) live.worker ∧
    live'.settings = match label.2 with
      | .tick _ => label.1
      | _ => live.settings

/-- The actions one after another, under fixed settings. -/
def actAll (o : Orchestrator) (actions : List Action) : Orchestrator :=
  actions.foldl (fun o action => Pass.after (act settings action) o) o

/-- No run whose session has ended is found stale at `clock`. -/
def OnTime (clock : Datetime) (o : Orchestrator) : Prop :=
  0 < settings.stallTimeoutMs → ∀ number entry, o.running.lookup number = some entry → entry.task.isSome →
    stallCheck settings clock entry = entry

/-- A step that is no tick, or a tick that finds no run stale whose session has ended. -/
def Punctual (o : Orchestrator) (action : Action) : Prop :=
  ∀ t, action = .tick t → OnTime settings t.reconcile.clock o

section Start

/-- `_seeded`: the stored ledger as this process will trust it, every chain capped one short. -/
def seeded (entries : Dict IssueLedger) : Dict IssueLedger :=
  entries.mapValues fun _ entry => { entry with failures := seededChain entry.failures settings.maxAttempts }

/-- A worker as it starts, from what the store kept. -/
def start (entries : Dict IssueLedger) (parents : Dict ParentRecord) (families : Nat → Family) : Orchestrator where
  running := ∅
  retries := ∅
  ledger := .ofSeed (seeded settings entries) ledgerLimit (by decide)
  holds := {}
  stopping := false
  held := ∅
  counters := {}
  totals := {}
  queue := []
  tickCount := 0
  workers := parents.mapValues fun _ record => { Worker.idle with parent := some record }
  candidatesNotBefore := none
  families
  history := []

end Start

section Plain

/-- The settings of the runs evaluated below. -/
def plainSettings : Settings Py.ascii where
  labels := .default
  maxAttempts := 2
  maxAttempts_pos := Nat.two_pos
  scrub := id
  maxIssueCostUsd := 5000000
  maxConcurrentAgents := 2
  maxRetryBackoffMs := 300000
  intervalMs := 30000
  stallTimeoutMs := 300000
  maxParentReviews := 3
  maxGapRounds := 2
  runAs := []

/-- A world that answers everything and refuses nothing. -/
def plainWorld : World where
  now := 0
  clock := 0
  runId := "20260928T090500Z-a1b2c3"
  approval := ⟨some (.approved ⟨"alice", 0⟩), false⟩
  registry := .ok ⟨[], fun _ => false⟩
  key := "tracker-8"
  claimed := ⟨true, false⟩
  resumePlan := some (none, 1)
  refreshed := ⟨.ok [], false⟩
  subIssues := ⟨.ok [], false⟩
  budgetEscape _ := ⟨.applied, false⟩
  blockedEscape _ := ⟨.applied, false⟩
  operatorStepEscape := ⟨.applied, false⟩
  unapprovedEscape _ := ⟨.applied, false⟩
  finish := ⟨.complete, false⟩
  fates _ := .answered

/-- A tick at `clock` whose poll lists `issues` and which finds nothing else. -/
def plainTick (clock : Datetime) (issues : List Issue) : TickWorld where
  now := clock
  reconcile := {
    clock
    refreshed := ⟨.error { category := .transport, message := "offline" }, false⟩
    terminal := ⟨.ok [], false⟩
    worlds _ := plainWorld }
  runAsPending := false
  runAs := ⟨[], false⟩
  accounts := none
  preflight := none
  fetchPreflight := false
  auth := ⟨(.ok, ""), false⟩
  observed := false
  status := ⟨none, false⟩
  poll := ⟨.ok issues, false⟩
  board := ⟨(), false⟩
  scan := ⟨(), false⟩
  owedTriage _ := plainWorld
  owedReviews _ := plainWorld
  track := ⟨some { issues := some [] }, false⟩
  triage := { clock, candidates := ⟨.ok [], false⟩, autoLabelled := [] }
  triageWorlds _ := plainWorld
  steps _ := ⟨.ok [], false⟩
  watch := { clock, issues := fun _ => ⟨.ok [], false⟩ }
  notes _ := plainWorld
  reviews _ := plainWorld
  candidates _ := plainWorld
  discards := ⟨clock, false⟩

/-- An open `todo` issue. -/
def todoIssue (number : Nat) : Issue where
  number
  title := "Fix"
  body := none
  author := some "alice"
  githubState := .opened
  state := some .todo
  stateLabels := ["issuebot/todo"]
  labels := ["issuebot/todo"]
  createdAt := 0
  updatedAt := 0
  dispatchable := true

def todoFamily (number : Nat) : Family where
  base := todoIssue number
  state := .opened
  labels := ["issuebot/todo"]
  children := []
  comments := []
  nextNumber := 100
  writes := []

/-- A session that moved its issue to review. -/
def plainResult : RunResult where
  outcome := .succeeded
  stopReason := .issueMoved
  turns := 3
  costUsd := 250000
  finalState := some .review

def plainExit : ExitWorld where
  verdict := .error ""
  review := .error ""
  world := plainWorld

end Plain

end Orchestrator
end Issuebot
