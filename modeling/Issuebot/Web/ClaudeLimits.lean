import Issuebot.Logic.Announcements
import Issuebot.Logic.Runs
import Issuebot.Python
import Mathlib.Data.List.Sort
import Mathlib.Data.Rat.Defs

/-!
# The Claude usage limits watcher

Every web process has a watcher, and the watchers share `claude_limit_alerts`, one row a window
instance. A cycle reads the workers' snapshots and goes through the alerts they call for: it asks
for what was posted, claims, posts, and gives the claim back when the post fails. `WatcherStage` is
the await a watcher stands at, and the statements of all watchers interleave.
-/

namespace Issuebot
set_option autoImplicit false
open Logic

/-- `SEVEN_DAY` -/
def sevenDay : String := "seven_day"

def sevenDayThresholds : List Nat := [75, 90]

def hitPercent : Nat := 100

/-- A window instance: the window's name and when it reopens. -/
abbrev AlertKey : Type := String × Datetime

/-- One alert the snapshots call for. -/
structure ClaudeAlert where
  limitWindow : String
  resetsAt : Datetime
  target : Nat
  deriving DecidableEq, Repr

def ClaudeAlert.key (alert : ClaudeAlert) : AlertKey := (alert.limitWindow, alert.resetsAt)

/-- What a worker's snapshot shows: its reading of the 7-day window, and the usage hold it is
under. -/
structure SnapshotReading where
  sevenDay : Option (Rat × Datetime)
  usageWall : Option AlertKey

/-- The highest utilisation any worker reads of the window that reopens then. -/
def highestUtilization (snapshots : List SnapshotReading) (resetsAt : Datetime) : Rat :=
  ((snapshots.filterMap SnapshotReading.sevenDay).filter fun reading => reading.2 = resetsAt).foldl
    (fun highest reading => max reading.1 highest) 0

/-- The alerts the workers' snapshots call for at `now`, before the memory is asked. -/
def dueAlerts (snapshots : List SnapshotReading) (now : Datetime) : List ClaudeAlert :=
  let walls := ((snapshots.filterMap SnapshotReading.usageWall).filter fun wall => now < wall.2).eraseDups
  let resets := (((snapshots.filterMap SnapshotReading.sevenDay).map Prod.snd).filter fun resetsAt => now < resetsAt).eraseDups
  let warnings := (resets.insertionSort (· ≤ ·)).filterMap fun resetsAt =>
    if (sevenDay, resetsAt) ∈ walls then none
    else
      let reached : List Nat := sevenDayThresholds.filter fun threshold =>
        (Nat.cast threshold : Rat) ≤ highestUtilization snapshots resetsAt * 100
      match reached.max? with
      | none => none
      | some target => some ⟨sevenDay, resetsAt, target⟩
  warnings ++ walls.map fun wall => ⟨wall.1, wall.2, hitPercent⟩

/-- `RETRY_BACKOFF_S` -/
def retryBackoff : Int := seconds 900

/-- The await a watcher stands at. -/
inductive WatcherStage where
  | asleep
  | listing (now : Datetime)
  | asking (now : Datetime) (alert : ClaudeAlert) (rest : List ClaudeAlert)
  | claiming (now : Datetime) (alert : ClaudeAlert) (previous : Nat) (rest : List ClaudeAlert)
  | posting (now : Datetime) (alert : ClaudeAlert) (previous : Nat) (rest : List ClaudeAlert)
  | releasing (now : Datetime) (alert : ClaudeAlert) (previous : Nat) (rest : List ClaudeAlert)

/-- `retryAfter`: when a failed post may be tried again. -/
structure Watcher where
  retryAfter : AlertKey → Option Datetime
  stage : WatcherStage

/-- A watcher as its process starts. -/
def Watcher.started : Watcher where
  retryAfter _ := none
  stage := .asleep

/-- The next alert that is not backing off. -/
def nextAlert (retryAfter : AlertKey → Option Datetime) (now : Datetime) : List ClaudeAlert → WatcherStage
  | [] => .asleep
  | alert :: rest =>
    match retryAfter alert.key with
    | some retryAt => if now < retryAt then nextAlert retryAfter now rest else .asking now alert rest
    | none => .asking now alert rest

/-- `CLAIM_CLAUDE_ALERT`: whether it wrote, and the table after it. -/
def claimClaudeAlert (key : AlertKey) (target : Nat) (table : AlertKey → Option Nat) : Bool × (AlertKey → Option Nat) :=
  match table key with
  | none => (true, Function.update table key (some target))
  | some alerted =>
    if alerted < target then (true, Function.update table key (some target)) else (false, table)

/-- `RELEASE_CLAUDE_ALERT` -/
def releaseClaudeAlert (key : AlertKey) (target previous : Nat) (table : AlertKey → Option Nat) : AlertKey → Option Nat :=
  if table key = some target then Function.update table key (some previous) else table

/-- The table and the web processes that share it; `posted` is every post that Slack took, in
order. -/
structure ClaudeHub where
  table : AlertKey → Option Nat
  watchers : Nat → Watcher
  posted : List (AlertKey × Nat)

/-- What ends a watcher's await. -/
inductive WatcherEvent where
  | wakes (now : Datetime)
  | listed (snapshots : List SnapshotReading)
  | told
  | claimed
  | posted (ok : Bool)
  | released
  /-- It raises, and the statement or the post had taken effect or not. -/
  | raised (took : Bool)
  /-- The process stops there, and a new one takes its place. -/
  | restarted (took : Bool)

namespace ClaudeHub

/-- The tables and the processes as an upgrade finds them. -/
def fresh (table : AlertKey → Option Nat) : ClaudeHub where
  table
  watchers _ := .started
  posted := []

/-- `claude_limit_alerted` -/
def alerted (hub : ClaudeHub) (key : AlertKey) : Nat := (hub.table key).getD 0

def turn (hub : ClaudeHub) (p : Nat) (watcher : Watcher) : ClaudeHub :=
  { hub with watchers := Function.update hub.watchers p watcher }

/-- What the effect of an await that is cut short leaves. -/
def tookEffect (hub : ClaudeHub) : WatcherStage → ClaudeHub
  | .claiming _ alert _ _ => { hub with table := (claimClaudeAlert alert.key alert.target hub.table).2 }
  | .posting _ alert _ _ => { hub with posted := hub.posted ++ [(alert.key, alert.target)] }
  | .releasing _ alert previous _ => { hub with table := releaseClaudeAlert alert.key alert.target previous hub.table }
  | _ => hub

/-- One await of process `p` ends; `none` where it stands at another. -/
def step (hub : ClaudeHub) (p : Nat) (event : WatcherEvent) : Option ClaudeHub :=
  let watcher := hub.watchers p
  match event, watcher.stage with
  | .wakes now, .asleep =>
    some (hub.turn p {
      retryAfter := fun key => if now < key.2 then watcher.retryAfter key else none
      stage := .listing now })
  | .listed snapshots, .listing now =>
    some (hub.turn p { watcher with stage := nextAlert watcher.retryAfter now (dueAlerts snapshots now) })
  | .told, .asking now alert rest =>
    let previous := hub.alerted alert.key
    if alert.target ≤ previous then some (hub.turn p { watcher with stage := nextAlert watcher.retryAfter now rest })
    else some (hub.turn p { watcher with stage := .claiming now alert previous rest })
  | .claimed, .claiming now alert previous rest =>
    let (wrote, table) := claimClaudeAlert alert.key alert.target hub.table
    if wrote then some ({ hub with table }.turn p { watcher with stage := .posting now alert previous rest })
    else some (hub.turn p { watcher with stage := nextAlert watcher.retryAfter now rest })
  | .posted true, .posting now alert _ rest =>
    let retryAfter := Function.update watcher.retryAfter alert.key none
    some ({ hub with posted := hub.posted ++ [(alert.key, alert.target)] }.turn p {
      retryAfter
      stage := nextAlert retryAfter now rest })
  | .posted false, .posting now alert previous rest =>
    some (hub.turn p {
      retryAfter := Function.update watcher.retryAfter alert.key (some (now + retryBackoff))
      stage := .releasing now alert previous rest })
  | .released, .releasing now alert previous rest =>
    some ({ hub with table := releaseClaudeAlert alert.key alert.target previous hub.table }.turn p {
      watcher with stage := nextAlert watcher.retryAfter now rest })
  | .raised took, stage => some ((if took then hub.tookEffect stage else hub).turn p { watcher with stage := .asleep })
  | .restarted took, stage => some ((if took then hub.tookEffect stage else hub).turn p .started)
  | _, _ => none

end ClaudeHub

/-- The watcher as a herald of its alerts. -/
def WatcherStage.herald : WatcherStage → Stage AlertKey
  | .claiming _ alert previous _ => .asked alert.key previous alert.target
  | .posting _ alert previous _ => .claimed alert.key previous alert.target
  | .releasing _ alert previous _ => .refused alert.key previous alert.target
  | .asleep | .listing _ | .asking _ _ _ => .idle

@[simp] theorem herald_nextAlert {retryAfter : AlertKey → Option Datetime} {now : Datetime} {alerts : List ClaudeAlert} :
    (nextAlert retryAfter now alerts).herald = .idle := by
  induction alerts with
  | nil => rfl
  | cons alert rest ih =>
    unfold nextAlert
    split
    · split
      · exact ih
      · rfl
    · rfl

namespace ClaudeHub

variable {hub hub' : ClaudeHub} {p : Nat} {event : WatcherEvent} {key : AlertKey} {previous target : Nat}

/-- The table as a board, and the watchers as its heralds. -/
def board (hub : ClaudeHub) : Board AlertKey Nat where
  level key := hub.alerted key
  stage p := (hub.watchers p).stage.herald
  posted := hub.posted

theorem board_turn {watcher : Watcher} : (hub.turn p watcher).board = hub.board.turn p watcher.stage.herald := by
  unfold board turn Board.turn
  congr 1
  funext q
  exact Function.apply_update (fun _ watcher => watcher.stage.herald) hub.watchers p watcher q

theorem board_record {level : Nat} :
    ({ hub with table := Function.update hub.table key (some level) } : ClaudeHub).board = hub.board.raise key level := by
  unfold board alerted Board.raise
  congr 1
  funext other
  by_cases same : other = key
  · subst same
    simp
  · simp [same]

/-- A claim writes exactly where it raises the percent stored. -/
theorem claim_eq (rises : previous < target) : claimClaudeAlert key target hub.table =
    if hub.alerted key < target then (true, Function.update hub.table key (some target)) else (false, hub.table) := by
  unfold claimClaudeAlert alerted
  cases hub.table key with
  | none =>
    rw [if_pos]
    exact Nat.lt_of_le_of_lt (Nat.zero_le _) rises
  | some alerted => rfl

/-- Whether the await's claim reaches the table. -/
def WatcherEvent.reaches : WatcherEvent → Bool
  | .claimed => true
  | .raised took | .restarted took => took
  | _ => false

/-- A claim that writes is over the percent the watcher was told, and no other process has one of
the window instance out. -/
def Undisturbed (hub : ClaudeHub) (p : Nat) (event : WatcherEvent) : Prop :=
  WatcherEvent.reaches event = true → ∀ now alert previous rest, (hub.watchers p).stage = .claiming now alert previous rest →
    hub.alerted alert.key < alert.target → hub.alerted alert.key = previous ∧ hub.board.Free alert.key

def Step (hub : ClaudeHub) (label : Nat × WatcherEvent) (hub' : ClaudeHub) : Prop := hub.step label.1 label.2 = some hub'

def UndisturbedStep (hub : ClaudeHub) (label : Nat × WatcherEvent) (hub' : ClaudeHub) : Prop :=
  Step hub label hub' ∧ Undisturbed hub label.1 label.2

theorem rises_of_claiming {now : Datetime} {alert : ClaudeAlert} {rest : List ClaudeAlert} (orderly : hub.board.Orderly)
    (stage : (hub.watchers p).stage = .claiming now alert previous rest) :
    hub.board.stage p = .asked alert.key previous alert.target ∧ previous < alert.target := by
  have asked : hub.board.stage p = .asked alert.key previous alert.target := by
    show (hub.watchers p).stage.herald = _
    rw [stage]
    rfl
  exact ⟨asked, orderly.asked _ _ _ _ asked⟩

/-- The claim of a watcher, however its await ends. -/
theorem board_claim {now : Datetime} {alert : ClaudeAlert} {rest : List ClaudeAlert} {watcher : Watcher}
    (orderly : hub.board.Orderly) (stage : (hub.watchers p).stage = .claiming now alert previous rest)
    (undisturbed : hub.alerted alert.key < alert.target → hub.alerted alert.key = previous ∧ hub.board.Free alert.key)
    (next : watcher.stage.herald = .claimed alert.key previous alert.target ∧ hub.alerted alert.key < alert.target ∨
      watcher.stage.herald = .idle) :
    Board.Step hub.board
      ({ hub with table := (claimClaudeAlert alert.key alert.target hub.table).2 }.turn p watcher).board := by
  obtain ⟨asked, rises⟩ := rises_of_claiming orderly stage
  rw [board_turn, claim_eq rises]
  by_cases room : hub.alerted alert.key < alert.target
  · obtain ⟨told, free⟩ := undisturbed room
    rw [if_pos room, board_record]
    refine .claims p alert.key previous alert.target watcher.stage.herald asked ?_ free (next.imp_left And.left) rfl
    show ((hub.alerted alert.key : Nat) : WithTop Nat) = _
    rw [told]
  · rw [if_neg room]
    have idle : watcher.stage.herald = .idle := next.resolve_left fun claimed => room claimed.2
    rw [idle]
    exact .rests p rfl

/-- The release of a watcher whose post failed, however its await ends. -/
theorem board_release {now : Datetime} {alert : ClaudeAlert} {rest : List ClaudeAlert} {watcher : Watcher}
    (stage : (hub.watchers p).stage = .releasing now alert previous rest) (idle : watcher.stage.herald = .idle) :
    Board.Step hub.board
      ({ hub with table := releaseClaudeAlert alert.key alert.target previous hub.table }.turn p watcher).board := by
  have refused : hub.board.stage p = .refused alert.key previous alert.target := by
    show (hub.watchers p).stage.herald = _
    rw [stage]
    rfl
  rw [board_turn, idle]
  unfold releaseClaudeAlert
  split
  next stored =>
    rw [board_record]
    refine .releases p _ _ _ refused ?_ rfl
    show ((hub.alerted alert.key : Nat) : WithTop Nat) = _
    unfold alerted
    rw [stored]
    rfl
  next => exact .rests p rfl

/-- The post of a watcher that Slack took. -/
theorem board_post {now : Datetime} {alert : ClaudeAlert} {rest : List ClaudeAlert} {watcher : Watcher}
    (stage : (hub.watchers p).stage = .posting now alert previous rest) (idle : watcher.stage.herald = .idle) :
    Board.Step hub.board
      ({ hub with posted := hub.posted ++ [(alert.key, alert.target)] }.turn p watcher).board := by
  have claimed : hub.board.stage p = .claimed alert.key previous alert.target := by
    show (hub.watchers p).stage.herald = _
    rw [stage]
    rfl
  rw [board_turn, idle]
  exact .posts p _ _ _ claimed rfl

/-- An await cut short. -/
theorem board_cut {watcher : Watcher} {took : Bool} (orderly : hub.board.Orderly) (idle : watcher.stage.herald = .idle)
    (undisturbed : took = true → ∀ now alert previous rest, (hub.watchers p).stage = .claiming now alert previous rest →
      hub.alerted alert.key < alert.target → hub.alerted alert.key = previous ∧ hub.board.Free alert.key) :
    Board.Step hub.board (((if took then hub.tookEffect (hub.watchers p).stage else hub).turn p watcher).board) := by
  have rests : Board.Step hub.board (hub.turn p watcher).board := by
    rw [board_turn, idle]
    exact .rests p rfl
  cases took with
  | false => exact rests
  | true =>
    rw [if_pos rfl]
    cases stage : (hub.watchers p).stage with
    | asleep => exact rests
    | listing now => exact rests
    | asking now alert rest => exact rests
    | claiming now alert previous rest => exact board_claim orderly stage (undisturbed rfl _ _ _ _ stage) (.inr idle)
    | posting now alert previous rest => exact board_post stage idle
    | releasing now alert previous rest => exact board_release stage idle

/-- Every await that ends is a move on the board. -/
theorem step_board (orderly : hub.board.Orderly) (stepped : UndisturbedStep hub (p, event) hub') :
    Board.Step hub.board hub'.board := by
  obtain ⟨stepped, undisturbed⟩ := stepped
  have rests : ∀ watcher : Watcher, watcher.stage.herald = .idle → Board.Step hub.board (hub.turn p watcher).board := by
    intro watcher idle
    rw [board_turn, idle]
    exact .rests p rfl
  simp only [Step, step] at stepped
  split at stepped
  · cases stepped
    exact rests _ rfl
  · cases stepped
    exact rests _ herald_nextAlert
  next now alert rest stage =>
    split at stepped
    · cases stepped
      exact rests _ herald_nextAlert
    next rises =>
      cases stepped
      rw [board_turn]
      exact .asks p _ _ _ (Nat.lt_of_not_le rises) rfl
  next now alert previous rest stage =>
    obtain ⟨-, rises⟩ := rises_of_claiming orderly stage
    rw [claim_eq rises] at stepped
    by_cases room : hub.alerted alert.key < alert.target
    · rw [if_pos room] at stepped
      cases stepped
      have claim := @board_claim hub p previous now alert rest
        { hub.watchers p with stage := .posting now alert previous rest } orderly stage
        (undisturbed rfl _ _ _ _ stage) (.inl ⟨rfl, room⟩)
      rwa [claim_eq rises, if_pos room] at claim
    · rw [if_neg room] at stepped
      cases stepped
      exact rests _ herald_nextAlert
  next now alert previous rest stage =>
    cases stepped
    exact board_post stage herald_nextAlert
  next now alert previous rest stage =>
    cases stepped
    rw [board_turn]
    refine .refuses p alert.key previous alert.target ?_ rfl
    show (hub.watchers p).stage.herald = _
    rw [stage]
    rfl
  next now alert previous rest stage =>
    cases stepped
    exact board_release stage herald_nextAlert
  next took =>
    cases stepped
    exact board_cut orderly rfl fun effect => undisturbed effect
  next took =>
    cases stepped
    exact board_cut orderly rfl fun effect => undisturbed effect
  · cases stepped

/-- Processes that do not disturb each other keep the board orderly. -/
theorem run_orderly {labels : List (Nat × WatcherEvent)} (run : Steps UndisturbedStep hub labels hub')
    (orderly : hub.board.Orderly) : hub'.board.Orderly := by
  have each : ∀ (s : ClaudeHub) label s', UndisturbedStep s label s' → s.board.Orderly → s'.board.Orderly :=
    fun _ _ _ stepped orderly => (step_board orderly stepped).orderly orderly
  have keeps := Steps.invariant each run
  exact keeps orderly

theorem fresh_orderly {table : AlertKey → Option Nat} : (fresh table).board.Orderly where
  ascending := .nil
  posted := nofun
  asked := nofun
  held := fun _ _ _ _ holds => absurd holds Board.not_holds_idle
  single := fun _ _ _ _ _ _ _ holds => absurd holds Board.not_holds_idle

/-- Only process `p` is up, and what it claims over is what it was told. -/
structure Lone (p : Nat) (hub : ClaudeHub) : Prop where
  others : ∀ q ≠ p, (hub.watchers q).stage = .asleep
  told : ∀ now alert previous rest, (hub.watchers p).stage = .claiming now alert previous rest →
    hub.alerted alert.key = previous

theorem Lone.undisturbed (lone : Lone p hub) : Undisturbed hub p event := by
  intro _ now alert previous rest stage _
  refine ⟨lone.told _ _ _ _ stage, fun q previous' target' holds => ?_⟩
  by_cases same : q = p
  · subst same
    have asked : hub.board.stage q = .asked alert.key previous alert.target := congrArg WatcherStage.herald stage
    rw [asked] at holds
    exact Board.not_holds_asked holds
  · have idle : hub.board.stage q = .idle := congrArg WatcherStage.herald (lone.others q same)
    rw [idle] at holds
    exact Board.not_holds_idle holds

theorem Lone.turn (lone : Lone p hub) {watcher : Watcher} (watchers : hub'.watchers = hub.watchers)
    (told : ∀ now alert previous rest, watcher.stage = .claiming now alert previous rest → hub'.alerted alert.key = previous) :
    Lone p (hub'.turn p watcher) where
  others q ne := by
    show (Function.update hub'.watchers p watcher q).stage = _
    rw [Function.update_of_ne ne, watchers]
    exact lone.others q ne
  told now alert previous rest stage := by
    apply told now alert previous rest
    rw [← stage]
    show _ = (Function.update hub'.watchers p watcher p).stage
    rw [Function.update_self]

theorem Lone.step (lone : Lone p hub) (stepped : Step hub (p, event) hub') : Lone p hub' := by
  have unclaimed : ∀ {watcher : Watcher} {hub'' : ClaudeHub}, watcher.stage.herald = .idle → ∀ now alert previous rest,
      watcher.stage = .claiming now alert previous rest → hub''.alerted alert.key = previous := by
    intro watcher hub'' idle now alert previous rest stage
    rw [stage] at idle
    cases idle
  have cut : ∀ took : Bool, (if took then hub.tookEffect (hub.watchers p).stage else hub).watchers = hub.watchers := by
    intro took
    cases took with
    | false => rfl
    | true => cases stage : (hub.watchers p).stage <;> rfl
  simp only [Step, ClaudeHub.step] at stepped
  split at stepped
  · cases stepped
    exact lone.turn rfl (unclaimed rfl)
  · cases stepped
    exact lone.turn rfl (unclaimed herald_nextAlert)
  · split at stepped <;> cases stepped
    · exact lone.turn rfl (unclaimed herald_nextAlert)
    · refine lone.turn rfl fun now alert previous rest stage => ?_
      cases stage
      rfl
  · split at stepped <;> cases stepped
    · exact lone.turn rfl fun _ _ _ _ stage => nomatch stage
    · exact lone.turn rfl (unclaimed herald_nextAlert)
  · cases stepped
    exact lone.turn rfl (unclaimed herald_nextAlert)
  · cases stepped
    exact lone.turn rfl fun _ _ _ _ stage => nomatch stage
  · cases stepped
    exact lone.turn rfl (unclaimed herald_nextAlert)
  next took =>
    cases stepped
    exact lone.turn (cut took) (unclaimed rfl)
  next took =>
    cases stepped
    exact lone.turn (cut took) (unclaimed rfl)
  · cases stepped

/-- One web process, however often it is restarted, disturbs no claim. -/
theorem lone_run {labels : List (Nat × WatcherEvent)} (run : Steps Step hub labels hub') (lone : Lone p hub)
    (only : ∀ label ∈ labels, label.1 = p) : Steps UndisturbedStep hub labels hub' := by
  induction run with
  | nil => exact .nil _
  | @cons s s' _ label labels stepped rest ih =>
    obtain ⟨q, event⟩ := label
    obtain rfl : q = p := only _ List.mem_cons_self
    exact .cons ⟨stepped, lone.undisturbed⟩
      (ih (lone.step stepped) fun label mem => only label (List.mem_cons_of_mem _ mem))

theorem fresh_lone {table : AlertKey → Option Nat} : Lone p (fresh table) where
  others _ _ := rfl
  told _ _ _ _ stage := nomatch stage

end ClaudeHub
end Issuebot
