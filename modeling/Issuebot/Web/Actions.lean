import Issuebot.Logic.Announcements
import Issuebot.Logic.Runs
import Issuebot.Python
import Mathlib.Data.Rat.Floor

/-!
# The Actions minutes poller

Every web process has a poller, and the pollers share `actions_minutes`, one row an account with the
month it was last read for. A cycle reads the month's minutes, records them, which answers what was
posted this month, claims, posts, and gives the claim back when the post fails. A month the row has
left is closed: nothing claims it again.
-/

namespace Issuebot
set_option autoImplicit false
open Logic

/-- An account, and a month by the day it begins on. -/
abbrev ActionsKey : Type := String × Int

/-- `THRESHOLDS` -/
def actionsThresholds : List Nat := [75, 90, 100]

/-- The highest threshold `used` whole minutes have reached; 0 for none. -/
def alertThreshold (used : Int) (included : Nat) : Nat :=
  ((actionsThresholds.filter fun threshold : Nat => (threshold * included : Int) ≤ used * 100).max?).getD 0

/-- `round(x)`: a half goes to the even number. -/
def roundHalfEven (x : Rat) : Int :=
  let whole := x.floor
  if x - whole < 1 / 2 ∨ x - whole = 1 / 2 ∧ whole % 2 = 0 then whole else whole + 1

/-- The first day of the month of an instant, in days since 1970-01-01. -/
def monthStart (now : Datetime) : Int :=
  let (year, month, _) := civilDate (now / seconds 86400)
  daysOfCivil year month 1

structure ActionsUsage where
  period : Int
  usedMinutes : Rat

structure ActionsSettings where
  includedMinutes : Option Nat
  webhook : Bool

/-- A row, by what the poller reads of it. -/
structure ActionsRow where
  period : Option Int
  alertedPercent : Nat
  deriving DecidableEq, Repr

abbrev ActionsTable : Type := String → Option ActionsRow

/-- `RECORD_READING`: the percent it returns, `none` for a month older than the stored one. -/
def recordReading (account : String) (period : Int) (table : ActionsTable) : Option Nat × ActionsTable :=
  match table account with
  | none => (some 0, Function.update table account (some ⟨some period, 0⟩))
  | some row =>
    if row.period.all (· ≤ period) then
      let alerted := if row.period = some period then row.alertedPercent else 0
      (some alerted, Function.update table account (some ⟨some period, alerted⟩))
    else (none, table)

/-- `RECORD_ERROR` -/
def recordError (account : String) (table : ActionsTable) : ActionsTable :=
  match table account with
  | none => Function.update table account (some ⟨none, 0⟩)
  | some _ => table

/-- `CLAIM_ALERT` -/
def claimAlert (account : String) (period : Int) (target : Nat) (table : ActionsTable) : Bool × ActionsTable :=
  match table account with
  | none => (false, table)
  | some row =>
    if row.period = some period ∧ row.alertedPercent < target then
      (true, Function.update table account (some { row with alertedPercent := target }))
    else (false, table)

/-- `RELEASE_ALERT` -/
def releaseAlert (account : String) (period : Int) (target previous : Nat) (table : ActionsTable) : ActionsTable :=
  match table account with
  | none => table
  | some row =>
    if row.period = some period ∧ row.alertedPercent = target then
      Function.update table account (some { row with alertedPercent := previous })
    else table

/-- The await a poller stands at. -/
inductive PollerStage where
  | asleep
  | loggingIn
  | fetching (account : String)
  | recordingError (account : String)
  | recording (account : String) (usage : ActionsUsage) (now : Datetime)
  | claiming (account : String) (period : Int) (previous target : Nat)
  | posting (account : String) (period : Int) (previous target : Nat)
  | releasing (account : String) (period : Int) (previous target : Nat)

structure ActionsPoller where
  settings : ActionsSettings
  account : Option String
  stage : PollerStage

/-- A poller as its process starts. -/
def ActionsPoller.started (settings : ActionsSettings) : ActionsPoller where
  settings
  account := none
  stage := .asleep

/-- The end of `poll_once`, on what the reading's record returned. -/
def afterRecord (settings : ActionsSettings) (account : String) (usage : ActionsUsage) (now : Datetime) (alerted : Nat) :
    PollerStage :=
  if usage.period < monthStart now then .asleep
  else match settings.includedMinutes with
  | none => .asleep
  | some included =>
    if !settings.webhook then .asleep
    else
      let target := alertThreshold (roundHalfEven usage.usedMinutes) included
      if target ≤ alerted then .asleep else .claiming account usage.period alerted target

/-- The table and the web processes that share it. -/
structure ActionsHub where
  table : ActionsTable
  pollers : Nat → ActionsPoller
  posted : List (ActionsKey × Nat)

/-- What ends a poller's await. -/
inductive PollerEvent where
  | wakes
  | loggedIn (login : Option String)
  | fetched (usage : Option ActionsUsage) (now : Datetime)
  | errorRecorded
  | recorded
  | claimed
  | posted (ok : Bool)
  | released
  /-- It raises, and the statement or the post had taken effect or not. -/
  | raised (took : Bool)
  /-- The process stops there, and a new one takes its place. -/
  | restarted (took : Bool)

namespace ActionsHub

def fresh (table : ActionsTable) (settings : Nat → ActionsSettings) : ActionsHub where
  table
  pollers p := .started (settings p)
  posted := []

def turn (hub : ActionsHub) (p : Nat) (poller : ActionsPoller) : ActionsHub :=
  { hub with pollers := Function.update hub.pollers p poller }

/-- What the effect of an await that is cut short leaves. -/
def tookEffect (hub : ActionsHub) : PollerStage → ActionsHub
  | .recordingError account => { hub with table := recordError account hub.table }
  | .recording account usage _ => { hub with table := (recordReading account usage.period hub.table).2 }
  | .claiming account period _ target => { hub with table := (claimAlert account period target hub.table).2 }
  | .posting account period _ target => { hub with posted := hub.posted ++ [((account, period), target)] }
  | .releasing account period previous target => { hub with table := releaseAlert account period target previous hub.table }
  | .asleep | .loggingIn | .fetching _ => hub

/-- One await of process `p` ends; `none` where it stands at another. -/
def step (hub : ActionsHub) (p : Nat) (event : PollerEvent) : Option ActionsHub :=
  let poller := hub.pollers p
  let sleeps := { poller with stage := .asleep }
  match event, poller.stage with
  | .wakes, .asleep =>
    match poller.account with
    | none => some (hub.turn p { poller with stage := .loggingIn })
    | some account => some (hub.turn p { poller with stage := .fetching account })
  | .loggedIn none, .loggingIn => some (hub.turn p sleeps)
  | .loggedIn (some login), .loggingIn =>
    some (hub.turn p { poller with account := some login, stage := .fetching login })
  | .fetched none _, .fetching account => some (hub.turn p { poller with stage := .recordingError account })
  | .fetched (some usage) now, .fetching account =>
    some (hub.turn p { poller with stage := .recording account usage now })
  | .errorRecorded, .recordingError account => some ({ hub with table := recordError account hub.table }.turn p sleeps)
  | .recorded, .recording account usage now =>
    match recordReading account usage.period hub.table with
    | (none, table) => some ({ hub with table }.turn p sleeps)
    | (some alerted, table) =>
      some ({ hub with table }.turn p { poller with stage := afterRecord poller.settings account usage now alerted })
  | .claimed, .claiming account period previous target =>
    match claimAlert account period target hub.table with
    | (true, table) => some ({ hub with table }.turn p { poller with stage := .posting account period previous target })
    | (false, table) => some ({ hub with table }.turn p sleeps)
  | .posted true, .posting account period _ target =>
    some ({ hub with posted := hub.posted ++ [((account, period), target)] }.turn p sleeps)
  | .posted false, .posting account period previous target =>
    some (hub.turn p { poller with stage := .releasing account period previous target })
  | .released, .releasing account period previous target =>
    some ({ hub with table := releaseAlert account period target previous hub.table }.turn p sleeps)
  | .raised took, stage => some ((if took then hub.tookEffect stage else hub).turn p sleeps)
  | .restarted took, stage => some ((if took then hub.tookEffect stage else hub).turn p (.started poller.settings))
  | _, _ => none

end ActionsHub

/-- The poller as a herald of its alerts. -/
def PollerStage.herald : PollerStage → Stage ActionsKey
  | .claiming account period previous target => .asked (account, period) previous target
  | .posting account period previous target => .claimed (account, period) previous target
  | .releasing account period previous target => .refused (account, period) previous target
  | .asleep | .loggingIn | .fetching _ | .recordingError _ | .recording _ _ _ => .idle

/-- The percent a row keeps for a month: nothing for one it has not reached, `⊤` for one it has
left. -/
def ActionsRow.level (row : Option ActionsRow) (period : Int) : WithTop Nat :=
  match row with
  | none => 0
  | some row =>
    match row.period with
    | none => 0
    | some stored => if stored = period then row.alertedPercent else if period < stored then ⊤ else 0

theorem level_stored {row : ActionsRow} {period : Int} (stored : row.period = some period) :
    ActionsRow.level (some row) period = (row.alertedPercent : WithTop Nat) := by
  unfold ActionsRow.level
  dsimp only
  rw [stored]
  exact if_pos rfl

/-- A newer reading closes the months before it and changes no other. -/
theorem level_newer {row : ActionsRow} {period : Int} (newer : row.period.all (· ≤ period)) (month : Int) :
    ActionsRow.level (some ⟨some period, if row.period = some period then row.alertedPercent else 0⟩) month =
        ActionsRow.level (some row) month ∨
      ActionsRow.level (some ⟨some period, if row.period = some period then row.alertedPercent else 0⟩) month = ⊤ := by
  rcases Int.lt_trichotomy month period with before | rfl | after
  · by_cases same : row.period = some period
    · left
      simp only [ActionsRow.level, same, if_true]
    · right
      simp only [ActionsRow.level]
      rw [if_neg (by omega), if_pos before]
  · left
    cases stored : row.period with
    | none => simp [ActionsRow.level, stored]
    | some stored' =>
      have le : stored' ≤ month := by simpa [stored] using newer
      by_cases same : stored' = month
      · simp [ActionsRow.level, stored, same]
      · simp [ActionsRow.level, stored, same, show ¬ month < stored' by omega]
  · left
    cases stored : row.period with
    | none => simp [ActionsRow.level, stored, show period ≠ month by omega, show ¬ month < period by omega]
    | some stored' =>
      have le : stored' ≤ period := by simpa [stored] using newer
      simp [ActionsRow.level, stored, show period ≠ month by omega, show ¬ month < period by omega,
        show stored' ≠ month by omega, show ¬ month < stored' by omega]

theorem level_recordReading {account : String} {period : Int} {table : ActionsTable} (other : String) (month : Int) :
    ActionsRow.level ((recordReading account period table).2 other) month = ActionsRow.level (table other) month ∨
      ActionsRow.level ((recordReading account period table).2 other) month = ⊤ := by
  unfold recordReading
  by_cases same : other = account
  · subst same
    cases found : table other with
    | none =>
      have opened := @level_newer ⟨none, 0⟩ period rfl month
      simpa [ActionsRow.level] using opened
    | some row =>
      dsimp only
      split
      next newer => simpa using level_newer newer month
      next => exact .inl (congrArg (ActionsRow.level · month) found)
  · left
    cases table account with
    | none => simp [same]
    | some row =>
      dsimp only
      split
      · simp [same]
      · rfl

theorem level_recordError {account : String} {table : ActionsTable} (other : String) (month : Int) :
    ActionsRow.level (recordError account table other) month = ActionsRow.level (table other) month := by
  unfold recordError
  cases found : table account with
  | some row => rfl
  | none =>
    by_cases same : other = account
    · subst same
      simp [ActionsRow.level, found]
    · simp [same]

/-- A percent written into the row of a month it is at. -/
theorem level_written {account : String} {period : Int} {row : ActionsRow} {table : ActionsTable} {percent : Nat}
    (found : table account = some row) (stored : row.period = some period) (key : ActionsKey) :
    ActionsRow.level (Function.update table account (some { row with alertedPercent := percent }) key.1) key.2 =
      Function.update (fun key : ActionsKey => ActionsRow.level (table key.1) key.2) (account, period) (percent : WithTop Nat) key := by
  obtain ⟨other, month⟩ := key
  by_cases same : other = account
  · subst same
    by_cases current : month = period
    · subst current
      simp [ActionsRow.level, stored]
    · simp [ActionsRow.level, stored, found, Ne.symm current, current]
  · simp [same]

namespace ActionsHub

variable {hub hub' : ActionsHub} {p : Nat} {event : PollerEvent} {account : String} {period : Int} {previous target : Nat}

/-- The table as a board, and the pollers as its heralds. -/
def board (hub : ActionsHub) : Board ActionsKey Nat where
  level key := ActionsRow.level (hub.table key.1) key.2
  stage p := (hub.pollers p).stage.herald
  posted := hub.posted

theorem board_turn {poller : ActionsPoller} : (hub.turn p poller).board = hub.board.turn p poller.stage.herald := by
  unfold board turn Board.turn
  congr 1
  funext q
  exact Function.apply_update (fun _ poller => poller.stage.herald) hub.pollers p poller q

theorem board_write {row : ActionsRow} {percent : Nat} (found : hub.table account = some row) (stored : row.period = some period) :
    ({ hub with table := Function.update hub.table account (some { row with alertedPercent := percent }) } : ActionsHub).board =
      hub.board.raise (account, period) percent := by
  unfold board Board.raise
  congr 1
  funext key
  exact level_written found stored key

/-- Whether the await's claim reaches the table. -/
def PollerEvent.reaches : PollerEvent → Bool
  | .claimed => true
  | .raised took | .restarted took => took
  | _ => false

/-- A claim that writes is over the percent the poller's reading returned, and no other process has
one of the account and month out. -/
def Undisturbed (hub : ActionsHub) (p : Nat) (event : PollerEvent) : Prop :=
  PollerEvent.reaches event = true → ∀ account period previous target,
    (hub.pollers p).stage = .claiming account period previous target → ∀ row, hub.table account = some row →
      row.period = some period → row.alertedPercent < target →
        row.alertedPercent = previous ∧ hub.board.Free (account, period)

def Step (hub : ActionsHub) (label : Nat × PollerEvent) (hub' : ActionsHub) : Prop := hub.step label.1 label.2 = some hub'

def UndisturbedStep (hub : ActionsHub) (label : Nat × PollerEvent) (hub' : ActionsHub) : Prop :=
  Step hub label hub' ∧ Undisturbed hub label.1 label.2

theorem board_rests {poller : ActionsPoller} (idle : poller.stage.herald = .idle) :
    Board.Step hub.board (hub.turn p poller).board := by
  rw [board_turn, idle]
  exact .rests p rfl

/-- What a claim does: it writes where the row is at the month and below the target, and else
nothing. -/
theorem claimAlert_cases (account : String) (period : Int) (target : Nat) (table : ActionsTable) :
    (∃ row, table account = some row ∧ row.period = some period ∧ row.alertedPercent < target ∧
      claimAlert account period target table =
        (true, Function.update table account (some { row with alertedPercent := target }))) ∨
      claimAlert account period target table = (false, table) := by
  unfold claimAlert
  cases found : table account with
  | none => exact .inr rfl
  | some row =>
    by_cases room : row.period = some period ∧ row.alertedPercent < target
    · exact .inl ⟨row, rfl, room.1, room.2, if_pos room⟩
    · exact .inr (if_neg room)

/-- The claim of a poller, however its await ends. -/
theorem board_claim {poller : ActionsPoller} (stage : (hub.pollers p).stage = .claiming account period previous target)
    (undisturbed : ∀ row, hub.table account = some row → row.period = some period → row.alertedPercent < target →
      row.alertedPercent = previous ∧ hub.board.Free (account, period))
    (next : poller.stage.herald = .claimed (account, period) previous target ∧
        (claimAlert account period target hub.table).1 = true ∨ poller.stage.herald = .idle) :
    Board.Step hub.board ({ hub with table := (claimAlert account period target hub.table).2 }.turn p poller).board := by
  have asked : hub.board.stage p = .asked (account, period) previous target := congrArg PollerStage.herald stage
  rcases claimAlert_cases account period target hub.table with ⟨row, found, stored, room, wrote⟩ | unwritten
  · obtain ⟨told, free⟩ := undisturbed row found stored room
    rw [wrote, board_turn, board_write found stored]
    refine .claims p (account, period) previous target poller.stage.herald asked ?_ free (next.imp_left And.left) rfl
    show ActionsRow.level (hub.table account) period = _
    rw [found]
    exact (level_stored stored).trans (congrArg Nat.cast told)
  · rw [unwritten] at next ⊢
    apply board_rests
    exact next.resolve_left fun claimed => nomatch claimed.2

/-- The release of a poller whose post failed, however its await ends. -/
theorem board_release {poller : ActionsPoller} (stage : (hub.pollers p).stage = .releasing account period previous target)
    (idle : poller.stage.herald = .idle) :
    Board.Step hub.board ({ hub with table := releaseAlert account period target previous hub.table }.turn p poller).board := by
  have refused : hub.board.stage p = .refused (account, period) previous target := congrArg PollerStage.herald stage
  unfold releaseAlert
  cases found : hub.table account with
  | none => exact board_rests idle
  | some row =>
    by_cases ours : row.period = some period ∧ row.alertedPercent = target
    · obtain ⟨stored, percent⟩ := ours
      dsimp only
      rw [if_pos ⟨stored, percent⟩, board_turn, idle, board_write found stored]
      refine .releases p _ _ _ refused ?_ rfl
      show ActionsRow.level (hub.table account) period = _
      rw [found]
      exact (level_stored stored).trans (congrArg Nat.cast percent)
    · dsimp only
      rw [if_neg ours]
      exact board_rests idle

/-- The post of a poller that Slack took. -/
theorem board_post {poller : ActionsPoller} (stage : (hub.pollers p).stage = .posting account period previous target)
    (idle : poller.stage.herald = .idle) :
    Board.Step hub.board ({ hub with posted := hub.posted ++ [((account, period), target)] }.turn p poller).board := by
  have claimed : hub.board.stage p = .claimed (account, period) previous target := congrArg PollerStage.herald stage
  rw [board_turn, idle]
  exact .posts p _ _ _ claimed rfl

/-- A reading closes months, and then the poller turns to what it calls for. -/
theorem board_record {usage : ActionsUsage} {poller : ActionsPoller}
    (next : poller.stage.herald = .idle ∨
      ∃ previous target, poller.stage.herald = .asked (account, usage.period) previous target ∧ previous < target) :
    Relation.ReflTransGen Board.Step hub.board
      ({ hub with table := (recordReading account usage.period hub.table).2 }.turn p poller).board := by
  have closes : Board.Step hub.board ({ hub with table := (recordReading account usage.period hub.table).2 } : ActionsHub).board :=
    .closes _ (fun key => level_recordReading key.1 key.2) rfl
  apply (Relation.ReflTransGen.single closes).tail
  rw [board_turn]
  rcases next with idle | ⟨previous, target, asked, rises⟩
  · rw [idle]
    exact .rests p rfl
  · rw [asked]
    exact .asks p _ _ _ rises rfl

theorem board_recordError {poller : ActionsPoller} (idle : poller.stage.herald = .idle) :
    Board.Step hub.board ({ hub with table := recordError account hub.table }.turn p poller).board := by
  have same : ({ hub with table := recordError account hub.table } : ActionsHub).board = hub.board := by
    unfold board
    congr 1
    funext key
    exact level_recordError key.1 key.2
  rw [board_turn, same, idle]
  exact .rests p rfl

theorem afterRecord_herald (settings : ActionsSettings) (account : String) (usage : ActionsUsage) (now : Datetime) (alerted : Nat) :
    (afterRecord settings account usage now alerted).herald = .idle ∨ ∃ previous target,
      (afterRecord settings account usage now alerted).herald = .asked (account, usage.period) previous target ∧
        previous < target := by
  unfold afterRecord
  split
  · exact .inl rfl
  split
  · exact .inl rfl
  split
  · exact .inl rfl
  dsimp only
  split
  · exact .inl rfl
  next rises => exact .inr ⟨_, _, rfl, Nat.lt_of_not_le rises⟩

/-- An await cut short. -/
theorem board_cut {poller : ActionsPoller} {took : Bool} (idle : poller.stage.herald = .idle)
    (undisturbed : took = true → ∀ account period previous target,
      (hub.pollers p).stage = .claiming account period previous target → ∀ row, hub.table account = some row →
        row.period = some period → row.alertedPercent < target →
          row.alertedPercent = previous ∧ hub.board.Free (account, period)) :
    Relation.ReflTransGen Board.Step hub.board
      ((if took then hub.tookEffect (hub.pollers p).stage else hub).turn p poller).board := by
  cases took with
  | false => exact .single (board_rests idle)
  | true =>
    rw [if_pos rfl]
    cases stage : (hub.pollers p).stage with
    | asleep => exact .single (board_rests idle)
    | loggingIn => exact .single (board_rests idle)
    | fetching account => exact .single (board_rests idle)
    | recordingError account => exact .single (board_recordError idle)
    | recording account usage now => exact board_record (.inl idle)
    | claiming account period previous target =>
      exact .single (board_claim stage (undisturbed rfl _ _ _ _ stage) (.inr idle))
    | posting account period previous target => exact .single (board_post stage idle)
    | releasing account period previous target => exact .single (board_release stage idle)

/-- Every await that ends is a move or two on the board. -/
theorem step_board (stepped : UndisturbedStep hub (p, event) hub') :
    Relation.ReflTransGen Board.Step hub.board hub'.board := by
  obtain ⟨stepped, undisturbed⟩ := stepped
  simp only [Step, step] at stepped
  split at stepped
  · split at stepped <;> cases stepped
    · exact .single (board_rests rfl)
    · exact .single (board_rests rfl)
  · cases stepped
    exact .single (board_rests rfl)
  · cases stepped
    exact .single (board_rests rfl)
  · cases stepped
    exact .single (board_rests rfl)
  · cases stepped
    exact .single (board_rests rfl)
  next account stage =>
    cases stepped
    exact .single (board_recordError rfl)
  next account usage now stage =>
    split at stepped
    next table recorded =>
      cases stepped
      obtain rfl : (recordReading account usage.period hub.table).2 = table := congrArg Prod.snd recorded
      exact board_record (.inl rfl)
    next alerted table recorded =>
      cases stepped
      obtain rfl : (recordReading account usage.period hub.table).2 = table := congrArg Prod.snd recorded
      exact board_record (afterRecord_herald ..)
  next account period previous target stage =>
    have claim : ∀ poller : ActionsPoller, _ → Board.Step hub.board
        ({ hub with table := (claimAlert account period target hub.table).2 }.turn p poller).board :=
      fun _ next => board_claim stage (undisturbed rfl _ _ _ _ stage) next
    split at stepped
    next table claimed =>
      cases stepped
      rw [claimed] at claim
      exact .single (claim _ (.inl ⟨rfl, rfl⟩))
    next table unclaimed =>
      cases stepped
      rw [unclaimed] at claim
      exact .single (claim _ (.inr rfl))
  next account period previous target stage =>
    cases stepped
    exact .single (board_post stage rfl)
  next account period previous target stage =>
    cases stepped
    apply Relation.ReflTransGen.single
    rw [board_turn]
    exact .refuses p (account, period) previous target (congrArg PollerStage.herald stage) rfl
  next account period previous target stage =>
    cases stepped
    exact .single (board_release stage rfl)
  next took =>
    cases stepped
    exact board_cut rfl undisturbed
  next took =>
    cases stepped
    exact board_cut rfl undisturbed
  · cases stepped

/-- Processes that do not disturb each other keep the board orderly. -/
theorem run_orderly {labels : List (Nat × PollerEvent)} (run : Steps UndisturbedStep hub labels hub')
    (orderly : hub.board.Orderly) : hub'.board.Orderly := by
  have each : ∀ (s : ActionsHub) label s', UndisturbedStep s label s' → s.board.Orderly → s'.board.Orderly :=
    fun _ _ _ stepped orderly => orderly.reaches (step_board stepped)
  have keeps := Steps.invariant each run
  exact keeps orderly

theorem fresh_orderly {table : ActionsTable} {settings : Nat → ActionsSettings} : (fresh table settings).board.Orderly where
  ascending := .nil
  posted := nofun
  asked := nofun
  held := fun _ _ _ _ holds => absurd holds Board.not_holds_idle
  single := fun _ _ _ _ _ _ _ holds => absurd holds Board.not_holds_idle

/-- Only process `p` is up, and what it claims over is what its reading returned. -/
structure Lone (p : Nat) (hub : ActionsHub) : Prop where
  others : ∀ q ≠ p, (hub.pollers q).stage = .asleep
  told : ∀ account period previous target, (hub.pollers p).stage = .claiming account period previous target →
    ∀ row, hub.table account = some row → row.period = some period → row.alertedPercent = previous

theorem Lone.undisturbed (lone : Lone p hub) : Undisturbed hub p event := by
  intro _ account period previous target stage row found stored _
  refine ⟨lone.told _ _ _ _ stage row found stored, fun q previous' target' holds => ?_⟩
  by_cases same : q = p
  · subst same
    have asked : hub.board.stage q = .asked (account, period) previous target := congrArg PollerStage.herald stage
    rw [asked] at holds
    exact Board.not_holds_asked holds
  · have idle : hub.board.stage q = .idle := congrArg PollerStage.herald (lone.others q same)
    rw [idle] at holds
    exact Board.not_holds_idle holds

theorem Lone.turn (lone : Lone p hub) {poller : ActionsPoller} (pollers : hub'.pollers = hub.pollers)
    (told : ∀ account period previous target, poller.stage = .claiming account period previous target →
      ∀ row, hub'.table account = some row → row.period = some period → row.alertedPercent = previous) :
    Lone p (hub'.turn p poller) where
  others q ne := by
    show (Function.update hub'.pollers p poller q).stage = _
    rw [Function.update_of_ne ne, pollers]
    exact lone.others q ne
  told account period previous target stage := by
    apply told account period previous target
    rw [← stage]
    show _ = (Function.update hub'.pollers p poller p).stage
    rw [Function.update_self]

/-- A reading returns the percent it leaves in the row. -/
theorem recordReading_returned {alerted : Nat} {table table' : ActionsTable} {row : ActionsRow}
    (recorded : recordReading account period table = (some alerted, table')) (found : table' account = some row) :
    row.alertedPercent = alerted := by
  unfold recordReading at recorded
  cases before : table account with
  | none =>
    rw [before] at recorded
    cases recorded
    rw [Function.update_self] at found
    cases found
    rfl
  | some row' =>
    rw [before] at recorded
    dsimp only at recorded
    split at recorded
    · cases recorded
      rw [Function.update_self] at found
      cases found
      rfl
    · cases recorded

theorem afterRecord_claiming {settings : ActionsSettings} {usage : ActionsUsage} {now : Datetime} {alerted : Nat}
    {account' : String} (claims : afterRecord settings account usage now alerted = .claiming account' period previous target) :
    account' = account ∧ previous = alerted := by
  unfold afterRecord at claims
  split at claims
  · cases claims
  split at claims
  · cases claims
  split at claims
  · cases claims
  dsimp only at claims
  split at claims <;> cases claims
  exact ⟨rfl, rfl⟩

theorem Lone.step (lone : Lone p hub) (stepped : Step hub (p, event) hub') : Lone p hub' := by
  have cut : ∀ took : Bool, (if took then hub.tookEffect (hub.pollers p).stage else hub).pollers = hub.pollers := by
    intro took
    cases took with
    | false => rfl
    | true => cases stage : (hub.pollers p).stage <;> rfl
  simp only [Step, ActionsHub.step] at stepped
  split at stepped
  · split at stepped <;> cases stepped
    · exact lone.turn rfl nofun
    · exact lone.turn rfl nofun
  · cases stepped
    exact lone.turn rfl nofun
  · cases stepped
    exact lone.turn rfl nofun
  · cases stepped
    exact lone.turn rfl nofun
  · cases stepped
    exact lone.turn rfl nofun
  · cases stepped
    exact lone.turn rfl nofun
  next account usage now stage =>
    split at stepped
    · cases stepped
      exact lone.turn rfl nofun
    next alerted table recorded =>
      cases stepped
      refine lone.turn rfl fun account' period' previous' target' claims row found _ => ?_
      obtain ⟨rfl, rfl⟩ := afterRecord_claiming claims
      exact recordReading_returned recorded found
  · split at stepped <;> cases stepped
    · exact lone.turn rfl nofun
    · exact lone.turn rfl nofun
  · cases stepped
    exact lone.turn rfl nofun
  · cases stepped
    exact lone.turn rfl nofun
  · cases stepped
    exact lone.turn rfl nofun
  next took =>
    cases stepped
    exact lone.turn (cut took) nofun
  next took =>
    cases stepped
    exact lone.turn (cut took) nofun
  · cases stepped

/-- One web process, however often it is restarted, disturbs no claim. -/
theorem lone_run {labels : List (Nat × PollerEvent)} (run : Steps Step hub labels hub') (lone : Lone p hub)
    (only : ∀ label ∈ labels, label.1 = p) : Steps UndisturbedStep hub labels hub' := by
  induction run with
  | nil => exact .nil _
  | @cons s s' _ label labels stepped rest ih =>
    obtain ⟨q, event⟩ := label
    obtain rfl : q = p := only _ List.mem_cons_self
    exact .cons ⟨stepped, lone.undisturbed⟩
      (ih (lone.step stepped) fun label mem => only label (List.mem_cons_of_mem _ mem))

theorem fresh_lone {table : ActionsTable} {settings : Nat → ActionsSettings} : Lone p (fresh table settings) where
  others _ _ := rfl
  told _ _ _ _ stage := nomatch stage

end ActionsHub
end Issuebot
