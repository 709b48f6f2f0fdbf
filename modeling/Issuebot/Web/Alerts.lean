import Issuebot.Web.Actions
import Issuebot.Web.ClaudeLimits

/-!
# Usage alerts go out once

Both memories are boards (`Logic.Board`), and what their orderly runs have in common is here: every
threshold is posted at most once, and none after one as high (`alerts_go_out_once`). A release puts
back the percent that was read before the claim. Where another process has claimed in between, that
percent is stale, and the release takes back what the other has posted.
-/

namespace Issuebot
set_option autoImplicit false
open Logic

section Alerts

variable {claudeLabels : List (Nat × WatcherEvent)} {actionsLabels : List (Nat × PollerEvent)}
  {claudeTable : AlertKey → Option Nat} {actionsTable : ActionsTable} {settings : Nat → ActionsSettings}
  {claude : ClaudeHub} {actions : ActionsHub}

/-- Among processes that do not disturb each other's claims, every threshold of a window instance is
posted at most once, and every threshold of an account's month, and none after one as high. -/
theorem alerts_go_out_once (watched : Steps ClaudeHub.UndisturbedStep (.fresh claudeTable) claudeLabels claude)
    (polled : Steps ActionsHub.UndisturbedStep (.fresh actionsTable settings) actionsLabels actions) :
    (claude.posted.Nodup ∧ Board.Ascending claude.posted) ∧ actions.posted.Nodup ∧ Board.Ascending actions.posted := by
  have claudeBoard := ClaudeHub.run_orderly watched ClaudeHub.fresh_orderly
  have actionsBoard := ActionsHub.run_orderly polled ActionsHub.fresh_orderly
  exact ⟨⟨claudeBoard.ascending.nodup, claudeBoard.ascending⟩, actionsBoard.ascending.nodup, actionsBoard.ascending⟩

/-- A worker whose reading of the 7-day window is `percent`. -/
def readsSevenDay (percent : Nat) : SnapshotReading where
  sevenDay := some (percent / 100, seconds 86400)
  usageWall := none

/-- One process's cycles: it posts what it reads, and again where that has risen. -/
def loneCycles : List (Nat × WatcherEvent) :=
  [(0, .wakes 0), (0, .listed [readsSevenDay 76]), (0, .told), (0, .claimed), (0, .posted true),
    (0, .wakes (seconds 60)), (0, .listed [readsSevenDay 91]), (0, .told), (0, .claimed), (0, .posted true)]

def billedAccount : ActionsSettings where
  includedMinutes := some 3000
  webhook := true

def lonePolls : List (Nat × PollerEvent) :=
  [(0, .wakes), (0, .loggedIn (some "octo")), (0, .fetched (some ⟨0, 2400⟩) 0), (0, .recorded), (0, .claimed),
    (0, .posted true)]

theorem lone_processes_post_once : ∃ claude actions,
    ((claude : ClaudeHub).posted.Nodup ∧ Board.Ascending claude.posted) ∧
      (actions : ActionsHub).posted.Nodup ∧ Board.Ascending actions.posted ∧
        claude.posted.length = 2 ∧ actions.posted.length = 1 := by
  have watched : (execute (fun hub label => ClaudeHub.step hub label.1 label.2) (.fresh fun _ => none) loneCycles).map
      (List.length ∘ ClaudeHub.posted) = some 2 := by decide +kernel
  have polled : (execute (fun hub label => ActionsHub.step hub label.1 label.2) (.fresh (fun _ => none) fun _ => billedAccount)
      lonePolls).map (List.length ∘ ActionsHub.posted) = some 1 := by decide +kernel
  obtain ⟨claude, claudeRan, two⟩ := Option.map_eq_some_iff.mp watched
  obtain ⟨actions, actionsRan, one⟩ := Option.map_eq_some_iff.mp polled
  have once := alerts_go_out_once
    (ClaudeHub.lone_run (.of_execute claudeRan) (@ClaudeHub.fresh_lone 0 _) (by decide))
    (ActionsHub.lone_run (.of_execute actionsRan) (@ActionsHub.fresh_lone 0 _ _) (by decide))
  exact ⟨claude, actions, once.1, once.2.1, once.2.2, two, one⟩

/-- Both processes have asked before either claims; the second's post fails. -/
def overlappingCycles : List (Nat × WatcherEvent) :=
  [(0, .wakes 0), (0, .listed [readsSevenDay 76]), (0, .told), (1, .wakes 0), (1, .listed [readsSevenDay 91]), (1, .told),
    (0, .claimed), (0, .posted true), (1, .claimed), (1, .posted false), (1, .released),
    (0, .wakes (seconds 60)), (0, .listed [readsSevenDay 76]), (0, .told), (0, .claimed), (0, .posted true)]

/-- The 75% alert is posted twice. -/
theorem overlapping_cycles_post_twice :
    ∃ hub, Steps ClaudeHub.Step (.fresh fun _ => none) overlappingCycles hub ∧ ¬ hub.posted.Nodup := by
  have ran : (execute (fun hub label => ClaudeHub.step hub label.1 label.2) (.fresh fun _ => none) overlappingCycles).map
      ClaudeHub.posted = some [((sevenDay, seconds 86400), 75), ((sevenDay, seconds 86400), 75)] := by decide +kernel
  obtain ⟨hub, executed, twice⟩ := Option.map_eq_some_iff.mp ran
  refine ⟨hub, .of_execute executed, ?_⟩
  rw [twice]
  decide

end Alerts

end Issuebot
