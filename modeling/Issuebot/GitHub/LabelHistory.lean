import Issuebot.GitHub.Evidence
import Issuebot.Orchestrator.Family
import Mathlib.Data.List.Infix

/-!
# The record only GitHub writes

A live issue as the conflict bounce sees it: its labels, the timeline of its label additions, which
only grows, and its workpad, which the session rewrites. The others, who are people and sessions
under the worker's own account, may change all of it but cannot unwrite the timeline (`Grows`), so
what a read of it has counted stays counted (`ownAdditions_mono`).
-/

namespace Issuebot
set_option autoImplicit false

/-- One label addition of the timeline. An account or a label is `none` once it is deleted. -/
structure LabelEvent where
  actor : Option String
  label : Option String
  deriving DecidableEq, Repr

/-- The addition is of `label`, by the account `login`. -/
def LabelEvent.isOwn (py : Py) (login label : String) (event : LabelEvent) : Bool :=
  event.actor.any (fun actor => py.lower actor = py.lower login) &&
    event.label.any fun name => py.lower name = py.lower label

/-- An issue on GitHub. `labels` are lower-cased; `bounced` counts how often a bounce has moved it
from `review` to `rework`. -/
structure Tracked where
  labels : List String
  history : List LabelEvent
  workpad : Option String := none
  bounced : Nat := 0
  deriving DecidableEq, Repr

/-- One page of a connection. -/
structure LabelPage where
  nodes : List LabelEvent
  hasNextPage : Bool

namespace Tracked

variable {before after : Tracked} {py : Py} {login label : String}

/-- The timeline only grows, and no bounce is made. -/
structure Grows (before after : Tracked) : Prop where
  history : before.history <+: after.history
  bounced : after.bounced = before.bounced

instance : Std.Refl Grows := ⟨fun _ => ⟨List.prefix_rfl, rfl⟩⟩

instance : IsTrans Tracked Grows where
  trans _ _ _ first second := ⟨first.history.trans second.history, second.bounced.trans first.bounced⟩

/-- GitHub's answer for a page of the timeline. -/
def labelEvents (page : Nat) (tracked : Tracked) : LabelPage where
  nodes := (tracked.history.drop (page * pageSize)).take pageSize
  hasNextPage := (page + 1) * pageSize < tracked.history.length

/-- How often the account `login` has added `label`. -/
def ownAdditions (py : Py) (login label : String) (tracked : Tracked) : Nat :=
  tracked.history.countP (LabelEvent.isOwn py login label)

theorem ownAdditions_mono (grows : before.history <+: after.history) :
    before.ownAdditions py login label ≤ after.ownAdditions py login label :=
  grows.sublist.countP_le

/-- One more page, counted. -/
theorem count_page (page : Nat) (tracked : Tracked) :
    (tracked.history.take ((page + 1) * pageSize)).countP (LabelEvent.isOwn py login label) =
      (tracked.history.take (page * pageSize)).countP (LabelEvent.isOwn py login label) +
        (tracked.labelEvents page).nodes.countP (LabelEvent.isOwn py login label) := by
  have whole : (page + 1) * pageSize = page * pageSize + pageSize := Nat.succ_mul _ _
  rw [whole, List.take_add, List.countP_append]
  rfl

/-- The last page ends the timeline. -/
theorem take_last {page : Nat} (last : (before.labelEvents page).hasNextPage = false) :
    before.history.take ((page + 1) * pageSize) = before.history := by
  apply List.take_of_length_le
  simpa [labelEvents] using last

/-- What was read of a timeline stays as it was. -/
theorem take_grown {taken : Nat} (grows : before.history <+: after.history) (within : taken ≤ before.history.length) :
    after.history.take taken = before.history.take taken := by
  obtain ⟨added, whole⟩ := grows
  rw [← whole, List.take_append_of_le_length within]

/-- `edit_labels` by the account `login`: what was not there before is an addition. -/
def editLabels (py : Py) (login : String) (add remove : List String) (tracked : Tracked) : Tracked :=
  { tracked with
    labels := editedLabels py add remove tracked.labels
    history := tracked.history ++
      (add.filter fun name => py.lower name ∉ tracked.labels).map fun name => ⟨some login, some name⟩ }

end Tracked
end Issuebot
