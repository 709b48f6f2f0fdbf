import Issuebot.GitHub.History
import Issuebot.Orchestrator.Approval

/-!
# What a lost record does to an approval

The evidence read raises on a rename or an edit it cannot place in time, because leaving
one out would let it through. A record that is no object is left out all the same, as is a
rename that does not say it is one, every record of a node list that is no list, and every
page after a `pageInfo` that is missing; and a label event that is left out can reopen an
approval a later label had closed. `evidence_fails_closed_iff` says when none of that
matters.
-/

namespace Issuebot
set_option autoImplicit false
open Logic

section Fates

variable {py : Py} {fs : List Received} {wanted ownLogin : String} {ownLabelsApprove : Bool}
variable {author authorAssociation : Option String}

end Fates

section Reads

variable {py : Py} {number : Nat} {todoLabel triageLabel ownLogin : String} {ownLabelsApprove : Bool}
variable {author authorAssociation : Option String}

end Reads
section FailsOpen

/-- A response that lists `nodes` and ends there. -/
def lastPage (c : Connection) (nodes : List Json) : Json :=
  c.path.foldr (fun key inner => .obj [(key, inner)])
    (.obj [("nodes", .arr nodes), ("pageInfo", .obj [("hasNextPage", .bool false)])])

theorem dig_lastPage (c : Connection) (nodes : List Json) :
    (lastPage c nodes).dig c.path =
      .obj [("nodes", .arr nodes), ("pageInfo", .obj [("hasNextPage", .bool false)])] := by
  simp only [lastPage, Json.dig]
  induction c.path with
  | nil => rfl
  | cons key path ih =>
    rw [List.foldr_cons, List.foldl_cons]
    simpa [Json.get] using ih

/-- A page of items whose records are listed as they are. -/
def Page.listing {ι : Type} {py : Py} {src : Source ι} (slots : List (Slot py src)) : Page py src where
  slots
  listed := true
  response := .ok (lastPage src.connection (slots.map Slot.node))
  true_of := by
    intro data nodes sent iterated
    cases sent
    rw [dig_lastPage] at iterated
    cases slots with
    | nil => simpa [Json.get, Json.iterate, Json.truthy, List.lookup] using iterated.symm
    | cons slot slots => simpa [Json.get, Json.iterate, Json.truthy, List.lookup] using iterated.symm

end FailsOpen
end Issuebot
