import Issuebot.GitHub.Errors
import Issuebot.GitHub.Json
import Issuebot.GitHub.Models

/-!
# The approval evidence read

`approvalEvidence` reads two paginated connections, the timeline's label and rename events
and the body's edits. What the loop over a page's nodes does with one node is a `Reading`;
a page is read to its readings and the cursor of the next page (`readPage`), and
`paginate` follows the cursors for at most `maxTimelinePages` pages.
-/

namespace Issuebot
set_option autoImplicit false

def maxTimelinePages : Nat := 10

/-- What can end the read: a GitHub error, or the `TypeError` of iterating a `nodes` value
that is neither null nor a collection. -/
inductive Raised where
  | gitHub (error : GitHubError)
  | typeError
  deriving DecidableEq, Repr

/-- What one node adds to the evidence. -/
inductive Reading where
  | label (event : LabelApplied)
  | edit (change : TextEdit)
  | skipped
  deriving DecidableEq, Repr

def Reading.label? : Reading → Option LabelApplied
  | label event => some event
  | _ => none

def Reading.edit? : Reading → Option TextEdit
  | edit change => some change
  | _ => none

/-- The evidence a list of readings adds up to. -/
def evidenceOf (readings : List Reading) : ApprovalEvidence where
  labelEvents := readings.filterMap Reading.label?
  edits := readings.filterMap Reading.edit?

/-- One of the two connections: where it is in a response, the message past its ceiling and
what the loop does with one of its mapping nodes. -/
structure Connection where
  path : List String
  overflow : Nat → String
  node : Py → Json → Except Raised Reading

def Raised.response (message : String) : Raised := .gitHub { category := .response, message }

section Paginate

variable (py : Py) (c : Connection)

/-- `_paginate` yields a page's mapping nodes only. -/
def readNode (node : Json) : Except Raised Reading :=
  if node.isMapping then c.node py node else .ok .skipped

/-- One page of `_paginate` with the loop over its nodes: the readings, and the cursor of
the next page where there is one. -/
def readPage (data : Json) : Except Raised (List Reading × Option String) :=
  let connection := data.dig c.path
  if !connection.isMapping then
    .error (.response ("GraphQL response has no " ++ ".".intercalate c.path.tail))
  else do
    let some nodes := (connection.get "nodes").iterate | .error .typeError
    let readings ← nodes.mapM (readNode py c)
    let page := connection.get "pageInfo"
    if !(page.get "hasNextPage").truthy then
      return (readings, none)
    else
      match (page.get "endCursor").text with
      | some cursor => return (readings, some cursor)
      | none => .error (.response "GraphQL page has hasNextPage without endCursor")

end Paginate

end Issuebot
