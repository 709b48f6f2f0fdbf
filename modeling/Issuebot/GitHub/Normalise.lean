import Issuebot.GitHub.Errors
import Issuebot.GitHub.Json
import Issuebot.GitHub.Models

/-!
# Issue records

`issueFromNode` turns a GraphQL issue node into an `Issue`, or refuses it. GitHub numbers its
issues and pull requests from one, so the model keeps the numbers as naturals.
-/

namespace Issuebot
set_option autoImplicit false

section Normalise

variable {py : Py} (labels : GitHubLabels py)

/-- A record refused. -/
def malformed (message : String) : GitHubError := { category := .response, message }

/-- The role whose configured name matches `name`. -/
def roleFor (name : String) : Option StateLabel :=
  StateLabel.all.find? fun role => py.lower (labels.labelName role) == py.lower (py.strip name)

variable (py) in
/-- The labels a record names, trimmed and lower-cased, each once. -/
def labelNames (connection : Json) : List String :=
  connection.nodes.foldl (fun seen item =>
    match item.get "name" with
    | .str name =>
      let lowered := py.lower (py.strip name)
      if py.strip name = "" ∨ lowered ∈ seen then seen else seen ++ [lowered]
    | _ => seen) []

/-- The login of one `Actor` node. -/
def loginOf (actor : Json) : Option String := (actor.get "login").text

variable (py) in
/-- `_association` -/
def associationOf (value : Json) : Option String := value.text.map py.upper

variable (py) in
/-- `_required_timestamp` -/
def requiredTimestamp (value : Json) (number : Int) (field : String) : Except GitHubError Datetime :=
  match value.timestamp py with
  | some parsed => .ok parsed
  | none => .error (malformed s!"malformed issue record #{number}: missing {field}")

variable (py) in
/-- `_parent_number` -/
def parentNumber (value : Json) (number : Int) (repo : String) : Except GitHubError (Option Nat) :=
  match value with
  | .null => .ok none
  | value =>
    match (value.get "number").int? with
    | none => .error (malformed s!"malformed issue record #{number}: parent")
    | some parent =>
      match (value.dig ["repository", "nameWithOwner"]).text with
      | none => .error (malformed s!"malformed issue record #{number}: parent repository")
      | some ownerName => .ok (if py.lower ownerName = py.lower repo then some parent.toNat else none)

/-- `_sub_issue_total` -/
def subIssueTotal (value : Json) (number : Int) : Except GitHubError Nat :=
  match value with
  | .null => .ok 0
  | value =>
    match (value.get "total").int? with
    | some total => .ok total.toNat
    | none => .error (malformed s!"malformed issue record #{number}: subIssuesSummary")

variable (py) in
/-- The account `login` opened the pull request from the repository itself. -/
def isOwnPr (item : Json) (login : String) : Bool :=
  match loginOf (item.get "author") with
  | none => false
  | some author =>
    py.lower author = py.lower login && (match item.get "isCrossRepository" with
      | .bool cross => !cross
      | _ => false)

/-- `_PR_STATES` -/
def prState? : Json → Option PrState
  | .str "OPEN" => some .opened
  | .str "CLOSED" => some .closed
  | .str "MERGED" => some .merged
  | _ => none

/-- `_MERGEABLE` -/
def mergeableOf : Json → Mergeable
  | .str "MERGEABLE" => .mergeable
  | .str "CONFLICTING" => .conflicting
  | _ => .unknown

/-- A pull request an issue might be linked to, with the rank it is chosen by. -/
structure PrCandidate where
  pr : LinkedPr
  mergedAt : Option Datetime

/-- `_PR_RANK` -/
def PrState.rank : PrState → Nat
  | merged => 0
  | opened => 1
  | closed => 2

/-- The rank `a` has is at most `b`'s: merged before open before closed, then the latest merge, then
the highest number. -/
def PrCandidate.le (a b : PrCandidate) : Bool :=
  if a.pr.state ≠ b.pr.state then decide (a.pr.state.rank < b.pr.state.rank)
  else if a.mergedAt.getD 0 ≠ b.mergedAt.getD 0 then decide (b.mergedAt.getD 0 < a.mergedAt.getD 0)
  else decide (b.pr.number ≤ a.pr.number)

variable (py) in
/-- One reference as a candidate. -/
def prCandidate (login : String) (item : Json) : Option PrCandidate :=
  if !item.isMapping || !isOwnPr py item login then none
  else
    match (item.get "number").int?, (item.get "url").isStr, prState? (item.get "state") with
    | some number, true, some state =>
      some
        { pr := { number := number.toNat, state, mergeable := mergeableOf (item.get "mergeable") }
          mergedAt := (item.get "mergedAt").timestamp py }
    | _, _, _ => none

variable (py) in
/-- `_select_pr`: the first candidate of the lowest rank. -/
def selectPr (connection : Json) (login : String) : Option LinkedPr :=
  match connection.nodes.filterMap (prCandidate py login) with
  | [] => none
  | first :: rest => some (rest.foldl (fun best other => if best.le other then best else other) first).pr

/-- `issue_from_node` -/
def issueFromNode (repo login : String) (node : Json) : Except GitHubError Issue :=
  match (node.get "number").int? with
  | none => .error (malformed "malformed issue record: missing number")
  | some number =>
    match (node.get "title").text with
    | none => .error (malformed s!"malformed issue record #{number}: missing title")
    | some title =>
      if !(node.get "state").isText "OPEN" && !(node.get "state").isText "CLOSED" then
        .error (malformed s!"malformed issue record #{number}: missing state")
      else if (node.get "url").text.isNone then
        .error (malformed s!"malformed issue record #{number}: missing url")
      else do
        let createdAt ← requiredTimestamp py (node.get "createdAt") number "createdAt"
        let updatedAt ← requiredTimestamp py (node.get "updatedAt") number "updatedAt"
        if (node.get "body").text.isSome && !(node.get "bodyHTML").isStr then
          .error (malformed s!"malformed issue record #{number}: body without bodyHTML")
        else
          let allLabels := labelNames py (node.get "labels")
          let stateLabels := StateLabel.all.flatMap fun role =>
            allLabels.filter (· == py.lower (labels.labelName role))
          let state := match stateLabels with
            | [only] => roleFor labels only
            | _ => none
          let githubState := if (node.get "state").isText "OPEN" then GitHubState.opened else .closed
          let parent ← parentNumber py (node.get "parent") number repo
          let subIssueCount ← subIssueTotal (node.get "subIssuesSummary") number
          return {
            number := number.toNat
            title
            body := (node.get "body").text
            author := loginOf (node.get "author")
            githubState
            state
            stateLabels
            labels := allLabels
            createdAt
            updatedAt
            linkedPr := selectPr py (node.get "closedByPullRequestsReferences") login
            dispatchable := githubState == .opened && state.isSome
            authorAssociation := associationOf py (node.get "authorAssociation")
            parent
            parentElsewhere := (match node.get "parent" with | .null => false | _ => true) && parent.isNone
            subIssueCount }

end Normalise
end Issuebot
