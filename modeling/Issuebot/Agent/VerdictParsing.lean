import Issuebot.Agent.Scrub
import Issuebot.Agent.Verdict
import Issuebot.Agent.Visible

/-!
# Reading a verdict

A session's `structured_output` is checked against everything its schema states and more before
anything of it reaches GitHub. The parser reads and measures the strings first and scrubs them last,
field by field. A `VerdictError` is its message.
-/

namespace Issuebot
set_option autoImplicit false
open Logic

/-- `TITLE_LIMIT` -/
def titleLimit : Nat := 200

/-- `BODY_LIMIT` -/
def bodyLimit : Nat := 20000

/-- `REASON_LIMIT` -/
def reasonLimit : Nat := 2000

/-- `_REASONS` -/
def reasonNames : List String := ["summary", "fits_caps", "lands_fast", "needs_human", "ignored_requests"]

/-- `_FIELDS` -/
def verdictFields : List String := "verdict" :: reasonNames ++ ["sub_issues"]

/-- `_REVIEW_REASONS` -/
def reviewReasonNames : List String := ["summary", "evidence", "ignored_requests"]

/-- `_REVIEW_FIELDS` -/
def reviewFields : List String := "verdict" :: reviewReasonNames ++ ["sub_issues"]

/-- `_SUB_FIELDS` -/
def subFields : List String := ["title", "body", "kind"]

/-- General category Cc. -/
def isControl (c : Char) : Bool := c.toNat < 0x20 || (0x7F ≤ c.toNat && c.toNat ≤ 0x9F)

/-- Unicode's tables as `re` and `str` read them: `\w` and `str.isidentifier`. -/
structure Tables where
  isWord : Char → Bool
  isIdentifier : Text → Bool

/-- The members of a JSON object. -/
abbrev Members := List (PyStr × Decoded)

/-- `obj[name]` -/
def Members.item (members : Members) (name : String) : Decoded := (members.lookup (PyStr.ofString name)).getD .null

/-- `value.replace("\r\n", "\n").replace("\r", "\n")` -/
def lineEndings : PyStr → PyStr
  | [] => []
  | .scalar '\r' :: .scalar '\n' :: rest => .scalar '\n' :: lineEndings rest
  | c :: rest => (if c = .scalar '\r' then .scalar '\n' else c) :: lineEndings rest

/-- `_carriable`: the string as the text it is. -/
def carriable (name : String) (value : PyStr) (keep : Text) : Except String Text :=
  match value.encode with
  | none => .error (name ++ " is not valid Unicode")
  | some text =>
    if text.any fun c => isControl c && !keep.contains c then .error (name ++ " has a control character in it") else .ok text

/-- What a reader wants of a string. -/
structure Wanted where
  name : String
  limit : Nat
  required : Bool := false
  lineEndings : Bool := false

/-- `_text` -/
def readText (members : Members) (wanted : Wanted) : Except String Text :=
  match members.item wanted.name with
  | .str value => do
    let text ← carriable wanted.name (if wanted.lineEndings then lineEndings value else value) ['\n', '\t']
    if (strip text).length > wanted.limit then
      .error (wanted.name ++ " is longer than " ++ toString wanted.limit ++ " characters")
    else if wanted.required && (strip text).isEmpty then .error (wanted.name ++ " must not be empty")
    else .ok (strip text)
  | _ => .error (wanted.name ++ " must be a string")

section Scrubbed

variable (tables : Tables) (scrubber : Scrubber)

/-- The scrubber's text of a text. -/
def scrubText (text : Text) : Text := ((scrubber.scrub tables.isWord (PyStr.ofText text)).encode).getD []

/-- `_fields`: an object of exactly the names. -/
def readFields (value : Decoded) (names : List String) (what : String) : Except String Members :=
  match value with
  | .obj members =>
    match members.find? fun member => !(names.map PyStr.ofString).contains member.1 with
    | some (name, _) =>
      let shown := match name.encode with
        | some text => if tables.isIdentifier text && decide (text.length ≤ 40) then scrubText tables scrubber text else []
        | none => []
      .error (if shown ≠ [] then "unexpected field " ++ String.ofList shown ++ " in " ++ what
        else "unexpected field in " ++ what)
    | none =>
      match names.find? fun name => (members.lookup (PyStr.ofString name)).isNone with
      | some name => .error ("missing field " ++ name ++ " in " ++ what)
      | none => .ok members
  | _ => .error (what ++ " must be an object")

variable (py : Py)

/-- A draft as it was read. -/
structure ReadDraft where
  title : Text
  body : Text
  kind : DraftKind

def wantedTitle : Wanted := { name := "title", limit := titleLimit, required := true }

def wantedBody : Wanted := { name := "body", limit := bodyLimit, required := true, lineEndings := true }

/-- `item["kind"]`, where it is one of `_KINDS`. -/
def readKind (members : Members) : Except String DraftKind :=
  match members.item "kind" with
  | .str value =>
    if value = PyStr.ofString "issuebot" then .ok .issuebot
    else if value = PyStr.ofString "operator" then .ok .operator
    else .error "kind must be issuebot or operator"
  | _ => .error "kind must be issuebot or operator"

/-- One step of `_drafts`, `seen` being the keys of the titles before it. -/
def readDraft (seen : List String) (step : Decoded) : Except String ReadDraft := do
  let members ← readFields tables scrubber step subFields "a sub-issue"
  let title ← readText members wantedTitle
  if (splitlines (String.ofList title)).length ≠ 1 then .error "a title is one line"
  else do
    let title ← carriable "title" (PyStr.ofText title) []
    let body ← readText members wantedBody
    let kind ← readKind members
    if seen.contains (py.casefold (String.ofList title)) then .error "sub-issue titles must be distinct"
    else .ok { title, body, kind }

/-- The loop of `_drafts`. -/
def readDrafts : List String → List Decoded → Except String (List ReadDraft)
  | _, [] => .ok []
  | seen, step :: rest => do
    let draft ← readDraft tables scrubber py seen step
    let drafts ← readDrafts (py.casefold (String.ofList draft.title) :: seen) rest
    return draft :: drafts

/-- The scrubbed draft. -/
def ReadDraft.scrubbed (draft : ReadDraft) : SubIssueDraft where
  title := String.ofList (strip (scrubText tables scrubber draft.title))
  body := String.ofList (scrubText tables scrubber draft.body)
  kind := draft.kind

/-- `_drafts` -/
def drafts (steps : Decoded) (maxSubIssues : Nat) : Except String (List SubIssueDraft) :=
  match steps with
  | .arr steps =>
    if steps.length > maxSubIssues then
      .error ("a verdict may carry at most " ++ toString maxSubIssues ++ " sub-issues")
    else do
      let read ← readDrafts tables scrubber py [] steps
      return read.map (ReadDraft.scrubbed tables scrubber)
  | _ => .error "sub_issues must be an array"

/-- The reason called `name`. -/
def wantedReason (name : String) (required : Bool) : Wanted :=
  { name, limit := reasonLimit, required, lineEndings := true }

/-- `obj["verdict"]`, where it is one of the words. -/
def readOutcome {α : Type} (members : Members) (words : List (String × α)) (otherwise : String) : Except String α :=
  match members.item "verdict" with
  | .str value =>
    match words.find? fun word => PyStr.ofString word.1 = value with
    | some word => .ok word.2
    | none => .error otherwise
  | _ => .error otherwise

/-- `parse_verdict` -/
def parseVerdict (raw : Decoded) (maxSubIssues : Nat) : Except String TriageVerdict :=
  match raw with
  | .null => .error "the session returned no verdict"
  | raw => do
    let members ← readFields tables scrubber raw verdictFields "the verdict"
    let verdict ← readOutcome members [("fits", .fits), ("split", .split)] "verdict must be fits or split"
    let summary ← readText members (wantedReason "summary" false)
    let fitsCaps ← readText members (wantedReason "fits_caps" false)
    let landsFast ← readText members (wantedReason "lands_fast" false)
    let needsHuman ← readText members (wantedReason "needs_human" false)
    let ignoredRequests ← readText members (wantedReason "ignored_requests" false)
    let subIssues ← drafts tables scrubber py (members.item "sub_issues") maxSubIssues
    if verdict = TriageOutcome.split ∧ subIssues = [] then .error "a split needs at least one sub-issue"
    else if verdict = .fits ∧ subIssues ≠ [] then .error "a fits verdict files no sub-issues"
    else
      .ok {
        verdict
        summary := String.ofList (scrubText tables scrubber summary)
        fitsCaps := String.ofList (scrubText tables scrubber fitsCaps)
        landsFast := String.ofList (scrubText tables scrubber landsFast)
        needsHuman := String.ofList (scrubText tables scrubber needsHuman)
        ignoredRequests := String.ofList (scrubText tables scrubber ignoredRequests)
        subIssues }

/-- `parse_parent_review` -/
def parseParentReview (raw : Decoded) (maxSubIssues : Nat) : Except String ParentReviewVerdict :=
  match raw with
  | .null => .error "the session returned no verdict"
  | raw => do
    let members ← readFields tables scrubber raw reviewFields "the verdict"
    let verdict ← readOutcome members [("next", .next), ("met", .met), ("gap", .gap)] "verdict must be next, met or gap"
    let summary ← readText members (wantedReason "summary" false)
    let evidence ← readText members (wantedReason "evidence" true)
    let ignoredRequests ← readText members (wantedReason "ignored_requests" false)
    let subIssues ← drafts tables scrubber py (members.item "sub_issues") maxSubIssues
    if verdict = ReviewOutcome.met ∧ subIssues ≠ [] then .error "a met verdict files no sub-issues"
    else if verdict ≠ .met ∧ subIssues = [] then .error ("a " ++ verdict.value ++ " verdict needs at least one sub-issue")
    else
      .ok {
        verdict
        summary := String.ofList (scrubText tables scrubber summary)
        evidence := String.ofList (scrubText tables scrubber evidence)
        ignoredRequests := String.ofList (scrubText tables scrubber ignoredRequests)
        subIssues }

end Scrubbed
end Issuebot
