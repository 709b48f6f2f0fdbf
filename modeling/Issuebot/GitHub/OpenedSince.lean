import Mathlib.Data.List.Sort
import Issuebot.GitHub.History
import Issuebot.GitHub.Normalise

/-!
# The issues opened since a watermark

`fetchIssuesOpenedSince` pages through the open issues, newest first, until a page holds one
that is no newer. A record it cannot read it skips. `IssuePage` is a run of the repository's open
issues with the response sent for them, in which a record may be missing, malformed or no object, and
`fetch_complete_iff` says exactly when the answer of a read that ends is complete: where every newer
issue on a page it took has a readable record, and it did not end for want of a next page.
-/

namespace Issuebot
set_option autoImplicit false

def maxIssuePages : Nat := 30

def issuePageSize : Nat := 33

section Read

variable {py : Py} (labels : GitHubLabels py) (repo : String) (since : Datetime) (login : String)

/-- What the loop over a page's nodes reads of one; `none` is a record skipped. -/
def openedNode (node : Json) : Option Issue :=
  if node.isMapping then (issueFromNode labels repo login node).toOption else none

/-- One page: the newer issues on it, and the cursor of the next page where that is asked for. -/
def openedPage (data : Json) : Except Raised (List Issue × Option String) :=
  let connection := data.dig ["repository", "issues"]
  if !connection.isMapping then .error (.response "GraphQL response has no repository.issues")
  else
    match (connection.get "nodes").iterate with
    | none => .error .typeError
    | some nodes =>
      let issues := nodes.filterMap (openedNode labels repo login)
      let found := issues.filter (since < ·.createdAt)
      let allNew := issues.all (since < ·.createdAt)
      let page := connection.get "pageInfo"
      if !allNew || !(page.get "hasNextPage").truthy then .ok (found, none)
      else
        match (page.get "endCursor").text with
        | some cursor => .ok (found, some cursor)
        | none => .error (.response "GraphQL page has hasNextPage without endCursor")

/-- The oldest first, then the lower number. -/
def openedLe (a b : Issue) : Bool :=
  if a.createdAt ≠ b.createdAt then decide (a.createdAt < b.createdAt) else decide (a.number ≤ b.number)

/-- The loop over the pages, `found` having been found before page `page`. -/
def openedPages (fetch : Nat → Option String → Except Raised Json) :
    Nat → Nat → Option String → List Issue → Except Raised (List Issue)
  | 0, _, _, _ =>
    .error (.gitHub (pageCeilingError
      ("more than " ++ toString (maxIssuePages * issuePageSize) ++ " issues were opened since " ++ isoformat since)))
  | pagesLeft + 1, page, cursor, found =>
    match fetch page cursor with
    | .error raised => .error raised
    | .ok data =>
      match openedPage labels repo since login data with
      | .error raised => .error raised
      | .ok (new, none) => .ok ((found ++ new).insertionSort fun a b => openedLe a b)
      | .ok (new, some next) => openedPages fetch pagesLeft (page + 1) (some next) (found ++ new)

/-- `fetch_issues_opened_since`, with the answer of `own_login`. -/
def fetchIssuesOpenedSince (ownLogin : Except Raised String) (fetch : Nat → Option String → Except Raised Json) :
    Except Raised (List Issue) :=
  match ownLogin with
  | .error raised => .error raised
  | .ok login => openedPages labels repo since login fetch maxIssuePages 0 none []

end Read

/-- An open issue, as the repository's listing has it. -/
structure OpenIssue where
  number : Nat
  createdAt : Datetime
  deriving DecidableEq, Repr

/-- The issue a record was read as. -/
def Issue.opened (issue : Issue) : OpenIssue := ⟨issue.number, issue.createdAt⟩

section Pages

variable {py : Py} (labels : GitHubLabels py) (repo : String)

/-- An open issue and the object that was sent for it, if one was: where that can be read, it says the
issue's own number and time. -/
structure IssueSlot where
  item : OpenIssue
  record : Option Json
  true_of : ∀ node, record = some node → ∀ login issue, openedNode labels repo login node = some issue → issue.opened = item

/-- A run of open issues and the response sent for it, whose objects are those issues' records; beside
them it may hold anything that is no object. -/
structure IssuePage where
  slots : List (IssueSlot labels repo)
  response : Except Raised Json
  true_of : ∀ data nodes, response = .ok data → ((data.dig ["repository", "issues"]).get "nodes").iterate = some nodes →
    nodes.filter Json.isMapping = slots.filterMap IssueSlot.record

end Pages

section Spec

variable {py : Py} {labels : GitHubLabels py} {repo : String} {since : Datetime} {login : String}
variable {pages taken left : List (IssuePage labels repo)} {last : IssuePage labels repo}

/-- What a read makes of an open issue's record. -/
def IssueSlot.read (login : String) (slot : IssueSlot labels repo) : Option Issue :=
  slot.record.bind (openedNode labels repo login)

/-- The slots of a run of pages. -/
def slotsOf (pages : List (IssuePage labels repo)) : List (IssueSlot labels repo) := pages.flatMap IssuePage.slots

/-- The open issues the pages list. -/
def listing (pages : List (IssuePage labels repo)) : List OpenIssue := (slotsOf pages).map IssueSlot.item

/-- The page, read. -/
def IssuePage.read (since : Datetime) (login : String) (page : IssuePage labels repo) :
    Except Raised (List Issue × Option String) :=
  match page.response with
  | .error raised => .error raised
  | .ok data => openedPage labels repo since login data

/-- The newer issues read of a page. -/
def IssuePage.found (since : Datetime) (login : String) (page : IssuePage labels repo) : List Issue :=
  (page.slots.filterMap (IssueSlot.read login)).filter (since < ·.createdAt)

/-- The run of a read that ends within `n` pages: those it takes before its last, and those it leaves. -/
inductive Ends (since : Datetime) (login : String) : Nat → List (IssuePage labels repo) →
    List (IssuePage labels repo) → IssuePage labels repo → List (IssuePage labels repo) → Prop where
  | last {n : Nat} {page : IssuePage labels repo} {rest : List (IssuePage labels repo)} {found : List Issue} :
      page.read since login = .ok (found, none) → Ends since login (n + 1) (page :: rest) [] page rest
  | next {n : Nat} {page last : IssuePage labels repo} {rest taken left : List (IssuePage labels repo)}
      {found : List Issue} {cursor : String} :
      page.read since login = .ok (found, some cursor) → Ends since login n rest taken last left →
        Ends since login (n + 1) (page :: rest) (page :: taken) last left

/-- The answers to a read's requests, page by page; a request past the last fails. -/
def servePages (pages : List (IssuePage labels repo)) (page : Nat) (_cursor : Option String) : Except Raised Json :=
  match pages[page]? with
  | some sent => sent.response
  | none => .error (.gitHub { category := .transport, message := "no response" })

/-- The listing is newest first, an issue once. -/
structure NewestFirst (issues : List OpenIssue) : Prop where
  newest : issues.Pairwise fun newer older => older.createdAt ≤ newer.createdAt
  once : (issues.map OpenIssue.number).Nodup

/-- Every issue opened after `since`, each once, in order of its time and then its number. -/
structure AllOpenedSince (since : Datetime) (issues : List OpenIssue) (found : List Issue) : Prop where
  each : (found.map Issue.opened).Perm (issues.filter (since < ·.createdAt))
  ordered : found.Pairwise fun a b => a.createdAt < b.createdAt ∨ a.createdAt = b.createdAt ∧ a.number < b.number

/-- The pages a read took show it every newer issue, and it did not stop for want of a next page before one. -/
structure ShowsAll (since : Datetime) (login : String) (taken : List (IssuePage labels repo))
    (last : IssuePage labels repo) (left : List (IssuePage labels repo)) : Prop where
  readable : ∀ slot ∈ slotsOf (taken ++ [last]), since < slot.item.createdAt → (slot.read login).isSome
  nextPage : (∀ slot ∈ last.slots, ∀ issue, slot.read login = some issue → since < issue.createdAt) →
    ∀ slot ∈ slotsOf left, slot.item.createdAt ≤ since

theorem IssueSlot.read_opened {slot : IssueSlot labels repo} {issue : Issue} (read : slot.read login = some issue) :
    issue.opened = slot.item := by
  obtain ⟨node, sent, is_issue⟩ := Option.bind_eq_some_iff.mp read
  exact slot.true_of node sent login issue is_issue

/-- Only an object is read as an issue. -/
theorem filterMap_openedNode {nodes : List Json} :
    nodes.filterMap (openedNode labels repo login) =
      (nodes.filter Json.isMapping).filterMap (openedNode labels repo login) := by
  rw [List.filterMap_filter]
  apply List.filterMap_congr
  intro node _
  rw [openedNode]
  split <;> rfl

/-- What a page that can be read adds to what is found. -/
theorem IssuePage.read_found {page : IssuePage labels repo} {found : List Issue} {next : Option String}
    (read : page.read since login = .ok (found, next)) : found = page.found since login := by
  cases response : page.response with
  | error raised =>
    simp only [IssuePage.read, response] at read
    cases read
  | ok data =>
    simp only [IssuePage.read, response, openedPage] at read
    split at read
    · cases read
    cases iterated : ((data.dig ["repository", "issues"]).get "nodes").iterate with
    | none =>
      rw [iterated] at read
      cases read
    | some nodes =>
      have sent := page.true_of data nodes response iterated
      have issues : nodes.filterMap (openedNode labels repo login) = page.slots.filterMap (IssueSlot.read login) := by
        rw [filterMap_openedNode, sent, List.filterMap_filterMap]
        rfl
      rw [iterated] at read
      dsimp only at read
      rw [issues] at read
      split at read
      · cases read
        rfl
      · split at read
        · cases read
          rfl
        · cases read

/-- A read ends exactly where its pages say so, with what they add up to in order. -/
theorem openedPages_ok_iff {n page : Nat} {cursor : Option String} {found result : List Issue} :
    openedPages labels repo since login (servePages pages) n page cursor found = .ok result ↔
      ∃ taken last left, Ends since login n (pages.drop page) taken last left ∧
        result = (found ++ (taken ++ [last]).flatMap (IssuePage.found since login)).insertionSort fun a b => openedLe a b := by
  induction n generalizing page cursor found with
  | zero =>
    constructor
    · intro ended
      cases ended
    · rintro ⟨taken, last, left, ends, -⟩
      cases ends
  | succ n ih =>
    by_cases past : page < pages.length
    · have here : pages.drop page = pages.get ⟨page, past⟩ :: pages.drop (page + 1) := List.drop_eq_getElem_cons past
      have asked : servePages pages page cursor = (pages.get ⟨page, past⟩).response := by
        simp [servePages, past]
      rw [here]
      generalize pages.get ⟨page, past⟩ = sent at asked
      have reads : openedPages labels repo since login (servePages pages) (n + 1) page cursor found =
          match sent.read since login with
          | .error raised => .error raised
          | .ok (new, none) => .ok ((found ++ new).insertionSort fun a b => openedLe a b)
          | .ok (new, some next) =>
            openedPages labels repo since login (servePages pages) n (page + 1) (some next) (found ++ new) := by
        rw [openedPages, asked, IssuePage.read]
        cases sent.response with
        | error raised => rfl
        | ok data => rfl
      rw [reads]
      rcases is_read : sent.read since login with raised | ⟨new, _ | next⟩
      · constructor
        · intro ended
          cases ended
        · rintro ⟨taken, last, left, ends, -⟩
          cases ends with
          | last read => cases read.symm.trans is_read
          | next read _ => cases read.symm.trans is_read
      · have is_new := IssuePage.read_found is_read
        constructor
        · intro ended
          refine ⟨[], sent, pages.drop (page + 1), .last is_read, ?_⟩
          rw [← Except.ok.inj ended, is_new]
          simp
        · rintro ⟨taken, last, left, ends, rfl⟩
          cases ends with
          | last read => simp [is_new]
          | next read _ => cases read.symm.trans is_read
      · have is_new := IssuePage.read_found is_read
        rw [ih]
        constructor
        · rintro ⟨taken, last, left, ends, rfl⟩
          refine ⟨sent :: taken, last, left, .next is_read ends, ?_⟩
          simp [is_new]
        · rintro ⟨taken, last, left, ends, rfl⟩
          cases ends with
          | last read => cases read.symm.trans is_read
          | next read rest =>
            refine ⟨_, last, left, rest, ?_⟩
            simp [is_new]
    · have none_left : pages.drop page = [] := List.drop_eq_nil_of_le (not_lt.mp past)
      have failed : servePages pages page cursor = .error (.gitHub { category := .transport, message := "no response" }) := by
        simp [servePages, List.getElem?_eq_none (not_lt.mp past)]
      rw [openedPages, failed, none_left]
      constructor
      · intro ended
        cases ended
      · rintro ⟨taken, last, left, ends, -⟩
        cases ends

theorem Ends.pages_eq {n : Nat} (ends : Ends since login n pages taken last left) : pages = taken ++ last :: left := by
  induction ends with
  | last _ => rfl
  | next _ _ ih => rw [ih, List.cons_append]

/-- What pages add up to, as the open issues they show. -/
theorem found_opened :
    (pages.flatMap (IssuePage.found since login)).map Issue.opened =
      ((slotsOf pages).filter fun slot => (slot.read login).isSome && since < slot.item.createdAt).map IssueSlot.item := by
  have each : ∀ slots : List (IssueSlot labels repo),
      ((slots.filterMap (IssueSlot.read login)).filter (since < ·.createdAt)).map Issue.opened =
        (slots.filter fun slot => (slot.read login).isSome && since < slot.item.createdAt).map IssueSlot.item := by
    intro slots
    induction slots with
    | nil => rfl
    | cons slot rest ih =>
      cases is_read : slot.read login with
      | none => simpa [is_read] using ih
      | some issue =>
        have is_item := IssueSlot.read_opened is_read
        have same_time : issue.createdAt = slot.item.createdAt := congrArg OpenIssue.createdAt is_item
        by_cases newer : since < slot.item.createdAt
        · simpa [is_read, same_time, newer, is_item] using ih
        · simpa [is_read, same_time, newer] using ih
  induction pages with
  | nil => rfl
  | cons page rest ih =>
    rw [List.flatMap_cons, List.map_append, ih, IssuePage.found, each, slotsOf, slotsOf, List.flatMap_cons,
      List.filter_append, List.map_append]

/-- The order of the answer, spelled out. -/
theorem openedLe_iff {a b : Issue} :
    openedLe a b = true ↔ a.createdAt < b.createdAt ∨ a.createdAt = b.createdAt ∧ a.number ≤ b.number := by
  rw [openedLe]
  split
  next differ => simp [differ]
  next same =>
    rw [not_not] at same
    simp [same]

/-- The answer is in order, and strictly so where no number is there twice. -/
theorem ordered_sort {found : List Issue} (once : (found.map Issue.number).Nodup) :
    (found.insertionSort fun a b => openedLe a b).Pairwise fun a b =>
      a.createdAt < b.createdAt ∨ a.createdAt = b.createdAt ∧ a.number < b.number := by
  have total : Std.Total fun a b : Issue => openedLe a b = true := by
    refine ⟨fun a b => ?_⟩
    rw [openedLe_iff, openedLe_iff]
    rcases lt_trichotomy a.createdAt b.createdAt with older | same | newer
    · exact .inl (.inl older)
    · rcases Nat.le_total a.number b.number with below | above
      · exact .inl (.inr ⟨same, below⟩)
      · exact .inr (.inr ⟨same.symm, above⟩)
    · exact .inr (.inl newer)
  have trans : IsTrans Issue fun a b => openedLe a b = true := by
    refine ⟨fun a b c => ?_⟩
    rw [openedLe_iff, openedLe_iff, openedLe_iff]
    rintro (ab | ⟨ab, le_ab⟩) (bc | ⟨bc, le_bc⟩)
    · exact .inl (ab.trans bc)
    · exact .inl (bc ▸ ab)
    · exact .inl (ab ▸ bc)
    · exact .inr ⟨ab.trans bc, le_ab.trans le_bc⟩
  have sorted := List.pairwise_insertionSort (fun a b : Issue => openedLe a b = true) found
  have perm : (found.insertionSort fun a b => openedLe a b).Perm found := List.perm_insertionSort _ _
  have distinct : (found.insertionSort fun a b => openedLe a b).Pairwise fun a b => a.number ≠ b.number :=
    List.pairwise_map.mp ((perm.map Issue.number).nodup_iff.mpr once)
  apply (sorted.and distinct).imp
  rintro a b ⟨le, differ⟩
  rcases openedLe_iff.mp le with older | ⟨same, below⟩
  · exact .inl older
  · exact .inr ⟨same, lt_of_le_of_ne below differ⟩

/-- The newer issues the pages list. -/
theorem listing_newer :
    (listing pages).filter (since < ·.createdAt) =
      ((slotsOf pages).filter fun slot => since < slot.item.createdAt).map IssueSlot.item := by
  rw [listing, List.filter_map]
  rfl

/-- A read that is shown every newer issue answers them all. -/
theorem ShowsAll.allOpenedSince (shows : ShowsAll since login taken last left) (newest : NewestFirst (listing pages))
    (split : pages = taken ++ last :: left) :
    AllOpenedSince since (listing pages)
      (((taken ++ [last]).flatMap (IssuePage.found since login)).insertionSort fun a b => openedLe a b) := by
  have whole : slotsOf pages = slotsOf (taken ++ [last]) ++ slotsOf left := by
    rw [split, slotsOf, slotsOf, slotsOf, ← List.flatMap_append, List.append_assoc, List.singleton_append]
  have older : ∀ slot ∈ slotsOf left, slot.item.createdAt ≤ since := by
    by_cases all_new : ∀ slot ∈ last.slots, ∀ issue, slot.read login = some issue → since < issue.createdAt
    · exact shows.nextPage all_new
    · -- the last page holds one that is no newer, and what comes after it is older still
      push Not at all_new
      obtain ⟨slot, mem, issue, is_read, no_newer⟩ := all_new
      have same_time : issue.createdAt = slot.item.createdAt :=
        congrArg OpenIssue.createdAt (IssueSlot.read_opened is_read)
      have sorted := newest.newest
      rw [listing, whole, List.map_append, List.pairwise_append] at sorted
      intro later later_mem
      have taken_mem : slot ∈ slotsOf (taken ++ [last]) :=
        List.mem_flatMap.mpr ⟨last, List.mem_append_right _ (List.mem_singleton_self _), mem⟩
      have below := sorted.2.2 _ (List.mem_map_of_mem taken_mem) _ (List.mem_map_of_mem later_mem)
      exact below.trans (same_time ▸ no_newer)
  have shown : (slotsOf pages).filter (fun slot => since < slot.item.createdAt) =
      (slotsOf (taken ++ [last])).filter fun slot => (slot.read login).isSome && since < slot.item.createdAt := by
    have nothing : (slotsOf left).filter (fun slot => since < slot.item.createdAt) = [] := by
      rw [List.filter_eq_nil_iff]
      intro slot mem
      simpa using older slot mem
    rw [whole, List.filter_append, nothing, List.append_nil]
    apply List.filter_congr
    intro slot mem
    by_cases newer : since < slot.item.createdAt
    · simp [newer, shows.readable slot mem newer]
    · simp [newer]
  have same : ((taken ++ [last]).flatMap (IssuePage.found since login)).map Issue.opened =
      (listing pages).filter (since < ·.createdAt) := by
    rw [found_opened, listing_newer, shown]
  refine ⟨?_, ordered_sort ?_⟩
  · rw [← same]
    exact (List.perm_insertionSort _ _).map _
  · have numbers : ((taken ++ [last]).flatMap (IssuePage.found since login)).map Issue.number =
        ((listing pages).filter (since < ·.createdAt)).map OpenIssue.number := by
      rw [← same, List.map_map]
      rfl
    rw [numbers]
    exact newest.once.sublist (List.filter_sublist.map _)

/-- A read that answers every newer issue was shown them all. -/
theorem ShowsAll.of_each (split : pages = taken ++ last :: left)
    (each : (((taken ++ [last]).flatMap (IssuePage.found since login)).map Issue.opened).Perm
      ((listing pages).filter (since < ·.createdAt))) : ShowsAll since login taken last left := by
  have whole : slotsOf pages = slotsOf (taken ++ [last]) ++ slotsOf left := by
    rw [split, slotsOf, slotsOf, slotsOf, ← List.flatMap_append, List.append_assoc, List.singleton_append]
  have lengths := each.length_eq
  rw [found_opened, listing_newer, whole, List.filter_append, List.length_map, List.length_map, List.length_append,
    ← List.filter_filter] at lengths
  have fewer := List.length_filter_le (fun slot : IssueSlot labels repo => (slot.read login).isSome)
    ((slotsOf (taken ++ [last])).filter fun slot => since < slot.item.createdAt)
  have all_read : ((((slotsOf (taken ++ [last])).filter fun slot => since < slot.item.createdAt).filter
      fun slot => (slot.read login).isSome).length =
        ((slotsOf (taken ++ [last])).filter fun slot => since < slot.item.createdAt).length) := by omega
  have none_left : ((slotsOf left).filter fun slot => since < slot.item.createdAt).length = 0 := by omega
  rw [List.length_filter_eq_length_iff] at all_read
  rw [List.length_eq_zero_iff, List.filter_eq_nil_iff] at none_left
  constructor
  · intro slot mem newer
    exact all_read slot (List.mem_filter.mpr ⟨mem, decide_eq_true newer⟩)
  · intro _ slot mem
    simpa using none_left slot mem

/-- Over a listing newest first, whatever the read answers is every issue opened after `since`, if and
only if the pages it takes show it every newer issue and it does not end for want of a next page
before one. -/
theorem fetch_complete_iff (newest : NewestFirst (listing pages)) (ownLogin : Except Raised String) :
    (∀ found, fetchIssuesOpenedSince labels repo since ownLogin (servePages pages) = .ok found →
      AllOpenedSince since (listing pages) found) ↔
    ∀ login, ownLogin = .ok login → ∀ taken last left, Ends since login maxIssuePages pages taken last left →
      ShowsAll since login taken last left := by
  cases ownLogin with
  | error raised =>
    constructor
    · intro _ login is_ok
      cases is_ok
    · intro _ found is_ok
      cases is_ok
  | ok login =>
    constructor
    · intro complete other same taken last left ends
      obtain rfl := Except.ok.inj same
      have answers : fetchIssuesOpenedSince labels repo since (.ok login) (servePages pages) = .ok _ :=
        openedPages_ok_iff.mpr ⟨taken, last, left, ends, rfl⟩
      have each := (complete _ answers).each
      rw [List.nil_append] at each
      have unsorted := ((List.perm_insertionSort _ _).map _).symm.trans each
      exact .of_each ends.pages_eq unsorted
    · intro shows found answers
      obtain ⟨taken, last, left, ends, rfl⟩ := openedPages_ok_iff.mp answers
      rw [List.nil_append]
      exact (shows login rfl taken last left ends).allOpenedSince newest ends.pages_eq

end Spec

section Example

/-- The record of an issue opened at `stamp`. -/
def issueRecord (number : Int) (stamp : String) : Json :=
  .obj
    [("number", .int number), ("title", .str "t"), ("state", .str "OPEN"), ("url", .str "u"), ("createdAt", .str stamp),
      ("updatedAt", .str stamp)]

/-- The last page of a listing. -/
def onlyPage (nodes : List Json) : Json :=
  .obj [("repository", .obj [("issues", .obj [("nodes", .arr nodes)])])]

theorem openedNode_issueRecord (login : String) :
    (openedNode GitHubLabels.default "o/r" login (issueRecord 8 "1970-01-01T00:00:20Z")).map Issue.opened =
      some ⟨8, seconds 20⟩ := rfl

/-- An issue whose record is whole. -/
def wholeSlot : IssueSlot GitHubLabels.default "o/r" where
  item := ⟨8, seconds 20⟩
  record := some (issueRecord 8 "1970-01-01T00:00:20Z")
  true_of node sent login issue read := by
    cases sent
    have same := openedNode_issueRecord login
    rw [read] at same
    exact Option.some.inj same

/-- An older one whose record came as null. -/
def nullSlot : IssueSlot GitHubLabels.default "o/r" where
  item := ⟨7, seconds 10⟩
  record := none
  true_of _ sent := nomatch sent

/-- One page that holds the two. -/
def nullPage : IssuePage GitHubLabels.default "o/r" where
  slots := [wholeSlot, nullSlot]
  response := .ok (onlyPage [issueRecord 8 "1970-01-01T00:00:20Z", .null])
  true_of data nodes sent listed := by
    cases sent
    cases listed
    rfl

/-- One page that holds the first only. -/
def wholePage : IssuePage GitHubLabels.default "o/r" where
  slots := [wholeSlot]
  response := .ok (onlyPage [issueRecord 8 "1970-01-01T00:00:20Z"])
  true_of data nodes sent listed := by
    cases sent
    cases listed
    rfl

/-- The one whole record is the whole answer. -/
theorem wholePage_complete :
    NewestFirst (listing [wholePage]) ∧ ∀ found,
      fetchIssuesOpenedSince GitHubLabels.default "o/r" 0 (.ok "issuebot") (servePages [wholePage]) = .ok found →
        AllOpenedSince 0 (listing [wholePage]) found := by
  have newest : NewestFirst (listing [wholePage]) := ⟨List.pairwise_singleton _ _, List.nodup_singleton _⟩
  refine ⟨newest, (fetch_complete_iff newest _).mpr fun login _ taken last left ends => ?_⟩
  have whole := ends.pages_eq
  cases taken with
  | cons first rest => simp at whole
  | nil =>
    obtain ⟨rfl, rfl⟩ := List.cons.inj whole
    refine ⟨fun slot mem _ => ?_, fun _ slot mem => (nomatch mem)⟩
    obtain rfl : slot = wholeSlot := List.mem_singleton.mp mem
    rfl

/-- A newer issue whose record is null is left out of the answer, and it is older than one that is not. -/
theorem null_record_is_left_out :
    NewestFirst (listing [nullPage]) ∧
      ∃ found, fetchIssuesOpenedSince GitHubLabels.default "o/r" 0 (.ok "issuebot") (servePages [nullPage]) = .ok found ∧
        found.map Issue.opened = [⟨8, seconds 20⟩] ∧ ⟨7, seconds 10⟩ ∈ listing [nullPage] ∧
        ¬ AllOpenedSince 0 (listing [nullPage]) found := by
  refine ⟨⟨by decide, by decide⟩, _, rfl, rfl, by decide, fun complete => ?_⟩
  have lengths := complete.each.length_eq
  revert lengths
  decide

end Example
end Issuebot
