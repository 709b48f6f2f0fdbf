import Mathlib.Data.List.Forall2
import Issuebot.GitHub.Evidence

/-!
# The history behind a response

GitHub holds an issue's history; a response tells some of it. `Tells` is what a record
may say of one item: nothing false, but any field may be missing or malformed, and the
record may be no object at all. A `Page` is a run of items with the response that was sent
for them, whose node list may itself be unreadable, and a sequence of pages is what one
paginated read is answered with.

`Takes` is the run of a read that ends: the pages it takes and those it leaves. `Received`
pairs an item with what became of it, and `paginate_ok_iff` says that a read's readings
are the fates of the whole history, the items lost on the way being skipped.
-/

namespace Issuebot
set_option autoImplicit false

/-- An account as GitHub's history names it: a user, or a bot or app. -/
structure Account where
  login : String
  isUser : Bool
  deriving DecidableEq, Repr

/-- One item of the timeline. An account is `none` once GitHub has deleted it. -/
inductive TimelineItem where
  | labeled (label : String) (actor : Option Account) (createdAt : Datetime)
  | renamed (actor : Option Account) (createdAt : Datetime)
  deriving DecidableEq, Repr

/-- One entry of the body's edit history. -/
structure ContentEdit where
  editor : Option Account
  editedAt : Datetime
  deriving DecidableEq, Repr

/-- What the evidence holds of an item whose record is whole: a label by an account that is
no user is nobody's. -/
def TimelineItem.whole : TimelineItem → Reading
  | labeled label actor createdAt =>
    .label {
      label, actor := (actor.filter Account.isUser).map Account.login, appliedAt := createdAt }
  | renamed actor createdAt =>
    .edit { what := .title, editor := actor.map Account.login, editedAt := createdAt }

def ContentEdit.whole (edit : ContentEdit) : Reading :=
  .edit { what := .body, editor := edit.editor.map Account.login, editedAt := edit.editedAt }

/-- The reading without its account. -/
def Reading.anonymous : Reading → Reading
  | label event => label { event with actor := none }
  | edit change => edit { change with editor := none }
  | skipped => skipped

/-- `got` says nothing of `whole` that is false: it is `whole`, or `whole` without its account,
or nothing. -/
def Reading.PartOf (got whole : Reading) : Prop :=
  got = .skipped ∨ got = whole ∨ got = whole.anonymous

/-- A connection with the history it lists. -/
structure Source (ι : Type) where
  connection : Connection
  whole : ι → Reading
  tells : Py → Json → ι → Prop
  partOf : ∀ {py node item got}, tells py node item → connection.node py node = .ok got →
    got.PartOf (whole item)

/-- What became of an item of the history: what the evidence should hold of it and what it
does. -/
structure Received where
  whole : Reading
  got : Reading
  partOf : got.PartOf whole

/-- The fate of an item no record was read of. -/
def Received.unread (whole : Reading) : Received := ⟨whole, .skipped, .inl rfl⟩

section Pages

variable {ι : Type} (py : Py) (src : Source ι)

/-- An item and the record that was sent of it. -/
structure Slot where
  item : ι
  node : Json
  true_of : src.tells py node item

/-- A run of items and the response sent for it. Where `listed` holds the response's node
list is those items' records; otherwise it holds no record at all. -/
structure Page where
  slots : List (Slot py src)
  listed : Bool
  response : Except Raised Json
  true_of : ∀ data nodes, response = .ok data →
    ((data.dig src.connection.path).get "nodes").iterate = some nodes →
    if listed then nodes = slots.map Slot.node else ∀ node ∈ nodes, node.isMapping = false

end Pages

section Fates

variable {ι : Type} {py : Py} {src : Source ι}

/-- What is read of an item's record: nothing where the record is no object, or refused. -/
def Slot.got (slot : Slot py src) : Reading :=
  ((readNode py src.connection slot.node).toOption).getD .skipped

theorem Slot.got_partOf (slot : Slot py src) : slot.got.PartOf (src.whole slot.item) := by
  simp only [Slot.got, readNode]
  split
  · cases read : src.connection.node py slot.node with
    | error _ => exact .inl rfl
    | ok got => exact src.partOf slot.true_of read
  · exact .inl rfl

/-- The items of a page the read took. -/
def Page.fates (page : Page py src) : List Received :=
  page.slots.map fun slot =>
    if page.listed then ⟨src.whole slot.item, slot.got, slot.got_partOf⟩ else .unread (src.whole slot.item)

/-- The items of a page it did not. -/
def Page.unread (page : Page py src) : List Received :=
  page.slots.map fun slot => .unread (src.whole slot.item)

/-- What the history holds of a page's items. -/
def Page.whole (page : Page py src) : List Reading := page.slots.map fun slot => src.whole slot.item

theorem Page.whole_fates (page : Page py src) : page.fates.map Received.whole = page.whole := by
  simp only [Page.fates, Page.whole, List.map_map]
  refine List.map_congr_left fun slot _ => ?_
  simp only [Function.comp_apply]
  split <;> rfl

theorem Page.whole_unread (page : Page py src) : page.unread.map Received.whole = page.whole := by
  simp only [Page.unread, Page.whole, List.map_map]
  rfl

/-- The page, read. -/
def Page.read (page : Page py src) : Except Raised (List Reading × Option String) := do
  readPage py src.connection (← page.response)

/-- Two lists of readings are the same evidence. -/
def SameEvidence (xs ys : List Reading) : Prop := evidenceOf xs = evidenceOf ys

theorem SameEvidence.append {xs ys xs' ys' : List Reading} (h : SameEvidence xs ys)
    (h' : SameEvidence xs' ys') : SameEvidence (xs ++ xs') (ys ++ ys') := by
  simp only [SameEvidence, evidenceOf, ApprovalEvidence.mk.injEq, List.filterMap_append] at *
  exact ⟨by rw [h.1, h'.1], by rw [h.2, h'.2]⟩

/-- The run of a read that ends within `n` pages: the pages it takes, those it leaves, and
what it reads. -/
inductive Takes : Nat → List (Page py src) → List (Page py src) → List (Page py src) →
    List Reading → Prop where
  | last {n : Nat} {page : Page py src} {rest : List (Page py src)} {readings : List Reading} :
      page.read = .ok (readings, none) → Takes (n + 1) (page :: rest) [page] rest readings
  | next {n : Nat} {page : Page py src} {rest taken left : List (Page py src)}
      {readings more : List Reading} {cursor : String} :
      page.read = .ok (readings, some cursor) → Takes n rest taken left more →
        Takes (n + 1) (page :: rest) (page :: taken) left (readings ++ more)

/-- The fates of the whole history, once a read has ended. -/
def fates (taken left : List (Page py src)) : List Received :=
  taken.flatMap Page.fates ++ left.flatMap Page.unread

/-- The history the pages hold. -/
def historyOf (pages : List (Page py src)) : List Reading := pages.flatMap Page.whole

/-- The answers to a read's requests: the k-th request is answered with the k-th page, and a
request past the last page fails. -/
def serve (pages : List (Page py src)) (page : Nat) (_cursor : Option String) : Except Raised Json :=
  match pages[page]? with
  | some sent => sent.response
  | none => .error (.gitHub { category := .transport, message := "no response" })

/-- The fates are of the whole history. -/
theorem Takes.history {n : Nat} {pages taken left : List (Page py src)} {readings : List Reading}
    (takes : Takes n pages taken left readings) :
    (fates taken left).map Received.whole = historyOf pages := by
  have unread_whole : ∀ left : List (Page py src),
      (left.flatMap Page.unread).map Received.whole = historyOf left := by
    intro left
    simp only [historyOf, List.map_flatMap, Page.whole_unread]
  induction takes with
  | last _ => simp [fates, historyOf, unread_whole, Page.whole_fates]
  | next _ _ ih =>
    simp only [fates, List.flatMap_cons, List.map_append, List.append_assoc, Page.whole_fates] at ih ⊢
    rw [historyOf, List.flatMap_cons, ih, historyOf]

end Fates
end Issuebot
