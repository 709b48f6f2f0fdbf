import Issuebot.Agent.VerdictParsing

/-!
# What a parsed verdict keeps of its limits

Everything the parser checks of a string holds of the scrubbed string as well, but its length: a
mask can be longer than what it hides. A verdict is within its limits exactly where every string
leaves room for what the masks add (`parsed_within_limits_iff`).
-/

namespace Issuebot
set_option autoImplicit false
open Logic

section Splitlines

variable {text line : Text} {c : Char}

/-- Without a line boundary there is one line. -/
theorem linesFrom_of_none (none_in : ∀ c ∈ text, isLineBoundary c = false) (some_line : line ++ text ≠ []) :
    linesFrom line text = [String.ofList (line.reverse ++ text)] := by
  induction text generalizing line with
  | nil =>
    cases line with
    | nil => exact absurd rfl some_line
    | cons d line =>
      rw [linesFrom, List.append_nil]
      exact List.cons_ne_nil d line
  | cons c text ih =>
    have no_boundary := none_in c List.mem_cons_self
    have no_return : c ≠ '\r' := by
      rintro rfl
      exact absurd no_boundary (by decide)
    rw [linesFrom, no_boundary, if_neg Bool.false_ne_true]
    · rw [ih (fun d mem => none_in d (List.mem_cons_of_mem _ mem)) (List.cons_ne_nil c _), List.reverse_cons,
        List.append_assoc, List.singleton_append]
    · intro rest is_return
      exact absurd is_return no_return

/-- A boundary with something behind it makes two lines, if it is no carriage return. -/
theorem one_line (front : Text) (boundary : isLineBoundary c = true) (no_return : c ≠ '\r') (no_returns : '\r' ∉ front)
    (more : text ≠ []) : 2 ≤ (linesFrom line (front ++ c :: text)).length := by
  induction front generalizing line with
  | nil =>
    have some_lines : 1 ≤ (linesFrom [] text).length := by
      cases text with
      | nil => exact absurd rfl more
      | cons d text =>
        have each : ∀ (text line : Text), line ++ text ≠ [] → 1 ≤ (linesFrom line text).length := by
          intro text line nonempty
          fun_induction linesFrom line text with
          | case1 => exact absurd rfl nonempty
          | case2 line _ => exact Nat.le_refl 1
          | case3 => exact Nat.succ_le_succ (Nat.zero_le _)
          | case4 => exact Nat.succ_le_succ (Nat.zero_le _)
          | case5 line c rest _ _ ih => exact ih (by simp)
        exact each (d :: text) [] (by simp)
    rw [List.nil_append, linesFrom, if_pos boundary, List.length_cons]
    · omega
    · intro rest is_return
      exact absurd is_return no_return
  | cons d front ih =>
    obtain ⟨no_return_d, no_returns⟩ := not_or.mp (mt List.mem_cons.mpr no_returns)
    rw [List.cons_append, linesFrom]
    · split
      · rw [List.length_cons]
        have later := @ih [] no_returns
        omega
      · exact ih no_returns
    · intro rest is_return
      exact absurd is_return.symm no_return_d

end Splitlines

section Strip

variable {text : Text} {c : Char}

/-- What has been stripped has no space at its edges. -/
theorem strip_edges (edge : (strip text).head? = some c ∨ (strip text).getLast? = some c) : isSpace c = false := by
  rcases edge with head | last
  · have front : (text.dropWhile isSpace).head? = some c := by
      obtain ⟨more, is_prefix⟩ := List.rdropWhile_prefix isSpace (l := text.dropWhile isSpace)
      rw [← is_prefix]
      obtain ⟨rest, is_strip⟩ := List.head?_eq_some_iff.mp head
      rw [show (text.dropWhile isSpace).rdropWhile isSpace = c :: rest from is_strip]
      rfl
    have kept := List.head?_dropWhile_not isSpace text
    rw [front] at kept
    exact kept
  · have nonempty : strip text ≠ [] := List.ne_nil_of_mem (List.mem_of_getLast? last)
    have kept := List.rdropWhile_last_not isSpace (text.dropWhile isSpace) nonempty
    rw [List.getLast?_eq_some_getLast nonempty] at last
    rw [← Option.some.inj last]
    exact Bool.eq_false_iff.mpr kept

/-- What has no space at its edges is left alone. -/
theorem strip_eq_self (edges : ∀ c, text.head? = some c ∨ text.getLast? = some c → isSpace c = false) : strip text = text := by
  cases text with
  | nil => rfl
  | cons c rest =>
    have head := edges c (.inl rfl)
    have nonempty : c :: rest ≠ [] := List.cons_ne_nil c rest
    have last := edges _ (.inr (List.getLast?_eq_some_getLast nonempty))
    have kept : (c :: rest).dropWhile isSpace = c :: rest := List.dropWhile_cons_of_neg (Bool.eq_false_iff.mp head)
    rw [strip, kept]
    exact List.rdropWhile_eq_self_iff.mpr fun _ => Bool.eq_false_iff.mp last

end Strip

section Scrubbed

variable {tables : Tables} {scrubber : Scrubber} {text : Text} {c : Char}

variable (tables scrubber text) in
theorem ofText_scrubText : PyStr.ofText (scrubText tables scrubber text) = scrubber.scrub tables.isWord (PyStr.ofText text) := by
  obtain ⟨scrubbed, is_text⟩ := Scrubber.encode_scrub tables.isWord scrubber text
  rw [scrubText, is_text]
  exact (PyStr.ofText_of_encode is_text).symm

theorem mem_scrubText (mem : c ∈ scrubText tables scrubber text) : c ∈ text ∨ c = '*' ∨ c = '~' := by
  have scrubbed : PyChar.scalar c ∈ scrubber.scrub tables.isWord (PyStr.ofText text) := by
    rw [← ofText_scrubText]
    exact List.mem_map_of_mem mem
  rcases Scrubber.mem_scrub scrubbed with old | same | same
  · obtain ⟨d, listed, same⟩ := List.mem_map.mp old
    obtain rfl := PyChar.scalar.inj same
    exact .inl listed
  · exact .inr (.inl (PyChar.scalar.inj same))
  · exact .inr (.inr (PyChar.scalar.inj same))

theorem scrubText_ne_nil (nonempty : text ≠ []) : scrubText tables scrubber text ≠ [] := by
  intro empty
  have scrubbed := ofText_scrubText tables scrubber text
  rw [empty] at scrubbed
  exact Scrubber.scrub_ne_nil (mt List.map_eq_nil_iff.mp nonempty) scrubbed.symm

variable (tables scrubber text) in
theorem length_scrubText :
    ((scrubText tables scrubber text).length : Int) = text.length + scrubber.growth tables.isWord (PyStr.ofText text) := by
  have length := Scrubber.length_scrub tables.isWord scrubber (PyStr.ofText text)
  rw [← ofText_scrubText] at length
  simpa [PyStr.ofText] using length

variable (tables scrubber) in
/-- A scrubbed text has no more space at its edges than the text had. -/
theorem strip_scrubText (edges : ∀ c, text.head? = some c ∨ text.getLast? = some c → isSpace c = false) :
    strip (scrubText tables scrubber text) = scrubText tables scrubber text := by
  apply strip_eq_self
  intro c edge
  have scrubbed : (scrubber.scrub tables.isWord (PyStr.ofText text)).head? = some (.scalar c) ∨
      (scrubber.scrub tables.isWord (PyStr.ofText text)).getLast? = some (.scalar c) := by
    rw [← ofText_scrubText]
    simpa [PyStr.ofText] using edge
  have old : ∀ d : Option Char, d.map PyChar.scalar = some (.scalar c) → d = some c := by
    intro d is_c
    obtain ⟨e, rfl, same⟩ := Option.map_eq_some_iff.mp is_c
    rw [PyChar.scalar.inj same]
  rcases Scrubber.edge_scrub scrubbed with head | last | same | same
  · exact edges c (.inl (old _ (by simpa [PyStr.ofText] using head)))
  · exact edges c (.inr (old _ (by simpa [PyStr.ofText] using last)))
  · rw [PyChar.scalar.inj same]
    decide
  · rw [PyChar.scalar.inj same]
    decide

end Scrubbed

section Reading

theorem bind_eq_ok {ε α β : Type} {x : Except ε α} {f : α → Except ε β} {b : β} :
    (x >>= f) = .ok b ↔ ∃ a, x = .ok a ∧ f a = .ok b := by
  cases x with
  | error e =>
    constructor
    · intro same
      cases same
    · rintro ⟨_, same, -⟩
      cases same
  | ok a => exact ⟨fun same => ⟨a, rfl, same⟩, fun ⟨_, is_a, same⟩ => Except.ok.inj is_a ▸ same⟩

theorem ok_of_toOption {ε α : Type} {x : Except ε α} {a : α} (is_a : x.toOption = some a) : x = .ok a := by
  cases x with
  | error e => cases is_a
  | ok b => exact congrArg Except.ok (Option.some.inj is_a)

/-- A string member as it is read: its line endings, as the text it is, no space around it. -/
def Members.text? (members : Members) (wanted : Wanted) : Option Text :=
  match members.item wanted.name with
  | .str value => (if wanted.lineEndings then lineEndings value else value).encode.map strip
  | _ => none

/-- The members of an object. -/
def Decoded.members : Decoded → Members
  | .obj members => members
  | _ => []

/-- The elements of an array. -/
def Decoded.elements : Decoded → List Decoded
  | .arr elements => elements
  | _ => []

/-- An object with these members and no others. -/
def Decoded.HasExactly (names : List String) (value : Decoded) : Prop :=
  ∃ members, value = .obj members ∧ (∀ member ∈ members, member.1 ∈ names.map PyStr.ofString) ∧
    ∀ name ∈ names, ∃ found, members.lookup (PyStr.ofString name) = some found

/-- What the parser has checked of a string it has read. -/
structure Readable (wanted : Wanted) (text : Text) : Prop where
  limit : text.length ≤ wanted.limit
  nonempty : wanted.required = true → text ≠ []
  edges : ∀ c, text.head? = some c ∨ text.getLast? = some c → isSpace c = false
  controls : ∀ c ∈ text, isControl c = true → c = '\n' ∨ c = '\t'

variable {tables : Tables} {scrubber : Scrubber} {py : Py} {members : Members} {wanted : Wanted} {text : Text}

theorem carriable_ok {name : String} {value : PyStr} {keep : Text} (ok : carriable name value keep = .ok text) :
    value.encode = some text ∧ ∀ c ∈ text, isControl c = true → c ∈ keep := by
  unfold carriable at ok
  split at ok
  · cases ok
  next is_text =>
    split at ok
    · cases ok
    next clean =>
      obtain rfl := Except.ok.inj ok
      refine ⟨is_text, fun c mem control => ?_⟩
      by_contra other
      apply clean
      apply List.any_eq_true.mpr
      exact ⟨c, mem, by simp [control, other]⟩

theorem mem_strip {c : Char} (mem : c ∈ strip text) : c ∈ text :=
  (List.dropWhile_suffix _).subset ((List.rdropWhile_prefix isSpace _).subset mem)

theorem readText_ok (ok : readText members wanted = .ok text) : members.text? wanted = some text ∧ Readable wanted text := by
  unfold readText at ok
  split at ok
  next value is_str =>
    obtain ⟨whole, carried, ok⟩ := bind_eq_ok.mp ok
    obtain ⟨encoded, controls⟩ := carriable_ok carried
    split at ok
    · cases ok
    next within =>
      split at ok
      · cases ok
      next filled =>
        obtain rfl := Except.ok.inj ok
        constructor
        · rw [Members.text?, is_str]
          exact Option.map_eq_some_iff.mpr ⟨whole, encoded, rfl⟩
        · constructor
          · exact Nat.le_of_not_lt within
          · intro required empty
            exact filled (by rw [required, empty]; rfl)
          · intro c edge
            exact strip_edges edge
          · intro c mem control
            have kept := controls c (mem_strip mem) control
            simpa using kept
  · cases ok

theorem readFields_ok {value : Decoded} {names : List String} {what : String}
    (ok : readFields tables scrubber value names what = .ok members) : value = .obj members ∧ value.HasExactly names := by
  unfold readFields at ok
  split at ok
  next found =>
    split at ok
    · cases ok
    next no_other =>
      split at ok
      · cases ok
      next no_missing =>
        obtain rfl := Except.ok.inj ok
        refine ⟨rfl, found, rfl, ?_, ?_⟩
        · intro member mem
          have known := List.find?_eq_none.mp no_other member mem
          simpa using known
        · intro name mem
          have present := List.find?_eq_none.mp no_missing name mem
          exact Option.isSome_iff_exists.mp (by simpa using present)
  · cases ok

end Reading

section Drafts

variable {tables : Tables} {scrubber : Scrubber} {py : Py} {text : Text}

/-- A draft is what its step says, checked. -/
structure ReadDraft.IsRead (step : Decoded) (draft : ReadDraft) : Prop where
  fields : step.HasExactly subFields
  title : step.members.text? wantedTitle = some draft.title
  body : step.members.text? wantedBody = some draft.body
  titleReadable : Readable wantedTitle draft.title
  bodyReadable : Readable wantedBody draft.body
  oneLine : ∀ c ∈ draft.title, isControl c = false ∧ isLineBoundary c = false

/-- A title without control characters that is one line has no line boundary. -/
theorem no_boundary (controls : ∀ c ∈ text, isControl c = false) (readable : Readable wantedTitle text)
    (single : (splitlines (String.ofList text)).length = 1) : ∀ c ∈ text, isLineBoundary c = false := by
  intro c mem
  by_contra is_boundary
  rw [Bool.not_eq_false] at is_boundary
  obtain ⟨front, rest, is_text⟩ := List.append_of_mem mem
  have no_return : ∀ d ∈ text, d ≠ '\r' := by
    rintro _ mem rfl
    exact absurd (controls _ mem) (by decide)
  have is_space : isSpace c = true := by
    have space_of : ∀ n ∈ [0x0a, 0x0b, 0x0c, 0x0d, 0x1c, 0x1d, 0x1e, 0x85, 0x2028, 0x2029],
        (fun n : Nat => [(0x09, 0x0D), (0x1C, 0x20), (0x85, 0x85), (0xA0, 0xA0), (0x1680, 0x1680), (0x2000, 0x200A),
          (0x2028, 0x2029), (0x202F, 0x202F), (0x205F, 0x205F), (0x3000, 0x3000)].any
            fun range : Nat × Nat => decide (range.1 ≤ n) && decide (n ≤ range.2)) n = true := by decide
    exact space_of c.toNat (List.contains_iff_mem.mp is_boundary)
  have more : rest ≠ [] := by
    rintro rfl
    have last : text.getLast? = some c := by rw [is_text, List.getLast?_concat]
    rw [readable.edges c (.inr last)] at is_space
    cases is_space
  have two : 2 ≤ (linesFrom [] (front ++ c :: rest)).length := by
    apply one_line front is_boundary (no_return c mem) _ more
    intro listed
    exact no_return '\r' (is_text ▸ List.mem_append_left _ listed) rfl
  rw [splitlines, String.toList_ofList, is_text] at single
  omega

theorem readDraft_ok {seen : List String} {step : Decoded} {draft : ReadDraft}
    (ok : readDraft tables scrubber py seen step = .ok draft) : draft.IsRead step := by
  unfold readDraft at ok
  obtain ⟨members, is_fields, ok⟩ := bind_eq_ok.mp ok
  obtain ⟨title, is_title, ok⟩ := bind_eq_ok.mp ok
  split at ok
  · cases ok
  next single =>
    obtain ⟨carried, is_carried, ok⟩ := bind_eq_ok.mp ok
    obtain ⟨body, is_body, ok⟩ := bind_eq_ok.mp ok
    obtain ⟨kind, -, ok⟩ := bind_eq_ok.mp ok
    split at ok
    · cases ok
    · obtain rfl := Except.ok.inj ok
      obtain ⟨rfl, exactly⟩ := readFields_ok is_fields
      obtain ⟨title_text, title_readable⟩ := readText_ok is_title
      obtain ⟨body_text, body_readable⟩ := readText_ok is_body
      obtain ⟨same, controls⟩ := carriable_ok is_carried
      rw [PyStr.encode_ofText] at same
      obtain rfl := Option.some.inj same
      have none_in : ∀ c ∈ title, isControl c = false := by
        intro c mem
        by_contra control
        exact List.not_mem_nil (controls c mem (Bool.not_eq_false _ ▸ control))
      have no_lines := no_boundary none_in title_readable (Decidable.not_not.mp single)
      exact ⟨exactly, title_text, body_text, title_readable, body_readable, fun c mem => ⟨none_in c mem, no_lines c mem⟩⟩

theorem readDrafts_ok {seen : List String} {steps : List Decoded} {read : List ReadDraft}
    (ok : readDrafts tables scrubber py seen steps = .ok read) : List.Forall₂ (fun step draft => draft.IsRead step) steps read := by
  induction steps generalizing seen read with
  | nil =>
    obtain rfl := Except.ok.inj ok
    exact .nil
  | cons step steps ih =>
    rw [readDrafts] at ok
    obtain ⟨draft, is_draft, ok⟩ := bind_eq_ok.mp ok
    obtain ⟨rest, is_rest, ok⟩ := bind_eq_ok.mp ok
    obtain rfl := Except.ok.inj ok
    exact .cons (readDraft_ok is_draft) (ih is_rest)

theorem drafts_ok {steps : Decoded} {maxSubIssues : Nat} {subIssues : List SubIssueDraft}
    (ok : drafts tables scrubber py steps maxSubIssues = .ok subIssues) :
    ∃ read, subIssues = read.map (ReadDraft.scrubbed tables scrubber) ∧ read.length ≤ maxSubIssues ∧
      List.Forall₂ (fun step draft => draft.IsRead step) steps.elements read := by
  unfold drafts at ok
  split at ok
  next steps =>
    split at ok
    · cases ok
    next few =>
      obtain ⟨read, is_read, ok⟩ := bind_eq_ok.mp ok
      obtain rfl := Except.ok.inj ok
      have each := readDrafts_ok is_read
      refine ⟨read, rfl, ?_, each⟩
      rw [← each.length_eq]
      exact Nat.le_of_not_lt few
  · cases ok

end Drafts

section Limits

variable (tables : Tables) (scrubber : Scrubber)

/-- No control character but a newline or a tab. -/
def IsCarried (text : String) : Prop := ∀ c ∈ text.toList, isControl c = true → c = '\n' ∨ c = '\t'

/-- A single line without control characters. -/
def IsTitle (title : String) : Prop := title ≠ "" ∧ splitlines title = [title] ∧ ∀ c ∈ title.toList, isControl c = false

def SubIssueDraft.IsCarried (draft : SubIssueDraft) : Prop :=
  IsTitle draft.title ∧ draft.body ≠ "" ∧ Issuebot.IsCarried draft.body

def SubIssueDraft.Within (draft : SubIssueDraft) : Prop := draft.title.length ≤ titleLimit ∧ draft.body.length ≤ bodyLimit

/-- What the masks add to a string still fits into its limit. -/
def LeavesRoom (wanted : Wanted) (members : Members) : Prop :=
  ∀ text ∈ members.text? wanted, (text.length : Int) + scrubber.growth tables.isWord (PyStr.ofText text) ≤ wanted.limit

/-- Every string of the value leaves room. -/
structure HasRoom (reasons : List Wanted) (raw : Decoded) : Prop where
  reasons : ∀ wanted ∈ reasons, LeavesRoom tables scrubber wanted raw.members
  steps : ∀ step ∈ (raw.members.item "sub_issues").elements,
    LeavesRoom tables scrubber wantedTitle step.members ∧ LeavesRoom tables scrubber wantedBody step.members

variable {tables scrubber} {py : Py} {members : Members} {wanted : Wanted} {text : Text} {draft : ReadDraft} {step : Decoded}

theorem within_iff (is_text : members.text? wanted = some text) :
    (String.ofList (scrubText tables scrubber text)).length ≤ wanted.limit ↔ LeavesRoom tables scrubber wanted members := by
  have length := length_scrubText tables scrubber text
  rw [String.length_ofList]
  constructor
  · intro within other is_other
    obtain rfl := Option.some.inj (is_text.symm.trans is_other)
    rw [← length]
    exact Int.ofNat_le.mpr within
  · intro room
    have fits := room text is_text
    rw [← length] at fits
    exact Int.ofNat_le.mp fits

theorem Readable.carried (readable : Readable wanted text) : IsCarried (String.ofList (scrubText tables scrubber text)) := by
  intro c mem control
  rw [String.toList_ofList] at mem
  rcases mem_scrubText mem with old | rfl | rfl
  · exact readable.controls c old control
  · exact absurd control (by decide)
  · exact absurd control (by decide)

theorem ReadDraft.IsRead.carried (read : draft.IsRead step) : (draft.scrubbed tables scrubber).IsCarried := by
  have title := strip_scrubText tables scrubber read.titleReadable.edges
  have each : ∀ c ∈ scrubText tables scrubber draft.title, isControl c = false ∧ isLineBoundary c = false := by
    intro c mem
    rcases mem_scrubText mem with old | rfl | rfl
    · exact read.oneLine c old
    · decide
    · decide
  have nonempty : scrubText tables scrubber draft.title ≠ [] := scrubText_ne_nil (read.titleReadable.nonempty rfl)
  have body : scrubText tables scrubber draft.body ≠ [] := scrubText_ne_nil (read.bodyReadable.nonempty rfl)
  refine ⟨?_, fun empty => body (String.ofList_eq_empty_iff.mp empty), read.bodyReadable.carried⟩
  show IsTitle (String.ofList (strip (scrubText tables scrubber draft.title)))
  rw [title]
  refine ⟨fun empty => nonempty (String.ofList_eq_empty_iff.mp empty), ?_, ?_⟩
  · rw [splitlines, String.toList_ofList]
    exact @linesFrom_of_none _ [] (fun c mem => (each c mem).2) nonempty
  · rw [String.toList_ofList]
    exact fun c mem => (each c mem).1

theorem ReadDraft.IsRead.within_iff (read : draft.IsRead step) : (draft.scrubbed tables scrubber).Within ↔
    LeavesRoom tables scrubber wantedTitle step.members ∧ LeavesRoom tables scrubber wantedBody step.members := by
  have title := strip_scrubText tables scrubber read.titleReadable.edges
  rw [← Issuebot.within_iff read.title, ← Issuebot.within_iff read.body, ← title]
  rfl

end Limits

section Verdicts

/-- The reasons of a triage verdict, as they are read. -/
def verdictReasons : List Wanted := reasonNames.map fun name => wantedReason name false

/-- Those of a parent review, which shows its evidence. -/
def reviewReasons : List Wanted :=
  [wantedReason "summary" false, wantedReason "evidence" true, wantedReason "ignored_requests" false]

def TriageVerdict.reasons (v : TriageVerdict) : List String :=
  [v.summary, v.fitsCaps, v.landsFast, v.needsHuman, v.ignoredRequests]

def ParentReviewVerdict.reasons (v : ParentReviewVerdict) : List String := [v.summary, v.evidence, v.ignoredRequests]

/-- The strings are within their limits. -/
def StringsWithin (reasons : List String) (subIssues : List SubIssueDraft) : Prop :=
  (∀ reason ∈ reasons, reason.length ≤ reasonLimit) ∧ ∀ draft ∈ subIssues, draft.Within

/-- What a parsed verdict is, its limits apart: from an object of exactly the fields, with strings that can be
carried, at most so many drafts, and drafts exactly where the verdict files them. -/
structure IsParsed (fields : List String) (raw : Decoded) (maxSubIssues : Nat) (reasons : List String)
    (subIssues : List SubIssueDraft) (filesThem : Prop) : Prop where
  object : raw.HasExactly fields
  steps : ∀ step ∈ (raw.members.item "sub_issues").elements, step.HasExactly subFields
  reasons : ∀ reason ∈ reasons, IsCarried reason
  drafts : ∀ draft ∈ subIssues, draft.IsCarried
  count : subIssues.length ≤ maxSubIssues
  filed : subIssues ≠ [] ↔ filesThem

variable {tables : Tables} {scrubber : Scrubber} {py : Py} {raw : Decoded} {maxSubIssues : Nat}

/-- The reasons, as they are read. -/
abbrev ReasonsRead (raw : Decoded) (reasons : List Wanted) (texts : List Text) : Prop :=
  List.Forall₂ (fun wanted text => raw.members.text? wanted = some text ∧ Readable wanted text) reasons texts

theorem reasons_within {reasons : List Wanted} {texts : List Text} (each : ReasonsRead raw reasons texts)
    (limits : ∀ wanted ∈ reasons, wanted.limit = reasonLimit) :
    let shown := texts.map fun text => String.ofList (scrubText tables scrubber text)
    (∀ reason ∈ shown, IsCarried reason) ∧
      ((∀ reason ∈ shown, reason.length ≤ reasonLimit) ↔ ∀ wanted ∈ reasons, LeavesRoom tables scrubber wanted raw.members) := by
  induction each with
  | nil => simp
  | @cons wanted text reasons texts here _ ih =>
    obtain ⟨carried, within⟩ := ih fun wanted mem => limits wanted (List.mem_cons_of_mem _ mem)
    have limit := limits wanted List.mem_cons_self
    have first := @within_iff tables scrubber _ _ _ here.1
    rw [limit] at first
    constructor
    · intro reason mem
      rcases List.mem_cons.mp mem with rfl | later
      · exact here.2.carried
      · exact carried reason later
    · rw [List.map_cons, List.forall_mem_cons, List.forall_mem_cons, first, within]

theorem drafts_within {steps : List Decoded} {read : List ReadDraft}
    (each : List.Forall₂ (fun step draft => draft.IsRead step) steps read) :
    let shown := read.map (ReadDraft.scrubbed tables scrubber)
    (∀ step ∈ steps, step.HasExactly subFields) ∧ (∀ draft ∈ shown, draft.IsCarried) ∧
      ((∀ draft ∈ shown, draft.Within) ↔ ∀ step ∈ steps,
        LeavesRoom tables scrubber wantedTitle step.members ∧ LeavesRoom tables scrubber wantedBody step.members) := by
  induction each with
  | nil => simp
  | cons here _ ih =>
    obtain ⟨fields, carried, within⟩ := ih
    refine ⟨?_, ?_, ?_⟩
    · exact List.forall_mem_cons.mpr ⟨here.fields, fields⟩
    · exact List.forall_mem_cons.mpr ⟨here.carried, carried⟩
    · rw [List.map_cons, List.forall_mem_cons, List.forall_mem_cons, here.within_iff, within]

/-- A parsed verdict from its parts. -/
theorem parsed_parts {fields : List String} {reasons : List Wanted} {texts : List Text} {subIssues : List SubIssueDraft}
    {filesThem : Prop} (object : raw.HasExactly fields) (each : ReasonsRead raw reasons texts)
    (limits : ∀ wanted ∈ reasons, wanted.limit = reasonLimit)
    (is_drafts : drafts tables scrubber py (raw.members.item "sub_issues") maxSubIssues = .ok subIssues)
    (filed : subIssues ≠ [] ↔ filesThem) :
    let shown := texts.map fun text => String.ofList (scrubText tables scrubber text)
    IsParsed fields raw maxSubIssues shown subIssues filesThem ∧
      (StringsWithin shown subIssues ↔ HasRoom tables scrubber reasons raw) := by
  obtain ⟨read, rfl, few, of_steps⟩ := drafts_ok is_drafts
  obtain ⟨reasons_carried, reasons_room⟩ := @reasons_within tables scrubber _ _ _ each limits
  obtain ⟨steps_fields, drafts_carried, drafts_room⟩ := @drafts_within tables scrubber _ _ of_steps
  constructor
  · exact ⟨object, steps_fields, reasons_carried, drafts_carried, by rwa [List.length_map], filed⟩
  · constructor
    · rintro ⟨short, within⟩
      exact ⟨reasons_room.mp short, drafts_room.mp within⟩
    · rintro ⟨room, steps⟩
      exact ⟨reasons_room.mpr room, drafts_room.mpr steps⟩

theorem parseVerdict_ok {v : TriageVerdict} (ok : parseVerdict tables scrubber py raw maxSubIssues = .ok v) :
    IsParsed verdictFields raw maxSubIssues v.reasons v.subIssues (v.verdict = .split) ∧
      (StringsWithin v.reasons v.subIssues ↔ HasRoom tables scrubber verdictReasons raw) := by
  unfold parseVerdict at ok
  split at ok
  · cases ok
  · obtain ⟨members, is_fields, rest⟩ := bind_eq_ok.mp ok
    clear ok
    obtain ⟨rfl, exactly⟩ := readFields_ok is_fields
    obtain ⟨verdict, -, ok⟩ := bind_eq_ok.mp rest
    obtain ⟨summary, is_summary, ok⟩ := bind_eq_ok.mp ok
    obtain ⟨fitsCaps, is_fits, ok⟩ := bind_eq_ok.mp ok
    obtain ⟨landsFast, is_lands, ok⟩ := bind_eq_ok.mp ok
    obtain ⟨needsHuman, is_needs, ok⟩ := bind_eq_ok.mp ok
    obtain ⟨ignoredRequests, is_ignored, ok⟩ := bind_eq_ok.mp ok
    obtain ⟨subIssues, is_drafts, ok⟩ := bind_eq_ok.mp ok
    split at ok
    · cases ok
    next split_some =>
      split at ok
      · cases ok
      next fits_none =>
        obtain rfl := Except.ok.inj ok
        have filed : subIssues ≠ [] ↔ verdict = .split := by
          constructor
          · intro some_drafts
            cases verdict with
            | split => rfl
            | fits => exact absurd ⟨rfl, some_drafts⟩ fits_none
          · rintro rfl none_drafts
            exact split_some ⟨rfl, none_drafts⟩
        have each : ReasonsRead (.obj members) verdictReasons [summary, fitsCaps, landsFast, needsHuman, ignoredRequests] :=
          .cons (readText_ok is_summary) (.cons (readText_ok is_fits) (.cons (readText_ok is_lands)
            (.cons (readText_ok is_needs) (.cons (readText_ok is_ignored) .nil))))
        exact parsed_parts exactly each (by decide) is_drafts filed

theorem parseParentReview_ok {v : ParentReviewVerdict} (ok : parseParentReview tables scrubber py raw maxSubIssues = .ok v) :
    IsParsed reviewFields raw maxSubIssues v.reasons v.subIssues (v.verdict ≠ .met) ∧
      (StringsWithin v.reasons v.subIssues ↔ HasRoom tables scrubber reviewReasons raw) := by
  unfold parseParentReview at ok
  split at ok
  · cases ok
  · obtain ⟨members, is_fields, rest⟩ := bind_eq_ok.mp ok
    clear ok
    obtain ⟨rfl, exactly⟩ := readFields_ok is_fields
    obtain ⟨verdict, -, ok⟩ := bind_eq_ok.mp rest
    obtain ⟨summary, is_summary, ok⟩ := bind_eq_ok.mp ok
    obtain ⟨evidence, is_evidence, ok⟩ := bind_eq_ok.mp ok
    obtain ⟨ignoredRequests, is_ignored, ok⟩ := bind_eq_ok.mp ok
    obtain ⟨subIssues, is_drafts, ok⟩ := bind_eq_ok.mp ok
    split at ok
    · cases ok
    next met_none =>
      split at ok
      · cases ok
      next others_some =>
        obtain rfl := Except.ok.inj ok
        have filed : subIssues ≠ [] ↔ verdict ≠ .met := by
          constructor
          · rintro some_drafts rfl
            exact met_none ⟨rfl, some_drafts⟩
          · intro not_met none_drafts
            exact others_some ⟨not_met, none_drafts⟩
        have each : ReasonsRead (.obj members) reviewReasons [summary, evidence, ignoredRequests] :=
          .cons (readText_ok is_summary) (.cons (readText_ok is_evidence) (.cons (readText_ok is_ignored) .nil))
        exact parsed_parts exactly each (by decide) is_drafts filed

end Verdicts

/-- A value that is not an object of exactly the fields is refused, and a parsed verdict is within its limits exactly
where its strings left room for the masks. -/
theorem parsed_within_limits_iff (tables : Tables) (scrubber : Scrubber) (py : Py) (raw : Decoded) (maxSubIssues : Nat) :
    (∀ text, (scrubber.scrub tables.isWord (PyStr.ofText text)).encode = some (scrubText tables scrubber text)) ∧
      (¬ raw.HasExactly verdictFields → ∃ error, parseVerdict tables scrubber py raw maxSubIssues = .error error) ∧
      (¬ raw.HasExactly reviewFields → ∃ error, parseParentReview tables scrubber py raw maxSubIssues = .error error) ∧
      (∀ v, parseVerdict tables scrubber py raw maxSubIssues = .ok v →
        IsParsed verdictFields raw maxSubIssues v.reasons v.subIssues (v.verdict = .split) ∧
          (StringsWithin v.reasons v.subIssues ↔ HasRoom tables scrubber verdictReasons raw)) ∧
      ∀ v, parseParentReview tables scrubber py raw maxSubIssues = .ok v →
        IsParsed reviewFields raw maxSubIssues v.reasons v.subIssues (v.verdict ≠ .met) ∧
          (StringsWithin v.reasons v.subIssues ↔ HasRoom tables scrubber reviewReasons raw) := by
  refine ⟨?_, ?_, ?_, fun v => parseVerdict_ok, fun v => parseParentReview_ok⟩
  · intro text
    rw [← ofText_scrubText, PyStr.encode_ofText]
  · intro other
    cases parsed : parseVerdict tables scrubber py raw maxSubIssues with
    | error message => exact ⟨message, rfl⟩
    | ok v => exact absurd (parseVerdict_ok parsed).1.object other
  · intro other
    cases parsed : parseParentReview tables scrubber py raw maxSubIssues with
    | error message => exact ⟨message, rfl⟩
    | ok v => exact absurd (parseParentReview_ok parsed).1.object other

/-- ASCII's tables. -/
def Tables.ascii : Tables where
  isWord c := c.isAlphanum || c = '_'
  isIdentifier name := !name.isEmpty && name.all fun c => c.isAlphanum || c = '_'

def jsonText (text : String) : Decoded := .str (PyStr.ofString text)

def jsonMembers (members : List (String × Decoded)) : Decoded := .obj (members.map fun member => (PyStr.ofString member.1, member.2))

/-- A split with one step for each title. -/
def splitInto (titles : List String) : Decoded :=
  jsonMembers ([("verdict", jsonText "split")] ++ (reasonNames.map fun name => (name, jsonText "none")) ++
    [("sub_issues", .arr (titles.map fun title => jsonMembers
      [("title", jsonText title), ("body", jsonText "Do it."), ("kind", jsonText "issuebot")]))])

/-- 192 letters and a one-letter token: as many characters as a title may have. -/
def longTitle : String := String.ofList (List.replicate 192 'x' ++ " token=a".toList)

/-- The mask is two characters longer than the token, and so is the title that is filed. -/
theorem short_token_outgrows_title_limit :
    longTitle.length = titleLimit ∧
      ∃ v, parseVerdict .ascii .default .ascii (splitInto [longTitle]) 10 = .ok v ∧
        ∃ draft ∈ v.subIssues, draft.title.length = titleLimit + 2 := by
  have lengths : (parseVerdict .ascii .default .ascii (splitInto [longTitle]) 10).toOption.map
      (fun v => v.subIssues.map fun draft => draft.title.length) = some [titleLimit + 2] := by decide +kernel
  obtain ⟨v, is_v, titles⟩ := Option.map_eq_some_iff.mp lengths
  obtain ⟨draft, listed, length⟩ := List.mem_map.mp (titles ▸ List.mem_singleton_self (titleLimit + 2))
  exact ⟨by decide +kernel, v, ok_of_toOption is_v, draft, listed, length⟩

end Issuebot
