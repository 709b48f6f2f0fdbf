import Issuebot.Agent.VerdictLimits
import Issuebot.Orchestrator.VerdictFiled

/-!
# One child for each draft

A filing matches children by the key of their titles, so it lists as many children as it has drafts
exactly where the drafts' keys are distinct (`fileDrafts_listed`). The parser compares titles
before they are scrubbed, and a mask can make one title of two (`one_child_per_draft_iff`).
-/

namespace Issuebot
set_option autoImplicit false
open Logic Remote

section Titles

variable {tables : Tables} {scrubber : Scrubber} {py : Py}

/-- No two of the titles were told apart as they were decoded and have one key under the masks. -/
def MasksMergeNone (tables : Tables) (scrubber : Scrubber) (py : Py) (titles : List Text) : Prop :=
  titles.Pairwise fun title title' =>
    titleKey py (String.ofList (scrubText tables scrubber title)) = titleKey py (String.ofList (scrubText tables scrubber title')) →
      py.casefold (String.ofList title) = py.casefold (String.ofList title')

/-- The titles of a value's steps, as they are read. -/
def Decoded.titles (raw : Decoded) : List Text :=
  (raw.members.item "sub_issues").elements.filterMap fun step => step.members.text? wantedTitle

theorem readDrafts_distinct {seen : List String} {steps : List Decoded} {read : List ReadDraft}
    (ok : readDrafts tables scrubber py seen steps = .ok read) :
    (∀ draft ∈ read, py.casefold (String.ofList draft.title) ∉ seen) ∧
      read.Pairwise fun draft draft' => py.casefold (String.ofList draft.title) ≠ py.casefold (String.ofList draft'.title) := by
  induction steps generalizing seen read with
  | nil =>
    obtain rfl := Except.ok.inj ok
    exact ⟨fun _ mem => absurd mem List.not_mem_nil, .nil⟩
  | cons step steps ih =>
    rw [readDrafts] at ok
    obtain ⟨draft, is_draft, ok⟩ := bind_eq_ok.mp ok
    obtain ⟨rest, is_rest, ok⟩ := bind_eq_ok.mp ok
    obtain rfl := Except.ok.inj ok
    obtain ⟨unseen, distinct⟩ := ih is_rest
    have new : py.casefold (String.ofList draft.title) ∉ seen := by
      unfold readDraft at is_draft
      obtain ⟨members, -, is_draft⟩ := bind_eq_ok.mp is_draft
      obtain ⟨title, -, is_draft⟩ := bind_eq_ok.mp is_draft
      split at is_draft
      · cases is_draft
      · obtain ⟨carried, is_carried, is_draft⟩ := bind_eq_ok.mp is_draft
        obtain ⟨body, -, is_draft⟩ := bind_eq_ok.mp is_draft
        obtain ⟨kind, -, is_draft⟩ := bind_eq_ok.mp is_draft
        split at is_draft
        · cases is_draft
        next not_seen =>
          obtain rfl := Except.ok.inj is_draft
          exact fun mem => not_seen (List.contains_iff_mem.mpr mem)
    constructor
    · intro other mem
      rcases List.mem_cons.mp mem with rfl | later
      · exact new
      · exact fun listed => unseen other later (List.mem_cons_of_mem _ listed)
    · apply List.Pairwise.cons _ distinct
      intro other mem same
      exact unseen other mem (same ▸ List.mem_cons_self)

/-- The titles of what was read. -/
theorem titles_read {steps : List Decoded} {read : List ReadDraft}
    (each : List.Forall₂ (fun step draft => draft.IsRead step) steps read) :
    steps.filterMap (fun step => step.members.text? wantedTitle) = read.map ReadDraft.title ∧
      ∀ draft ∈ read, (draft.scrubbed tables scrubber).title = String.ofList (scrubText tables scrubber draft.title) := by
  induction each with
  | nil => exact ⟨rfl, fun _ mem => absurd mem List.not_mem_nil⟩
  | cons here _ ih =>
    obtain ⟨titles, scrubbed⟩ := ih
    constructor
    · rw [List.filterMap_cons, here.title, titles, List.map_cons]
    · intro draft mem
      rcases List.mem_cons.mp mem with rfl | later
      · exact congrArg String.ofList (strip_scrubText tables scrubber here.titleReadable.edges)
      · exact scrubbed draft later

/-- The keys of the drafts are distinct exactly where the masks merge no two titles. -/
theorem keys_distinct_iff {raw : Decoded} {maxSubIssues : Nat} {subIssues : List SubIssueDraft}
    (ok : drafts tables scrubber py (raw.members.item "sub_issues") maxSubIssues = .ok subIssues) :
    (subIssues.map fun draft => titleKey py draft.title).Nodup ↔ MasksMergeNone tables scrubber py raw.titles := by
  unfold drafts at ok
  unfold Decoded.titles
  split at ok
  next steps is_steps =>
    split at ok
    · cases ok
    · obtain ⟨read, is_read, ok⟩ := bind_eq_ok.mp ok
      obtain rfl := Except.ok.inj ok
      obtain ⟨-, distinct⟩ := readDrafts_distinct is_read
      obtain ⟨titles, each⟩ := @titles_read tables scrubber _ _ (readDrafts_ok is_read)
      rw [is_steps, Decoded.elements]
      rw [titles, MasksMergeNone, List.pairwise_map, List.map_map, List.Nodup, List.pairwise_map]
      constructor
      · intro apart
        refine apart.imp_of_mem fun first second differ same => ?_
        refine absurd ?_ differ
        show titleKey py _ = titleKey py _
        rw [each _ first, each _ second]
        exact same
      · intro merges_none
        refine (merges_none.and distinct).imp_of_mem fun first second told same => ?_
        apply told.2
        apply told.1
        rw [← each _ first, ← each _ second]
        exact same
  · cases ok

end Titles

section Filing

variable {py : Py} {config : FilingConfig py} {F : Call → Fate GitHubError} {parent steps : Nat} {filedBy : String}

/-- GitHub numbers no two children alike, and numbers the next one above them all. -/
structure Numbered (family : Family) : Prop where
  nodup : (family.children.map Child.number).Nodup
  below : ∀ child ∈ family.children, child.number < family.nextNumber

/-- What a filing keeps of its dictionary: children of different keys have different numbers, and each draft's
child is the one of its key. -/
structure Listed (py : Py) (done : List (SubIssueDraft × Nat)) (found : (String → Option SubIssue) × List SubIssue)
    (s : System) : Prop where
  below : ∀ key sub, found.1 key = some sub → sub.number < s.family.nextNumber
  apart : ∀ key key' sub sub', found.1 key = some sub → found.1 key' = some sub' → sub.number = sub'.number → key = key'
  each : List.Forall₂ (fun entry sub => found.1 (titleKey py entry.1.title) = some sub) done found.2

/-- A new child gets a number of its own. -/
theorem Listed.create {done : List (SubIssueDraft × Nat)} {existing : String → Option SubIssue} {filed : List SubIssue}
    {s : System} {key title body : String} (h : Listed py done (existing, filed) s) (is_none : existing key = none) :
    Listed py done (Function.update existing key (some (s.family.createSubIssue title body).1), filed)
      { s with family := (s.family.createSubIssue title body).2 } where
  below := by
    intro other sub is_sub
    dsimp only at is_sub
    rcases eq_or_ne other key with rfl | differ
    · rw [Function.update_self] at is_sub
      obtain rfl := Option.some.inj is_sub
      exact Nat.lt_succ_self _
    · rw [Function.update_of_ne differ] at is_sub
      exact Nat.lt_succ_of_lt (h.below other sub is_sub)
  apart := by
    intro first second sub sub' is_sub is_sub' same
    dsimp only at is_sub is_sub'
    have old_below : ∀ other sub, other ≠ key → Function.update existing key
        (some (s.family.createSubIssue title body).1) other = some sub → sub.number < s.family.nextNumber := by
      intro other sub differ is_sub
      rw [Function.update_of_ne differ] at is_sub
      exact h.below other sub is_sub
    have new_number : ∀ sub, Function.update existing key (some (s.family.createSubIssue title body).1) key = some sub →
        sub.number = s.family.nextNumber := by
      intro sub is_sub
      rw [Function.update_self] at is_sub
      rw [← Option.some.inj is_sub]
      rfl
    rcases eq_or_ne first key with rfl | differ
    · rcases eq_or_ne second first with rfl | differ'
      · rfl
      · have below := old_below second sub' differ' is_sub'
        rw [← same, new_number sub is_sub] at below
        exact absurd below (Nat.lt_irrefl _)
    · rcases eq_or_ne second key with rfl | differ'
      · have below := old_below first sub differ is_sub
        rw [same, new_number sub' is_sub'] at below
        exact absurd below (Nat.lt_irrefl _)
      · rw [Function.update_of_ne differ] at is_sub
        rw [Function.update_of_ne differ'] at is_sub'
        exact h.apart first second sub sub' is_sub is_sub' same
  each := by
    refine h.each.imp fun entry sub is_sub => ?_
    dsimp only at is_sub ⊢
    have differ : titleKey py entry.1.title ≠ key := by
      intro same
      rw [same, is_none] at is_sub
      cases is_sub
    rw [Function.update_of_ne differ]
    exact is_sub

/-- A label edit numbers nothing. -/
theorem Listed.editLabels {done : List (SubIssueDraft × Nat)} {found : (String → Option SubIssue) × List SubIssue}
    {s : System} {number : Nat} {add remove : List String} (h : Listed py done found s) :
    Listed py done found { s with family := s.family.editLabels py number add remove } := by
  have same : (s.family.editLabels py number add remove).nextNumber = s.family.nextNumber := by
    unfold Family.editLabels
    split
    · rfl
    · rfl
  refine ⟨fun key sub is_sub => ?_, h.apart, h.each⟩
  rw [same]
  exact h.below key sub is_sub

/-- One draft: its child is the one of its key, and is listed. -/
theorem fileDraft_listed {done : List (SubIssueDraft × Nat)} {entry : SubIssueDraft × Nat}
    {found : (String → Option SubIssue) × List SubIssue} :
    Triple F (Listed py done found) (fileDraft py config parent steps filedBy found entry)
      (Listed py (done ++ [entry])) fun _ _ => True := by
  unfold fileDraft
  refine Triple.bind (Q := fun child s => Listed py done (child.2, found.2) s ∧
    child.2 (titleKey py entry.1.title) = some child.1) ?_ fun child => ?_
  · unfold draftChild
    split
    next child is_child => exact Triple.pure fun s h => ⟨h, is_child⟩
    next is_none =>
      unfold createSubIssue
      refine Triple.bind (Q := fun child s => Listed py done
        (Function.update found.1 (titleKey py entry.1.title) (some child), found.2) s) ?_ fun child => ?_
      · refine Triple.bind_get fun now h => ?_
        split
        · refine Triple.call ?_ (fun _ _ _ => trivial) fun _ _ _ _ => trivial
          rintro s rfl
          exact h.create is_none
        · exact Triple.raise fun _ _ => trivial
      · exact Triple.pure fun s h => ⟨h, Function.update_self ..⟩
  · refine Triple.bind (Q := fun _ s => Listed py done (child.2, found.2) s ∧
      child.2 (titleKey py entry.1.title) = some child.1) (Triple.when ?_ ?_) fun _ => Triple.pure ?_
    · intro _
      exact Triple.call (fun s h => ⟨h.1.editLabels, h.2⟩) (fun _ _ _ => trivial) fun _ _ _ _ => trivial
    · exact fun _ s h => h
    · rintro s ⟨h, is_child⟩
      exact ⟨h.below, h.apart, List.rel_append h.each (.cons is_child .nil)⟩

/-- The numbers of what is listed are distinct exactly where the keys are. -/
theorem Listed.nodup_iff {done : List (SubIssueDraft × Nat)} {found : (String → Option SubIssue) × List SubIssue} {s : System}
    (h : Listed py done found s) :
    (found.2.map SubIssue.number).Nodup ↔ (done.map fun entry => titleKey py entry.1.title).Nodup := by
  have each := h.each
  have apart := h.apart
  clear h
  generalize found.2 = filed at each
  induction each with
  | nil => exact iff_of_true List.nodup_nil List.nodup_nil
  | @cons entry sub done filed is_sub each ih =>
    have mem_iff : sub.number ∈ filed.map SubIssue.number ↔
        titleKey py entry.1.title ∈ done.map fun entry => titleKey py entry.1.title := by
      clear ih
      induction each with
      | nil => exact iff_of_false List.not_mem_nil List.not_mem_nil
      | @cons other sub' _ _ is_sub' _ ih =>
        have same_iff : sub.number = sub'.number ↔ titleKey py entry.1.title = titleKey py other.1.title := by
          constructor
          · exact apart _ _ sub sub' is_sub is_sub'
          · intro same
            rw [same, is_sub'] at is_sub
            rw [Option.some.inj is_sub]
        rw [List.map_cons, List.map_cons, List.mem_cons, List.mem_cons, ih, same_iff]
    rw [List.map_cons, List.map_cons, List.nodup_cons, List.nodup_cons]
    exact and_congr (not_congr mem_iff) ih

/-- A filing that comes to its end lists a child for each draft, and none twice exactly where the keys are
distinct. -/
theorem fileDrafts_listed {seen : List Nat} {drafts : List SubIssueDraft} {before : System} (numbered : Numbered before.family) :
    Triple F (fun s => s = before) (fileDrafts py config parent seen filedBy drafts)
      (fun filed _ => filed.length = drafts.length ∧
        ((filed.map SubIssue.number).Nodup ↔ (drafts.map fun draft => titleKey py draft.title).Nodup))
      fun _ _ => True := by
  unfold fileDrafts subIssues
  refine Triple.bind (Q := fun children s => s = before ∧ children = s.family.subIssues)
    (Triple.ask (fun s h => ⟨h, rfl⟩) fun _ _ _ => trivial) fun children => ?_
  refine Triple.bind (Q := Listed py (drafts.zipIdx (seen.length + 1))) ?_ fun found => Triple.pure ?_
  · refine Triple.conseq (Triple.foldlM (I := Listed py) fun done entry rest found _ => fileDraft_listed) ?_
      (fun _ _ h => h) fun _ _ _ => trivial
    rintro s ⟨rfl, rfl⟩
    have child_of : ∀ key sub, childrenByKey py (s.family.subIssues.filter fun child => child.number ∉ seen) key = some sub →
        (∃ child ∈ s.family.children, child.subIssue = sub) ∧ titleKey py sub.title = key := by
      intro key sub is_sub
      obtain ⟨mem, is_key⟩ := childrenByKey_found is_sub
      obtain ⟨child, listed, same⟩ := List.mem_map.mp (List.mem_filter.mp mem).1
      exact ⟨⟨child, List.mem_of_mem_take listed, same⟩, is_key⟩
    refine ⟨?_, ?_, .nil⟩
    · intro key sub is_sub
      obtain ⟨⟨child, mem, rfl⟩, -⟩ := child_of key sub is_sub
      exact numbered.below child mem
    · intro key key' sub sub' is_sub is_sub' same
      obtain ⟨⟨child, mem, rfl⟩, rfl⟩ := child_of key sub is_sub
      obtain ⟨⟨child', mem', rfl⟩, rfl⟩ := child_of key' sub' is_sub'
      rw [List.inj_on_of_nodup_map numbered.nodup mem mem' same]
  · intro s h
    have length := h.each.length_eq
    rw [List.length_zipIdx] at length
    refine ⟨length.symm, h.nodup_iff.trans ?_⟩
    have keys : (drafts.zipIdx (seen.length + 1)).map (fun entry => titleKey py entry.1.title) =
        drafts.map fun draft => titleKey py draft.title := by
      have fsts := congrArg (List.map fun draft : SubIssueDraft => titleKey py draft.title)
        (List.zipIdx_map_fst (seen.length + 1) drafts)
      rwa [List.map_map] at fsts
    rw [keys]

end Filing

/-- The drafts' keys are distinct, and every filing of them that comes to its end lists as many distinct children
as there are drafts. -/
structure OneChildEach (py : Py) (drafts : List SubIssueDraft) : Prop where
  keys : (drafts.map fun draft => titleKey py draft.title).Nodup
  children : ∀ (config : FilingConfig py) (F : Call → Fate GitHubError) (parent : Nat) (seen : List Nat) (filedBy : String)
    (before after : System) (filed : List SubIssue), Numbered before.family →
    fileDrafts py config parent seen filedBy drafts F before = (.ok filed, after) →
      filed.length = drafts.length ∧ (filed.map SubIssue.number).Nodup

theorem oneChildEach_iff {py : Py} {drafts : List SubIssueDraft} :
    OneChildEach py drafts ↔ (drafts.map fun draft => titleKey py draft.title).Nodup := by
  constructor
  · exact fun h => h.keys
  · intro distinct
    refine ⟨distinct, fun config F parent seen filedBy before after filed numbered run => ?_⟩
    have listed := @fileDrafts_listed py config F parent filedBy seen drafts before numbered before rfl
    rw [run] at listed
    exact ⟨listed.1, listed.2.mpr distinct⟩

theorem parseVerdict_drafts {tables : Tables} {scrubber : Scrubber} {py : Py} {raw : Decoded} {maxSubIssues : Nat}
    {v : TriageVerdict} (ok : parseVerdict tables scrubber py raw maxSubIssues = .ok v) :
    drafts tables scrubber py (raw.members.item "sub_issues") maxSubIssues = .ok v.subIssues := by
  unfold parseVerdict at ok
  split at ok
  · cases ok
  · obtain ⟨members, is_fields, rest⟩ := bind_eq_ok.mp ok
    clear ok
    obtain ⟨rfl, -⟩ := readFields_ok is_fields
    obtain ⟨verdict, -, ok⟩ := bind_eq_ok.mp rest
    iterate 5 obtain ⟨_, -, ok⟩ := bind_eq_ok.mp ok
    obtain ⟨subIssues, is_drafts, ok⟩ := bind_eq_ok.mp ok
    split at ok
    · cases ok
    · split at ok
      · cases ok
      · obtain rfl := Except.ok.inj ok
        exact is_drafts

theorem parseParentReview_drafts {tables : Tables} {scrubber : Scrubber} {py : Py} {raw : Decoded} {maxSubIssues : Nat}
    {v : ParentReviewVerdict} (ok : parseParentReview tables scrubber py raw maxSubIssues = .ok v) :
    drafts tables scrubber py (raw.members.item "sub_issues") maxSubIssues = .ok v.subIssues := by
  unfold parseParentReview at ok
  split at ok
  · cases ok
  · obtain ⟨members, is_fields, rest⟩ := bind_eq_ok.mp ok
    clear ok
    obtain ⟨rfl, -⟩ := readFields_ok is_fields
    obtain ⟨verdict, -, ok⟩ := bind_eq_ok.mp rest
    iterate 3 obtain ⟨_, -, ok⟩ := bind_eq_ok.mp ok
    obtain ⟨subIssues, is_drafts, ok⟩ := bind_eq_ok.mp ok
    split at ok
    · cases ok
    · split at ok
      · cases ok
      · obtain rfl := Except.ok.inj ok
        exact is_drafts

/-- A verdict has one child for each draft exactly where the masks merge no two of its titles. -/
theorem one_child_per_draft_iff (tables : Tables) (scrubber : Scrubber) (py : Py) (raw : Decoded) (maxSubIssues : Nat) :
    (∀ v, parseVerdict tables scrubber py raw maxSubIssues = .ok v →
      (OneChildEach py v.subIssues ↔ MasksMergeNone tables scrubber py raw.titles)) ∧
    ∀ v, parseParentReview tables scrubber py raw maxSubIssues = .ok v →
      (OneChildEach py v.subIssues ↔ MasksMergeNone tables scrubber py raw.titles) := by
  constructor
  · intro v ok
    exact oneChildEach_iff.trans (keys_distinct_iff (parseVerdict_drafts ok))
  · intro v ok
    exact oneChildEach_iff.trans (keys_distinct_iff (parseParentReview_drafts ok))

/-- Two titles that name two tokens of one shape. -/
def twoTokens : List String := ["Rotate ghp_AAAAAAAAAAAAAAAAAAAA", "Rotate ghp_BBBBBBBBBBBBBBBBBBBB"]

/-- Both titles are scrubbed to one, and the filing lists one child for the two drafts. -/
theorem two_tokens_share_a_child :
    ∃ v filed after, parseVerdict .ascii .default .ascii (splitInto twoTokens) 10 = .ok v ∧
      fileDrafts .ascii defaultFiling 7 [] "issuebot triage" v.subIssues (fun _ => .answered) ⟨plainParent, .idle⟩ =
        (.ok filed, after) ∧
      v.subIssues.map SubIssueDraft.title = ["Rotate ***", "Rotate ***"] ∧ filed.map SubIssue.number = [8, 8] ∧
      ¬ OneChildEach .ascii v.subIssues := by
  have drafted : (parseVerdict .ascii .default .ascii (splitInto twoTokens) 10).toOption.map (fun v =>
      (v.subIssues.map SubIssueDraft.title,
        (fileDrafts .ascii defaultFiling 7 [] "issuebot triage" v.subIssues (fun _ => .answered)
          ⟨plainParent, .idle⟩).1.toOption.map fun filed => filed.map SubIssue.number)) =
        some (["Rotate ***", "Rotate ***"], some [8, 8]) := by decide +kernel
  obtain ⟨v, is_v, same⟩ := Option.map_eq_some_iff.mp drafted
  obtain ⟨titles, numbers⟩ := Prod.mk.inj same
  obtain ⟨filed, is_filed, numbers⟩ := Option.map_eq_some_iff.mp numbers
  refine ⟨v, filed, _, ok_of_toOption is_v, Prod.ext (ok_of_toOption is_filed) rfl, titles, numbers, ?_⟩
  intro each
  have keys : ((v.subIssues.map SubIssueDraft.title).map (titleKey .ascii)).Nodup := by
    rw [List.map_map]
    exact each.keys
  rw [titles] at keys
  exact absurd List.mem_cons_self (List.nodup_cons.mp keys).1

end Issuebot
