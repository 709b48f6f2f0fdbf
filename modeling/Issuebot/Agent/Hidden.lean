import Issuebot.Agent.Visible

/-!
# What the page hides

A `HtmlForest` is well-nested HTML; `shown` erases from it what the page hides and the attributes
the reader cannot see. A start tag inside a hidden region is skipped with everything up to its end
tag, so erasing changes nothing the parser does (`visibleText_shown`). Text nested too deep in
elements set small is erased, but the tags around it are not: the parser still writes their marks.
-/

namespace Issuebot
set_option autoImplicit false
open Logic

/-- Well-nested HTML: a void element has no end tag, any other has one. -/
inductive HtmlForest where
  | nil
  | text (data : Text) (rest : HtmlForest)
  | comment (data : Text) (rest : HtmlForest)
  | void (tag : String) (attrs : Attrs) (is_void : voidTags.contains tag = true) (rest : HtmlForest)
  | selfClosed (tag : String) (attrs : Attrs) (rest : HtmlForest)
  | element (tag : String) (attrs : Attrs) (not_void : voidTags.contains tag = false) (children rest : HtmlForest)

/-- The events of the forest, in order. -/
def HtmlForest.events : HtmlForest → List HtmlEvent
  | nil => []
  | text data rest => .data data :: rest.events
  | comment data rest => .comment data :: rest.events
  | void tag attrs _ rest => .starttag tag attrs :: rest.events
  | selfClosed tag attrs rest => .startendtag tag attrs :: rest.events
  | element tag attrs _ children rest => .starttag tag attrs :: (children.events ++ .endtag tag :: rest.events)

section Shown

variable (py : Py)

/-- The attributes whose text can reach a reader: the class and `lang`, a link's `href`, a checkbox's `type`
and `checked`. -/
def shownAttrs (tag : String) (attrs : Attrs) : Attrs :=
  [("class", some attrs.classText), ("lang", attrs.get "lang")] ++ (if tag = "a" then [("href", attrs.get "href")] else []) ++
    if tag = "input" ∧ attrs.isCheckbox py then
      ("type", attrs.get "type") :: if attrs.has "checked" then [("checked", none)] else []
    else []

/-- How many elements set small are open inside a tag. -/
def smallInside (tag : String) (small : Nat) : Nat := if tag ∈ smallTags then small + 1 else small

/-- The forest without what the page hides, `small` elements set small being open around it. With `marks`,
everything that is nested too deep in them is erased, and otherwise its text is. -/
def HtmlForest.shown (marks : Bool) : Nat → HtmlForest → HtmlForest
  | _, nil => nil
  | small, text data rest => if smallLimit ≤ small then rest.shown marks small else .text data (rest.shown marks small)
  | small, comment _ rest => rest.shown marks small
  | small, void tag attrs is_void rest => .void tag (shownAttrs py tag attrs) is_void (rest.shown marks small)
  | small, selfClosed tag attrs rest => .selfClosed tag (shownAttrs py tag attrs) (rest.shown marks small)
  | small, element tag attrs not_void children rest =>
    let hidden := droppedTags.contains tag || ToText.hides tag attrs || (marks && smallLimit ≤ smallInside tag small)
    .element tag (shownAttrs py tag attrs) not_void
      (if hidden then .nil else children.shown marks (smallInside tag small)) (rest.shown marks small)

end Shown

section Attributes

variable {py : Py} {s : ToText} {tag : String} {attrs : Attrs}

theorem classText_shownAttrs : (shownAttrs py tag attrs).classText = attrs.classText := by
  unfold shownAttrs
  split_ifs <;> rfl

theorem lang_shownAttrs : (shownAttrs py tag attrs).get "lang" = attrs.get "lang" := by
  unfold shownAttrs
  split_ifs <;> rfl

theorem hides_shownAttrs : ToText.hides tag (shownAttrs py tag attrs) = ToText.hides tag attrs := by
  rw [ToText.hides, classText_shownAttrs, ToText.hides]

theorem isCheckbox_shownAttrs : (shownAttrs py "input" attrs).isCheckbox py = attrs.isCheckbox py := by
  have no_link : "input" ≠ "a" := by decide
  by_cases checkbox : attrs.isCheckbox py = true
  · have kept : (shownAttrs py "input" attrs).get "type" = attrs.get "type" := by
      rw [shownAttrs, if_neg no_link, if_pos ⟨rfl, checkbox⟩]
      split <;> rfl
    rw [Attrs.isCheckbox, kept, Attrs.isCheckbox]
  · have erased : (shownAttrs py "input" attrs).get "type" = none := by
      rw [shownAttrs, if_neg no_link, if_neg fun both => checkbox both.2]
      rfl
    rw [Attrs.isCheckbox, erased, Bool.eq_false_iff.mpr checkbox]
    rfl

theorem checked_shownAttrs (checkbox : attrs.isCheckbox py = true) :
    (shownAttrs py "input" attrs).has "checked" = attrs.has "checked" := by
  have no_link : "input" ≠ "a" := by decide
  rw [shownAttrs, if_neg no_link, if_pos ⟨rfl, checkbox⟩]
  split
  next checked =>
    rw [checked]
    rfl
  next unchecked =>
    rw [Bool.eq_false_iff.mpr unchecked]
    rfl

/-- The attributes that are erased are read nowhere. -/
theorem openTag_shownAttrs : s.openTag py tag (shownAttrs py tag attrs) = s.openTag py tag attrs := by
  by_cases is_link : tag = "a"
  · subst is_link
    rfl
  by_cases is_input : tag = "input"
  · subst is_input
    have reads : ∀ attrs : Attrs, s.openTag py "input" attrs =
        if attrs.isCheckbox py = true then s.put (if attrs.has "checked" then "[x]" else "[ ]") else s := by
      intro attrs
      by_cases checkbox : attrs.isCheckbox py = true
      · rw [if_pos checkbox]
        simp [ToText.openTag, strikeTags, checkbox]
      · rw [if_neg checkbox]
        simp [ToText.openTag, strikeTags, cellTags, blockTags, checkbox]
    rw [reads, reads, isCheckbox_shownAttrs]
    split
    next checkbox => rw [checked_shownAttrs checkbox]
    · rfl
  · simp only [ToText.openTag, is_link, is_input, false_and, if_false]

theorem showStart_shownAttrs : s.showStart py tag (shownAttrs py tag attrs) = s.showStart py tag attrs := by
  simp only [ToText.showStart, classText_shownAttrs, lang_shownAttrs, openTag_shownAttrs]

end Attributes

section Depths

variable {py : Py} {s s' : ToText} {tag : String} {attrs : Attrs}

/-- The parser's depths in hidden regions, which only a hidden element's tags and those set small move. -/
structure SameDepths (s s' : ToText) : Prop where
  dropped : s'.dropped = s.dropped
  hidden : s'.hidden = s.hidden
  small : s'.small = s.small

theorem SameDepths.put {text : String} (same : SameDepths s s') : SameDepths s (s'.put text) :=
  ⟨same.dropped, same.hidden, same.small⟩

theorem SameDepths.trans {s'' : ToText} (first : SameDepths s s') (second : SameDepths s' s'') : SameDepths s s'' :=
  ⟨second.dropped.trans first.dropped, second.hidden.trans first.hidden, second.small.trans first.small⟩

theorem sameDepths_openTag : SameDepths s (s.openTag py tag attrs) := by
  unfold ToText.openTag
  split_ifs <;> exact ⟨rfl, rfl, rfl⟩

theorem sameDepths_showStart : SameDepths s (s.showStart py tag attrs) := by
  unfold ToText.showStart
  dsimp only
  generalize is_named : ite (tag = "div") _ _ = s'
  have language : SameDepths s s' := by
    rw [← is_named]
    split
    · split <;> exact ⟨rfl, rfl, rfl⟩
    · exact ⟨rfl, rfl, rfl⟩
  refine language.trans ?_
  split_ifs
  all_goals first
    | exact sameDepths_openTag
    | exact ⟨rfl, rfl, rfl⟩

theorem sameDepths_closeTag : SameDepths s (s.closeTag tag) := by
  have link : SameDepths s s.closeLink := by
    unfold ToText.closeLink
    split
    · exact ⟨rfl, rfl, rfl⟩
    · dsimp only
      split <;> exact ⟨rfl, rfl, rfl⟩
  unfold ToText.closeTag
  split_ifs
  all_goals first
    | exact link
    | exact ⟨rfl, rfl, rfl⟩

theorem sameDepths_showEnd : SameDepths s (s.showEnd tag) := by
  unfold ToText.showEnd
  split_ifs
  · exact ⟨rfl, rfl, rfl⟩
  · dsimp only
    split <;> exact ⟨rfl, rfl, rfl⟩
  · exact ⟨rfl, rfl, rfl⟩
  · exact sameDepths_closeTag

theorem sameDepths_handleData {data : Text} : SameDepths s (s.handleData data) := by
  unfold ToText.handleData ToText.out
  dsimp only
  split_ifs <;> exact ⟨rfl, rfl, rfl⟩

end Depths

section Feed

variable {py : Py} {s : ToText}

/-- The parser fed with events. -/
def ToText.feed (py : Py) (s : ToText) (events : List HtmlEvent) : ToText := events.foldl (ToText.handle py) s

theorem ToText.feed_append {events more : List HtmlEvent} : s.feed py (events ++ more) = (s.feed py events).feed py more :=
  List.foldl_append

theorem ToText.feed_cons {event : HtmlEvent} {events : List HtmlEvent} :
    s.feed py (event :: events) = (s.handle py event).feed py events := rfl

/-- The parser is inside an element whose contents it skips: one that is hidden, or one that is dropped. -/
inductive Skips (s : ToText) : Prop where
  | hidden {name : String} {depth : Nat} : s.hidden = some (name, depth + 1) → voidTags.contains name = false → Skips s
  | dropped {depth : Nat} : s.hidden = none → s.dropped = depth + 1 → Skips s

theorem Skips.handleData {data : Text} (skips : Skips s) : s.handleData data = s := by
  cases skips with
  | hidden is_hidden => rw [ToText.handleData, if_pos (.inr (.inl (by rw [is_hidden]; rfl)))]
  | dropped _ is_dropped => rw [ToText.handleData, if_pos (.inl (by rw [is_dropped]; exact Nat.succ_ne_zero _))]

theorem Skips.void {tag : String} {attrs : Attrs} (skips : Skips s) (is_void : voidTags.contains tag = true) :
    s.handleStarttag py tag attrs = s := by
  cases skips with
  | @hidden name depth is_hidden not_void =>
    have other : tag ≠ name := by
      rintro rfl
      rw [not_void] at is_void
      cases is_void
    simp only [ToText.handleStarttag, is_hidden, if_neg other]
  | dropped not_hidden is_dropped =>
    have kept : tag ∉ droppedTags := by
      intro mem
      have none_void : ∀ tag ∈ droppedTags, voidTags.contains tag = false := by decide
      rw [none_void tag mem] at is_void
      cases is_void
    have inside : s.dropped ≠ 0 := by omega
    simp only [ToText.handleStarttag, not_hidden, if_neg kept, if_pos inside]

variable (py) in
/-- An element inside is skipped too, its end tag undoing what its start tag counted. -/
theorem Skips.element (tag : String) (attrs : Attrs) (skips : Skips s) :
    Skips (s.handleStarttag py tag attrs) ∧ (s.handleStarttag py tag attrs).handleEndtag tag = s := by
  cases skips with
  | @hidden name depth is_hidden not_void =>
    by_cases same : tag = name
    · have starts : s.handleStarttag py tag attrs = { s with hidden := some (name, depth + 2) } := by
        simp only [ToText.handleStarttag, is_hidden, if_pos same]
      rw [starts]
      refine ⟨.hidden rfl not_void, ?_⟩
      simp only [ToText.handleEndtag, if_pos same]
      rw [if_neg (by omega), show depth + 2 - 1 = depth + 1 from rfl, ← is_hidden]
    · have starts : s.handleStarttag py tag attrs = s := by
        simp only [ToText.handleStarttag, is_hidden, if_neg same]
      rw [starts]
      refine ⟨.hidden is_hidden not_void, ?_⟩
      simp only [ToText.handleEndtag, is_hidden, if_neg same]
  | @dropped depth not_hidden is_dropped =>
    by_cases counted : tag ∈ droppedTags
    · have starts : s.handleStarttag py tag attrs = { s with dropped := s.dropped + 1 } := by
        simp only [ToText.handleStarttag, not_hidden, if_pos counted]
      rw [starts]
      refine ⟨.dropped not_hidden (congrArg (· + 1) is_dropped), ?_⟩
      simp only [ToText.handleEndtag, not_hidden, if_pos counted, Nat.add_sub_cancel]
      rw [← not_hidden]
    · have inside : s.dropped ≠ 0 := by omega
      have starts : s.handleStarttag py tag attrs = s := by
        simp only [ToText.handleStarttag, not_hidden, if_neg counted, if_pos inside]
      rw [starts]
      refine ⟨.dropped not_hidden is_dropped, ?_⟩
      simp only [ToText.handleEndtag, not_hidden, if_neg counted, if_pos inside]

/-- Well-nested HTML in a region that is skipped leaves the parser as it was. -/
theorem feed_skips (skips : Skips s) (forest : HtmlForest) : s.feed py forest.events = s := by
  induction forest generalizing s with
  | nil => rfl
  | text data rest ih =>
    rw [HtmlForest.events, ToText.feed_cons, ToText.handle, skips.handleData]
    exact ih skips
  | comment data rest ih => exact ih skips
  | void tag attrs is_void rest ih =>
    rw [HtmlForest.events, ToText.feed_cons, ToText.handle, skips.void is_void]
    exact ih skips
  | selfClosed tag attrs rest ih =>
    rw [HtmlForest.events, ToText.feed_cons, ToText.handle]
    split
    next is_void =>
      rw [skips.void is_void]
      exact ih skips
    · exact ih skips
  | element tag attrs not_void children rest ih_children ih_rest =>
    obtain ⟨inside, ends⟩ := skips.element py tag attrs
    rw [HtmlForest.events, ToText.feed_cons, ToText.handle, ToText.feed_append, ih_children inside, ToText.feed_cons,
      ToText.handle, ends]
    exact ih_rest skips

end Feed

section Erase

variable {py : Py} {s : ToText} {tag : String} {attrs : Attrs}

/-- The parser is in no region that is skipped. -/
structure Reads (s : ToText) (small : Nat) : Prop where
  hidden : s.hidden = none
  dropped : s.dropped = 0
  small : s.small = small

theorem Reads.same {s' : ToText} {small : Nat} (reads : Reads s small) (same : SameDepths s s') : Reads s' small :=
  ⟨same.hidden.trans reads.hidden, same.dropped.trans reads.dropped, same.small.trans reads.small⟩

/-- A region that is skipped, from its start tag to its end tag, leaves no trace. -/
theorem Reads.skipped {small : Nat} (reads : Reads s small) (not_void : voidTags.contains tag = false)
    (hidden : (droppedTags.contains tag || ToText.hides tag attrs) = true) (children : HtmlForest) :
    ((s.handleStarttag py tag attrs).feed py children.events).handleEndtag tag = s := by
  by_cases is_dropped : tag ∈ droppedTags
  · have starts : s.handleStarttag py tag attrs = { s with dropped := 1 } := by
      simp only [ToText.handleStarttag, reads.hidden, if_pos is_dropped, reads.dropped]
    have inside : Skips { s with dropped := 1 } := .dropped reads.hidden rfl
    rw [starts, feed_skips inside]
    simp only [ToText.handleEndtag, reads.hidden, if_pos is_dropped]
    rw [Nat.sub_self, ← reads.dropped, ← reads.hidden]
  · have is_hidden : ToText.hides tag attrs = true := by
      rcases Bool.or_eq_true_iff.mp hidden with listed | is_hidden
      · exact absurd (List.contains_iff_mem.mp listed) is_dropped
      · exact is_hidden
    have starts : s.handleStarttag py tag attrs = { s with hidden := some (tag, 1) } := by
      simp only [ToText.handleStarttag, reads.hidden, if_neg is_dropped, reads.dropped, ne_eq, not_true_eq_false, if_false,
        if_pos is_hidden]
    have inside : Skips { s with hidden := some (tag, 1) } := .hidden rfl not_void
    rw [starts, feed_skips inside]
    simp only [ToText.handleEndtag, if_true]
    rw [← reads.hidden]

variable (py) in
/-- The start tag of an element that is shown. -/
theorem Reads.starts {small : Nat} (reads : Reads s small)
    (shown : (droppedTags.contains tag || ToText.hides tag attrs) = false) :
    Reads (s.handleStarttag py tag attrs) (smallInside tag small) ∧
      s.handleStarttag py tag (shownAttrs py tag attrs) = s.handleStarttag py tag attrs := by
  obtain ⟨kept, not_hidden⟩ := Bool.or_eq_false_iff.mp shown
  have kept : tag ∉ droppedTags := fun mem => by
    rw [List.contains_iff_mem.mpr mem] at kept
    cases kept
  have starts : ∀ other, ToText.hides tag other = false → s.handleStarttag py tag other =
      (if tag ∈ smallTags then { s with small := s.small + 1 } else s).showStart py tag other := by
    intro other not_hidden
    simp only [ToText.handleStarttag, reads.hidden, if_neg kept, reads.dropped, ne_eq, not_true_eq_false, if_false,
      not_hidden, Bool.false_eq_true]
  have counted : Reads (if tag ∈ smallTags then { s with small := s.small + 1 } else s) (smallInside tag small) := by
    unfold smallInside
    split
    · exact ⟨reads.hidden, reads.dropped, congrArg (· + 1) reads.small⟩
    · exact reads
  refine ⟨?_, ?_⟩
  · rw [starts attrs not_hidden]
    exact counted.same sameDepths_showStart
  · rw [starts attrs not_hidden, starts _ (hides_shownAttrs.trans not_hidden), showStart_shownAttrs]

/-- Its end tag. -/
theorem Reads.ends {small : Nat} (reads : Reads s (smallInside tag small)) (kept : tag ∉ droppedTags) :
    Reads (s.handleEndtag tag) small := by
  have ends : s.handleEndtag tag = (if tag ∈ smallTags then { s with small := s.small - 1 } else s).showEnd tag := by
    simp only [ToText.handleEndtag, reads.hidden, if_neg kept, reads.dropped, ne_eq, not_true_eq_false, if_false]
  have counted : Reads (if tag ∈ smallTags then { s with small := s.small - 1 } else s) small := by
    have depth := reads.small
    unfold smallInside at depth
    split
    next is_small =>
      rw [if_pos is_small] at depth
      exact ⟨reads.hidden, reads.dropped, by rw [depth]; rfl⟩
    next not_small =>
      rw [if_neg not_small] at depth
      exact ⟨reads.hidden, reads.dropped, depth⟩
  rw [ends]
  exact counted.same sameDepths_showEnd

variable (py attrs) in
/-- A void element that is read. -/
theorem Reads.void {small : Nat} (reads : Reads s small) (is_void : voidTags.contains tag = true) :
    Reads (s.handleStarttag py tag attrs) small ∧
      s.handleStarttag py tag (shownAttrs py tag attrs) = s.handleStarttag py tag attrs := by
  have kept : droppedTags.contains tag = false := by
    have none_dropped : ∀ tag ∈ voidTags, droppedTags.contains tag = false := by decide
    exact none_dropped tag (List.contains_iff_mem.mp is_void)
  have not_hidden : ToText.hides tag attrs = false := by
    rw [ToText.hides, is_void, Bool.not_true, Bool.and_false]
  have not_small : tag ∉ smallTags := by
    have none_small : ∀ tag ∈ voidTags, tag ∉ smallTags := by decide
    exact none_small tag (List.contains_iff_mem.mp is_void)
  obtain ⟨after, same⟩ := reads.starts py (by rw [kept, not_hidden]; rfl)
  rw [smallInside, if_neg not_small] at after
  exact ⟨after, same⟩

/-- Erasing what the page hides changes nothing the parser does. -/
theorem feed_shown {small : Nat} (reads : Reads s small) (forest : HtmlForest) :
    s.feed py (forest.shown py false small).events = s.feed py forest.events ∧ Reads (s.feed py forest.events) small := by
  induction forest generalizing s small with
  | nil => exact ⟨rfl, reads⟩
  | text data rest ih =>
    have depths : SameDepths s (s.handleData data) := sameDepths_handleData
    obtain ⟨same, after⟩ := ih (reads.same depths)
    rw [HtmlForest.shown]
    refine ⟨?_, after⟩
    split
    next deep =>
      -- the text is too small to be read
      have skipped : s.handleData data = s := by
        rw [ToText.handleData, if_pos (.inr (.inr (by rw [reads.small]; exact deep)))]
      rw [skipped] at same
      rw [same, HtmlForest.events, ToText.feed_cons, ToText.handle, skipped]
    · exact same
  | comment data rest ih => exact ih reads
  | void tag attrs is_void rest ih =>
    obtain ⟨after, same⟩ := reads.void py attrs is_void
    rw [HtmlForest.shown, HtmlForest.events, HtmlForest.events, ToText.feed_cons, ToText.feed_cons, ToText.handle,
      ToText.handle, same]
    exact ih after
  | selfClosed tag attrs rest ih =>
    rw [HtmlForest.shown, HtmlForest.events, HtmlForest.events, ToText.feed_cons, ToText.feed_cons, ToText.handle,
      ToText.handle]
    split
    next is_void =>
      obtain ⟨after, same⟩ := reads.void py attrs is_void
      rw [same]
      exact ih after
    · exact ih reads
  | element tag attrs not_void children rest ih_children ih_rest =>
    rw [HtmlForest.shown, Bool.false_and, Bool.or_false]
    rw [HtmlForest.events, HtmlForest.events, ToText.feed_cons, ToText.feed_cons, ToText.handle, ToText.handle,
      ToText.feed_append, ToText.feed_append, ToText.feed_cons, ToText.feed_cons, ToText.handle, ToText.handle]
    by_cases hidden : (droppedTags.contains tag || ToText.hides tag attrs) = true
    · have still_hidden : (droppedTags.contains tag || ToText.hides tag (shownAttrs py tag attrs)) = true := by
        rw [hides_shownAttrs]
        exact hidden
      rw [reads.skipped not_void hidden, reads.skipped not_void still_hidden]
      exact ih_rest reads
    · have shown := Bool.eq_false_iff.mpr hidden
      obtain ⟨inside, same⟩ := reads.starts py shown
      obtain ⟨same_children, after⟩ := ih_children inside
      have kept : tag ∉ droppedTags := by
        intro mem
        rw [List.contains_iff_mem.mpr mem] at shown
        cases shown
      rw [if_neg hidden, same, same_children]
      exact ih_rest (after.ends kept)

/-- The text of a page is that of what the page shows. -/
theorem visibleText_shown (forest : HtmlForest) :
    visibleText py (forest.shown py false 0).events = visibleText py forest.events := by
  have fresh : Reads {} 0 := ⟨rfl, rfl, rfl⟩
  exact congrArg (fun s => (ToText.close s).text) (feed_shown fresh forest).1

end Erase
end Issuebot
