import Mathlib.Data.List.GetD
import Issuebot.Agent.Hidden

/-!
# What the reader hands over

Every text the parser keeps is composed of visible characters and of the holes its fences go into,
so the finished text has no character that prints as nothing.
-/

namespace Issuebot
set_option autoImplicit false
open Logic

/-- A character that `strip_invisible` leaves. -/
def IsVisible (c : Char) : Prop := isInvisible c = false

/-- A hole of a fence. -/
def IsHole (text : Text) : Prop := ∃ index, text = hole index

section Characters

variable {c : Char} {text : Text}

theorem visible_of_ascii (above : 0x20 ≤ c.toNat) (below : c.toNat < 0x7F) : IsVisible c := by
  have beyond : ∀ ranges : List (Nat × Nat), (∀ range ∈ ranges, 0x7F ≤ range.1) → inRanges ranges c = false :=
    fun ranges starts => not_inRanges fun range mem => lt_of_lt_of_le below (starts range mem)
  have no_control : decide (c.toNat < 0x20) = false := decide_eq_false (not_lt_of_ge above)
  rw [IsVisible, isInvisible, isFormat, beyond _ (by decide), beyond _ (by decide), beyond _ (by decide),
    beyond _ (by decide), no_control]
  rfl

theorem visible_newline : IsVisible '\n' := by unfold IsVisible; decide

/-- The characters of a literal are visible where each of them is. -/
theorem visible_literal {literal : Text} (all : literal.all (fun c => !isInvisible c) = true) : ∀ c ∈ literal, IsVisible c := by
  intro c mem
  have visible := List.all_eq_true.mp all c mem
  rwa [Bool.not_eq_true'] at visible

theorem mem_stripInvisible (mem : c ∈ stripInvisible text) : IsVisible c := by
  have visible := (List.mem_filter.mp mem).2
  rwa [Bool.not_eq_true'] at visible

theorem stripInvisible_eq_self (all : ∀ c ∈ text, IsVisible c) : stripInvisible text = text := by
  apply List.filter_eq_self.mpr
  intro c mem
  rw [Bool.not_eq_true']
  exact all c mem

/-- What takes out phantoms puts nothing in. -/
theorem mem_of_mem_substitute_phantom (mem : c ∈ substitute phantom text) : c ∈ text := by
  rcases mem_substitute mem with listed | ⟨rest, length, replacement, -, found, replaced⟩
  · exact listed
  · obtain ⟨after, -, same⟩ := Option.map_eq_some_iff.mp found
    cases same
    cases replaced

theorem mem_of_mem_mathSpan {dollars inside after : Text} (found : mathSpan text = some (dollars, inside, after))
    (mem : c ∈ dollars ∨ c ∈ inside) : c ∈ text := by
  have taken : ∀ rest : Text, c ∈ rest.takeWhile (· ≠ '$') → c ∈ rest :=
    fun rest mem => (List.takeWhile_prefix _).subset mem
  unfold mathSpan at found
  split at found
  next rest =>
    split at found
    next head tail after' is_inside is_after =>
      cases found
      rcases mem with dollar | listed
      · exact List.mem_append_left rest dollar
      · exact List.mem_cons_of_mem _ (List.mem_cons_of_mem _ (taken rest (is_inside ▸ listed)))
    · cases found
  next rest _ =>
    split at found
    next head tail after' is_inside is_after =>
      cases found
      rcases mem with dollar | listed
      · exact List.mem_append_left rest dollar
      · exact List.mem_cons_of_mem _ (taken rest (is_inside ▸ listed))
    · cases found
  · cases found

/-- Nothing is in the text without its phantoms that was not in it. -/
theorem mem_of_mem_unphantom (mem : c ∈ unphantom text) : c ∈ text := by
  rcases mem_substitute (mem_of_mem_substitute_phantom mem) with listed | ⟨rest, length, replacement, suffix, found, replaced⟩
  · exact listed
  · obtain ⟨⟨dollars, inside, after⟩, is_span, same⟩ := Option.map_eq_some_iff.mp found
    obtain ⟨-, rfl⟩ := Prod.mk.inj same
    apply suffix.subset
    split at replaced
    · cases replaced
    · rcases List.mem_append.mp replaced with front | dollar
      · rcases List.mem_append.mp front with dollar | cleaned
        · exact mem_of_mem_mathSpan is_span (.inl dollar)
        · exact mem_of_mem_mathSpan is_span (.inr (mem_of_mem_substitute_phantom cleaned))
      · exact mem_of_mem_mathSpan is_span (.inl dollar)

/-- The lines on the picture are lines of the block. -/
theorem pictured_sublist {inBlock : Bool} {lines : List Text} : (pictured inBlock lines).Sublist lines := by
  induction lines generalizing inBlock with
  | nil => cases inBlock <;> exact .slnil
  | cons line rest ih =>
    cases inBlock with
    | true => exact ih.cons line
    | false =>
      rw [pictured]
      split
      · exact ih.cons line
      · split
        · exact ih.cons line
        · exact ih.cons_cons line

/-- A text's lines are of its characters. -/
theorem mem_of_mem_splitOn {separator : Char} {piece : Text} (listed : piece ∈ text.splitOn separator) (mem : c ∈ piece) :
    c ∈ text := by
  have composed : Composed (· ∈ text) (fun _ => False) text := .of_ordinary fun _ mem => mem
  have pieces : Composed (· ∈ text) (fun _ => False) piece := composed.splitOn (fun _ absurd => absurd.elim) piece listed
  have ordinary : ∀ piece, Composed (· ∈ text) (fun _ => False) piece → ∀ c ∈ piece, c ∈ text := by
    intro piece composed
    induction composed with
    | nil => exact fun _ mem => nomatch mem
    | char here _ ih =>
      intro d mem
      rcases List.mem_cons.mp mem with rfl | later
      · exact here
      · exact ih d later
    | mark is_mark => exact is_mark.elim
  exact ordinary piece pieces c mem

/-- A quoted character is in hexadecimal. -/
theorem visible_quoteChar : ∀ d ∈ quoteChar c, IsVisible d := by
  have hex : ∀ n, IsVisible (hexDigits.getD n '0') := by
    intro n
    have listed : hexDigits.getD n '0' ∈ hexDigits := by
      by_cases short : n < hexDigits.length
      · rw [List.getD_eq_getElem _ _ short]
        exact List.getElem_mem _
      · rw [List.getD_eq_default _ _ (not_lt.mp short)]
        decide
    exact visible_literal (by decide) _ listed
  intro d mem
  obtain ⟨byte, -, mem⟩ := List.mem_flatMap.mp mem
  simp only [List.mem_cons, List.not_mem_nil, or_false] at mem
  rcases mem with rfl | rfl | rfl
  · unfold IsVisible
    decide
  · exact hex _
  · exact hex _

theorem visible_languageIn {language : Text} (found : languageIn text = some language) : ∀ c ∈ language, IsVisible c := by
  have letters : ∀ c, isLanguageChar c = true → IsVisible c := by
    intro c letter
    simp only [isLanguageChar, Char.isAlphanum, Char.isAlpha, Char.isUpper, Char.isLower, Char.isDigit, Bool.or_eq_true,
      Bool.and_eq_true, decide_eq_true_eq] at letter
    rcases letter with (((((upper | lower) | digit) | rfl) | rfl) | rfl)
    · exact visible_of_ascii (le_trans (by decide) upper.1) (lt_of_le_of_lt upper.2 (by decide))
    · exact visible_of_ascii (le_trans (by decide) lower.1) (lt_of_le_of_lt lower.2 (by decide))
    · exact visible_of_ascii (le_trans (by decide) digit.1) (lt_of_le_of_lt digit.2 (by decide))
    all_goals
      unfold IsVisible
      decide
  have one : ∀ text, languageAt text = some language → ∀ c ∈ language, IsVisible c := by
    intro text found
    have run : ∀ rest : Text, (if rest.takeWhile isLanguageChar = [] then none else some (rest.takeWhile isLanguageChar)) =
        some language → ∀ c ∈ language, IsVisible c := by
      intro rest found
      split at found
      · cases found
      · cases found
        exact fun c mem => letters c (List.mem_takeWhile_imp mem)
    rcases Option.or_eq_some_iff.mp found with found | ⟨-, found⟩
    all_goals
      dsimp only at found
      split at found
      · exact run _ found
      · cases found
  induction text with
  | nil => cases found
  | cons c rest ih =>
    rcases Option.or_eq_some_iff.mp found with here | ⟨-, later⟩
    · exact one _ here
    · exact ih later

end Characters

section Holes

theorem hole_ends {found : Text} (is_hole : IsHole found) : ∃ front c, found = front ++ [c] ∧ isSpace c = false := by
  obtain ⟨index, rfl⟩ := is_hole
  exact ⟨'\x00' :: Nat.toDigits 10 index, '\x00', rfl, by decide⟩

theorem hole_digits (index : Nat) : ∀ c ∈ Nat.toDigits 10 index, c.isDigit = true :=
  fun _ mem => Nat.isDigit_of_mem_toDigits (by decide) (by decide) mem

theorem hole_unseparated {found : Text} (is_hole : IsHole found) : '\n' ∉ found := by
  obtain ⟨index, rfl⟩ := is_hole
  intro mem
  rcases List.mem_append.mp mem with front | last
  · rcases List.mem_cons.mp front with first | digit
    · exact absurd first (by decide)
    · exact absurd (hole_digits index _ digit) (by decide)
  · exact absurd (List.mem_singleton.mp last) (by decide)

/-- A hole is filled with its fence, or with nothing. -/
theorem holePattern_hole {fences : List Text} {found rest : Text} (is_hole : IsHole found) :
    found ≠ [] ∧ ∃ replacement, holePattern fences (found ++ rest) = some (found.length, replacement) ∧
      (replacement ∈ fences ∨ replacement = []) := by
  obtain ⟨index, rfl⟩ := is_hole
  refine ⟨List.cons_ne_nil _ _, fences.getD index [], ?_, ?_⟩
  · have text : hole index ++ rest = '\x00' :: (Nat.toDigits 10 index ++ '\x00' :: rest) := by simp [hole]
    have digits : (Nat.toDigits 10 index ++ '\x00' :: rest).takeWhile Char.isDigit = Nat.toDigits 10 index := by
      rw [List.takeWhile_append_of_pos (hole_digits index)]
      exact List.append_nil _
    have behind : (Nat.toDigits 10 index ++ '\x00' :: rest).dropWhile Char.isDigit = '\x00' :: rest := by
      rw [List.dropWhile_append_of_pos (hole_digits index)]
      rfl
    obtain ⟨first, more, is_cons⟩ := List.exists_cons_of_ne_nil (Nat.toDigits_ne_nil (n := index) (b := 10))
    rw [text, holePattern, digits, behind]
    have value : Nat.ofDigitChars 10 (first :: more) 0 = index := by
      rw [← is_cons]
      exact Nat.ofDigitChars_toDigits (by decide) (by decide)
    rw [is_cons, hole, is_cons]
    simp [value]
  · by_cases short : index < fences.length
    · rw [List.getD_eq_getElem _ _ short]
      exact .inl (List.getElem_mem _)
    · exact .inr (List.getD_eq_default _ _ (not_lt.mp short))

theorem holePattern_visible {fences : List Text} {c : Char} {rest : Text} (visible : IsVisible c) :
    holePattern fences (c :: rest) = none := by
  unfold holePattern
  split
  next same =>
    cases same
    cases visible
  · rfl

end Holes

section Parser

variable {py : Py} {s : ToText} {tag : String} {attrs : Attrs}

/-- Everything the parser holds that can be written is visible, holes apart. -/
structure HoldsVisible (s : ToText) : Prop where
  parts : ∀ part ∈ s.parts, Composed IsVisible IsHole part
  fences : ∀ fence ∈ s.fences, ∀ c ∈ fence, IsVisible c
  preBuf : ∀ c ∈ s.preBuf, IsVisible c
  preLang : ∀ c ∈ s.preLang, IsVisible c
  language : ∀ language ∈ s.language, ∀ c ∈ language, IsVisible c

/-- Written outside a fence. -/
theorem HoldsVisible.write {part : Text} (holds : HoldsVisible s) (composed : Composed IsVisible IsHole part) :
    ∀ other ∈ s.parts ++ [part], Composed IsVisible IsHole other := by
  intro other mem
  rcases List.mem_append.mp mem with listed | last
  · exact holds.parts other listed
  · exact List.mem_singleton.mp last ▸ composed

theorem HoldsVisible.put {text : String} (holds : HoldsVisible s)
    (all : text.toList.all (fun c => !isInvisible c) = true) : HoldsVisible (s.put text) :=
  ⟨holds.write (.of_ordinary (visible_literal all)), holds.fences, holds.preBuf, holds.preLang, holds.language⟩

theorem HoldsVisible.handleData {data : Text} (holds : HoldsVisible s) : HoldsVisible (s.handleData data) := by
  have visible : ∀ c ∈ (if s.math ≠ 0 ∧ s.pre = 0 then unphantom (clean data) else clean data), IsVisible c := by
    intro c mem
    split at mem
    · exact mem_stripInvisible (mem_of_mem_unphantom mem)
    · exact mem_stripInvisible mem
  unfold ToText.handleData
  dsimp only
  generalize ite (s.math ≠ 0 ∧ s.pre = 0) _ _ = text at visible ⊢
  split
  · exact holds
  · split
    · exact holds
    · unfold ToText.out
      split
      · refine ⟨holds.parts, holds.fences, fun c mem => ?_, holds.preLang, holds.language⟩
        exact (List.mem_append.mp mem).elim (holds.preBuf c) (visible c)
      · exact ⟨holds.write (.of_ordinary visible), holds.fences, holds.preBuf, holds.preLang, holds.language⟩

theorem HoldsVisible.fenceContent (holds : HoldsVisible s) : ∀ c ∈ s.fenceContent, IsVisible c := by
  have kept : ∀ content : Text, (∀ c ∈ content, IsVisible c) →
      ∀ c ∈ (if content ≠ [] ∧ content.getLast? ≠ some '\n' then content ++ ['\n'] else content), IsVisible c := by
    intro content visible c mem
    split at mem
    · rcases List.mem_append.mp mem with listed | last
      · exact visible c listed
      · exact List.mem_singleton.mp last ▸ visible_newline
    · exact visible c mem
  apply kept
  intro c mem
  split at mem
  · rcases mem_intercalate mem with newline | ⟨line, listed, mem⟩
    · exact List.mem_singleton.mp newline ▸ visible_newline
    · exact holds.preBuf c (mem_of_mem_splitOn (pictured_sublist.subset listed) mem)
  · split at mem
    · exact holds.preBuf c (mem_of_mem_unphantom mem)
    · exact holds.preBuf c mem

theorem HoldsVisible.endFence (holds : HoldsVisible s) : HoldsVisible s.endFence := by
  have ticks : ∀ n, ∀ c ∈ List.replicate n '`', IsVisible c := by
    intro n c mem
    rw [List.eq_of_mem_replicate mem]
    unfold IsVisible
    decide
  have newline : Composed IsVisible IsHole ['\n'] := .char visible_newline .nil
  refine ⟨holds.write ?_, ?_, fun _ mem => (nomatch mem), holds.preLang, holds.language⟩
  · have hole : Composed IsVisible IsHole (hole s.fences.length ++ []) := .mark ⟨_, rfl⟩ .nil
    rw [List.append_nil] at hole
    exact (newline.append hole).append newline
  · intro fence mem c mem_fence
    rcases List.mem_append.mp mem with listed | last
    · exact holds.fences fence listed c mem_fence
    · rw [List.mem_singleton.mp last] at mem_fence
      rcases List.mem_append.mp mem_fence with front | closing
      · rcases List.mem_append.mp front with front | content
        · rcases List.mem_append.mp front with front | newline
          · exact (List.mem_append.mp front).elim (ticks _ c) (holds.preLang c)
          · exact List.mem_singleton.mp newline ▸ visible_newline
        · exact holds.fenceContent c content
      · exact ticks _ c closing

/-- What a step leaves as it was. -/
theorem HoldsVisible.same {s' : ToText} (holds : HoldsVisible s) (parts : s'.parts = s.parts) (fences : s'.fences = s.fences)
    (preBuf : s'.preBuf = s.preBuf) (preLang : s'.preLang = s.preLang) (language : s'.language = s.language) :
    HoldsVisible s' := by
  constructor
  · rw [parts]
    exact holds.parts
  · rw [fences]
    exact holds.fences
  · rw [preBuf]
    exact holds.preBuf
  · rw [preLang]
    exact holds.preLang
  · rw [language]
    exact holds.language

theorem HoldsVisible.either {c : Prop} [Decidable c] {s t : ToText} (yes : HoldsVisible s) (no : HoldsVisible t) :
    HoldsVisible (if c then s else t) := by
  split
  · exact yes
  · exact no

theorem HoldsVisible.openTag (holds : HoldsVisible s) : HoldsVisible (s.openTag py tag attrs) := by
  unfold ToText.openTag
  apply HoldsVisible.either
  · exact holds.same rfl rfl rfl rfl rfl
  apply HoldsVisible.either
  · apply holds.put
    split <;> decide
  apply HoldsVisible.either
  · exact holds.same rfl rfl rfl rfl rfl
  apply HoldsVisible.either
  · exact holds.put (by decide)
  apply HoldsVisible.either
  · apply holds.put
    split <;> decide
  apply HoldsVisible.either
  · exact holds.put (by decide)
  apply HoldsVisible.either
  · have first : HoldsVisible { s with firstCell := true } := holds.same rfl rfl rfl rfl rfl
    exact first.put (by decide)
  apply HoldsVisible.either
  · have deeper : HoldsVisible { s with table := s.table + 1 } := holds.same rfl rfl rfl rfl rfl
    exact deeper.put (by decide)
  apply HoldsVisible.either
  · have entered : HoldsVisible { s with cell := s.cell + 1 } := holds.same rfl rfl rfl rfl rfl
    have begun : HoldsVisible (if s.firstCell then { s with cell := s.cell + 1 } else { s with cell := s.cell + 1 }.put " | ") :=
      entered.either (entered.put (by decide))
    exact begun.same rfl rfl rfl rfl rfl
  apply HoldsVisible.either
  · exact holds.put (by decide)
  · exact holds

theorem HoldsVisible.showStart (holds : HoldsVisible s) : HoldsVisible (s.showStart py tag attrs) := by
  unfold ToText.showStart
  dsimp only
  generalize is_named : ite (tag = "div") _ _ = s'
  have named : HoldsVisible s' := by
    rw [← is_named]
    split
    · split
      next language found =>
        refine ⟨holds.parts, holds.fences, holds.preBuf, holds.preLang, ?_⟩
        intro other same
        cases same
        exact visible_languageIn found
      · exact holds
    · exact holds
  split
  · -- a fence that begins takes its language from `lang` or from the class around it
    split
    · exact named.same rfl rfl rfl rfl rfl
    · refine ⟨named.parts, named.fences, named.preBuf, ?_, named.language⟩
      intro c mem
      dsimp only at mem
      split at mem
      next special =>
        have letters : ∀ language ∈ specialLanguages, ∀ c ∈ language, IsVisible c :=
          fun language mem => visible_literal (by
            have each : ∀ language ∈ specialLanguages, language.all (fun c => !isInvisible c) = true := by decide
            exact each language mem)
        cases is_lang : attrs.get "lang" with
        | none =>
          rw [is_lang] at special
          cases special
        | some lang =>
          rw [is_lang] at special mem
          exact letters lang (List.contains_iff_mem.mp special) c mem
      · cases is_language : s'.language with
        | none =>
          rw [is_language] at mem
          cases mem
        | some language =>
          rw [is_language] at mem
          exact named.language language is_language c mem
  · split
    · split
      · refine ⟨named.parts, named.fences, ?_, named.preLang, named.language⟩
        intro c mem
        rcases List.mem_append.mp mem with listed | last
        · exact named.preBuf c listed
        · exact List.mem_singleton.mp last ▸ visible_newline
      · exact named
    · exact named.openTag

theorem HoldsVisible.handleStarttag (holds : HoldsVisible s) : HoldsVisible (s.handleStarttag py tag attrs) := by
  have counted : HoldsVisible { s with small := s.small + 1 } := holds.same rfl rfl rfl rfl rfl
  unfold ToText.handleStarttag
  split
  · split
    · exact holds.same rfl rfl rfl rfl rfl
    · exact holds
  · split_ifs
    · exact holds.same rfl rfl rfl rfl rfl
    · exact holds
    · exact holds.same rfl rfl rfl rfl rfl
    · exact counted.showStart
    · exact holds.showStart

/-- A link is written with its text, in which there may be holes, and its target. -/
theorem HoldsVisible.closeLink (holds : HoldsVisible s) : HoldsVisible s.closeLink := by
  unfold ToText.closeLink
  split
  · exact holds
  next href start link is_link =>
    dsimp only
    split
    · refine ⟨?_, holds.fences, holds.preBuf, holds.preLang, holds.language⟩
      intro part mem
      rcases List.mem_append.mp mem with front | last
      · exact holds.parts part (List.mem_of_mem_take front)
      · rw [List.mem_singleton.mp last]
        have text : Composed IsVisible IsHole (s.parts.drop start).flatten :=
          .flatten fun part mem => holds.parts part (List.mem_of_mem_drop mem)
        have target : ∀ c ∈ (stripInvisible (href.getD [])).flatMap (fun c => if isSpace c then quoteChar c else [c]),
            IsVisible c := by
          intro c mem
          obtain ⟨d, listed, mem⟩ := List.mem_flatMap.mp mem
          split at mem
          · exact visible_quoteChar c mem
          · rw [List.mem_singleton.mp mem]
            exact mem_stripInvisible listed
        have opens : Composed IsVisible IsHole ['['] := .of_ordinary (visible_literal (by decide))
        have between : Composed IsVisible IsHole [']', '('] := .of_ordinary (visible_literal (by decide))
        have closes : Composed IsVisible IsHole [')'] := .of_ordinary (visible_literal (by decide))
        exact (((opens.append text).append between).append (.of_ordinary target)).append closes
    · exact holds.same rfl rfl rfl rfl rfl

theorem HoldsVisible.closeTag (holds : HoldsVisible s) : HoldsVisible (s.closeTag tag) := by
  have no_language : HoldsVisible { s with language := none } :=
    ⟨holds.parts, holds.fences, holds.preBuf, holds.preLang, fun _ mem => (nomatch mem)⟩
  have left : HoldsVisible { s with table := s.table - 1 } := holds.same rfl rfl rfl rfl rfl
  unfold ToText.closeTag
  split_ifs
  · exact holds.same rfl rfl rfl rfl rfl
  · exact holds.put (by decide)
  · exact holds.put (by decide)
  · exact holds.closeLink
  · exact left.put (by decide)
  · exact holds.same rfl rfl rfl rfl rfl
  · exact no_language.put (by decide)
  · exact holds.put (by decide)
  · exact holds

theorem HoldsVisible.showEnd (holds : HoldsVisible s) : HoldsVisible (s.showEnd tag) := by
  have left : HoldsVisible { s with pre := s.pre - 1 } := holds.same rfl rfl rfl rfl rfl
  unfold ToText.showEnd
  split_ifs
  · exact holds
  · dsimp only
    split
    · exact left.endFence
    · exact left
  · exact holds
  · exact holds.closeTag

theorem HoldsVisible.handleEndtag (holds : HoldsVisible s) : HoldsVisible (s.handleEndtag tag) := by
  have counted : HoldsVisible { s with small := s.small - 1 } := holds.same rfl rfl rfl rfl rfl
  unfold ToText.handleEndtag
  split
  · split
    · exact holds.same rfl rfl rfl rfl rfl
    · exact holds
  · split_ifs
    · exact holds.same rfl rfl rfl rfl rfl
    · exact holds
    · exact counted.showEnd
    · exact holds.showEnd

theorem HoldsVisible.handle {event : HtmlEvent} (holds : HoldsVisible s) : HoldsVisible (s.handle py event) := by
  cases event with
  | starttag tag attrs => exact holds.handleStarttag
  | endtag tag => exact holds.handleEndtag
  | startendtag tag attrs =>
    rw [ToText.handle]
    split
    · exact holds.handleStarttag
    · exact holds
  | data data => exact holds.handleData
  | comment data => exact holds

/-- After any events at all. -/
theorem HoldsVisible.feed {events : List HtmlEvent} (holds : HoldsVisible s) : HoldsVisible (s.feed py events) := by
  induction events generalizing s with
  | nil => exact holds
  | cons event rest ih => exact ih holds.handle

theorem HoldsVisible.close (holds : HoldsVisible s) : HoldsVisible s.close := by
  have shut : HoldsVisible { s with pre := 0 } := holds.same rfl rfl rfl rfl rfl
  unfold ToText.close
  split
  · exact shut.endFence
  · exact holds

theorem HoldsVisible.text (holds : HoldsVisible s) : ∀ c ∈ s.text, IsVisible c := by
  have newline : Composed IsVisible IsHole ['\n'] := .char visible_newline .nil
  have lines : ∀ line ∈ (s.parts.flatten.splitOn '\n').map (List.rdropWhile isSpace), Composed IsVisible IsHole line := by
    intro line mem
    obtain ⟨piece, listed, rfl⟩ := List.mem_map.mp mem
    have composed := (Composed.flatten holds.parts).splitOn (fun _ is_hole => hole_unseparated is_hole) piece listed
    exact composed.rdropWhile fun _ is_hole => hole_ends is_hole
  have collapsed : ∀ line ∈ ((s.parts.flatten.splitOn '\n').map (List.rdropWhile isSpace)).filter (· ≠ []),
      Composed IsVisible IsHole line := fun line mem => lines line (List.mem_filter.mp mem).1
  unfold ToText.text
  dsimp only
  generalize List.filter _ _ = kept at collapsed ⊢
  have whole : Composed IsVisible IsHole (['\n'].intercalate kept ++ if kept ≠ [] then ['\n'] else []) := by
    apply (newline.intercalate collapsed).append
    split
    · exact newline
    · exact .nil
  apply whole.substitute_ordinary
  · intro found rest is_hole
    obtain ⟨nonempty, replacement, is_match, filled⟩ := holePattern_hole is_hole
    refine ⟨nonempty, replacement, is_match, fun c mem => ?_⟩
    rcases filled with fence | rfl
    · exact holds.fences replacement fence c mem
    · cases mem
  · exact fun c rest visible => holePattern_visible visible

theorem visibleText_visible {events : List HtmlEvent} : ∀ c ∈ visibleText py events, IsVisible c := by
  have fresh : HoldsVisible {} :=
    ⟨fun _ mem => (nomatch mem), fun _ mem => (nomatch mem), fun _ mem => (nomatch mem), fun _ mem => (nomatch mem),
      fun _ mem => (nomatch mem)⟩
  exact (HoldsVisible.feed fresh).close.text

/-- Two pages that show the same are read as the same text, and no text that is read has a character that
prints as nothing. -/
theorem visibleText_of_shown (py : Py) :
    (∀ page other : HtmlForest, page.shown py false 0 = other.shown py false 0 →
      visibleText py page.events = visibleText py other.events) ∧
    ∀ events, stripInvisible (visibleText py events) = visibleText py events := by
  constructor
  · intro page other same
    rw [← visibleText_shown page, same, visibleText_shown]
  · exact fun events => stripInvisible_eq_self visibleText_visible

end Parser

section Example

/-- What is nested three levels deep in `sub`, behind a letter. -/
def deepIn (content : HtmlForest) : HtmlForest :=
  .text ['x'] (.element "sub" [] rfl (.element "sub" [] rfl (.element "sub" [] rfl content .nil) .nil) .nil)

/-- A link to `u` around a checkbox. -/
def checkedLink : HtmlForest :=
  .element "a" [("href", some ['u'])] rfl (.void "input" [("type", some "checkbox".toList)] rfl .nil) .nil

/-- The text of the deepest element is not read, nor is a comment. -/
theorem deep_text_is_not_read :
    visibleText Py.ascii (deepIn (.text ['y'] .nil)).events = visibleText Py.ascii (deepIn (.comment ['z'] .nil)).events :=
  (visibleText_of_shown Py.ascii).1 _ _ rfl

/-- A link and a checkbox there are: the two pages show the same, and the second one's target is handed over. -/
theorem deep_link_is_read :
    (deepIn .nil).shown Py.ascii true 0 = (deepIn checkedLink).shown Py.ascii true 0 ∧
      visibleText Py.ascii (deepIn .nil).events = "x\n".toList ∧
      visibleText Py.ascii (deepIn checkedLink).events = "x[[ ]](u)\n".toList :=
  ⟨rfl, by decide +kernel, by decide +kernel⟩

end Example
end Issuebot
