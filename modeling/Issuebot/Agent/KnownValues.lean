import Issuebot.Agent.Scrub

/-!
# Known values in scrubbed text

A scrub is a run of passes, one for each mask. A pass hides every whole word that is its own value,
but it can also hide the letter or digit beside a value that was part of a longer word, and leave
the value by itself (`LaysBare`). The text is free of the values whose passes have gone by after
every pass exactly where no pass does that (`every_pass_iff`).
-/

namespace Issuebot
set_option autoImplicit false
open Logic

/-- The value stands in the text with no letter or digit beside it. -/
def IsWholeWord (value text : PyStr) : Prop :=
  ∃ before after, text = before ++ (value ++ after) ∧ before.getLast?.any isAlnum = false ∧ after.head?.any isAlnum = false

/-- A letter or digit that a pass has kept. -/
def keepsAlnum : Piece PyChar → Bool
  | .kept c => isAlnum c
  | .hidden _ => false

/-- The pass leaves an occurrence of the value and hides the letters and digits beside it. -/
def LaysBare (mask : Mask PyChar) (text value : PyStr) : Prop :=
  ∃ front back, mask.pieces text = front ++ (value.map .kept ++ back) ∧
    ((front.flatMap Piece.source).getLast?.any isAlnum = true ∨ (back.flatMap Piece.source).head?.any isAlnum = true) ∧
    front.getLast?.any keepsAlnum = false ∧ back.head?.any keepsAlnum = false

section Pass

variable {mask : Mask PyChar} {text value : PyStr}

/-- The mask shows neither letters nor digits, and nothing of the value. -/
structure IsApart (mask : Mask PyChar) (value : PyStr) : Prop where
  shows : mask.shown ≠ []
  noAlnum : ∀ c ∈ mask.shown, isAlnum c = false
  apart : ∀ c ∈ value, c ∉ mask.shown

theorem last_under {pieces : List (Piece PyChar)} {shown : PyStr} (shows : shown ≠ []) (no_alnum : ∀ c ∈ shown, isAlnum c = false) :
    (pieces.flatMap (Piece.under shown)).getLast?.any isAlnum = pieces.getLast?.any keepsAlnum := by
  rcases List.eq_nil_or_concat' pieces with rfl | ⟨front, piece, rfl⟩
  · rfl
  · rw [List.getLast?_concat, List.flatMap_append, List.flatMap_singleton]
    cases piece with
    | kept c =>
      rw [Piece.under, List.getLast?_concat]
      rfl
    | hidden span =>
      rw [Piece.under, List.getLast?_append_of_ne_nil _ shows, List.getLast?_eq_some_getLast shows]
      exact no_alnum _ (List.getLast_mem shows)

theorem head_under {pieces : List (Piece PyChar)} {shown : PyStr} (shows : shown ≠ []) (no_alnum : ∀ c ∈ shown, isAlnum c = false) :
    (pieces.flatMap (Piece.under shown)).head?.any isAlnum = pieces.head?.any keepsAlnum := by
  cases pieces with
  | nil => rfl
  | cons piece back =>
    rw [List.flatMap_cons]
    cases piece with
    | kept c => rfl
    | hidden span =>
      obtain ⟨c, more, rfl⟩ := List.exists_cons_of_ne_nil shows
      exact no_alnum c List.mem_cons_self

/-- A value that is a whole word after a pass was kept by it, with no letter or digit kept beside it. -/
theorem isWholeWord_sub (apart : IsApart mask value) (nonempty : value ≠ []) :
    IsWholeWord value (mask.sub text) ↔ ∃ front back, mask.pieces text = front ++ (value.map .kept ++ back) ∧
      front.getLast?.any keepsAlnum = false ∧ back.head?.any keepsAlnum = false := by
  constructor
  · rintro ⟨before, after, split, no_before, no_after⟩
    obtain ⟨front, back, is_pieces, rfl, rfl⟩ := Mask.split_word apart.shows split nonempty apart.apart
    rw [last_under apart.shows apart.noAlnum] at no_before
    rw [head_under apart.shows apart.noAlnum] at no_after
    exact ⟨front, back, is_pieces, no_before, no_after⟩
  · rintro ⟨front, back, is_pieces, no_front, no_back⟩
    refine ⟨front.flatMap (Piece.under mask.shown), back.flatMap (Piece.under mask.shown), ?_, ?_, ?_⟩
    · have kept : (value.map Piece.kept).flatMap (Piece.under mask.shown) = value := by
        rw [List.flatMap_map]
        exact List.flatMap_singleton' value
      rw [Mask.sub, is_pieces, List.flatMap_append, List.flatMap_append, kept]
    · rw [last_under apart.shows apart.noAlnum, no_front]
    · rw [head_under apart.shows apart.noAlnum, no_back]

/-- The text a pass looks at, around a value it keeps. -/
theorem source_around {front back : List (Piece PyChar)} (is_pieces : mask.pieces text = front ++ (value.map .kept ++ back)) :
    text = front.flatMap Piece.source ++ (value ++ back.flatMap Piece.source) := by
  have kept : (value.map Piece.kept).flatMap Piece.source = value := by
    rw [List.flatMap_map]
    exact List.flatMap_singleton' value
  rw [← Mask.pieces_source mask text, is_pieces, List.flatMap_append, List.flatMap_append, kept]

/-- A pass after which a value is a whole word, as it was not before, has laid it bare. -/
theorem isWholeWord_sub_iff (apart : IsApart mask value) (nonempty : value ≠ [])
    (part : ∀ front back, mask.pieces text = front ++ (value.map .kept ++ back) →
      (front.flatMap Piece.source).getLast?.any isAlnum = true ∨ (back.flatMap Piece.source).head?.any isAlnum = true) :
    IsWholeWord value (mask.sub text) ↔ LaysBare mask text value := by
  rw [isWholeWord_sub apart nonempty]
  constructor
  · rintro ⟨front, back, is_pieces, no_front, no_back⟩
    exact ⟨front, back, is_pieces, part front back is_pieces, no_front, no_back⟩
  · rintro ⟨front, back, is_pieces, -, no_front, no_back⟩
    exact ⟨front, back, is_pieces, no_front, no_back⟩

theorem part_of_clean (clean : ¬ IsWholeWord value text) {front back : List (Piece PyChar)}
    (is_pieces : mask.pieces text = front ++ (value.map .kept ++ back)) :
    (front.flatMap Piece.source).getLast?.any isAlnum = true ∨ (back.flatMap Piece.source).head?.any isAlnum = true := by
  by_contra alone
  obtain ⟨no_front, no_back⟩ := not_or.mp alone
  exact clean ⟨_, _, source_around is_pieces, Bool.not_eq_true _ ▸ no_front, Bool.not_eq_true _ ▸ no_back⟩

end Pass

section OwnPass

variable {text value : PyStr}

theorem wordLength_self (value rest : PyStr) :
    Scan.wordLength (value.map fun c d => decide (d = c)) (value ++ rest) = some value.length := by
  induction value with
  | nil => rfl
  | cons c value ih =>
    rw [List.map_cons, List.cons_append, Scan.wordLength, decide_eq_true rfl, if_pos rfl, ih]
    rfl

/-- A value's pass finds it wherever it is a whole word. -/
theorem secretMask_find {prev : Option PyChar} {rest : PyStr} (nonempty : value ≠ []) (starts : prev.any isAlnum = false)
    (ends : rest.head?.any isAlnum = false) : (secretMask value).find prev (value ++ rest) ≠ none := by
  have some_length : 0 < value.length := List.length_pos_iff.mpr nonempty
  have word : ((Scan.word (value.map fun c d => decide (d = c))).before fun next => !next.any isAlnum).run (value ++ rest) =
      some value.length := by
    show ((Scan.wordLength _ (value ++ rest)).filter fun length => !((value ++ rest).drop length).head?.any isAlnum) = _
    rw [wordLength_self, Option.filter_some, List.drop_left, ends]
    rfl
  simp only [secretMask, Mask.ofParts, starts, Bool.not_false, if_true, Scan.nothing, Option.bind_some, List.drop_zero, word,
    some_length]
  exact Option.some_ne_none _

/-- It keeps nothing of what it finds. -/
theorem secretMask_whole (prev : Option PyChar) (text : PyStr) (span : Span)
    (found : (secretMask value).find prev text = some span) : span.front = 0 ∧ span.back = 0 := by
  simp only [secretMask, Mask.ofParts, Scan.nothing, Option.bind_some] at found
  obtain ⟨-, found⟩ := Option.ite_none_right_eq_some.mp found
  obtain ⟨b, -, found⟩ := Option.bind_eq_some_iff.mp found
  obtain ⟨-, same⟩ := Option.ite_none_right_eq_some.mp found
  obtain rfl := Option.some.inj same
  exact ⟨rfl, rfl⟩

/-- What a value's own pass leaves of it is part of a longer word. -/
theorem part_of_ownPass (nonempty : value ≠ []) {front back : List (Piece PyChar)}
    (is_pieces : (secretMask value).pieces text = front ++ (value.map .kept ++ back)) :
    (front.flatMap Piece.source).getLast?.any isAlnum = true ∨ (back.flatMap Piece.source).head?.any isAlnum = true := by
  by_contra alone
  obtain ⟨no_front, no_back⟩ := not_or.mp alone
  rw [Bool.not_eq_true] at no_front no_back
  obtain ⟨c, rest, rfl⟩ := List.exists_cons_of_ne_nil nonempty
  have not_found : (secretMask (c :: rest)).find ((front.flatMap Piece.source).getLast?.or none)
      (c :: (rest.map Piece.kept ++ back).flatMap Piece.source) = none := Mask.find_of_kept secretMask_whole is_pieces
  have source : (rest.map Piece.kept ++ back).flatMap Piece.source = rest ++ back.flatMap Piece.source := by
    rw [List.flatMap_append, List.flatMap_map]
    exact congrArg (· ++ _) (List.flatMap_singleton' rest)
  rw [Option.or_none, source] at not_found
  exact secretMask_find nonempty no_front no_back not_found

end OwnPass

section Spellings

variable {value : PyStr}

/-- Neither an asterisk nor a tilde. -/
def IsUnmasked (value : PyStr) : Prop := .scalar '*' ∉ value ∧ .scalar '~' ∉ value

theorem unicodeEscape_unmasked (n : Nat) : IsUnmasked (unicodeEscape n) := by
  have digits : ∀ k < 16, hexDigit k ≠ '*' ∧ hexDigit k ≠ '~' := by decide
  have each : ∀ c ∈ unicodeEscape n, c ≠ .scalar '*' ∧ c ≠ .scalar '~' := by
    intro c mem
    obtain ⟨d, listed, rfl⟩ := List.mem_map.mp mem
    have plain : d ≠ '*' ∧ d ≠ '~' := by
      rcases List.mem_cons.mp listed with rfl | listed
      · decide
      · rcases List.mem_cons.mp listed with rfl | listed
        · decide
        · obtain ⟨unit, -, rfl⟩ := List.mem_map.mp listed
          exact digits _ (Nat.mod_lt _ (by decide))
    exact ⟨fun same => plain.1 (PyChar.scalar.inj same), fun same => plain.2 (PyChar.scalar.inj same)⟩
  exact ⟨fun mem => (each _ mem).1 rfl, fun mem => (each _ mem).2 rfl⟩

theorem jsonChar_unmasked {c : PyChar} (unmasked : IsUnmasked [c]) : IsUnmasked (jsonChar c) := by
  have escapes : ∀ escape ∈ ["\\\"", "\\\\", "\\n", "\\r", "\\t", "\\f", "\\b"], IsUnmasked (PyStr.ofString escape) := by
    unfold IsUnmasked
    decide
  dsimp only [jsonChar]
  split
  · exact escapes _ (by decide)
  · split
    · exact escapes _ (by decide)
    · split
      · exact escapes _ (by decide)
      · split
        · exact escapes _ (by decide)
        · split
          · exact escapes _ (by decide)
          · split
            · exact escapes _ (by decide)
            · split
              · exact escapes _ (by decide)
              · split
                · exact unmasked
                · split
                  · exact unicodeEscape_unmasked _
                  · have first := unicodeEscape_unmasked (0xD800 + (c.code - 0x10000) / 0x400)
                    have second := unicodeEscape_unmasked (0xDC00 + (c.code - 0x10000) % 0x400)
                    constructor
                    · intro mem
                      rcases List.mem_append.mp mem with mem | mem
                      · exact first.1 mem
                      · exact second.1 mem
                    · intro mem
                      rcases List.mem_append.mp mem with mem | mem
                      · exact first.2 mem
                      · exact second.2 mem

/-- JSON spells a value without asterisks and tildes with neither. -/
theorem jsonSpelling_unmasked (unmasked : IsUnmasked value) : IsUnmasked (jsonSpelling value) := by
  have each : ∀ c ∈ value, IsUnmasked (jsonChar c) := by
    intro c mem
    apply jsonChar_unmasked
    constructor
    · intro same
      exact unmasked.1 (List.mem_singleton.mp same ▸ mem)
    · intro same
      exact unmasked.2 (List.mem_singleton.mp same ▸ mem)
  constructor
  · intro mem
    obtain ⟨c, listed, mem⟩ := List.mem_flatMap.mp mem
    exact (each c listed).1 mem
  · intro mem
    obtain ⟨c, listed, mem⟩ := List.mem_flatMap.mp mem
    exact (each c listed).2 mem

theorem jsonChar_ne_nil (c : PyChar) : jsonChar c ≠ [] := by
  dsimp only [jsonChar]
  repeat' split
  all_goals exact List.cons_ne_nil _ _

end Spellings

namespace Scrubber

variable {isWord : Char → Bool} {scrubber : Scrubber} {text value : PyStr}

/-- A pass, and the value it is for. -/
abbrev Pass := Option PyStr × Mask PyChar

variable (isWord) in
/-- The passes of a scrub, in order. -/
def passes (scrubber : Scrubber) : List Pass :=
  (scrubber.spellings.map fun s => (some s, secretMask s)) ++
    ((shapes isWord ++ homeMasks scrubber.directory).map fun mask => (none, mask))

/-- The text after the passes. -/
def after (done : List Pass) (text : PyStr) : PyStr := done.foldl (fun text pass => pass.2.sub text) text

theorem after_passes : after (scrubber.passes isWord) text = scrubber.scrub isWord text := by
  have masks : (scrubber.passes isWord).map Prod.snd = scrubber.masks isWord := by
    rw [passes, List.map_append, List.map_map, List.map_map, masks, List.append_assoc]
    exact congrArg (_ ++ ·) (List.map_id _)
  rw [scrub, ← masks, List.foldl_map]
  rfl

/-- The values known contain neither of the masks' characters. -/
def IsPlain (scrubber : Scrubber) : Prop := ∀ value ∈ scrubber.known, IsUnmasked value

theorem IsPlain.spelling (plain : scrubber.IsPlain) (mem : value ∈ scrubber.spellings) : IsUnmasked value ∧ value ≠ [] := by
  obtain ⟨known, listed, usable, spelled⟩ := (scrubber.isSpelling value).mp mem
  have nonempty : known ≠ [] := by
    rintro rfl
    cases usable
  rcases spelled with rfl | rfl
  · exact ⟨plain _ listed, nonempty⟩
  · refine ⟨jsonSpelling_unmasked (plain _ listed), ?_⟩
    obtain ⟨c, rest, rfl⟩ := List.exists_cons_of_ne_nil nonempty
    exact List.append_ne_nil_of_left_ne_nil (jsonChar_ne_nil c) _

theorem IsPlain.apart (plain : scrubber.IsPlain) (mem : value ∈ scrubber.spellings) {mask : Mask PyChar}
    (listed : mask ∈ scrubber.masks isWord) : IsApart mask value where
  shows := shows listed
  noAlnum := by
    intro c shown
    rcases mem_shown listed shown with rfl | rfl
    · decide
    · decide
  apart := by
    intro c in_value shown
    have unmasked := (plain.spelling mem).1
    rcases mem_shown listed shown with rfl | rfl
    · exact unmasked.1 in_value
    · exact unmasked.2 in_value

/-- What the passes are. -/
theorem mem_passes {pass : Pass} (mem : pass ∈ scrubber.passes isWord) :
    pass.2 ∈ scrubber.masks isWord ∧ ∀ value, pass.1 = some value → value ∈ scrubber.spellings ∧ pass.2 = secretMask value := by
  rcases List.mem_append.mp mem with of_value | other
  · obtain ⟨s, listed, rfl⟩ := List.mem_map.mp of_value
    constructor
    · apply List.mem_append_left
      apply List.mem_append_left
      exact List.mem_map_of_mem listed
    · intro value same
      obtain rfl := Option.some.inj same
      exact ⟨listed, rfl⟩
  · obtain ⟨mask, listed, rfl⟩ := List.mem_map.mp other
    constructor
    · rw [masks, List.append_assoc]
      exact List.mem_append_right _ listed
    · intro value same
      cases same

theorem after_concat (done : List Pass) (pass : Pass) : after (done ++ [pass]) text = pass.2.sub (after done text) := by
  rw [after, List.foldl_append]
  rfl

/-- After every pass the text is free of the values whose passes have gone by exactly where no pass lays one bare. -/
theorem every_pass_iff (plain : scrubber.IsPlain) (text : PyStr) :
    (∀ done later, scrubber.passes isWord = done ++ later → ∀ value, some value ∈ done.map Prod.fst →
      ¬ IsWholeWord value (after done text)) ↔
    ∀ done pass later, scrubber.passes isWord = done ++ pass :: later → ∀ value, some value ∈ (done ++ [pass]).map Prod.fst →
      ¬ LaysBare pass.2 (after done text) value := by
  have spelled : ∀ done later, scrubber.passes isWord = done ++ later → ∀ value, some value ∈ done.map Prod.fst →
      value ∈ scrubber.spellings := by
    intro done later split value gone
    obtain ⟨pass, mem, same⟩ := List.mem_map.mp gone
    exact ((mem_passes (split ▸ List.mem_append_left _ mem)).2 value same).1
  constructor
  · intro clean done pass later split value gone bare
    have whole : scrubber.passes isWord = (done ++ [pass]) ++ later := by rw [split, List.append_assoc, List.singleton_append]
    have known := spelled _ _ whole value gone
    have listed : pass ∈ scrubber.passes isWord := split ▸ List.mem_append_right _ List.mem_cons_self
    have apart := plain.apart known (mem_passes listed).1
    obtain ⟨front, back, is_pieces, -, no_front, no_back⟩ := bare
    apply clean _ _ whole value gone
    rw [after_concat]
    exact (isWholeWord_sub apart (plain.spelling known).2).mpr ⟨front, back, is_pieces, no_front, no_back⟩
  · intro none_bare done
    induction done using List.reverseRecOn with
    | nil =>
      intro later _ value gone
      cases gone
    | append_singleton done pass ih =>
      intro later whole value gone
      have split : scrubber.passes isWord = done ++ pass :: later := by rw [whole, List.append_assoc, List.singleton_append]
      have known := spelled _ _ whole value gone
      have listed : pass ∈ scrubber.passes isWord := split ▸ List.mem_append_right _ List.mem_cons_self
      have nonempty := (plain.spelling known).2
      have part : ∀ front back, pass.2.pieces (after done text) = front ++ (value.map .kept ++ back) →
          (front.flatMap Piece.source).getLast?.any isAlnum = true ∨
            (back.flatMap Piece.source).head?.any isAlnum = true := by
        intro front back is_pieces
        rw [List.map_append, List.mem_append] at gone
        rcases gone with earlier | own
        · exact part_of_clean (ih (pass :: later) split value earlier) is_pieces
        · have same : pass.1 = some value := (List.mem_singleton.mp own).symm
          rw [((mem_passes listed).2 value same).2] at is_pieces
          exact part_of_ownPass nonempty is_pieces
      rw [after_concat, isWholeWord_sub_iff (plain.apart known (mem_passes listed).1) nonempty part]
      exact none_bare done pass later split value gone

/-- In a scrub none of whose passes lays a known value bare, no known value is a whole word of the scrubbed text, as
itself or as JSON spells it; and that no pass does is exactly that none is after any pass. -/
theorem scrub_hides_known_values (plain : scrubber.IsPlain) (text : PyStr) :
    let spared := ∀ done pass later, scrubber.passes isWord = done ++ pass :: later →
      ∀ value, some value ∈ (done ++ [pass]).map Prod.fst → ¬ LaysBare pass.2 (after done text) value
    ((∀ done later, scrubber.passes isWord = done ++ later → ∀ value, some value ∈ done.map Prod.fst →
      ¬ IsWholeWord value (after done text)) ↔ spared) ∧
    (spared → ∀ value ∈ scrubber.known, isUsable value = true →
      ¬ IsWholeWord value (scrubber.scrub isWord text) ∧ ¬ IsWholeWord (jsonSpelling value) (scrubber.scrub isWord text)) := by
  intro spared
  refine ⟨every_pass_iff plain text, fun none_bare value known usable => ?_⟩
  have clean := (every_pass_iff plain text).mpr none_bare (scrubber.passes isWord) [] (List.append_nil _).symm
  rw [after_passes] at clean
  have gone : ∀ s ∈ scrubber.spellings, some s ∈ (scrubber.passes isWord).map Prod.fst := by
    intro s mem
    rw [passes, List.map_append, List.map_map]
    exact List.mem_append_left _ (List.mem_map_of_mem mem)
  constructor
  · exact clean value (gone value ((scrubber.isSpelling value).mpr ⟨value, known, usable, .inl rfl⟩))
  · exact clean (jsonSpelling value) (gone _ ((scrubber.isSpelling _).mpr ⟨value, known, usable, .inr rfl⟩))

/-- A scrubber of one passphrase. -/
def onePassphrase : Scrubber := .of [PyStr.ofString "correct-horse"] none

theorem onePassphrase_hides :
    ¬ IsWholeWord (PyStr.ofString "correct-horse") (onePassphrase.scrub Char.isAlphanum (PyStr.ofString "correct-horse")) := by
  have plain : onePassphrase.IsPlain := by
    unfold IsPlain IsUnmasked
    decide +kernel
  have holds := @scrub_hides_known_values Char.isAlphanum onePassphrase plain (PyStr.ofString "correct-horse")
  refine (holds.2 (holds.1.mp ?_) _ List.mem_cons_self (by decide +kernel)).1
  intro done later split value gone whole
  -- the first pass leaves three asterisks, and the others leave them alone
  have short : ∀ n < 10, n ≠ 0 →
      (after ((onePassphrase.passes Char.isAlphanum).take n) (PyStr.ofString "correct-horse")).length < 4 := by decide +kernel
  have long : ∀ s ∈ onePassphrase.spellings, 4 ≤ s.length := by decide +kernel
  have some_done : done.length ≠ 0 := by
    intro none_done
    rw [List.length_eq_zero_iff.mp none_done] at gone
    cases gone
  have few : done.length < 10 := by
    have count : (onePassphrase.passes Char.isAlphanum).length = 9 := by decide +kernel
    rw [split, List.length_append] at count
    omega
  have is_done : (onePassphrase.passes Char.isAlphanum).take done.length = done := by rw [split, List.take_left]
  have left := short done.length few some_done
  rw [is_done] at left
  obtain ⟨pass, mem, same⟩ := List.mem_map.mp gone
  have known := ((mem_passes (split ▸ List.mem_append_left _ mem)).2 value same).1
  obtain ⟨before, behind, is_text, -⟩ := whole
  rw [is_text, List.length_append, List.length_append] at left
  have enough := long value known
  omega

end Scrubber

/-- A value that ends in a hyphen, and one that may stand behind it. -/
def hyphened : Scrubber := .of [PyStr.ofString "deploy-key-of-ops-", PyStr.ofString "correct-horse"] none

/-- The longer value's pass finds a letter behind it and leaves it; the shorter one's hides that letter. -/
theorem second_mask_bares_first_value :
    hyphened.IsPlain ∧ PyStr.ofString "deploy-key-of-ops-" ∈ hyphened.known ∧
      isUsable (PyStr.ofString "deploy-key-of-ops-") = true ∧
      IsWholeWord (PyStr.ofString "deploy-key-of-ops-")
        (hyphened.scrub Char.isAlphanum (PyStr.ofString "deploy-key-of-ops-correct-horse")) := by
  have scrubbed : hyphened.scrub Char.isAlphanum (PyStr.ofString "deploy-key-of-ops-correct-horse") =
      [] ++ (PyStr.ofString "deploy-key-of-ops-" ++ redacted) := by decide +kernel
  refine ⟨?_, List.mem_cons_self, by decide, ?_⟩
  · unfold Scrubber.IsPlain IsUnmasked
    decide +kernel
  · rw [scrubbed]
    exact ⟨[], redacted, rfl, rfl, rfl⟩

end Issuebot
