import Mathlib

/-!
# Masking what a search finds

A `Mask` is a regular expression with a fixed replacement: looking at the character before a place
and at the text from there on, it says how much it keeps, how much of what is behind that it hides,
and how much it keeps after that. The search goes from left to right and goes on behind a match.
`pieces` is a text as the search leaves it, and what a masked text shows is read off the pieces
(`split_shown`).
-/

namespace Issuebot.Logic
set_option autoImplicit false

/-- A match: how many characters it keeps, how many it hides, and how many it keeps behind them. -/
structure Span where
  front : Nat
  hidden : Nat
  back : Nat
  deriving DecidableEq, Repr

def Span.length (span : Span) : Nat := span.front + span.hidden + span.back

structure Mask (α : Type) where
  find : Option α → List α → Option Span
  shown : List α
  hides : ∀ {prev : Option α} {text : List α} {span : Span}, find prev text = some span → 0 < span.hidden
  within : ∀ {prev : Option α} {text : List α} {span : Span}, find prev text = some span → span.length ≤ text.length

/-- A stretch of a text under a mask. -/
inductive Piece (α : Type) where
  | kept (c : α)
  | hidden (span : List α)
  deriving DecidableEq, Repr

variable {α : Type}

/-- What was there. -/
def Piece.source : Piece α → List α
  | .kept c => [c]
  | .hidden span => span

/-- What is there under the mask. -/
def Piece.under (shown : List α) : Piece α → List α
  | .kept c => [c]
  | .hidden _ => shown

namespace Mask

/-- The pieces of a match at the head of a text. -/
def found (text : List α) (span : Span) : List (Piece α) :=
  (text.take span.front).map .kept ++
    .hidden ((text.drop span.front).take span.hidden) ::
      ((text.drop (span.front + span.hidden)).take span.back).map .kept

/-- The pieces of a text, `skip` characters of a match being still ahead. -/
def piecesFrom (m : Mask α) : Option α → Nat → List α → List (Piece α)
  | _, _, [] => []
  | _, skip + 1, c :: rest => m.piecesFrom (some c) skip rest
  | prev, 0, c :: rest =>
    match m.find prev (c :: rest) with
    | some span => found (c :: rest) span ++ m.piecesFrom (some c) (span.length - 1) rest
    | none => .kept c :: m.piecesFrom (some c) 0 rest

def pieces (m : Mask α) (text : List α) : List (Piece α) := m.piecesFrom none 0 text

/-- `pattern.sub(replacement, text)` -/
def sub (m : Mask α) (text : List α) : List α := (m.pieces text).flatMap (Piece.under m.shown)

/-- What a mask hides of a text. -/
def spans (m : Mask α) (text : List α) : List (List α) :=
  (m.pieces text).filterMap fun piece => match piece with | .kept _ => none | .hidden span => some span

variable {m : Mask α} {text : List α} {prev : Option α}

theorem found_source (span : Span) : (found text span).flatMap Piece.source = text.take span.length := by
  have kept : ∀ text : List α, (text.map Piece.kept).flatMap Piece.source = text := by
    intro text
    rw [List.flatMap_map]
    exact List.flatMap_singleton' text
  rw [found, List.flatMap_append, List.flatMap_cons, kept, kept, Piece.source, Span.length, List.take_add, List.take_add,
    List.append_assoc]

/-- The pieces are pieces of the text. -/
theorem piecesFrom_source (skip : Nat) : (m.piecesFrom prev skip text).flatMap Piece.source = text.drop skip := by
  induction text generalizing prev skip with
  | nil => simp [piecesFrom]
  | cons c rest ih =>
    cases skip with
    | succ skip => exact ih skip
    | zero =>
      rw [piecesFrom]
      split
      next span is_found =>
        have some_length : 0 < span.length := by
          have hides := m.hides is_found
          unfold Span.length
          omega
        obtain ⟨length, is_length⟩ := Nat.exists_eq_succ_of_ne_zero (Nat.ne_of_gt some_length)
        rw [List.flatMap_append, found_source, ih, is_length]
        exact congrArg (c :: ·) (List.take_append_drop length rest)
      · rw [List.flatMap_cons, ih]
        rfl

@[simp] theorem pieces_source (m : Mask α) (text : List α) : (m.pieces text).flatMap Piece.source = text :=
  piecesFrom_source 0

/-- Every character of a masked text was there before, or is the mask's. -/
theorem mem_sub {c : α} (mem : c ∈ m.sub text) : c ∈ text ∨ c ∈ m.shown := by
  obtain ⟨piece, listed, mem⟩ := List.mem_flatMap.mp mem
  cases piece with
  | kept d =>
    left
    rw [← pieces_source m text]
    exact List.mem_flatMap.mpr ⟨.kept d, listed, mem⟩
  | hidden span => exact .inr mem

theorem piecesFrom_hidden {skip : Nat} {span : List α} (mem : .hidden span ∈ m.piecesFrom prev skip text) : span ≠ [] := by
  induction text generalizing prev skip with
  | nil => cases mem
  | cons c rest ih =>
    cases skip with
    | succ skip => exact ih mem
    | zero =>
      rw [piecesFrom] at mem
      split at mem
      next found_span is_found =>
        rcases List.mem_append.mp mem with here | later
        · rcases List.mem_append.mp here with front | back
          · obtain ⟨_, _, same⟩ := List.mem_map.mp front
            cases same
          · rcases List.mem_cons.mp back with same | back
            · obtain rfl := Piece.hidden.inj same
              have hides := m.hides is_found
              have within := m.within is_found
              unfold Span.length at within
              apply List.ne_nil_of_length_pos
              rw [List.length_take, List.length_drop]
              omega
            · obtain ⟨_, _, same⟩ := List.mem_map.mp back
              cases same
        · exact ih later
      · rcases List.mem_cons.mp mem with same | later
        · cases same
        · exact ih later

/-- What a mask hides is not empty. -/
theorem hidden_nonempty {span : List α} (mem : .hidden span ∈ m.pieces text) : span ≠ [] := piecesFrom_hidden mem

/-- Every piece shows something, if the mask does. -/
theorem no_pieces {pieces : List (Piece α)} {shown : List α} (shows : shown ≠ [])
    (empty : pieces.flatMap (Piece.under shown) = []) : pieces = [] := by
  cases pieces with
  | nil => rfl
  | cons piece rest =>
    rw [List.flatMap_cons, List.append_eq_nil_iff] at empty
    cases piece with
    | kept c => exact absurd empty.1 (List.cons_ne_nil c [])
    | hidden span => exact absurd empty.1 shows

/-- A masked text is empty only where the text was, if the mask is not. -/
theorem sub_ne_nil (shows : m.shown ≠ []) (nonempty : text ≠ []) : m.sub text ≠ [] := by
  intro empty
  have source := pieces_source m text
  rw [no_pieces shows empty] at source
  exact nonempty source.symm

/-- A masked text begins as the text did, or with the mask. -/
theorem head_sub {c : α} (shows : m.shown ≠ []) (head : (m.sub text).head? = some c) : text.head? = some c ∨ c ∈ m.shown := by
  have source := pieces_source m text
  rw [sub] at head
  cases is_pieces : m.pieces text with
  | nil =>
    rw [is_pieces] at head
    cases head
  | cons piece rest =>
    rw [is_pieces, List.flatMap_cons] at head source
    cases piece with
    | kept d =>
      left
      rw [← source]
      exact head
    | hidden span =>
      right
      obtain ⟨d, more, is_shown⟩ := List.exists_cons_of_ne_nil shows
      rw [Piece.under, is_shown] at head
      obtain rfl := Option.some.inj head
      rw [is_shown]
      exact List.mem_cons_self

/-- It ends so as well. -/
theorem getLast_sub {c : α} (shows : m.shown ≠ []) (last : (m.sub text).getLast? = some c) :
    text.getLast? = some c ∨ c ∈ m.shown := by
  have source := pieces_source m text
  rw [sub] at last
  rcases List.eq_nil_or_concat' (m.pieces text) with is_nil | ⟨rest, piece, is_pieces⟩
  · rw [is_nil] at last
    cases last
  · rw [is_pieces, List.flatMap_append, List.flatMap_cons, List.flatMap_nil, List.append_nil] at last source
    cases piece with
    | kept d =>
      left
      rw [Piece.under, List.getLast?_concat] at last
      rw [← source, Piece.source, List.getLast?_concat, last]
    | hidden span =>
      right
      rw [Piece.under, List.getLast?_append_of_ne_nil _ shows] at last
      exact List.mem_of_getLast? last

/-- What a search has passed over is behind it. -/
theorem piecesFrom_skip {skip : Nat} (within : skip ≤ text.length) :
    m.piecesFrom prev skip text = m.piecesFrom ((text.take skip).getLast?.or prev) 0 (text.drop skip) := by
  induction skip generalizing prev text with
  | zero => rfl
  | succ skip ih =>
    cases text with
    | nil => cases within
    | cons c rest =>
      have last : ((c :: rest).take (skip + 1)).getLast?.or prev = ((rest.take skip).getLast?).or (some c) := by
        rw [List.take_succ_cons, List.getLast?_cons]
        cases (rest.take skip).getLast? with
        | none => rfl
        | some d => rfl
      rw [piecesFrom, ih (Nat.le_of_succ_le_succ within), last]
      rfl

/-- Where a mask that keeps nothing of its matches has kept a character, its expression does not match. -/
theorem find_of_kept (whole : ∀ prev text span, m.find prev text = some span → span.front = 0 ∧ span.back = 0)
    {front back : List (Piece α)} {c : α} (kept : m.piecesFrom prev 0 text = front ++ .kept c :: back) :
    m.find ((front.flatMap Piece.source).getLast?.or prev) (c :: back.flatMap Piece.source) = none := by
  induction length : text.length using Nat.strong_induction_on generalizing prev text front with
  | _ length ih =>
    subst length
    cases text with
    | nil =>
      rw [piecesFrom] at kept
      exact absurd kept.symm (by simp)
    | cons d rest =>
      rw [piecesFrom] at kept
      split at kept
      next span is_found =>
        obtain ⟨no_front, no_back⟩ := whole _ _ _ is_found
        have within := m.within is_found
        rw [Span.length, no_front, no_back, List.length_cons] at within
        rw [found, no_front, no_back, List.take_zero, List.take_zero, List.map_nil, List.nil_append, List.singleton_append] at kept
        cases front with
        | nil =>
          rw [List.nil_append] at kept
          cases (List.cons.inj kept).1
        | cons piece front =>
          rw [List.cons_append] at kept
          obtain ⟨rfl, later⟩ := List.cons.inj kept
          have some_hidden := m.hides is_found
          have shorter : span.length - 1 ≤ rest.length := by
            unfold Span.length
            omega
          have is_length : span.length = span.hidden := by
            unfold Span.length
            omega
          rw [piecesFrom_skip shorter] at later
          have here := ih (rest.drop (span.length - 1)).length (by rw [List.length_drop, List.length_cons]; omega) later rfl
          have last : ((d :: rest).take span.hidden).getLast? = ((rest.take (span.length - 1)).getLast?).or (some d) := by
            obtain ⟨n, is_n⟩ := Nat.exists_eq_succ_of_ne_zero (Nat.ne_of_gt some_hidden)
            rw [is_length, is_n, List.take_succ_cons, List.getLast?_cons, Nat.succ_sub_one]
            cases (rest.take n).getLast? with
            | none => rfl
            | some e => rfl
          rw [← last] at here
          rw [List.flatMap_cons, Piece.source, List.drop_zero]
          cases later_last : (front.flatMap Piece.source).getLast? with
          | some e =>
            rw [later_last] at here
            rw [List.getLast?_append, later_last]
            exact here
          | none =>
            rw [later_last] at here
            rw [List.getLast?_append, later_last, Option.none_or]
            cases is_last : ((d :: rest).take span.hidden).getLast? with
            | some e =>
              rw [is_last] at here
              exact here
            | none =>
              rw [is_last] at last
              cases inner : (rest.take (span.length - 1)).getLast? with
              | none =>
                rw [inner] at last
                cases last
              | some e =>
                rw [inner] at last
                cases last
      next not_found =>
        cases front with
        | nil =>
          obtain ⟨same, is_back⟩ := List.cons.inj kept
          obtain rfl := Piece.kept.inj same
          rw [← is_back, piecesFrom_source]
          exact not_found
        | cons piece front =>
          rw [List.cons_append] at kept
          obtain ⟨rfl, later⟩ := List.cons.inj kept
          have here := ih rest.length (Nat.lt_succ_self _) later rfl
          rw [List.flatMap_cons, Piece.source, List.singleton_append, List.getLast?_cons]
          cases later_last : (front.flatMap Piece.source).getLast? with
          | some e =>
            rw [later_last] at here
            exact here
          | none =>
            rw [later_last] at here
            exact here

section Growth

/-- How much longer a text gets. -/
def growth (m : Mask α) (text : List α) : Int := ((m.spans text).map fun span => (m.shown.length : Int) - span.length).sum

/-- A masked text is as much longer as its masks are longer than what they hide. -/
theorem length_sub : ((m.sub text).length : Int) = text.length + m.growth text := by
  have each : ∀ pieces : List (Piece α), ((pieces.flatMap (Piece.under m.shown)).length : Int) =
      (pieces.flatMap Piece.source).length +
        ((pieces.filterMap fun piece => match piece with | .kept _ => none | .hidden span => some span).map
          fun span => (m.shown.length : Int) - span.length).sum := by
    intro pieces
    induction pieces with
    | nil => rfl
    | cons piece rest ih =>
      rw [List.flatMap_cons, List.flatMap_cons, List.length_append, List.length_append, Int.natCast_add, ih]
      cases piece with
      | kept c =>
        simp only [Piece.under, Piece.source, List.filterMap_cons, List.length_singleton]
        omega
      | hidden span =>
        simp only [Piece.under, Piece.source, List.filterMap_cons, List.map_cons, List.sum_cons]
        omega
  rw [sub, each, pieces_source]
  rfl

end Growth

section Shown

variable {pieces : List (Piece α)} {shown before after word : List α} {c : α}

/-- A character under a mask that is not the mask's is one that was kept. -/
theorem split_shown (split : pieces.flatMap (Piece.under shown) = before ++ c :: after) (not_shown : c ∉ shown) :
    ∃ front back, pieces = front ++ .kept c :: back ∧ front.flatMap (Piece.under shown) = before ∧
      back.flatMap (Piece.under shown) = after := by
  induction pieces generalizing before with
  | nil => simp at split
  | cons piece rest ih =>
    rw [List.flatMap_cons] at split
    rcases List.append_eq_append_iff.mp split with ⟨more, is_before, later⟩ | ⟨more, is_piece, later⟩
    · obtain ⟨front, back, rfl, is_front, is_back⟩ := ih later
      refine ⟨piece :: front, back, rfl, ?_, is_back⟩
      rw [List.flatMap_cons, is_front, is_before]
    · cases more with
      | nil =>
        obtain ⟨front, back, rfl, is_front, is_back⟩ := @ih [] later.symm
        refine ⟨piece :: front, back, rfl, ?_, is_back⟩
        rw [List.flatMap_cons, is_front, is_piece, List.append_nil, List.append_nil]
      | cons d more =>
        obtain ⟨rfl, is_after⟩ := List.cons.inj later
        cases piece with
        | kept d =>
          cases before with
          | nil =>
            obtain ⟨rfl, rfl⟩ := List.cons.inj is_piece
            exact ⟨[], rest, rfl, rfl, is_after.symm⟩
          | cons e before =>
            have nothing := (List.cons.inj is_piece).2
            exact absurd nothing.symm (by simp)
        | hidden span =>
          have listed : c ∈ shown := by
            rw [show shown = before ++ c :: more from is_piece]
            simp
          exact absurd listed not_shown

/-- A word under a mask that has nothing of the mask was kept. -/
theorem split_word (shows : shown ≠ []) (split : pieces.flatMap (Piece.under shown) = before ++ (word ++ after))
    (nonempty : word ≠ []) (none_shown : ∀ c ∈ word, c ∉ shown) :
    ∃ front back, pieces = front ++ (word.map .kept ++ back) ∧ front.flatMap (Piece.under shown) = before ∧
      back.flatMap (Piece.under shown) = after := by
  induction word generalizing pieces before with
  | nil => exact absurd rfl nonempty
  | cons c word ih =>
    obtain ⟨front, back, rfl, is_front, is_back⟩ := split_shown split (none_shown c List.mem_cons_self)
    cases word with
    | nil => exact ⟨front, back, rfl, is_front, is_back⟩
    | cons d word =>
      have at_head : back.flatMap (Piece.under shown) = [] ++ ((d :: word) ++ after) := is_back
      obtain ⟨front', back', rfl, is_front', is_back'⟩ :=
        ih at_head (List.cons_ne_nil d word) fun c mem => none_shown c (List.mem_cons_of_mem _ mem)
      obtain rfl := no_pieces shows is_front'
      exact ⟨front, back', rfl, is_front, is_back'⟩

end Shown

end Mask

/-- What a part of an expression matches at the head of a text: how many characters. -/
structure Scan (α : Type) where
  run : List α → Option Nat
  within : ∀ {text : List α} {length : Nat}, run text = some length → length ≤ text.length

namespace Scan

/-- Nothing. -/
def nothing : Scan α where
  run _ := some 0
  within matched := by
    obtain rfl := Option.some.inj matched
    exact Nat.zero_le _

/-- How long the word is, if the text begins with it. -/
def wordLength : List (α → Bool) → List α → Option Nat
  | [], _ => some 0
  | letter :: letters, c :: text => if letter c then (wordLength letters text).map (· + 1) else none
  | _ :: _, [] => none

theorem wordLength_within {letters : List (α → Bool)} {text : List α} {length : Nat}
    (matched : wordLength letters text = some length) : length ≤ text.length := by
  induction letters generalizing text length with
  | nil =>
    rw [wordLength] at matched
    obtain rfl := Option.some.inj matched
    exact Nat.zero_le _
  | cons letter letters ih =>
    cases text with
    | nil => cases matched
    | cons c text =>
      rw [wordLength] at matched
      split at matched
      · obtain ⟨rest, is_rest, rfl⟩ := Option.map_eq_some_iff.mp matched
        exact Nat.succ_le_succ (ih is_rest)
      · cases matched

/-- One character for each letter. -/
def word (letters : List (α → Bool)) : Scan α := ⟨wordLength letters, wordLength_within⟩

/-- As many characters as there are in a row that `p` holds of, at least `least`. -/
def many (p : α → Bool) (least : Nat) : Scan α where
  run text := if least ≤ (text.takeWhile p).length then some (text.takeWhile p).length else none
  within matched := by
    obtain ⟨-, same⟩ := Option.ite_none_right_eq_some.mp matched
    obtain rfl := Option.some.inj same
    exact (List.takeWhile_prefix p).length_le

/-- One part behind another. -/
def andThen (first second : Scan α) : Scan α where
  run text := (first.run text).bind fun length => (second.run (text.drop length)).map (length + ·)
  within matched := by
    obtain ⟨length, is_first, later⟩ := Option.bind_eq_some_iff.mp matched
    obtain ⟨more, is_second, rfl⟩ := Option.map_eq_some_iff.mp later
    have before := first.within is_first
    have behind := second.within is_second
    rw [List.length_drop] at behind
    omega

/-- The first part, or else the second. -/
def orElse (first second : Scan α) : Scan α where
  run text := (first.run text).or (second.run text)
  within matched := by
    rcases Option.or_eq_some_iff.mp matched with is_first | ⟨-, is_second⟩
    · exact first.within is_first
    · exact second.within is_second

/-- The part, where what it matches is as `p` says. -/
def only (scan : Scan α) (p : List α → Bool) : Scan α where
  run text := (scan.run text).filter fun length => p (text.take length)
  within matched := scan.within (Option.filter_eq_some_iff.mp matched).1

/-- The part, where what is behind it is as `p` says. -/
def before (scan : Scan α) (p : Option α → Bool) : Scan α where
  run text := (scan.run text).filter fun length => p (text.drop length).head?
  within matched := scan.within (Option.filter_eq_some_iff.mp matched).1

end Scan

namespace Mask

/-- The mask of an expression in three parts, `starts` saying which character can be before it. -/
def ofParts (shown : List α) (starts : Option α → Bool) (front hidden back : Scan α) : Mask α where
  find prev text :=
    if starts prev then
      (front.run text).bind fun a => (hidden.run (text.drop a)).bind fun b =>
        (back.run (text.drop (a + b))).bind fun c => if 0 < b then some ⟨a, b, c⟩ else none
    else none
  shown
  hides matched := by
    obtain ⟨-, matched⟩ := Option.ite_none_right_eq_some.mp matched
    obtain ⟨a, -, matched⟩ := Option.bind_eq_some_iff.mp matched
    obtain ⟨b, -, matched⟩ := Option.bind_eq_some_iff.mp matched
    obtain ⟨c, -, matched⟩ := Option.bind_eq_some_iff.mp matched
    obtain ⟨some_hidden, same⟩ := Option.ite_none_right_eq_some.mp matched
    obtain rfl := Option.some.inj same
    exact some_hidden
  within matched := by
    obtain ⟨-, matched⟩ := Option.ite_none_right_eq_some.mp matched
    obtain ⟨a, is_front, matched⟩ := Option.bind_eq_some_iff.mp matched
    obtain ⟨b, is_hidden, matched⟩ := Option.bind_eq_some_iff.mp matched
    obtain ⟨c, is_back, matched⟩ := Option.bind_eq_some_iff.mp matched
    obtain ⟨-, same⟩ := Option.ite_none_right_eq_some.mp matched
    obtain rfl := Option.some.inj same
    have first := front.within is_front
    have second := hidden.within is_hidden
    have third := back.within is_back
    rw [List.length_drop] at second third
    unfold Span.length
    dsimp only
    omega

end Mask
end Issuebot.Logic
