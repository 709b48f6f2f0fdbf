import Mathlib.Data.List.DropRight

/-!
# Texts as lists of characters

`substitute pattern` is what a regular expression's `sub` does: the pattern looks at the text from
each place on and says how long its match there is and what stands in its stead, and the search
goes on behind a match. `Composed` is a text built of ordinary characters and of marks, in which a
substitution that takes out exactly the marks leaves nothing but ordinary characters
(`Composed.substitute_ordinary`).
-/

namespace Issuebot.Logic
set_option autoImplicit false

abbrev Text := List Char

/-- A match at the head of a text: its length, which is not 0, and its replacement. -/
abbrev Pattern := Text → Option (Nat × Text)

/-- The text with every match replaced; `skip` characters of a match are still ahead. -/
def substituteFrom (pattern : Pattern) : Nat → Text → Text
  | _, [] => []
  | skip + 1, _ :: rest => substituteFrom pattern skip rest
  | 0, c :: rest =>
    match pattern (c :: rest) with
    | some (length, replacement) => replacement ++ substituteFrom pattern (length - 1) rest
    | none => c :: substituteFrom pattern 0 rest

/-- `pattern.sub` -/
def substitute (pattern : Pattern) (text : Text) : Text := substituteFrom pattern 0 text

/-- What `find` finds from the left, a match being its length, which is not 0, and what it says; `skip`
characters of a match are still ahead. -/
def findFrom {α : Type} (find : Text → Option (Nat × α)) : Nat → Text → List α
  | _, [] => []
  | skip + 1, _ :: rest => findFrom find skip rest
  | 0, c :: rest =>
    match find (c :: rest) with
    | some (length, found) => found :: findFrom find (length - 1) rest
    | none => findFrom find 0 rest

/-- `pattern.finditer` -/
def findAll {α : Type} (find : Text → Option (Nat × α)) (text : Text) : List α := findFrom find 0 text

/-- The words between the characters that `space` holds of. -/
def words (space : Char → Bool) (text : Text) : List Text := (text.splitOnP space).filter (· ≠ [])

/-- What a join has of characters is a separator's or a piece's. -/
theorem mem_intercalate {c : Char} {separator : Text} {pieces : List Text} (mem : c ∈ separator.intercalate pieces) :
    c ∈ separator ∨ ∃ piece ∈ pieces, c ∈ piece := by
  induction pieces with
  | nil => simp at mem
  | cons piece rest ih =>
    cases rest with
    | nil =>
      rw [List.intercalate_singleton] at mem
      exact .inr ⟨piece, List.mem_cons_self, mem⟩
    | cons next rest =>
      rw [List.intercalate_cons_cons, List.mem_append, List.mem_append] at mem
      rcases mem with (here | between) | later
      · exact .inr ⟨piece, List.mem_cons_self, here⟩
      · exact .inl between
      · rcases ih later with between | ⟨other, listed, mem⟩
        · exact .inl between
        · exact .inr ⟨other, List.mem_cons_of_mem _ listed, mem⟩

section Substitute

variable {pattern : Pattern} {c : Char} {text : Text}

theorem mem_substituteFrom {skip : Nat} (mem : c ∈ substituteFrom pattern skip text) :
    c ∈ text ∨ ∃ rest length replacement, rest <:+ text ∧ pattern rest = some (length, replacement) ∧ c ∈ replacement := by
  induction text generalizing skip with
  | nil => simp [substituteFrom] at mem
  | cons d rest ih =>
    have later : ∀ {skip : Nat}, c ∈ substituteFrom pattern skip rest → c ∈ d :: rest ∨
        ∃ tail length replacement, tail <:+ d :: rest ∧ pattern tail = some (length, replacement) ∧ c ∈ replacement := by
      intro skip mem
      rcases ih mem with listed | ⟨tail, length, replacement, suffix, found, mem⟩
      · exact .inl (List.mem_cons_of_mem _ listed)
      · exact .inr ⟨tail, length, replacement, suffix.trans (List.suffix_cons _ _), found, mem⟩
    cases skip with
    | succ skip => exact later mem
    | zero =>
      rw [substituteFrom] at mem
      split at mem
      next length replacement found =>
        rcases List.mem_append.mp mem with replaced | mem
        · exact .inr ⟨d :: rest, length, replacement, List.suffix_rfl, found, replaced⟩
        · exact later mem
      next none_found =>
        rcases List.mem_cons.mp mem with rfl | mem
        · exact .inl List.mem_cons_self
        · exact later mem

/-- Every character after a substitution was there before it, or stands in for a match. -/
theorem mem_substitute (mem : c ∈ substitute pattern text) :
    c ∈ text ∨ ∃ rest length replacement, rest <:+ text ∧ pattern rest = some (length, replacement) ∧ c ∈ replacement :=
  mem_substituteFrom mem

/-- What is skipped is left out. -/
theorem substituteFrom_skip {skip : Nat} {front : Text} (length : front.length = skip) :
    substituteFrom pattern skip (front ++ text) = substituteFrom pattern 0 text := by
  induction front generalizing skip with
  | nil =>
    obtain rfl : 0 = skip := length
    rfl
  | cons d front ih =>
    obtain rfl : front.length + 1 = skip := length
    exact ih rfl

/-- A match at the head of a text is replaced, and the search goes on behind it. -/
theorem substitute_match {found replacement : Text} (nonempty : found ≠ [])
    (is_match : pattern (found ++ text) = some (found.length, replacement)) :
    substitute pattern (found ++ text) = replacement ++ substitute pattern text := by
  cases found with
  | nil => exact absurd rfl nonempty
  | cons d found =>
    rw [List.cons_append] at is_match
    rw [substitute, List.cons_append, substituteFrom, is_match]
    dsimp only
    rw [List.length_cons, Nat.add_sub_cancel, substituteFrom_skip rfl]
    rfl

theorem substitute_no_match (no_match : pattern (c :: text) = none) :
    substitute pattern (c :: text) = c :: substitute pattern text := by
  rw [substitute, substituteFrom, no_match]
  rfl

end Substitute

section Find

variable {α : Type} {find : Text → Option (Nat × α)} {front text : Text}

/-- A stretch where no match begins is passed over. -/
theorem findAll_append (no_match : ∀ before c after, front = before ++ c :: after → find (c :: (after ++ text)) = none) :
    findAll find (front ++ text) = findAll find text := by
  induction front with
  | nil => rfl
  | cons c front ih =>
    have here := no_match [] c front rfl
    rw [findAll, List.cons_append, findFrom, here]
    exact ih fun before d after same => no_match (c :: before) d after (by rw [same, List.cons_append])

theorem findFrom_skip {skip : Nat} (length : front.length = skip) :
    findFrom find skip (front ++ text) = findFrom find 0 text := by
  induction front generalizing skip with
  | nil =>
    obtain rfl : 0 = skip := length
    rfl
  | cons c front ih =>
    obtain rfl : front.length + 1 = skip := length
    exact ih rfl

/-- A match is found, and the search goes on behind it. -/
theorem findAll_match {found : α} (nonempty : front ≠ []) (is_match : find (front ++ text) = some (front.length, found)) :
    findAll find (front ++ text) = found :: findAll find text := by
  cases front with
  | nil => exact absurd rfl nonempty
  | cons c front =>
    rw [List.cons_append] at is_match
    rw [findAll, List.cons_append, findFrom, is_match]
    dsimp only
    rw [List.length_cons, Nat.add_sub_cancel, findFrom_skip rfl]
    rfl

/-- What another search says of the same matches. -/
theorem findFrom_map {β : Type} {other : Text → Option (Nat × β)} {say : β → α} {skip : Nat}
    (same : ∀ text, find text = (other text).map fun found => (found.1, say found.2)) :
    findFrom find skip text = (findFrom other skip text).map say := by
  induction text generalizing skip with
  | nil => rfl
  | cons c text ih =>
    cases skip with
    | succ skip => exact ih
    | zero =>
      rw [findFrom, findFrom, same]
      cases other (c :: text) with
      | none => exact ih
      | some found => exact congrArg (say found.2 :: ·) ih

end Find

section Trim

variable {space : Char → Bool} {text : Text} {c : Char}

/-- What ends in no space keeps it. -/
theorem rdropWhile_keeps {front : Text} (no_space : space c = false) :
    (front ++ c :: text).rdropWhile space = front ++ c :: text.rdropWhile space := by
  induction text using List.reverseRecOn with
  | nil =>
    have kept := List.rdropWhile_concat space front c
    rw [no_space] at kept
    exact kept
  | append_singleton text d ih =>
    have apart : front ++ c :: (text ++ [d]) = (front ++ c :: text) ++ [d] := by simp
    rw [apart, List.rdropWhile_concat, List.rdropWhile_concat, ih]
    split <;> simp

end Trim

section Composed

variable {ordinary : Char → Prop} {mark : Text → Prop} {front text : Text}

/-- A text of ordinary characters and marks. -/
inductive Composed (ordinary : Char → Prop) (mark : Text → Prop) : Text → Prop where
  | nil : Composed ordinary mark []
  | char {c : Char} {rest : Text} : ordinary c → Composed ordinary mark rest → Composed ordinary mark (c :: rest)
  | mark {found rest : Text} : mark found → Composed ordinary mark rest → Composed ordinary mark (found ++ rest)

theorem Composed.of_ordinary (all : ∀ c ∈ text, ordinary c) : Composed ordinary mark text := by
  induction text with
  | nil => exact .nil
  | cons c rest ih =>
    exact .char (all c List.mem_cons_self) (ih fun d mem => all d (List.mem_cons_of_mem _ mem))

theorem Composed.append (front_composed : Composed ordinary mark front) (rest : Composed ordinary mark text) :
    Composed ordinary mark (front ++ text) := by
  induction front_composed with
  | nil => exact rest
  | char is_ordinary _ ih => exact .char is_ordinary ih
  | mark is_mark _ ih =>
    rw [List.append_assoc]
    exact .mark is_mark ih

theorem Composed.flatten {parts : List Text} (each : ∀ part ∈ parts, Composed ordinary mark part) :
    Composed ordinary mark parts.flatten := by
  induction parts with
  | nil => exact .nil
  | cons part rest ih =>
    rw [List.flatten_cons]
    exact (each part List.mem_cons_self).append (ih fun other mem => each other (List.mem_cons_of_mem _ mem))

/-- The pieces between two separators are composed where no mark holds one. -/
theorem Composed.splitOn {separator : Char} (unseparated : ∀ found, mark found → separator ∉ found)
    (composed : Composed ordinary mark text) : ∀ piece ∈ text.splitOn separator, Composed ordinary mark piece := by
  have prepends : ∀ found rest : Text, separator ∉ found →
      (found ++ rest).splitOn separator = (rest.splitOn separator).modifyHead (found ++ ·) := by
    intro found rest absent
    induction found with
    | nil =>
      obtain ⟨piece, pieces, is_split⟩ := List.exists_cons_of_ne_nil (List.splitOn_ne_nil separator rest)
      rw [List.nil_append, is_split]
      rfl
    | cons c found ih =>
      obtain ⟨other, absent⟩ := not_or.mp (List.mem_cons.not.mp absent)
      obtain ⟨piece, pieces, is_split⟩ := List.exists_cons_of_ne_nil (List.splitOn_ne_nil separator rest)
      have differs : ¬ (c == separator) = true := fun same => other (eq_of_beq same).symm
      rw [List.cons_append, List.splitOn_cons_eq_if_modifyHead, if_neg differs, ih absent, is_split]
      rfl
  have heads : ∀ (found rest : Text), (∀ piece ∈ rest.splitOn separator, Composed ordinary mark piece) →
      separator ∉ found → (∀ piece, Composed ordinary mark piece → Composed ordinary mark (found ++ piece)) →
      ∀ piece ∈ (found ++ rest).splitOn separator, Composed ordinary mark piece := by
    intro found rest each absent extends_ piece mem
    obtain ⟨head, pieces, is_split⟩ := List.exists_cons_of_ne_nil (List.splitOn_ne_nil separator rest)
    rw [prepends found rest absent, is_split, List.modifyHead_cons] at mem
    rw [is_split] at each
    rcases List.mem_cons.mp mem with rfl | later
    · exact extends_ head (each head List.mem_cons_self)
    · exact each piece (List.mem_cons_of_mem _ later)
  induction composed with
  | nil =>
    intro piece mem
    rw [List.splitOn_nil, List.mem_singleton] at mem
    exact mem ▸ .nil
  | @char c rest is_ordinary _ ih =>
    by_cases same : c = separator
    · intro piece mem
      rw [List.splitOn_cons_eq_if_modifyHead, if_pos (beq_iff_eq.mpr same)] at mem
      rcases List.mem_cons.mp mem with rfl | later
      · exact .nil
      · exact ih piece later
    · apply heads [c] rest ih
      · exact fun mem => same (List.mem_singleton.mp mem).symm
      · exact fun piece composed => .char is_ordinary composed
  | @mark found rest is_mark _ ih =>
    exact heads found rest ih (unseparated found is_mark) fun piece composed => .mark is_mark composed

/-- A join of composed pieces is composed. -/
theorem Composed.intercalate {separator : Text} {pieces : List Text} (between : Composed ordinary mark separator)
    (each : ∀ piece ∈ pieces, Composed ordinary mark piece) : Composed ordinary mark (separator.intercalate pieces) := by
  induction pieces with
  | nil => exact .nil
  | cons piece rest ih =>
    cases rest with
    | nil =>
      rw [List.intercalate_singleton]
      exact each piece List.mem_cons_self
    | cons next rest =>
      rw [List.intercalate_cons_cons]
      have later := ih fun other mem => each other (List.mem_cons_of_mem _ mem)
      exact ((each piece List.mem_cons_self).append between).append later

/-- Trimming the end takes no part of a mark, where a mark ends in no space. -/
theorem Composed.rdropWhile {space : Char → Bool}
    (ends : ∀ found, mark found → ∃ front c, found = front ++ [c] ∧ space c = false)
    (composed : Composed ordinary mark text) : Composed ordinary mark (text.rdropWhile space) := by
  induction composed with
  | nil => exact .nil
  | @char c rest is_ordinary _ ih =>
    by_cases is_space : space c = true
    · by_cases blank : ∀ d ∈ c :: rest, space d = true
      · have nothing : (c :: rest).rdropWhile space = [] := List.rdropWhile_eq_nil_iff.mpr blank
        rw [nothing]
        exact .nil
      · have kept : (c :: rest).rdropWhile space = c :: rest.rdropWhile space := by
          push Not at blank
          obtain ⟨d, mem, no_space⟩ := blank
          have later : d ∈ rest := by
            rcases List.mem_cons.mp mem with rfl | later
            · exact absurd is_space no_space
            · exact later
          obtain ⟨front, tail, rfl⟩ := List.append_of_mem later
          rw [← List.cons_append, rdropWhile_keeps (Bool.eq_false_iff.mpr no_space),
            rdropWhile_keeps (Bool.eq_false_iff.mpr no_space), List.cons_append]
        rw [kept]
        exact .char is_ordinary ih
    · have kept : ([] ++ c :: rest).rdropWhile space = [] ++ c :: rest.rdropWhile space :=
        rdropWhile_keeps (Bool.eq_false_iff.mpr is_space)
      rw [List.nil_append, List.nil_append] at kept
      rw [kept]
      exact .char is_ordinary ih
  | @mark found rest is_mark _ ih =>
    obtain ⟨front, c, rfl, no_space⟩ := ends found is_mark
    have apart : front ++ [c] ++ rest = front ++ c :: rest := by simp
    have again : front ++ c :: rest.rdropWhile space = front ++ [c] ++ rest.rdropWhile space := by simp
    rw [apart, rdropWhile_keeps no_space, again]
    exact .mark is_mark ih

/-- A substitution whose matches are exactly the marks leaves ordinary characters, and its replacements. -/
theorem Composed.substitute_ordinary {pattern : Pattern}
    (matches_mark : ∀ found rest, mark found → found ≠ [] ∧
      ∃ replacement, pattern (found ++ rest) = some (found.length, replacement) ∧ ∀ c ∈ replacement, ordinary c)
    (no_match : ∀ c rest, ordinary c → pattern (c :: rest) = none) (composed : Composed ordinary mark text) :
    ∀ c ∈ substitute pattern text, ordinary c := by
  induction composed with
  | nil => exact fun c mem => nomatch mem
  | char is_ordinary _ ih =>
    rw [substitute_no_match (no_match _ _ is_ordinary)]
    intro d mem
    rcases List.mem_cons.mp mem with rfl | later
    · exact is_ordinary
    · exact ih d later
  | @mark found rest is_mark _ ih =>
    obtain ⟨nonempty, replacement, is_match, all⟩ := matches_mark found rest is_mark
    rw [substitute_match nonempty is_match]
    intro d mem
    rcases List.mem_append.mp mem with replaced | later
    · exact all d replaced
    · exact ih d later

end Composed

end Issuebot.Logic
