import Mathlib.Computability.Language

/-!
# Regular expressions over classes of letters

A letter of a pattern is a class of letters, as in `\w` or `[^"]`. `accepts` runs a pattern over a whole
word by derivatives; it accepts the words of the pattern's language (`accepts_iff`).
-/

namespace Issuebot.Logic
set_option autoImplicit false

/-- A pattern over the letters `α`. -/
inductive Regex (α : Type) where
  | fail
  | empty
  | one (p : α → Bool)
  | alt (first second : Regex α)
  | seq (first second : Regex α)
  | many (inner : Regex α)

namespace Regex

open scoped Computability

variable {α : Type} {r first second : Regex α} {a : α} {word : List α}

/-- The words a pattern matches as a whole. -/
def language : Regex α → Language α
  | fail => 0
  | empty => 1
  | one p => {word | ∃ a, word = [a] ∧ p a = true}
  | alt first second => language first + language second
  | seq first second => language first * language second
  | many inner => (language inner)∗

/-- The empty word matches. -/
def nullable : Regex α → Bool
  | fail => false
  | empty => true
  | one _ => false
  | alt first second => nullable first || nullable second
  | seq first second => nullable first && nullable second
  | many _ => true

/-- What has to match behind the letter `a`. -/
def derive (a : α) : Regex α → Regex α
  | fail => fail
  | empty => fail
  | one p => if p a then empty else fail
  | alt first second => alt (derive a first) (derive a second)
  | seq first second =>
    if nullable first then alt (seq (derive a first) second) (derive a second) else seq (derive a first) second
  | many inner => seq (derive a inner) (many inner)

/-- The pattern matches the whole word. -/
def accepts : Regex α → List α → Bool
  | r, [] => nullable r
  | r, a :: word => accepts (derive a r) word

theorem nil_mem_language : [] ∈ language r ↔ nullable r = true := by
  induction r with
  | fail => exact iff_of_false (Language.notMem_zero []) Bool.false_ne_true
  | empty => exact iff_of_true rfl rfl
  | one p =>
    refine iff_of_false ?_ Bool.false_ne_true
    rintro ⟨a, same, -⟩
    cases same
  | alt first second ih ih' =>
    rw [language, nullable, Language.mem_add, Bool.or_eq_true, ih, ih']
  | seq first second ih ih' =>
    rw [language, nullable, Language.mem_mul, Bool.and_eq_true, ← ih, ← ih']
    constructor
    · rintro ⟨front, is_front, back, is_back, whole⟩
      obtain ⟨rfl, rfl⟩ := List.append_eq_nil_iff.mp whole
      exact ⟨is_front, is_back⟩
    · rintro ⟨is_front, is_back⟩
      exact ⟨[], is_front, [], is_back, rfl⟩
  | many inner => exact iff_of_true (Language.nil_mem_kstar _) rfl

/-- A word of a sequence begins in its first part, unless that can be empty. -/
theorem cons_mem_mul {l m : Language α} : a :: word ∈ l * m ↔
    (∃ front back, word = front ++ back ∧ a :: front ∈ l ∧ back ∈ m) ∨ [] ∈ l ∧ a :: word ∈ m := by
  rw [Language.mem_mul]
  constructor
  · rintro ⟨front, is_front, back, is_back, whole⟩
    cases front with
    | nil => exact .inr ⟨is_front, by rwa [← whole]⟩
    | cons head front =>
      obtain ⟨rfl, rfl⟩ := List.cons.inj whole
      exact .inl ⟨front, back, rfl, is_front, is_back⟩
  · rintro (⟨front, back, rfl, is_front, is_back⟩ | ⟨is_empty, is_word⟩)
    · exact ⟨a :: front, is_front, back, is_back, rfl⟩
    · exact ⟨[], is_empty, a :: word, is_word, rfl⟩

/-- A word of a repetition begins in its first part that is not empty. -/
theorem cons_mem_kstar {l : Language α} : a :: word ∈ l∗ ↔ ∃ front back, word = front ++ back ∧ a :: front ∈ l ∧ back ∈ l∗ := by
  constructor
  · intro mem
    obtain ⟨parts, whole, each⟩ := Language.mem_kstar_iff_exists_nonempty.mp mem
    cases parts with
    | nil => cases whole
    | cons part parts =>
      obtain ⟨is_part, some_letter⟩ := each part List.mem_cons_self
      cases part with
      | nil => exact absurd rfl some_letter
      | cons head front =>
        obtain ⟨rfl, rfl⟩ := List.cons.inj whole
        exact ⟨front, parts.flatten, rfl, is_part,
          Language.join_mem_kstar fun part mem => (each part (List.mem_cons_of_mem _ mem)).1⟩
  · rintro ⟨front, back, rfl, is_front, is_back⟩
    obtain ⟨parts, rfl, each⟩ := Language.mem_kstar.mp is_back
    refine Language.mem_kstar.mpr ⟨(a :: front) :: parts, rfl, fun part mem => ?_⟩
    rcases List.mem_cons.mp mem with rfl | mem
    · exact is_front
    · exact each part mem

theorem cons_mem_language : a :: word ∈ language r ↔ word ∈ language (derive a r) := by
  induction r generalizing word with
  | fail => exact iff_of_false (Language.notMem_zero _) (Language.notMem_zero _)
  | empty => exact iff_of_false (fun same => by cases same) (Language.notMem_zero _)
  | one p =>
    rw [derive]
    constructor
    · rintro ⟨b, same, holds⟩
      obtain ⟨rfl, rfl⟩ := List.cons.inj same
      rw [if_pos holds]
      rfl
    · split
      next holds =>
        intro is_nil
        obtain rfl : word = [] := is_nil
        exact ⟨a, rfl, holds⟩
      next => exact fun mem => absurd mem (Language.notMem_zero _)
  | alt first second ih ih' => rw [language, derive, language, Language.mem_add, Language.mem_add, ih, ih']
  | seq first second ih ih' =>
    have begins : (∃ front back, word = front ++ back ∧ a :: front ∈ language first ∧ back ∈ language second) ↔
        word ∈ language (derive a first) * language second := by
      rw [Language.mem_mul]
      constructor
      · rintro ⟨front, back, rfl, is_front, is_back⟩
        exact ⟨front, ih.mp is_front, back, is_back, rfl⟩
      · rintro ⟨front, is_front, back, is_back, rfl⟩
        exact ⟨front, back, rfl, ih.mpr is_front, is_back⟩
    rw [language, cons_mem_mul, begins, nil_mem_language, derive]
    split
    next holds => rw [language, Language.mem_add, language, ← ih', and_iff_right holds]
    next fails => rw [language, or_iff_left fun other => fails other.1]
  | many inner ih =>
    rw [language, cons_mem_kstar, derive, language, language, Language.mem_mul]
    constructor
    · rintro ⟨front, back, rfl, is_front, is_back⟩
      exact ⟨front, ih.mp is_front, back, is_back, rfl⟩
    · rintro ⟨front, is_front, back, is_back, rfl⟩
      exact ⟨front, back, rfl, ih.mpr is_front, is_back⟩

/-- A pattern accepts the words of its language. -/
theorem accepts_iff : accepts r word = true ↔ word ∈ language r := by
  induction word generalizing r with
  | nil => exact nil_mem_language.symm
  | cons a word ih => rw [accepts, ih, cons_mem_language]

theorem mem_seq : word ∈ language (seq first second) ↔ ∃ front ∈ language first, ∃ back ∈ language second, front ++ back = word :=
  Language.mem_mul

theorem mem_alt : word ∈ language (alt first second) ↔ word ∈ language first ∨ word ∈ language second := Language.mem_add _ _ _

theorem mem_many : word ∈ language (many r) ↔ ∃ parts : List (List α), word = parts.flatten ∧ ∀ part ∈ parts, part ∈ language r :=
  Language.mem_kstar

theorem mem_one {p : α → Bool} : word ∈ language (one p) ↔ ∃ a, word = [a] ∧ p a = true := Iff.rfl

theorem mem_empty : word ∈ language (empty : Regex α) ↔ word = [] := Iff.rfl

/-- A repetition of one letter: a word of such letters. -/
theorem mem_many_one {p : α → Bool} : word ∈ language (many (one p)) ↔ word.all p = true := by
  rw [mem_many, List.all_eq_true]
  constructor
  · rintro ⟨parts, rfl, each⟩ a mem
    obtain ⟨part, is_part, mem⟩ := List.mem_flatten.mp mem
    obtain ⟨b, rfl, holds⟩ := each part is_part
    obtain rfl := List.mem_singleton.mp mem
    exact holds
  · intro each
    have whole : word = (word.map fun a => [a]).flatten := by
      induction word with
      | nil => rfl
      | cons a word ih => rw [List.map_cons, List.flatten_cons, ← ih fun b mem => each b (List.mem_cons_of_mem a mem)]; rfl
    refine ⟨word.map fun a => [a], whole, fun part mem => ?_⟩
    obtain ⟨a, is_letter, rfl⟩ := List.mem_map.mp mem
    exact ⟨a, rfl, each a is_letter⟩

end Regex
end Issuebot.Logic
