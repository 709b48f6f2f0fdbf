import Issuebot.Agent.Characters
import Issuebot.GitHub.Json
import Issuebot.Items
import Issuebot.Logic.Text

/-!
# What a jq program means

The part of jq's language that a read of comments is written in: stages piped into each other, each
the iteration of an array, a path, an object of paths, or something else, whose meaning is a
parameter. The lexer is jq's own, with its stack of open brackets, so a `|` inside a bracket or a
string parts no stages, and `|=` is no pipe.
-/

namespace Issuebot
set_option autoImplicit false
open Logic

namespace Jq

/-- What the lexer makes of a program. A string with an escape in it has no literal text. -/
inductive Token where
  | pipe
  | field (name : Text)
  | word (name : Text)
  | string (literal : Option Text)
  | symbol (c : Char)
  deriving DecidableEq

/-- The token the lexer is in. -/
inductive Mode where
  | idle
  | comment
  | bar
  | dot
  | field (name : Text)
  | word (name : Text)
  | string (literal : Option Text)
  | escape
  deriving DecidableEq

/-- The lexer, and the brackets that are open; an interpolation is opened by the `"` it stands in. -/
structure Lexer where
  mode : Mode
  opened : List Char
  deriving DecidableEq

def isBlank (c : Char) : Bool := [' ', '\t', '\n', '\r'].contains c

def isLetter (c : Char) : Bool := c.isAlpha || c = '_'

def isSymbol (c : Char) : Bool := "?=;,:+-*/%$<>!@".toList.contains c

/-- The token that ends where the next one begins. -/
def Mode.ended (opened : List Char) : Mode → List Token
  | .bar => [if opened.isEmpty then .pipe else .symbol '|']
  | .dot => [.symbol '.']
  | .field name => [.field name]
  | .word name => [.word name]
  | _ => []

/-- A closing bracket. -/
def close (opened : List Char) (c : Char) : Option (List Token × Lexer) :=
  match opened with
  | '"' :: outer => if c = ')' then some ([], ⟨.string none, outer⟩) else none
  | '(' :: outer => if c = ')' then some ([.symbol c], ⟨.idle, outer⟩) else none
  | '[' :: outer => if c = ']' then some ([.symbol c], ⟨.idle, outer⟩) else none
  | '\x7b' :: outer => if c = '\x7d' then some ([.symbol c], ⟨.idle, outer⟩) else none
  | _ => none

/-- A character between two tokens; `none` where jq says that it is invalid. -/
def begin (opened : List Char) (c : Char) : Option (List Token × Lexer) :=
  if isBlank c then some ([], ⟨.idle, opened⟩)
  else if isWordLetter c then some ([], ⟨.word [c], opened⟩)
  else if isSymbol c then some ([.symbol c], ⟨.idle, opened⟩)
  else match c with
    | '#' => some ([], ⟨.comment, opened⟩)
    | '"' => some ([], ⟨.string (some []), opened⟩)
    | '|' => some ([], ⟨.bar, opened⟩)
    | '.' => some ([], ⟨.dot, opened⟩)
    | '(' | '[' | '\x7b' => some ([.symbol c], ⟨.idle, c :: opened⟩)
    | ')' | ']' | '\x7d' => close opened c
    | _ => none

/-- A character behind a token that it does not go on with. -/
def Lexer.next (lexer : Lexer) (c : Char) : Option (List Token × Lexer) :=
  (begin lexer.opened c).map fun begun => (lexer.mode.ended lexer.opened ++ begun.1, begun.2)

/-- One character. -/
def Lexer.step (lexer : Lexer) (c : Char) : Option (List Token × Lexer) :=
  match lexer.mode with
  | .idle => lexer.next c
  | .comment => some ([], if c = '\n' then { lexer with mode := .idle } else lexer)
  | .bar => if c = '=' then some ([.symbol '|', .symbol '='], { lexer with mode := .idle }) else lexer.next c
  | .dot => if isLetter c then some ([], { lexer with mode := .field [c] }) else lexer.next c
  | .field name => if isWordLetter c then some ([], { lexer with mode := .field (name ++ [c]) }) else lexer.next c
  | .word name => if isWordLetter c then some ([], { lexer with mode := .word (name ++ [c]) }) else lexer.next c
  | .string literal =>
    if c = '"' then some ([.string literal], { lexer with mode := .idle })
    else if c = '\\' then some ([], { lexer with mode := .escape })
    else some ([], { lexer with mode := .string (literal.map (· ++ [c])) })
  | .escape =>
    if c = '(' then some ([], ⟨.idle, '"' :: lexer.opened⟩) else some ([], { lexer with mode := .string none })

def Lexer.read : Lexer → Text → Option (List Token × Lexer)
  | lexer, [] => some ([], lexer)
  | lexer, c :: text =>
    (lexer.step c).bind fun first => (first.2.read text).map fun rest => (first.1 ++ rest.1, rest.2)

/-- Before a program. -/
def fresh : Lexer := ⟨.idle, []⟩

/-- No string is left open. -/
def Mode.closed : Mode → Bool
  | .string _ => false
  | .escape => false
  | _ => true

/-- The tokens of a program; `none` for what jq does not read as one. -/
def tokens (program : Text) : Option (List Token) :=
  (fresh.read program).bind fun last =>
    if last.2.opened = [] ∧ last.2.mode.closed then some (last.1 ++ last.2.mode.ended []) else none

/-- An entry of an object: its key, and the path of its value, which is the key itself where none is written. -/
structure Entry where
  key : Text
  name : Text
  further : List Text
  deriving DecidableEq

/-- What a stage is. -/
inductive Stage where
  | iterate (optional : Bool)
  | path (names : List Text)
  | object (entries : List Entry)
  | other (tokens : List Token)
  deriving DecidableEq

/-- The names of a path `.a.b`. -/
def names : List Token → Option (List Text)
  | [] => some []
  | .field name :: rest => (names rest).map (name :: ·)
  | _ => none

def Token.key : Token → Option Text
  | .word name => if name.head?.any isLetter then some name else none
  | .string literal => literal
  | _ => none

/-- `key`, or `key: .a.b` -/
def entry : List Token → Option Entry
  | [token] => token.key.map fun key => ⟨key, key, []⟩
  | token :: .symbol ':' :: value =>
    token.key.bind fun key =>
      match names value with
      | some (name :: further) => some ⟨key, name, further⟩
      | _ => none
  | _ => none

/-- The entries between the braces. -/
def entries (inner : List Token) : Option (List Entry) :=
  if inner = [] then some [] else (inner.splitOn (.symbol ',')).mapM entry

/-- The entries of `{key: .a.b, …}`. -/
def object : List Token → Option (List Entry)
  | .symbol '\x7b' :: rest => if rest.getLast? = some (.symbol '\x7d') then entries rest.dropLast else none
  | _ => none

/-- A stage from its tokens. -/
def stage (tokens : List Token) : Stage :=
  if tokens = [.symbol '.', .symbol '[', .symbol ']'] then .iterate false
  else if tokens = [.symbol '.', .symbol '[', .symbol ']', .symbol '?'] then .iterate true
  else match names tokens with
    | some (name :: further) => .path (name :: further)
    | _ => ((object tokens).map Stage.object).getD (.other tokens)

/-- What comes out, and whether an error ended it. -/
structure Run where
  outputs : List Json
  failed : Bool

/-- `. | next`, for each of the values in turn, until one fails. -/
def pipe (next : Json → Run) (failed : Bool) : List Json → Run
  | [] => ⟨[], failed⟩
  | value :: rest =>
    let now := next value
    if now.failed then now else ⟨now.outputs ++ (pipe next failed rest).outputs, (pipe next failed rest).failed⟩

/-- `.name`; `none` is the error of a value that has no fields. -/
def index (value : Json) (name : Text) : Option Json :=
  match value with
  | .null => some .null
  | .obj fields => some ((fields.lookup (String.ofList name)).getD .null)
  | _ => none

/-- `.a.b` -/
def follow (value : Json) (names : List Text) : Option Json := names.foldlM index value

/-- The object of the entries, a later key in the place of an earlier one. -/
def build (value : Json) : List Entry → List (String × Json) → Option (List (String × Json))
  | [], made => some made
  | entry :: rest, made =>
    (follow value (entry.name :: entry.further)).bind fun found => build value rest (setItem (String.ofList entry.key) found made)

/-- What `.[]` goes through. -/
def elements : Json → Option (List Json)
  | .arr values => some values
  | .obj fields => some (fields.map Prod.snd)
  | _ => none

def Run.ofOption : Option (List Json) → Run
  | some outputs => ⟨outputs, false⟩
  | none => ⟨[], true⟩

section Meaning

variable (meaning : List Token → Json → Run)

/-- What a stage makes of a value. -/
def Stage.run : Stage → Json → Run
  | .iterate optional, value => if optional then ⟨(elements value).getD [], false⟩ else .ofOption (elements value)
  | .path names, value => .ofOption ((follow value names).map fun found => [found])
  | .object entries, value => .ofOption ((build value entries []).map fun fields => [.obj fields])
  | .other tokens, value => meaning tokens value

/-- The stages piped into each other. -/
def runStages : List Stage → Json → Run
  | [], value => ⟨[value], false⟩
  | first :: rest, value => pipe (runStages rest) (first.run meaning value).failed (first.run meaning value).outputs

/-- What a program emits of an input: nothing where it does not compile. -/
def outputs (program : Text) (input : Json) : List Json :=
  ((tokens program).elim [] fun tokens => (runStages meaning ((tokens.splitOn .pipe).map stage) input).outputs)

end Meaning

/-- The tokens of a text that is one stage wherever it stands: its strings and brackets are closed, it has no
pipe of its own, a `|` before it stays one, and it does not end in a comment, which would go on behind it. -/
def stageTokens (text : Text) : Option (List Token) :=
  (fresh.read text).bind fun last =>
    if last.2.opened = [] ∧ last.2.mode.closed ∧ last.2.mode ≠ .comment ∧ .pipe ∉ last.1 ++ last.2.mode.ended [] ∧
        text.head? ≠ some '=' then
      some (last.1 ++ last.2.mode.ended [])
    else none

/-! ### Reading pieces of a program -/

section Reading

variable {lexer last : Lexer} {mode : Mode} {opened after outer : List Char} {c : Char} {text more : Text} {read further : List Token}

/-- The token the lexer is in ends with the next character, unless that goes on with a word. -/
def Mode.quiet : Mode → Bool
  | .idle | .bar | .dot | .field _ | .word _ => true
  | _ => false

/-- What follows here begins a token of its own. -/
def Mode.begins : Mode → Bool
  | .idle | .bar => true
  | _ => false

theorem quiet_of_begins (begins : mode.begins = true) : mode.quiet = true := by
  cases mode with
  | idle => rfl
  | bar => rfl
  | _ => cases begins

/-- From `mode` on, the text is read as these tokens, if jq reads it at all. -/
def Reads (mode : Mode) (opened : List Char) (text : Text) (tokens : List Token) (after : List Char) : Prop :=
  ∀ result, (Lexer.mk mode opened).read text = some result →
    ∃ last : Mode, result.2 = ⟨last, after⟩ ∧ last.quiet = true ∧ result.1 ++ last.ended after = mode.ended opened ++ tokens

theorem read_append : lexer.read (text ++ more) =
    (lexer.read text).bind fun first => (first.2.read more).map fun rest => (first.1 ++ rest.1, rest.2) := by
  induction text generalizing lexer with
  | nil => simp [Lexer.read]
  | cons c text ih =>
    rw [List.cons_append, Lexer.read, Lexer.read]
    cases lexer.step c with
    | none => rfl
    | some first =>
      rw [Option.bind_some, Option.bind_some, ih]
      cases first.2.read text with
      | none => rfl
      | some rest =>
        simp only [Option.bind_some, Option.map_some, Option.map_map]
        congr 1
        funext last
        simp [List.append_assoc]

theorem Reads.nil (quiet : mode.quiet = true) : Reads mode opened [] [] opened := by
  rintro result done
  obtain rfl := Option.some.inj done
  exact ⟨mode, rfl, quiet, by simp⟩

/-- A piece, and what is read behind it whatever token it ends in. -/
theorem Reads.append (first : Reads mode opened text read outer)
    (second : ∀ last : Mode, last.quiet = true → Reads last outer more further after) :
    Reads mode opened (text ++ more) (read ++ further) after := by
  intro result done
  rw [read_append] at done
  obtain ⟨middle, reached, done⟩ := Option.bind_eq_some_iff.mp done
  obtain ⟨rest, finished, rfl⟩ := Option.map_eq_some_iff.mp done
  obtain ⟨last, stands, quiet, said⟩ := first middle reached
  rw [stands] at finished
  obtain ⟨final, stands', quiet', said'⟩ := second last quiet rest finished
  refine ⟨final, stands', quiet', ?_⟩
  rw [List.append_assoc, said', ← List.append_assoc, said, List.append_assoc]

/-- A character that ends the token before it. -/
theorem Reads.next {begun : List Token} {start : Lexer} (stepped : (Lexer.mk mode opened).step c = (Lexer.mk mode opened).next c)
    (opens : begin opened c = some (begun, start))
    (rest : ∀ result, start.read text = some result →
      ∃ last : Mode, result.2 = ⟨last, after⟩ ∧ last.quiet = true ∧ begun ++ result.1 ++ last.ended after = read) :
    Reads mode opened (c :: text) read after := by
  intro result done
  rw [Lexer.read, stepped, Lexer.next, opens] at done
  obtain ⟨final, finished, rfl⟩ := Option.map_eq_some_iff.mp done
  obtain ⟨last, stands, quiet, said⟩ := rest final finished
  refine ⟨last, stands, quiet, ?_⟩
  rw [← said]
  simp [List.append_assoc]

/-- A character that jq does not know. -/
theorem Reads.invalid (stepped : (Lexer.mk mode opened).step c = (Lexer.mk mode opened).next c) (unknown : begin opened c = none) :
    Reads mode opened (c :: text) read after := by
  intro result done
  rw [Lexer.read, stepped, Lexer.next, unknown] at done
  cases done

theorem step_quiet (quiet : mode.quiet = true) (no_word : isWordLetter c = false) (no_equals : c ≠ '=') :
    (Lexer.mk mode opened).step c = (Lexer.mk mode opened).next c := by
  have no_letter : isLetter c = false := by
    simp only [isWordLetter, isLetter, Char.isAlphanum, Bool.or_eq_false_iff] at no_word ⊢
    exact ⟨no_word.1.1, no_word.2⟩
  cases mode with
  | idle => rfl
  | bar => exact if_neg no_equals
  | dot => exact if_neg (by simp [no_letter])
  | field name => exact if_neg (by simp [no_word])
  | word name => exact if_neg (by simp [no_word])
  | comment => cases quiet
  | string literal => cases quiet
  | escape => cases quiet

theorem step_begins (begins : mode.begins = true) (no_equals : c ≠ '=') :
    (Lexer.mk mode opened).step c = (Lexer.mk mode opened).next c := by
  cases mode with
  | idle => rfl
  | bar => exact if_neg no_equals
  | _ => cases begins

theorem Reads.cons_idle {begun : List Token} (stepped : (Lexer.mk mode opened).step c = (Lexer.mk mode opened).next c)
    (opens : begin opened c = some (begun, ⟨.idle, outer⟩)) (rest : Reads .idle outer text further after) :
    Reads mode opened (c :: text) (begun ++ further) after := by
  apply Reads.next stepped opens
  intro result done
  obtain ⟨last, stands, quiet, said⟩ := rest result done
  refine ⟨last, stands, quiet, ?_⟩
  rw [List.append_assoc, said]
  rfl

/-! ### Characters -/

theorem isWordLetter_of_isLetter (letter : isLetter c = true) : isWordLetter c = true := by
  simp only [isLetter, isWordLetter, Char.isAlphanum, Bool.or_eq_true] at letter ⊢
  exact letter.imp .inl id

/-- A character outside printable ASCII is a blank or nothing to jq. -/
theorem begin_beyond (beyond : c.toNat ≤ 0x20 ∨ 0x80 ≤ c.toNat) :
    begin opened c = if isBlank c then some ([], ⟨.idle, opened⟩) else none := by
  have no_word : isWordLetter c = false := by
    rw [Bool.eq_false_iff]
    intro word
    have range := isWordLetter_range word
    omega
  have no_symbol : isSymbol c = false := by
    rw [Bool.eq_false_iff]
    intro symbol
    have each : ∀ c ∈ "?=;,:+-*/%$<>!@".toList, 0x20 < c.toNat ∧ c.toNat < 0x80 := by decide
    have range := each c (List.contains_iff_mem.mp symbol)
    omega
  have no_other {letter : Char} (range : 0x20 < letter.toNat ∧ letter.toNat < 0x80) : c ≠ letter := by
    rintro rfl
    omega
  rw [begin, no_word, no_symbol]
  · simp only [Bool.false_eq_true, if_false]
  all_goals exact no_other (by decide)

theorem isSpace_step (space : isSpace c = true) (quiet : mode.quiet = true) :
    (Lexer.mk mode opened).step c = (Lexer.mk mode opened).next c := by
  apply step_quiet quiet (not_isWordLetter space)
  rintro rfl
  exact absurd space (by decide)

/-! ### Spaces, names and strings -/

theorem Reads.space (space : isSpace c = true) (quiet : mode.quiet = true) (rest : Reads .idle opened text read after) :
    Reads mode opened (c :: text) read after := by
  have opens : begin opened c = if isBlank c then some ([], ⟨.idle, opened⟩) else none := begin_beyond (isSpace_beyond space)
  split at opens
  · exact Reads.cons_idle (isSpace_step space quiet) opens rest
  · exact Reads.invalid (isSpace_step space quiet) opens

theorem Reads.spaces (each : text.all isSpace = true) (quiet : mode.quiet = true) : Reads mode opened text [] opened := by
  induction text generalizing mode with
  | nil => exact Reads.nil quiet
  | cons c text ih =>
    rw [List.all_cons, Bool.and_eq_true] at each
    exact Reads.space each.1 quiet (ih each.2 rfl)

/-- Behind spaces a piece is read as it is read at the start of a stage. -/
theorem Reads.behind_spaces (each : text.all isSpace = true) (begins : mode.begins = true)
    (piece : ∀ mode : Mode, mode.begins = true → Reads mode opened more read after) : Reads mode opened (text ++ more) read after := by
  induction text generalizing mode with
  | nil => exact piece mode begins
  | cons c text ih =>
    rw [List.all_cons, Bool.and_eq_true] at each
    exact Reads.space each.1 (quiet_of_begins begins) (ih each.2 rfl)

/-- The letters of `\w`, of which `beyond` tells those that are not ASCII. -/
def isNameLetter (beyond : Char → Bool) (c : Char) : Bool := isWordLetter c || (0x80 ≤ c.toNat && beyond c)

variable {beyond : Char → Bool}

/-- A name is read to its end, or refused for a letter that is not ASCII. -/
theorem read_letters (make : Text → Mode) {name : Text} {result : List Token × Lexer}
    (goes_on : ∀ name c, (Lexer.mk (make name) opened).step c =
      if isWordLetter c then some ([], ⟨make (name ++ [c]), opened⟩) else (Lexer.mk (make name) opened).next c)
    (each : text.all (isNameLetter beyond) = true) (done : (Lexer.mk (make name) opened).read text = some result) :
    result = ([], ⟨make (name ++ text), opened⟩) := by
  induction text generalizing name result with
  | nil => rw [List.append_nil, ← Option.some.inj done]
  | cons c text ih =>
    rw [List.all_cons, Bool.and_eq_true] at each
    rw [Lexer.read, goes_on] at done
    split at done
    next =>
      obtain ⟨rest, finished, rfl⟩ := Option.map_eq_some_iff.mp done
      rw [ih each.2 finished]
      simp
    next no_word =>
      have above : 0x80 ≤ c.toNat := by
        have letter := each.1
        rw [isNameLetter, Bool.or_eq_true, or_iff_right no_word, Bool.and_eq_true] at letter
        exact of_decide_eq_true letter.1
      have no_blank : isBlank c = false := by
        rw [Bool.eq_false_iff]
        intro blank
        have each : ∀ c ∈ [' ', '\t', '\n', '\r'], c.toNat < 0x80 := by decide
        exact Nat.not_lt_of_le above (each c (List.contains_iff_mem.mp blank))
      have unknown : begin opened c = none := by
        rw [begin_beyond (.inr above), no_blank]
        rfl
      rw [Lexer.next, unknown] at done
      cases done

theorem Reads.field (letter : isLetter c = true) (each : text.all (isNameLetter beyond) = true) (quiet : mode.quiet = true) :
    Reads mode opened ('.' :: c :: text) [.field (c :: text)] opened := by
  have opens : begin opened '.' = some ([], ⟨.dot, opened⟩) := rfl
  apply Reads.next (step_quiet quiet (by decide) (by decide)) opens
  intro result done
  rw [Lexer.read, Lexer.step, if_pos letter] at done
  obtain ⟨rest, finished, rfl⟩ := Option.map_eq_some_iff.mp done
  obtain rfl := read_letters .field (fun _ _ => rfl) each finished
  exact ⟨.field (c :: text), rfl, rfl, rfl⟩

theorem Reads.word (letter : isLetter c = true) (each : text.all (isNameLetter beyond) = true) (begins : mode.begins = true) :
    Reads mode opened (c :: text) [.word (c :: text)] opened := by
  have range := isWordLetter_range (isWordLetter_of_isLetter letter)
  have no_blank : isBlank c = false := by
    rw [Bool.eq_false_iff]
    intro blank
    have each : ∀ c ∈ [' ', '\t', '\n', '\r'], c.toNat < 0x30 := by decide
    exact Nat.not_lt_of_le range.1 (each c (List.contains_iff_mem.mp blank))
  have opens : begin opened c = some ([], ⟨.word [c], opened⟩) := by
    unfold begin
    rw [no_blank, isWordLetter_of_isLetter letter]
    rfl
  have no_equals : c ≠ '=' := by
    rintro rfl
    cases letter
  apply Reads.next (step_begins begins no_equals) opens
  intro result done
  obtain rfl := read_letters .word (fun _ _ => rfl) each done
  exact ⟨.word (c :: text), rfl, rfl, rfl⟩

theorem read_string {read : Text} {result : List Token × Lexer} (each : text.all (fun c => c ≠ '"' && c ≠ '\\') = true)
    (done : (Lexer.mk (.string (some read)) opened).read (text ++ ['"']) = some result) :
    result = ([.string (some (read ++ text))], ⟨.idle, opened⟩) := by
  induction text generalizing read result with
  | nil =>
    rw [List.append_nil, ← Option.some.inj done]
    rfl
  | cons c text ih =>
    simp only [List.all_cons, Bool.and_eq_true, decide_eq_true_eq] at each
    have stepped : (Lexer.mk (.string (some read)) opened).step c = some ([], ⟨.string (some (read ++ [c])), opened⟩) :=
      (if_neg each.1.1).trans (if_neg each.1.2)
    rw [List.cons_append, Lexer.read, stepped] at done
    obtain ⟨rest, finished, rfl⟩ := Option.map_eq_some_iff.mp done
    rw [ih (by simpa using each.2) finished]
    simp

theorem Reads.string (each : text.all (fun c => c ≠ '"' && c ≠ '\\') = true) (quiet : mode.quiet = true) :
    Reads mode opened ('"' :: text ++ ['"']) [.string (some text)] opened := by
  have opens : begin opened '"' = some ([], ⟨.string (some []), opened⟩) := rfl
  apply Reads.next (step_quiet quiet (by decide) (by decide)) opens
  intro result done
  obtain rfl := read_string each done
  exact ⟨.idle, rfl, rfl, rfl⟩

/-! ### Pieces -/

/-- The text is read as these tokens behind whatever token. -/
def ReadsAs (text : Text) (read : List Token) : Prop :=
  ∀ (opened : List Char) (mode : Mode), mode.quiet = true → Reads mode opened text read opened

/-- The text is read as these tokens where it begins one of its own. -/
def BeginsAs (text : Text) (read : List Token) : Prop :=
  ∀ (opened : List Char) (mode : Mode), mode.begins = true → Reads mode opened text read opened

theorem ReadsAs.begins (piece : ReadsAs text read) : BeginsAs text read :=
  fun opened mode begins => piece opened mode (quiet_of_begins begins)

theorem ReadsAs.nil : ReadsAs [] [] := fun _ _ quiet => Reads.nil quiet

theorem ReadsAs.append (first : ReadsAs text read) (second : ReadsAs more further) : ReadsAs (text ++ more) (read ++ further) :=
  fun opened mode quiet => Reads.append (first opened mode quiet) (second opened)

theorem BeginsAs.append (first : BeginsAs text read) (second : ReadsAs more further) : BeginsAs (text ++ more) (read ++ further) :=
  fun opened mode begins => Reads.append (first opened mode begins) (second opened)

theorem ReadsAs.spaces (each : text.all isSpace = true) : ReadsAs text [] := fun _ _ quiet => Reads.spaces each quiet

theorem BeginsAs.behind_spaces (each : text.all isSpace = true) (piece : BeginsAs more read) : BeginsAs (text ++ more) read :=
  fun opened _ begins => Reads.behind_spaces each begins (piece opened)

/-- A colon or a comma, and what begins behind it. -/
theorem BeginsAs.behind_symbol (piece : BeginsAs text read) (separates : c = ':' ∨ c = ',') :
    ReadsAs (c :: text) (.symbol c :: read) := by
  intro opened mode quiet
  have stepped : (Lexer.mk mode opened).step c = (Lexer.mk mode opened).next c ∧
      begin opened c = some ([.symbol c], ⟨.idle, opened⟩) := by
    rcases separates with rfl | rfl
    · exact ⟨step_quiet quiet (by decide) (by decide), rfl⟩
    · exact ⟨step_quiet quiet (by decide) (by decide), rfl⟩
  exact Reads.cons_idle stepped.1 stepped.2 (piece opened .idle rfl)

theorem BeginsAs.in_braces (inner : BeginsAs text read) :
    ReadsAs ('\x7b' :: text ++ ['\x7d']) (.symbol '\x7b' :: read ++ [.symbol '\x7d']) := by
  intro opened mode quiet
  have opens : begin opened '\x7b' = some ([.symbol '\x7b'], ⟨.idle, '\x7b' :: opened⟩) := rfl
  have closes : begin ('\x7b' :: opened) '\x7d' = some ([.symbol '\x7d'], ⟨.idle, opened⟩) := rfl
  apply Reads.cons_idle (step_quiet quiet (by decide) (by decide)) opens
  refine Reads.append (inner ('\x7b' :: opened) .idle rfl) fun last quiet => ?_
  exact Reads.cons_idle (step_quiet quiet (by decide) (by decide)) closes (Reads.nil rfl)

/-! ### Stages and pipes -/

theorem Reads.of_idle (no_equals : text.head? ≠ some '=') (begins : mode.begins = true)
    (piece : Reads .idle opened text read after) : Reads mode opened text read after := by
  cases mode with
  | idle => exact piece
  | bar =>
    cases text with
    | nil =>
      obtain ⟨last, stands, quiet, said⟩ := piece _ rfl
      obtain ⟨rfl, rfl⟩ := Lexer.mk.inj stands
      obtain rfl : [] = read := said
      exact Reads.nil rfl
    | cons c text =>
      have no_equals : c ≠ '=' := fun same => no_equals (congrArg some same)
      cases begun : begin opened c with
      | none => exact Reads.invalid (step_begins rfl no_equals) begun
      | some first =>
        apply Reads.next (step_begins rfl no_equals) begun
        intro result done
        have stepped : (Lexer.mk .idle opened).step c = some first := by
          show (begin opened c).map _ = some first
          rw [begun]
          rfl
        have whole : (Lexer.mk .idle opened).read (c :: text) = some (first.1 ++ result.1, result.2) := by
          rw [Lexer.read, stepped, Option.bind_some, done]
          rfl
        exact piece _ whole
  | _ => cases begins

theorem Reads.bar (quiet : mode.quiet = true) (rest : Reads .bar [] text read after) :
    Reads mode [] ('|' :: text) (.pipe :: read) after := by
  have opens : begin [] '|' = some ([], ⟨.bar, []⟩) := rfl
  exact Reads.next (step_quiet quiet (by decide) (by decide)) opens rest

theorem stageTokens_eq_some (whole : stageTokens text = some read) :
    ∃ begun, ∃ last : Mode, fresh.read text = some (begun, ⟨last, []⟩) ∧ last.quiet = true ∧ read = begun ++ last.ended [] ∧
      .pipe ∉ read ∧ text.head? ≠ some '=' := by
  obtain ⟨last, done, kept⟩ := Option.bind_eq_some_iff.mp whole
  obtain ⟨begun, mode, brackets⟩ := last
  split at kept
  next ends =>
    obtain ⟨closed_brackets, closed, no_comment, no_pipe, no_equals⟩ := ends
    obtain rfl : brackets = [] := closed_brackets
    obtain rfl := Option.some.inj kept
    refine ⟨begun, mode, done, ?_, rfl, no_pipe, no_equals⟩
    cases mode with
    | comment => exact absurd rfl no_comment
    | string literal => cases closed
    | escape => cases closed
    | _ => rfl
  next => cases kept

/-- The text is read as these tokens at the head of a stage. -/
def StageAs (text : Text) (read : List Token) : Prop := ∀ mode : Mode, mode.begins = true → Reads mode [] text read []

theorem BeginsAs.stage (piece : BeginsAs text read) : StageAs text read := piece []

/-- A text that is one stage is read as its tokens. -/
theorem StageAs.whole (whole : stageTokens text = some read) : StageAs text read := by
  intro mode begins
  obtain ⟨begun, last, done, quiet, rfl, -, no_equals⟩ := stageTokens_eq_some whole
  refine Reads.of_idle no_equals begins fun result same => ?_
  obtain rfl := Option.some.inj (done.symm.trans same)
  exact ⟨last, rfl, quiet, rfl⟩

theorem pipe_notMem_stageTokens (whole : stageTokens text = some read) : .pipe ∉ read := by
  obtain ⟨_, _, _, _, _, no_pipe, _⟩ := stageTokens_eq_some whole
  exact no_pipe

/-- Spaces around a stage are not read. -/
theorem StageAs.spaced {front back : Text} (before : front.all isSpace = true) (stage : StageAs text read)
    (behind : back.all isSpace = true) : StageAs (front ++ (text ++ back)) read := by
  intro mode begins
  refine Reads.behind_spaces before begins fun mode begins => ?_
  rw [← List.append_nil read]
  exact Reads.append (stage mode begins) fun last quiet => Reads.spaces behind quiet

/-- Stages piped into each other, each of them read as it is read by itself. -/
theorem Reads.pipeline {texts : List Text} {stages : List (List Token)} (some_stage : texts ≠ [])
    (each : List.Forall₂ StageAs texts stages) (begins : mode.begins = true) : Reads mode [] (['|'].intercalate texts) ([Token.pipe].intercalate stages) [] := by
  induction each generalizing mode with
  | nil => exact absurd rfl some_stage
  | @cons text read texts stages first others ih =>
    cases others with
    | nil => simpa using first mode begins
    | @cons next read' texts stages second others =>
      rw [List.intercalate_cons_cons, List.intercalate_cons_cons, List.append_assoc, List.append_assoc]
      exact Reads.append (first mode begins) fun last quiet => Reads.bar quiet (ih (List.cons_ne_nil _ _) rfl)

/-- A program that is read as these tokens, if jq reads it. -/
theorem tokens_of_reads {program : Text} {found : List Token} (reads : Reads .idle [] program read [])
    (compiled : tokens program = some found) : found = read := by
  obtain ⟨result, done, kept⟩ := Option.bind_eq_some_iff.mp compiled
  obtain ⟨last, stands, -, said⟩ := reads result done
  split at kept
  next =>
    rw [← Option.some.inj kept, stands]
    exact said
  next => cases kept

end Reading

/-! ### What comes out -/

section Outputs

variable {meaning : List Token → Json → Run} {record value found output : Json} {path further : List Text} {name : Text}

theorem mem_pipe {next : Json → Run} {failed : Bool} {values : List Json} (emitted : output ∈ (pipe next failed values).outputs) :
    ∃ value ∈ values, output ∈ (next value).outputs := by
  induction values with
  | nil => cases emitted
  | cons value values ih =>
    rw [pipe] at emitted
    split at emitted
    · exact ⟨value, List.mem_cons_self, emitted⟩
    · rcases List.mem_append.mp emitted with now | later
      · exact ⟨value, List.mem_cons_self, now⟩
      · obtain ⟨value, mem, emitted⟩ := ih later
        exact ⟨value, List.mem_cons_of_mem _ mem, emitted⟩

/-- A path of the record, the record itself at the empty one, or `null` where a path leads nowhere. -/
def Reaches (record value : Json) : Prop := (∃ path, follow record path = some value) ∨ value = .null

/-- A path of the record, or an object of paths of it. -/
def Projects (record value : Json) : Prop :=
  Reaches record value ∨ ∃ fields, value = .obj fields ∧ ∀ field ∈ fields, Reaches record field.2

theorem Projects.self : Projects record record := .inl (.inl ⟨[], rfl⟩)

theorem follow_append : follow value (path ++ further) = (follow value path).bind fun found => follow found further :=
  List.foldlM_append

theorem follow_null (followed : follow .null path = some found) : found = .null := by
  induction path with
  | nil => exact (Option.some.inj followed).symm
  | cons name path ih => exact ih followed

theorem Reaches.follow (reaches : Reaches record value) (followed : Jq.follow value path = some found) : Reaches record found := by
  rcases reaches with ⟨before, led⟩ | rfl
  · exact .inl ⟨before ++ path, by rw [follow_append, led, Option.bind_some, followed]⟩
  · exact .inr (follow_null followed)

/-- A path of a projection is a path of the record. -/
theorem Projects.follow (projects : Projects record value) (followed : Jq.follow value (name :: path) = some found) :
    Reaches record found := by
  rcases projects with reaches | ⟨fields, rfl, each⟩
  · exact reaches.follow followed
  · have led : Jq.follow ((fields.lookup (String.ofList name)).getD .null) path = some found := followed
    cases looked : fields.lookup (String.ofList name) with
    | none =>
      rw [looked] at led
      exact .inr (follow_null led)
    | some inner =>
      rw [looked] at led
      exact (each _ (mem_of_lookup looked)).follow led

/-- An object of paths of a projection is one of paths of the record. -/
theorem Projects.build {entries : List Entry} {made fields : List (String × Json)} (projects : Projects record value)
    (before : ∀ field ∈ made, Reaches record field.2) (built : Jq.build value entries made = some fields) :
    ∀ field ∈ fields, Reaches record field.2 := by
  induction entries generalizing made with
  | nil => exact Option.some.inj built ▸ before
  | cons entry entries ih =>
    obtain ⟨found, followed, built⟩ := Option.bind_eq_some_iff.mp built
    refine ih (fun field mem => ?_) built
    rcases of_mem_setItem mem with rfl | mem
    · exact projects.follow followed
    · exact before field mem

/-- A stage that is a path or an object of paths. -/
def Stage.IsProjection : Stage → Prop
  | .path names => names ≠ []
  | .object _ => True
  | _ => False

theorem Projects.stage {stage : Stage} (is_projection : stage.IsProjection) (projects : Projects record value)
    (emitted : output ∈ (stage.run meaning value).outputs) : Projects record output := by
  cases stage with
  | iterate optional => exact is_projection.elim
  | other tokens => exact is_projection.elim
  | path names =>
    obtain ⟨name, further, rfl⟩ := List.exists_cons_of_ne_nil is_projection
    rw [Stage.run] at emitted
    cases followed : Jq.follow value (name :: further) with
    | none =>
      rw [followed] at emitted
      cases emitted
    | some found =>
      rw [followed] at emitted
      obtain rfl := List.mem_singleton.mp emitted
      exact .inl (projects.follow followed)
  | object entries =>
    rw [Stage.run] at emitted
    cases built : Jq.build value entries [] with
    | none =>
      rw [built] at emitted
      cases emitted
    | some fields =>
      rw [built] at emitted
      obtain rfl := List.mem_singleton.mp emitted
      exact .inr ⟨fields, rfl, projects.build (by rintro _ (_ | _)) built⟩

/-- What projections make of a projection of a record is one. -/
theorem Projects.stages {stages : List Stage} (each : ∀ stage ∈ stages, stage.IsProjection) (projects : Projects record value)
    (emitted : output ∈ (runStages meaning stages value).outputs) : Projects record output := by
  induction stages generalizing value with
  | nil =>
    obtain rfl := List.mem_singleton.mp emitted
    exact projects
  | cons stage stages ih =>
    rw [List.forall_mem_cons] at each
    obtain ⟨middle, made, emitted⟩ := mem_pipe emitted
    exact ih each.2 (projects.stage each.1 made) emitted

end Outputs

end Jq
end Issuebot
