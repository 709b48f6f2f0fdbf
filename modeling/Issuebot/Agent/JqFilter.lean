import Issuebot.Agent.JqLanguage
import Issuebot.Agent.Visible
import Issuebot.Logic.Regex

/-!
# Filtered reads of comments

`filterApplies` says whether a program's first stage, behind an optional `.[]`, is an accepted filter and
whether all that follows are projections. It splits the program with its own count of quotes and brackets
(`jqStages`) and knows a projection by a regular expression; jq reads the same text with its own lexer
(`Jq.tokens`). What an accepted program emits is a projection of a record that one filter let through
(`applied_filter_projects`).
-/

namespace Issuebot
set_option autoImplicit false
open Logic Jq

section Splitting

/-- What `_jq_stages` has of a program: `done` are the stages before the last. -/
structure Splitter where
  done : List Text
  last : Text
  depth : Nat
  quote : Option Char
  escaped : Bool

def Splitter.fresh : Splitter := ⟨[], [], 0, none, false⟩

def Splitter.take (s : Splitter) (c : Char) : Splitter := { s with last := s.last ++ [c] }

/-- One character of the program; `none` where a closer has nothing open. -/
def Splitter.step (s : Splitter) (c : Char) : Option Splitter :=
  match s.quote with
  | some quote =>
    if s.escaped then some { s.take c with escaped := false }
    else if c = '\\' then some { s.take c with escaped := true }
    else if c = quote then some { s.take c with quote := none }
    else some (s.take c)
  | none =>
    if c = '"' ∨ c = '\'' then some { s.take c with quote := some c }
    else if c = '(' ∨ c = '[' ∨ c = '\x7b' then some { s.take c with depth := s.depth + 1 }
    else if c = ')' ∨ c = ']' ∨ c = '\x7d' then
      if s.depth = 0 then none else some { s.take c with depth := s.depth - 1 }
    else if c = '|' ∧ s.depth = 0 then some { s with done := s.done ++ [s.last], last := [] }
    else some (s.take c)

/-- `_jq_stages` -/
def jqStages (program : Text) : Option (List Text) :=
  (program.foldlM Splitter.step Splitter.fresh).bind fun s =>
    if s.quote.isSome ∨ s.depth ≠ 0 then none else some ((s.done ++ [s.last]).map strip)

/-- The text split so far. -/
def Splitter.text (s : Splitter) : Text := ['|'].intercalate (s.done ++ [s.last])

variable {s after : Splitter} {c : Char} {program : Text}

theorem intercalate_concat {stages : List Text} {last : Text} (some_stage : stages ≠ []) :
    ['|'].intercalate (stages ++ [last]) = ['|'].intercalate stages ++ '|' :: last := by
  induction stages with
  | nil => exact absurd rfl some_stage
  | cons stage stages ih =>
    cases stages with
    | nil => simp [List.intercalate_cons_cons]
    | cons next stages =>
      rw [List.cons_append, List.cons_append, List.intercalate_cons_cons, ← List.cons_append, ih (List.cons_ne_nil _ _),
        List.intercalate_cons_cons]
      simp [List.append_assoc]

/-- A character goes into the last stage, or it is a pipe that begins the next one. -/
theorem Splitter.step_cases (stepped : s.step c = some after) :
    (after.done = s.done ∧ after.last = s.last ++ [c]) ∨ (c = '|' ∧ after.done = s.done ++ [s.last] ∧ after.last = []) := by
  rw [Splitter.step] at stepped
  split at stepped
  · split_ifs at stepped
    all_goals
      cases stepped
      exact .inl ⟨rfl, rfl⟩
  · split_ifs at stepped
    all_goals cases stepped
    all_goals first
      | exact .inl ⟨rfl, rfl⟩
      | exact .inr ⟨And.left ‹c = '|' ∧ s.depth = 0›, rfl, rfl⟩

theorem Splitter.text_step (stepped : s.step c = some after) : after.text = s.text ++ [c] := by
  rw [Splitter.text, Splitter.text]
  rcases Splitter.step_cases stepped with ⟨same, longer⟩ | ⟨rfl, done, begun⟩
  · rw [same, longer]
    cases s.done with
    | nil => simp
    | cons stage stages =>
      rw [intercalate_concat (List.cons_ne_nil _ _), intercalate_concat (List.cons_ne_nil _ _)]
      simp
  · rw [done, begun, intercalate_concat (by simp)]

theorem Splitter.text_fold (folded : program.foldlM Splitter.step s = some after) : after.text = s.text ++ program := by
  induction program generalizing s with
  | nil => rw [← Option.some.inj folded, List.append_nil]
  | cons c program ih =>
    rw [List.foldlM_cons] at folded
    obtain ⟨next, stepped, folded⟩ := Option.bind_eq_some_iff.mp folded
    rw [ih folded, Splitter.text_step stepped, List.append_assoc]
    rfl

/-- The stages are the program between its pipes, stripped. -/
theorem jqStages_source {stages : List Text} (split : jqStages program = some stages) :
    ∃ raws, raws ≠ [] ∧ program = ['|'].intercalate raws ∧ stages = raws.map strip := by
  obtain ⟨s, folded, finished⟩ := Option.bind_eq_some_iff.mp split
  split at finished
  · cases finished
  · exact ⟨s.done ++ [s.last], by simp, (Splitter.text_fold folded).symm, (Option.some.inj finished).symm⟩

end Splitting

section Projections

variable (beyond : Char → Bool)

/-- `\s*` -/
def spacesRx : Regex Char := .many (.one isSpace)

/-- `[A-Za-z_]\w*` -/
def nameRx : Regex Char := .seq (.one isLetter) (.many (.one (isNameLetter beyond)))

/-- One character. -/
def charRx (letter : Char) : Regex Char := .one fun c => c = letter

/-- `_JQ_PATH` -/
def jqPath : Regex Char := .seq (charRx '.') (.seq (nameRx beyond) (.many (.seq (charRx '.') (nameRx beyond))))

/-- `_JQ_KEY` -/
def jqKey : Regex Char :=
  .alt (nameRx beyond) (.seq (charRx '"') (.seq (.many (.one fun c => c ≠ '"' && c ≠ '\\')) (charRx '"')))

/-- `_JQ_FIELD` -/
def jqField : Regex Char :=
  .seq (jqKey beyond) (.alt .empty (.seq spacesRx (.seq (charRx ':') (.seq spacesRx (jqPath beyond)))))

/-- `_JQ_PROJECTION` -/
def jqProjection : Regex Char :=
  .alt (jqPath beyond)
    (.seq (charRx '\x7b') (.seq spacesRx (.seq
      (.alt .empty (.seq (jqField beyond) (.seq
        (.many (.seq spacesRx (.seq (charRx ',') (.seq spacesRx (jqField beyond))))) spacesRx)))
      (charRx '\x7d'))))

/-- `_JQ_ITERATION` -/
def jqIteration : List Text := [".[]".toList, ".[]?".toList]

/-- `_filter_applies` -/
def filterApplies (program : Text) (accepted : List Text) : Bool :=
  match jqStages program with
  | none => false
  | some stages =>
    let stages := if stages.head?.any jqIteration.contains then stages.tail else stages
    match stages with
    | [] => false
    | first :: rest => accepted.contains first && rest.all fun stage => (jqProjection beyond).accepts stage

end Projections

section Recognised

variable {beyond : Char → Bool} {mode : Mode} {opened : List Char} {text : Text}

theorem mem_charRx {letter : Char} : text ∈ (charRx letter).language ↔ text = [letter] := by
  rw [charRx, Regex.mem_one]
  constructor
  · rintro ⟨c, rfl, same⟩
    rw [of_decide_eq_true same]
  · rintro rfl
    exact ⟨letter, rfl, decide_eq_true rfl⟩

theorem mem_nameRx : text ∈ (nameRx beyond).language ↔
    ∃ first rest, text = first :: rest ∧ isLetter first = true ∧ rest.all (isNameLetter beyond) = true := by
  rw [nameRx, Regex.mem_seq]
  constructor
  · rintro ⟨_, ⟨first, rfl, letter⟩, rest, letters, rfl⟩
    exact ⟨first, rest, rfl, letter, Regex.mem_many_one.mp letters⟩
  · rintro ⟨first, rest, rfl, letter, letters⟩
    exact ⟨[first], ⟨first, rfl, letter⟩, rest, Regex.mem_many_one.mpr letters, rfl⟩

/-- `.name` -/
theorem reads_segment (segment : text ∈ (Regex.seq (charRx '.') (nameRx beyond)).language) : ∃ name, ReadsAs text [.field name] := by
  obtain ⟨_, dot, name, is_name, rfl⟩ := Regex.mem_seq.mp segment
  obtain rfl := mem_charRx.mp dot
  obtain ⟨first, rest, rfl, letter, letters⟩ := mem_nameRx.mp is_name
  exact ⟨first :: rest, fun _ _ quiet => Reads.field letter letters quiet⟩

/-- `.a.b` is read as a path. -/
theorem reads_path (path : text ∈ (jqPath beyond).language) :
    ∃ read name further, ReadsAs text read ∧ names read = some (name :: further) := by
  have segments {parts : List Text} (each : ∀ part ∈ parts, part ∈ (Regex.seq (charRx '.') (nameRx beyond)).language) :
      ∃ read further, ReadsAs parts.flatten read ∧ names read = some further := by
    induction parts with
    | nil => exact ⟨[], [], ReadsAs.nil, rfl⟩
    | cons part parts ih =>
      rw [List.forall_mem_cons] at each
      obtain ⟨name, segment⟩ := reads_segment each.1
      obtain ⟨read, further, reads, named⟩ := ih each.2
      exact ⟨.field name :: read, name :: further, segment.append reads, by rw [names, named]; rfl⟩
  obtain ⟨_, dot, _, behind, rfl⟩ := Regex.mem_seq.mp path
  obtain ⟨name, is_name, _, many, rfl⟩ := Regex.mem_seq.mp behind
  obtain ⟨parts, rfl, each⟩ := Regex.mem_many.mp many
  obtain ⟨first, segment⟩ := reads_segment (Regex.mem_seq.mpr ⟨_, dot, name, is_name, rfl⟩)
  obtain ⟨read, further, reads, named⟩ := segments each
  refine ⟨.field first :: read, first, further, ?_, by rw [names, named]; rfl⟩
  rw [← List.append_assoc]
  exact segment.append reads

theorem key_unparted {token : Token} (keyed : token.key.isSome = true) : token ≠ .pipe ∧ token ≠ .symbol ',' := by
  constructor
  · rintro rfl
    cases keyed
  · rintro rfl
    cases keyed

/-- `key` or `"key"` -/
theorem reads_key (key : text ∈ (jqKey beyond).language) :
    ∃ token, BeginsAs text [token] ∧ token.key.isSome = true := by
  rcases Regex.mem_alt.mp key with bare | quoted
  · obtain ⟨first, rest, rfl, letter, letters⟩ := mem_nameRx.mp bare
    refine ⟨.word (first :: rest), fun _ _ begins => Reads.word letter letters begins, ?_⟩
    have starts : (first :: rest).head?.any isLetter = true := letter
    rw [Token.key, if_pos starts]
    rfl
  · obtain ⟨_, opening, _, behind, rfl⟩ := Regex.mem_seq.mp quoted
    obtain ⟨inner, plain, _, closing, rfl⟩ := Regex.mem_seq.mp behind
    obtain rfl := mem_charRx.mp opening
    obtain rfl := mem_charRx.mp closing
    refine ⟨.string (some inner), ReadsAs.begins fun _ _ quiet => ?_, rfl⟩
    exact Reads.string (Regex.mem_many_one.mp plain) quiet

/-- Tokens that are neither a pipe nor a comma. -/
def Unparted (read : List Token) : Prop := ∀ token ∈ read, token ≠ .pipe ∧ token ≠ .symbol ','

theorem names_unparted {read : List Token} {path : List Text} (named : names read = some path) : Unparted read := by
  induction read generalizing path with
  | nil =>
    intro token mem
    cases mem
  | cons first read ih =>
    cases first with
    | field name =>
      obtain ⟨further, named, -⟩ := Option.map_eq_some_iff.mp named
      refine List.forall_mem_cons.mpr ⟨⟨?_, ?_⟩, ih named⟩
      · intro same
        cases same
      · intro same
        cases same
    | _ => cases named

/-- `key` or `key: .a.b` is read as an entry. -/
theorem reads_entry (field : text ∈ (jqField beyond).language) :
    ∃ read, BeginsAs text read ∧ (entry read).isSome = true ∧ Unparted read := by
  obtain ⟨_, is_key, _, rest, rfl⟩ := Regex.mem_seq.mp field
  obtain ⟨token, key_read, is_some⟩ := reads_key is_key
  have apart := key_unparted is_some
  obtain ⟨key, keyed⟩ := Option.isSome_iff_exists.mp is_some
  rcases Regex.mem_alt.mp rest with bare | valued
  · obtain rfl := Regex.mem_empty.mp bare
    refine ⟨[token], by simpa using key_read, ?_, fun other mem => List.mem_singleton.mp mem ▸ apart⟩
    rw [entry, keyed]
    rfl
  · obtain ⟨before, spaces, _, behind, rfl⟩ := Regex.mem_seq.mp valued
    obtain ⟨_, colon, _, value, rfl⟩ := Regex.mem_seq.mp behind
    obtain rfl := mem_charRx.mp colon
    obtain ⟨after, spaces', path, is_path, rfl⟩ := Regex.mem_seq.mp value
    obtain ⟨read, name, further, reads, named⟩ := reads_path is_path
    have value := BeginsAs.behind_symbol (reads.begins.behind_spaces (Regex.mem_many_one.mp spaces')) (.inl rfl)
    refine ⟨token :: .symbol ':' :: read, key_read.append ((ReadsAs.spaces (Regex.mem_many_one.mp spaces)).append value), ?_, ?_⟩
    · rw [entry, keyed, named]
      rfl
    · refine List.forall_mem_cons.mpr ⟨apart, List.forall_mem_cons.mpr ⟨⟨?_, ?_⟩, names_unparted named⟩⟩
      · intro same
        cases same
      · decide

theorem intercalate_cons_flatten {α : Type} {separator : α} {first : List α} {rest : List (List α)} :
    [separator].intercalate (first :: rest) = first ++ (rest.map (separator :: ·)).flatten := by
  induction rest generalizing first with
  | nil => simp
  | cons next rest ih =>
    rw [List.intercalate_cons_cons, ih]
    simp

/-- The fields between the braces are read as entries. -/
theorem reads_entries {parts : List Text}
    (each : ∀ part ∈ parts, part ∈ (Regex.seq spacesRx (.seq (charRx ',') (.seq spacesRx (jqField beyond)))).language) :
    ∃ reads : List (List Token), ReadsAs parts.flatten (reads.map (.symbol ',' :: ·)).flatten ∧
      ∀ read ∈ reads, (entry read).isSome = true ∧ Unparted read := by
  induction parts with
  | nil =>
    refine ⟨[], ReadsAs.nil, fun read mem => ?_⟩
    cases mem
  | cons part parts ih =>
    rw [List.forall_mem_cons] at each
    obtain ⟨before, spaces, _, behind, rfl⟩ := Regex.mem_seq.mp each.1
    obtain ⟨_, comma, _, next, rfl⟩ := Regex.mem_seq.mp behind
    obtain rfl := mem_charRx.mp comma
    obtain ⟨after, spaces', field, is_field, rfl⟩ := Regex.mem_seq.mp next
    obtain ⟨read, begins, is_entry⟩ := reads_entry is_field
    obtain ⟨reads, others, are_entries⟩ := ih each.2
    have value := BeginsAs.behind_symbol (begins.behind_spaces (Regex.mem_many_one.mp spaces')) (.inr rfl)
    refine ⟨read :: reads, ?_, List.forall_mem_cons.mpr ⟨is_entry, are_entries⟩⟩
    exact ((ReadsAs.spaces (Regex.mem_many_one.mp spaces)).append value).append others

theorem mapM_entry {reads : List (List Token)} (each : ∀ read ∈ reads, (entry read).isSome = true) :
    ∃ found, reads.mapM entry = some found := by
  induction reads with
  | nil => exact ⟨[], rfl⟩
  | cons read reads ih =>
    rw [List.forall_mem_cons] at each
    obtain ⟨first, entered⟩ := Option.isSome_iff_exists.mp each.1
    obtain ⟨found, others⟩ := ih each.2
    refine ⟨first :: found, ?_⟩
    rw [List.mapM_cons, entered, others]
    rfl

theorem intercalate_entries_ne_nil {read : List Token} {reads : List (List Token)} (is_entry : (entry read).isSome = true) :
    [Token.symbol ','].intercalate (read :: reads) ≠ [] := by
  cases read with
  | nil => cases is_entry
  | cons token read =>
    rw [intercalate_cons_flatten]
    exact List.cons_ne_nil _ _

/-- `{…}` is read as an object of paths. -/
theorem reads_object {inner : Regex Char}
    (is_inner : inner = .alt .empty (.seq (jqField beyond) (.seq
      (.many (.seq spacesRx (.seq (charRx ',') (.seq spacesRx (jqField beyond))))) spacesRx)))
    (braces : text ∈ (Regex.seq (charRx '\x7b') (.seq spacesRx (.seq inner (charRx '\x7d')))).language) :
    ∃ read found, ReadsAs text read ∧ object read = some found ∧ .pipe ∉ read := by
  subst is_inner
  obtain ⟨_, opening, _, behind, rfl⟩ := Regex.mem_seq.mp braces
  obtain rfl := mem_charRx.mp opening
  obtain ⟨before, spaces, _, further, rfl⟩ := Regex.mem_seq.mp behind
  obtain ⟨fields, is_fields, _, closing, rfl⟩ := Regex.mem_seq.mp further
  obtain rfl := mem_charRx.mp closing
  have read_inner : ∃ read found, BeginsAs (before ++ fields) read ∧ entries read = some found ∧ .pipe ∉ read := by
    rcases Regex.mem_alt.mp is_fields with none | some_field
    · obtain rfl := Regex.mem_empty.mp none
      exact ⟨[], [], ReadsAs.nil.begins.behind_spaces (Regex.mem_many_one.mp spaces), rfl, List.not_mem_nil⟩
    · obtain ⟨first, is_first, _, others, rfl⟩ := Regex.mem_seq.mp some_field
      obtain ⟨_, many, after, spaces', rfl⟩ := Regex.mem_seq.mp others
      obtain ⟨parts, rfl, each⟩ := Regex.mem_many.mp many
      obtain ⟨read, begins, is_entry⟩ := reads_entry is_first
      obtain ⟨reads, others, are_entries⟩ := reads_entries each
      have each : ∀ other ∈ read :: reads, (entry other).isSome = true ∧ Unparted other :=
        List.forall_mem_cons.mpr ⟨is_entry, are_entries⟩
      obtain ⟨found, entered⟩ := mapM_entry fun other mem => (each other mem).1
      have begun : BeginsAs (before ++ (first ++ (parts.flatten ++ after))) ([.symbol ','].intercalate (read :: reads)) := by
        rw [intercalate_cons_flatten, ← List.append_nil (reads.map _).flatten]
        exact (begins.append (others.append (ReadsAs.spaces (Regex.mem_many_one.mp spaces')))).behind_spaces
          (Regex.mem_many_one.mp spaces)
      refine ⟨_, found, begun, ?_, ?_⟩
      · rw [entries, if_neg (intercalate_entries_ne_nil is_entry.1), List.splitOn_intercalate _ _ (List.cons_ne_nil _ _), entered]
        exact fun read mem comma => ((each read mem).2 _ comma).2 rfl
      · intro pipe
        rw [intercalate_cons_flatten, List.mem_append, List.mem_flatten] at pipe
        rcases pipe with pipe | ⟨_, mapped, pipe⟩
        · exact (is_entry.2 _ pipe).1 rfl
        · obtain ⟨other, mem, rfl⟩ := List.mem_map.mp mapped
          rcases List.mem_cons.mp pipe with same | pipe
          · cases same
          · exact ((are_entries other mem).2 _ pipe).1 rfl
  obtain ⟨read, found, begins, entered, no_pipe⟩ := read_inner
  have whole : ['\x7b'] ++ (before ++ (fields ++ ['\x7d'])) = '\x7b' :: (before ++ fields) ++ ['\x7d'] := by simp
  rw [whole]
  refine ⟨_, found, begins.in_braces, ?_, ?_⟩
  · rw [List.cons_append, object, List.getLast?_concat, if_pos rfl, List.dropLast_concat, entered]
  · intro pipe
    rcases List.mem_append.mp pipe with pipe | pipe
    · rcases List.mem_cons.mp pipe with same | pipe
      · cases same
      · exact no_pipe pipe
    · cases List.mem_singleton.mp pipe

theorem stage_object {read : List Token} {found : List Entry} (made : object read = some found) : stage read = .object found := by
  have begins : ∃ rest, read = .symbol '\x7b' :: rest := by
    unfold object at made
    split at made
    · exact ⟨_, rfl⟩
    · cases made
  obtain ⟨rest, rfl⟩ := begins
  have no_path : names (.symbol '\x7b' :: rest) = none := rfl
  rw [stage, if_neg (by simp), if_neg (by simp), no_path, made]
  rfl

/-- A projection is read as one. -/
theorem reads_projection (accepted : (jqProjection beyond).accepts text = true) :
    ∃ read, ReadsAs text read ∧ (stage read).IsProjection ∧ .pipe ∉ read := by
  rcases Regex.mem_alt.mp (Regex.accepts_iff.mp accepted) with path | braces
  · obtain ⟨read, name, further, reads, named⟩ := reads_path path
    have no_pipe : .pipe ∉ read := fun pipe => (names_unparted named _ pipe).1 rfl
    refine ⟨read, reads, ?_, no_pipe⟩
    cases read with
    | nil => cases named
    | cons first read =>
      cases first with
      | field field =>
        rw [stage, if_neg (by simp), if_neg (by simp), named]
        exact List.cons_ne_nil _ _
      | _ => cases named
  · obtain ⟨read, found, reads, made, no_pipe⟩ := reads_object rfl braces
    refine ⟨read, reads, ?_, no_pipe⟩
    rw [stage_object made]
    trivial

/-- The text between two pipes is read as it is once it is stripped. -/
theorem Jq.StageAs.stripped {read : List Token} (stage : StageAs (strip text) read) : StageAs text read := by
  have front : (text.takeWhile isSpace).all isSpace = true := List.all_takeWhile
  have back : ((text.dropWhile isSpace).rtakeWhile isSpace).all isSpace = true := by
    rw [List.rtakeWhile, List.all_reverse]
    exact List.all_takeWhile
  have whole : text.takeWhile isSpace ++ (strip text ++ (text.dropWhile isSpace).rtakeWhile isSpace) = text := by
    rw [strip, List.rdropWhile_append_rtakeWhile, List.takeWhile_append_dropWhile]
  rw [← whole]
  exact StageAs.spaced front stage back

end Recognised

section Applied

variable {beyond : Char → Bool} {meaning : List Token → Json → Run} {program : Text} {accepted : List Text}

/-- An accepted filter: one stage wherever it stands, which emits its input unchanged or nothing. -/
def IsFilter (meaning : List Token → Json → Run) (text : Text) : Prop :=
  ∃ read, stageTokens text = some read ∧ ∀ value,
    ((stage read).run meaning value).outputs = [] ∨ ((stage read).run meaning value).outputs = [value]

/-- The filter emits the record. -/
def LetsThrough (meaning : List Token → Json → Run) (text : Text) (record : Json) : Prop :=
  ∃ read, stageTokens text = some read ∧ record ∈ ((stage read).run meaning record).outputs

/-- A record of an input: the input, or one of what iterating it gives. -/
def IsRecord (input record : Json) : Prop := record = input ∨ ∃ values, elements input = some values ∧ record ∈ values

/-- A filter and the projections behind it, between two pipes each. -/
structure Filtered (meaning : List Token → Json → Run) (accepted : List Text) (texts : List Text) (reads : List (List Token)) : Prop where
  read : List.Forall₂ StageAs texts reads
  unparted : ∀ read ∈ reads, .pipe ∉ read
  projects : ∀ {value output}, output ∈ (runStages meaning (reads.map stage) value).outputs →
    (∃ text ∈ accepted, LetsThrough meaning text value) ∧ Projects value output

theorem read_projections {texts : List Text} (each : (texts.map strip).all (jqProjection beyond).accepts = true) :
    ∃ reads, List.Forall₂ StageAs texts reads ∧ ∀ read ∈ reads, (stage read).IsProjection ∧ .pipe ∉ read := by
  induction texts with
  | nil => exact ⟨[], .nil, fun read mem => by cases mem⟩
  | cons text texts ih =>
    rw [List.map_cons, List.all_cons, Bool.and_eq_true] at each
    obtain ⟨read, reads, is_projection⟩ := reads_projection each.1
    obtain ⟨others, rest, are_projections⟩ := ih each.2
    exact ⟨read :: others, .cons (StageAs.stripped reads.begins.stage) rest, List.forall_mem_cons.mpr ⟨is_projection, are_projections⟩⟩

theorem read_filtered {text : Text} {texts : List Text} (filters : ∀ text ∈ accepted, IsFilter meaning text)
    (first : strip text ∈ accepted) (each : (texts.map strip).all (jqProjection beyond).accepts = true) :
    ∃ reads, Filtered meaning accepted (text :: texts) reads := by
  obtain ⟨read, whole, emits⟩ := filters _ first
  obtain ⟨reads, rest, projections⟩ := read_projections each
  refine ⟨read :: reads, .cons (StageAs.stripped (StageAs.whole whole)) rest, ?_, ?_⟩
  · exact List.forall_mem_cons.mpr ⟨pipe_notMem_stageTokens whole, fun read mem => (projections read mem).2⟩
  · intro value output emitted
    have piped : output ∈ (pipe (runStages meaning (reads.map stage)) ((stage read).run meaning value).failed
        ((stage read).run meaning value).outputs).outputs := emitted
    obtain ⟨middle, let_through, projected⟩ := mem_pipe piped
    obtain rfl : middle = value := by
      rcases emits value with none | itself
      · rw [none] at let_through
        cases let_through
      · rw [itself] at let_through
        exact List.mem_singleton.mp let_through
    have are_projections : ∀ projection ∈ reads.map stage, projection.IsProjection := by
      rintro _ mem
      obtain ⟨other, is_read, rfl⟩ := List.mem_map.mp mem
      exact (projections other is_read).1
    exact ⟨⟨_, first, read, whole, let_through⟩, Projects.stages are_projections Projects.self projected⟩

/-- `.[]` or `.[]?` -/
theorem read_iteration {text : Text} (iterated : jqIteration.contains (strip text) = true) :
    ∃ read optional, StageAs text read ∧ .pipe ∉ read ∧ stage read = .iterate optional := by
  rcases List.mem_cons.mp (List.contains_iff_mem.mp iterated) with same | mem
  · have whole : stageTokens (strip text) = some [.symbol '.', .symbol '[', .symbol ']'] := by
      rw [same]
      decide
    exact ⟨_, false, StageAs.stripped (StageAs.whole whole), by decide, by decide⟩
  · have whole : stageTokens (strip text) = some [.symbol '.', .symbol '[', .symbol ']', .symbol '?'] := by
      rw [List.mem_singleton.mp mem]
      decide
    exact ⟨_, true, StageAs.stripped (StageAs.whole whole), by decide, by decide⟩

theorem iterated_record {optional : Bool} {input record : Json}
    (emitted : record ∈ (Stage.run meaning (.iterate optional) input).outputs) : IsRecord input record := by
  rw [Stage.run] at emitted
  cases iterated : elements input with
  | none =>
    rw [iterated] at emitted
    cases optional with
    | false => cases emitted
    | true => cases emitted
  | some values =>
    rw [iterated] at emitted
    cases optional with
    | false => exact .inr ⟨values, iterated, emitted⟩
    | true => exact .inr ⟨values, iterated, emitted⟩

/-- What a program emits whose stages are read so. -/
theorem emitted_of_read {texts : List Text} {reads : List (List Token)} {input output : Json} (some_stage : texts ≠ [])
    (read : List.Forall₂ StageAs texts reads) (unparted : ∀ read ∈ reads, .pipe ∉ read)
    (emitted : output ∈ outputs meaning (['|'].intercalate texts) input) :
    output ∈ (runStages meaning (reads.map stage) input).outputs := by
  rw [outputs] at emitted
  cases compiled : tokens (['|'].intercalate texts) with
  | none =>
    rw [compiled] at emitted
    cases emitted
  | some found =>
    have is_read := tokens_of_reads (Reads.pipeline some_stage read rfl) compiled
    have some_read : reads ≠ [] := by
      rintro rfl
      cases read
      exact some_stage rfl
    rwa [compiled, Option.elim_some, is_read, List.splitOn_intercalate _ unparted some_read] at emitted

/-- **An accepted program is filtered.** What it emits, on whatever input, is a path of a record that one
accepted filter let through, or an object of such paths; a path that leads nowhere reads `null`. -/
theorem applied_filter_projects (filters : ∀ text ∈ accepted, IsFilter meaning text)
    (applies : filterApplies beyond program accepted = true) (input output : Json) (emitted : output ∈ outputs meaning program input) :
    ∃ record, IsRecord input record ∧ (∃ text ∈ accepted, LetsThrough meaning text record) ∧ Projects record output := by
  rw [filterApplies] at applies
  split at applies
  · cases applies
  next stages split =>
    obtain ⟨texts, some_stage, rfl, rfl⟩ := jqStages_source split
    obtain ⟨first, rest, rfl⟩ := List.exists_cons_of_ne_nil some_stage
    by_cases iterated : jqIteration.contains (strip first) = true
    · rw [if_pos (by simpa using iterated)] at applies
      cases rest with
      | nil => cases applies
      | cons second rest =>
        obtain ⟨is_accepted, are_projections⟩ := Bool.and_eq_true_iff.mp applies
        obtain ⟨reads, filtered⟩ := read_filtered filters (List.contains_iff_mem.mp is_accepted) are_projections
        obtain ⟨read, optional, is_read, no_pipe, iterates⟩ := read_iteration iterated
        have emitted := emitted_of_read some_stage (.cons is_read filtered.read) (List.forall_mem_cons.mpr ⟨no_pipe, filtered.unparted⟩) emitted
        rw [List.map_cons, iterates] at emitted
        obtain ⟨record, is_element, emitted⟩ := mem_pipe emitted
        exact ⟨record, iterated_record is_element, filtered.projects emitted⟩
    · rw [if_neg (by simpa using iterated)] at applies
      obtain ⟨is_accepted, are_projections⟩ := Bool.and_eq_true_iff.mp applies
      obtain ⟨reads, filtered⟩ := read_filtered filters (List.contains_iff_mem.mp is_accepted) are_projections
      have emitted := emitted_of_read some_stage filtered.read filtered.unparted emitted
      exact ⟨input, .inl rfl, filtered.projects emitted⟩

/-- `select(.)`, and no other stage. -/
def selectItself (tokens : List Token) (value : Json) : Run :=
  if tokens = [.word "select".toList, .symbol '(', .symbol '.', .symbol ')'] then
    match value with
    | .null | .bool false => ⟨[], false⟩
    | value => ⟨[value], false⟩
  else ⟨[], true⟩

theorem isFilter_selectItself : IsFilter selectItself "select(.)".toList := by
  refine ⟨[.word "select".toList, .symbol '(', .symbol '.', .symbol ')'], by decide, fun value => ?_⟩
  cases value with
  | null => exact .inl rfl
  | bool value =>
    cases value with
    | false => exact .inl rfl
    | true => exact .inr rfl
  | _ => exact .inr rfl

/-- The identifiers of what `select(.)` lets through. -/
theorem identifiers_are_filtered :
    ∃ record, IsRecord (.arr [.null, .obj [("id", .int 7), ("body", .str "text")]]) record ∧
      (∃ text ∈ ["select(.)".toList], LetsThrough selectItself text record) ∧ Projects record (.obj [("id", .int 7)]) := by
  have filters : ∀ text ∈ ["select(.)".toList], IsFilter selectItself text := fun text mem =>
    List.mem_singleton.mp mem ▸ isFilter_selectItself
  have applies : filterApplies (fun _ => false) ".[] | select(.) | \x7bid\x7d".toList ["select(.)".toList] = true := by decide +kernel
  refine applied_filter_projects filters applies _ _ ?_
  have emitted : outputs selectItself ".[] | select(.) | \x7bid\x7d".toList (.arr [.null, .obj [("id", .int 7), ("body", .str "text")]]) =
      [.obj [("id", .int 7)]] := rfl
  rw [emitted]
  exact List.mem_cons_self

/-- A field of the empty object is `null`, which is no path of a string. -/
theorem empty_object_leads_nowhere :
    ¬ ∀ (beyond : Char → Bool) (meaning : List Token → Json → Run) (program : Text) (accepted : List Text),
      (∀ text ∈ accepted, IsFilter meaning text) → filterApplies beyond program accepted = true →
      ∀ input output : Json, output ∈ outputs meaning program input →
        ∃ record, IsRecord input record ∧ (∃ text ∈ accepted, LetsThrough meaning text record) ∧
          ((∃ path, follow record path = some output) ∨
            ∃ fields, output = .obj fields ∧ ∀ field ∈ fields, ∃ path, follow record path = some field.2) := by
  intro claimed
  have filters : ∀ text ∈ ["select(.)".toList], IsFilter selectItself text := fun text mem =>
    List.mem_singleton.mp mem ▸ isFilter_selectItself
  have applies : filterApplies (fun _ => false) "select(.) | \x7b\x7d | .a".toList ["select(.)".toList] = true := by decide +kernel
  have emitted : outputs selectItself "select(.) | \x7b\x7d | .a".toList (.str "text") = [.null] := rfl
  obtain ⟨record, is_record, -, projects⟩ := claimed _ _ _ _ filters applies (.str "text") .null (by rw [emitted]; exact List.mem_cons_self)
  have record_eq : record = .str "text" := by
    rcases is_record with same | ⟨values, iterated, -⟩
    · exact same
    · cases iterated
  subst record_eq
  rcases projects with ⟨path, led⟩ | ⟨fields, same, -⟩
  · cases path with
    | nil => cases led
    | cons name path => cases led
  · cases same

end Applied

end Issuebot
