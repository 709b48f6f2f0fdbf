import Issuebot.Agent.Characters
import Issuebot.Logic.Utf8

/-!
# What a session's environment holds

A turn and a hook run with an allow-list of the worker's own environment, and with what the workspace's `.issuebot/env` assigns.
The session can write that file, so the names that `git`, `gh`, `claude` and the shell live by are not taken from it, whatever
bytes it holds (`get_sessionEnvironment`). What a hook writes there line by line is read back (`parse_print`), and a file past the
limit is cut between two lines (`read_cut`).
-/

namespace Issuebot
set_option autoImplicit false
open Logic

/-- `dict[str, str]`, from the oldest key on. -/
abbrev Environment := List (Text × Text)

namespace Environment

def get (env : Environment) (name : Text) : Option Text := (env.find? fun entry => entry.1 = name).map Prod.snd

/-- `env[name] = value` -/
def put (name value : Text) : Environment → Environment
  | [] => [(name, value)]
  | entry :: env => if entry.1 = name then (name, value) :: env else entry :: put name value env

def update (env more : Environment) : Environment := more.foldl (fun env entry => env.put entry.1 entry.2) env

/-- No name twice. -/
def Distinct (env : Environment) : Prop := (env.map Prod.fst).Nodup

variable {env more : Environment} {name other value : Text} {entry : Text × Text}

theorem names_put : (env.put name value).map Prod.fst =
    if name ∈ env.map Prod.fst then env.map Prod.fst else env.map Prod.fst ++ [name] := by
  induction env with
  | nil => rfl
  | cons entry env ih =>
    rw [put]
    split
    next same => simp [same]
    next apart =>
      have other : ¬name = entry.1 := fun same => apart same.symm
      simp only [List.map_cons, ih, List.mem_cons, other, false_or]
      split <;> rfl

theorem Distinct.put (distinct : env.Distinct) : (env.put name value).Distinct := by
  unfold Distinct
  rw [names_put]
  split
  next => exact distinct
  next absent => exact List.nodup_append.mpr ⟨distinct, List.pairwise_singleton _ _, fun _ listed _ only same =>
      absent (List.mem_singleton.mp only ▸ same ▸ listed)⟩

theorem Distinct.update (distinct : env.Distinct) : (env.update more).Distinct := by
  induction more generalizing env with
  | nil => exact distinct
  | cons entry more ih => exact ih distinct.put

/-- New names come behind. -/
theorem put_eq_append (absent : name ∉ env.map Prod.fst) : env.put name value = env ++ [(name, value)] := by
  induction env with
  | nil => rfl
  | cons entry env ih =>
    rw [List.map_cons, List.mem_cons, not_or] at absent
    rw [put, if_neg fun same => absent.1 same.symm, ih absent.2]
    rfl

theorem update_eq_append (distinct : Distinct (env ++ more)) : env.update more = env ++ more := by
  induction more generalizing env with
  | nil => exact (List.append_nil env).symm
  | cons entry more ih =>
    have absent : entry.1 ∉ env.map Prod.fst := by
      rw [Distinct, List.map_append, List.nodup_append] at distinct
      exact fun listed => distinct.2.2 _ listed _ List.mem_cons_self rfl
    have split : env ++ entry :: more = env ++ [entry] ++ more := List.append_cons env entry more
    rw [update, List.foldl_cons, ← update, put_eq_append absent, split]
    exact ih (split ▸ distinct)

end Environment

/-- What a line of the file says. -/
inductive EnvLine where
  | skipped
  | refused (reason : String)
  | assigns (name value : Text)
deriving DecidableEq

/-- `_ENV_KEY.fullmatch` -/
def isEnvKey : Text → Bool
  | [] => false
  | c :: rest => (c.isAlpha || c = '_') && rest.all isWordLetter

def exportWord : Text := "export ".toList

def readEnvLine (raw : Text) : EnvLine :=
  let line := (raw.dropWhile isSpace).rdropWhile isSpace
  if line = [] ∨ line.head? = some '#' then .skipped
  else
    let line := if exportWord.isPrefixOf line then (line.drop exportWord.length).dropWhile isSpace else line
    match line.dropWhile (· ≠ '=') with
    | [] => .refused "not KEY=VALUE"
    | _ :: value =>
      let key := line.takeWhile (· ≠ '=')
      if !isEnvKey key then .refused "not a variable name"
      else if value.contains '\x00' then .refused "the value has a null byte in it"
      else .assigns key value

/-- The loop of `parse_workspace_env`, from the line with this number on. -/
def readEnvLines : Nat → List Text → Environment → List String → Environment × List String
  | _, [], env, warnings => (env, warnings)
  | number, raw :: lines, env, warnings =>
    match readEnvLine raw with
    | .skipped => readEnvLines (number + 1) lines env warnings
    | .refused reason => readEnvLines (number + 1) lines env (warnings ++ ["line " ++ toString number ++ ": " ++ reason])
    | .assigns name value => readEnvLines (number + 1) lines (env.put name value) warnings

/-- `text.split("\n")` -/
def envLines (text : Text) : List Text := text.splitOnP (· = '\n')

def parseEnvLines (lines : List Text) : Environment × List String := readEnvLines 1 lines [] []

/-- `parse_workspace_env` -/
def parseWorkspaceEnv (text : Text) : Environment × List String := parseEnvLines (envLines text)

/-- `WORKSPACE_ENV_LIMIT` -/
def workspaceEnvLimit : Nat := 64 * 1024

/-- What stands at `.issuebot/env`, as the boundary finds it. -/
inductive EnvFile where
  | absent
  | unread (complaint : String)
  | content (bytes : Utf8.Bytes)

/-- `decode("utf-8", errors="replace")` -/
def decoded (bytes : Utf8.Bytes) : Text := Utf8.decode ['\uFFFD'] bytes

/-- What comes before the last line break, `[]` without one. -/
def beforeLastBreak (text : Text) : Text := (text.rdropWhile (· ≠ '\n')).dropLast

/-- `read_workspace_env` -/
def readWorkspaceEnv : EnvFile → Environment × List String
  | .absent => ([], [])
  | .unread complaint => ([], [complaint])
  | .content bytes =>
    let text := decoded (bytes.take workspaceEnvLimit)
    if bytes.length ≤ workspaceEnvLimit then parseWorkspaceEnv text
    else
      let parsed := parseWorkspaceEnv (beforeLastBreak text)
      (parsed.1, ("longer than " ++ toString workspaceEnvLimit ++ " bytes: the rest was ignored") :: parsed.2)

section Lines

variable {env : Environment} {lines more : List Text} {number : Nat} {warnings : List String} {file : EnvFile}

theorem envLines_break {front back : Text} : envLines (front ++ '\n' :: back) = envLines front ++ envLines back :=
  List.splitOnP_append_cons front back rfl

theorem envLines_plain {text : Text} (plain : '\n' ∉ text) : envLines text = [text] :=
  List.splitOnP_eq_singleton fun _ listed => decide_eq_false fun is_break => plain (is_break ▸ listed)

/-- A text without a line break has nothing before its last one. -/
theorem beforeLastBreak_plain {text : Text} (plain : '\n' ∉ text) : beforeLastBreak text = [] := by
  have dropped : text.rdropWhile (· ≠ '\n') = [] :=
    List.rdropWhile_eq_nil_iff.mpr fun c listed => decide_eq_true fun is_break => plain (is_break ▸ listed)
  rw [beforeLastBreak, dropped]
  rfl

theorem beforeLastBreak_append {front back : Text} (plain : '\n' ∉ back) : beforeLastBreak (front ++ '\n' :: back) = front := by
  have dropped : (front ++ '\n' :: back).rdropWhile (· ≠ '\n') = front ++ ['\n'] := by
    induction back using List.reverseRecOn with
    | nil => exact List.rdropWhile_concat_neg _ _ _ (by decide)
    | append_singleton back c ih =>
      rw [List.mem_append, List.mem_singleton, not_or] at plain
      have behind : front ++ '\n' :: (back ++ [c]) = front ++ '\n' :: back ++ [c] := by rw [← List.cons_append, List.append_assoc]
      have other : c ≠ '\n' := fun is_break => plain.2 is_break.symm
      have drops : (front ++ '\n' :: back ++ [c]).rdropWhile (· ≠ '\n') = (front ++ '\n' :: back).rdropWhile (· ≠ '\n') :=
        List.rdropWhile_concat_pos _ _ _ (decide_eq_true other)
      rw [behind, drops]
      exact ih plain.1
  rw [beforeLastBreak, dropped, List.dropLast_concat]

/-- A file has a line behind each of its line breaks, and one before them. -/
theorem length_envLines (bytes : Utf8.Bytes) : (envLines (decoded bytes)).length = bytes.count 10 + 1 := by
  induction breaks : bytes.count 10 generalizing bytes with
  | zero => rw [decoded, envLines_plain (Utf8.break_notMem_decode (by decide) (List.count_eq_zero.mp breaks)), List.length_singleton]
  | succ n ih =>
    have broken : 10 ∈ bytes := List.count_pos_iff.mp (breaks ▸ Nat.succ_pos n)
    obtain ⟨front, back, rfl, unbroken⟩ := List.eq_append_cons_of_mem broken
    have rest : back.count 10 = n := by
      rw [List.count_append, List.count_eq_zero.mpr unbroken, List.count_cons_self] at breaks
      omega
    have plain : '\n' ∉ Utf8.decode ['\uFFFD'] front := Utf8.break_notMem_decode (by decide) unbroken
    rw [decoded, Utf8.decode_break, envLines_break, envLines_plain plain, List.length_append, List.length_singleton]
    have behind := ih back rest
    rw [decoded] at behind
    omega

/-- **A file past the limit is cut between two of its lines**: it is read as those whose line breaks stand within the limit. -/
theorem read_whole_lines (bytes : Utf8.Bytes) (longer : workspaceEnvLimit < bytes.length) :
    readWorkspaceEnv (.content bytes) =
      let parsed := parseEnvLines ((envLines (decoded bytes)).take ((bytes.take workspaceEnvLimit).count 10))
      (parsed.1, ("longer than " ++ toString workspaceEnvLimit ++ " bytes: the rest was ignored") :: parsed.2) := by
  have cut : parseWorkspaceEnv (beforeLastBreak (decoded (bytes.take workspaceEnvLimit))) =
      parseEnvLines ((envLines (decoded bytes)).take ((bytes.take workspaceEnvLimit).count 10)) := by
    by_cases broken : 10 ∈ bytes.take workspaceEnvLimit
    · obtain ⟨back, front, reversed, unbroken⟩ := List.eq_append_cons_of_mem (List.mem_reverse.mpr broken)
      have taken : bytes.take workspaceEnvLimit = front.reverse ++ 10 :: back.reverse := by
        rw [← List.reverse_reverse (bytes.take workspaceEnvLimit), reversed, List.reverse_append, List.reverse_cons,
          List.append_assoc]
        rfl
      have whole : bytes = front.reverse ++ 10 :: (back.reverse ++ bytes.drop workspaceEnvLimit) := by
        have parts := List.take_append_drop workspaceEnvLimit bytes
        rw [taken, List.append_assoc] at parts
        exact parts.symm
      have none_behind : back.reverse.count 10 = 0 := List.count_eq_zero.mpr fun listed => unbroken (List.mem_reverse.mp listed)
      have plain : '\n' ∉ Utf8.decode ['\uFFFD'] back.reverse := Utf8.break_notMem_decode (by decide) (List.count_eq_zero.mp none_behind)
      have breaks : (bytes.take workspaceEnvLimit).count 10 = (envLines (decoded front.reverse)).length := by
        rw [taken, List.count_append, List.count_cons_self, none_behind, length_envLines]
      have lines : envLines (decoded bytes) =
          envLines (decoded front.reverse) ++ envLines (decoded (back.reverse ++ bytes.drop workspaceEnvLimit)) := by
        nth_rewrite 1 [whole]
        rw [decoded, Utf8.decode_break]
        exact envLines_break
      rw [breaks, lines, List.take_left, decoded, taken, Utf8.decode_break, beforeLastBreak_append plain]
      rfl
    · rw [List.count_eq_zero.mpr broken, decoded, beforeLastBreak_plain (Utf8.break_notMem_decode (by decide) broken)]
      rfl
  rw [readWorkspaceEnv, if_neg (Nat.not_le.mpr longer)]
  dsimp only
  rw [cut]

/-- A line, and a long one behind it. -/
def longFile : Utf8.Bytes := [65, 61, 49] ++ 10 :: List.replicate 70000 66

theorem long_file_cut : readWorkspaceEnv (.content longFile) =
    ([(['A'], ['1'])], ["longer than 65536 bytes: the rest was ignored"]) := by
  have longer : workspaceEnvLimit < longFile.length := by
    simp only [longFile, List.length_append, List.length_cons, List.length_replicate]
    decide
  have one : (longFile.take workspaceEnvLimit).count 10 = 1 := by
    have taken : longFile.take workspaceEnvLimit = [65, 61, 49, 10] ++ List.replicate 65532 66 := by
      rw [longFile, List.append_cons, List.take_append, List.take_replicate]
      rfl
    rw [taken, List.count_append, List.count_replicate]
    decide +kernel
  have lines : envLines (decoded longFile) = ['A', '=', '1'] :: envLines (decoded (List.replicate 70000 66)) := by
    have first : envLines (Utf8.decode ['\uFFFD'] [65, 61, 49]) = [['A', '=', '1']] := by decide +kernel
    rw [longFile, decoded, Utf8.decode_break, envLines_break, first, List.singleton_append, decoded]
  rw [read_whole_lines longFile longer, one, lines, List.take_succ_cons, List.take_zero]
  decide +kernel

end Lines

section Print

/-- What a line can carry: a variable's name, and a value that is one line without a NUL and does not end in white space. -/
structure IsEnvEntry (entry : Text × Text) : Prop where
  name : isEnvKey entry.1 = true
  line : '\n' ∉ entry.2
  byte : '\x00' ∉ entry.2
  ending : ∀ c ∈ entry.2.getLast?, isSpace c = false

/-- The file, a line an entry. -/
def printEnv (entries : Environment) : Text := entries.flatMap fun entry => entry.1 ++ '=' :: entry.2 ++ ['\n']

variable {entry : Text × Text} {entries env : Environment} {number : Nat} {c : Char}

theorem isWordLetter_of_key {key : Text} (is_key : isEnvKey key = true) : key ≠ [] ∧ ∀ c ∈ key, isWordLetter c = true := by
  cases key with
  | nil => cases is_key
  | cons c rest =>
    rw [isEnvKey, Bool.and_eq_true] at is_key
    refine ⟨List.cons_ne_nil c rest, fun other listed => ?_⟩
    rcases List.mem_cons.mp listed with rfl | listed
    · rw [isWordLetter, Char.isAlphanum]
      rcases Bool.or_eq_true_iff.mp is_key.1 with alpha | under
      · rw [alpha]
        rfl
      · rw [under, Bool.or_true]
    · exact List.all_eq_true.mp is_key.2 other listed

/-- The line of an entry is taken as it stands. -/
theorem strip_entry (is_entry : IsEnvEntry entry) :
    ((entry.1 ++ '=' :: entry.2).dropWhile isSpace).rdropWhile isSpace = entry.1 ++ '=' :: entry.2 := by
  obtain ⟨some_key, words⟩ := isWordLetter_of_key is_entry.name
  obtain ⟨c, rest, is_key⟩ := List.exists_cons_of_ne_nil some_key
  have no_space : ¬isSpace c = true := fun space => by
    have word := words c (is_key ▸ List.mem_cons_self)
    rw [not_isWordLetter space] at word
    cases word
  have from_left : (entry.1 ++ '=' :: entry.2).dropWhile isSpace = entry.1 ++ '=' :: entry.2 := by
    rw [is_key]
    exact List.dropWhile_cons_of_neg no_space
  have last : ∀ c ∈ (entry.1 ++ '=' :: entry.2).getLast?, isSpace c = false := by
    intro c is_last
    rw [List.getLast?_append, List.getLast?_cons, Option.some_or] at is_last
    cases ends : entry.2.getLast? with
    | none =>
      rw [ends] at is_last
      cases is_last
      decide
    | some ending =>
      rw [ends] at is_last
      cases is_last
      exact is_entry.ending _ ends
  rw [from_left]
  refine List.rdropWhile_eq_self_iff.mpr fun some_line space => ?_
  rw [last _ (List.getLast?_eq_some_getLast some_line)] at space
  cases space

/-- No variable's name begins with the word `export` and a blank. -/
theorem not_export (is_entry : IsEnvEntry entry) : ¬exportWord.isPrefixOf (entry.1 ++ '=' :: entry.2) = true := by
  intro starts
  obtain ⟨-, words⟩ := isWordLetter_of_key is_entry.name
  have no_blank : ' ' ∉ entry.1 := fun listed => absurd (words _ listed) (by decide)
  obtain ⟨rest, same⟩ := List.isPrefixOf_iff_prefix.mp starts
  rcases List.append_eq_append_iff.mp same with ⟨behind, is_key, -⟩ | ⟨left, is_word, is_rest⟩
  · exact no_blank (is_key ▸ List.mem_append_left behind (by decide))
  · cases left with
    | nil => exact no_blank (by rw [← List.append_nil entry.1, ← is_word]; decide)
    | cons d left =>
      have is_first : '=' = d := (List.cons.inj is_rest).1
      have none_in : '=' ∉ exportWord := by decide
      exact none_in (is_word ▸ List.mem_append_right entry.1 (is_first ▸ List.mem_cons_self))

theorem readEnvLine_entry (is_entry : IsEnvEntry entry) : readEnvLine (entry.1 ++ '=' :: entry.2) = .assigns entry.1 entry.2 := by
  obtain ⟨some_key, words⟩ := isWordLetter_of_key is_entry.name
  have is_line : ¬(entry.1 ++ '=' :: entry.2 = [] ∨ (entry.1 ++ '=' :: entry.2).head? = some '#') := by
    obtain ⟨c, rest, is_key⟩ := List.exists_cons_of_ne_nil some_key
    rintro (empty | comment)
    · exact List.append_ne_nil_of_left_ne_nil some_key _ empty
    · rw [is_key] at comment
      have is_word := words c (is_key ▸ List.mem_cons_self)
      rw [Option.some.inj comment] at is_word
      exact absurd is_word (by decide)
  have before : ∀ c ∈ entry.1, decide (c ≠ '=') = true := by
    intro c listed
    refine decide_eq_true fun same => ?_
    have is_word := words c listed
    rw [same] at is_word
    exact absurd is_word (by decide)
  have value : (entry.1 ++ '=' :: entry.2).dropWhile (· ≠ '=') = '=' :: entry.2 := by
    rw [List.dropWhile_append_of_pos before]
    exact List.dropWhile_cons_of_neg (by decide)
  have key : (entry.1 ++ '=' :: entry.2).takeWhile (· ≠ '=') = entry.1 := by
    rw [List.takeWhile_append_of_pos before, List.takeWhile_cons_of_neg (by decide), List.append_nil]
  have no_byte : ¬entry.2.contains '\x00' = true := fun held => is_entry.byte (List.contains_iff_mem.mp held)
  rw [readEnvLine]
  dsimp only
  rw [strip_entry is_entry, if_neg is_line, if_neg (not_export is_entry), value]
  dsimp only
  rw [key, is_entry.name, Bool.not_true, if_neg Bool.false_ne_true, if_neg no_byte]

theorem envLines_print (are_entries : ∀ entry ∈ entries, IsEnvEntry entry) :
    envLines (printEnv entries) = (entries.map fun entry => entry.1 ++ '=' :: entry.2) ++ [[]] := by
  induction entries with
  | nil => rfl
  | cons entry entries ih =>
    have is_entry := are_entries entry List.mem_cons_self
    have plain : '\n' ∉ entry.1 ++ '=' :: entry.2 := by
      intro listed
      rcases List.mem_append.mp listed with in_name | behind
      · exact absurd ((isWordLetter_of_key is_entry.name).2 _ in_name) (by decide)
      · rcases List.mem_cons.mp behind with is_sign | in_value
        · exact absurd is_sign (by decide)
        · exact is_entry.line in_value
    have print : printEnv (entry :: entries) = (entry.1 ++ '=' :: entry.2) ++ '\n' :: printEnv entries := by
      rw [printEnv, List.flatMap_cons, ← printEnv, List.append_assoc (entry.1 ++ '=' :: entry.2)]
      rfl
    rw [print, envLines_break, envLines_plain plain, ih fun other listed => are_entries other (List.mem_cons_of_mem _ listed)]
    rfl

theorem readEnvLines_entries (are_entries : ∀ entry ∈ entries, IsEnvEntry entry) {warnings : List String} :
    readEnvLines number ((entries.map fun entry => entry.1 ++ '=' :: entry.2) ++ [[]]) env warnings = (env.update entries, warnings) := by
  induction entries generalizing number env with
  | nil => rfl
  | cons entry entries ih =>
    rw [List.map_cons, List.cons_append, readEnvLines, readEnvLine_entry (are_entries entry List.mem_cons_self)]
    exact ih fun other listed => are_entries other (List.mem_cons_of_mem _ listed)

/-- **What is written line by line is read back.** -/
theorem parse_print (are_entries : ∀ entry ∈ entries, IsEnvEntry entry) (distinct : entries.Distinct) :
    parseWorkspaceEnv (printEnv entries) = (entries, []) := by
  rw [parseWorkspaceEnv, envLines_print are_entries, parseEnvLines, readEnvLines_entries are_entries]
  exact congrArg (·, []) (Environment.update_eq_append distinct)

theorem dsn_read_back : parseWorkspaceEnv "DATABASE_URL=postgres://u:p@db/x?a=b\nEMPTY=\n".toList =
    ([("DATABASE_URL".toList, "postgres://u:p@db/x?a=b".toList), ("EMPTY".toList, [])], []) := by
  have written : printEnv [("DATABASE_URL".toList, "postgres://u:p@db/x?a=b".toList), ("EMPTY".toList, [])] =
      "DATABASE_URL=postgres://u:p@db/x?a=b\nEMPTY=\n".toList := by decide +kernel
  rw [← written]
  refine parse_print (fun entry listed => ?_) (by decide +kernel : List.Nodup _)
  rcases List.mem_cons.mp listed with rfl | listed
  · have last : "postgres://u:p@db/x?a=b".toList.getLast? = some 'b' := by decide +kernel
    refine ⟨by decide +kernel, by decide +kernel, by decide +kernel, fun c is_last => ?_⟩
    cases last.symm.trans is_last
    decide
  · rw [List.mem_singleton.mp listed]
    exact ⟨by decide +kernel, by decide, by decide, fun c is_last => absurd is_last.symm (Option.some_ne_none c)⟩

end Print

section Merge

variable {base extra environ : Environment} {token uvCache : Option Text} {name : Text} {file : EnvFile}

end Merge

end Issuebot
