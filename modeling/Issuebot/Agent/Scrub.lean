import Mathlib.Data.List.Dedup
import Mathlib.Data.List.Sort
import Issuebot.Agent.Characters
import Issuebot.Agent.Prompt
import Issuebot.Logic.Masking
import Issuebot.Strings

/-!
# The scrubber

Known values, the shapes of credentials and the home directory are masked one after another, each
mask looking at the text as the one before it left it. `Scrubber` carries that its spellings are
those of the usable values, longest first; values of one length come in any order, as Python's sets
have none.
-/

namespace Issuebot
set_option autoImplicit false
open Logic

/-- `REDACTED` -/
def redacted : PyStr := PyStr.ofString "***"

/-- `MIN_SECRET_LENGTH` -/
def minSecretLength : Nat := 12

/-- What the scrubber masks a value for: it is long enough, and not all digits. -/
def isUsable (value : PyStr) : Bool := minSecretLength ≤ value.length && !value.all (PyChar.is Char.isDigit)

section Spelling

def hexDigit (n : Nat) : Char := "0123456789abcdef".toList.getD n '0'

/-- The four digits of `\uXXXX`. -/
def hex4 (n : Nat) : List Char := [4096, 256, 16, 1].map fun unit => hexDigit (n / unit % 16)

def unicodeEscape (n : Nat) : PyStr := PyStr.ofText ('\\' :: 'u' :: hex4 n)

/-- A character as `json.dumps` spells it in a string. -/
def jsonChar (c : PyChar) : PyStr :=
  let n := c.code
  if n = 0x22 then PyStr.ofString "\\\""
  else if n = 0x5C then PyStr.ofString "\\\\"
  else if n = 0x0A then PyStr.ofString "\\n"
  else if n = 0x0D then PyStr.ofString "\\r"
  else if n = 0x09 then PyStr.ofString "\\t"
  else if n = 0x0C then PyStr.ofString "\\f"
  else if n = 0x08 then PyStr.ofString "\\b"
  else if 0x20 ≤ n && n ≤ 0x7E then [c]
  else if n < 0x10000 then unicodeEscape n
  else unicodeEscape (0xD800 + (n - 0x10000) / 0x400) ++ unicodeEscape (0xDC00 + (n - 0x10000) % 0x400)

/-- `json.dumps(s)[1:-1]` -/
def jsonSpelling (value : PyStr) : PyStr := value.flatMap jsonChar

end Spelling

/-- A letter or digit of ASCII: `[0-9A-Za-z]`. -/
def isAlnum : PyChar → Bool := PyChar.is Char.isAlphanum

/-- `_VALUE_BOUNDARY`, and what matches a value as a whole word. -/
def secretMask (value : PyStr) : Mask PyChar :=
  .ofParts redacted (fun prev => !prev.any isAlnum) .nothing
    ((Scan.word (value.map fun c d => d = c)).before fun next => !next.any isAlnum) .nothing

section Shapes

-- `\w`, which `\b` looks at
variable (isWord : Char → Bool)

/-- `\b` before a word character. -/
def wordStart (prev : Option PyChar) : Bool := !prev.any (PyChar.is isWord)

/-- `\b` after one. -/
def wordEnd (next : Option PyChar) : Bool := !next.any (PyChar.is isWord)

/-- The text itself. -/
def exactly (text : String) : Scan PyChar := .word (text.toList.map fun letter => PyChar.is (· = letter))

/-- The text in either case. -/
def eitherCase (text : String) : Scan PyChar := .word (text.toList.map fun letter => PyChar.is (sameLetter letter))

/-- `gh`, one letter and an underscore, and the token behind them. -/
def githubToken : Mask PyChar :=
  .ofParts redacted (wordStart isWord) .nothing
    (((exactly "gh").andThen ((Scan.word [PyChar.is fun c => "pousr".toList.contains c]).andThen
      ((exactly "_").andThen (.many isAlnum 20)))).before (wordEnd isWord)) .nothing

def isTokenChar : PyChar → Bool := PyChar.is fun c => c.isAlphanum || c = '_'

def githubPat : Mask PyChar :=
  .ofParts redacted (wordStart isWord) .nothing
    (((exactly "github_pat_").andThen (.many isTokenChar 20)).before (wordEnd isWord)) .nothing

def anthropicKey : Mask PyChar :=
  .ofParts redacted (wordStart isWord) .nothing
    ((exactly "sk-ant-").andThen (.many (PyChar.is fun c => c.isAlphanum || c = '_' || c = '-') 20)) .nothing

def slackWebhook : Mask PyChar :=
  .ofParts redacted (fun _ => true) (exactly "https://hooks.slack.com/services/")
    (.many (PyChar.is fun c => c.isAlphanum || c = '/' || c = '_' || c = '-') 1) .nothing

def isSchemeChar : PyChar → Bool :=
  PyChar.is fun c => c.isLower || c.isDigit || c = '+' || c = '.' || c = '-'

/-- The character is none of `stops`, and no space. -/
def runsOn (stops : String) (c : PyChar) : Bool := !c.is fun c => isSpace c || stops.toList.contains c

def urlPassword : Mask PyChar :=
  .ofParts redacted (fun prev => !prev.any isSchemeChar)
    ((Scan.word [PyChar.is Char.isLower]).andThen ((Scan.many isSchemeChar 0).andThen ((exactly "://").andThen
      ((Scan.many (runsOn "/:@\"'\\") 0).andThen (exactly ":")))))
    (.many (runsOn "/@\"'\\") 1) (exactly "@")

/-- A character of `[A-Za-z0-9_]` whose case is ignored. -/
def isNameChar : PyChar → Bool :=
  PyChar.is fun c => c.isAlphanum || c = '_' || c = dottedI || c = dotlessI || c = '\u017f' || c = '\u212a'

/-- The names of secrets, in small letters. -/
def secretNames : List String := ["token", "secret", "password", "passwd", "api_key"]

/-- The name ends as a secret's does. -/
def namesSecret (name : PyStr) : Bool :=
  secretNames.any fun ending =>
    (eitherCase ending).run (name.drop (name.length - ending.toList.length)) = some ending.toList.length

/-- `[A-Za-z0-9_]*(?:TOKEN|SECRET|PASSWORD|PASSWD|API_KEY)`, a character that is none of a name's behind it. -/
def secretName : Scan PyChar := (Scan.many isNameChar 0).only namesSecret

def assignment : Mask PyChar :=
  .ofParts redacted (wordStart isWord) (secretName.andThen (exactly "=")) (.many (runsOn "\"'\\&") 1) .nothing

def jsonMember : Mask PyChar :=
  .ofParts redacted (fun _ => true)
    ((exactly "\"").andThen (secretName.andThen ((exactly "\"").andThen ((Scan.many (PyChar.is isSpace) 0).andThen
      ((exactly ":").andThen ((Scan.many (PyChar.is isSpace) 0).andThen (exactly "\"")))))))
    (.many (fun c => !c.is fun c => c = '"' || c = '\\') 1) (exactly "\"")

def authorization : Mask PyChar :=
  .ofParts redacted (wordStart isWord)
    ((eitherCase "authorization:").andThen ((Scan.many (PyChar.is isSpace) 0).andThen
      (((eitherCase "bearer").orElse ((eitherCase "token").orElse (eitherCase "basic"))).andThen
        (.many (PyChar.is isSpace) 1))))
    (.many (runsOn "\"'\\") 1) .nothing

/-- `_SHAPES` -/
def shapes : List (Mask PyChar) :=
  [githubToken isWord, githubPat isWord, anthropicKey isWord, slackWebhook, urlPassword, assignment isWord, jsonMember,
    authorization isWord]

end Shapes

section Home

def home : PyStr := PyStr.ofString "~"

/-- What is beside the home directory in a longer path. -/
def isPathChar : PyChar → Bool := PyChar.is fun c => c.isAlphanum || c = '_' || c = '.' || c = '-'

def homeMask (directory : PyStr) : Mask PyChar :=
  .ofParts home (fun prev => !prev.any isPathChar) .nothing
    ((Scan.word (directory.map fun c d => d = c)).before fun next => !next.any isPathChar) .nothing

/-- The spelling of Claude Code's project directories. -/
def dashedMask (directory : PyStr) : Mask PyChar :=
  .ofParts home (fun prev => !prev.any isPathChar) .nothing
    ((Scan.word ((directory.map fun c => if c = .scalar '/' then .scalar '-' else c).map fun c d => d = c)).before fun next =>
      !next.any (PyChar.is fun c => c.isAlphanum || c = '_' || c = '.')) .nothing

/-- The masks of the home directory, if it is one. -/
def homeMasks (directory : Option PyStr) : List (Mask PyChar) :=
  let stripped := (directory.getD []).rdropWhile (· = .scalar '/')
  if stripped.head? = some (.scalar '/') && 1 < stripped.length then [homeMask stripped, dashedMask stripped] else []

end Home

structure Scrubber where
  /-- The values issuebot knows. -/
  known : List PyStr
  /-- The spellings they are masked in, in the order they are. -/
  spellings : List PyStr
  isSpelling : ∀ s, s ∈ spellings ↔ ∃ value ∈ known, isUsable value = true ∧ (s = value ∨ s = jsonSpelling value)
  longestFirst : spellings.Pairwise fun s s' => s'.length ≤ s.length
  directory : Option PyStr

namespace Scrubber

/-- `Scrubber(secrets=…, home=…)`, values of one length in the order they are given in. -/
def of (secrets : List PyStr) (directory : Option PyStr) : Scrubber where
  known := secrets
  spellings :=
    ((secrets.filter isUsable).flatMap fun value => [value, jsonSpelling value]).dedup.insertionSort fun s s' =>
      s'.length ≤ s.length
  isSpelling s := by
    rw [List.mem_insertionSort, List.mem_dedup, List.mem_flatMap]
    simp only [List.mem_filter, List.mem_cons, List.not_mem_nil, or_false, and_assoc]
  longestFirst := by
    have total : Std.Total fun s s' : PyStr => s'.length ≤ s.length := ⟨fun s s' => Nat.le_total s'.length s.length⟩
    have trans : IsTrans PyStr fun s s' => s'.length ≤ s.length := ⟨fun _ _ _ first second => Nat.le_trans second first⟩
    exact List.pairwise_insertionSort _ _
  directory

/-- `DEFAULT_SCRUBBER` -/
def default : Scrubber := of [] none

variable (isWord : Char → Bool)

/-- The masks in the order they are applied. -/
def masks (scrubber : Scrubber) : List (Mask PyChar) :=
  scrubber.spellings.map secretMask ++ shapes isWord ++ homeMasks scrubber.directory

/-- `Scrubber.scrub` -/
def scrub (scrubber : Scrubber) (text : PyStr) : PyStr := (scrubber.masks isWord).foldl (fun text mask => mask.sub text) text

/-- How many characters the masks add, each to the text it finds. -/
def growthOf : List (Mask PyChar) → PyStr → Int
  | [], _ => 0
  | mask :: later, text => mask.growth text + growthOf later (mask.sub text)

def growth (scrubber : Scrubber) (text : PyStr) : Int := growthOf (scrubber.masks isWord) text

variable {isWord} {scrubber : Scrubber} {mask : Mask PyChar} {text : PyStr} {c : PyChar}

/-- A mask of the scrubber shows three asterisks or a tilde. -/
theorem shown_of_mem (mem : mask ∈ scrubber.masks isWord) : mask.shown = redacted ∨ mask.shown = home := by
  rcases List.mem_append.mp mem with mem | of_home
  · left
    rcases List.mem_append.mp mem with of_value | of_shape
    · obtain ⟨value, -, rfl⟩ := List.mem_map.mp of_value
      rfl
    · have each : ∀ mask ∈ shapes isWord, mask.shown = redacted := by
        unfold shapes
        simp only [List.forall_mem_cons, List.not_mem_nil, false_imp_iff, implies_true, and_true]
        exact ⟨rfl, rfl, rfl, rfl, rfl, rfl, rfl, rfl⟩
      exact each mask of_shape
  · right
    dsimp only [homeMasks] at of_home
    split at of_home
    · rcases List.mem_cons.mp of_home with rfl | of_home
      · rfl
      · rw [List.mem_singleton.mp of_home]
        rfl
    · cases of_home

theorem mem_shown (listed : mask ∈ scrubber.masks isWord) (mem : c ∈ mask.shown) : c = .scalar '*' ∨ c = .scalar '~' := by
  rcases shown_of_mem listed with same | same
  · rw [same] at mem
    left
    simpa [redacted, PyStr.ofString, PyStr.ofText] using mem
  · rw [same] at mem
    right
    simpa [home, PyStr.ofString, PyStr.ofText] using mem

theorem shows (mem : mask ∈ scrubber.masks isWord) : mask.shown ≠ [] := by
  rcases shown_of_mem mem with same | same
  · rw [same]
    exact List.cons_ne_nil _ _
  · rw [same]
    exact List.cons_ne_nil _ _

/-- What holds of a text and is kept by each mask holds of the scrubbed text. -/
theorem scrub_induction {motive : PyStr → Prop} (start : motive text)
    (step : ∀ mask ∈ scrubber.masks isWord, ∀ text, motive text → motive (mask.sub text)) :
    motive (scrubber.scrub isWord text) := by
  have each : ∀ masks : List (Mask PyChar), (∀ mask ∈ masks, ∀ text, motive text → motive (mask.sub text)) →
      ∀ text, motive text → motive (masks.foldl (fun text mask => mask.sub text) text) := by
    intro masks
    induction masks with
    | nil => exact fun _ _ start => start
    | cons mask masks ih =>
      intro step text start
      exact ih (fun mask mem => step mask (List.mem_cons_of_mem _ mem)) _ (step mask List.mem_cons_self text start)
  exact each _ step text start

/-- A character of a scrubbed text is the text's, or one of the two masks'. -/
theorem mem_scrub (mem : c ∈ scrubber.scrub isWord text) : c ∈ text ∨ c = .scalar '*' ∨ c = .scalar '~' := by
  revert c
  apply scrub_induction (motive := fun scrubbed => ∀ {c}, c ∈ scrubbed → c ∈ text ∨ c = .scalar '*' ∨ c = .scalar '~')
  · intro c mem
    exact .inl mem
  · intro mask listed scrubbed ih c mem
    rcases Mask.mem_sub mem with old | of_mask
    · exact ih old
    · exact .inr (mem_shown listed of_mask)

theorem scrub_ne_nil (nonempty : text ≠ []) : scrubber.scrub isWord text ≠ [] := by
  apply scrub_induction (motive := fun scrubbed => scrubbed ≠ [])
  · exact nonempty
  · intro mask listed scrubbed ih
    exact Mask.sub_ne_nil (shows listed) ih

/-- The first and the last character of a scrubbed text are the text's, or one of the two masks'. -/
theorem edge_scrub (edge : (scrubber.scrub isWord text).head? = some c ∨ (scrubber.scrub isWord text).getLast? = some c) :
    text.head? = some c ∨ text.getLast? = some c ∨ c = .scalar '*' ∨ c = .scalar '~' := by
  revert c
  apply scrub_induction (motive := fun scrubbed => ∀ {c}, scrubbed.head? = some c ∨ scrubbed.getLast? = some c →
    text.head? = some c ∨ text.getLast? = some c ∨ c = .scalar '*' ∨ c = .scalar '~')
  · rintro c (head | last)
    · exact .inl head
    · exact .inr (.inl last)
  · intro mask listed scrubbed ih c edge
    rcases edge with head | last
    · rcases Mask.head_sub (shows listed) head with old | mem
      · exact ih (.inl old)
      · exact .inr (.inr (mem_shown listed mem))
    · rcases Mask.getLast_sub (shows listed) last with old | mem
      · exact ih (.inr old)
      · exact .inr (.inr (mem_shown listed mem))

variable (isWord scrubber text) in
/-- A scrubbed text is as much longer as the masks make it. -/
theorem length_scrub : ((scrubber.scrub isWord text).length : Int) = text.length + scrubber.growth isWord text := by
  have each : ∀ (masks : List (Mask PyChar)) (text : PyStr),
      ((masks.foldl (fun text mask => mask.sub text) text).length : Int) = text.length + growthOf masks text := by
    intro masks
    induction masks with
    | nil =>
      intro text
      exact (Int.add_zero _).symm
    | cons mask masks ih =>
      intro text
      rw [List.foldl_cons, ih, Mask.length_sub, growthOf, Int.add_assoc]
  exact each _ text

variable (isWord scrubber) in
/-- A scrubbed text is a text. -/
theorem encode_scrub (text : Text) : ∃ scrubbed, (scrubber.scrub isWord (PyStr.ofText text)).encode = some scrubbed := by
  cases is_text : (scrubber.scrub isWord (PyStr.ofText text)).encode with
  | some scrubbed => exact ⟨scrubbed, rfl⟩
  | none =>
    obtain ⟨n, mem⟩ := PyStr.encode_eq_none.mp is_text
    rcases mem_scrub mem with of_text | same | same
    · obtain ⟨_, -, same⟩ := List.mem_map.mp of_text
      cases same
    · cases same
    · cases same

end Scrubber
end Issuebot
