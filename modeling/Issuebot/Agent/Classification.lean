import Issuebot.Agent.RateLimits
import Issuebot.Agent.Scrub
import Issuebot.Agent.Session
import Issuebot.Items

/-!
# Why a turn failed

`classifyResult` makes a category of claude's result, its exit status and the end of its stderr. A result
with subtype `success` and status 0 carries the agent's own words, and these are not to be mined for
markers; for a spent usage window they are, where the result is an error (`classifyResult_mute_iff`).
-/

namespace Issuebot
set_option autoImplicit false

/-- `AUTH_FAILURE_MARKERS` -/
def authFailureMarkers : List String :=
  ["authentication_error", "authentication failed", "failed to authenticate", "invalid api key", "invalid x-api-key",
    "invalid_api_key", "invalid bearer token", "please run /login", "claude auth login"]

/-- `AUTH_TOKEN_WORDS` -/
def authTokenWords : List String := ["oauth token", "oauth session", "bearer token", "access token"]

/-- `AUTH_VERDICT_WORDS` -/
def authVerdictWords : List String := ["expire", "invalid", "revoke", "unauthorized"]

/-- `USAGE_LIMIT_MARKERS` -/
def usageLimitMarkers : List String := ["session limit", "usage limit", "rate limit exceeded", "rate_limit_error"]

/-- `_MESSAGE_LIMIT` -/
def messageLimit : Nat := 500

/-- `bool(value)` -/
def Decoded.truthy : Decoded → Bool
  | null => false
  | bool value => value
  | int value => value ≠ 0
  | num value => value ≠ 0
  | nonfinite _ => true
  | str value => value ≠ []
  | arr elements => !elements.isEmpty
  | obj members => !members.isEmpty

/-- `sep.join(texts)` -/
def PyStr.join (sep : PyStr) (texts : List PyStr) : PyStr := (texts.intersperse sep).flatten

section Lines

/-- Where `str.splitlines` breaks. -/
def breaksLine (c : PyChar) : Bool :=
  c.is fun c => [0x0A, 0x0B, 0x0C, 0x0D, 0x1C, 0x1D, 0x1E, 0x85, 0x2028, 0x2029].contains c.toNat

/-- `_last_line`: of the lines that are not blank, the last, stripped. A line break is a space, so a `\r\n`
that is taken for two breaks leaves a blank line more. -/
def lastLine (text : PyStr) : PyStr :=
  let strip (line : PyStr) := (line.dropWhile (PyChar.is isSpace)).rdropWhile (PyChar.is isSpace)
  (((text.splitOnP breaksLine).map strip).filter fun line => line ≠ []).getLastD []

end Lines

/-- What the classifier uses of Python and of the deployment. -/
structure Classifier where
  lower : PyStr → PyStr
  str : Decoded → PyStr
  isWord : Char → Bool
  scrubber : Scrubber

namespace Classifier

variable (w : Classifier)

/-- One of the words is in the text, in small letters. -/
def has (words : List String) (text : PyStr) : Bool := words.any fun word => PyStr.ofString word <:+: w.lower text

/-- `is_usage_limit`, of one text. -/
def isUsageLimit (text : PyStr) : Bool := text ≠ [] && w.has usageLimitMarkers text

/-- `is_auth_failure`, of one text. -/
def isAuthFailure (text : PyStr) : Bool :=
  text ≠ [] && (w.has authFailureMarkers text || w.has authTokenWords text && w.has authVerdictWords text)

/-- `_result_text` -/
def resultText (result : Members) : PyStr :=
  match (result.item "result").string with
  | some (c :: text) => c :: text
  | _ =>
    match result.item "errors" with
    | .arr errors => PyStr.join (PyStr.ofString "; ") (errors.map w.str)
    | _ => []

/-- `_capped`, of a scrubbed text. -/
def capped (text : PyStr) : PyStr := (w.scrubber.scrub w.isWord text).take messageLimit

/-- `_with_tail` -/
def withTail (message tail : PyStr) : PyStr := if tail = [] then message else message ++ PyStr.ofString ": " ++ tail

/-- `str` of an exit status. -/
def statusText (exitCode : Option Int) : PyStr := PyStr.ofString (exitCode.elim "None" toString)

/-- `classify_result` -/
def classifyResult (result : Option Members) (exitCode : Option Int) (stderrTail : PyStr) (usageLimit : Option UsageLimit) :
    Option AgentErrorCategory × Option PyStr :=
  let stderrLine := w.capped (lastLine stderrTail)
  let auth := w.isAuthFailure stderrTail
  match result with
  | none =>
    let message := PyStr.ofString "claude exited with status " ++ statusText exitCode ++ PyStr.ofString " before reporting a result"
    (some (if auth then .authFailed else .processExit), some (withTail message stderrLine))
  | some result =>
    let subtype := stringOr (result.item "subtype") ""
    let isError := (result.item "is_error").truthy
    let text := w.capped (w.resultText result)
    let named := if subtype = [] then PyStr.ofString "unknown subtype" else subtype
    if subtype = PyStr.ofString "error_max_budget_usd" then
      (some .budgetExceeded, some (if text = [] then PyStr.ofString "claude stopped at the --max-budget-usd cap" else text))
    else if isError || subtype ≠ PyStr.ofString "success" then
      if usageLimit.isSome || w.isUsageLimit text then (some .usageLimited, some (withTail named text))
      else
        let auth := auth || (subtype ≠ PyStr.ofString "success" || exitCode ≠ some 0) && w.isAuthFailure text
        (some (if auth then .authFailed else .turnFailed), some (withTail named text))
    else if exitCode ≠ some 0 then
      let message := PyStr.ofString "claude reported success but exited with status " ++ statusText exitCode
      (some (if auth then .authFailed else .processExit), some (withTail message stderrLine))
    else (none, none)

/-- Two results that differ in what they say, at most. -/
def SaysOnly (result other : Members) : Prop :=
  ∀ name : String, name ≠ "result" → name ≠ "errors" → other.item name = result.item name

/-- The result that says `text`. -/
def saying (text : PyStr) (result : Members) : Members := setItem (PyStr.ofString "result") (.str text) result

/-- The result that says nothing. -/
def mute (result : Members) : Members := popItem (PyStr.ofString "errors") (popItem (PyStr.ofString "result") result)

variable {w : Classifier} {result : Members} {text stderrTail : PyStr} {name : String}

theorem ofString_injective {first second : String} (same : PyStr.ofString first = PyStr.ofString second) : first = second := by
  have texts : first.toList = second.toList :=
    List.map_injective_iff.mpr (fun _ _ same => PyChar.scalar.inj same) same
  exact String.ext_iff.mpr texts

theorem item_saying_of_ne (ne : name ≠ "result") : (saying text result).item name = result.item name := by
  have ne : PyStr.ofString name ≠ PyStr.ofString "result" := fun same => ne (ofString_injective same)
  rw [Members.item, saying, lookup_setItem_of_ne ne]
  rfl

theorem item_mute_of_ne (ne : name ≠ "result") (ne' : name ≠ "errors") : (mute result).item name = result.item name := by
  have ne : PyStr.ofString name ≠ PyStr.ofString "result" := fun same => ne (ofString_injective same)
  have ne' : PyStr.ofString name ≠ PyStr.ofString "errors" := fun same => ne' (ofString_injective same)
  rw [Members.item, mute, lookup_popItem_of_ne ne', lookup_popItem_of_ne ne]
  rfl

theorem saysOnly_saying : SaysOnly result (saying text result) := fun _ ne _ => item_saying_of_ne ne

theorem saysOnly_mute : SaysOnly result (mute result) := fun _ ne ne' => item_mute_of_ne ne ne'

theorem resultText_saying (some_char : text ≠ []) : w.resultText (saying text result) = text := by
  obtain ⟨c, rest, rfl⟩ := List.exists_cons_of_ne_nil some_char
  rw [resultText, Members.item, saying, lookup_setItem_self]
  rfl

theorem resultText_mute : w.resultText (mute result) = [] := by
  have no_result : (mute result).item "result" = .null := by
    rw [Members.item, mute, lookup_popItem_of_ne (fun same => absurd (ofString_injective same) (by decide)), lookup_popItem_self]
    rfl
  have no_errors : (mute result).item "errors" = .null := by
    rw [Members.item, mute, lookup_popItem_self]
    rfl
  rw [resultText, no_result, no_errors]
  rfl

theorem scrub_nil (scrubber : Scrubber) (isWord : Char → Bool) : scrubber.scrub isWord [] = [] := by
  apply Scrubber.scrub_induction (motive := fun text => text = [])
  · rfl
  · rintro mask - text rfl
    rfl

/-- The category of a result of status 0 with subtype `success`. -/
theorem category_of_success (success : result.item "subtype" = .str (PyStr.ofString "success")) :
    (w.classifyResult (some result) (some 0) stderrTail none).1 =
      if (result.item "is_error").truthy = true then
        if w.isUsageLimit (w.capped (w.resultText result)) = true then some .usageLimited
        else some (if w.isAuthFailure stderrTail then .authFailed else .turnFailed)
      else none := by
  have subtype : stringOr (result.item "subtype") "" = PyStr.ofString "success" := by rw [success]; rfl
  have other : PyStr.ofString "success" ≠ PyStr.ofString "error_max_budget_usd" := by decide
  rw [classifyResult]
  simp only [subtype, if_neg other, ne_eq, not_true_eq_false, decide_false, Bool.or_false, Option.isSome_none, Bool.false_or,
    Bool.false_and, if_false]
  split
  · split
    · rfl
    · rfl
  · rfl

/-- A result of subtype `success` and status 0 has one category, whatever it says, where it is no error;
or where no text that is scrubbed has a marker of a spent usage window, as the deployment's scrubber has it. -/
theorem classifyResult_mute_iff (w : Classifier) (result : Members) (stderrTail : PyStr)
    (success : result.item "subtype" = .str (PyStr.ofString "success")) :
    (∀ other, SaysOnly result other →
      (w.classifyResult (some other) (some 0) stderrTail none).1 = (w.classifyResult (some result) (some 0) stderrTail none).1) ↔
    (result.item "is_error").truthy = false ∨ ∀ text, w.isUsageLimit (w.capped text) = false := by
  have category {other : Members} (alike : SaysOnly result other) := @category_of_success w other stderrTail
    ((alike "subtype" (by decide) (by decide)).trans success)
  have is_error {other : Members} (alike : SaysOnly result other) := alike "is_error" (by decide) (by decide)
  cases error : (result.item "is_error").truthy with
  | false =>
    refine iff_of_true (fun other alike => ?_) (.inl rfl)
    rw [category alike, category_of_success success, is_error alike, error]
    rfl
  | true =>
    rw [or_iff_right (by decide)]
    have mined {other : Members} (alike : SaysOnly result other) :
        (w.classifyResult (some other) (some 0) stderrTail none).1 =
          if w.isUsageLimit (w.capped (w.resultText other)) = true then some .usageLimited
          else some (if w.isAuthFailure stderrTail then .authFailed else .turnFailed) := by
      rw [category alike, is_error alike, if_pos error]
    constructor
    · intro same text
      by_contra marked
      have marked : w.isUsageLimit (w.capped text) = true := Bool.eq_true_of_not_eq_false marked
      have unmarked : w.isUsageLimit (w.capped []) = false := by
        rw [capped, scrub_nil]
        rfl
      have some_char : text ≠ [] := by
        rintro rfl
        cases marked.symm.trans unmarked
      have limited := (mined (@saysOnly_saying result text)).symm.trans (same _ saysOnly_saying)
      have silent := (mined (@saysOnly_mute result)).symm.trans (same _ saysOnly_mute)
      rw [resultText_saying some_char, if_pos marked] at limited
      rw [resultText_mute, if_neg (by rw [unmarked]; exact Bool.false_ne_true)] at silent
      have clash := limited.trans silent.symm
      split at clash
      · cases clash
      · cases clash
    · intro silent other alike
      have unmarked (text : PyStr) : ¬ w.isUsageLimit (w.capped text) = true := by
        rw [silent text]
        exact Bool.false_ne_true
      rw [mined alike, mined (fun _ _ _ => rfl), if_neg (unmarked _), if_neg (unmarked _)]

/-- Small letters of ASCII, and the shapes of credentials alone. -/
def plainClassifier : Classifier where
  lower text := text.map fun c => match c with
    | .scalar c => .scalar c.toLower
    | other => other
  str _ := []
  isWord c := c.isAlphanum || c = '_'
  scrubber := .default

/-- A failed result of subtype `success`. -/
def failedResult : Members :=
  [(PyStr.ofString "type", .str (PyStr.ofString "result")), (PyStr.ofString "subtype", .str (PyStr.ofString "success")),
    (PyStr.ofString "is_error", .bool true)]

/-- An agent that writes about usage limits in its failed message holds dispatch. -/
theorem agent_chooses_category :
    (plainClassifier.classifyResult (some (saying (PyStr.ofString "I added the usage limit") failedResult)) (some 0) [] none).1 =
      some .usageLimited ∧
    (plainClassifier.classifyResult (some (saying (PyStr.ofString "I added the limit") failedResult)) (some 0) [] none).1 =
      some .turnFailed := by
  decide +kernel

theorem failedResult_mute_iff :
    (∀ other, SaysOnly failedResult other →
      (plainClassifier.classifyResult (some other) (some 0) [] none).1 =
        (plainClassifier.classifyResult (some failedResult) (some 0) [] none).1) ↔
    (failedResult.item "is_error").truthy = false ∨ ∀ text, plainClassifier.isUsageLimit (plainClassifier.capped text) = false :=
  classifyResult_mute_iff plainClassifier failedResult [] rfl

end Classifier

end Issuebot
