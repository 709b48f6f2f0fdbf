import Issuebot.Agent.Characters
import Issuebot.Logic.Text
import Issuebot.Python

/-!
# The issue text as its reader saw it

`ToText` is the parser that turns GitHub's render of an issue back into text, one handler for each
event of the HTML stream, and `visibleText` is the text it leaves. What a page hides is dropped
as it is met: the contents of `script`, `style`, `template` and `rp` elements (`dropped`), of
`sr-only` elements (`hidden`), and the text nested too deep in elements set small (`small`).
-/

namespace Issuebot
set_option autoImplicit false
open Logic

/-- `_BLOCK` -/
def blockTags : List String :=
  ["p", "div", "h1", "h2", "h3", "h4", "h5", "h6", "li", "ul", "ol", "tr", "table", "blockquote", "details", "summary",
    "hr", "section", "dt", "dd", "caption", "figcaption"]

/-- `_DROPPED` -/
def droppedTags : List String := ["script", "style", "template", "rp"]

/-- `_STRIKE` -/
def strikeTags : List String := ["del", "s", "strike"]

/-- `_CELL` -/
def cellTags : List String := ["td", "th"]

/-- `_SMALL` -/
def smallTags : List String := ["sub", "sup", "small", "code", "tt"]

/-- `_SMALL_LIMIT` -/
def smallLimit : Nat := 3

/-- `_VOID` -/
def voidTags : List String :=
  ["area", "base", "br", "col", "embed", "hr", "img", "input", "link", "meta", "param", "source", "track", "wbr"]

/-- `_SPECIAL_LANGUAGES` -/
def specialLanguages : List Text :=
  ["mermaid".toList, "math".toList, "geojson".toList, "topojson".toList, "stl".toList]

section Characters

/-- A character that `strip_invisible` takes out. -/
def isInvisible (c : Char) : Bool :=
  isFormat c || inRanges [(0xFE00, 0xFE0F), (0xE0100, 0xE01EF)] c ||
    inRanges
      [(0x34F, 0x34F), (0x115F, 0x115F), (0x1160, 0x1160), (0x3164, 0x3164), (0xFFA0, 0xFFA0), (0x17B4, 0x17B5),
        (0x180B, 0x180F)] c ||
    (c.toNat < 0x20 && c ≠ '\t' && c ≠ '\n') || inRanges [(0x7F, 0x9F)] c

/-- `strip_invisible` -/
def stripInvisible (text : Text) : Text := text.filter fun c => !isInvisible c

/-- `_newlines` -/
def newlines : Text → Text
  | [] => []
  | '\r' :: '\n' :: rest => '\n' :: newlines rest
  | c :: rest => (if c = '\r' ∨ c = '\u2028' ∨ c = '\u2029' then '\n' else c) :: newlines rest

/-- `_clean` -/
def clean (text : Text) : Text := stripInvisible (newlines text)

/-- `str.strip` -/
def strip (text : Text) : Text := (text.dropWhile isSpace).rdropWhile isSpace

/-- The text behind a match of `\[hv]?phantom\s*{[^{}]*}` at the start. -/
def phantomRest (text : Text) : Option Text :=
  match text with
  | '\\' :: rest =>
    let named := match rest with
      | 'h' :: rest => rest
      | 'v' :: rest => rest
      | rest => rest
    match "phantom".toList.isPrefixOf? named with
    | none => none
    | some rest =>
      match rest.dropWhile isSpace with
      | '\x7b' :: body =>
        match body.dropWhile fun c => c ≠ '\x7b' && c ≠ '\x7d' with
        | '\x7d' :: rest => some rest
        | _ => none
      | _ => none
  | _ => none

/-- `_PHANTOM`, taken out. -/
def phantom : Pattern := fun text => (phantomRest text).map fun rest => (text.length - rest.length, [])

/-- A math span and what becomes of it: the dollars on either side, what is between them, and what is
behind it. -/
def mathSpan (text : Text) : Option (Text × Text × Text) :=
  match text with
  | '$' :: '$' :: rest =>
    match rest.takeWhile (· ≠ '$'), rest.dropWhile (· ≠ '$') with
    | c :: inside, '$' :: '$' :: after => some (['$', '$'], c :: inside, after)
    | _, _ => none
  | '$' :: rest =>
    match rest.takeWhile (· ≠ '$'), rest.dropWhile (· ≠ '$') with
    | c :: inside, '$' :: after => some (['$'], c :: inside, after)
    | _, _ => none
  | _ => none

/-- `_MATH_SPAN`, with what `_unphantom` puts in its stead. -/
def mathPattern : Pattern := fun text =>
  (mathSpan text).map fun (dollars, inside, after) =>
    let cleaned := substitute phantom inside
    let replacement := if cleaned ≠ inside ∧ strip cleaned = [] then [] else dollars ++ cleaned ++ dollars
    (text.length - after.length, replacement)

/-- `_unphantom` -/
def unphantom (text : Text) : Text := substitute phantom (substitute mathPattern text)

/-- A letter of a language's name in a class. -/
def isLanguageChar (c : Char) : Bool := c.isAlphanum || c = '_' || c = '+' || c = '-'

/-- `_LANGUAGE.match` at the start of a text. -/
def languageAt (text : Text) : Option Text :=
  let named (family : String) : Option Text :=
    match family.toList.isPrefixOf? text with
    | some rest => if rest.takeWhile isLanguageChar = [] then none else some (rest.takeWhile isLanguageChar)
    | none => none
  (named "highlight-source-").or (named "highlight-text-")

/-- `_LANGUAGE.search`, from the left. -/
def languageIn : Text → Option Text
  | [] => none
  | c :: rest => (languageAt (c :: rest)).or (languageIn rest)

/-- The opener of accessibility text in a line of a mermaid block, and what is behind it. -/
def mermaidAcc (line : Text) : Option (Char × Text) :=
  let rest := line.dropWhile isSpace
  match ("accTitle".toList.isPrefixOf? rest).or ("accDescr".toList.isPrefixOf? rest) with
  | none => none
  | some rest =>
    match rest.dropWhile isSpace with
    | ':' :: after => some (':', after)
    | '\x7b' :: after => some ('\x7b', after)
    | _ => none

/-- The lines of a mermaid block that are on the picture: no comments, no accessibility text. -/
def pictured : Bool → List Text → List Text
  | _, [] => []
  | true, line :: rest => pictured ((line.dropWhile isSpace).head? ≠ some '\x7d') rest
  | false, line :: rest =>
    if "%%".toList.isPrefixOf (line.dropWhile isSpace) then pictured false rest
    else
      match mermaidAcc line with
      | some (opener, after) => pictured (opener = '\x7b' && !after.contains '\x7d') rest
      | none => line :: pictured false rest

/-- The longest run of backticks, `run` being open before the text. -/
def longestTicks (run : Nat) : Text → Nat
  | [] => run
  | c :: rest => if c = '`' then longestTicks (run + 1) rest else max run (longestTicks 0 rest)

def hexDigits : Text := "0123456789ABCDEF".toList

/-- `quote` of one character. -/
def quoteChar (c : Char) : Text :=
  (String.utf8EncodeChar c).flatMap fun byte =>
    ['%', hexDigits.getD (byte.toNat / 16) '0', hexDigits.getD (byte.toNat % 16) '0']

/-- A fence's place in the text. -/
def hole (index : Nat) : Text := '\x00' :: Nat.toDigits 10 index ++ ['\x00']

/-- `_HOLE`, filled with the fences. -/
def holePattern (fences : List Text) : Pattern := fun text =>
  match text with
  | '\x00' :: rest =>
    let digits := rest.takeWhile Char.isDigit
    match digits, rest.dropWhile Char.isDigit with
    | _ :: _, '\x00' :: _ => some (digits.length + 2, fences.getD (Nat.ofDigitChars 10 digits 0) [])
    | _, _ => none
  | _ => none

end Characters

/-- A tag's attributes, as the parser lists them; a value may be missing. -/
abbrev Attrs := List (String × Option Text)

/-- `dict(attrs).get(key)`: the last one of a name counts, and it may have no value. -/
def Attrs.get (attrs : Attrs) (key : String) : Option Text := ((attrs.reverse.lookup key).getD none)

/-- `key in dict(attrs)` -/
def Attrs.has (attrs : Attrs) (key : String) : Bool := attrs.any fun attr => attr.1 == key

/-- `a.get("class") or ""` -/
def Attrs.classText (attrs : Attrs) : Text := (attrs.get "class").getD []

/-- `(a.get("type") or "").lower() == "checkbox"` -/
def Attrs.isCheckbox (py : Py) (attrs : Attrs) : Bool :=
  (attrs.get "type").any fun kind => py.lower (String.ofList kind) == "checkbox"

/-- An event of the HTML stream. -/
inductive HtmlEvent where
  | starttag (tag : String) (attrs : Attrs)
  | endtag (tag : String)
  | startendtag (tag : String) (attrs : Attrs)
  | data (data : Text)
  | comment (data : Text)

/-- `_ToText`. `link` has the innermost link first. -/
structure ToText where
  parts : List Text := []
  fences : List Text := []
  pre : Nat := 0
  preBuf : Text := []
  preLang : Text := []
  renderer : Bool := false
  table : Nat := 0
  cell : Nat := 0
  dropped : Nat := 0
  hidden : Option (String × Nat) := none
  math : Nat := 0
  small : Nat := 0
  firstCell : Bool := true
  language : Option Text := none
  link : List (Option Text × Nat) := []

namespace ToText

section Handlers

variable (py : Py)

/-- Something written outside any fence. -/
def put (text : String) (s : ToText) : ToText := { s with parts := s.parts ++ [text.toList] }

/-- `_out` -/
def out (text : Text) (s : ToText) : ToText :=
  if s.pre ≠ 0 then { s with preBuf := s.preBuf ++ text } else { s with parts := s.parts ++ [text] }

/-- What a fence holds. -/
def fenceContent (s : ToText) : Text :=
  let content :=
    if s.renderer && s.preLang = "mermaid".toList then
      ['\n'].intercalate (pictured false (s.preBuf.splitOn '\n'))
    else if s.renderer && s.preLang = "math".toList then unphantom s.preBuf
    else s.preBuf
  if content ≠ [] ∧ content.getLast? ≠ some '\n' then content ++ ['\n'] else content

/-- `_end_fence` -/
def endFence (s : ToText) : ToText :=
  let content := s.fenceContent
  let ticks := List.replicate (max 3 (longestTicks 0 content + 1)) '`'
  { s with
    fences := s.fences ++ [ticks ++ s.preLang ++ ['\n'] ++ content ++ ticks]
    parts := s.parts ++ [['\n'] ++ hole s.fences.length ++ ['\n']]
    preBuf := [] }

/-- A start tag outside any fence that is shown. -/
def openTag (tag : String) (attrs : Attrs) (s : ToText) : ToText :=
  if tag = "math-renderer" then { s with math := s.math + 1 }
  else if tag = "code" ∨ tag ∈ strikeTags then s.put (if tag = "code" then "`" else "~~")
  else if tag = "a" then { s with link := (attrs.get "href", s.parts.length) :: s.link }
  else if tag = "br" then s.put "\n"
  else if tag = "input" ∧ attrs.isCheckbox py then
    s.put (if attrs.has "checked" then "[x]" else "[ ]")
  else if tag = "li" then s.put "- "
  else if tag = "tr" then { s with firstCell := true }.put "\n"
  else if tag = "table" then { s with table := s.table + 1 }.put "\n"
  else if tag ∈ cellTags then
    let entered := { s with cell := s.cell + 1 }
    { (if s.firstCell then entered else entered.put " | ") with firstCell := false }
  else if tag ∈ blockTags then s.put "\n"
  else s

/-- A start tag that is shown, `small` counted. -/
def showStart (tag : String) (attrs : Attrs) (s : ToText) : ToText :=
  let s :=
    if tag = "div" then
      match languageIn attrs.classText with
      | some language => { s with language := some language }
      | none => s
    else s
  if tag = "pre" then
    let s :=
      if s.pre ≠ 0 then s
      else
        let lang := attrs.get "lang"
        let renderer := lang.any specialLanguages.contains
        { s with renderer, preLang := if renderer then lang.getD [] else s.language.getD [] }
    { s with pre := s.pre + 1 }
  else if s.pre ≠ 0 then
    if tag = "br" ∨ tag ∈ blockTags ∨ tag ∈ cellTags then { s with preBuf := s.preBuf ++ ['\n'] } else s
  else s.openTag py tag attrs

/-- The element's contents are for screen readers only. -/
def hides (tag : String) (attrs : Attrs) : Bool :=
  (words isSpace attrs.classText).contains "sr-only".toList && !voidTags.contains tag

/-- `handle_starttag` -/
def handleStarttag (tag : String) (attrs : Attrs) (s : ToText) : ToText :=
  match s.hidden with
  | some (name, depth) => if tag = name then { s with hidden := some (name, depth + 1) } else s
  | none =>
    if tag ∈ droppedTags then { s with dropped := s.dropped + 1 }
    else if s.dropped ≠ 0 then s
    else if hides tag attrs then { s with hidden := some (tag, 1) }
    else showStart py tag attrs (if tag ∈ smallTags then { s with small := s.small + 1 } else s)

/-- The link that ends: its target is shown where it is not the link's text. -/
def closeLink (s : ToText) : ToText :=
  match s.link with
  | [] => s
  | (href, start) :: link =>
    let href := (stripInvisible (href.getD [])).flatMap fun c => if isSpace c then quoteChar c else [c]
    let text := (s.parts.drop start).flatten
    if href ≠ [] ∧ strip text ≠ [] ∧ href ≠ strip text then
      { s with link, parts := s.parts.take start ++ [['['] ++ text ++ [']', '('] ++ href ++ [')']] }
    else { s with link }

/-- An end tag outside any fence that is shown. -/
def closeTag (tag : String) (s : ToText) : ToText :=
  if tag = "math-renderer" then { s with math := s.math - 1 }
  else if tag = "code" ∨ tag ∈ strikeTags then s.put (if tag = "code" then "`" else "~~")
  else if tag = "a" ∧ s.link ≠ [] then s.closeLink
  else if tag = "table" then { s with table := s.table - 1 }.put "\n"
  else if tag ∈ cellTags then { s with cell := s.cell - 1 }
  else if tag = "div" then { s with language := none }.put "\n"
  else if tag ∈ blockTags then s.put "\n"
  else s

/-- An end tag that is shown, `small` counted. -/
def showEnd (tag : String) (s : ToText) : ToText :=
  if tag = "pre" then
    if s.pre = 0 then s
    else
      let left := { s with pre := s.pre - 1 }
      if left.pre = 0 then left.endFence else left
  else if s.pre ≠ 0 then s
  else s.closeTag tag

/-- `handle_endtag` -/
def handleEndtag (tag : String) (s : ToText) : ToText :=
  match s.hidden with
  | some (name, depth) =>
    if tag = name then { s with hidden := if depth - 1 = 0 then none else some (name, depth - 1) } else s
  | none =>
    if tag ∈ droppedTags then { s with dropped := s.dropped - 1 }
    else if s.dropped ≠ 0 then s
    else showEnd tag (if tag ∈ smallTags then { s with small := s.small - 1 } else s)

/-- `handle_data` -/
def handleData (data : Text) (s : ToText) : ToText :=
  if s.dropped ≠ 0 ∨ s.hidden.isSome ∨ smallLimit ≤ s.small then s
  else
    let data := clean data
    -- the newlines between a table's cells and rows
    if s.table ≠ 0 ∧ s.cell = 0 ∧ s.pre = 0 ∧ strip data = [] then s
    else s.out (if s.math ≠ 0 ∧ s.pre = 0 then unphantom data else data)

/-- One event. -/
def handle (s : ToText) : HtmlEvent → ToText
  | .starttag tag attrs => s.handleStarttag py tag attrs
  | .endtag tag => s.handleEndtag tag
  | .startendtag tag attrs => if voidTags.contains tag then s.handleStarttag py tag attrs else s
  | .data data => s.handleData data
  | .comment _ => s

/-- `close`: a `<pre>` never closed is still a fence. -/
def close (s : ToText) : ToText := if s.pre ≠ 0 then { s with pre := 0 }.endFence else s

/-- The text the parser leaves: no blank lines, and the fences in their places. -/
def text (s : ToText) : Text :=
  let lines := (s.parts.flatten.splitOn '\n').map (List.rdropWhile isSpace)
  let collapsed := lines.filter (· ≠ [])
  substitute (holePattern s.fences) (['\n'].intercalate collapsed ++ if collapsed ≠ [] then ['\n'] else [])

end Handlers

end ToText

/-- `visible_text`, of the events `feed` makes of the page. -/
def visibleText (py : Py) (events : List HtmlEvent) : Text := ((events.foldl (ToText.handle py) {}).close).text

example : visibleText Py.ascii
    [.starttag "p" [], .data "a".toList, .starttag "a" [("href", some "u v".toList)], .data "b".toList, .endtag "a",
      .endtag "p", .starttag "pre" [], .data "x``\n\ny".toList, .endtag "pre"] =
    "a[b](u%20v)\n```\nx``\n\ny\n```\n".toList := by decide +kernel

end Issuebot
