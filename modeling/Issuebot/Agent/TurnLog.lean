import Issuebot.Agent.StreamParser
import Issuebot.Logic.Utf8

/-!
# Capturing a run's turn files

`captureTurns` reads the stream, the prompt and the standard error of every turn under a run's log
directory, scrubs them and cuts them to their limits. A stream that is longer than what is read of its head
has its tail read as well, for the result line. `json.loads` is a parameter, as far as it raises.
-/

namespace Issuebot
set_option autoImplicit false
open Logic

abbrev Bytes := Utf8.Bytes

/-- `PROMPT_LIMIT` -/
def promptLimit : Nat := 256 * 1024

/-- `LINE_LIMIT` -/
def lineLimit : Nat := 64 * 1024

/-- `STREAM_LIMIT` -/
def streamLimit : Nat := 2 * 1024 * 1024

/-- `STDERR_LIMIT` -/
def stderrLimit : Nat := 64 * 1024

/-- `RESULT_TEXT_LIMIT` -/
def resultTextLimit : Nat := 4 * 1024

/-- `STREAM_TAIL_LIMIT` -/
def streamTailLimit : Nat := 1024 * 1024

/-- `TURN_STREAM.limit` -/
def turnStreamLimit : Nat := 64 * 1024 * 1024

/-- `TURN_PROMPT.limit` -/
def turnPromptLimit : Nat := 4 * 1024 * 1024

/-- `TURN_STDERR.limit` -/
def turnStderrLimit : Nat := 16 * 1024 * 1024

/-- What one read returned, and the size the file had. -/
structure ReadBack where
  data : Bytes
  size : Nat

def ReadBack.truncated (read : ReadBack) : Bool := read.data.length < read.size

/-- `Boundary.read` of a file that it opens, from its head. -/
def readHead (content : Bytes) (limit : Nat) : ReadBack := ⟨content.take limit, content.length⟩

/-- `Boundary.read` of a file that it opens, from its tail. -/
def readTail (content : Bytes) (limit : Nat) : ReadBack := ⟨content.drop (content.length - limit), content.length⟩

/-- A line, and where it begins in the file, which the code does not keep. -/
structure Line where
  start : Nat
  bytes : Bytes
  deriving DecidableEq

/-- `bytes.splitlines()`, from `start` on; `line` is what has been read of the line there. -/
def byteLines (start : Nat) (line : Bytes) : Bytes → List Line
  | [] => if line = [] then [] else [⟨start, line⟩]
  | 13 :: 10 :: rest => ⟨start, line⟩ :: byteLines (start + line.length + 2) [] rest
  | b :: rest =>
    if b = 10 ∨ b = 13 then ⟨start, line⟩ :: byteLines (start + line.length + 1) [] rest
    else byteLines start (line ++ [b]) rest

/-- `line.strip()` leaves nothing. -/
def Line.isBlank (line : Line) : Bool := line.bytes.all fun b => [9, 10, 11, 12, 13, 32].contains b

/-- The lines of what is read at `start` that are not blank. -/
def linesAt (start : Nat) (data : Bytes) : List Line := (byteLines start [] data).filter fun line => !line.isBlank

/-- A line, and the JSON object it is. -/
structure Entry where
  line : Line
  message : Option Members

section Lines

variable (loads : Bytes → Loaded)

/-- `_message`: a `ValueError` is caught. -/
def readMessage (line : Bytes) : Except Uncaught (Option Members) :=
  match loads line with
  | .value value => .ok value.asObject
  | .refused => .ok none
  | .raised .valueError => .ok none
  | .raised error => .error error

def readEntries (lines : List Line) : Except Uncaught (List Entry) :=
  lines.mapM fun line => (readMessage loads line.bytes).map fun message => ⟨line, message⟩

end Lines

/-- `_stub` -/
def stub (message : Option Members) (size : Nat) : Bytes :=
  let original := match message.bind fun message => (message.item "type").string with
    | some type => PyStr.ofString "\"" ++ jsonSpelling type ++ PyStr.ofString "\""
    | none => PyStr.ofString "null"
  (PyStr.ofString "\x7b\"type\": \"issuebot_omitted\", \"original_type\": " ++ original ++
    PyStr.ofString ", \"bytes\": " ++ PyStr.ofString (toString size) ++ PyStr.ofString "\x7d").map fun c => UInt8.ofNat c.code

namespace Entry

def isOversized (entry : Entry) : Bool := lineLimit < entry.line.bytes.length

/-- The line as it is stored. -/
def stored (entry : Entry) : Bytes :=
  if entry.isOversized then stub entry.message entry.line.bytes.length else entry.line.bytes

/-- The message says that it is of this type, and of this subtype where one is asked for. -/
def isOf (entry : Entry) (kind : String) (subtype : Option String) : Bool :=
  entry.message.any fun message =>
    (message.item "type").string = some (PyStr.ofString kind) &&
      subtype.all fun subtype => (message.item "subtype").string = some (PyStr.ofString subtype)

def isResult (entry : Entry) : Bool := entry.isOf "result" none

def isInit (entry : Entry) : Bool := entry.isOf "system" (some "init")

end Entry

/-- `_last_index` -/
def lastIndex (p : Entry → Bool) : List Entry → Option Nat
  | [] => none
  | entry :: rest =>
    match lastIndex p rest with
    | some index => some (index + 1)
    | none => if p entry then some 0 else none

/-- The lines from the head on that fit the stream's limit, `total` bytes being kept before them, and whether one does not. -/
def keepLines (total : Nat) : List Entry → List Entry × Bool
  | [] => ([], false)
  | entry :: rest =>
    if streamLimit < total + entry.stored.length + 1 then ([], true)
    else (entry :: (keepLines (total + entry.stored.length + 1) rest).1, (keepLines (total + entry.stored.length + 1) rest).2)

/-- What is stored of a stream. -/
structure Chosen where
  entries : List Entry
  kept : List Entry
  resultIndex : Option Nat
  truncated : Bool

/-- The last result line of the tail, where that is read. -/
def tailResult (tail : Option (List Entry)) : Option Entry :=
  tail.bind fun tail => (lastIndex Entry.isResult tail).bind fun index => tail[index]?

/-- The lines that are stored: those of the head that fit, and the result line behind them. -/
def chooseLines (head : List Entry) (tail : Option (List Entry)) : Chosen :=
  let added := tailResult tail
  let entries := head ++ added.toList
  let resultIndex := if added.isSome then some (entries.length - 1) else lastIndex Entry.isResult head
  let truncated := (keepLines 0 head).2 || added.isSome
  let kept := (keepLines 0 head).1
  { entries, resultIndex, truncated
    kept := match resultIndex with
      | some index => if truncated ∧ kept.length ≤ index then kept ++ entries[index]?.toList else kept
      | none => kept }

/-- The message at an index, nothing where there is none. -/
def messageAt (entries : List Entry) (index : Option Nat) : Members :=
  ((index.bind fun index => entries[index]?).bind Entry.message).getD []

/-- One turn's files as they are stored. -/
structure TurnCapture where
  turnNumber : Nat
  model : Option PyStr
  subtype : Option PyStr
  isError : Option Bool
  numTurns : Option Int
  inputTokens : Option Int
  cacheCreationInputTokens : Option Int
  cacheReadInputTokens : Option Int
  outputTokens : Option Int
  costUsd : Option PyFloat
  durationMs : Option Int
  resultText : Option PyStr
  prompt : PyStr
  promptBytes : Nat
  stream : PyStr
  streamBytes : Nat
  streamLines : Nat
  omittedLines : Nat
  stderr : PyStr
  stderrBytes : Nat
  truncated : Bool

/-- The Python a capture runs on, and the scrubber it is given. -/
structure CaptureWorld where
  loads : Bytes → Loaded
  isWord : Char → Bool
  decimal : Char → Option Nat
  scrubber : Scrubber

/-- `_text` -/
def storedText (data : Bytes) : PyStr :=
  PyStr.ofText ((Utf8.decode ['\ufffd'] data).map fun c => if c = '\x00' then '\ufffd' else c)

/-- `_head`; `text.encode` raises over a lone surrogate. -/
def headOf (text : PyStr) (limit : Nat) : Except Uncaught PyStr :=
  match text.encode with
  | none => .error .valueError
  | some chars => .ok (PyStr.ofText (Utf8.decode [] ((Utf8.encode chars).take limit)))

/-- `_tail` -/
def tailOf (text : PyStr) (limit : Nat) : Except Uncaught PyStr :=
  match text.encode with
  | none => .error .valueError
  | some chars => .ok (PyStr.ofText (Utf8.decode [] ((Utf8.encode chars).drop ((Utf8.encode chars).length - limit))))

/-- `_bool` -/
def Decoded.bool? : Decoded → Option Bool
  | bool value => some value
  | _ => none

/-- `_int` -/
def Decoded.int? : Decoded → Option Int
  | int value => some value
  | _ => none

namespace CaptureWorld

variable (w : CaptureWorld)

def scrub (text : PyStr) : PyStr := w.scrubber.scrub w.isWord text

/-- The tail's lines, which begin where it does. -/
def readTailEntries (size : Nat) : Option Bytes → Except Uncaught (Option (List Entry))
  | none => .ok none
  | some tail => (readEntries w.loads (linesAt (size - tail.length) tail)).map some

/-- The record of a turn, of what is stored of its stream. -/
def record (turnNumber : Nat) (stream prompt stderr : ReadBack) (chosen : Chosen) (costUsd : Option PyFloat) (promptText stderrText : PyStr) :
    TurnCapture :=
  let init := messageAt chosen.entries (lastIndex Entry.isInit chosen.entries)
  let result := messageAt chosen.entries chosen.resultIndex
  let usage := (result.item "usage").asObject.getD []
  { turnNumber
    model := (init.item "model").string
    subtype := (result.item "subtype").string
    isError := (result.item "is_error").bool?
    numTurns := (result.item "num_turns").int?
    inputTokens := (usage.item "input_tokens").int?
    cacheCreationInputTokens := (usage.item "cache_creation_input_tokens").int?
    cacheReadInputTokens := (usage.item "cache_read_input_tokens").int?
    outputTokens := (usage.item "output_tokens").int?
    costUsd
    durationMs := (result.item "duration_ms").int?
    resultText := (result.item "result").string.map fun text => (w.scrub text).take resultTextLimit
    prompt := promptText
    promptBytes := prompt.size
    stream := if chosen.kept = [] then [] else w.scrub (storedText (([10] : Bytes).intercalate (chosen.kept.map Entry.stored) ++ [10]))
    streamBytes := stream.size
    streamLines := chosen.entries.length
    omittedLines := (chosen.entries.filter Entry.isOversized).length
    stderr := stderrText
    stderrBytes := stderr.size
    truncated := chosen.truncated || stream.truncated }

/-- `_capture` -/
def capture (turnNumber : Nat) (stream prompt stderr : ReadBack) (tail : Option Bytes) : Except Uncaught TurnCapture := do
  let head ← readEntries w.loads (linesAt 0 stream.data)
  let tail ← w.readTailEntries stream.size tail
  let chosen := chooseLines head tail
  let costUsd ← ((messageAt chosen.entries chosen.resultIndex).item "total_cost_usd").number
  let promptText ← headOf (w.scrub (storedText prompt.data)) promptLimit
  let stderrText ← tailOf (w.scrub (storedText stderr.data)) stderrLimit
  return w.record turnNumber stream prompt stderr chosen costUsd promptText stderrText

/-- A character of `\d`, by its value. -/
def digit : PyChar → Option Nat
  | .scalar c => w.decimal c
  | .surrogate _ => none

/-- The number in a file's name `turn-N.jsonl`, before which and behind which there is nothing but a line's end. -/
def turnNumber (name : PyStr) : Option Nat :=
  let front := PyStr.ofString "turn-"
  let name := if name.getLast? = some (.scalar '\n') then name.dropLast else name
  let back := PyStr.ofString ".jsonl"
  if front <+: name ∧ back <:+ name ∧ front.length + back.length < name.length then
    let digits := (name.drop front.length).take (name.length - front.length - back.length)
    (digits.mapM w.digit).map fun values => values.foldl (fun number value => number * 10 + value) 0
  else none

end CaptureWorld

/-- A run's log directory: its names, and of the files that the worker's boundary opens what is in them. -/
structure LogDir where
  names : Option (List PyStr)
  file : PyStr → Option Bytes

namespace CaptureWorld

variable (w : CaptureWorld) (dir : LogDir)

/-- The order of `sorted` on numbers and names. -/
def turnLe (first second : Nat × PyStr) : Bool :=
  first.1 < second.1 || (first.1 = second.1 && first.2.map PyChar.code ≤ second.2.map PyChar.code)

/-- The turns of the directory in order, with their streams. -/
def turns : List (Nat × Bytes) :=
  let numbered := (dir.names.getD []).filterMap fun name => (w.turnNumber name).map fun number => (number, name)
  (numbered.mergeSort turnLe).filterMap fun turn => (dir.file turn.2).map fun stream => (turn.1, stream)

/-- The file of a turn beside its stream, empty where it cannot be read. -/
def turnFile (number : Nat) (suffix : String) : Bytes :=
  (dir.file (PyStr.ofString ("turn-" ++ toString number ++ suffix))).getD []

/-- One turn of the directory. -/
def captureTurn (turn : Nat × Bytes) : Except Uncaught TurnCapture :=
  let stream := readHead turn.2 turnStreamLimit
  w.capture turn.1 stream (readHead (turnFile dir turn.1 ".prompt.md") turnPromptLimit)
    (readTail (turnFile dir turn.1 ".stderr.log") turnStderrLimit)
    (if stream.truncated then some (readTail turn.2 streamTailLimit).data else none)

/-- `capture_turns` -/
def captureTurns : Except Uncaught (List TurnCapture) := (w.turns dir).mapM (w.captureTurn dir)

end CaptureWorld
end Issuebot
