import Issuebot.Agent.RateLimits

/-!
# The reader of claude's stream

`StreamParser.feed` reads one line. Nothing it remembers decides whether it can read the next, so a line
is read, or not, by itself (`feed_ok_iff`). `json.loads` and `str` of a value are parameters, as far as
they raise what nobody catches.
-/

namespace Issuebot
set_option autoImplicit false

/-- What `json.loads` makes of a text; `refused` is the `JSONDecodeError`, and beside it there are the
integers of too many digits and the nesting that is too deep. -/
inductive Loaded where
  | value (value : Decoded)
  | refused
  | raised (error : Uncaught)

/-- The Python the reader runs on: its decoder, its `str` of a value and its clock. -/
structure StreamWorld where
  loads : PyStr → Loaded
  str : Decoded → Except Uncaught PyStr
  fromtimestamp : PyFloat → Option Datetime
  now : Datetime

/-- `str(value)`; a text is its own. -/
def StreamWorld.text (w : StreamWorld) : Decoded → Except Uncaught PyStr
  | .str text => .ok text
  | value => w.str value

inductive TurnEventKind where
  | sessionStarted
  | turnActivity
  | rateLimits
  deriving DecidableEq, Repr

/-- A runtime event of one turn. -/
structure TurnEvent where
  kind : TurnEventKind
  turnNumber : Nat
  at_ : Datetime
  sessionId : Option PyStr := none
  messageType : Option PyStr := none
  toolName : Option PyStr := none
  detail : Option PyStr := none
  rateLimits : Option RateLimits := none
  deriving DecidableEq

structure StreamParser where
  turnNumber : Nat
  expectedSessionId : PyStr
  sessionId : Option PyStr := none
  model : Option PyStr := none
  apiKeySource : Option PyStr := none
  result : Option Members := none
  rateLimits : Option RateLimits := none
  usageLimit : Option UsageLimit := none
  unparseable : Nat := 0

/-- `str.strip()` -/
def PyStr.strip (text : PyStr) : PyStr := (text.dropWhile (PyChar.is isSpace)).rdropWhile (PyChar.is isSpace)

namespace StreamParser

variable (w : StreamWorld) (parser : StreamParser)

/-- `_activity` -/
def activity (messageType : PyStr) (toolName : Option PyStr) : TurnEvent where
  kind := .turnActivity
  turnNumber := parser.turnNumber
  at_ := w.now
  sessionId := parser.sessionId
  messageType := some messageType
  toolName

/-- `_init` -/
def init (message : Members) : TurnEvent × StreamParser :=
  let parser := { parser with
    sessionId := (message.item "session_id").string
    model := (message.item "model").string
    apiKeySource := (message.item "apiKeySource").string }
  ({ kind := .sessionStarted
     turnNumber := parser.turnNumber
     at_ := w.now
     sessionId := parser.sessionId
     detail := parser.model }, parser)

/-- The blocks of an assistant's message. -/
def blocks (message : Members) : List Decoded :=
  match (message.item "message").asObject with
  | none => []
  | some inner =>
    match inner.item "content" with
    | .arr elements => elements
    | _ => []

/-- The name of a block that uses a tool. -/
def toolName (block : Decoded) : Option (Option PyStr) :=
  match block.asObject with
  | none => none
  | some block => if (block.item "type").string = some (PyStr.ofString "tool_use") then some (block.item "name").string else none

/-- `_assistant` -/
def assistant (message : Members) : List TurnEvent :=
  match (blocks message).filterMap toolName with
  | [] => [parser.activity w (PyStr.ofString "assistant") none]
  | tools => tools.map fun name => parser.activity w (PyStr.ofString "assistant") name

/-- `_rate_limits` -/
def readRateLimits (message : Members) : Except Uncaught (TurnEvent × StreamParser) := do
  let refusal ← parseUsageLimit w.fromtimestamp message w.now
  let parser := { parser with usageLimit := refusal <|> parser.usageLimit }
  match ← parseRateLimits w.fromtimestamp message w.now with
  | none => return (parser.activity w (PyStr.ofString "rate_limit_event") none, parser)
  | some limits =>
    return ({ kind := .rateLimits
              turnNumber := parser.turnNumber
              at_ := w.now
              sessionId := parser.sessionId
              messageType := some (PyStr.ofString "rate_limit_event")
              rateLimits := some limits }, { parser with rateLimits := some limits })

/-- A line that is no JSON object. -/
def skip : List TurnEvent × StreamParser :=
  let parser := { parser with unparseable := parser.unparseable + 1 }
  ([parser.activity w (PyStr.ofString "unparseable") none], parser)

/-- A line that is a JSON object, by its type. -/
def feedMessage (message : Members) : Except Uncaught (List TurnEvent × StreamParser) :=
  let type := message.item "type"
  let is (name : String) : Bool := type.string = some (PyStr.ofString name)
  if is "system" ∧ (message.item "subtype").string = some (PyStr.ofString "init") then
    let (event, parser) := parser.init w message
    .ok ([event], parser)
  else if is "assistant" then .ok (parser.assistant w message, parser)
  else if is "result" then .ok ([], { parser with result := some message })
  else if is "rate_limit_event" then do
    let (event, parser) ← parser.readRateLimits w message
    return ([event], parser)
  else match type with
  | .null => .ok ([parser.activity w (PyStr.ofString "unknown") none], parser)
  | _ => do
    let name ← w.text type
    return ([parser.activity w name none], parser)

/-- `feed` -/
def feed (line : PyStr) : Except Uncaught (List TurnEvent × StreamParser) :=
  let text := line.strip
  if text = [] then .ok ([], parser)
  else match w.loads text with
  | .raised error => .error error
  | .refused => .ok (parser.skip w)
  | .value value =>
    match value.asObject with
    | none => .ok (parser.skip w)
    | some message => parser.feedMessage w message

/-- The lines of a stream, in order. -/
def feedAll : StreamParser → List PyStr → Except Uncaught (List TurnEvent × StreamParser)
  | parser, [] => .ok ([], parser)
  | parser, line :: rest => do
    let (first, parser) ← parser.feed w line
    let (others, parser) ← feedAll parser rest
    return (first ++ others, parser)

end StreamParser

/-- An object of the stream that no reader raises over. -/
structure MessageReads (w : StreamWorld) (message : Members) : Prop where
  numbers : (message.item "type").string = some (PyStr.ofString "rate_limit_event") →
    NumbersFit message ∧ RefusalFits w.fromtimestamp message
  printed : (message.item "type").string = none → message.item "type" ≠ .null → ∃ name, w.text (message.item "type") = .ok name

/-- A line of the stream that no reader raises over. -/
structure LineReads (w : StreamWorld) (line : PyStr) : Prop where
  decoder : line.strip ≠ [] → ∀ error, w.loads line.strip ≠ .raised error
  message : line.strip ≠ [] → ∀ message : Members, w.loads line.strip = .value (.obj message) → MessageReads w message

namespace StreamParser

variable {w : StreamWorld} {parser : StreamParser} {message : Members} {line : PyStr}

theorem readRateLimits_ok_iff :
    (∃ out, parser.readRateLimits w message = .ok out) ↔ NumbersFit message ∧ RefusalFits w.fromtimestamp message := by
  rw [← @parseRateLimits_returns_iff w.fromtimestamp message w.now, ← @parseUsageLimit_iff w.fromtimestamp message w.now]
  constructor
  · rintro ⟨out, read⟩
    obtain ⟨refusal, first, rest⟩ := bind_eq_ok.mp read
    obtain ⟨limits, second, -⟩ := bind_eq_ok.mp rest
    exact ⟨⟨_, second⟩, ⟨_, first⟩⟩
  · rintro ⟨⟨limits, second⟩, ⟨refusal, first⟩⟩
    cases limits with
    | none => exact ⟨_, bind_eq_ok.mpr ⟨_, first, bind_eq_ok.mpr ⟨_, second, rfl⟩⟩⟩
    | some limits => exact ⟨_, bind_eq_ok.mpr ⟨_, first, bind_eq_ok.mpr ⟨_, second, rfl⟩⟩⟩

/-- An object is read, whatever was read before it, where its numbers fit and its type can be printed. -/
theorem feedMessage_ok_iff : (∃ out, parser.feedMessage w message = .ok out) ↔ MessageReads w message := by
  have by_type : MessageReads w message ↔
      ((message.item "type").string = some (PyStr.ofString "rate_limit_event") →
        NumbersFit message ∧ RefusalFits w.fromtimestamp message) ∧
      ((message.item "type").string = none → message.item "type" ≠ .null → ∃ name, w.text (message.item "type") = .ok name) :=
    ⟨fun reads => ⟨reads.numbers, reads.printed⟩, fun reads => ⟨reads.1, reads.2⟩⟩
  rw [by_type, feedMessage]
  cases message.item "type" with
  | str name =>
    have is_string : (Decoded.str name).string = some name := rfl
    simp only [is_string, Option.some.injEq, reduceCtorEq, false_implies, and_true]
    by_cases is_event : name = PyStr.ofString "rate_limit_event"
    · have distinct : PyStr.ofString "rate_limit_event" ≠ PyStr.ofString "system" ∧
          PyStr.ofString "rate_limit_event" ≠ PyStr.ofString "assistant" ∧
          PyStr.ofString "rate_limit_event" ≠ PyStr.ofString "result" := by decide
      subst is_event
      simp only [distinct.1, distinct.2.1, distinct.2.2, decide_false, decide_true, Bool.false_eq_true, false_and, if_false,
        if_true, true_implies]
      rw [← @readRateLimits_ok_iff w parser]
      constructor
      · rintro ⟨out, read⟩
        obtain ⟨out, first, -⟩ := bind_eq_ok.mp read
        exact ⟨out, first⟩
      · rintro ⟨out, first⟩
        exact ⟨_, bind_eq_ok.mpr ⟨out, first, rfl⟩⟩
    · simp only [is_event, decide_false, Bool.false_eq_true, if_false, false_implies, iff_true]
      split_ifs
      all_goals exact ⟨_, rfl⟩
  | null => simp [Decoded.string]
  | bool | int | num | nonfinite | arr | obj =>
    simp only [Decoded.string, reduceCtorEq, decide_false, Bool.false_eq_true, false_and, if_false, false_implies, true_and,
      ne_eq, not_false_eq_true, true_implies]
    constructor
    · rintro ⟨out, read⟩
      obtain ⟨name, first, -⟩ := bind_eq_ok.mp read
      exact ⟨name, first⟩
    · rintro ⟨name, first⟩
      exact ⟨_, bind_eq_ok.mpr ⟨name, first, rfl⟩⟩

/-- A line is read, or not, whatever was read before it. -/
theorem feed_ok_iff : (∃ out, parser.feed w line = .ok out) ↔ LineReads w line := by
  have by_parts : LineReads w line ↔ (line.strip ≠ [] → ∀ error, w.loads line.strip ≠ .raised error) ∧
      (line.strip ≠ [] → ∀ message : Members, w.loads line.strip = .value (.obj message) → MessageReads w message) :=
    ⟨fun reads => ⟨reads.decoder, reads.message⟩, fun reads => ⟨reads.1, reads.2⟩⟩
  rw [by_parts, feed]
  by_cases blank : line.strip = []
  · simp [blank]
  simp only [ne_eq, blank, not_false_eq_true, true_implies]
  cases w.loads line.strip with
  | raised error => simp
  | refused => simp
  | value value =>
    cases value with
    | obj message =>
      simp only [Decoded.asObject, if_false, reduceCtorEq, not_false_eq_true, implies_true, true_and, Loaded.value.injEq,
        Decoded.obj.injEq]
      rw [feedMessage_ok_iff]
      constructor
      · rintro reads _ rfl
        exact reads
      · exact fun reads => reads message rfl
    | null | bool | int | num | nonfinite | str | arr => simp [Decoded.asObject]

/-- The lines of a stream are read where each of them is. -/
theorem feedAll_ok_iff {lines : List PyStr} : (∃ out, feedAll w parser lines = .ok out) ↔ ∀ line ∈ lines, LineReads w line := by
  induction lines generalizing parser with
  | nil => simp [feedAll]
  | cons line rest ih =>
    rw [List.forall_mem_cons, ← @feed_ok_iff w parser]
    constructor
    · rintro ⟨out, read⟩
      obtain ⟨⟨first, after⟩, is_first, others⟩ := bind_eq_ok.mp read
      obtain ⟨last, is_last, -⟩ := bind_eq_ok.mp others
      exact ⟨⟨_, is_first⟩, (@ih after).mp ⟨last, is_last⟩⟩
    · rintro ⟨⟨⟨first, after⟩, is_first⟩, each⟩
      obtain ⟨last, is_last⟩ := (@ih after).mpr each
      exact ⟨_, bind_eq_ok.mpr ⟨_, is_first, bind_eq_ok.mpr ⟨last, is_last, rfl⟩⟩⟩

/-- The stream is read, and the windows as shares, where the numbers and the types of its objects fit;
with a NaN among the utilizations, or an integer too large, the readers fail. -/
theorem readers_total_iff (w : StreamWorld) :
    (∀ (parser : StreamParser) (lines : List PyStr),
      (∃ out, feedAll w parser lines = .ok out) ↔ ∀ line ∈ lines, LineReads w line) ∧
    (∀ (message : Members) (now : Datetime),
      ((∃ limits, parseRateLimits w.fromtimestamp message now = .ok limits ∧ ∀ read, limits = some read → read.AreShares) ↔
        WindowsFit w.fromtimestamp message) ∧
      ((∃ refusal, parseUsageLimit w.fromtimestamp message now = .ok refusal) ↔ RefusalFits w.fromtimestamp message)) :=
  ⟨fun _ _ => feedAll_ok_iff, fun _ _ => ⟨parseRateLimits_iff, parseUsageLimit_iff⟩⟩

/-- The reading of one window, spent by `utilization`. -/
def spentBy (utilization : Decoded) : Members :=
  [(PyStr.ofString "type", .str (PyStr.ofString "rate_limit_event")),
    (PyStr.ofString "rate_limit_info", .obj
      [(PyStr.ofString "unifiedWindows", .obj
        [(PyStr.ofString "five_hour", .obj [(PyStr.ofString "utilization", utilization), (PyStr.ofString "resetsAt", .num 1)])])])]

/-- A line of the stream by which 10 to the 400 of a window is spent. -/
def overflow : PyStr :=
  PyStr.ofString "\x7b\"type\":\"rate_limit_event\",\"rate_limit_info\":\x7b\"unifiedWindows\":\x7b\"five_hour\":\x7b\"utilization\":1" ++
    List.replicate 400 (.scalar '0') ++ PyStr.ofString ",\"resetsAt\":1.0\x7d\x7d\x7d\x7d"

/-- A decoder that is asked for one line. -/
def overflowing (line : PyStr) : StreamWorld where
  loads text := if text = line then .value (.obj (spentBy (.int (10 ^ 400)))) else .refused
  str _ := .ok []
  fromtimestamp
    | .finite seconds => some seconds.floor
    | .nonfinite _ => none
  now := 0

theorem overflowing_loads (line : PyStr) : (overflowing line).loads line = .value (.obj (spentBy (.int (10 ^ 400)))) := if_pos rfl

theorem not_fits : ¬ (Decoded.int (10 ^ 400)).FitsFloat := by
  intro fits
  exact absurd (fits _ rfl) (by decide +kernel)

/-- A window spent by an integer no float holds raises, and one spent by NaN is read as NaN. -/
theorem readers_fail :
    (∃ parser line, ¬ ∃ out, feed (overflowing overflow) parser line = .ok out) ∧
    (∃ message, ¬ ∃ limits, parseRateLimits (overflowing overflow).fromtimestamp message 0 = .ok limits) ∧
    ∃ message limits, parseRateLimits (overflowing overflow).fromtimestamp message 0 = .ok (some limits) ∧ ¬ limits.AreShares := by
  have unfit : ¬ NumbersFit (spentBy (.int (10 ^ 400))) := fun fits =>
    not_fits (fits _ rfl _ rfl "five_hour" List.mem_cons_self _ rfl).1
  refine ⟨⟨{ turnNumber := 1, expectedSessionId := [] }, overflow, fun reads => ?_⟩,
    ⟨_, fun reads => unfit (parseRateLimits_returns_iff.mp reads)⟩,
    spentBy (.nonfinite .nan), _, rfl, fun shares => shares _ (.inl rfl)⟩
  have stripped : overflow.strip = overflow := by decide +kernel
  have reads := (feed_ok_iff.mp reads).message (by decide +kernel) (spentBy (.int (10 ^ 400)))
    (by rw [stripped, overflowing_loads])
  exact unfit (reads.numbers (by decide +kernel)).1

end StreamParser

end Issuebot
