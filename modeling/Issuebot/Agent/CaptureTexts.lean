import Issuebot.Agent.TurnLog

/-!
# What the store can hold of a capture

The prompt, the standard error and the stream of a turn are decoded, cleaned and scrubbed, so the store can
hold them whatever they were. What a capture takes out of the stream's JSON goes another way: the model and the
subtype are neither cleaned nor scrubbed, the result's text is not cleaned, and a line nested too deep or a cost
too large raises (`captures_storable_iff`).
-/

namespace Issuebot
set_option autoImplicit false
open Logic

/-- No NUL and no lone surrogate, which the store refuses. -/
def Storable (text : PyStr) : Prop := .scalar '\x00' ∉ text ∧ ∀ n, .surrogate n ∉ text

section Texts

variable {w : CaptureWorld} {text : PyStr} {chars : Text} {data : Bytes} {limit : Nat}

theorem storable_ofText (no_nul : '\x00' ∉ chars) : Storable (PyStr.ofText chars) := by
  constructor
  · intro mem
    obtain ⟨c, listed, same⟩ := List.mem_map.mp mem
    cases same
    exact no_nul listed
  · intro n mem
    obtain ⟨c, -, same⟩ := List.mem_map.mp mem
    cases same

theorem Storable.encode (storable : Storable text) : ∃ chars, text.encode = some chars ∧ '\x00' ∉ chars := by
  cases encoded : text.encode with
  | none =>
    obtain ⟨n, mem⟩ := PyStr.encode_eq_none.mp encoded
    exact absurd mem (storable.2 n)
  | some chars =>
    refine ⟨chars, rfl, fun mem => storable.1 ?_⟩
    rw [PyStr.ofText_of_encode encoded]
    exact List.mem_map_of_mem mem

theorem storable_storedText : Storable (storedText data) := by
  apply storable_ofText
  intro mem
  obtain ⟨c, -, same⟩ := List.mem_map.mp mem
  split at same
  · cases same
  next other => exact other same

theorem Storable.scrub (storable : Storable text) : Storable (w.scrub text) := by
  constructor
  · intro mem
    rcases Scrubber.mem_scrub mem with old | same | same
    · exact storable.1 old
    · cases same
    · cases same
  · intro n mem
    rcases Scrubber.mem_scrub mem with old | same | same
    · exact storable.2 n old
    · cases same
    · cases same

theorem Storable.head (storable : Storable text) : ∃ cut, headOf text limit = .ok cut ∧ Storable cut := by
  obtain ⟨chars, encoded, no_nul⟩ := storable.encode
  refine ⟨_, by rw [headOf, encoded], storable_ofText (Utf8.nul_notMem_decode fun mem => ?_)⟩
  exact Utf8.nul_notMem_encode no_nul (List.mem_of_mem_take mem)

theorem Storable.tail (storable : Storable text) : ∃ cut, tailOf text limit = .ok cut ∧ Storable cut := by
  obtain ⟨chars, encoded, no_nul⟩ := storable.encode
  refine ⟨_, by rw [tailOf, encoded], storable_ofText (Utf8.nul_notMem_decode fun mem => ?_)⟩
  exact Utf8.nul_notMem_encode no_nul (List.mem_of_mem_drop mem)

end Texts

section Messages

variable {loads : Bytes → Loaded} {line : Line} {lines : List Line} {entry : Entry} {entries : List Entry} {p : Entry → Bool}

/-- The decoder raises nothing over the line but what is caught. -/
def Decodes (loads : Bytes → Loaded) (line : Line) : Prop := ∀ error, loads line.bytes = .raised error → error = .valueError

/-- The line with the object it is. -/
def entryOf (loads : Bytes → Loaded) (line : Line) : Entry where
  line
  message := match loads line.bytes with
    | .value value => value.asObject
    | _ => none

theorem readMessage_ok_iff {message : Option Members} : readMessage loads line.bytes = .ok message ↔
    Decodes loads line ∧ message = (entryOf loads line).message := by
  rw [readMessage, Decodes, entryOf]
  cases loads line.bytes with
  | value value => simp [eq_comm]
  | refused => simp [eq_comm]
  | raised error => cases error <;> simp [eq_comm]

theorem readEntries_ok_iff : readEntries loads lines = .ok entries ↔
    (∀ line ∈ lines, Decodes loads line) ∧ entries = lines.map (entryOf loads) := by
  induction lines generalizing entries with
  | nil => simp [readEntries, pure, Except.pure, eq_comm]
  | cons line lines ih =>
    have split : readEntries loads (line :: lines) = .ok entries ↔ ∃ message others,
        readMessage loads line.bytes = .ok message ∧ readEntries loads lines = .ok others ∧ entries = ⟨line, message⟩ :: others := by
      rw [readEntries, List.mapM_cons, bind_eq_ok]
      constructor
      · rintro ⟨entry, read, rest⟩
        obtain ⟨others, are_read, made⟩ := bind_eq_ok.mp rest
        cases is_message : readMessage loads line.bytes with
        | error error =>
          rw [is_message] at read
          cases read
        | ok message =>
          rw [is_message] at read
          cases read
          cases made
          exact ⟨message, others, rfl, are_read, rfl⟩
      · rintro ⟨message, others, is_message, are_read, rfl⟩
        exact ⟨⟨line, message⟩, by rw [is_message]; rfl, bind_eq_ok.mpr ⟨others, are_read, rfl⟩⟩
    rw [split, List.forall_mem_cons, List.map_cons]
    constructor
    · rintro ⟨message, others, is_message, are_read, rfl⟩
      obtain ⟨decodes, rfl⟩ := readMessage_ok_iff.mp is_message
      obtain ⟨each, rfl⟩ := ih.mp are_read
      exact ⟨⟨decodes, each⟩, rfl⟩
    · rintro ⟨⟨decodes, each⟩, rfl⟩
      exact ⟨_, _, readMessage_ok_iff.mpr ⟨decodes, rfl⟩, ih.mpr ⟨each, rfl⟩, rfl⟩

theorem lastIndex_some {index : Nat} (last : lastIndex p entries = some index) : ∃ entry, entries[index]? = some entry ∧ p entry = true := by
  induction entries generalizing index with
  | nil => cases last
  | cons first entries ih =>
    rw [lastIndex] at last
    split at last
    next later found =>
      obtain rfl := Option.some.inj last
      exact ih found
    · split at last
      next holds =>
        obtain rfl := Option.some.inj last
        exact ⟨first, rfl, holds⟩
      · cases last

theorem lastIndex_none : lastIndex p entries = none ↔ entries.any p = false := by
  induction entries with
  | nil => simp [lastIndex]
  | cons first entries ih =>
    rw [lastIndex, List.any_cons, Bool.or_eq_false_iff]
    split
    next later found =>
      have some_later : entries.any p ≠ false := fun none_in => by
        rw [ih.mpr none_in] at found
        cases found
      simp [some_later]
    next none_found =>
      rw [ih] at none_found
      by_cases holds : p first = true
      · simp [holds]
      · simp [holds, none_found]

theorem lastIndex_concat (other : p entry = false) : lastIndex p (entries ++ [entry]) = lastIndex p entries := by
  induction entries with
  | nil => simp [lastIndex, other]
  | cons first entries ih => rw [List.cons_append, lastIndex, lastIndex, ih]

theorem not_isInit (result : entry.isResult = true) : entry.isInit = false := by
  obtain ⟨line, message⟩ := entry
  cases message with
  | none => rfl
  | some message =>
    simp only [Entry.isResult, Entry.isOf, Option.any_some, Option.all_none, Bool.and_true, decide_eq_true_eq] at result
    have other : PyStr.ofString "result" ≠ PyStr.ofString "system" := by decide
    simp [Entry.isInit, Entry.isOf, result, other]

/-- The last message of a kind, nothing where there is none. -/
def lastMessage (p : Entry → Bool) (entries : List Entry) : Members := messageAt entries (lastIndex p entries)

/-- The result that a capture reads: the tail's last, or the head's. -/
def resultMessage (head tail : List Entry) : Members :=
  if tail.any Entry.isResult then lastMessage Entry.isResult tail else lastMessage Entry.isResult head

theorem tailResult_some {tail : Option (List Entry)} (added : tailResult tail = some entry) :
    entry.isResult = true ∧ ∃ lines index, tail = some lines ∧ lastIndex Entry.isResult lines = some index ∧ lines[index]? = some entry := by
  obtain ⟨lines, rfl, found⟩ := Option.bind_eq_some_iff.mp added
  obtain ⟨index, last, is_entry⟩ := Option.bind_eq_some_iff.mp found
  obtain ⟨other, same, holds⟩ := lastIndex_some last
  rw [is_entry] at same
  obtain rfl := Option.some.inj same
  exact ⟨holds, lines, index, rfl, last, is_entry⟩

theorem tailResult_none {tail : Option (List Entry)} : tailResult tail = none ↔ (tail.getD []).any Entry.isResult = false := by
  cases tail with
  | none => exact iff_of_true rfl rfl
  | some lines =>
    rw [← lastIndex_none]
    show (lastIndex Entry.isResult lines).bind _ = none ↔ lastIndex Entry.isResult lines = none
    cases last : lastIndex Entry.isResult lines with
    | none => simp
    | some index =>
      obtain ⟨entry, is_entry, -⟩ := lastIndex_some last
      simp [is_entry]

theorem chosen_result {head : List Entry} {tail : Option (List Entry)} :
    messageAt (chooseLines head tail).entries (chooseLines head tail).resultIndex = resultMessage head (tail.getD []) := by
  rw [resultMessage]
  cases added : tailResult tail with
  | none =>
    rw [tailResult_none.mp added, if_neg Bool.false_ne_true]
    simp [chooseLines, added, lastMessage]
  | some entry =>
    obtain ⟨-, lines, index, rfl, last, is_entry⟩ := tailResult_some added
    have some_result : (Option.getD (some lines) []).any Entry.isResult = true := by
      rw [← Bool.not_eq_false, ← lastIndex_none, Option.getD_some, last]
      intro none_last
      cases none_last
    rw [some_result, if_pos rfl, Option.getD_some, lastMessage, last]
    simp [chooseLines, added, messageAt, is_entry]

theorem chosen_init {head : List Entry} {tail : Option (List Entry)} :
    messageAt (chooseLines head tail).entries (lastIndex Entry.isInit (chooseLines head tail).entries) = lastMessage Entry.isInit head := by
  cases added : tailResult tail with
  | none => simp [chooseLines, added, lastMessage]
  | some entry =>
    have other := not_isInit (tailResult_some added).1
    have entries : (chooseLines head tail).entries = head ++ [entry] := by simp [chooseLines, added]
    rw [entries, lastIndex_concat other, lastMessage, messageAt, messageAt]
    cases last : lastIndex Entry.isInit head with
    | none => rfl
    | some index =>
      obtain ⟨found, is_found, -⟩ := lastIndex_some last
      have within : index < head.length := (List.getElem?_eq_some_iff.mp is_found).1
      simp [List.getElem?_append_left within]

end Messages
section Captures

variable {w : CaptureWorld} {dir : LogDir}

/-- The text is one that the scrubber puts out. -/
def CaptureWorld.IsScrubbed (w : CaptureWorld) (text : PyStr) : Prop := text = [] ∨ ∃ source, text = w.scrub source

/-- Every text of a capture is scrubbed, a limit cutting it behind that, and the store can hold it. -/
structure TurnCapture.IsStorable (w : CaptureWorld) (capture : TurnCapture) : Prop where
  model : ∀ text, capture.model = some text → w.IsScrubbed text ∧ Storable text
  subtype : ∀ text, capture.subtype = some text → w.IsScrubbed text ∧ Storable text
  resultText : ∀ text, capture.resultText = some text → (∃ source, text = (w.scrub source).take resultTextLimit) ∧ Storable text
  prompt : (∃ source, headOf (w.scrub source) promptLimit = .ok capture.prompt) ∧ Storable capture.prompt
  stream : w.IsScrubbed capture.stream ∧ Storable capture.stream
  stderr : (∃ source, tailOf (w.scrub source) stderrLimit = .ok capture.stderr) ∧ Storable capture.stderr

/-- The lines of a stream's head. -/
def headLines (content : Bytes) : List Line := linesAt 0 (readHead content turnStreamLimit).data

/-- The lines of a stream's tail, which is read where the head does not hold it all. -/
def tailLines (content : Bytes) : List Line :=
  if (readHead content turnStreamLimit).truncated then
    linesAt (content.length - (readTail content streamTailLimit).data.length) (readTail content streamTailLimit).data
  else []

namespace CaptureWorld

/-- The last message that opens a session, in a stream's head. -/
def initOf (w : CaptureWorld) (content : Bytes) : Members := lastMessage Entry.isInit ((headLines content).map (entryOf w.loads))

/-- The last result of a stream, of its tail or else of its head. -/
def resultOf (w : CaptureWorld) (content : Bytes) : Members :=
  resultMessage ((headLines content).map (entryOf w.loads)) ((tailLines content).map (entryOf w.loads))

end CaptureWorld

/-- A stream whose lines the decoder raises nothing over that is not caught, whose cost a float holds, and whose
JSON says nothing that the store cannot hold or the scrubber would not put out. -/
structure StreamHolds (w : CaptureWorld) (content : Bytes) : Prop where
  decoder : ∀ line ∈ headLines content ++ tailLines content, Decodes w.loads line
  cost : ((w.resultOf content).item "total_cost_usd").FitsFloat
  model : ∀ text, ((w.initOf content).item "model").string = some text → w.IsScrubbed text ∧ Storable text
  subtype : ∀ text, ((w.resultOf content).item "subtype").string = some text → w.IsScrubbed text ∧ Storable text
  resultText : ∀ text, ((w.resultOf content).item "result").string = some text → Storable ((w.scrub text).take resultTextLimit)

theorem headLines_read {content : Bytes} {head : List Entry} :
    readEntries w.loads (linesAt 0 (readHead content turnStreamLimit).data) = .ok head ↔
      (∀ line ∈ headLines content, Decodes w.loads line) ∧ head = (headLines content).map (entryOf w.loads) := readEntries_ok_iff

/-- The tail of a stream, where it is read. -/
def tailBytes (content : Bytes) : Option Bytes :=
  if (readHead content turnStreamLimit).truncated then some (readTail content streamTailLimit).data else none

theorem tailLines_read {content : Bytes} : (∃ tail, w.readTailEntries content.length (tailBytes content) = .ok tail) ↔
    ∀ line ∈ tailLines content, Decodes w.loads line := by
  rw [tailBytes, tailLines]
  split
  · constructor
    · rintro ⟨tail, read⟩
      cases is_read : readEntries w.loads (linesAt (content.length - (readTail content streamTailLimit).data.length)
          (readTail content streamTailLimit).data) with
      | error error =>
        rw [CaptureWorld.readTailEntries, is_read] at read
        cases read
      | ok entries => exact (readEntries_ok_iff.mp is_read).1
    · intro each
      refine ⟨some ((linesAt (content.length - (readTail content streamTailLimit).data.length)
        (readTail content streamTailLimit).data).map (entryOf w.loads)), ?_⟩
      rw [CaptureWorld.readTailEntries, readEntries_ok_iff.mpr ⟨each, rfl⟩]
      rfl
  · exact iff_of_true ⟨none, rfl⟩ fun line mem => absurd mem List.not_mem_nil

theorem tail_entries {content : Bytes} {tail : Option (List Entry)} (read : w.readTailEntries content.length (tailBytes content) = .ok tail) :
    tail.getD [] = (tailLines content).map (entryOf w.loads) := by
  rw [tailBytes] at read
  rw [tailLines]
  split at read
  next truncated =>
    rw [if_pos truncated]
    cases is_read : readEntries w.loads (linesAt (content.length - (readTail content streamTailLimit).data.length)
        (readTail content streamTailLimit).data) with
    | error error =>
      rw [CaptureWorld.readTailEntries, is_read] at read
      cases read
    | ok entries =>
      rw [CaptureWorld.readTailEntries, is_read] at read
      obtain rfl := Except.ok.inj read
      exact (readEntries_ok_iff.mp is_read).2
  next whole =>
    rw [if_neg whole]
    obtain rfl := Except.ok.inj read
    rfl

/-- What a capture is made of. -/
theorem captureTurn_eq_ok {turn : Nat × Bytes} {capture : TurnCapture} : w.captureTurn dir turn = .ok capture ↔
    ∃ head tail cost prompt stderr,
      readEntries w.loads (linesAt 0 (readHead turn.2 turnStreamLimit).data) = .ok head ∧
      w.readTailEntries turn.2.length (tailBytes turn.2) = .ok tail ∧
      ((messageAt (chooseLines head tail).entries (chooseLines head tail).resultIndex).item "total_cost_usd").number = .ok cost ∧
      headOf (w.scrub (storedText (readHead (CaptureWorld.turnFile dir turn.1 ".prompt.md") turnPromptLimit).data)) promptLimit = .ok prompt ∧
      tailOf (w.scrub (storedText (readTail (CaptureWorld.turnFile dir turn.1 ".stderr.log") turnStderrLimit).data)) stderrLimit = .ok stderr ∧
      w.record turn.1 (readHead turn.2 turnStreamLimit) (readHead (CaptureWorld.turnFile dir turn.1 ".prompt.md") turnPromptLimit)
        (readTail (CaptureWorld.turnFile dir turn.1 ".stderr.log") turnStderrLimit) (chooseLines head tail) cost prompt stderr = capture := by
  rw [CaptureWorld.captureTurn, CaptureWorld.capture, bind_eq_ok]
  constructor
  · rintro ⟨head, is_head, captured⟩
    obtain ⟨tail, is_tail, captured⟩ := bind_eq_ok.mp captured
    obtain ⟨cost, is_cost, captured⟩ := bind_eq_ok.mp captured
    obtain ⟨prompt, is_prompt, captured⟩ := bind_eq_ok.mp captured
    obtain ⟨stderr, is_stderr, captured⟩ := bind_eq_ok.mp captured
    exact ⟨head, tail, cost, prompt, stderr, is_head, is_tail, is_cost, is_prompt, is_stderr, Except.ok.inj captured⟩
  · rintro ⟨head, tail, cost, prompt, stderr, is_head, is_tail, is_cost, is_prompt, is_stderr, rfl⟩
    exact ⟨head, is_head, bind_eq_ok.mpr ⟨tail, is_tail, bind_eq_ok.mpr ⟨cost, is_cost,
      bind_eq_ok.mpr ⟨prompt, is_prompt, bind_eq_ok.mpr ⟨stderr, is_stderr, rfl⟩⟩⟩⟩⟩

/-- A turn is captured, with texts that the store can hold, where its stream says nothing else. -/
theorem captureTurn_iff {turn : Nat × Bytes} :
    (∃ capture, w.captureTurn dir turn = .ok capture ∧ capture.IsStorable w) ↔ StreamHolds w turn.2 := by
  constructor
  · rintro ⟨capture, captured, storable⟩
    obtain ⟨head, tail, cost, prompt, stderr, is_head, is_tail, is_cost, -, -, rfl⟩ := captureTurn_eq_ok.mp captured
    obtain ⟨head_decodes, rfl⟩ := headLines_read.mp is_head
    have tail_decodes := tailLines_read.mp ⟨tail, is_tail⟩
    have result : messageAt (chooseLines ((headLines turn.2).map (entryOf w.loads)) tail).entries (chooseLines ((headLines turn.2).map (entryOf w.loads)) tail).resultIndex = w.resultOf turn.2 := by
      rw [chosen_result, tail_entries is_tail]
      rfl
    have init : messageAt (chooseLines ((headLines turn.2).map (entryOf w.loads)) tail).entries (lastIndex Entry.isInit (chooseLines ((headLines turn.2).map (entryOf w.loads)) tail).entries) = w.initOf turn.2 :=
      chosen_init
    rw [result] at is_cost
    refine ⟨fun line mem => (List.mem_append.mp mem).elim (head_decodes line) (tail_decodes line), number_ok_iff.mp ⟨cost, is_cost⟩,
      fun text said => storable.model text ?_, fun text said => storable.subtype text ?_, fun text said => (storable.resultText _ ?_).2⟩
    · rw [CaptureWorld.record, init]
      exact said
    · rw [CaptureWorld.record, result]
      exact said
    · rw [CaptureWorld.record, result, said]
      rfl
  · intro holds
    have head_read := headLines_read.mpr ⟨fun line mem => holds.decoder line (List.mem_append_left _ mem), rfl⟩
    obtain ⟨tail, is_tail⟩ := tailLines_read.mpr fun line mem => holds.decoder line (List.mem_append_right _ mem)
    have result : messageAt (chooseLines ((headLines turn.2).map (entryOf w.loads)) tail).entries (chooseLines ((headLines turn.2).map (entryOf w.loads)) tail).resultIndex = w.resultOf turn.2 := by
      rw [chosen_result, tail_entries is_tail]
      rfl
    have init : messageAt (chooseLines ((headLines turn.2).map (entryOf w.loads)) tail).entries (lastIndex Entry.isInit (chooseLines ((headLines turn.2).map (entryOf w.loads)) tail).entries) = w.initOf turn.2 :=
      chosen_init
    obtain ⟨cost, is_cost⟩ := number_ok_iff.mpr holds.cost
    have clean {data : Bytes} : Storable (w.scrub (storedText data)) := storable_storedText.scrub
    obtain ⟨prompt, is_prompt, prompt_storable⟩ := clean.head
    obtain ⟨stderr, is_stderr, stderr_storable⟩ := clean.tail
    refine ⟨_, captureTurn_eq_ok.mpr ⟨_, tail, cost, prompt, stderr, head_read, is_tail, ?_, is_prompt, is_stderr, rfl⟩,
      fun text said => holds.model text ?_, fun text said => holds.subtype text ?_, fun text said => ?_, ⟨⟨_, is_prompt⟩, prompt_storable⟩,
      ?_, ⟨⟨_, is_stderr⟩, stderr_storable⟩⟩
    · rw [result]
      exact is_cost
    · rw [← init]
      exact said
    · rw [← result]
      exact said
    · rw [CaptureWorld.record, result] at said
      obtain ⟨source, is_source, rfl⟩ := Option.map_eq_some_iff.mp said
      exact ⟨⟨source, rfl⟩, holds.resultText source is_source⟩
    · rw [CaptureWorld.record]
      dsimp only
      split
      · exact ⟨.inl rfl, List.not_mem_nil, fun n => List.not_mem_nil⟩
      · exact ⟨.inr ⟨_, rfl⟩, clean⟩

theorem mapM_ok_iff {α β ε : Type} {f : α → Except ε β} {p : β → Prop} {items : List α} :
    (∃ made, items.mapM f = .ok made ∧ ∀ one ∈ made, p one) ↔ ∀ item ∈ items, ∃ one, f item = .ok one ∧ p one := by
  induction items with
  | nil => exact iff_of_true ⟨[], rfl, fun one mem => absurd mem List.not_mem_nil⟩ fun item mem => absurd mem List.not_mem_nil
  | cons item items ih =>
    rw [List.forall_mem_cons, ← ih, List.mapM_cons]
    constructor
    · rintro ⟨made, all, each⟩
      obtain ⟨one, first, rest⟩ := bind_eq_ok.mp all
      obtain ⟨others, later, same⟩ := bind_eq_ok.mp rest
      obtain rfl := Except.ok.inj same
      rw [List.forall_mem_cons] at each
      exact ⟨⟨one, first, each.1⟩, others, later, each.2⟩
    · rintro ⟨⟨one, first, holds⟩, others, later, each⟩
      exact ⟨one :: others, bind_eq_ok.mpr ⟨one, first, bind_eq_ok.mpr ⟨others, later, rfl⟩⟩, List.forall_mem_cons.mpr ⟨holds, each⟩⟩

/-- The turns of a directory are captured, with texts that the store can hold, exactly where the stream of each of them
holds nothing that raises and nothing that the store or the scrubber would not. -/
theorem captures_storable_iff (w : CaptureWorld) (dir : LogDir) :
    (∃ captures, w.captureTurns dir = .ok captures ∧ ∀ capture ∈ captures, capture.IsStorable w) ↔
      ∀ turn ∈ w.turns dir, StreamHolds w turn.2 := by
  rw [CaptureWorld.captureTurns, mapM_ok_iff]
  exact forall₂_congr fun turn _ => captureTurn_iff

/-- A log directory with one turn, of one line. -/
def oneLine (line : Bytes) : LogDir where
  names := some [PyStr.ofString "turn-1.jsonl"]
  file name := if name = PyStr.ofString "turn-1.jsonl" then some line else none

/-- The line `{"type":"system","subtype":"init","model":"\u0000"}`. -/
def nulModel : Bytes := Utf8.encode "\x7b\"type\":\"system\",\"subtype\":\"init\",\"model\":\"\\u0000\"\x7d".toList

/-- Python, as it decodes that line. -/
def nulWorld : CaptureWorld where
  loads line :=
    if line = nulModel then .value (.obj [(PyStr.ofString "type", .str (PyStr.ofString "system")),
      (PyStr.ofString "subtype", .str (PyStr.ofString "init")), (PyStr.ofString "model", .str [.scalar '\x00'])])
    else .refused
  isWord c := c.isAlphanum || c = '_'
  decimal c := if c.isDigit then some (c.toNat - '0'.toNat) else none
  scrubber := .default

/-- A NUL in the model's name is stored as it is. -/
theorem nul_is_not_storable :
    ¬ ∀ (w : CaptureWorld) (dir : LogDir), ∃ captures, w.captureTurns dir = .ok captures ∧ ∀ capture ∈ captures, capture.IsStorable w := by
  intro claimed
  obtain ⟨captures, captured, storable⟩ := claimed nulWorld (oneLine nulModel)
  have stored : (nulWorld.captureTurns (oneLine nulModel)).toOption.map
      (fun captures => captures.map TurnCapture.model) = some [some [.scalar '\x00']] := by decide +kernel
  rw [captured, Except.toOption, Option.map_some, Option.some.injEq] at stored
  obtain ⟨capture, mem, said⟩ := List.mem_map.mp (stored ▸ List.mem_singleton_self (some [PyChar.scalar '\x00']))
  exact ((storable capture mem).model _ said).2.1 (List.mem_singleton_self _)

end Captures

end Issuebot
