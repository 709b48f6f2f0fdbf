import Issuebot.Agent.CaptureTexts
import Issuebot.Agent.StreamLines

/-!
# The caps of a capture, and the result line that it keeps

What is stored of a stream is the lines of the head that fit and the last result behind them. The caps hold and
the lines are the file's, in order, with the last result among them, but for four ways out: a stub quotes a `type`
of any length, the line that the head read cuts is stored like any other, so is a result that the tail read begins
in, and a result that both reads hold can be stored twice (`capture_capped_iff`).
-/

namespace Issuebot
set_option autoImplicit false
open Logic

/-- The bytes that lines come to as they are stored. -/
def storedBytes (entries : List Entry) : Nat := (entries.map fun entry => entry.stored.length + 1).sum

/-- The lines of the head from the first to this one come to no more than the stream's limit. -/
def Fits (head : List Entry) (entry : Entry) : Prop :=
  ∃ before after, head = before ++ entry :: after ∧ storedBytes (before ++ [entry]) ≤ streamLimit

/-- The last line that says it is a result. -/
def lastResult (entries : List Entry) : Option Entry := (lastIndex Entry.isResult entries).bind fun index => entries[index]?

section Kept

variable {head tail entries before after : List Entry} {entry result : Entry} {total index : Nat}

theorem storedBytes_append : storedBytes (before ++ after) = storedBytes before + storedBytes after := by
  rw [storedBytes, List.map_append, List.sum_append, storedBytes, storedBytes]

theorem storedBytes_cons : storedBytes (entry :: entries) = entry.stored.length + 1 + storedBytes entries := rfl

/-- What is kept of the head comes first in it, and all of it is where nothing is said to be left out. -/
theorem keepLines_split (total : Nat) (head : List Entry) :
    ∃ rest, head = (keepLines total head).1 ++ rest ∧ ((keepLines total head).2 = false → rest = []) := by
  induction head generalizing total with
  | nil => exact ⟨[], rfl, fun _ => rfl⟩
  | cons entry head ih =>
    rw [keepLines]
    split
    · exact ⟨entry :: head, rfl, fun whole => absurd whole (by decide)⟩
    · obtain ⟨rest, split, whole⟩ := ih (total + entry.stored.length + 1)
      exact ⟨rest, by rw [List.cons_append, ← split], whole⟩

theorem keepLines_bytes (below : total ≤ streamLimit) : total + storedBytes (keepLines total head).1 ≤ streamLimit := by
  induction head generalizing total with
  | nil => exact below
  | cons entry head ih =>
    rw [keepLines]
    split
    · exact below
    next fits =>
      have later := ih (Nat.le_of_not_lt fits)
      rw [storedBytes_cons]
      omega

theorem mem_keepLines : entry ∈ (keepLines total head).1 ↔
    ∃ before after, head = before ++ entry :: after ∧ total + storedBytes (before ++ [entry]) ≤ streamLimit := by
  induction head generalizing total with
  | nil =>
    refine iff_of_false List.not_mem_nil ?_
    rintro ⟨before, after, split, -⟩
    simp at split
  | cons first head ih =>
    rw [keepLines]
    split
    next long =>
      refine iff_of_false List.not_mem_nil ?_
      rintro ⟨before, after, split, fits⟩
      rw [storedBytes_append] at fits
      cases before with
      | nil =>
        obtain ⟨rfl, -⟩ := List.cons.inj split
        rw [storedBytes_cons] at fits
        omega
      | cons other before =>
        obtain ⟨rfl, -⟩ := List.cons.inj split
        rw [storedBytes_cons] at fits
        omega
    next fits =>
      rw [List.mem_cons, ih]
      constructor
      · rintro (rfl | ⟨before, after, rfl, later⟩)
        · refine ⟨[], head, rfl, ?_⟩
          show total + (entry.stored.length + 1 + 0) ≤ streamLimit
          omega
        · refine ⟨first :: before, after, rfl, ?_⟩
          rw [List.cons_append, storedBytes_cons]
          omega
      · rintro ⟨before, after, split, later⟩
        cases before with
        | nil => exact .inl (List.cons.inj split).1.symm
        | cons other before =>
          obtain ⟨rfl, rest⟩ := List.cons.inj split
          rw [List.cons_append, storedBytes_cons] at later
          exact .inr ⟨before, after, rest, by omega⟩

theorem mem_kept_iff_fits : entry ∈ (keepLines 0 head).1 ↔ Fits head entry := by
  rw [mem_keepLines, Fits]
  simp only [Nat.zero_add]

theorem tailResult_eq {tail : Option (List Entry)} : tailResult tail = lastResult (tail.getD []) := by
  cases tail <;> rfl

theorem lastResult_spec (last : lastResult entries = some entry) : entry.isResult = true ∧ entry ∈ entries := by
  obtain ⟨index, found, is_entry⟩ := Option.bind_eq_some_iff.mp last
  obtain ⟨other, same, holds⟩ := lastIndex_some found
  rw [is_entry] at same
  obtain rfl := Option.some.inj same
  exact ⟨holds, List.mem_of_getElem? is_entry⟩

theorem lastResult_none : lastResult entries = none ↔ ∀ entry ∈ entries, entry.isResult = false := by
  have any_of : lastResult entries = none ↔ entries.any Entry.isResult = false := @tailResult_none (some entries)
  rw [any_of, List.any_eq_false]
  simp only [Bool.not_eq_true]

theorem lastResult_cons : lastResult (entry :: entries) = (lastResult entries).or (if entry.isResult then some entry else none) := by
  rw [lastResult, lastIndex, lastResult]
  cases found : lastIndex Entry.isResult entries with
  | none => cases entry.isResult <;> rfl
  | some index =>
    obtain ⟨last, is_last, -⟩ := lastIndex_some found
    show entries[index]? = (entries[index]?).or _
    rw [is_last]
    rfl

/-- No result comes behind the last one. -/
theorem le_lastResult {r : Entry → Entry → Prop} (order : entries.Pairwise r) (last : lastResult entries = some result)
    (mem : entry ∈ entries) (is_result : entry.isResult = true) : entry = result ∨ r entry result := by
  induction order with
  | nil => cases mem
  | @cons first entries before_all order ih =>
    rw [lastResult_cons] at last
    cases later : lastResult entries with
    | some other =>
      rw [later] at last
      obtain rfl := Option.some.inj last
      rcases List.mem_cons.mp mem with rfl | mem
      · exact .inr (before_all _ (lastResult_spec later).2)
      · exact ih later mem
    | none =>
      rcases List.mem_cons.mp mem with rfl | mem
      · rw [later, is_result] at last
        exact .inl (Option.some.inj last)
      · exact absurd is_result (by simp [lastResult_none.mp later entry mem])

/-- What is kept is what fits of the head, and the last result behind it, where it does not come there. -/
theorem chosen_kept (head : List Entry) (tail : Option (List Entry)) :
    (∃ result, lastResult (tail.getD []) = some result ∧ (chooseLines head tail).kept = (keepLines 0 head).1 ++ [result]) ∨
    lastResult (tail.getD []) = none ∧
      ((∃ result skipped after, lastResult head = some result ∧ head = (keepLines 0 head).1 ++ skipped ++ result :: after ∧
          (chooseLines head tail).kept = (keepLines 0 head).1 ++ [result]) ∨
        (chooseLines head tail).kept = (keepLines 0 head).1 ∧ ∀ result, lastResult head = some result → result ∈ (keepLines 0 head).1) := by
  obtain ⟨rest, split, whole⟩ := keepLines_split 0 head
  have kept_within : (keepLines 0 head).1.length ≤ head.length := by
    have length := congrArg List.length split
    rw [List.length_append] at length
    omega
  rw [← tailResult_eq]
  cases added : tailResult tail with
  | some result =>
    refine .inl ⟨result, rfl, ?_⟩
    simp [chooseLines, added, kept_within]
  | none =>
    refine .inr ⟨rfl, ?_⟩
    cases last : lastIndex Entry.isResult head with
    | none =>
      refine .inr ⟨by simp [chooseLines, added, last], fun result is_last => ?_⟩
      rw [lastResult, last] at is_last
      cases is_last
    | some index =>
      obtain ⟨result, is_result, -⟩ := lastIndex_some last
      have is_last : lastResult head = some result := by
        rw [lastResult, last]
        exact is_result
      by_cases outside : (keepLines 0 head).1.length ≤ index
      · have in_rest : rest[index - (keepLines 0 head).1.length]? = some result := by
          rw [split, List.getElem?_append_right outside] at is_result
          exact is_result
        have cut : (keepLines 0 head).2 = true := by
          by_contra whole_kept
          rw [whole (Bool.eq_false_iff.mpr whole_kept)] at in_rest
          cases in_rest
        obtain ⟨skipped, after, rest_split⟩ := List.append_of_mem (List.mem_of_getElem? in_rest)
        refine .inl ⟨result, skipped, after, is_last, ?_, by simp [chooseLines, added, last, cut, outside, is_result]⟩
        rw [List.append_assoc, ← rest_split, ← split]
      · refine .inr ⟨by simp [chooseLines, added, last, outside], fun other other_last => ?_⟩
        rw [is_last] at other_last
        obtain rfl := Option.some.inj other_last
        rw [split, List.getElem?_append_left (Nat.lt_of_not_le outside)] at is_result
        exact List.mem_of_getElem? is_result

/-- The spelling of a line's type in its stub. -/
def Entry.typeSpelling (entry : Entry) : PyStr :=
  match entry.message.bind fun message => (message.item "type").string with
  | some type => PyStr.ofString "\"" ++ jsonSpelling type ++ PyStr.ofString "\""
  | none => PyStr.ofString "null"

/-- A stub leaves this much of the limit to the type and the size that it says. -/
def stubRoom : Nat := 65478

/-- The stub of a line, where it needs one, says no more than it has room for. -/
def Entry.HasRoom (entry : Entry) : Prop :=
  entry.isOversized = true → entry.typeSpelling.length + (PyStr.ofString (toString entry.line.bytes.length)).length ≤ stubRoom

theorem stub_length (oversized : entry.isOversized = true) :
    entry.stored.length = entry.typeSpelling.length + (PyStr.ofString (toString entry.line.bytes.length)).length + 58 := by
  have spelled : stub entry.message entry.line.bytes.length = (PyStr.ofString "\x7b\"type\": \"issuebot_omitted\", \"original_type\": " ++
      entry.typeSpelling ++ PyStr.ofString ", \"bytes\": " ++ PyStr.ofString (toString entry.line.bytes.length) ++
      PyStr.ofString "\x7d").map fun c => UInt8.ofNat c.code := rfl
  have front : (PyStr.ofString "\x7b\"type\": \"issuebot_omitted\", \"original_type\": ").length = 46 := by decide
  have middle : (PyStr.ofString ", \"bytes\": ").length = 11 := by decide
  have back : (PyStr.ofString "\x7d").length = 1 := by decide
  rw [Entry.stored, if_pos oversized, spelled, List.length_map, List.length_append, List.length_append, List.length_append,
    List.length_append, front, middle, back]
  omega

theorem stored_le_iff : entry.stored.length ≤ lineLimit ↔ entry.HasRoom := by
  have room : lineLimit = stubRoom + 58 := rfl
  by_cases oversized : entry.isOversized = true
  · rw [Entry.HasRoom, stub_length oversized, room]
    exact ⟨fun short _ => by omega, fun short => Nat.add_le_add_right (short oversized) 58⟩
  · rw [Entry.stored, if_neg oversized]
    exact iff_of_true (Nat.le_of_not_lt fun big => oversized (decide_eq_true big)) fun big => absurd big oversized

end Kept

theorem chooseLines_congr {head : List Entry} {tail other : Option (List Entry)} (same : tail.getD [] = other.getD []) :
    chooseLines head tail = chooseLines head other := by
  simp only [chooseLines, tailResult_eq, same]

/-- The line ends where a line of the file does. -/
def Line.IsUncut (content : Bytes) (line : Line) : Prop := ∀ b, content[line.start + line.bytes.length]? = some b → Breaks b

namespace CaptureWorld

variable (w : CaptureWorld) (content : Bytes)

/-- The lines of the head of a stream. -/
def headEntries : List Entry := (headLines content).map (entryOf w.loads)

/-- The lines of its tail, none where the head is all of it. -/
def tailEntries : List Entry := (tailLines content).map (entryOf w.loads)

/-- What is stored of a stream. -/
def chosen : Chosen := chooseLines (w.headEntries content) (some (w.tailEntries content))

/-- The last result, of the tail or else of the head. -/
def resultLine : Option Entry := (lastResult (w.tailEntries content)).or (lastResult (w.headEntries content))

end CaptureWorld

/-- The summary of a capture is read from this result. -/
structure TurnCapture.IsSummaryOf (w : CaptureWorld) (capture : TurnCapture) (message : Members) : Prop where
  subtype : capture.subtype = (message.item "subtype").string
  isError : capture.isError = (message.item "is_error").bool?
  numTurns : capture.numTurns = (message.item "num_turns").int?
  inputTokens : capture.inputTokens = (((message.item "usage").asObject.getD []).item "input_tokens").int?
  cacheCreationInputTokens : capture.cacheCreationInputTokens =
    (((message.item "usage").asObject.getD []).item "cache_creation_input_tokens").int?
  cacheReadInputTokens : capture.cacheReadInputTokens = (((message.item "usage").asObject.getD []).item "cache_read_input_tokens").int?
  outputTokens : capture.outputTokens = (((message.item "usage").asObject.getD []).item "output_tokens").int?
  costUsd : (message.item "total_cost_usd").number = .ok capture.costUsd
  durationMs : capture.durationMs = (message.item "duration_ms").int?
  resultText : capture.resultText = (message.item "result").string.map fun text => (w.scrub text).take resultTextLimit

/-- The lines as they are stored, before they are scrubbed. -/
def storedStream (kept : List Entry) : Bytes :=
  if kept = [] then [] else ([10] : Bytes).intercalate (kept.map Entry.stored) ++ [10]

/-- A capture keeps its caps, and stores lines of the file in their order, the last result among them. -/
structure TurnCapture.IsCapped (w : CaptureWorld) (content : Bytes) (capture : TurnCapture) : Prop where
  prompt : ∃ text, capture.prompt = PyStr.ofText text ∧ Utf8.size text ≤ promptLimit
  stderr : ∃ text, capture.stderr = PyStr.ofText text ∧ Utf8.size text ≤ stderrLimit
  resultText : ∀ text, capture.resultText = some text → text.length ≤ resultTextLimit
  stream : capture.stream = if (w.chosen content).kept = [] then [] else w.scrub (storedText (storedStream (w.chosen content).kept))
  lines : ∀ entry ∈ (w.chosen content).kept, entry.stored.length ≤ lineLimit
  total : (storedStream (w.chosen content).kept).length ≤ streamLimit + (lineLimit + 1)
  ofFile : ∀ entry ∈ (w.chosen content).kept, entry.line ∈ byteLines 0 [] content
  inOrder : (w.chosen content).kept.Pairwise fun first second => first.line.start < second.line.start
  result : (∃ entry ∈ w.headEntries content ++ w.tailEntries content, entry.isResult = true ∧ entry.line ∈ byteLines 0 [] content) →
    ∃ last ∈ (w.chosen content).kept, last.isResult = true ∧ capture.IsSummaryOf w (last.message.getD []) ∧
      ∀ entry ∈ w.headEntries content ++ w.tailEntries content, entry.isResult = true → entry.line ∈ byteLines 0 [] content →
        entry.line.start ≤ last.line.start

/-- A stream whose stored lines need no stub that is too long, and are lines of the file as they are read, the last
result behind all that fits of the head. -/
structure StaysCapped (w : CaptureWorld) (content : Bytes) : Prop where
  room : ∀ entry, Fits (w.headEntries content) entry ∨ w.resultLine content = some entry → entry.HasRoom
  uncut : ∀ entry, Fits (w.headEntries content) entry ∨
    lastResult (w.tailEntries content) = none ∧ lastResult (w.headEntries content) = some entry → entry.line.IsUncut content
  begins : ∀ result, lastResult (w.tailEntries content) = some result → Begins content result.line.start
  behind : ∀ entry result, Fits (w.headEntries content) entry → lastResult (w.tailEntries content) = some result →
    entry.line.start < result.line.start

section Streams

variable {w : CaptureWorld} {content : Bytes} {entry result : Entry} {kept : List Entry}

theorem storedStream_length : (storedStream kept).length = storedBytes kept := by
  have joined : ∀ (first : Entry) (later : List Entry),
      (([10] : Bytes).intercalate ((first :: later).map Entry.stored)).length + 1 = storedBytes (first :: later) := by
    intro first later
    induction later generalizing first with
    | nil =>
      rw [storedBytes_cons]
      simp [storedBytes]
    | cons second later ih =>
      rw [storedBytes_cons, ← ih second, List.map_cons, List.map_cons, List.intercalate_cons_cons, List.length_append, List.length_append]
      simp only [List.length_singleton]
      omega
  rw [storedStream]
  split
  next empty =>
    rw [empty]
    rfl
  next some_line =>
    obtain ⟨first, later, rfl⟩ := List.exists_cons_of_ne_nil some_line
    rw [List.length_append, ← joined]
    rfl

theorem mem_headEntries (mem : entry ∈ w.headEntries content) :
    entry = entryOf w.loads entry.line ∧ entry.line.isBlank = false ∧ entry.line ∈ byteLines 0 [] (content.take turnStreamLimit) := by
  obtain ⟨line, listed, rfl⟩ := List.mem_map.mp mem
  obtain ⟨of_head, solid⟩ := List.mem_filter.mp listed
  rw [Bool.not_eq_true'] at solid
  exact ⟨rfl, solid, of_head⟩

/-- Where the tail read begins. -/
def tailStart (content : Bytes) : Nat := content.length - streamTailLimit

theorem tailLines_eq (truncated : (readHead content turnStreamLimit).truncated = true) :
    tailLines content = linesAt (tailStart content) (content.drop (tailStart content)) := by
  have data : (readTail content streamTailLimit).data = content.drop (tailStart content) := by rw [readTail, tailStart]
  have within : tailStart content ≤ content.length := by
    rw [tailStart]
    exact Nat.sub_le _ _
  rw [tailLines, if_pos truncated, data, List.length_drop, Nat.sub_sub_self within]

theorem mem_tailEntries (mem : entry ∈ w.tailEntries content) :
    (readHead content turnStreamLimit).truncated = true ∧ entry.line ∈ byteLines (tailStart content) [] (content.drop (tailStart content)) := by
  obtain ⟨line, listed, rfl⟩ := List.mem_map.mp mem
  by_cases truncated : (readHead content turnStreamLimit).truncated = true
  · rw [tailLines_eq truncated] at listed
    exact ⟨truncated, (List.mem_filter.mp listed).1⟩
  · rw [tailLines, if_neg truncated] at listed
    cases listed

theorem head_entry_iff (mem : entry ∈ w.headEntries content) : entry.line ∈ byteLines 0 [] content ↔ entry.line.IsUncut content := by
  rw [mem_lines]
  exact head_line_iff (mem_headEntries mem).2.2

theorem tail_entry_iff (mem : entry ∈ w.tailEntries content) : entry.line ∈ byteLines 0 [] content ↔ Begins content entry.line.start := by
  rw [mem_lines]
  exact tail_line_iff (mem_tailEntries mem).2

theorem linesAt_pairwise {start : Nat} {data : Bytes} : (linesAt start data).Pairwise fun first second => first.start < second.start :=
  byteLines_pairwise.filter _

theorem head_pairwise : (w.headEntries content).Pairwise fun first second => first.line.start < second.line.start :=
  List.pairwise_map.mpr linesAt_pairwise

theorem tail_pairwise : (w.tailEntries content).Pairwise fun first second => first.line.start < second.line.start := by
  refine List.pairwise_map.mpr ?_
  rw [tailLines]
  split
  · exact linesAt_pairwise
  · exact .nil

/-- A line of the head that begins behind one of the tail is in the tail too. -/
theorem head_in_tail (mem : entry ∈ w.headEntries content) (whole : entry.line ∈ byteLines 0 [] content)
    (in_tail : result ∈ w.tailEntries content) (behind : result.line.start ≤ entry.line.start) : entry ∈ w.tailEntries content := by
  obtain ⟨is_entry, solid, -⟩ := mem_headEntries mem
  obtain ⟨truncated, result_mem⟩ := mem_tailEntries in_tail
  have from_start := Nat.le_trans (start_le_of_mem result_mem) behind
  have line_mem : entry.line ∈ tailLines content := by
    rw [tailLines_eq truncated]
    exact List.mem_filter.mpr ⟨(mem_lines.mp whole).mem_tail from_start, by rw [solid]; rfl⟩
  rw [is_entry]
  exact List.mem_map_of_mem line_mem

theorem Fits.mem {head : List Entry} (fits : Fits head entry) : entry ∈ head := by
  obtain ⟨before, after, rfl, -⟩ := fits
  exact List.mem_append_right _ List.mem_cons_self

end Streams
section Caps

variable {w : CaptureWorld} {dir : LogDir} {turn : Nat × Bytes} {capture : TurnCapture} {content : Bytes} {entry : Entry} {head : List Entry}
  {tail : Option (List Entry)}

/-- What is stored is what fits of the head, and the last result. -/
theorem mem_kept (mem : entry ∈ (w.chosen content).kept) : Fits (w.headEntries content) entry ∨
    lastResult (w.tailEntries content) = some entry ∨
    lastResult (w.tailEntries content) = none ∧ lastResult (w.headEntries content) = some entry := by
  rcases chosen_kept (w.headEntries content) (some (w.tailEntries content)) with
    ⟨last, is_last, kept⟩ | ⟨no_tail, ⟨last, skipped, after, is_last, -, kept⟩ | ⟨kept, -⟩⟩
  · rw [CaptureWorld.chosen, kept, List.mem_append, List.mem_singleton] at mem
    rcases mem with mem | rfl
    · exact .inl (mem_kept_iff_fits.mp mem)
    · exact .inr (.inl is_last)
  · rw [CaptureWorld.chosen, kept, List.mem_append, List.mem_singleton] at mem
    rcases mem with mem | rfl
    · exact .inl (mem_kept_iff_fits.mp mem)
    · exact .inr (.inr ⟨no_tail, is_last⟩)
  · rw [CaptureWorld.chosen, kept] at mem
    exact .inl (mem_kept_iff_fits.mp mem)

theorem fits_mem_kept (fits : Fits (w.headEntries content) entry) : entry ∈ (w.chosen content).kept := by
  have mem := mem_kept_iff_fits.mpr fits
  rcases chosen_kept (w.headEntries content) (some (w.tailEntries content)) with
    ⟨last, -, kept⟩ | ⟨-, ⟨last, skipped, after, -, -, kept⟩ | ⟨kept, -⟩⟩
  · rw [CaptureWorld.chosen, kept]
    exact List.mem_append_left _ mem
  · rw [CaptureWorld.chosen, kept]
    exact List.mem_append_left _ mem
  · rw [CaptureWorld.chosen, kept]
    exact mem

/-- The last result is stored. -/
theorem resultLine_mem_kept (is_last : w.resultLine content = some entry) : entry ∈ (w.chosen content).kept := by
  rcases chosen_kept (w.headEntries content) (some (w.tailEntries content)) with
    ⟨last, tail_last, kept⟩ | ⟨no_tail, ⟨last, skipped, after, head_last, -, kept⟩ | ⟨kept, each⟩⟩
  · have tail_last : lastResult (w.tailEntries content) = some last := tail_last
    rw [CaptureWorld.resultLine, tail_last] at is_last
    obtain rfl := Option.some.inj is_last
    rw [CaptureWorld.chosen, kept]
    exact List.mem_append_right _ (List.mem_singleton_self _)
  · have no_tail : lastResult (w.tailEntries content) = none := no_tail
    rw [CaptureWorld.resultLine, no_tail, head_last] at is_last
    obtain rfl := Option.some.inj is_last
    rw [CaptureWorld.chosen, kept]
    exact List.mem_append_right _ (List.mem_singleton_self _)
  · have no_tail : lastResult (w.tailEntries content) = none := no_tail
    rw [CaptureWorld.resultLine, no_tail] at is_last
    rw [CaptureWorld.chosen, kept]
    exact each entry is_last

theorem resultLine_eq_some : w.resultLine content = some entry ↔ lastResult (w.tailEntries content) = some entry ∨
    lastResult (w.tailEntries content) = none ∧ lastResult (w.headEntries content) = some entry := by
  rw [CaptureWorld.resultLine, Option.or_eq_some_iff]

/-- The summary is read from the last result. -/
theorem resultOf_eq (is_last : w.resultLine content = some entry) : w.resultOf content = entry.message.getD [] := by
  have message_of {entries : List Entry} (last : lastResult entries = some entry) :
      lastMessage Entry.isResult entries = entry.message.getD [] := by
    rw [lastMessage, messageAt]
    rw [lastResult] at last
    rw [last]
    rfl
  rw [CaptureWorld.resultOf, resultMessage]
  rcases resultLine_eq_some.mp is_last with tail_last | ⟨no_tail, head_last⟩
  · obtain ⟨holds, mem⟩ := lastResult_spec tail_last
    have some_result : (w.tailEntries content).any Entry.isResult = true := List.any_eq_true.mpr ⟨entry, mem, holds⟩
    have same : ((tailLines content).map (entryOf w.loads)).any Entry.isResult = true := some_result
    rw [if_pos same]
    exact message_of tail_last
  · have none_result : ((tailLines content).map (entryOf w.loads)).any Entry.isResult = false :=
      List.any_eq_false.mpr fun other mem => by simp [lastResult_none.mp no_tail other mem]
    rw [none_result, if_neg Bool.false_ne_true]
    exact message_of head_last

/-- What a capture is, of what was stored of its stream. -/
theorem captured_eq (captured : w.captureTurn dir turn = .ok capture) : ∃ cost prompt stderr,
    ((w.resultOf turn.2).item "total_cost_usd").number = .ok cost ∧
    headOf (w.scrub (storedText (readHead (CaptureWorld.turnFile dir turn.1 ".prompt.md") turnPromptLimit).data)) promptLimit = .ok prompt ∧
    tailOf (w.scrub (storedText (readTail (CaptureWorld.turnFile dir turn.1 ".stderr.log") turnStderrLimit).data)) stderrLimit = .ok stderr ∧
    w.record turn.1 (readHead turn.2 turnStreamLimit) (readHead (CaptureWorld.turnFile dir turn.1 ".prompt.md") turnPromptLimit)
      (readTail (CaptureWorld.turnFile dir turn.1 ".stderr.log") turnStderrLimit) (w.chosen turn.2) cost prompt stderr = capture := by
  obtain ⟨head, tail, cost, prompt, stderr, is_head, is_tail, is_cost, is_prompt, is_stderr, made⟩ := captureTurn_eq_ok.mp captured
  obtain ⟨-, is_head⟩ := headLines_read.mp is_head
  have same : chooseLines head tail = w.chosen turn.2 := by
    rw [is_head, CaptureWorld.chosen]
    exact chooseLines_congr (tail_entries is_tail)
  have result : messageAt (w.chosen turn.2).entries (w.chosen turn.2).resultIndex = w.resultOf turn.2 := chosen_result
  rw [same] at is_cost made
  rw [result] at is_cost
  exact ⟨cost, prompt, stderr, is_cost, is_prompt, is_stderr, made⟩

theorem headOf_size {text cut : PyStr} {limit : Nat} (is_cut : headOf text limit = .ok cut) :
    ∃ chars, cut = PyStr.ofText chars ∧ Utf8.size chars ≤ limit := by
  rw [headOf] at is_cut
  split at is_cut
  · cases is_cut
  next chars =>
    refine ⟨_, (Except.ok.inj is_cut).symm, Nat.le_trans (Utf8.size_decode_le _) ?_⟩
    exact List.length_take_le _ _

theorem tailOf_size {text cut : PyStr} {limit : Nat} (is_cut : tailOf text limit = .ok cut) :
    ∃ chars, cut = PyStr.ofText chars ∧ Utf8.size chars ≤ limit := by
  rw [tailOf] at is_cut
  split at is_cut
  · cases is_cut
  next chars =>
    refine ⟨_, (Except.ok.inj is_cut).symm, Nat.le_trans (Utf8.size_decode_le _) ?_⟩
    rw [List.length_drop]
    omega

/-- What is stored comes to the limit of the stream and a line. -/
theorem total_le (lines : ∀ entry ∈ (w.chosen content).kept, entry.stored.length ≤ lineLimit) :
    (storedStream (w.chosen content).kept).length ≤ streamLimit + (lineLimit + 1) := by
  have fits : 0 + storedBytes (keepLines 0 (w.headEntries content)).1 ≤ streamLimit := keepLines_bytes (Nat.zero_le _)
  rw [Nat.zero_add] at fits
  have with_last (last : Entry) (kept : (w.chosen content).kept = (keepLines 0 (w.headEntries content)).1 ++ [last]) :
      storedBytes (w.chosen content).kept ≤ streamLimit + (lineLimit + 1) := by
    have short := lines last (kept ▸ List.mem_append_right _ (List.mem_singleton_self _))
    have one : storedBytes [last] = last.stored.length + 1 := rfl
    rw [kept, storedBytes_append, one]
    exact Nat.add_le_add fits (Nat.succ_le_succ short)
  rw [storedStream_length]
  rcases chosen_kept (w.headEntries content) (some (w.tailEntries content)) with
    ⟨last, -, kept⟩ | ⟨-, ⟨last, skipped, after, -, -, kept⟩ | ⟨kept, -⟩⟩
  · exact with_last last kept
  · exact with_last last kept
  · rw [CaptureWorld.chosen, kept]
    exact Nat.le_trans fits (Nat.le_add_right _ _)

/-- The lines stored are in order where the tail's result is behind what fits of the head. -/
theorem kept_pairwise (behind : ∀ entry result, Fits (w.headEntries content) entry → lastResult (w.tailEntries content) = some result →
    entry.line.start < result.line.start) : (w.chosen content).kept.Pairwise fun first second => first.line.start < second.line.start := by
  obtain ⟨rest, split, -⟩ := keepLines_split 0 (w.headEntries content)
  have order := @head_pairwise w content
  have front : (keepLines 0 (w.headEntries content)).1.Pairwise fun first second => first.line.start < second.line.start := by
    rw [split] at order
    exact (List.pairwise_append.mp order).1
  rcases chosen_kept (w.headEntries content) (some (w.tailEntries content)) with
    ⟨last, is_last, kept⟩ | ⟨-, ⟨last, skipped, after, -, placed, kept⟩ | ⟨kept, -⟩⟩
  · rw [CaptureWorld.chosen, kept]
    refine List.pairwise_append.mpr ⟨front, List.pairwise_singleton _ _, fun entry mem other is_other => ?_⟩
    rw [List.mem_singleton.mp is_other]
    exact behind entry last (mem_kept_iff_fits.mp mem) is_last
  · rw [CaptureWorld.chosen, kept]
    refine List.pairwise_append.mpr ⟨front, List.pairwise_singleton _ _, fun entry mem other is_other => ?_⟩
    rw [List.mem_singleton.mp is_other]
    rw [placed] at order
    exact (List.pairwise_append.mp order).2.2 entry (List.mem_append_left _ mem) last List.mem_cons_self
  · rw [CaptureWorld.chosen, kept]
    exact front

/-- No result that is a line of the file begins behind the last. -/
theorem resultLine_last {last : Entry} (is_last : w.resultLine content = some last)
    (mem : entry ∈ w.headEntries content ++ w.tailEntries content) (is_result : entry.isResult = true)
    (whole : entry.line ∈ byteLines 0 [] content) : entry.line.start ≤ last.line.start := by
  have in_tail (tail_last : lastResult (w.tailEntries content) = some last) (mem : entry ∈ w.tailEntries content) :
      entry.line.start ≤ last.line.start := by
    rcases le_lastResult tail_pairwise tail_last mem is_result with rfl | before
    · exact Nat.le_refl _
    · exact Nat.le_of_lt before
  rcases resultLine_eq_some.mp is_last with tail_last | ⟨no_tail, head_last⟩
  · rcases List.mem_append.mp mem with in_head | mem
    · rcases Nat.le_total entry.line.start last.line.start with before | behind
      · exact before
      · exact in_tail tail_last (head_in_tail in_head whole (lastResult_spec tail_last).2 behind)
    · exact in_tail tail_last mem
  · rcases List.mem_append.mp mem with in_head | mem
    · rcases le_lastResult head_pairwise head_last in_head is_result with rfl | before
      · exact Nat.le_refl _
      · exact Nat.le_of_lt before
    · exact absurd is_result (by simp [lastResult_none.mp no_tail entry mem])

theorem resultLine_isResult (is_last : w.resultLine content = some entry) : entry.isResult = true := by
  rcases resultLine_eq_some.mp is_last with tail_last | ⟨-, head_last⟩
  · exact (lastResult_spec tail_last).1
  · exact (lastResult_spec head_last).1

theorem exists_resultLine (mem : entry ∈ w.headEntries content ++ w.tailEntries content) (is_result : entry.isResult = true) :
    ∃ last, w.resultLine content = some last := by
  cases found : w.resultLine content with
  | some last => exact ⟨last, rfl⟩
  | none =>
    obtain ⟨no_tail, no_head⟩ := Option.or_eq_none_iff.mp found
    rcases List.mem_append.mp mem with mem | mem
    · exact absurd is_result (by simp [lastResult_none.mp no_head entry mem])
    · exact absurd is_result (by simp [lastResult_none.mp no_tail entry mem])

/-- A capture keeps its caps, and the last result, exactly where its stream calls for no stub that is too long, the
head read cuts no line that is stored, the tail read does not begin in its result, and that is behind what fits of
the head. -/
theorem capture_capped_iff (w : CaptureWorld) (dir : LogDir) (turn : Nat × Bytes) (capture : TurnCapture)
    (captured : w.captureTurn dir turn = .ok capture) : capture.IsCapped w turn.2 ↔ StaysCapped w turn.2 := by
  constructor
  · intro capped
    refine ⟨fun entry stored => stored_le_iff.mp (capped.lines entry ?_), fun entry stored => ?_, fun result is_last => ?_,
      fun entry result fits is_last => ?_⟩
    · exact stored.elim fits_mem_kept resultLine_mem_kept
    · rcases stored with fits | ⟨no_tail, head_last⟩
      · exact (head_entry_iff fits.mem).mp (capped.ofFile entry (fits_mem_kept fits))
      · exact (head_entry_iff (lastResult_spec head_last).2).mp
          (capped.ofFile entry (resultLine_mem_kept (resultLine_eq_some.mpr (.inr ⟨no_tail, head_last⟩))))
    · exact (tail_entry_iff (lastResult_spec is_last).2).mp
        (capped.ofFile result (resultLine_mem_kept (resultLine_eq_some.mpr (.inl is_last))))
    · have order := capped.inOrder
      rcases chosen_kept (w.headEntries turn.2) (some (w.tailEntries turn.2)) with ⟨last, tail_last, kept⟩ | ⟨no_tail, -⟩
      · obtain rfl : last = result := Option.some.inj (tail_last.symm.trans is_last)
        rw [CaptureWorld.chosen, kept] at order
        exact (List.pairwise_append.mp order).2.2 entry (mem_kept_iff_fits.mpr fits) last (List.mem_singleton_self _)
      · exact absurd (no_tail.symm.trans is_last) (by simp)
  · intro stays
    obtain ⟨cost, prompt, stderr, is_cost, is_prompt, is_stderr, rfl⟩ := captured_eq captured
    have message : messageAt (w.chosen turn.2).entries (w.chosen turn.2).resultIndex = w.resultOf turn.2 := chosen_result
    have lines : ∀ entry ∈ (w.chosen turn.2).kept, entry.stored.length ≤ lineLimit := by
      intro entry mem
      exact stored_le_iff.mpr (stays.room entry ((mem_kept mem).imp id resultLine_eq_some.mpr))
    refine ⟨headOf_size is_prompt, tailOf_size is_stderr, fun text said => ?_, ?_, lines, total_le lines, fun entry mem => ?_,
      kept_pairwise stays.behind, ?_⟩
    · obtain ⟨source, -, rfl⟩ := Option.map_eq_some_iff.mp said
      exact List.length_take_le _ _
    · rw [CaptureWorld.record]
      dsimp only
      split
      · rfl
      next some_line => rw [storedStream, if_neg some_line]
    · rcases mem_kept mem with fits | tail_last | ⟨no_tail, head_last⟩
      · exact (head_entry_iff fits.mem).mpr (stays.uncut entry (.inl fits))
      · exact (tail_entry_iff (lastResult_spec tail_last).2).mpr (stays.begins entry tail_last)
      · exact (head_entry_iff (lastResult_spec head_last).2).mpr (stays.uncut entry (.inr ⟨no_tail, head_last⟩))
    · rintro ⟨entry, mem, is_result, -⟩
      obtain ⟨last, is_last⟩ := exists_resultLine mem is_result
      refine ⟨last, resultLine_mem_kept is_last, resultLine_isResult is_last, ?_, fun other => resultLine_last is_last⟩
      rw [resultOf_eq is_last] at is_cost message
      constructor
      all_goals
        first
        | exact is_cost
        | rw [CaptureWorld.record, message]

end Caps

/-- The line `{"type":"result","subtype":"success"}`. -/
def resultBytes : Bytes := Utf8.encode "\x7b\"type\":\"result\",\"subtype\":\"success\"\x7d".toList

/-- Python, as it decodes that line. -/
def resultWorld : CaptureWorld where
  loads line :=
    if line = resultBytes then .value (.obj [(PyStr.ofString "type", .str (PyStr.ofString "result")),
      (PyStr.ofString "subtype", .str (PyStr.ofString "success"))])
    else .refused
  isWord c := c.isAlphanum || c = '_'
  decimal c := if c.isDigit then some (c.toNat - '0'.toNat) else none
  scrubber := .default

/-- A result line is captured, and stored. -/
theorem result_line_is_capped : ∃ capture, resultWorld.captureTurn (oneLine resultBytes) (1, resultBytes) = .ok capture ∧
    capture.IsCapped resultWorld resultBytes := by
  have head : headLines resultBytes = [⟨0, resultBytes⟩] := by decide +kernel
  have tail : tailLines resultBytes = [] := by decide +kernel
  have head_entries : resultWorld.headEntries resultBytes = [entryOf resultWorld.loads ⟨0, resultBytes⟩] := congrArg (List.map _) head
  have tail_entries : resultWorld.tailEntries resultBytes = [] := congrArg (List.map _) tail
  have only {entry : Entry} (mem : entry ∈ resultWorld.headEntries resultBytes) : entry.line = ⟨0, resultBytes⟩ := by
    rw [head_entries] at mem
    rw [List.mem_singleton.mp mem]
    rfl
  have stays : StaysCapped resultWorld resultBytes := by
    refine ⟨fun entry stored big => ?_, fun entry stored b is_next => ?_, fun result is_last => ?_, fun entry result fits is_last => ?_⟩
    · have mem : entry ∈ resultWorld.headEntries resultBytes := by
        refine stored.elim Fits.mem fun is_last => ?_
        rcases resultLine_eq_some.mp is_last with tail_last | ⟨-, head_last⟩
        · rw [tail_entries] at tail_last
          cases tail_last
        · exact (lastResult_spec head_last).2
      rw [Entry.isOversized, only mem] at big
      exact absurd big (by decide)
    · have mem : entry ∈ resultWorld.headEntries resultBytes := stored.elim Fits.mem fun both => (lastResult_spec both.2).2
      rw [only mem, List.getElem?_eq_none (Nat.le_add_left _ _)] at is_next
      cases is_next
    · rw [tail_entries] at is_last
      cases is_last
    · rw [tail_entries] at is_last
      cases is_last
  have captured : (resultWorld.captureTurn (oneLine resultBytes) (1, resultBytes)).isOk = true := by decide +kernel
  cases is_capture : resultWorld.captureTurn (oneLine resultBytes) (1, resultBytes) with
  | error error =>
    rw [is_capture] at captured
    cases captured
  | ok capture => exact ⟨capture, rfl, (capture_capped_iff _ _ _ _ is_capture).mpr stays⟩

section LongType

variable (n : Nat)

/-- The line `{"type":"aa…a"}`. -/
def typeLine : Bytes := Utf8.encode "\x7b\"type\":\"".toList ++ List.replicate n 97 ++ Utf8.encode "\"\x7d".toList

/-- What it says. -/
def typeMessage : Members := [(PyStr.ofString "type", .str (List.replicate n (.scalar 'a')))]

/-- Python, as it decodes that line. -/
def typeWorld : CaptureWorld where
  loads line := if line = typeLine n then .value (.obj (typeMessage n)) else .refused
  isWord c := c.isAlphanum || c = '_'
  decimal c := if c.isDigit then some (c.toNat - '0'.toNat) else none
  scrubber := .default

/-- The line as it is read. -/
def typeEntry : Entry := entryOf (typeWorld n).loads ⟨0, typeLine n⟩

variable {n}

theorem typeEntry_message : (typeEntry n).message = some (typeMessage n) := by
  have loaded : (typeWorld n).loads (typeLine n) = .value (.obj (typeMessage n)) := if_pos rfl
  rw [typeEntry, entryOf]
  dsimp only
  rw [loaded]
  rfl

theorem typeLine_length : (typeLine n).length = n + 11 := by
  have front : (Utf8.encode "\x7b\"type\":\"".toList).length = 9 := by decide
  have back : (Utf8.encode "\"\x7d".toList).length = 2 := by decide
  rw [typeLine, List.length_append, List.length_append, List.length_replicate, front, back]
  omega

theorem typeLine_isLine : IsLine (typeLine n) ⟨0, typeLine n⟩ := by
  refine ⟨.inl rfl, List.prefix_rfl, fun b mem => ?_, ?_⟩
  · have each : ∀ c ∈ Utf8.encode "\x7b\"type\":\"".toList ++ [97] ++ Utf8.encode "\"\x7d".toList, ¬ (c = 10 ∨ c = 13) := by decide
    refine each b ?_
    have mem : b ∈ typeLine n := mem
    rw [typeLine, List.mem_append, List.mem_append] at mem
    rw [List.mem_append, List.mem_append]
    exact mem.imp (Or.imp id fun mem => List.mem_singleton.mpr (List.eq_of_mem_replicate mem)) id
  · show ((typeLine n)[0 + (typeLine n).length]?).elim (typeLine n ≠ []) Breaks
    rw [Nat.zero_add, List.getElem?_eq_none (Nat.le_refl _)]
    intro empty
    have length := @typeLine_length n
    rw [empty] at length
    cases length

theorem spelled_letters : jsonSpelling (List.replicate n (.scalar 'a')) = List.replicate n (.scalar 'a') := by
  have letter : jsonChar (.scalar 'a') = [.scalar 'a'] := by decide
  induction n with
  | zero => rfl
  | succ n ih =>
    rw [List.replicate_succ, jsonSpelling, List.flatMap_cons, letter, List.singleton_append]
    exact congrArg (List.cons _) ih

theorem typeEntry_spelling : (typeEntry n).typeSpelling.length = n + 2 := by
  have spelled : (typeEntry n).typeSpelling = PyStr.ofString "\"" ++ jsonSpelling (List.replicate n (.scalar 'a')) ++ PyStr.ofString "\"" := by
    rw [Entry.typeSpelling, typeEntry_message]
    rfl
  have quote : (PyStr.ofString "\"").length = 1 := by decide
  rw [spelled, spelled_letters, List.length_append, List.length_append, List.length_replicate, quote]
  omega

theorem typeEntry_stored (long : lineLimit < n + 11) :
    (typeEntry n).stored.length = n + 2 + (PyStr.ofString (toString (n + 11))).length + 58 := by
  have length : (typeEntry n).line.bytes.length = n + 11 := typeLine_length
  have oversized : (typeEntry n).isOversized = true := by
    rw [Entry.isOversized, length]
    exact decide_eq_true long
  rw [stub_length oversized, typeEntry_spelling, length]

/-- The line is the first of its file. -/
theorem headEntries_typeLine (short : n + 11 ≤ turnStreamLimit) : (typeWorld n).headEntries (typeLine n) = [typeEntry n] := by
  have whole : (readHead (typeLine n) turnStreamLimit).data = typeLine n := by
    rw [readHead]
    exact List.take_of_length_le (typeLine_length ▸ short)
  have solid : (Line.mk 0 (typeLine n)).isBlank = false := by
    rw [Line.isBlank, typeLine]
    rfl
  have only : byteLines 0 [] (typeLine n) = [⟨0, typeLine n⟩] := by
    have mem : ⟨0, typeLine n⟩ ∈ byteLines 0 [] (typeLine n) := mem_lines.mpr typeLine_isLine
    have order := @byteLines_pairwise 0 [] (typeLine n)
    obtain ⟨before, after, split⟩ := List.append_of_mem mem
    rw [split] at order
    have no_before : before = [] := by
      refine List.eq_nil_iff_forall_not_mem.mpr fun line mem => ?_
      exact absurd ((List.pairwise_append.mp order).2.2 line mem _ List.mem_cons_self) (Nat.not_lt_zero _)
    have no_after : after = [] := by
      refine List.eq_nil_iff_forall_not_mem.mpr fun line mem => ?_
      have is_line : IsLine (typeLine n) line := mem_lines.mp (split ▸ List.mem_append_right _ (List.mem_cons_of_mem _ mem))
      have behind := (List.pairwise_cons.mp (List.pairwise_append.mp order).2.1).1 line mem
      have within := is_line.start_lt
      exact typeLine_isLine.not_begins behind (by rw [Nat.zero_add]; exact Nat.le_of_lt within) is_line.begins
    rw [split, no_before, no_after]
    rfl
  rw [CaptureWorld.headEntries, headLines, whole, linesAt, only, List.filter_cons, solid]
  rfl

theorem typeLine_fits (short : n + 11 ≤ turnStreamLimit) (small : (typeEntry n).stored.length + 1 ≤ streamLimit) :
    Fits ((typeWorld n).headEntries (typeLine n)) (typeEntry n) := ⟨[], [], headEntries_typeLine short, small⟩

theorem tailLines_typeLine (short : n + 11 ≤ turnStreamLimit) : tailLines (typeLine n) = [] := by
  have whole : (readHead (typeLine n) turnStreamLimit).truncated = false := by
    have data : (readHead (typeLine n) turnStreamLimit).data.length = (readHead (typeLine n) turnStreamLimit).size := by
      rw [readHead]
      exact congrArg List.length (List.take_of_length_le (typeLine_length ▸ short))
    rw [ReadBack.truncated, data]
    exact decide_eq_false (Nat.lt_irrefl _)
  rw [tailLines, whole, if_neg Bool.false_ne_true]

/-- The line is captured. -/
theorem typeLine_holds (short : n + 11 ≤ turnStreamLimit) : StreamHolds (typeWorld n) (typeLine n) := by
  have said (p : Entry → Bool) : lastMessage p [typeEntry n] = typeMessage n ∨ lastMessage p [typeEntry n] = [] := by
    rw [lastMessage, lastIndex, lastIndex]
    cases p (typeEntry n) with
    | true =>
      refine .inl ?_
      show ((some (typeEntry n)).bind Entry.message).getD [] = typeMessage n
      rw [Option.bind_some, typeEntry_message]
      rfl
    | false => exact .inr rfl
  have head := headEntries_typeLine short
  have init : (typeWorld n).initOf (typeLine n) = lastMessage Entry.isInit [typeEntry n] := congrArg (lastMessage Entry.isInit) head
  have result : (typeWorld n).resultOf (typeLine n) = lastMessage Entry.isResult [typeEntry n] := by
    rw [CaptureWorld.resultOf, tailLines_typeLine short]
    exact congrArg (lastMessage Entry.isResult) head
  have model : ((typeWorld n).initOf (typeLine n)).item "model" = .null := by
    rw [init]
    rcases said Entry.isInit with same | same <;> rw [same] <;> rfl
  have each (name : String) (other : (typeMessage n).item name = .null) : ((typeWorld n).resultOf (typeLine n)).item name = .null := by
    rw [result]
    rcases said Entry.isResult with same | same
    · rw [same, other]
    · rw [same]
      rfl
  refine ⟨fun line mem error raised => ?_, ?_, fun text is_text => ?_, fun text is_text => ?_, fun text is_text => ?_⟩
  · have loaded : (typeWorld n).loads line.bytes = .raised error := raised
    unfold typeWorld at loaded
    dsimp only at loaded
    split at loaded
    · cases loaded
    · cases loaded
  · rw [each "total_cost_usd" rfl]
    intro m same
    cases same
  · rw [model] at is_text
    cases is_text
  · rw [each "subtype" rfl] at is_text
    cases is_text
  · rw [each "result" rfl] at is_text
    cases is_text

end LongType

/-- A type as long as a line may be is quoted in a stub that is longer. -/
theorem stub_outgrows_the_line : ¬ ∀ (w : CaptureWorld) (dir : LogDir) (turn : Nat × Bytes) (capture : TurnCapture),
    w.captureTurn dir turn = .ok capture → capture.IsCapped w turn.2 := by
  intro claimed
  have short : 65536 + 11 ≤ turnStreamLimit := by decide
  obtain ⟨capture, captured, -⟩ := (@captureTurn_iff (typeWorld 65536) (oneLine (typeLine 65536)) (1, typeLine 65536)).mpr (typeLine_holds short)
  have capped := claimed _ _ _ capture captured
  have stored := @typeEntry_stored 65536 (by decide)
  have digits : (PyStr.ofString (toString (65536 + 11))).length = 5 := by decide
  rw [digits] at stored
  have fits := typeLine_fits short (by rw [stored]; decide)
  have too_long := capped.lines _ (fits_mem_kept fits)
  rw [stored] at too_long
  exact absurd too_long (by decide)

end Issuebot
