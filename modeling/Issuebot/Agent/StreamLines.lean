import Issuebot.Agent.TurnLog

/-!
# The lines of a file, and of what is read of it

A line is known by where it begins and by what ends it, so what is read of a file from its head or its tail
splits into lines of the file, but for the one that the head read cuts (`head_line_iff`) and the one that the
tail read begins in (`tail_line_iff`).
-/

namespace Issuebot
set_option autoImplicit false

/-- A byte that ends a line. -/
def Breaks (b : UInt8) : Prop := b = 10 ∨ b = 13

/-- A line can begin at `p`: a carriage return and a line feed behind it end one line. -/
def Begins (content : Bytes) (p : Nat) : Prop :=
  p = 0 ∨ content[p - 1]? = some 10 ∨ content[p - 1]? = some 13 ∧ content[p]? ≠ some 10

/-- A line of a file. -/
structure IsLine (content : Bytes) (line : Line) : Prop where
  begins : Begins content line.start
  bytes : line.bytes <+: content.drop line.start
  plain : ∀ b ∈ line.bytes, ¬ Breaks b
  ends : (content[line.start + line.bytes.length]?).elim (line.bytes ≠ []) Breaks

section Lines

variable {content : Bytes} {line other : Line} {start p : Nat} {acc data rest : Bytes}

theorem getElem?_of_drop (split : content.drop start = data) (i : Nat) : content[start + i]? = data[i]? := by
  rw [← split, List.getElem?_drop]

theorem IsLine.byte (is_line : IsLine content line) {i : Nat} (within : i < line.bytes.length) :
    ∃ b, content[line.start + i]? = some b ∧ ¬ Breaks b := by
  obtain ⟨rest, split⟩ := is_line.bytes
  refine ⟨line.bytes[i], ?_, is_line.plain _ (List.getElem_mem within)⟩
  rw [getElem?_of_drop split.symm, List.getElem?_append_left within, List.getElem?_eq_getElem within]

/-- No line begins inside another. -/
theorem IsLine.not_begins (is_line : IsLine content line) (behind : line.start < p) (within : p ≤ line.start + line.bytes.length) :
    ¬ Begins content p := by
  obtain ⟨b, is_byte, plain⟩ := is_line.byte (show p - 1 - line.start < line.bytes.length by omega)
  have place : line.start + (p - 1 - line.start) = p - 1 := by omega
  rw [place] at is_byte
  rintro (zero | feed | ⟨carriage, -⟩)
  · omega
  · rw [is_byte] at feed
    exact plain (.inl (Option.some.inj feed))
  · rw [is_byte] at carriage
    exact plain (.inr (Option.some.inj carriage))

theorem IsLine.length_le (is_line : IsLine content line) (is_other : IsLine content other) (same : line.start = other.start) :
    line.bytes.length ≤ other.bytes.length := by
  by_contra longer
  obtain ⟨b, is_byte, plain⟩ := is_line.byte (Nat.lt_of_not_le longer)
  have ends := is_other.ends
  rw [← same, is_byte] at ends
  exact plain ends

theorem IsLine.unique (is_line : IsLine content line) (is_other : IsLine content other) (same : line.start = other.start) : line = other := by
  have length := Nat.le_antisymm (is_line.length_le is_other same) (is_other.length_le is_line same.symm)
  obtain ⟨start, bytes⟩ := line
  obtain ⟨other_start, other_bytes⟩ := other
  obtain rfl : start = other_start := same
  have bytes_eq : bytes = other_bytes := List.IsPrefix.eq_of_length (List.prefix_of_prefix_length_le is_line.bytes is_other.bytes
    (Nat.le_of_eq length)) length
  rw [bytes_eq]

theorem IsLine.start_lt (is_line : IsLine content line) : line.start < content.length := by
  refine Nat.lt_of_not_le fun behind => ?_
  have nothing : content.drop line.start = [] := List.drop_eq_nil_of_le behind
  have empty : line.bytes = [] := List.prefix_nil.mp (nothing ▸ is_line.bytes)
  have ends := is_line.ends
  rw [empty, List.length_nil, Nat.add_zero, List.getElem?_eq_none behind] at ends
  exact ends rfl

/-- A line begins here or behind what is read of the one here. -/
theorem IsLine.here_or_behind (is_line : IsLine content line) (is_here : IsLine content other) (from_here : other.start ≤ line.start) :
    line = other ∨ other.start + other.bytes.length < line.start := by
  rcases Nat.eq_or_lt_of_le from_here with same | behind
  · exact .inl (is_line.unique is_here same.symm)
  · exact .inr (Nat.lt_of_not_le fun within => is_here.not_begins behind within is_line.begins)

/-- Behind a line, and behind what ends it, the next one begins. -/
theorem IsLine.this_or_next (here : IsLine content other) {after : Nat} (behind : other.start + other.bytes.length < after)
    (gap : ∀ p, other.start + other.bytes.length < p → p < after → ¬ Begins content p) :
    (line = other ∨ IsLine content line ∧ after ≤ line.start) ↔ IsLine content line ∧ other.start ≤ line.start := by
  constructor
  · rintro (rfl | ⟨is_line, from_after⟩)
    · exact ⟨here, Nat.le_refl _⟩
    · exact ⟨is_line, by omega⟩
  · rintro ⟨is_line, from_here⟩
    refine (is_line.here_or_behind here from_here).imp id fun beyond => ⟨is_line, Nat.le_of_not_lt fun before => ?_⟩
    exact gap line.start beyond before is_line.begins

/-- The lines from `start` on are the lines of the file that begin there or behind. -/
theorem mem_byteLines (split : content.drop start = acc ++ data) (begins : Begins content start) (plain : ∀ b ∈ acc, ¬ Breaks b) :
    line ∈ byteLines start acc data ↔ IsLine content line ∧ start ≤ line.start := by
  induction start, acc, data using byteLines.induct with
  | case1 start =>
    rw [byteLines, if_pos rfl]
    refine iff_of_false List.not_mem_nil fun both => ?_
    have long : content.length ≤ start := List.drop_eq_nil_iff.mp split
    exact absurd both.1.start_lt (by omega)
  | case2 start acc some_byte =>
    rw [byteLines, if_neg some_byte, List.mem_singleton]
    rw [List.append_nil] at split
    have here : IsLine content ⟨start, acc⟩ := by
      refine ⟨begins, split ▸ List.prefix_rfl, plain, ?_⟩
      show (content[start + acc.length]?).elim (acc ≠ []) Breaks
      rw [getElem?_of_drop split, List.getElem?_eq_none (Nat.le_refl _)]
      exact some_byte
    constructor
    · rintro rfl
      exact ⟨here, Nat.le_refl _⟩
    · rintro ⟨is_line, from_here⟩
      refine (is_line.here_or_behind here from_here).resolve_right fun behind => ?_
      have long : content.length ≤ start + acc.length := by
        have length := congrArg List.length split
        rw [List.length_drop] at length
        omega
      have behind : start + acc.length < line.start := behind
      exact absurd is_line.start_lt (by omega)
  | case3 start acc rest ih =>
    have at_carriage : content[start + acc.length]? = some 13 := by
      rw [getElem?_of_drop split, List.getElem?_append_right (Nat.le_refl _), Nat.sub_self, List.getElem?_cons_zero]
    have at_feed : content[start + acc.length + 1]? = some 10 := by
      rw [Nat.add_assoc, getElem?_of_drop split, List.getElem?_append_right (by omega), Nat.add_sub_cancel_left]
      rfl
    have here : IsLine content ⟨start, acc⟩ := ⟨begins, split ▸ List.prefix_append _ _, plain, by
      rw [at_carriage]
      exact .inr rfl⟩
    have next_split : content.drop (start + acc.length + 2) = [] ++ rest := by
      rw [Nat.add_assoc, ← List.drop_drop, split, ← List.drop_drop, List.drop_left]
      rfl
    have gap : ∀ p, start + acc.length < p → p < start + acc.length + 2 → ¬ Begins content p := by
      intro p behind before
      obtain rfl : p = start + acc.length + 1 := by omega
      rintro (zero | feed | ⟨-, not_feed⟩)
      · omega
      · rw [Nat.add_sub_cancel, at_carriage] at feed
        exact absurd feed (by decide)
      · exact not_feed at_feed
    rw [byteLines, List.mem_cons, ih next_split (.inr (.inl at_feed)) fun b mem => absurd mem List.not_mem_nil]
    exact here.this_or_next (Nat.lt_add_of_pos_right (by decide)) gap
  | case4 start acc b rest not_both breaks ih =>
    have at_break : content[start + acc.length]? = some b := by
      rw [getElem?_of_drop split, List.getElem?_append_right (Nat.le_refl _), Nat.sub_self, List.getElem?_cons_zero]
    have here : IsLine content ⟨start, acc⟩ := ⟨begins, split ▸ List.prefix_append _ _, plain, by
      rw [at_break]
      exact breaks⟩
    have next_split : content.drop (start + acc.length + 1) = [] ++ rest := by
      rw [Nat.add_assoc, ← List.drop_drop, split, ← List.drop_drop, List.drop_left]
      rfl
    have next_begins : Begins content (start + acc.length + 1) := by
      rcases breaks with rfl | rfl
      · exact .inr (.inl at_break)
      · refine .inr (.inr ⟨at_break, fun feed => ?_⟩)
        have first := getElem?_of_drop next_split 0
        rw [Nat.add_zero, feed] at first
        cases rest with
        | nil => cases first
        | cons c rest =>
          obtain rfl : 10 = c := Option.some.inj first
          exact not_both rest rfl rfl
    rw [byteLines, if_pos breaks, List.mem_cons, ih next_split next_begins fun b mem => absurd mem List.not_mem_nil]
    · exact here.this_or_next (Nat.lt_succ_self _) fun p behind before => absurd before (Nat.not_lt_of_le (Nat.succ_le_of_lt behind))
    · exact not_both
  | case5 start acc b rest not_both plain_byte ih =>
    rw [byteLines, if_neg plain_byte]
    · refine ih ?_ begins ?_
      · rw [split, List.append_assoc, List.singleton_append]
      · intro c mem
        rcases List.mem_append.mp mem with mem | mem
        · exact plain c mem
        · exact List.mem_singleton.mp mem ▸ plain_byte
    · exact not_both

theorem start_le_of_mem (mem : line ∈ byteLines start acc data) : start ≤ line.start := by
  induction start, acc, data using byteLines.induct with
  | case1 start =>
    rw [byteLines, if_pos rfl] at mem
    cases mem
  | case2 start acc some_byte =>
    rw [byteLines, if_neg some_byte, List.mem_singleton] at mem
    rw [mem]
  | case3 start acc rest ih =>
    rw [byteLines, List.mem_cons] at mem
    rcases mem with rfl | mem
    · exact Nat.le_refl _
    · exact Nat.le_trans (by omega) (ih mem)
  | case4 start acc b rest not_both breaks ih =>
    rw [byteLines, if_pos breaks, List.mem_cons] at mem
    · rcases mem with rfl | mem
      · exact Nat.le_refl _
      · exact Nat.le_trans (by omega) (ih mem)
    · exact not_both
  | case5 start acc b rest not_both plain_byte ih =>
    rw [byteLines, if_neg plain_byte] at mem
    · exact ih mem
    · exact not_both

/-- Lines come in the order in which they begin. -/
theorem byteLines_pairwise : (byteLines start acc data).Pairwise fun first second => first.start < second.start := by
  induction start, acc, data using byteLines.induct with
  | case1 start =>
    rw [byteLines, if_pos rfl]
    exact .nil
  | case2 start acc some_byte =>
    rw [byteLines, if_neg some_byte]
    exact List.pairwise_singleton _ _
  | case3 start acc rest ih =>
    rw [byteLines]
    refine List.pairwise_cons.mpr ⟨fun later mem => ?_, ih⟩
    have from_next := start_le_of_mem mem
    show start < later.start
    omega
  | case4 start acc b rest not_both breaks ih =>
    rw [byteLines, if_pos breaks]
    · refine List.pairwise_cons.mpr ⟨fun later mem => ?_, ih⟩
      have from_next := start_le_of_mem mem
      show start < later.start
      omega
    · exact not_both
  | case5 start acc b rest not_both plain_byte ih =>
    rw [byteLines, if_neg plain_byte]
    · exact ih
    · exact not_both

end Lines
section Reads

variable {content : Bytes} {line : Line} {limit start : Nat}

theorem mem_lines : line ∈ byteLines 0 [] content ↔ IsLine content line := by
  rw [mem_byteLines rfl (.inl rfl) fun b mem => absurd mem List.not_mem_nil]
  exact and_iff_left (Nat.zero_le _)

/-- A line of what is read of a file's head is one of the file, unless the read cuts it. -/
theorem head_line_iff (mem : line ∈ byteLines 0 [] (content.take limit)) :
    IsLine content line ↔ ∀ b, content[line.start + line.bytes.length]? = some b → Breaks b := by
  have is_line := mem_lines.mp mem
  have begins_within := is_line.start_lt
  rw [List.length_take] at begins_within
  constructor
  · intro whole b is_next
    have ends := whole.ends
    rw [is_next] at ends
    exact ends
  · intro ends
    have same {p : Nat} (within : p < limit) : (content.take limit)[p]? = content[p]? := List.getElem?_take_of_lt within
    have bytes : line.bytes <+: content.drop line.start := by
      have cut := is_line.bytes
      rw [List.drop_take] at cut
      exact cut.trans (List.take_prefix _ _)
    refine ⟨?_, bytes, is_line.plain, ?_⟩
    · have begins := is_line.begins
      rw [Begins, same (by omega), same (by omega)] at begins
      exact begins
    · cases is_next : content[line.start + line.bytes.length]? with
      | some b => exact ends b is_next
      | none =>
        show line.bytes ≠ []
        intro empty
        rw [empty, List.length_nil, Nat.add_zero, List.getElem?_eq_none_iff] at is_next
        omega

/-- The file as the tail read sees it, which takes a line to begin where the read does. -/
def fromStart (start : Nat) (content : Bytes) : Bytes := List.replicate start 10 ++ content.drop start

theorem drop_fromStart {p : Nat} (from_start : start ≤ p) : (fromStart start content).drop p = content.drop p := by
  rw [fromStart, List.drop_append, List.length_replicate, List.drop_eq_nil_of_le (by simpa using from_start), List.nil_append, List.drop_drop]
  congr 1
  omega

theorem getElem?_fromStart {p : Nat} (from_start : start ≤ p) : (fromStart start content)[p]? = content[p]? := by
  have same := getElem?_of_drop (@drop_fromStart content start start (Nat.le_refl start)) (p - start)
  rw [List.getElem?_drop, Nat.add_sub_cancel' from_start] at same
  exact same

theorem begins_fromStart : Begins (fromStart start content) start := by
  cases start with
  | zero => exact .inl rfl
  | succ n =>
    refine .inr (.inl ?_)
    rw [fromStart, List.getElem?_append_left (by simp), Nat.add_sub_cancel, List.getElem?_replicate, if_pos (Nat.lt_succ_self n)]

theorem mem_tail_lines : line ∈ byteLines start [] (content.drop start) ↔ IsLine (fromStart start content) line ∧ start ≤ line.start := by
  refine mem_byteLines ?_ begins_fromStart fun b mem => absurd mem List.not_mem_nil
  rw [drop_fromStart (Nat.le_refl _), List.nil_append]

/-- A line of what is read of a file's tail is one of the file, unless the read begins in it. -/
theorem tail_line_iff (mem : line ∈ byteLines start [] (content.drop start)) : IsLine content line ↔ Begins content line.start := by
  obtain ⟨is_line, from_start⟩ := mem_tail_lines.mp mem
  refine ⟨IsLine.begins, fun begins => ⟨begins, ?_, is_line.plain, ?_⟩⟩
  · rw [← drop_fromStart from_start]
    exact is_line.bytes
  · rw [← getElem?_fromStart (Nat.le_trans from_start (Nat.le_add_right _ _))]
    exact is_line.ends

/-- The lines of the file that begin in what is read of its tail are read. -/
theorem IsLine.mem_tail (is_line : IsLine content line) (from_start : start ≤ line.start) : line ∈ byteLines start [] (content.drop start) := by
  refine mem_tail_lines.mpr ⟨⟨?_, ?_, is_line.plain, ?_⟩, from_start⟩
  · rcases Nat.eq_or_lt_of_le from_start with here | behind
    · exact here ▸ begins_fromStart
    · rw [Begins, getElem?_fromStart (by omega), getElem?_fromStart from_start]
      exact is_line.begins
  · rw [drop_fromStart from_start]
    exact is_line.bytes
  · rw [getElem?_fromStart (Nat.le_trans from_start (Nat.le_add_right _ _))]
    exact is_line.ends

end Reads

end Issuebot
