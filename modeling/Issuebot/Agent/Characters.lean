import Issuebot.Python

/-!
# Character classes

The classes of characters that the readers of GitHub's text ask about.
-/

namespace Issuebot
set_option autoImplicit false

/-- `c` is in one of the ranges. -/
def inRanges (ranges : List (Nat × Nat)) (c : Char) : Bool :=
  ranges.any fun range => range.1 ≤ c.toNat && c.toNat ≤ range.2

theorem not_inRanges {ranges : List (Nat × Nat)} {c : Char} (beyond : ∀ range ∈ ranges, c.toNat < range.1) :
    inRanges ranges c = false := by
  apply List.any_eq_false.mpr
  intro range mem both
  have reached := of_decide_eq_true (Bool.and_eq_true_iff.mp both).1
  exact Nat.not_le_of_gt (beyond range mem) reached

/-- `_FORMAT_RANGES`: Unicode's format characters, general category Cf. -/
def formatRanges : List (Nat × Nat) :=
  [(0x00AD, 0x00AD), (0x0600, 0x0605), (0x061C, 0x061C), (0x06DD, 0x06DD), (0x070F, 0x070F),
    (0x0890, 0x0891), (0x08E2, 0x08E2), (0x180E, 0x180E), (0x200B, 0x200F), (0x202A, 0x202E),
    (0x2060, 0x2064), (0x2066, 0x206F), (0xFEFF, 0xFEFF), (0xFFF9, 0xFFFB), (0x110BD, 0x110BD),
    (0x110CD, 0x110CD), (0x13430, 0x1343F), (0x1BCA0, 0x1BCA3), (0x1D173, 0x1D17A),
    (0xE0001, 0xE0001), (0xE0020, 0xE007F)]

def isFormat (c : Char) : Bool := inRanges formatRanges c

theorem not_isFormat {c : Char} (ascii : c.toNat < 0x80) : isFormat c = false := by
  have above : ∀ range ∈ formatRanges, 0x80 ≤ range.1 := by decide
  exact not_inRanges fun range mem => Nat.lt_of_lt_of_le ascii (above range mem)

/-- `str.isspace` of one character, which is what `\s` matches. -/
def isSpace (c : Char) : Bool :=
  inRanges
    [(0x09, 0x0D), (0x1C, 0x20), (0x85, 0x85), (0xA0, 0xA0), (0x1680, 0x1680), (0x2000, 0x200A),
      (0x2028, 0x2029), (0x202F, 0x202F), (0x205F, 0x205F), (0x3000, 0x3000)] c

/-- No printable ASCII character is a space. -/
theorem isSpace_beyond {c : Char} (space : isSpace c = true) : c.toNat ≤ 0x20 ∨ 0x80 ≤ c.toNat := by
  simp only [isSpace, inRanges, List.any_cons, List.any_nil, Bool.or_eq_true, Bool.and_eq_true, decide_eq_true_eq,
    Bool.or_false] at space
  omega

/-- The letters of an ASCII word. -/
def isWordLetter (c : Char) : Bool := c.isAlphanum || c = '_'

theorem isWordLetter_range {c : Char} (word : isWordLetter c = true) : 0x30 ≤ c.toNat ∧ c.toNat < 0x80 := by
  simp only [isWordLetter, Char.isAlphanum, Char.isAlpha, Char.isUpper, Char.isLower, Char.isDigit, Bool.or_eq_true,
    Bool.and_eq_true, decide_eq_true_eq, UInt32.le_iff_toNat_le] at word
  rcases word with ((⟨low, high⟩ | ⟨low, high⟩) | ⟨low, high⟩) | rfl
  · exact ⟨Nat.le_trans (by decide) low, Nat.lt_of_le_of_lt high (by decide)⟩
  · exact ⟨Nat.le_trans (by decide) low, Nat.lt_of_le_of_lt high (by decide)⟩
  · exact ⟨low, Nat.lt_of_le_of_lt high (by decide)⟩
  · decide

theorem not_isWordLetter {c : Char} (space : isSpace c = true) : isWordLetter c = false := by
  rw [Bool.eq_false_iff]
  intro word
  have beyond := isSpace_beyond space
  have range := isWordLetter_range word
  omega

end Issuebot
