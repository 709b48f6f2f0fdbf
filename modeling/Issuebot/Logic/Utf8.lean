import Issuebot.Logic.Text
import Mathlib.Algebra.Order.Ring.Nat

/-!
# UTF-8, decoded byte by byte

The decoder puts `replacement` in the place of every maximal part of a character that the next byte, or the
end, does not go on with. Without a replacement, what is decoded is no longer than the bytes it comes from
(`length_decode_le`).
-/

namespace Issuebot.Logic.Utf8
set_option autoImplicit false

abbrev Bytes := List UInt8

/-- The bytes of a text. -/
def encode (text : Text) : Bytes := text.flatMap String.utf8EncodeChar

/-- How many bytes a text has. -/
def size (text : Text) : Nat := (text.map Char.utf8Size).sum

/-- Inside a character: the bytes of it that were read, those still owed, what the next of them may be, and the
number so far. -/
structure Partial where
  taken : Nat
  owed : Nat
  low : Nat
  high : Nat
  number : Nat

/-- Between two characters. -/
def between : Partial := ⟨0, 0, 0, 0, 0⟩

/-- The first byte of a character of more than one; `none` where no character begins so. -/
def lead (b : Nat) : Option Partial :=
  if 0xC2 ≤ b ∧ b ≤ 0xDF then some ⟨1, 1, 0x80, 0xBF, b - 0xC0⟩
  else if b = 0xE0 then some ⟨1, 2, 0xA0, 0xBF, 0⟩
  else if b = 0xED then some ⟨1, 2, 0x80, 0x9F, 0xD⟩
  else if 0xE1 ≤ b ∧ b ≤ 0xEF then some ⟨1, 2, 0x80, 0xBF, b - 0xE0⟩
  else if b = 0xF0 then some ⟨1, 3, 0x90, 0xBF, 0⟩
  else if 0xF1 ≤ b ∧ b ≤ 0xF3 then some ⟨1, 3, 0x80, 0xBF, b - 0xF0⟩
  else if b = 0xF4 then some ⟨1, 3, 0x80, 0x8F, 4⟩
  else none

variable (replacement : Text)

/-- A byte between two characters. -/
def first (b : Nat) : Text × Partial :=
  if b < 0x80 then ([Char.ofNat b], between)
  else match lead b with
    | some begun => ([], begun)
    | none => (replacement, between)

/-- A byte, wherever it stands. -/
def step (at_ : Partial) (b : Nat) : Text × Partial :=
  if at_.owed = 0 then first replacement b
  else if at_.low ≤ b ∧ b ≤ at_.high then
    if at_.owed = 1 then ([Char.ofNat (at_.number * 64 + b % 64)], between)
    else ([], ⟨at_.taken + 1, at_.owed - 1, 0x80, 0xBF, at_.number * 64 + b % 64⟩)
  else (replacement ++ (first replacement b).1, (first replacement b).2)

def decodeFrom : Partial → Bytes → Text
  | at_, [] => if at_.owed = 0 then [] else replacement
  | at_, b :: rest => (step replacement at_ b.toNat).1 ++ decodeFrom (step replacement at_ b.toNat).2 rest

def decode (bytes : Bytes) : Text := decodeFrom replacement between bytes

section Size

variable {at_ : Partial} {b n : Nat} {text front back : Text}

theorem size_append : size (front ++ back) = size front + size back := by
  rw [size, List.map_append, List.sum_append, size, size]

/-- What has been read of a character fits its length. -/
structure Partial.Fits (at_ : Partial) : Prop where
  two : at_.owed ≠ 0 → at_.taken + at_.owed = 2 → (at_.number + 1) * 64 ^ at_.owed ≤ 0x800
  three : at_.owed ≠ 0 → at_.taken + at_.owed = 3 → (at_.number + 1) * 64 ^ at_.owed ≤ 0x10000
  long : at_.owed ≠ 0 → 2 ≤ at_.taken + at_.owed

theorem between_fits : between.Fits := ⟨fun owed => absurd rfl owed, fun owed => absurd rfl owed, fun owed => absurd rfl owed⟩

theorem lead_fits {begun : Partial} (leads : lead b = some begun) : begun.Fits ∧ begun.taken = 1 := by
  rw [lead] at leads
  split_ifs at leads
  all_goals
    obtain rfl := Option.some.inj leads
    refine ⟨⟨fun _ whole => ?_, fun _ whole => ?_, fun _ => ?_⟩, rfl⟩
    all_goals dsimp only at *
    all_goals omega

theorem utf8Size_le (c : Char) : c.utf8Size ≤ 4 ∧ (c.toNat < 0x10000 → c.utf8Size ≤ 3) ∧ (c.toNat < 0x800 → c.utf8Size ≤ 2) ∧
    (c.toNat < 0x80 → c.utf8Size = 1) := by
  have number : c.val.toNat = c.toNat := rfl
  unfold Char.utf8Size
  simp only [UInt32.le_iff_toNat_le, UInt32.toNat_ofNatLT, number]
  split_ifs
  all_goals omega

theorem toNat_ofNat_le : (Char.ofNat n).toNat ≤ n := by
  unfold Char.ofNat
  by_cases valid : n.isValidChar
  · rw [dif_pos valid]
    exact Nat.le_refl n
  · rw [dif_neg valid]
    exact Nat.zero_le n

theorem size_singleton {c : Char} : size [c] = c.utf8Size := Nat.add_zero _

theorem size_first : size (first [] b).1 + (first [] b).2.taken ≤ 1 ∧ (first [] b).2.Fits := by
  rw [first]
  split
  next ascii =>
    refine ⟨?_, between_fits⟩
    have one := (utf8Size_le (Char.ofNat b)).2.2.2 (Nat.lt_of_le_of_lt toNat_ofNat_le ascii)
    rw [size_singleton, one]
    exact Nat.le_refl 1
  next =>
    cases leads : lead b with
    | none => exact ⟨Nat.zero_le 1, between_fits⟩
    | some begun =>
      obtain ⟨fits, taken⟩ := lead_fits leads
      refine ⟨?_, fits⟩
      show 0 + begun.taken ≤ 1
      omega

/-- A byte is decoded to no more than has been read. -/
theorem size_step (fits : at_.Fits) :
    size (step [] at_ b).1 + (step [] at_ b).2.taken ≤ at_.taken + 1 ∧ (step [] at_ b).2.Fits := by
  obtain ⟨now, first_fits⟩ := @size_first b
  rw [step]
  split
  · exact ⟨by omega, first_fits⟩
  next owes =>
    split
    next within =>
      split
      next last =>
        refine ⟨?_, between_fits⟩
        have two := fits.two owes
        have three := fits.three owes
        have long := fits.long owes
        rw [last, Nat.pow_one] at two three
        have number : (Char.ofNat (at_.number * 64 + b % 64)).toNat ≤ at_.number * 64 + b % 64 := toNat_ofNat_le
        obtain ⟨four, below_four, below_three, -⟩ := utf8Size_le (Char.ofNat (at_.number * 64 + b % 64))
        rw [size_singleton]
        show _ + 0 ≤ at_.taken + 1
        by_cases is_two : at_.taken = 1
        · have small := below_three (by have bound := two (by omega); omega)
          omega
        · by_cases is_three : at_.taken = 2
          · have small := below_four (by have bound := three (by omega); omega)
            omega
          · omega
      next more =>
        have owed : at_.owed = (at_.owed - 1) + 1 := by omega
        have shifted : (at_.number * 64 + b % 64 + 1) * 64 ^ (at_.owed - 1) ≤ (at_.number + 1) * 64 ^ at_.owed := by
          calc (at_.number * 64 + b % 64 + 1) * 64 ^ (at_.owed - 1)
              ≤ ((at_.number + 1) * 64) * 64 ^ (at_.owed - 1) := Nat.mul_le_mul_right _ (by omega)
            _ = (at_.number + 1) * 64 ^ at_.owed := by rw [Nat.mul_assoc, ← Nat.pow_succ', Nat.succ_eq_add_one, ← owed]
        refine ⟨?_, ⟨fun _ whole => ?_, fun _ whole => ?_, fun _ => ?_⟩⟩
        · exact Nat.le_of_eq (Nat.zero_add _)
        · have whole : at_.taken + 1 + (at_.owed - 1) = 2 := whole
          exact Nat.le_trans shifted (fits.two owes (by omega))
        · have whole : at_.taken + 1 + (at_.owed - 1) = 3 := whole
          exact Nat.le_trans shifted (fits.three owes (by omega))
        · have long := fits.long owes
          show 2 ≤ at_.taken + 1 + (at_.owed - 1)
          omega
    · refine ⟨?_, first_fits⟩
      show size (first [] b).1 + (first [] b).2.taken ≤ at_.taken + 1
      omega

/-- What is decoded without a replacement has no more bytes than it comes from. -/
theorem size_decode_le (bytes : Bytes) : size (decode [] bytes) ≤ bytes.length := by
  have each : ∀ (bytes : Bytes) (at_ : Partial), at_.Fits →
      size (decodeFrom [] at_ bytes) ≤ at_.taken + bytes.length := by
    intro bytes
    induction bytes with
    | nil =>
      intro at_ _
      rw [decodeFrom, ite_self]
      exact Nat.zero_le _
    | cons b rest ih =>
      intro at_ fits
      obtain ⟨now, fits⟩ := @size_step at_ b.toNat fits
      have later := ih _ fits
      rw [decodeFrom, size_append, List.length_cons]
      omega
  exact Nat.le_trans (each bytes between between_fits) (Nat.le_of_eq (Nat.zero_add _))

end Size
section Nul

variable {at_ : Partial} {b n : Nat} {text : Text} {c : Char}

/-- Whatever follows, the character begun is no NUL, and is a character. -/
structure Partial.Sound (at_ : Partial) : Prop where
  tail : at_.owed ≠ 0 → 0x80 ≤ at_.low ∧ at_.high ≤ 0xBF
  above : at_.owed ≠ 0 → 0x80 ≤ (at_.number * 64 + (at_.low - 0x80)) * 64 ^ (at_.owed - 1)
  scalar : at_.owed ≠ 0 → (at_.number * 64 + (at_.high - 0x80) + 1) * 64 ^ (at_.owed - 1) ≤ 0xD800 ∨
    0xE000 ≤ (at_.number * 64 + (at_.low - 0x80)) * 64 ^ (at_.owed - 1) ∧
      (at_.number * 64 + (at_.high - 0x80) + 1) * 64 ^ (at_.owed - 1) ≤ 0x110000

theorem between_sound : between.Sound := ⟨fun owed => absurd rfl owed, fun owed => absurd rfl owed, fun owed => absurd rfl owed⟩

theorem lead_sound {begun : Partial} (leads : lead b = some begun) : begun.Sound := by
  rw [lead] at leads
  split_ifs at leads
  all_goals
    obtain rfl := Option.some.inj leads
    refine ⟨fun _ => ?_, fun _ => ?_, fun _ => ?_⟩
    all_goals dsimp only
    all_goals omega

theorem ofNat_ne_nul (above : 0x80 ≤ n) (scalar : n < 0xD800 ∨ 0xE000 ≤ n ∧ n < 0x110000) : Char.ofNat n ≠ '\x00' := by
  intro same
  have valid : n.isValidChar := scalar.imp id fun both => ⟨Nat.lt_of_lt_of_le (by decide) both.1, both.2⟩
  have number : (Char.ofNat n).toNat = n := by
    unfold Char.ofNat
    rw [dif_pos valid]
    rfl
  rw [same] at number
  exact absurd above (number ▸ by decide)

theorem first_nul (some_byte : b ≠ 0) : '\x00' ∉ (first [] b).1 ∧ (first [] b).2.Sound := by
  rw [first]
  split
  next ascii =>
    refine ⟨fun mem => ?_, between_sound⟩
    have same := List.mem_singleton.mp mem
    have valid : b.isValidChar := .inl (by omega)
    have number : (Char.ofNat b).toNat = b := by
      unfold Char.ofNat
      rw [dif_pos valid]
      rfl
    rw [← same] at number
    exact some_byte number.symm
  next =>
    cases leads : lead b with
    | none => exact ⟨List.not_mem_nil, between_sound⟩
    | some begun => exact ⟨List.not_mem_nil, lead_sound leads⟩

theorem step_nul (sound : at_.Sound) (some_byte : b ≠ 0) : '\x00' ∉ (step [] at_ b).1 ∧ (step [] at_ b).2.Sound := by
  rw [step]
  split
  · exact first_nul some_byte
  next owes =>
    split
    next within =>
      obtain ⟨low, high⟩ := sound.tail owes
      have above := sound.above owes
      have scalar := sound.scalar owes
      have tail : b % 64 = b - 0x80 := by omega
      split
      next last =>
        refine ⟨fun mem => ?_, between_sound⟩
        rw [last, Nat.sub_self, Nat.pow_zero, Nat.mul_one] at above scalar
        rw [Nat.mul_one] at scalar
        exact absurd (List.mem_singleton.mp mem).symm (ofNat_ne_nul (by omega) (by omega))
      next more =>
        refine ⟨List.not_mem_nil, ?_⟩
        obtain ⟨k, owed⟩ : ∃ k, at_.owed = k + 2 := ⟨at_.owed - 2, by omega⟩
        have from_low : (at_.number * 64 + (at_.low - 0x80)) * 64 ^ (k + 1) ≤ (at_.number * 64 + b % 64) * 64 ^ (k + 1) :=
          Nat.mul_le_mul_right _ (by omega)
        have to_high : (at_.number * 64 + b % 64 + 1) * 64 ^ (k + 1) ≤ (at_.number * 64 + (at_.high - 0x80) + 1) * 64 ^ (k + 1) :=
          Nat.mul_le_mul_right _ (by omega)
        have next_low : ((at_.number * 64 + b % 64) * 64 + (0x80 - 0x80)) * 64 ^ k = (at_.number * 64 + b % 64) * 64 ^ (k + 1) := by
          rw [Nat.sub_self, Nat.add_zero, Nat.mul_assoc, ← Nat.pow_succ']
        have next_high : ((at_.number * 64 + b % 64) * 64 + (0xBF - 0x80) + 1) * 64 ^ k =
            (at_.number * 64 + b % 64 + 1) * 64 ^ (k + 1) := by
          have sum : (at_.number * 64 + b % 64) * 64 + (0xBF - 0x80) + 1 = (at_.number * 64 + b % 64 + 1) * 64 := by omega
          rw [sum, Nat.pow_succ', Nat.mul_assoc]
        have owed_next : at_.owed - 1 - 1 = k := by omega
        have owed_here : at_.owed - 1 = k + 1 := by omega
        rw [owed_here] at above scalar
        refine ⟨fun _ => ⟨Nat.le_refl _, Nat.le_refl _⟩, fun _ => ?_, fun _ => ?_⟩
        · dsimp only
          rw [owed_next, next_low]
          exact Nat.le_trans above from_low
        · dsimp only
          rw [owed_next, next_low, next_high]
          exact scalar.imp (Nat.le_trans to_high) fun both => ⟨Nat.le_trans both.1 from_low, Nat.le_trans to_high both.2⟩
    · exact first_nul some_byte

/-- A NUL is decoded from a NUL alone. -/
theorem nul_notMem_decode {bytes : Bytes} (none_in : 0 ∉ bytes) : '\x00' ∉ decode [] bytes := by
  have each : ∀ (bytes : Bytes) (at_ : Partial), at_.Sound → 0 ∉ bytes → '\x00' ∉ decodeFrom [] at_ bytes := by
    intro bytes
    induction bytes with
    | nil =>
      intro at_ _ _
      rw [decodeFrom, ite_self]
      exact List.not_mem_nil
    | cons b rest ih =>
      intro at_ sound none_in
      have some_byte : b.toNat ≠ 0 := by
        intro nul
        have same : b = 0 := UInt8.toNat_inj.mp nul
        exact none_in (same ▸ List.mem_cons_self)
      obtain ⟨now, sound⟩ := step_nul sound some_byte
      rw [decodeFrom, List.mem_append]
      exact not_or.mpr ⟨now, ih _ sound fun mem => none_in (List.mem_cons_of_mem _ mem)⟩
  exact each bytes between between_sound none_in

/-- A NUL is what is encoded with one. -/
theorem nul_notMem_encode (none_in : '\x00' ∉ text) : 0 ∉ encode text := by
  intro mem
  obtain ⟨c, listed, mem⟩ := List.mem_flatMap.mp mem
  have nul : c = '\x00' := by
    have none_of {n : Nat} (low : 0x80 ≤ n) (high : n < 0x100) : 0 ≠ UInt8.ofNat n := by
      intro same
      have number := congrArg UInt8.toNat same
      rw [UInt8.toNat_ofNat_of_lt' high] at number
      exact absurd number.symm (Nat.ne_of_gt (Nat.lt_of_lt_of_le (by decide) low))
    unfold String.utf8EncodeChar at mem
    dsimp only at mem
    split_ifs at mem with ascii two three
    · have same := congrArg UInt8.toNat (List.mem_singleton.mp mem)
      rw [UInt8.toNat_ofNat_of_lt' (Nat.lt_of_le_of_lt ascii (by decide))] at same
      exact Char.toNat_inj.mp same.symm
    all_goals
      simp only [List.mem_cons, List.not_mem_nil, or_false] at mem
      exfalso
      repeat' rcases mem with mem | mem
      all_goals exact none_of (by omega) (by omega) mem
  exact none_in (nul ▸ listed)

end Nul

section Breaks

variable {at_ : Partial} {b n : Nat} {replacement : Text} {front back bytes : Bytes}

theorem first_state : (first replacement b).2 = (first [] b).2 := by
  unfold first
  split
  · rfl
  · cases lead b <;> rfl

/-- Where a decoder stands does not depend on its replacement. -/
theorem step_state : (step replacement at_ b).2 = (step [] at_ b).2 := by
  unfold step
  split
  · exact first_state
  · split
    · split <;> rfl
    · exact first_state

theorem step_sound (sound : at_.Sound) : (step replacement at_ b).2.Sound := by
  rw [step_state]
  rcases Nat.eq_zero_or_pos b with rfl | some_byte
  · by_cases owes : at_.owed = 0
    · rw [step, if_pos owes]
      exact between_sound
    · have low := (sound.tail owes).1
      rw [step, if_neg owes, if_neg (by omega)]
      exact between_sound
  · exact (step_nul sound (Nat.ne_of_gt some_byte)).2

/-- A line break ends whatever character had begun. -/
theorem step_break (sound : at_.Sound) :
    step replacement at_ 10 = ((if at_.owed = 0 then [] else replacement) ++ ['\n'], between) := by
  by_cases owes : at_.owed = 0
  · rw [step, if_pos owes, if_pos owes]
    rfl
  · have low := (sound.tail owes).1
    rw [step, if_neg owes, if_neg (by omega), if_neg owes]
    rfl

theorem decodeFrom_break (sound : at_.Sound) :
    decodeFrom replacement at_ (front ++ 10 :: back) = decodeFrom replacement at_ front ++ '\n' :: decode replacement back := by
  induction front generalizing at_ with
  | nil =>
    have at_break : step replacement at_ (10 : UInt8).toNat = _ := step_break sound
    rw [List.nil_append, decodeFrom, decodeFrom, at_break, List.append_assoc]
    rfl
  | cons b front ih => rw [List.cons_append, decodeFrom, decodeFrom, ih (step_sound sound), List.append_assoc]

/-- Lines are decoded one by one. -/
theorem decode_break :
    decode replacement (front ++ 10 :: back) = decode replacement front ++ '\n' :: decode replacement back :=
  decodeFrom_break between_sound

theorem ofNat_ne_break (other : n ≠ 10) : Char.ofNat n ≠ '\n' := by
  intro same
  have number := congrArg Char.toNat same
  unfold Char.ofNat at number
  by_cases valid : n.isValidChar
  · rw [dif_pos valid] at number
    exact other number
  · rw [dif_neg valid] at number
    cases number

theorem first_quiet (quiet : '\n' ∉ replacement) (other : b ≠ 10) : '\n' ∉ (first replacement b).1 := by
  rw [first]
  split
  · exact fun mem => ofNat_ne_break other (List.mem_singleton.mp mem).symm
  · cases lead b with
    | none => exact quiet
    | some begun => exact List.not_mem_nil

theorem step_quiet (sound : at_.Sound) (quiet : '\n' ∉ replacement) (other : b ≠ 10) : '\n' ∉ (step replacement at_ b).1 := by
  rw [step]
  split
  · exact first_quiet quiet other
  next owes =>
    split
    next within =>
      split
      next last =>
        have above := sound.above owes
        obtain ⟨low, high⟩ := sound.tail owes
        rw [last, Nat.sub_self, Nat.pow_zero, Nat.mul_one] at above
        exact fun mem => ofNat_ne_break (by omega) (List.mem_singleton.mp mem).symm
      next => exact List.not_mem_nil
    · exact fun mem => (List.mem_append.mp mem).elim quiet (first_quiet quiet other)

/-- A line break is decoded from a line break alone. -/
theorem break_notMem_decode (quiet : '\n' ∉ replacement) (none_in : 10 ∉ bytes) : '\n' ∉ decode replacement bytes := by
  have each : ∀ (bytes : Bytes) (at_ : Partial), at_.Sound → 10 ∉ bytes → '\n' ∉ decodeFrom replacement at_ bytes := by
    intro bytes
    induction bytes with
    | nil =>
      intro at_ _ _
      rw [decodeFrom]
      split
      · exact List.not_mem_nil
      · exact quiet
    | cons b rest ih =>
      intro at_ sound none_in
      have other : b.toNat ≠ 10 := by
        intro same
        have is_break : b = 10 := UInt8.toNat_inj.mp same
        exact none_in (is_break ▸ List.mem_cons_self)
      rw [decodeFrom, List.mem_append]
      exact not_or.mpr ⟨step_quiet sound quiet other, ih _ (step_sound sound) fun mem => none_in (List.mem_cons_of_mem _ mem)⟩
  exact each bytes between between_sound none_in

end Breaks

end Issuebot.Logic.Utf8
