import Mathlib.Data.List.Basic
import Mathlib.Data.Rat.Defs

/-!
# Python's strings

A Python string is a list of code points, and `json.loads` and `os.environ` both make strings with
lone surrogates in them, which no UTF-8 text has. `PyStr.encode` is `str.encode("utf-8")`, and
`Decoded` is a value of `json.loads` with its strings as they are.
-/

namespace Issuebot
set_option autoImplicit false

/-- A character of a Python string: a Unicode scalar value, or half of a surrogate pair by itself. -/
inductive PyChar where
  | scalar (c : Char)
  | surrogate (n : Fin 0x800)
  deriving DecidableEq, Repr

abbrev PyStr := List PyChar

/-- The character is one that `p` holds of; a lone surrogate is in no class. -/
def PyChar.is (p : Char → Bool) : PyChar → Bool
  | scalar c => p c
  | surrogate _ => false

/-- `ord` -/
def PyChar.code : PyChar → Nat
  | scalar c => c.toNat
  | surrogate n => 0xD800 + n

namespace PyStr

def ofText (text : List Char) : PyStr := text.map .scalar

def ofString (text : String) : PyStr := ofText text.toList

/-- `str.encode("utf-8")`, the bytes as the text they say; `none` is the `UnicodeEncodeError`. -/
def encode : PyStr → Option (List Char)
  | [] => some []
  | .scalar c :: rest => (encode rest).map (c :: ·)
  | .surrogate _ :: _ => none

@[simp] theorem encode_ofText (text : List Char) : encode (ofText text) = some text := by
  induction text with
  | nil => rfl
  | cons c text ih =>
    have rest : encode (ofText text) = some text := ih
    show (encode (ofText text)).map (c :: ·) = _
    rw [rest]
    rfl

/-- Text is encoded as itself. -/
theorem ofText_of_encode {text : PyStr} {encoded : List Char} (is_text : encode text = some encoded) :
    text = ofText encoded := by
  induction text generalizing encoded with
  | nil =>
    obtain rfl := Option.some.inj is_text
    rfl
  | cons c text ih =>
    cases c with
    | surrogate n => cases is_text
    | scalar c =>
      obtain ⟨rest, is_rest, rfl⟩ := Option.map_eq_some_iff.mp is_text
      rw [ih is_rest]
      rfl

/-- What can be encoded has no lone surrogate. -/
theorem encode_eq_none {text : PyStr} : encode text = none ↔ ∃ n, PyChar.surrogate n ∈ text := by
  constructor
  · intro refused
    by_contra none_in
    have each : ∀ text : PyStr, (∀ n, PyChar.surrogate n ∉ text) → ∃ encoded, encode text = some encoded := by
      intro text
      induction text with
      | nil => exact fun _ => ⟨[], rfl⟩
      | cons c text ih =>
        intro none_in
        obtain ⟨rest, is_rest⟩ := ih fun n mem => none_in n (List.mem_cons_of_mem _ mem)
        cases c with
        | surrogate n => exact absurd List.mem_cons_self (none_in n)
        | scalar c => exact ⟨c :: rest, Option.map_eq_some_iff.mpr ⟨rest, is_rest, rfl⟩⟩
    obtain ⟨encoded, is_text⟩ := each text (not_exists.mp none_in)
    rw [refused] at is_text
    cases is_text
  · rintro ⟨n, mem⟩
    cases is_text : encode text with
    | none => rfl
    | some encoded =>
      rw [ofText_of_encode is_text] at mem
      obtain ⟨_, _, same⟩ := List.mem_map.mp mem
      cases same

end PyStr

/-- A float that is no number of the line. -/
inductive NonFinite where
  | nan
  | posInf
  | negInf
  deriving DecidableEq, Repr

/-- A value of `json.loads`; `num` is a finite float and `nonfinite` one of the three others. -/
inductive Decoded where
  | null
  | bool (value : Bool)
  | int (value : Int)
  | num (value : Rat)
  | nonfinite (value : NonFinite)
  | str (value : PyStr)
  | arr (elements : List Decoded)
  | obj (members : List (PyStr × Decoded))

end Issuebot
