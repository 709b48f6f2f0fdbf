import Mathlib

/-!
# The Python the worker is written in

The parts of Python's standard library that the modelled functions call and that
Lean's own library does not match. Unicode case mapping, float formatting and the
grammar of `datetime.fromisoformat` are parameters (`Py`), so a theorem holds of every
implementation of them; `Py.ascii` is the one the examples evaluate. A datetime is an
instant in microseconds, Python's own resolution, and `utcStamp` prints one as
`stamps.py` does.
-/

namespace Issuebot
set_option autoImplicit false

/-- An aware datetime as the instant it names, in microseconds since 1970-01-01T00:00:00Z. -/
abbrev Datetime := Int

/-- Datetimes in the order of the integers; of the orders Mathlib has for them, one computes. -/
instance : Preorder Datetime := Int.instLinearOrder.toPreorder

/-- What holds of every element of a list is decided on the list, also where its elements can be counted. -/
instance (priority := 2000) decidableOnList {α : Type} (p : α → Prop) [DecidablePred p] (list : List α) : Decidable (∀ x ∈ list, p x) :=
  List.decidableBAll p list

/-- `timedelta(seconds=n)` -/
def seconds (n : Int) : Int := n * 1000000

/-- An amount of money in millionths of a dollar: every figure the worker keeps is
rounded to six digits. -/
abbrev Usd := Int

/-- `str.lower`, `str.upper`, `str.casefold`, `str.strip`, the `.2f` format of an amount, and
`datetime.fromisoformat`, which is `none` where that raises `ValueError`. -/
structure Py where
  lower : String → String
  upper : String → String
  casefold : String → String
  strip : String → String
  fixed2 : Usd → String
  fromisoformat : String → Option Datetime

/-- Lower case on ASCII letters only. -/
def asciiLower (s : String) : String := String.ofList (s.toList.map Char.toLower)

/-- Upper case on ASCII letters only. -/
def asciiUpper (s : String) : String := String.ofList (s.toList.map Char.toUpper)

/-- Blanks off both ends. -/
def asciiStrip (s : String) : String :=
  String.ofList (((s.toList.dropWhile Char.isWhitespace).reverse.dropWhile Char.isWhitespace).reverse)

/-- `n` in decimal with leading zeros up to `width` digits. -/
def padded (width n : Nat) : String :=
  let digits := toString n
  String.ofList (List.replicate (width - digits.length) '0') ++ digits

/-- Year, month and day of the day `days` days after 1970-01-01, in the Gregorian calendar. -/
def civilDate (days : Int) : Int × Nat × Nat :=
  -- years begin in March here, so that the leap day is the last one of its year
  let z := days + 719468
  let era := z / 146097
  let doe := (z % 146097).toNat
  let yoe := (doe - doe / 1460 + doe / 36524 - doe / 146096) / 365
  let doy := doe - (365 * yoe + yoe / 4 - yoe / 100)
  let mp := (5 * doy + 2) / 153
  let month := if mp < 10 then mp + 3 else mp - 9
  ((yoe : Int) + era * 400 + (if month ≤ 2 then 1 else 0), month, doy - (153 * mp + 2) / 5 + 1)

/-- `utc_stamp`: `%Y-%m-%dT%H:%M:%SZ`. -/
def utcStamp (now : Datetime) : String :=
  let (year, month, day) := civilDate (now / seconds 86400)
  let second := (now % seconds 86400 / seconds 1).toNat
  padded 4 year.toNat ++ "-" ++ padded 2 month ++ "-" ++ padded 2 day ++ "T" ++
    padded 2 (second / 3600) ++ ":" ++ padded 2 (second / 60 % 60) ++ ":" ++
    padded 2 (second % 60) ++ "Z"

/-- `isoformat()` of an instant in UTC. -/
def isoformat (now : Datetime) : String :=
  let micro := (now % seconds 1).toNat
  String.ofList (utcStamp now).toList.dropLast ++ (if micro = 0 then "" else "." ++ padded 6 micro) ++ "+00:00"

/-- Days from 1970-01-01 to a date of the Gregorian calendar. -/
def daysOfCivil (year : Int) (month day : Nat) : Int :=
  let y := if month ≤ 2 then year - 1 else year
  let yoe := (y % 400).toNat
  let doy := (153 * (if month > 2 then month - 3 else month + 9) + 2) / 5 + day - 1
  y / 400 * 146097 + (yoe * 365 + yoe / 4 - yoe / 100 + doy : Nat) - 719468

/-- The instant a stamp in `utcStamp`'s format names. -/
def ofUtcStamp (stamp : String) : Option Datetime :=
  match stamp.toList with
  | [y1, y2, y3, y4, '-', o1, o2, '-', d1, d2, 'T', h1, h2, ':', m1, m2, ':', s1, s2, 'Z'] =>
    if [y1, y2, y3, y4, o1, o2, d1, d2, h1, h2, m1, m2, s1, s2].all Char.isDigit then
      let number (digits : List Char) : Nat :=
        digits.foldl (fun n digit => 10 * n + (digit.toNat - '0'.toNat)) 0
      let days := daysOfCivil (number [y1, y2, y3, y4]) (number [o1, o2]) (number [d1, d2])
      some (seconds (86400 * days + 3600 * number [h1, h2] + 60 * number [m1, m2] + number [s1, s2]))
    else none
  | _ => none

/-- Python's methods on ASCII text, an amount cut to whole cents, and the one
format GitHub writes a timestamp in. -/
def Py.ascii : Py where
  lower := asciiLower
  upper := asciiUpper
  casefold := asciiLower
  strip := asciiStrip
  fixed2 m := toString (m / 1000000) ++ "." ++ padded 2 (m % 1000000 / 10000).toNat
  fromisoformat := ofUtcStamp

/-- `text or default` -/
def orDefault (text : Option String) (default : String) : String :=
  match text with
  | none | some "" => default
  | some text => text

/-- A line boundary of `str.splitlines`. -/
def isLineBoundary (c : Char) : Bool :=
  [0x0a, 0x0b, 0x0c, 0x0d, 0x1c, 0x1d, 0x1e, 0x85, 0x2028, 0x2029].contains c.toNat

/-- The lines of `rest`, the first of which has begun with `line`, backwards. -/
def linesFrom : List Char → List Char → List String
  | [], [] => []
  | line, [] => [String.ofList line.reverse]
  | line, '\r' :: '\n' :: rest => String.ofList line.reverse :: linesFrom [] rest
  | line, c :: rest =>
    if isLineBoundary c then String.ofList line.reverse :: linesFrom [] rest else linesFrom (c :: line) rest

/-- `str.splitlines` -/
def splitlines (text : String) : List String := linesFrom [] text.toList

/-- `f"{ms / 1000:.0f}"`: a half goes to the even second. -/
def wholeSeconds (ms : Nat) : Nat :=
  let whole := ms / 1000
  if ms % 1000 < 500 ∨ ms % 1000 = 500 ∧ whole % 2 = 0 then whole else whole + 1

/-- `1 turn`, `2 turns`: a count in prose a person reads. -/
def plural (count : Nat) (noun : String) : String :=
  if count = 1 then toString count ++ " " ++ noun else toString count ++ " " ++ noun ++ "s"

example : ofUtcStamp "2026-09-28T09:05:00Z" = some (seconds 1790586300) ∧
    utcStamp (seconds 1790586300) = "2026-09-28T09:05:00Z" := by decide +kernel

example : splitlines "a\r\n\nb" = ["a", "", "b"] := by decide +kernel

end Issuebot
