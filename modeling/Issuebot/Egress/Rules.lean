import Mathlib.Data.List.Infix
import Mathlib.Tactic.Common

/-!
# The allow-list, and what a `CONNECT` request asks for

A request head is bytes, read as Latin-1. `requestLine`, `words` and `parseConnectTarget` take a
destination out of it; `allowed` is the allow-list. `compressed` stands for
`str(ip_address(text).compressed)`, `none` where that raises.
-/

namespace Issuebot.Egress
set_option autoImplicit false

/-- One allow-list entry: a host (or a domain suffix) and the port it may be reached on. -/
structure Rule where
  name : String
  port : Nat
  subdomains : Bool
  deriving DecidableEq, Repr

/-- `Rule.matches` -/
def Rule.admitsHost (rule : Rule) (host : String) (port : Nat) : Bool :=
  if port ≠ rule.port then false
  else if host = rule.name then true
  else rule.subdomains && ("." ++ rule.name).toList.isSuffixOf host.toList

/-- Whether the allow-list admits this host on this port. -/
def allowed (host : String) (port : Nat) (rules : List Rule) : Bool := rules.any fun rule => rule.admitsHost host port

section Latin1

/-- `bytes.decode("latin-1")` -/
def latin1 (bytes : List UInt8) : List Char := bytes.map fun byte => Char.ofNat byte.toNat

/-- `str.isspace`, of a Latin-1 character. -/
def isSpace (c : Char) : Bool :=
  [0x09, 0x0a, 0x0b, 0x0c, 0x0d, 0x1c, 0x1d, 0x1e, 0x1f, 0x20, 0x85, 0xa0].contains c.toNat

/-- `str.isdigit`, of a Latin-1 character: the superscripts are digits. -/
def isDigit (c : Char) : Bool := c.isDigit || [0xb2, 0xb3, 0xb9].contains c.toNat

/-- `str.upper`, of a Latin-1 character. -/
def upper (c : Char) : List Char :=
  if c.toNat = 0xb5 then [Char.ofNat 0x39c]
  else if c.toNat = 0xdf then ['S', 'S']
  else if c.toNat = 0xff then [Char.ofNat 0x178]
  else if 0xe0 ≤ c.toNat ∧ c.toNat ≠ 0xf7 then [Char.ofNat (c.toNat - 32)]
  else [c.toUpper]

/-- `str.lower`, of a Latin-1 character. -/
def lower (c : Char) : Char :=
  if 0xc0 ≤ c.toNat ∧ c.toNat ≤ 0xde ∧ c.toNat ≠ 0xd7 then Char.ofNat (c.toNat + 32) else c.toLower

/-- `str.split()` -/
def words (text : List Char) : List (List Char) := (text.splitOnP isSpace).filter fun word => !word.isEmpty

/-- `str.strip()` -/
def strip (text : List Char) : List Char := ((text.dropWhile isSpace).reverse.dropWhile isSpace).reverse

end Latin1

section Target

/-- `head.split(b"\r\n", 1)[0]` -/
def requestLine : List Char → List Char
  | [] => []
  | '\r' :: '\n' :: _ => []
  | c :: rest => c :: requestLine rest

/-- `text.partition(c)`, `none` without a separator. -/
def partition (c : Char) (text : List Char) : Option (List Char × List Char) :=
  match text.dropWhile (· ≠ c) with
  | [] => none
  | _ :: after => some (text.takeWhile (· ≠ c), after)

/-- `text.rpartition(c)`, `none` without a separator. -/
def rpartition (c : Char) (text : List Char) : Option (List Char × List Char) :=
  (partition c text.reverse).map fun (after, before) => (before.reverse, after.reverse)

/-- `_HOST_CHARS` -/
def isHostChar (c : Char) : Bool := "abcdefghijklmnopqrstuvwxyz0123456789-._".toList.contains c

variable (compressed : String → Option String)

/-- A host name as it will be compared, or `none` for anything that is not one. -/
def normaliseHost (host : List Char) : Option String :=
  let text := strip host
  if text.head? = some '[' ∨ text.getLast? = some ']' then
    if text.head? = some '[' ∧ text.getLast? = some ']' then
      (compressed (String.ofList (text.drop 1).dropLast)).map fun host => String.ofList (host.toList.map lower)
    else none
  else
    let text := (text.reverse.dropWhile (· = '.')).reverse.map lower
    if text.isEmpty ∨ 253 < text.length then none
    else if ¬ text.all isHostChar then none
    else if ['.', '.'] <:+: text then none
    else some (String.ofList text)

/-- `int(text)`, `none` where it raises, as it does on over 4300 digits; `text` is in `isDigit`. -/
def parseInt (text : List Char) : Option Nat :=
  if text.length ≤ 4300 ∧ text.all Char.isDigit then some (text.foldl (fun n c => 10 * n + (c.toNat - '0'.toNat)) 0) else none

/-- The host and the port of a target, apart. -/
def splitTarget (text : List Char) : Option (List Char × List Char) :=
  if text.head? = some '[' then
    match partition ']' text with
    | some (host, ':' :: port) => some (host ++ [']'], port)
    | _ => none
  else rpartition ':' text

/-- `host:port` from a `CONNECT` request line, or `none`; it raises on a port of superscripts, or of too many digits. -/
def parseConnectTarget (target : List Char) : Except Unit (Option (String × Nat)) :=
  match splitTarget (strip target) with
  | none => .ok none
  | some (host, port) =>
    if port.isEmpty ∨ ¬ port.all isDigit then .ok none
    else match parseInt port with
    | none => .error ()
    | some port =>
      if ¬ (1 ≤ port ∧ port ≤ 65535) then .ok none
      else .ok ((normaliseHost compressed host).map fun host => (host, port))

end Target

end Issuebot.Egress
