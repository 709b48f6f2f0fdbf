import Issuebot.Agent.Characters
import Issuebot.Egress.Rules
import Issuebot.Strings
import Mathlib.Data.List.DropRight

/-!
# The grammar of hosts, of targets and of the allow-list's entries

The readers as they are on any string, not only on the Latin-1 of a request. `str.isdigit` and `int`
do not agree on what a digit is: superscripts are digits to the one only, and `int` reads decimal digits
of every script, but no more than 4300 of them. What the readers accept is a host, a colon and a port in
ASCII where the port is written so (`grammar_iff`).
-/

namespace Issuebot.Egress
set_option autoImplicit false

namespace Grammar

def dot : PyChar := .scalar '.'
def colon : PyChar := .scalar ':'
def opening : PyChar := .scalar '['
def closing : PyChar := .scalar ']'

/-- A character of `_HOST_CHARS`. -/
def isHost : PyChar → Bool := PyChar.is isHostChar

/-- A name as `normalise_host` leaves one: host characters, no dot at its end and no two together. -/
structure IsPlain (name : PyStr) : Prop where
  some_char : name ≠ []
  length : name.length ≤ 253
  chars : name.all isHost = true
  last : name.getLast? ≠ some dot
  dots : ¬ [dot, dot] <:+: name

/-- What Python knows of characters and of addresses. `lowerAt` is the lower case of a character with
what is before and after it, and `compressed` is `str(ip_address(text).compressed)`, `none` where that
raises: an address in digits and dots, or one with a colon. -/
structure Unicode where
  isDigit : Char → Bool
  decimal : Char → Option Nat
  lowerAt : PyStr → Char → PyStr → PyStr
  compressed : PyStr → Option PyStr
  digit_ascii : ∀ c : Char, c.isDigit = true → isDigit c = true ∧ decimal c = some (c.toNat - '0'.toNat)
  lower_ascii : ∀ before c after, c.toNat < 128 → lowerAt before c after = [.scalar c.toLower]
  lower_beyond : ∀ before c after, 128 ≤ c.toNat → lowerAt before c after ≠ [] ∧ dot ∉ lowerAt before c after
  compressed_plain : ∀ text address, compressed text = some address → colon ∉ address → IsPlain address
  compressed_head : ∀ text address, compressed text = some address →
    ∃ first rest, address = .scalar first :: rest ∧ first ∈ "0123456789abcdef:".toList

/-- One allow-list entry. -/
structure Rule where
  name : PyStr
  port : Nat
  subdomains : Bool
  deriving DecidableEq

section Readers

variable (u : Unicode)

/-- `str.lower`, of a text with `before` before it. -/
def lowerFrom : PyStr → PyStr → PyStr
  | _, [] => []
  | before, .scalar c :: rest => u.lowerAt before c rest ++ lowerFrom (before ++ [.scalar c]) rest
  | before, .surrogate n :: rest => .surrogate n :: lowerFrom (before ++ [.surrogate n]) rest

/-- `str.lower` -/
def lower (text : PyStr) : PyStr := lowerFrom u [] text

/-- `str.strip` -/
def strip (text : PyStr) : PyStr := (text.dropWhile (PyChar.is Issuebot.isSpace)).rdropWhile (PyChar.is Issuebot.isSpace)

/-- `str.isdigit` -/
def isDigits (text : PyStr) : Bool := text ≠ [] ∧ text.all (PyChar.is u.isDigit)

/-- The number of the digits after `n`, `none` where one is no decimal digit. -/
def number : Nat → PyStr → Option Nat
  | n, [] => some n
  | n, .scalar c :: rest => (u.decimal c).bind fun digit => number (10 * n + digit) rest
  | _, .surrogate _ :: _ => none

/-- `int(text)` of digits, `none` where it raises `ValueError`. -/
def int (text : PyStr) : Option Nat := if text.length ≤ 4300 then number u 0 text else none

/-- `text.partition(c)`, `none` without a separator. -/
def partition (c : PyChar) : PyStr → Option (PyStr × PyStr)
  | [] => none
  | first :: rest => if first = c then some ([], rest) else (partition c rest).map fun (before, after) => (first :: before, after)

/-- `text.rpartition(c)`, `none` without a separator. -/
def rpartition (c : PyChar) (text : PyStr) : Option (PyStr × PyStr) :=
  (partition c text.reverse).map fun (after, before) => (before.reverse, after.reverse)

/-- `normalise_host` -/
def normaliseHost (host : PyStr) : Option PyStr :=
  let text := strip host
  if text.head? = some opening ∨ text.getLast? = some closing then
    if text.head? = some opening ∧ text.getLast? = some closing then
      (u.compressed (text.drop 1).dropLast).map (lower u)
    else none
  else
    let text := lower u (text.rdropWhile (· = dot))
    if text = [] ∨ 253 < text.length then none
    else if ¬ text.all isHost then none
    else if [dot, dot] <:+: text then none
    else some text

/-- A port that is digits and in range; the error is the `ValueError` of `int`. -/
def readPort (text : PyStr) : Except Unit (Option Nat) :=
  if ¬ isDigits u text then .ok none
  else match int u text with
  | none => .error ()
  | some port => .ok (if 1 ≤ port ∧ port ≤ 65535 then some port else none)

/-- The host and the port of a target, apart. -/
def splitTarget (text : PyStr) : Option (PyStr × PyStr) :=
  if text.head? = some opening then
    match partition closing text with
    | none => none
    | some (host, rest) => if rest.head? = some colon then some (host ++ [closing], rest.drop 1) else none
  else rpartition colon text

/-- `parse_connect_target` -/
def parseConnectTarget (target : PyStr) : Except Unit (Option (PyStr × Nat)) :=
  match splitTarget (strip target) with
  | none => .ok none
  | some (host, portText) => do
    match ← readPort u portText with
    | none => return none
    | some port => return (normaliseHost u host).map fun host => (host, port)

/-- The name and the port of an entry, apart. -/
def splitEntry (text : PyStr) : PyStr × Option PyStr :=
  match rpartition colon text with
  | none => (text, none)
  | some (name, port) => (name, some port)

/-- `DEFAULT_TARGET_PORT` -/
def defaultTargetPort : Nat := 443

/-- An entry without the dot that says that it is a domain. -/
def domain (text : PyStr) : PyStr := if text.head? = some dot then text.drop 1 else text

/-- An entry's port: its own, or the default. -/
def readEntryPort : Option PyStr → Except Unit (Option Nat)
  | none => .ok (some defaultTargetPort)
  | some text => readPort u text

/-- `parse_rule` -/
def parseRule (entry : PyStr) : Except Unit (Option Rule) :=
  let text := strip entry
  if text = [] then .ok none
  else do
    let parts := splitEntry (domain text)
    match ← readEntryPort u parts.2 with
    | none => return none
    | some port => return (normaliseHost u parts.1).map fun name => { name, port, subdomains := text.head? = some dot }

/-- `str(rule)` -/
def Rule.print (rule : Rule) : PyStr :=
  (if rule.subdomains then [dot] else []) ++ rule.name ++ colon :: PyStr.ofText (Nat.toDigits 10 rule.port)

/-- `parse_allow`: the rules, and the entries that make none. -/
def parseAllow : List PyStr → List Rule → List PyStr → Except Unit (List Rule × List PyStr)
  | [], rules, complaints => .ok (rules, complaints)
  | entry :: rest, rules, complaints => do
    match ← parseRule u entry with
    | none => parseAllow rest rules (complaints ++ [entry])
    | some rule => parseAllow rest (if rule ∈ rules then rules else rules ++ [rule]) complaints

/-- `Rule.matches` -/
def Rule.admits (rule : Rule) (host : PyStr) (port : Nat) : Bool :=
  if port ≠ rule.port then false
  else if host = rule.name then true
  else rule.subdomains && (dot :: rule.name).isSuffixOf host

/-- `allowed` -/
def allowed (host : PyStr) (port : Nat) (rules : List Rule) : Bool := rules.any fun rule => rule.admits host port

end Readers

section Splitting

variable {c : PyChar} {text before after : PyStr}

theorem partition_eq_some : partition c text = some (before, after) ↔ text = before ++ c :: after ∧ c ∉ before := by
  induction text generalizing before with
  | nil => simp [partition]
  | cons first rest ih =>
    rw [partition]
    by_cases same : first = c
    · rw [if_pos same, Option.some.injEq, Prod.mk.injEq]
      constructor
      · rintro ⟨rfl, rfl⟩
        exact ⟨by rw [same]; rfl, List.not_mem_nil⟩
      · rintro ⟨whole, absent⟩
        cases before with
        | nil => exact ⟨rfl, (List.cons.inj whole).2⟩
        | cons head before => exact absurd (same ▸ (List.cons.inj whole).1 ▸ List.mem_cons_self) absent
    · rw [if_neg same, Option.map_eq_some_iff]
      constructor
      · rintro ⟨⟨front, back⟩, parted, is_pair⟩
        obtain ⟨rfl, rfl⟩ := Prod.mk.inj is_pair
        obtain ⟨rfl, absent⟩ := ih.mp parted
        exact ⟨rfl, fun mem => (List.mem_cons.mp mem).elim (fun is_first => same is_first.symm) absent⟩
      · rintro ⟨whole, absent⟩
        cases before with
        | nil => exact absurd (List.cons.inj whole).1 same
        | cons head before =>
          obtain ⟨rfl, rfl⟩ := List.cons.inj whole
          exact ⟨(before, after), ih.mpr ⟨rfl, fun mem => absent (List.mem_cons_of_mem _ mem)⟩, rfl⟩

theorem rpartition_eq_some : rpartition c text = some (before, after) ↔ text = before ++ c :: after ∧ c ∉ after := by
  rw [rpartition, Option.map_eq_some_iff]
  constructor
  · rintro ⟨⟨back, front⟩, parted, is_pair⟩
    obtain ⟨rfl, rfl⟩ := Prod.mk.inj is_pair
    obtain ⟨whole, absent⟩ := partition_eq_some.mp parted
    refine ⟨?_, fun mem => absent (List.mem_reverse.mp mem)⟩
    rw [← List.reverse_reverse text, whole]
    simp
  · rintro ⟨rfl, absent⟩
    refine ⟨(after.reverse, before.reverse), partition_eq_some.mpr ⟨by simp, fun mem => absent (List.mem_reverse.mp mem)⟩, ?_⟩
    simp

end Splitting

section Ports

variable {u : Unicode} {text : PyStr} {port : Nat}

/-- Digits of ASCII. -/
def IsAscii (text : PyStr) : Prop := ∃ digits : List Char, text = PyStr.ofText digits ∧ digits.all Char.isDigit = true

/-- A decimal port of ASCII digits, from 1 to 65535. -/
def IsPort (text : PyStr) (port : Nat) : Prop :=
  ∃ digits : List Char, text = PyStr.ofText digits ∧ digits ≠ [] ∧ digits.all Char.isDigit = true ∧
    Nat.ofDigitChars 10 digits 0 = port ∧ 1 ≤ port ∧ port ≤ 65535

theorem number_ascii {digits : List Char} {n : Nat} (ascii : digits.all Char.isDigit = true) :
    number u n (PyStr.ofText digits) = some (Nat.ofDigitChars 10 digits n) := by
  induction digits generalizing n with
  | nil => rfl
  | cons c digits ih =>
    obtain ⟨first, rest⟩ := Bool.and_eq_true_iff.mp ascii
    show (u.decimal c).bind _ = _
    rw [(u.digit_ascii c first).2, Option.bind_some]
    exact ih rest

theorem isDigits_ascii {digits : List Char} (some_digit : digits ≠ []) (ascii : digits.all Char.isDigit = true) :
    isDigits u (PyStr.ofText digits) = true := by
  have each : (PyStr.ofText digits).all (PyChar.is u.isDigit) = true := by
    rw [PyStr.ofText, List.all_map]
    exact List.all_eq_true.mpr fun c mem => (u.digit_ascii c (List.all_eq_true.mp ascii c mem)).1
  have nonempty : PyStr.ofText digits ≠ [] := fun none => some_digit (List.map_eq_nil_iff.mp none)
  exact decide_eq_true ⟨nonempty, each⟩

/-- Where the text is a port, `int` reads it or has too many digits. -/
theorem IsPort.int (is_port : IsPort text port) : isDigits u text = true ∧ (int u text = some port ∨ Grammar.int u text = none) := by
  obtain ⟨digits, rfl, some_digit, ascii, rfl, -⟩ := is_port
  refine ⟨isDigits_ascii some_digit ascii, ?_⟩
  rw [Grammar.int]
  split
  · exact .inl (number_ascii ascii)
  · exact .inr rfl

/-- The port that is read, and that the grammar has, by what `int` makes of the text. -/
theorem readPort_cases (u : Unicode) (text : PyStr) :
    (readPort u text = .ok none ∧ (∀ port, ¬ IsPort text port) ∧
      (isDigits u text = true → ∃ port, int u text = some port ∧ ¬ (1 ≤ port ∧ port ≤ 65535))) ∨
    (readPort u text = .error () ∧ isDigits u text = true ∧ int u text = none) ∨
    ∃ port, readPort u text = .ok (some port) ∧ isDigits u text = true ∧ int u text = some port ∧ (1 ≤ port ∧ port ≤ 65535) ∧
      ∀ other, IsPort text other ↔ IsAscii text ∧ port = other := by
  rw [readPort]
  by_cases digits : isDigits u text = true
  case neg => exact .inl ⟨if_pos digits, fun port is_port => digits is_port.int.1, fun other => absurd other digits⟩
  rw [if_neg (not_not.mpr digits)]
  cases read : int u text with
  | none => exact .inr (.inl ⟨rfl, digits, rfl⟩)
  | some port =>
    have only {other : Nat} (is_port : IsPort text other) : port = other :=
      (@IsPort.int u text other is_port).2.elim (fun same => Option.some.inj (read.symm.trans same))
        fun none => by cases read.symm.trans none
    by_cases within : 1 ≤ port ∧ port ≤ 65535
    · refine .inr (.inr ⟨port, congrArg Except.ok (if_pos within), digits, rfl, within, fun other => ⟨fun is_port => ⟨?_, only is_port⟩, ?_⟩⟩)
      · obtain ⟨chars, whole, -, ascii, -⟩ := is_port
        exact ⟨chars, whole, ascii⟩
      · rintro ⟨⟨chars, rfl, ascii⟩, rfl⟩
        have some_digit : chars ≠ [] := by
          rintro rfl
          simp [isDigits, PyStr.ofText] at digits
        have value := (number_ascii ascii : number u 0 _ = _)
        rw [Grammar.int] at read
        split at read
        · exact ⟨chars, rfl, some_digit, ascii, Option.some.inj (value.symm.trans read), within⟩
        · cases read
    · refine .inl ⟨congrArg Except.ok (if_neg within), fun other is_port => within ?_, fun _ => ⟨port, rfl, within⟩⟩
      obtain rfl := only is_port
      obtain ⟨-, -, -, -, -, within⟩ := is_port
      exact within

/-- A number prints as a port that is read as itself. -/
theorem readPort_digits (within : 1 ≤ port ∧ port ≤ 65535) : readPort u (PyStr.ofText (Nat.toDigits 10 port)) = .ok (some port) := by
  have ascii : (Nat.toDigits 10 port).all Char.isDigit = true :=
    List.all_eq_true.mpr fun c mem => Nat.isDigit_of_mem_toDigits (by decide) (by decide) mem
  have short : (PyStr.ofText (Nat.toDigits 10 port)).length ≤ 4300 := by
    rw [PyStr.ofText, List.length_map]
    have five : (Nat.toDigits 10 port).length ≤ 5 := (Nat.length_toDigits_le_iff (by decide) (by decide)).mpr (by omega)
    omega
  have read : int u (PyStr.ofText (Nat.toDigits 10 port)) = some port := by
    rw [int, if_pos short, number_ascii ascii, Nat.ofDigitChars_toDigits (by decide) (by decide)]
  rw [readPort, if_neg (not_not.mpr (isDigits_ascii Nat.toDigits_ne_nil ascii)), read]
  simp only [if_pos within]

end Ports

section Targets

variable {u : Unicode} {text : PyStr}

/-- A host name or a bracketed literal by `normalise_host`, a colon and a port. -/
def IsTarget (u : Unicode) (text : PyStr) (target : PyStr × Nat) : Prop :=
  ∃ host port : PyStr, text = host ++ colon :: port ∧ normaliseHost u host = some target.1 ∧
    (host.head? = some opening → ∃ inner, host = opening :: inner ++ [closing] ∧ closing ∉ inner) ∧ IsPort port target.2

theorem colon_notMem_port {port : PyStr} {n : Nat} (is_port : IsPort port n) : colon ∉ port := by
  obtain ⟨digits, rfl, -, ascii, -⟩ := is_port
  intro mem
  obtain ⟨c, mem, same⟩ := List.mem_map.mp mem
  obtain rfl : c = ':' := PyChar.scalar.inj same
  exact absurd (List.all_eq_true.mp ascii _ mem) (by decide)

/-- A text splits into a host and a port as the grammar says, whatever they are. -/
theorem splitTarget_eq_some {host port : PyStr} (head : host ≠ []) : splitTarget text = some (host, port) ↔
    text = host ++ colon :: port ∧ (host.head? = some opening → ∃ inner, host = opening :: inner ++ [closing] ∧ closing ∉ inner) ∧
      (host.head? ≠ some opening → colon ∉ port) := by
  rw [splitTarget]
  by_cases bracket : text.head? = some opening
  · rw [if_pos bracket]
    constructor
    · intro split
      rcases parted : partition closing text with _ | ⟨before, after⟩
      · simp [parted] at split
      · simp only [parted] at split
        obtain ⟨rfl, absent⟩ := partition_eq_some.mp parted
        split at split
        next follows =>
          obtain ⟨rfl, rfl⟩ := Prod.mk.inj (Option.some.inj split)
          obtain ⟨rest, rfl⟩ : ∃ rest, after = colon :: rest := by
            cases after with
            | nil => cases follows
            | cons first rest => exact ⟨rest, by rw [Option.some.inj follows]⟩
          cases before with
          | nil => cases bracket
          | cons first inner =>
            obtain rfl : first = opening := Option.some.inj bracket
            refine ⟨by simp, fun _ => ⟨inner, by simp, fun mem => absent (List.mem_cons_of_mem _ mem)⟩, fun other => absurd rfl other⟩
        next => cases split
    · rintro ⟨rfl, bracketed, -⟩
      have begins : host.head? = some opening := by
        rw [List.head?_append] at bracket
        rcases host with _ | ⟨first, rest⟩
        · exact absurd rfl head
        · exact bracket
      obtain ⟨inner, rfl, absent⟩ := bracketed begins
      have parted : partition closing (opening :: inner ++ [closing] ++ colon :: port) = some (opening :: inner, colon :: port) := by
        refine partition_eq_some.mpr ⟨by simp, fun mem => ?_⟩
        exact (List.mem_cons.mp mem).elim (by decide) absent
      rw [parted]
      rfl
  · rw [if_neg bracket, rpartition_eq_some]
    have unbracketed (whole : text = host ++ colon :: port) : host.head? ≠ some opening := by
      rintro begins
      rw [whole, List.head?_append, begins] at bracket
      exact bracket rfl
    constructor
    · rintro ⟨whole, absent⟩
      exact ⟨whole, fun begins => absurd begins (unbracketed whole), fun _ => absent⟩
    · rintro ⟨whole, -, absent⟩
      exact ⟨whole, absent (unbracketed whole)⟩

theorem normaliseHost_nil : normaliseHost u [] = none := by
  rfl

/-- A port beside its host: where it is all digits, `int` reads it, and reads none of another script. -/
def PortFits (u : Unicode) (host port : PyStr) : Prop :=
  isDigits u port = true → ∃ n, int u port = some n ∧
    (1 ≤ n ∧ n ≤ 65535 → (normaliseHost u host).isSome = true → IsAscii port)

/-- The port of a target, where it has one. -/
def TargetFits (u : Unicode) (target : PyStr) : Prop :=
  ∀ host port, splitTarget (strip target) = some (host, port) → PortFits u host port

theorem isTarget_iff {name : PyStr} {n : Nat} : IsTarget u text (name, n) ↔
    ∃ host port, splitTarget text = some (host, port) ∧ normaliseHost u host = some name ∧ IsPort port n := by
  have head {host : PyStr} (is_name : normaliseHost u host = some name) : host ≠ [] := by
    rintro rfl
    cases normaliseHost_nil.symm.trans is_name
  constructor
  · rintro ⟨host, port, whole, is_name, bracketed, is_port⟩
    exact ⟨host, port, (splitTarget_eq_some (head is_name)).mpr ⟨whole, bracketed, fun _ => colon_notMem_port is_port⟩, is_name,
      is_port⟩
  · rintro ⟨host, port, parts, is_name, is_port⟩
    obtain ⟨whole, bracketed, -⟩ := (splitTarget_eq_some (head is_name)).mp parts
    exact ⟨host, port, whole, is_name, bracketed, is_port⟩

/-- A target is read, and read as the grammar says, where its port fits. -/
theorem parseConnectTarget_iff (u : Unicode) (target : PyStr) :
    (∃ parsed, parseConnectTarget u target = .ok parsed ∧ ∀ found, parsed = some found ↔ IsTarget u (strip target) found) ↔
      TargetFits u target := by
  rw [parseConnectTarget, TargetFits]
  rcases parts : splitTarget (strip target) with _ | ⟨host, portText⟩
  · refine iff_of_true ⟨none, rfl, fun found => iff_of_false (fun same => by cases same) ?_⟩ fun host port same => by cases same
    rintro ⟨host, port, is_target⟩
    obtain ⟨_, _, other, -⟩ := isTarget_iff.mp ⟨host, port, is_target⟩
    cases parts.symm.trans other
  · have target_iff {name : PyStr} {n : Nat} : IsTarget u (strip target) (name, n) ↔ normaliseHost u host = some name ∧ IsPort portText n := by
      rw [isTarget_iff, parts]
      constructor
      · rintro ⟨_, _, same, is_name, is_port⟩
        obtain ⟨rfl, rfl⟩ := Prod.mk.inj (Option.some.inj same)
        exact ⟨is_name, is_port⟩
      · exact fun found => ⟨host, portText, rfl, found⟩
    have fits_iff : (∀ host' port, some (host, portText) = some (host', port) → PortFits u host' port) ↔ PortFits u host portText := by
      constructor
      · exact fun fits => fits host portText rfl
      · intro fits host' port same
        obtain ⟨rfl, rfl⟩ := Prod.mk.inj (Option.some.inj same)
        exact fits
    rw [fits_iff]
    rcases readPort_cases u portText with ⟨read, none_is, out_of_range⟩ | ⟨read, digits, raises⟩ | ⟨port, read, digits, is_int, within, is_port⟩
    · simp only [read]
      refine iff_of_true ⟨none, rfl, ?_⟩ fun digits => ?_
      · rintro ⟨name, n⟩
        exact iff_of_false (fun same => by cases same) fun is_target => none_is n (target_iff.mp is_target).2
      · obtain ⟨n, is_int, outside⟩ := out_of_range digits
        exact ⟨n, is_int, fun within => absurd within outside⟩
    · simp only [read]
      refine iff_of_false ?_ fun fits => ?_
      · rintro ⟨parsed, same, -⟩
        cases same
      · obtain ⟨n, is_int, -⟩ := fits digits
        cases raises.symm.trans is_int
    · simp only [read]
      have fits_iff : PortFits u host portText ↔ ((normaliseHost u host).isSome = true → IsAscii portText) := by
        constructor
        · intro fits
          obtain ⟨n, same, ascii⟩ := fits digits
          obtain rfl := Option.some.inj (is_int.symm.trans same)
          exact ascii within
        · exact fun ascii _ => ⟨port, is_int, fun _ => ascii⟩
      rw [fits_iff]
      cases is_name : normaliseHost u host with
      | none =>
        refine iff_of_true ⟨none, rfl, ?_⟩ fun is_some => by cases is_some
        rintro ⟨name, n⟩
        exact iff_of_false (fun same => by cases same) fun is_target => by cases is_name.symm.trans (target_iff.mp is_target).1
      | some name =>
        constructor
        · rintro ⟨parsed, same, found⟩ -
          obtain rfl := Except.ok.inj same
          exact ((is_port _).mp (target_iff.mp ((found (name, port)).mp rfl)).2).1
        · intro ascii
          refine ⟨some (name, port), rfl, ?_⟩
          rintro ⟨other, n⟩
          rw [target_iff, is_name, is_port, and_iff_right (ascii rfl), Option.some.injEq, Option.some.injEq, Prod.mk.injEq]

end Targets

section Names

variable {u : Unicode} {before text host name : PyStr}

theorem isHostChar_spec {c : Char} (is_char : isHostChar c = true) :
    c.toNat < 128 ∧ c.toLower = c ∧ Issuebot.isSpace c = false ∧ c ≠ ':' ∧ c ≠ '[' ∧ c ≠ ']' := by
  have each : ∀ c ∈ "abcdefghijklmnopqrstuvwxyz0123456789-._".toList,
      c.toNat < 128 ∧ c.toLower = c ∧ Issuebot.isSpace c = false ∧ c ≠ ':' ∧ c ≠ '[' ∧ c ≠ ']' := by decide
  exact each c (List.contains_iff_mem.mp is_char)

theorem isHost_spec {c : PyChar} (is_char : isHost c = true) :
    ∃ char, c = .scalar char ∧ isHostChar char = true := by
  cases c with
  | scalar char => exact ⟨char, rfl, is_char⟩
  | surrogate => cases is_char

/-- What becomes of one character is something, and a dot of a dot only. -/
theorem lowerAt_spec (u : Unicode) (before : PyStr) (c : Char) (after : PyStr) :
    u.lowerAt before c after ≠ [] ∧ (c ≠ '.' → dot ∉ u.lowerAt before c after) := by
  by_cases ascii : c.toNat < 128
  · rw [u.lower_ascii before c after ascii]
    refine ⟨List.cons_ne_nil _ _, fun other mem => other ?_⟩
    have lowered : c.toLower = '.' := (PyChar.scalar.inj (List.mem_singleton.mp mem)).symm
    have each : ∀ n < 128, (Char.ofNat n).toLower = '.' → Char.ofNat n = '.' := by decide
    simpa using each c.toNat ascii (by simpa using lowered)
  · obtain ⟨some_char, no_dot⟩ := u.lower_beyond before c after (Nat.not_lt.mp ascii)
    exact ⟨some_char, fun _ => no_dot⟩

theorem lowerFrom_ne_nil (some_char : text ≠ []) : lowerFrom u before text ≠ [] := by
  cases text with
  | nil => exact absurd rfl some_char
  | cons first rest =>
    cases first with
    | scalar c =>
      rw [lowerFrom]
      exact fun none => (lowerAt_spec u before c rest).1 (List.append_eq_nil_iff.mp none).1
    | surrogate n => exact List.cons_ne_nil _ _

/-- The lower case begins with a dot where the text does. -/
theorem head_lowerFrom (other : text.head? ≠ some dot) : (lowerFrom u before text).head? ≠ some dot := by
  cases text with
  | nil => exact other
  | cons first rest =>
    cases first with
    | surrogate n => exact fun same => by cases same
    | scalar c =>
      have ne : c ≠ '.' := by
        rintro rfl
        exact other rfl
      obtain ⟨some_char, no_dot⟩ := lowerAt_spec u before c rest
      obtain ⟨head, tail, piece⟩ := List.exists_cons_of_ne_nil some_char
      rw [lowerFrom, piece]
      intro same
      obtain rfl : head = dot := Option.some.inj same
      exact no_dot ne (piece ▸ List.mem_cons_self)

/-- The lower case ends with a dot where the text does. -/
theorem getLast_lowerFrom (other : text.getLast? ≠ some dot) : (lowerFrom u before text).getLast? ≠ some dot := by
  induction text generalizing before with
  | nil => exact other
  | cons first rest ih =>
    cases rest with
    | cons second rest =>
      have other : (second :: rest).getLast? ≠ some dot := by rwa [List.getLast?_cons_cons] at other
      have ends (piece : PyStr) (before : PyStr) : (piece ++ lowerFrom u before (second :: rest)).getLast? ≠ some dot := by
        rw [List.getLast?_append_of_ne_nil _ (lowerFrom_ne_nil (List.cons_ne_nil second rest))]
        exact ih other
      cases first with
      | scalar c => exact ends (u.lowerAt before c (second :: rest)) _
      | surrogate n => exact ends [.surrogate n] _
    | nil =>
      cases first with
      | surrogate n => exact fun same => by cases same
      | scalar c =>
        have ne : c ≠ '.' := by
          rintro rfl
          exact other rfl
        intro same
        rw [lowerFrom, lowerFrom, List.append_nil] at same
        exact (lowerAt_spec u before c []).2 ne (List.mem_of_getLast? same)

theorem colon_mem_lowerFrom (mem : colon ∈ text) : colon ∈ lowerFrom u before text := by
  induction text generalizing before with
  | nil => cases mem
  | cons first rest ih =>
    cases first with
    | surrogate n =>
      rcases List.mem_cons.mp mem with same | mem
      · cases same
      · exact List.mem_cons_of_mem _ (ih mem)
    | scalar c =>
      rw [lowerFrom]
      rcases List.mem_cons.mp mem with same | mem
      · obtain rfl : c = ':' := (PyChar.scalar.inj same).symm
        rw [u.lower_ascii before ':' rest (by decide)]
        exact List.mem_append_left _ (List.mem_singleton.mpr rfl)
      · exact List.mem_append_right _ (ih mem)

theorem lowerFrom_host (chars : text.all isHost = true) : lowerFrom u before text = text := by
  induction text generalizing before with
  | nil => rfl
  | cons first rest ih =>
    obtain ⟨is_char, others⟩ := Bool.and_eq_true_iff.mp chars
    obtain ⟨c, rfl, is_char⟩ := isHost_spec is_char
    obtain ⟨ascii, lowered, -⟩ := isHostChar_spec is_char
    rw [lowerFrom, u.lower_ascii before c rest ascii, lowered, ih others]
    rfl

/-- A text whose ends are no spaces is not stripped. -/
theorem strip_eq_self {first last : PyChar} (begins : text.head? = some first) (ends : text.getLast? = some last)
    (first_kept : PyChar.is Issuebot.isSpace first = false) (last_kept : PyChar.is Issuebot.isSpace last = false) : strip text = text := by
  rcases text with _ | ⟨head, rest⟩
  · cases begins
  · obtain rfl : head = first := Option.some.inj begins
    have kept : (head :: rest).dropWhile (PyChar.is Issuebot.isSpace) = head :: rest :=
      List.dropWhile_cons_of_neg (by simp [first_kept])
    rw [strip, kept, List.rdropWhile_eq_self_iff]
    intro some_char
    rw [List.getLast?_eq_some_getLast some_char] at ends
    rw [Option.some.inj ends, last_kept]
    exact Bool.false_ne_true

/-- A plain name is its own. -/
theorem normaliseHost_plain (plain : IsPlain name) : normaliseHost u name = some name := by
  have each {c : PyChar} (mem : c ∈ name) : ∃ char, c = .scalar char ∧ isHostChar char = true :=
    isHost_spec (List.all_eq_true.mp plain.chars c mem)
  have kept {c : PyChar} (mem : c ∈ name) : PyChar.is Issuebot.isSpace c = false ∧ c ≠ opening ∧ c ≠ closing := by
    obtain ⟨char, rfl, is_char⟩ := each mem
    obtain ⟨-, -, no_space, -, no_opening, no_closing⟩ := isHostChar_spec is_char
    exact ⟨no_space, fun same => no_opening (PyChar.scalar.inj same), fun same => no_closing (PyChar.scalar.inj same)⟩
  obtain ⟨first, rest, is_cons⟩ := List.exists_cons_of_ne_nil plain.some_char
  have begins : name.head? = some first := by rw [is_cons]; rfl
  obtain ⟨last, ends⟩ : ∃ last, name.getLast? = some last := ⟨_, List.getLast?_eq_some_getLast plain.some_char⟩
  have first_mem : first ∈ name := by rw [is_cons]; exact List.mem_cons_self
  have last_mem : last ∈ name := List.mem_of_getLast? ends
  have undotted : name.rdropWhile (· = dot) = name := by
    rw [List.rdropWhile_eq_self_iff]
    intro some_char same
    rw [List.getLast?_eq_some_getLast some_char] at ends
    exact plain.last (by rw [List.getLast?_eq_some_getLast some_char, of_decide_eq_true same])
  have unbracketed : ¬ (name.head? = some opening ∨ name.getLast? = some closing) := by
    rw [begins, ends]
    rintro (same | same)
    · exact (kept first_mem).2.1 (Option.some.inj same)
    · exact (kept last_mem).2.2 (Option.some.inj same)
  have short : ¬ (name = [] ∨ 253 < name.length) := not_or.mpr ⟨plain.some_char, Nat.not_lt.mpr plain.length⟩
  rw [normaliseHost, strip_eq_self begins ends (kept first_mem).1 (kept last_mem).1]
  simp only [if_neg unbracketed, undotted, lower, lowerFrom_host plain.chars, if_neg short, plain.chars, not_true_eq_false, if_false,
    if_neg plain.dots]

/-- A name that `normalise_host` returns: a literal's address, or a plain name of the text within its dots. -/
theorem normaliseHost_cases (is_name : normaliseHost u host = some name) :
    (∃ text address, u.compressed text = some address ∧ name = lower u address) ∨
    IsPlain name ∧ name = lower u ((strip host).rdropWhile (· = dot)) := by
  rw [normaliseHost] at is_name
  simp only at is_name
  split at is_name
  · split at is_name
    · obtain ⟨address, is_address, rfl⟩ := Option.map_eq_some_iff.mp is_name
      exact .inl ⟨_, address, is_address, rfl⟩
    · cases is_name
  · split at is_name
    · cases is_name
    next short =>
      split at is_name
      · cases is_name
      next chars =>
        split at is_name
        · cases is_name
        next dots =>
          obtain rfl := Option.some.inj is_name
          obtain ⟨some_char, length⟩ := not_or.mp short
          refine .inr ⟨⟨some_char, Nat.not_lt.mp length, not_not.mp chars, getLast_lowerFrom fun same => ?_, dots⟩, rfl⟩
          have undotted := List.rdropWhile_last_not (fun c : PyChar => decide (c = dot)) (strip host)
            (fun none => some_char (by rw [none]; rfl))
          rw [List.getLast?_eq_some_getLast (fun none => some_char (by rw [none]; rfl))] at same
          exact undotted (decide_eq_true (Option.some.inj same))

/-- An address begins as it is written: with a digit or a colon. -/
theorem head_lower_address {address : PyStr} (is_address : u.compressed text = some address) :
    ∃ first rest, lower u address = .scalar first :: rest ∧ first ∈ "0123456789abcdef:".toList := by
  obtain ⟨first, rest, rfl, mem⟩ := u.compressed_head text address is_address
  have each : ∀ c ∈ "0123456789abcdef:".toList, c.toNat < 128 ∧ c.toLower = c := by decide
  obtain ⟨ascii, lowered⟩ := each first mem
  refine ⟨first, lowerFrom u ([] ++ [.scalar first]) rest, ?_, mem⟩
  rw [lower, lowerFrom, u.lower_ascii [] first rest ascii, lowered]
  rfl

/-- A name without a colon is plain. -/
theorem isPlain_of_colon (is_name : normaliseHost u host = some name) (absent : colon ∉ name) : IsPlain name := by
  rcases normaliseHost_cases is_name with ⟨text, address, is_address, rfl⟩ | ⟨plain, -⟩
  · have plain := u.compressed_plain text address is_address fun mem => absent (colon_mem_lowerFrom mem)
    rwa [lower, lowerFrom_host plain.chars]
  · exact plain

theorem mem_dropWhile {p : PyChar → Bool} {c : PyChar} (mem : c ∈ text) (kept : p c = false) : c ∈ text.dropWhile p := by
  rw [← List.takeWhile_append_dropWhile (p := p) (l := text)] at mem
  refine (List.mem_append.mp mem).resolve_left fun taken => ?_
  rw [List.mem_takeWhile_imp taken] at kept
  cases kept

theorem mem_rdropWhile {p : PyChar → Bool} {c : PyChar} (mem : c ∈ text) (kept : p c = false) : c ∈ text.rdropWhile p :=
  List.mem_reverse.mpr (mem_dropWhile (List.mem_reverse.mpr mem) kept)

/-- What is left of a text without its end begins as it does. -/
theorem head_rdropWhile {p : PyChar → Bool} (some_char : text.rdropWhile p ≠ []) : (text.rdropWhile p).head? = text.head? := by
  obtain ⟨rest, whole⟩ := List.rdropWhile_prefix p text
  obtain ⟨first, more, is_cons⟩ := List.exists_cons_of_ne_nil some_char
  rw [is_cons] at whole ⊢
  rw [← whole]
  rfl

/-- The head of a text that does not begin with a space is the head of what is stripped of it. -/
theorem head_strip {first : PyChar} (begins : text.head? = some first) (kept : PyChar.is Issuebot.isSpace first = false) :
    (strip text).head? = some first := by
  rcases text with _ | ⟨head, rest⟩
  · cases begins
  · obtain rfl : head = first := Option.some.inj begins
    have undropped : (head :: rest).dropWhile (PyChar.is Issuebot.isSpace) = head :: rest :=
      List.dropWhile_cons_of_neg (by simp [kept])
    rw [strip, undropped, head_rdropWhile]
    · rfl
    · exact List.ne_nil_of_mem (mem_rdropWhile List.mem_cons_self kept)

theorem address_char {c : Char} (mem : c ∈ "0123456789abcdef:".toList) : Issuebot.isSpace c = false ∧ c ≠ '.' ∧ c ≠ '[' := by
  have each : ∀ c ∈ "0123456789abcdef:".toList, Issuebot.isSpace c = false ∧ c ≠ '.' ∧ c ≠ '[' := by decide
  exact each c mem

/-- A name with a colon, as an address has one, is no name again. -/
theorem normaliseHost_colon (is_name : normaliseHost u host = some name) (mem : colon ∈ name) : normaliseHost u name = none := by
  obtain ⟨first, rest, is_cons, is_char⟩ : ∃ first rest, name = .scalar first :: rest ∧ first ∈ "0123456789abcdef:".toList := by
    rcases normaliseHost_cases is_name with ⟨text, address, is_address, rfl⟩ | ⟨plain, -⟩
    · exact head_lower_address is_address
    · obtain ⟨c, same, is_char⟩ := isHost_spec (List.all_eq_true.mp plain.chars colon mem)
      obtain rfl : ':' = c := PyChar.scalar.inj same
      exact absurd is_char (by decide)
  obtain ⟨no_space, -, no_bracket⟩ := address_char is_char
  have begins : (strip name).head? = some (.scalar first) := head_strip (by rw [is_cons]; rfl) no_space
  have unopened : (strip name).head? ≠ some opening := by
    rw [begins]
    exact fun same => no_bracket (PyChar.scalar.inj (Option.some.inj same))
  have stripped : colon ∈ strip name := mem_rdropWhile (mem_dropWhile mem (by decide)) (by decide)
  have lowered : colon ∈ lower u ((strip name).rdropWhile (· = dot)) :=
    colon_mem_lowerFrom (mem_rdropWhile stripped (by decide))
  have foreign : ¬ (lower u ((strip name).rdropWhile (· = dot))).all isHost = true :=
    fun chars => absurd (List.all_eq_true.mp chars colon lowered) (by decide)
  rw [normaliseHost]
  simp only [unopened, false_and, if_false, false_or, foreign, not_false_eq_true, if_true, Bool.false_eq_true]
  split
  · rfl
  · split <;> rfl

end Names

section Rules

variable {u : Unicode} {entry : PyStr} {rule : Rule}

/-- A rule that an entry makes, from its parts. -/
theorem parseRule_eq_some : parseRule u entry = .ok (some rule) ↔ strip entry ≠ [] ∧
    readEntryPort u (splitEntry (domain (strip entry))).2 = .ok (some rule.port) ∧
    normaliseHost u (splitEntry (domain (strip entry))).1 = some rule.name ∧
    rule.subdomains = decide ((strip entry).head? = some dot) := by
  rw [parseRule]
  by_cases blank : strip entry = []
  · simp [blank]
  simp only [ne_eq, blank, not_false_eq_true, true_and]
  rcases readEntryPort u (splitEntry (domain (strip entry))).2 with error | _ | port
  · exact iff_of_false (fun same => by cases same) fun found => by cases found.1
  · exact iff_of_false (fun same => by cases same) fun found => by cases found.1
  · show Except.ok ((normaliseHost u (splitEntry (domain (strip entry))).1).map _) = _ ↔ _
    rcases normaliseHost u (splitEntry (domain (strip entry))).1 with _ | name
    · exact iff_of_false (fun same => by cases same) fun found => by cases found.2.1
    · obtain ⟨own, own_port, subdomains⟩ := rule
      simp only [Option.map_some, Except.ok.injEq, Option.some.injEq, Rule.mk.injEq]
      tauto

theorem readPort_within {text : PyStr} {port : Nat} (read : readPort u text = .ok (some port)) : 1 ≤ port ∧ port ≤ 65535 := by
  rcases readPort_cases u text with ⟨other, -⟩ | ⟨other, -⟩ | ⟨port', other, -, -, within, -⟩
  · cases read.symm.trans other
  · cases read.symm.trans other
  · cases read.symm.trans other
    exact within

theorem readEntryPort_within {text : Option PyStr} {port : Nat} (read : readEntryPort u text = .ok (some port)) :
    1 ≤ port ∧ port ≤ 65535 := by
  cases text with
  | none =>
    cases read
    decide
  | some text => exact readPort_within read

/-- The part of an entry that is its name begins as the entry does. -/
theorem head_splitEntry {text : PyStr} (some_char : (splitEntry text).1 ≠ []) : (splitEntry text).1.head? = text.head? := by
  rw [splitEntry] at some_char ⊢
  rcases parted : rpartition colon text with _ | ⟨name, port⟩
  · rfl
  · rw [parted] at some_char
    obtain ⟨rfl, -⟩ := rpartition_eq_some.mp parted
    obtain ⟨first, rest, rfl⟩ := List.exists_cons_of_ne_nil some_char
    rfl

/-- What is stripped does not begin with a space. -/
theorem strip_head {text : PyStr} {first : PyChar} (begins : (strip text).head? = some first) :
    PyChar.is Issuebot.isSpace first = false := by
  have some_char : strip text ≠ [] := by
    intro none
    rw [none] at begins
    cases begins
  rw [strip, head_rdropWhile some_char] at begins
  have kept := List.head?_dropWhile_not (PyChar.is Issuebot.isSpace) text
  rw [begins] at kept
  exact kept

/-- How the name of a rule begins: with no space, and with a dot only where the entry began with two. -/
theorem head_name (parsed : parseRule u entry = .ok (some rule)) :
    ∃ first rest, rule.name = first :: rest ∧ PyChar.is Issuebot.isSpace first = false ∧ (rule.subdomains = false → first ≠ dot) := by
  obtain ⟨-, -, is_name, subdomains⟩ := parseRule_eq_some.mp parsed
  rcases normaliseHost_cases is_name with ⟨text, address, is_address, is_lower⟩ | ⟨plain, is_lower⟩
  · obtain ⟨first, rest, same, is_char⟩ := head_lower_address is_address
    obtain ⟨no_space, no_dot, -⟩ := address_char is_char
    exact ⟨.scalar first, rest, is_lower.trans same, no_space, fun _ same => no_dot (PyChar.scalar.inj same)⟩
  · obtain ⟨first, rest, is_cons⟩ := List.exists_cons_of_ne_nil plain.some_char
    have mem : first ∈ rule.name := by rw [is_cons]; exact List.mem_cons_self
    obtain ⟨c, rfl, is_char⟩ := isHost_spec (List.all_eq_true.mp plain.chars first mem)
    refine ⟨.scalar c, rest, is_cons, (isHostChar_spec is_char).2.2.1, fun no_subdomains is_dot => ?_⟩
    rw [no_subdomains] at subdomains
    have undotted : (strip entry).head? ≠ some dot := of_decide_eq_false subdomains.symm
    have whole : domain (strip entry) = strip entry := if_neg undotted
    rw [whole] at is_lower
    have part_ne : (splitEntry (strip entry)).1 ≠ [] := by
      intro none
      rw [none] at is_lower
      exact plain.some_char is_lower
    obtain ⟨head, begins⟩ : ∃ head, (strip entry).head? = some head := by
      rw [← head_splitEntry part_ne]
      obtain ⟨head, rest, is_cons⟩ := List.exists_cons_of_ne_nil part_ne
      exact ⟨head, by rw [is_cons]; rfl⟩
    have kept_ne : (strip (splitEntry (strip entry)).1).rdropWhile (· = dot) ≠ [] := by
      intro none
      rw [none] at is_lower
      exact plain.some_char is_lower
    have part_begins : ((strip (splitEntry (strip entry)).1).rdropWhile (· = dot)).head? ≠ some dot := by
      rw [head_rdropWhile kept_ne, head_strip ((head_splitEntry part_ne).trans begins) (strip_head begins), ← begins]
      exact undotted
    have lowered := @head_lowerFrom u [] _ part_begins
    rw [lower] at is_lower
    rw [← is_lower, is_cons, is_dot] at lowered
    exact lowered rfl

theorem isSpace_digit {c : Char} (digit : c.isDigit = true) : Issuebot.isSpace c = false := by
  have each : ∀ n < 58, 48 ≤ n → Issuebot.isSpace (Char.ofNat n) = false := by decide
  have within : 48 ≤ c.toNat ∧ c.toNat ≤ 57 := by simpa [Char.isDigit, UInt32.le_iff_toNat_le] using digit
  simpa using each c.toNat (Nat.lt_succ_of_le within.2) within.1

/-- A printed rule ends with a digit. -/
theorem last_print (rule : Rule) : ∃ last, rule.print.getLast? = some last ∧ PyChar.is Issuebot.isSpace last = false := by
  have some_digit : PyStr.ofText (Nat.toDigits 10 rule.port) ≠ [] := fun none => Nat.toDigits_ne_nil (List.map_eq_nil_iff.mp none)
  refine ⟨(PyStr.ofText (Nat.toDigits 10 rule.port)).getLast some_digit, ?_, ?_⟩
  · rw [Rule.print, List.getLast?_append_of_ne_nil _ (List.cons_ne_nil _ _), List.getLast?_cons,
      List.getLast?_eq_some_getLast some_digit]
    rfl
  · obtain ⟨c, mem, same⟩ := List.mem_map.mp (List.getLast_mem some_digit)
    rw [← same]
    exact isSpace_digit (Nat.isDigit_of_mem_toDigits (by decide) (by decide) mem)

/-- A printed rule splits into its name and its port. -/
theorem splitEntry_print (name : PyStr) {port : Nat} (within : 1 ≤ port ∧ port ≤ 65535) :
    splitEntry (name ++ colon :: PyStr.ofText (Nat.toDigits 10 port)) = (name, some (PyStr.ofText (Nat.toDigits 10 port))) := by
  have ascii : (Nat.toDigits 10 port).all Char.isDigit = true :=
    List.all_eq_true.mpr fun c mem => Nat.isDigit_of_mem_toDigits (by decide) (by decide) mem
  have is_port : IsPort (PyStr.ofText (Nat.toDigits 10 port)) port :=
    ⟨_, rfl, Nat.toDigits_ne_nil, ascii, Nat.ofDigitChars_toDigits (by decide) (by decide), within⟩
  rw [splitEntry, rpartition_eq_some.mpr ⟨rfl, colon_notMem_port is_port⟩]

/-- A printed rule, read again: its name is asked of `normalise_host` once more. -/
theorem parseRule_print (parsed : parseRule u entry = .ok (some rule)) :
    parseRule u rule.print = .ok ((normaliseHost u rule.name).map fun name => { rule with name }) := by
  obtain ⟨-, read, -, -⟩ := parseRule_eq_some.mp parsed
  have within := readEntryPort_within read
  obtain ⟨first, rest, is_cons, no_space, undotted⟩ := head_name parsed
  obtain ⟨last, ends, last_kept⟩ := last_print rule
  obtain ⟨name, port, subdomains⟩ := rule
  simp only at is_cons undotted within
  subst is_cons
  have parts := splitEntry_print (first :: rest) within
  have port_read := @readPort_digits u port within
  cases subdomains with
  | true =>
    have stripped := strip_eq_self (show (Rule.print ⟨first :: rest, port, true⟩).head? = some dot from rfl) ends (by decide) last_kept
    have whole : domain (Rule.print ⟨first :: rest, port, true⟩) = first :: rest ++ colon :: PyStr.ofText (Nat.toDigits 10 port) := rfl
    rw [parseRule, stripped]
    simp only [whole, parts, readEntryPort, port_read]
    rfl
  | false =>
    have begins : (Rule.print ⟨first :: rest, port, false⟩).head? = some first := rfl
    have stripped := strip_eq_self begins ends no_space last_kept
    have whole : domain (Rule.print ⟨first :: rest, port, false⟩) = first :: rest ++ colon :: PyStr.ofText (Nat.toDigits 10 port) :=
      if_neg fun same => undotted rfl (Option.some.inj same)
    have no_subdomains : ¬ (Rule.print ⟨first :: rest, port, false⟩).head? = some dot := fun same => undotted rfl (Option.some.inj same)
    rw [parseRule, stripped]
    simp only [whole, parts, readEntryPort, port_read, no_subdomains, decide_false]
    rfl

/-- The port of an entry that has one can be read. -/
def EntryReads (u : Unicode) (entry : PyStr) : Prop :=
  strip entry ≠ [] → ∀ port, (splitEntry (domain (strip entry))).2 = some port → isDigits u port = true → (int u port).isSome = true

/-- And where its name is a literal with a colon, the port is refused. -/
structure EntryFits (u : Unicode) (entry : PyStr) : Prop where
  reads : EntryReads u entry
  plain : strip entry ≠ [] → ∀ host, normaliseHost u (splitEntry (domain (strip entry))).1 = some host → colon ∈ host →
    readEntryPort u (splitEntry (domain (strip entry))).2 = .ok none

theorem readEntryPort_returns_iff (u : Unicode) (text : Option PyStr) :
    (∃ port, readEntryPort u text = .ok port) ↔ ∀ port, text = some port → isDigits u port = true → (int u port).isSome = true := by
  cases text with
  | none => exact iff_of_true ⟨_, rfl⟩ fun port same => by cases same
  | some text =>
    rw [readEntryPort]
    rcases readPort_cases u text with ⟨read, -, outside⟩ | ⟨read, digits, raises⟩ | ⟨port, read, -, is_int, -⟩
    · refine iff_of_true ⟨_, read⟩ fun other same digits => ?_
      cases same
      obtain ⟨port, is_int, -⟩ := outside digits
      rw [is_int]
      rfl
    · refine iff_of_false ?_ fun reads => ?_
      · rintro ⟨port, same⟩
        cases read.symm.trans same
      · have is_some := reads text rfl digits
        rw [raises] at is_some
        cases is_some
    · refine iff_of_true ⟨_, read⟩ fun other same digits => ?_
      cases same
      rw [is_int]
      rfl

/-- An entry is read where its port is. -/
theorem parseRule_returns_iff (u : Unicode) (entry : PyStr) : (∃ parsed, parseRule u entry = .ok parsed) ↔ EntryReads u entry := by
  rw [parseRule, EntryReads]
  by_cases blank : strip entry = []
  · exact iff_of_true ⟨none, if_pos blank⟩ fun some_char => absurd blank some_char
  simp only [ne_eq, blank, not_false_eq_true, true_implies]
  rw [← readEntryPort_returns_iff]
  rcases readEntryPort u (splitEntry (domain (strip entry))).2 with error | _ | port
  · refine iff_of_false ?_ ?_
    · rintro ⟨parsed, same⟩
      cases same
    · rintro ⟨parsed, same⟩
      cases same
  · exact iff_of_true ⟨none, rfl⟩ ⟨none, rfl⟩
  · exact iff_of_true ⟨_, rfl⟩ ⟨_, rfl⟩

/-- An entry is read, and its rule printed and read again as itself, where it fits. -/
theorem parseRule_iff (u : Unicode) (entry : PyStr) :
    (∃ parsed, parseRule u entry = .ok parsed ∧ ∀ rule, parsed = some rule → parseRule u rule.print = .ok (some rule)) ↔
      EntryFits u entry := by
  constructor
  · rintro ⟨parsed, is_parsed, again⟩
    have reads := (parseRule_returns_iff u entry).mp ⟨parsed, is_parsed⟩
    refine ⟨reads, fun some_char host is_name mem => ?_⟩
    obtain ⟨port, read⟩ := (readEntryPort_returns_iff u _).mpr (reads some_char)
    cases port with
    | none => exact read
    | some port =>
      have made : parseRule u entry = .ok (some ⟨host, port, decide ((strip entry).head? = some dot)⟩) :=
        parseRule_eq_some.mpr ⟨some_char, read, is_name, rfl⟩
      have printed := again _ (Except.ok.inj (is_parsed.symm.trans made))
      rw [parseRule_print made, normaliseHost_colon is_name mem] at printed
      cases printed
  · rintro ⟨reads, plain⟩
    obtain ⟨parsed, is_parsed⟩ := (parseRule_returns_iff u entry).mpr reads
    refine ⟨parsed, is_parsed, ?_⟩
    rintro rule rfl
    obtain ⟨some_char, read, is_name, -⟩ := parseRule_eq_some.mp is_parsed
    have absent : colon ∉ rule.name := fun mem => by cases read.symm.trans (plain some_char rule.name is_name mem)
    rw [parseRule_print is_parsed, normaliseHost_plain (isPlain_of_colon is_name absent)]
    rfl

/-- The allow-list is read where each entry is; its rules are those that the entries make. -/
theorem parseAllow_ok {entries complaints complaints' : List PyStr} {rules rules' : List Rule}
    (read : parseAllow u entries rules complaints = .ok (rules', complaints')) :
    ∀ rule, rule ∈ rules' ↔ rule ∈ rules ∨ ∃ entry ∈ entries, parseRule u entry = .ok (some rule) := by
  induction entries generalizing rules complaints with
  | nil =>
    obtain ⟨rfl, -⟩ := Prod.mk.inj (Except.ok.inj read)
    simp
  | cons entry rest ih =>
    intro rule
    rw [parseAllow] at read
    rcases made : parseRule u entry with error | _ | own
    · rw [made] at read
      cases read
    · rw [made] at read
      rw [ih read rule]
      simp [made]
    · rw [made] at read
      rw [ih read rule]
      have kept : rule ∈ (if own ∈ rules then rules else rules ++ [own]) ↔ rule ∈ rules ∨ own = rule := by
        split
        next mem =>
          refine ⟨.inl, fun either => either.elim id ?_⟩
          rintro rfl
          exact mem
        next => simp [eq_comm]
      rw [kept, or_assoc]
      simp [made]

theorem parseAllow_returns_iff {entries complaints : List PyStr} {rules : List Rule} :
    (∃ out, parseAllow u entries rules complaints = .ok out) ↔ ∀ entry ∈ entries, EntryReads u entry := by
  induction entries generalizing rules complaints with
  | nil => exact iff_of_true ⟨_, rfl⟩ fun entry mem => by cases mem
  | cons entry rest ih =>
    rw [List.forall_mem_cons, ← parseRule_returns_iff, parseAllow]
    rcases parseRule u entry with error | _ | own
    · refine iff_of_false ?_ ?_
      · rintro ⟨out, same⟩
        cases same
      · rintro ⟨⟨parsed, same⟩, -⟩
        cases same
    · exact ih.trans (and_iff_right ⟨_, rfl⟩).symm
    · exact ih.trans (and_iff_right ⟨_, rfl⟩).symm

/-- A rule names a host, or with a leading dot a domain that the host ends with at a label boundary. -/
theorem admits_iff {host : PyStr} {port : Nat} : rule.admits host port = true ↔
    rule.port = port ∧ (host = rule.name ∨ rule.subdomains = true ∧ ∃ front, host = front ++ dot :: rule.name) := by
  rw [Rule.admits]
  by_cases same_port : port = rule.port
  · rw [if_neg (not_not.mpr same_port), and_iff_right same_port.symm]
    by_cases same_name : host = rule.name
    · simp [same_name]
    · rw [if_neg same_name, or_iff_right same_name, Bool.and_eq_true, List.isSuffixOf_iff_suffix]
      exact and_congr_right fun _ => exists_congr fun _ => eq_comm
  · rw [if_pos same_port]
    exact iff_of_false Bool.false_ne_true fun admitted => same_port admitted.1.symm

/-- The grammar, where the readers meet it. A target is read as the grammar says where its port is written
in ASCII, and an entry's rule prints as itself where its name has no colon; the allow-list is read where
its entries are, and it admits what they name. -/
theorem grammar_iff (u : Unicode) :
    (∀ target, (∃ parsed, parseConnectTarget u target = .ok parsed ∧ ∀ found, parsed = some found ↔ IsTarget u (strip target) found) ↔
      TargetFits u target) ∧
    (∀ entry, (∃ parsed, parseRule u entry = .ok parsed ∧ ∀ rule, parsed = some rule → parseRule u rule.print = .ok (some rule)) ↔
      EntryFits u entry) ∧
    (∀ entries, (∃ out, parseAllow u entries [] [] = .ok out) ↔ ∀ entry ∈ entries, EntryReads u entry) ∧
    ∀ entries rules complaints host port, parseAllow u entries [] [] = .ok (rules, complaints) →
      (allowed host port rules = true ↔ ∃ entry ∈ entries, ∃ rule, parseRule u entry = .ok (some rule) ∧ rule.port = port ∧
        (host = rule.name ∨ (strip entry).head? = some dot ∧ ∃ front, host = front ++ dot :: rule.name)) := by
  refine ⟨parseConnectTarget_iff u, parseRule_iff u, fun entries => parseAllow_returns_iff, ?_⟩
  intro entries rules complaints host port read
  rw [allowed, List.any_eq_true]
  have leading {entry : PyStr} {rule : Rule} (made : parseRule u entry = .ok (some rule)) :
      rule.subdomains = true ↔ (strip entry).head? = some dot := by
    rw [(parseRule_eq_some.mp made).2.2.2, decide_eq_true_iff]
  constructor
  · rintro ⟨rule, mem, admitted⟩
    obtain ⟨entry, is_entry, made⟩ := ((parseAllow_ok read rule).mp mem).resolve_left List.not_mem_nil
    obtain ⟨same_port, named⟩ := admits_iff.mp admitted
    exact ⟨entry, is_entry, rule, made, same_port, named.imp_right fun within => ⟨(leading made).mp within.1, within.2⟩⟩
  · rintro ⟨entry, is_entry, rule, made, same_port, named⟩
    refine ⟨rule, (parseAllow_ok read rule).mpr (.inr ⟨entry, is_entry, made⟩), admits_iff.mpr ⟨same_port, ?_⟩⟩
    exact named.imp_right fun within => ⟨(leading made).mpr within.1, within.2⟩

end Rules

section Latin1

theorem latin1_beyond {c : Char} (beyond : 128 ≤ c.toNat) : PyChar.scalar (Egress.lower c) ≠ dot := by
  intro same
  have lowered : Egress.lower c = '.' := PyChar.scalar.inj same
  rw [Egress.lower] at lowered
  split at lowered
  next within =>
    have each : ∀ k < 31, Char.ofNat (k + 0xe0) ≠ '.' := by decide
    have code : c.toNat + 32 = (c.toNat - 0xc0) + 0xe0 := by omega
    rw [code] at lowered
    exact each (c.toNat - 0xc0) (by omega) lowered
  next =>
    rw [Char.toLower] at lowered
    split at lowered
    next upper =>
      have small : c.toNat ≤ 90 := by simpa [UInt32.le_iff_toNat_le] using upper.2
      omega
    next =>
      subst lowered
      exact absurd beyond (by decide)

/-- What Python knows of Latin-1, and of one address. -/
def latin1 : Unicode where
  isDigit := Egress.isDigit
  decimal c := if c.isDigit then some (c.toNat - '0'.toNat) else none
  lowerAt _ c _ := [.scalar (Egress.lower c)]
  compressed text := if text = PyStr.ofString "::1" then some (PyStr.ofString "::1") else none
  digit_ascii c digit := ⟨by rw [Egress.isDigit, digit]; rfl, if_pos digit⟩
  lower_ascii _ c _ ascii := by
    rw [Egress.lower, if_neg]
    omega
  lower_beyond _ c _ beyond := ⟨List.cons_ne_nil _ _, fun mem => latin1_beyond beyond (List.mem_singleton.mp mem).symm⟩
  compressed_plain text address same absent := by
    split at same
    · cases same
      exact absurd (by decide) absent
    · cases same
  compressed_head text address same := by
    split at same
    · cases same
      exact ⟨':', PyStr.ofString ":1", rfl, by decide⟩
    · cases same

/-- A superscript is no port and raises, and the rule of an address does not print as itself. -/
theorem grammar_fails :
    (¬ ∃ parsed, parseConnectTarget latin1 (PyStr.ofString "example.com:²") = .ok parsed) ∧
    (¬ ∃ parsed, parseRule latin1 (PyStr.ofString "example.com:²") = .ok parsed) ∧
    ∃ rule, parseRule latin1 (PyStr.ofString "[::1]:443") = .ok (some rule) ∧ parseRule latin1 rule.print ≠ .ok (some rule) := by
  refine ⟨?_, ?_, ⟨PyStr.ofString "::1", 443, false⟩, ?_, ?_⟩
  · have raises : parseConnectTarget latin1 (PyStr.ofString "example.com:²") = .error () := by decide +kernel
    rintro ⟨parsed, same⟩
    cases raises.symm.trans same
  · have raises : parseRule latin1 (PyStr.ofString "example.com:²") = .error () := by decide +kernel
    rintro ⟨parsed, same⟩
    cases raises.symm.trans same
  · decide +kernel
  · decide +kernel

end Latin1

end Grammar

end Issuebot.Egress
