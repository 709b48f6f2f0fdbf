import Mathlib.Data.Rat.Defs
import Issuebot.Python

/-!
# JSON as Python reads it

A response is whatever `json.loads` answered. The readers ask four things of a value: a
key of a mapping, whether it is true, what iterating it gives, and whether it is a string.
-/

namespace Issuebot
set_option autoImplicit false

/-- A value of `json.loads`. `num` is a finite float, `nonfinite` the floats `NaN` and the two
infinities, which Python's decoder accepts. -/
inductive Json where
  | null
  | bool (value : Bool)
  | int (value : Int)
  | num (value : Rat)
  | nonfinite
  | str (value : String)
  | arr (elements : List Json)
  | obj (fields : List (String × Json))

namespace Json

/-- `isinstance(value, Mapping)` -/
def isMapping : Json → Bool
  | obj _ => true
  | _ => false

/-- `mapping.get(key)`; nothing else has keys. -/
def get (key : String) : Json → Json
  | obj fields => (fields.lookup key).getD null
  | _ => null

/-- `_dig`: `null` as soon as a value on the way is no mapping. -/
def dig (value : Json) (keys : List String) : Json :=
  keys.foldl (fun node key => node.get key) value

/-- Python's truth of a value. -/
def truthy : Json → Bool
  | null => false
  | bool value => value
  | int value => value ≠ 0
  | num value => value ≠ 0
  | nonfinite => true
  | str value => value ≠ ""
  | arr elements => !elements.isEmpty
  | obj fields => !fields.isEmpty

/-- What `for node in value or []` goes through; `none` is the `TypeError` of a value that
cannot be iterated. -/
def iterate (value : Json) : Option (List Json) :=
  if !value.truthy then some []
  else match value with
    | arr elements => some elements
    | obj fields => some (fields.map fun field => str field.1)
    | str text => some (text.toList.map fun c => str (String.singleton c))
    | _ => none

/-- `value if isinstance(value, str) and value else None` -/
def text : Json → Option String
  | str value => if value ≠ "" then some value else none
  | _ => none

/-- `isinstance(value, int) and not isinstance(value, bool)` -/
def int? : Json → Option Int
  | int value => some value
  | _ => none

/-- `isinstance(value, str)` -/
def isStr : Json → Bool
  | str _ => true
  | _ => false

/-- `_nodes` -/
def nodes (connection : Json) : List Json :=
  match connection.get "nodes" with
  | arr elements => elements
  | _ => []

/-- `value == expected` for a string `expected` -/
def isText (value : Json) (expected : String) : Bool :=
  match value with
  | str found => found == expected
  | _ => false

/-- `optional_timestamp` -/
def timestamp (py : Py) : Json → Option Datetime
  | str value => py.fromisoformat value
  | _ => none

end Json
end Issuebot
