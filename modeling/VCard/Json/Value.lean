import VCard.Number.Shortest
import VCard.Text.Literal
/-! JSON values, and their literal text.

jCard carries contact data as JSON. A value is `null`, a boolean, an integer of
any size, a double, a string, an array or an object; an object keeps its members
in order.

Messages about a JSON value quote it in literal notation (`literal`): strings as
quoted text literals, `None`, `True` and `False`, doubles in their shortest
text, arrays as `[a, b]` and objects as `{'k': v}`. The plain text of a value
(`plain`) is the string itself for a string and the literal otherwise. -/
namespace VCard.Json

/-- A JSON value. -/
inductive Value where
  | null
  | bool (b : Bool)
  | int (n : Int)
  | float (x : Float)
  | str (s : String)
  | arr (items : List Value)
  | obj (fields : List (String × Value))
  deriving Inhabited

namespace Value

mutual
/-- The literal notation of a value. -/
def literal : Value → String
  | null => "None"
  | bool true => "True"
  | bool false => "False"
  | int n => toString n
  | float x => Number.floatText x
  | str s => Text.quote s
  | arr items => "[" ++ ", ".intercalate (literalItems items) ++ "]"
  | obj fields => "\x7b" ++ ", ".intercalate (literalFields fields) ++ "\x7d"

/-- The literals of array items. -/
def literalItems : List Value → List String
  | [] => []
  | v :: rest => literal v :: literalItems rest

/-- The literals of object members, `'key': value`. -/
def literalFields : List (String × Value) → List String
  | [] => []
  | (k, v) :: rest => (Text.quote k ++ ": " ++ literal v) :: literalFields rest
end

/-- The plain text of a value: a string is itself, anything else its literal. -/
def plain : Value → String
  | str s => s
  | v => literal v

/-- The member of an object with the given key: the last one, as later members
replace earlier ones. -/
def field? (v : Value) (key : String) : Option Value :=
  match v with
  | obj fields => (fields.reverse.find? (·.1 == key)).map (·.2)
  | _ => none

theorem plain_str (s : String) : plain (str s) = s := rfl

end Value

end VCard.Json
