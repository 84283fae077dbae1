/-
**Values of open form.**

Rows, lookup answers, registry answers and token providers hold values whose form nobody fixes in
advance. A value is empty, a truth value, a number, a text, a path, a list or an object whose
fields keep their order.

* `truthy`: which values count as given;
* `toText`, `written`: a value as text, and as it is written inside another value;
* `same`: equality, under which a truth value, an integer and a number may be equal.
-/

import FleetSchema.Number.Double
import FleetSchema.Text.Quoted

namespace FleetSchema

/-- A value of open form. -/
inductive Value where
  | null
  | bool (value : Bool)
  | int (value : Int)
  | float (value : Double)
  | text (value : String)
  | path (value : String)
  | list (items : List Value)
  | object (fields : List (String × Value))
  deriving Repr, Inhabited

namespace Value

/-- Whether a value counts as given: the empty value, falsehood, zero, and empty texts, lists and
objects do not. -/
def truthy : Value → Bool
  | .null => false
  | .bool value => value
  | .int value => value != 0
  | .float value => !value.same (Double.zero false)
  | .text value => !value.isEmpty
  | .path _ => true
  | .list items => !items.isEmpty
  | .object fields => !fields.isEmpty

/-! ### Text -/

/-- The word of a truth value. -/
def boolText (value : Bool) : String := if value then "True" else "False"

mutual

/-- A value as it is written inside another value. -/
def written : Value → String
  | .null => "None"
  | .bool value => boolText value
  | .int value => toString value
  | .float value => value.toText
  | .text value => Text.quote value
  | .path value => "PosixPath(" ++ Text.quote value ++ ")"
  | .list items => "[" ++ ", ".intercalate (writtenItems items) ++ "]"
  | .object fields => "\x7b" ++ ", ".intercalate (writtenFields fields) ++ "\x7d"

/-- The items of a list, each as it is written inside a value. -/
def writtenItems : List Value → List String
  | [] => []
  | item :: rest => written item :: writtenItems rest

/-- The fields of an object, each with its name. -/
def writtenFields : List (String × Value) → List String
  | [] => []
  | (name, value) :: rest => (Text.quote name ++ ": " ++ written value) :: writtenFields rest

end

/-- A value as text: a text and a path stand for themselves. -/
def toText : Value → String
  | .text value => value
  | .path value => value
  | value => written value

/-! ### Equality -/

/-- The integer that a value counts as, exactly. -/
def integer? : Value → Option Int
  | .bool value => some (if value then 1 else 0)
  | .int value => some value
  | .float value => value.toInt?
  | _ => none

mutual

/-- Equality of values: numbers by their value, lists item by item, objects field by field in any
order. -/
def same (first second : Value) : Bool :=
  match first, second with
  | .null, .null => true
  | .text first, .text second => first == second
  | .path first, .path second => first == second
  | .list first, .list second => sameItems first second
  | .object first, .object second =>
    first.length == second.length && sameFields first second
  | .float first, .float second => first.same second
  | first, second =>
    match first.integer?, second.integer? with
    | some first, some second => first == second
    | _, _ => false

/-- Equality of lists. -/
def sameItems : List Value → List Value → Bool
  | [], [] => true
  | first :: rest, second :: others => same first second && sameItems rest others
  | _, _ => false

/-- Whether every field of the first list is matched by a field of the second. -/
def sameFields : List (String × Value) → List (String × Value) → Bool
  | [], _ => true
  | (name, value) :: rest, others =>
    (match others.find? (·.1 == name) with
      | some (_, other) => same value other
      | none => false) && sameFields rest others

end

/-- Whether a value may serve as a key: lists and objects may not. -/
def isKey : Value → Bool
  | .list _ | .object _ => false
  | _ => true

/-! ### Objects -/

/-- The field of an object, or the empty value. -/
def field (fields : List (String × Value)) (name : String) : Value :=
  ((fields.find? (·.1 == name)).map (·.2)).getD .null

/-- The characters of a text, as values. -/
def characters (text : String) : List Value := text.toList.map fun letter => .text letter.toString

/-- What a value runs through: the items of a list, the field names of an object, the characters
of a text. Other values run through nothing. -/
def items? : Value → Option (List Value)
  | .list items => some items
  | .object fields => some (fields.map fun entry => .text entry.1)
  | .text value => some (characters value)
  | _ => none

/-- The name of a value's form, as faults put it. -/
def formName : Value → String
  | .null => "NoneType"
  | .bool _ => "bool"
  | .int _ => "int"
  | .float _ => "float"
  | .text _ => "str"
  | .path _ => "PosixPath"
  | .list _ => "list"
  | .object _ => "dict"

end Value

end FleetSchema
