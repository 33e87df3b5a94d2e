import SchemaForge.Schema.Definition
import SchemaForge.Text.Quoted

/-!
# Literals

The literal of a constant value in generated code. Strings and enum symbols are
quoted, numbers keep their source spelling, lists and objects become displays of
the same shape. A literal stays on one line, because quoting escapes every line
end.
-/

namespace SchemaForge

mutual

/-- The literal of a value. -/
def Value.literal : Value → Text
  | .string value _ _ => Text.quoted value
  | .int digits _ => digits
  | .float digits _ => digits
  | .boolean value _ => if value then "True" else "False"
  | .null _ => "None"
  | .enum symbol _ => Text.quoted symbol
  | .list values _ => Text.concat ["[", Text.join ", " (Value.literals values), "]"]
  | .object fields _ => Text.concat ["\x7b", Text.join ", " (ObjectField.literals fields), "\x7d"]

/-- The literals of the values of a list. -/
def Value.literals : List Value → List Text
  | [] => []
  | value :: values => value.literal :: Value.literals values

/-- The literals of the fields of an object, each a quoted name and a value. -/
def ObjectField.literals : List ObjectField → List Text
  | [] => []
  | field :: fields => ObjectField.literal field :: ObjectField.literals fields

/-- The literal of one field of an object. -/
def ObjectField.literal : ObjectField → Text
  | .mk name value _ => Text.concat [Text.quoted name, ": ", value.literal]

end

/-- A list or an object must not be shared between instances as a default. -/
def Value.isMutable : Value → Bool
  | list .. | object .. => true
  | _ => false

end SchemaForge
