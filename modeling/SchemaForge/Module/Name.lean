import SchemaForge.Text.LetterCase

/-!
# Names in generated modules

A module is named after its type in snake case. Words are told apart in two
passes: the first cuts before the last capital of a run of capitals that a small
letter follows, the second before a capital that follows a small letter or digit.

A name that the generated language reserves gets an underscore behind it wherever
it is used as an identifier.
-/

namespace SchemaForge.ModuleName

/-- Cuts before a capital that follows a capital and precedes a small letter. The
code point before the rest is given. -/
def cutAcronyms (before : Option CodePoint) : Text → Text
  | [] => []
  | [c] => [c]
  | c :: d :: rest =>
    let cut := (before.any CodePoint.isUpper) && c.isUpper && d.isLower
    if cut then CodePoint.ofChar '_' :: c :: cutAcronyms (some c) (d :: rest)
    else c :: cutAcronyms (some c) (d :: rest)

/-- Cuts before a capital that follows a small letter or a digit. The code point
before the rest is given. -/
def cutWords (before : Option CodePoint) : Text → Text
  | [] => []
  | c :: rest =>
    let cut := (before.any (fun b => b.isLower || b.isDigit)) && c.isUpper
    if cut then CodePoint.ofChar '_' :: c :: cutWords (some c) rest
    else c :: cutWords (some c) rest

/-- A name in snake case. -/
def snake (name : Text) : Text :=
  Text.lower (cutWords none (cutAcronyms none name))

/-- The words that the generated language reserves everywhere. -/
def keywords : List Text :=
  List.map Text.ofString [
    "False", "None", "True", "and", "as", "assert", "async", "await", "break", "class",
    "continue", "def", "del", "elif", "else", "except", "finally", "for", "from", "global", "if",
    "import", "in", "is", "lambda", "nonlocal", "not", "or", "pass", "raise", "return", "try",
    "while", "with", "yield"]

/-- A name as an identifier: a reserved word gets an underscore behind it. -/
def identifier (name : Text) : Text :=
  if keywords.contains name then name ++ "_" else name

/-- The name of the module of a type. -/
def ofType (typeName : Text) : Text := identifier (snake typeName)

/-- The class that looks a type up in batches. -/
def batchResolver (typeName : Text) : Text := typeName ++ "Resolver"

/-- The class that computes one field of a type: the field is joined to the type
with its first letter as a capital. -/
def fieldResolver (typeName fieldName : Text) : Text :=
  Text.concat [typeName, Text.upper (fieldName.take 1), fieldName.drop 1, "Resolver"]

end SchemaForge.ModuleName
