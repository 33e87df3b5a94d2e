import SchemaForge.Schema.Cursor
import SchemaForge.Schema.Definition

/-!
# Productions of the schema language

One production for each construct of the language:

* `schema` directives and at least one `operation: Type` in braces;
* `scalar` name and directives;
* `type` and `interface`: name, implemented interfaces, directives, fields;
* `union` name, directives and members;
* `enum` name, directives and values;
* `input` name, directives and fields;
* `directive @name`, arguments, `repeatable`, and the locations after `on`.

A description may stand before a definition, a field, an input value and an enum
value. Argument lists are never empty; braces may be. Constant values have no
variables. Extensions and executable definitions are rejected by name.
-/

namespace SchemaForge.Grammar

open Production

/-- The string before a definition or a member, if there is one. -/
def description : Production (Option Text) := do
  let token ← peek
  if token.isString then
    let _ ← advance
    pure (some token.value)
  else pure none

/-- A type mentioned by its name. -/
def namedType : Production NamedType := do
  let token ← expectName .type
  pure ⟨token.value, ← spanFrom token⟩

/-- An exclamation mark behind a type forbids null. -/
def nullability (first : Token) (type : TypeReference) : Production TypeReference := do
  if ← accept .bang then pure (.nonNull type (← spanFrom first)) else pure type

/-- A name or a bracketed type, with or without an exclamation mark. -/
def typeReference (cursor : Cursor) : Outcome TypeReference :=
  match ahead : cursor.rest with
  | token :: _ =>
    if token.kind = .leftBracket then
      have : cursor.advance.rest.length < cursor.rest.length := by simp [Cursor.advance, ahead]
      match typeReference cursor.advance with
      | .rejected error stopped => .rejected error stopped
      | .accepted element moved =>
        (do
          let _ ← expect .rightBracket .unclosedListType
          nullability token (.list element (← spanFrom token)) : Production TypeReference) moved
    else
      (do nullability token (.named (← namedType)) : Production TypeReference) cursor
  | [] => (do pure (.named (← namedType)) : Production TypeReference) cursor
termination_by cursor.rest.length

/-- A field of an object value. Its value is read on fewer tokens than the field. -/
def objectField (cursor : Cursor)
    (value : (inner : Cursor) → inner.rest.length < cursor.rest.length → Outcome Value) :
    Outcome ObjectField :=
  (do
    let name ← expectName .objectField
    let _ ← expect .colon (.expectedColonAfter name.value)
    let given ← fun inner =>
      if fewer : inner.rest.length < cursor.rest.length then value inner fewer
      else reject .expectedValue inner
    pure (.mk name.value given (← spanFrom name)) : Production ObjectField) cursor

/-- A constant value. Lists and objects may be empty. -/
def constant (cursor : Cursor) : Outcome Value :=
  match ahead : cursor.rest with
  | [] => reject .expectedValue cursor
  | token :: _ =>
    have fewer : cursor.advance.rest.length < cursor.rest.length := by
      simp [Cursor.advance, ahead]
    let leaf := cursor.advance.spanFrom token
    match token.kind with
    | .string => .accepted (.string token.value leaf false) cursor.advance
    | .blockString => .accepted (.string token.value leaf true) cursor.advance
    | .int => .accepted (.int token.value leaf) cursor.advance
    | .float => .accepted (.float token.value leaf) cursor.advance
    | .name =>
      if token.value = ("true" : Text) then .accepted (.boolean true leaf) cursor.advance
      else if token.value = ("false" : Text) then .accepted (.boolean false leaf) cursor.advance
      else if token.value = ("null" : Text) then .accepted (.null leaf) cursor.advance
      else .accepted (.enum token.value leaf) cursor.advance
    | .leftBracket =>
      match collect (fun token => decide (token.kind ≠ .rightBracket)) cursor.rest.length
          (fun inner _ => constant inner) cursor.advance fewer with
      | .rejected error stopped => .rejected error stopped
      | .accepted values last =>
        .accepted (.list values (last.advance.spanFrom token)) last.advance
    | .leftBrace =>
      match collect (fun token => decide (token.kind ≠ .rightBrace)) cursor.rest.length
          (fun field _ => objectField field (fun inner _ => constant inner))
          cursor.advance fewer with
      | .rejected error stopped => .rejected error stopped
      | .accepted fields last =>
        .accepted (.object fields (last.advance.spanFrom token)) last.advance
    | .dollar => reject .variableInConstant cursor
    | _ => reject .expectedValue cursor
termination_by cursor.rest.length

/-- An argument of an applied directive. -/
def argument : Production Argument := do
  let name ← expectName .argument
  let _ ← expect .colon (.expectedArgumentColon name.value)
  let value ← constant
  pure ⟨name.value, value, ← spanFrom name⟩

/-- The arguments of an applied directive. Parentheses must hold at least one. -/
def arguments : Production (List Argument) := do
  if ← accept .leftParen then
    let given ← manyUntil .rightParen argument
    if given.isEmpty then reject .emptyDirectiveArguments else pure given
  else pure []

/-- One applied directive. -/
def directive : Production Directive := do
  let sign ← advance
  let name ← expectName .directive
  let given ← arguments
  pure ⟨name.value, given, ← spanFrom sign⟩

/-- The applied directives. -/
def directives : Production (List Directive) :=
  many (fun token => decide (token.kind = TokenKind.at)) directive

/-- The default value of an input value. -/
def defaultValue : Production (Option Value) := do
  if ← accept .equals then
    let value ← constant
    pure (some value)
  else pure none

/-- An argument that is declared, or a field of an input type. -/
def inputValue : Production InputValue := do
  let first ← peek
  let described ← description
  let name ← expectName .argument
  let _ ← expect .colon (.expectedColonAfter name.value)
  let type ← typeReference
  let default ← defaultValue
  let applied ← directives
  pure ⟨name.value, type, default, applied, described, ← spanFrom first⟩

/-- The arguments that a field or a directive declares. Parentheses must hold at
least one. -/
def argumentDeclarations : Production (List InputValue) := do
  if ← accept .leftParen then
    let declared ← manyUntil .rightParen inputValue
    if declared.isEmpty then reject .emptyArguments else pure declared
  else pure []

/-- A field of an object or interface type. -/
def field : Production Field := do
  let first ← peek
  let described ← description
  let name ← expectName .field
  let declared ← argumentDeclarations
  let _ ← expect .colon (.expectedFieldColon name.value)
  let type ← typeReference
  let applied ← directives
  pure ⟨name.value, declared, type, applied, described, ← spanFrom first⟩

/-- The members in braces, and none if there are no braces. -/
def braced {α : Type} (member : Production α) : Production (List α) := do
  if ← accept .leftBrace then manyUntil .rightBrace member else pure []

/-- The interfaces that a type implements. -/
def interfaces : Production (List NamedType) := do
  let token ← peek
  if token.isNameIn ["implements"] then
    let _ ← advance
    separated .amp namedType
  else pure []

/-- An object or interface type, behind its keyword. -/
def fieldedType (role : NameRole) (first : Token) (described : Option Text) :
    Production FieldedType := do
  let _ ← advance
  let name ← expectName role
  let implemented ← interfaces
  let applied ← directives
  let fields ← braced field
  pure ⟨name.value, implemented, fields, applied, described, ← spanFrom first⟩

/-- The root type of one operation. -/
def operationType : Production OperationType := do
  let operation ← peek
  if operation.isNameIn ["query", "mutation", "subscription"] then
    let _ ← advance
    let _ ← expect .colon .expectedOperationColon
    let type ← namedType
    pure ⟨operation.value, type, ← spanFrom operation⟩
  else reject .expectedOperation

/-- A schema block. -/
def schemaBlock (first : Token) (described : Option Text) : Production SchemaBlock := do
  let _ ← advance
  let applied ← directives
  let _ ← expect .leftBrace .expectedSchemaBody
  let operations ← manyUntil .rightBrace operationType
  if operations.isEmpty then reject .emptySchema
  else pure ⟨operations, applied, described, ← spanFrom first⟩

/-- A scalar type. -/
def scalarType (first : Token) (described : Option Text) : Production ScalarType := do
  let _ ← advance
  let name ← expectName .scalar
  let applied ← directives
  pure ⟨name.value, applied, described, ← spanFrom first⟩

/-- The members of a union. -/
def unionMembers : Production (List NamedType) := do
  if ← accept .equals then separated .pipe namedType else pure []

/-- A union of types. -/
def unionType (first : Token) (described : Option Text) : Production UnionType := do
  let _ ← advance
  let name ← expectName .union
  let applied ← directives
  let members ← unionMembers
  pure ⟨name.value, members, applied, described, ← spanFrom first⟩

/-- The names that no enum value may have, because they are values of other kinds. -/
def reservedEnumValues : List Text := ["true", "false", "null"]

/-- A value of an enumeration. A reserved name is reported at itself, behind which
the cursor stops. -/
def enumMember : Production EnumMember := do
  let first ← peek
  let described ← description
  let name ← expectName .enumValue
  if reservedEnumValues.contains name.value then
    fun cursor => .rejected ⟨.reservedEnumValue, name⟩ cursor
  else
    let applied ← directives
    pure ⟨name.value, applied, described, ← spanFrom first⟩

/-- An enumeration. -/
def enumType (first : Token) (described : Option Text) : Production EnumType := do
  let _ ← advance
  let name ← expectName .enum
  let applied ← directives
  let values ← braced enumMember
  pure ⟨name.value, values, applied, described, ← spanFrom first⟩

/-- An input type. -/
def inputType (first : Token) (described : Option Text) : Production InputType := do
  let _ ← advance
  let name ← expectName .input
  let applied ← directives
  let fields ← braced inputValue
  pure ⟨name.value, fields, applied, described, ← spanFrom first⟩

/-- The word that allows a directive more than once. -/
def repeatability : Production Bool := do
  let token ← peek
  if token.isNameIn ["repeatable"] then
    let _ ← advance
    pure true
  else pure false

/-- The word before the locations of a directive. -/
def onKeyword : Production Token := do
  let token ← peek
  if token.isNameIn ["on"] then advance else reject .expectedOn

/-- The declaration of a directive. -/
def directiveDeclaration (first : Token) (described : Option Text) :
    Production DirectiveDeclaration := do
  let _ ← advance
  let _ ← expect TokenKind.at .expectedDirectiveSign
  let name ← expectName .directive
  let declared ← argumentDeclarations
  let repeatable ← repeatability
  let _ ← onKeyword
  let locations ← separated .pipe (expectName .directiveLocation)
  pure ⟨name.value, declared, repeatable, locations.map Token.value, described,
    ← spanFrom first⟩

/-- An extension is refused at its keyword; the cursor stops behind the kind of type
that it extends, so that recovery does not take that kind for a definition. -/
def extension {α : Type} : Production α := fun cursor =>
  let moved := cursor.advance
  let stopped := if moved.current.kind = .name then moved.advance else moved
  .rejected ⟨.extensionUnsupported, cursor.current⟩ stopped

/-- The keywords of executable definitions. -/
def executableKeywords : List Text := ["query", "mutation", "subscription", "fragment"]

/-- The definition behind a description, by its keyword. -/
def definitionOf (first : Token) (described : Option Text) : Production Definition := do
  let keyword ← peek
  if keyword.kind ≠ .name then reject .expectedDefinition
  else if keyword.value = ("schema" : Text) then
    pure (.schema (← schemaBlock first described))
  else if keyword.value = ("scalar" : Text) then
    pure (.scalar (← scalarType first described))
  else if keyword.value = ("type" : Text) then
    pure (.object (← fieldedType .type first described))
  else if keyword.value = ("interface" : Text) then
    pure (.interface (← fieldedType .interface first described))
  else if keyword.value = ("union" : Text) then
    pure (.union (← unionType first described))
  else if keyword.value = ("enum" : Text) then
    pure (.enum (← enumType first described))
  else if keyword.value = ("input" : Text) then
    pure (.inputObject (← inputType first described))
  else if keyword.value = ("directive" : Text) then
    pure (.directive (← directiveDeclaration first described))
  else if keyword.value = ("extend" : Text) then extension
  else if executableKeywords.contains keyword.value then reject .executableDefinition
  else reject .unknownKeyword

/-- A definition with the description before it. -/
def definition : Production Definition := do
  let first ← peek
  let described ← description
  definitionOf first described

end SchemaForge.Grammar
