import SchemaForge.Schema.Token

/-!
# Grammar faults

Why a sequence of tokens is no schema. A fault is a cause; its wording and the
kinds of token that would have been accepted are functions of the cause and of
the token that was found instead.
-/

namespace SchemaForge

/-- What a missing name would have named. -/
inductive NameRole where
  | scalar | type | interface | union | enum | enumValue | input | directive
  | directiveLocation | field | argument | objectField
deriving DecidableEq

/-- How a role is called in messages. -/
def NameRole.label : NameRole → Text
  | scalar => "scalar"
  | type => "type"
  | interface => "interface"
  | union => "union"
  | enum => "enum"
  | enumValue => "enum value"
  | input => "input"
  | directive => "directive"
  | directiveLocation => "directive location"
  | field => "field"
  | argument => "argument"
  | objectField => "object field"

/-- The ways in which tokens fail to be a definition. -/
inductive GrammarFault where
  | expectedDefinition
  | extensionUnsupported
  | executableDefinition
  | unknownKeyword
  | expectedName (role : NameRole)
  | expectedSchemaBody
  | expectedOperation
  | expectedOperationColon
  | emptySchema
  | reservedEnumValue
  | expectedDirectiveSign
  | expectedOn
  | expectedFieldColon (field : Text)
  | expectedColonAfter (name : Text)
  | expectedArgumentColon (argument : Text)
  | emptyArguments
  | emptyDirectiveArguments
  | unclosedListType
  | variableInConstant
  | expectedValue
deriving DecidableEq

namespace GrammarFault

/-- The wording of a fault, given the token that was found. -/
def message (found : Token) : GrammarFault → Text
  | expectedDefinition =>
    Text.concat ["Expected a type system definition, got ", found.kind.label, " ",
      Text.quoted found.value]
  | extensionUnsupported => "Type extensions are not supported"
  | executableDefinition => "Executable definitions are not allowed in a schema"
  | unknownKeyword => "Unknown definition keyword " ++ Text.quoted found.value
  | expectedName role => Text.concat ["Expected ", role.label, " name"]
  | expectedSchemaBody => "Expected '\x7b' after 'schema'"
  | expectedOperation => "Expected 'query', 'mutation' or 'subscription'"
  | expectedOperationColon => "Expected ':' after operation type"
  | emptySchema => "Schema definition must declare at least one operation type"
  | reservedEnumValue => Text.quoted found.value ++ " cannot be used as an enum value"
  | expectedDirectiveSign => "Expected '@' before directive name"
  | expectedOn => "Expected 'on'"
  | expectedFieldColon field => "Expected ':' after field " ++ Text.quoted field
  | expectedColonAfter name => "Expected ':' after " ++ Text.quoted name
  | expectedArgumentColon argument => "Expected ':' after argument " ++ Text.quoted argument
  | emptyArguments => "Argument list must not be empty"
  | emptyDirectiveArguments => "Directive argument list must not be empty"
  | unclosedListType => "Expected ']' to close list type"
  | variableInConstant => "Variables are not allowed in constant values"
  | expectedValue =>
    Text.concat ["Expected a value, got ", found.kind.label, " ", Text.quoted found.value]

/-- The kinds of token that would have been accepted, where the fault names any. -/
def expected : GrammarFault → List TokenKind
  | expectedDefinition | unknownKeyword | expectedName _ | expectedOperation | expectedOn =>
    [.name]
  | expectedSchemaBody => [.leftBrace]
  | expectedOperationColon | expectedFieldColon _ | expectedColonAfter _
  | expectedArgumentColon _ => [.colon]
  | expectedDirectiveSign => [TokenKind.at]
  | unclosedListType => [.rightBracket]
  | extensionUnsupported | executableDefinition | emptySchema | reservedEnumValue
  | emptyArguments | emptyDirectiveArguments | variableInConstant | expectedValue => []

end GrammarFault

/-- A fault together with the token that was found. -/
structure GrammarError where
  /-- What is wrong. -/
  fault : GrammarFault
  /-- The token at which it was noticed. -/
  found : Token
deriving DecidableEq

/-- The wording of an error. -/
def GrammarError.message (error : GrammarError) : Text := error.fault.message error.found

end SchemaForge
