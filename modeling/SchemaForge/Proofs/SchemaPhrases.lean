import SchemaForge.Schema.Definition
import SchemaForge.Schema.Token

/-!
# Phrases of the schema language

The grammar of schema documents as a relation between sequences of words and
trees. A word is what a token reads as: its kind and its value, without its place.
A phrase relates exactly the words that spell a tree to that tree, so a derivation
never looks ahead and never decides between alternatives by what comes behind it.
Trees carry no spans.

Nothing here mentions a cursor, an error or recovery: that a reader accepts these
phrases and no others, and finds the same tree, is a theorem about the reader.
Names are words of the one kind `name` whatever they spell, so a keyword may stand
wherever a name is wanted.
-/

namespace SchemaForge

/-- What a token reads as, wherever it stands. -/
abbrev Reading := TokenKind × Text

/-- A set of word sequences, each with the tree it spells. -/
abbrev Phrase (α : Type) := List Reading → α → Prop

variable {α : Type}

/-! ## Words and ways to combine phrases -/

/-- One punctuator. Its kind alone matters. -/
inductive Mark (kind : TokenKind) : List Reading → Prop where
  | intro (spelling : Text) : Mark kind [(kind, spelling)]

/-- A punctuator that may be left out. -/
inductive OptionalMark (kind : TokenKind) : List Reading → Prop where
  | missing : OptionalMark kind []
  | given {mark : List Reading} (marked : Mark kind mark) : OptionalMark kind mark

/-- One particular name. -/
inductive Keyword (word : Text) : List Reading → Prop where
  | intro : Keyword word [(.name, word)]

/-- Any name. -/
inductive NamePhrase : Phrase Text where
  | intro (name : Text) : NamePhrase [(.name, name)] name

/-- The string before a definition or a member, of either form, which may be missing. -/
inductive DescriptionPhrase : Phrase (Option Text) where
  | missing : DescriptionPhrase [] none
  | given {kind : TokenKind} (quoted : kind.isString = true) (value : Text) :
      DescriptionPhrase [(kind, value)] (some value)

/-- Items one after another, possibly none. -/
inductive Repeated (item : Phrase α) : Phrase (List α) where
  | none : Repeated item [] []
  | more {words others : List Reading} {tree : α} {trees : List α}
      (first : item words tree) (further : Repeated item others trees) :
      Repeated item (words ++ others) (tree :: trees)

/-- Items and the mark that closes them. -/
inductive Enclosed (closer : TokenKind) (item : Phrase α) : Phrase (List α) where
  | intro {words mark : List Reading} {trees : List α}
      (items : Repeated item words trees) (closed : Mark closer mark) :
      Enclosed closer item (words ++ mark) trees

/-- A list that is not empty. -/
inductive NonEmpty (list : Phrase (List α)) : Phrase (List α) where
  | intro {words : List Reading} {tree : α} {trees : List α}
      (given : list words (tree :: trees)) : NonEmpty list words (tree :: trees)

/-- A part that a mark introduces. Without the mark the part has a fixed tree. -/
inductive Introduced (opener : TokenKind) (part : Phrase α) (otherwise : α) : Phrase α where
  | absent : Introduced opener part otherwise [] otherwise
  | present {mark words : List Reading} {tree : α}
      (opened : Mark opener mark) (given : part words tree) :
      Introduced opener part otherwise (mark ++ words) tree

/-- A phrase that is known to be there. -/
inductive Present (item : Phrase α) : Phrase (Option α) where
  | intro {words : List Reading} {tree : α} (given : item words tree) :
      Present item words (some tree)

/-- A phrase behind a mark. -/
inductive Behind (mark : TokenKind) (item : Phrase α) : Phrase α where
  | intro {lead words : List Reading} {tree : α}
      (marked : Mark mark lead) (given : item words tree) : Behind mark item (lead ++ words) tree

/-- One or more items with a separator between neighbours and possibly one in front. -/
inductive Separated (separator : TokenKind) (item : Phrase α) : Phrase (List α) where
  | intro {lead words others : List Reading} {tree : α} {trees : List α}
      (leading : OptionalMark separator lead) (first : item words tree)
      (further : Repeated (Behind separator item) others trees) :
      Separated separator item (lead ++ (words ++ others)) (tree :: trees)

/-! ## Types and values -/

/-- `Name` -/
inductive NamedTypePhrase : Phrase NamedType where
  | intro {words : List Reading} {name : Text} (named : NamePhrase words name) :
      NamedTypePhrase words ⟨name, .unknown⟩

mutual

/-- `BareType '!'?` -/
inductive TypePhrase : Phrase TypeReference where
  | nullable {words : List Reading} {type : TypeReference} (bare : BareTypePhrase words type) :
      TypePhrase words type
  | nonNull {words mark : List Reading} {type : TypeReference}
      (bare : BareTypePhrase words type) (marked : Mark .bang mark) :
      TypePhrase (words ++ mark) (.nonNull type .unknown)

/-- `Name | '[' Type ']'` -/
inductive BareTypePhrase : Phrase TypeReference where
  | named {words : List Reading} {type : NamedType} (mention : NamedTypePhrase words type) :
      BareTypePhrase words (.named type)
  | list {opening words closing : List Reading} {element : TypeReference}
      (opened : Mark .leftBracket opening) (inner : TypePhrase words element)
      (closed : Mark .rightBracket closing) :
      BareTypePhrase (opening ++ (words ++ closing)) (.list element .unknown)

end

/-- The names that are values of their own and therefore no enum values. -/
def literalNames : List Text := ["true", "false", "null"]

mutual

/-- A constant. There is no form for a variable. -/
inductive ConstantPhrase : Phrase Value where
  | string (value : Text) : ConstantPhrase [(.string, value)] (.string value .unknown false)
  | blockString (value : Text) :
      ConstantPhrase [(.blockString, value)] (.string value .unknown true)
  | int (digits : Text) : ConstantPhrase [(.int, digits)] (.int digits .unknown)
  | float (digits : Text) : ConstantPhrase [(.float, digits)] (.float digits .unknown)
  | yes : ConstantPhrase [(.name, "true")] (.boolean true .unknown)
  | no : ConstantPhrase [(.name, "false")] (.boolean false .unknown)
  | null : ConstantPhrase [(.name, "null")] (.null .unknown)
  | enum (symbol : Text) (free : symbol ∉ literalNames) :
      ConstantPhrase [(.name, symbol)] (.enum symbol .unknown)
  | list {opening words : List Reading} {values : List Value}
      (opened : Mark .leftBracket opening)
      (given : Enclosed .rightBracket ConstantPhrase words values) :
      ConstantPhrase (opening ++ words) (.list values .unknown)
  | object {opening words : List Reading} {fields : List ObjectField}
      (opened : Mark .leftBrace opening)
      (given : Enclosed .rightBrace ObjectFieldPhrase words fields) :
      ConstantPhrase (opening ++ words) (.object fields .unknown)

/-- `Name ':' Value` -/
inductive ObjectFieldPhrase : Phrase ObjectField where
  | intro {naming colon words : List Reading} {name : Text} {value : Value}
      (named : NamePhrase naming name) (divided : Mark .colon colon)
      (given : ConstantPhrase words value) :
      ObjectFieldPhrase (naming ++ (colon ++ words)) (.mk name value .unknown)

end

/-! ## Directives and members -/

/-- `Name ':' Value` -/
inductive ArgumentPhrase : Phrase Argument where
  | intro {naming colon words : List Reading} {name : Text} {value : Value}
      (named : NamePhrase naming name) (divided : Mark .colon colon)
      (given : ConstantPhrase words value) :
      ArgumentPhrase (naming ++ (colon ++ words)) ⟨name, value, .unknown⟩

/-- `('(' item+ ')')?` -/
abbrev ParenthesizedPhrase (item : Phrase α) : Phrase (List α) :=
  Introduced .leftParen (NonEmpty (Enclosed .rightParen item)) []

/-- `('{' item* '}')?` -/
abbrev BracedPhrase (item : Phrase α) : Phrase (List α) :=
  Introduced .leftBrace (Enclosed .rightBrace item) []

/-- `'@' Name Arguments?` -/
inductive DirectivePhrase : Phrase Directive where
  | intro {sign naming given : List Reading} {name : Text} {arguments : List Argument}
      (marked : Mark TokenKind.at sign) (named : NamePhrase naming name)
      (listed : ParenthesizedPhrase ArgumentPhrase given arguments) :
      DirectivePhrase (sign ++ (naming ++ given)) ⟨name, arguments, .unknown⟩

/-- `Directive*` -/
abbrev DirectivesPhrase : Phrase (List Directive) := Repeated DirectivePhrase

/-- `Description? Name ':' Type ('=' Value)? Directives` -/
inductive InputValuePhrase : Phrase InputValue where
  | intro {lead naming colon typing fallback applied : List Reading} {description : Option Text}
      {name : Text} {type : TypeReference} {defaultValue : Option Value}
      {directives : List Directive}
      (described : DescriptionPhrase lead description) (named : NamePhrase naming name)
      (divided : Mark .colon colon) (typed : TypePhrase typing type)
      (defaulted : Introduced .equals (Present ConstantPhrase) none fallback defaultValue)
      (directed : DirectivesPhrase applied directives) :
      InputValuePhrase (lead ++ (naming ++ (colon ++ (typing ++ (fallback ++ applied)))))
        ⟨name, type, defaultValue, directives, description, .unknown⟩

/-- `Description? Name ArgumentDeclarations? ':' Type Directives` -/
inductive FieldPhrase : Phrase Field where
  | intro {lead naming declared colon typing applied : List Reading} {description : Option Text}
      {name : Text} {arguments : List InputValue} {type : TypeReference}
      {directives : List Directive}
      (described : DescriptionPhrase lead description) (named : NamePhrase naming name)
      (listed : ParenthesizedPhrase InputValuePhrase declared arguments)
      (divided : Mark .colon colon) (typed : TypePhrase typing type)
      (directed : DirectivesPhrase applied directives) :
      FieldPhrase (lead ++ (naming ++ (declared ++ (colon ++ (typing ++ applied)))))
        ⟨name, arguments, type, directives, description, .unknown⟩

/-- `Description? Name Directives`, where the name is no literal. -/
inductive EnumMemberPhrase : Phrase EnumMember where
  | intro {lead naming applied : List Reading} {description : Option Text} {name : Text}
      {directives : List Directive}
      (described : DescriptionPhrase lead description) (named : NamePhrase naming name)
      (free : name ∉ literalNames) (directed : DirectivesPhrase applied directives) :
      EnumMemberPhrase (lead ++ (naming ++ applied)) ⟨name, directives, description, .unknown⟩

/-- The operations that a schema block can name. -/
def operationNames : List Text := ["query", "mutation", "subscription"]

/-- `('query' | 'mutation' | 'subscription') ':' Name` -/
inductive OperationTypePhrase : Phrase OperationType where
  | intro {naming colon words : List Reading} {operation : Text} {type : NamedType}
      (named : NamePhrase naming operation) (known : operation ∈ operationNames)
      (divided : Mark .colon colon) (mention : NamedTypePhrase words type) :
      OperationTypePhrase (naming ++ (colon ++ words)) ⟨operation, type, .unknown⟩

/-- `('implements' '&'? Name ('&' Name)*)?` -/
inductive InterfacesPhrase : Phrase (List NamedType) where
  | absent : InterfacesPhrase [] []
  | present {word words : List Reading} {types : List NamedType}
      (introduced : Keyword "implements" word)
      (listed : Separated .amp NamedTypePhrase words types) :
      InterfacesPhrase (word ++ words) types

/-! ## Definitions

Each phrase begins at the keyword of its definition. The description stands before
the keyword and belongs to the tree, so it is a parameter. -/

/-- `keyword Name Interfaces? Directives ('{' Field* '}')?` -/
inductive FieldedTypePhrase (keyword : Text) (description : Option Text) :
    Phrase FieldedType where
  | intro {word naming implemented applied body : List Reading} {name : Text}
      {interfaces : List NamedType} {directives : List Directive} {fields : List Field}
      (introduced : Keyword keyword word) (named : NamePhrase naming name)
      (implementing : InterfacesPhrase implemented interfaces)
      (directed : DirectivesPhrase applied directives)
      (braced : BracedPhrase FieldPhrase body fields) :
      FieldedTypePhrase keyword description
        (word ++ (naming ++ (implemented ++ (applied ++ body))))
        ⟨name, interfaces, fields, directives, description, .unknown⟩

/-- `'union' Name Directives ('=' '|'? Name ('|' Name)*)?` -/
inductive UnionTypePhrase (description : Option Text) : Phrase UnionType where
  | intro {word naming applied joined : List Reading} {name : Text}
      {directives : List Directive} {members : List NamedType}
      (introduced : Keyword "union" word) (named : NamePhrase naming name)
      (directed : DirectivesPhrase applied directives)
      (listed : Introduced .equals (Separated .pipe NamedTypePhrase) [] joined members) :
      UnionTypePhrase description (word ++ (naming ++ (applied ++ joined)))
        ⟨name, members, directives, description, .unknown⟩

/-- `'scalar' Name Directives` -/
inductive ScalarTypePhrase (description : Option Text) : Phrase ScalarType where
  | intro {word naming applied : List Reading} {name : Text} {directives : List Directive}
      (introduced : Keyword "scalar" word) (named : NamePhrase naming name)
      (directed : DirectivesPhrase applied directives) :
      ScalarTypePhrase description (word ++ (naming ++ applied))
        ⟨name, directives, description, .unknown⟩

/-- `'enum' Name Directives ('{' EnumMember* '}')?` -/
inductive EnumTypePhrase (description : Option Text) : Phrase EnumType where
  | intro {word naming applied body : List Reading} {name : Text}
      {directives : List Directive} {values : List EnumMember}
      (introduced : Keyword "enum" word) (named : NamePhrase naming name)
      (directed : DirectivesPhrase applied directives)
      (braced : BracedPhrase EnumMemberPhrase body values) :
      EnumTypePhrase description (word ++ (naming ++ (applied ++ body)))
        ⟨name, values, directives, description, .unknown⟩

/-- `'input' Name Directives ('{' InputValue* '}')?` -/
inductive InputTypePhrase (description : Option Text) : Phrase InputType where
  | intro {word naming applied body : List Reading} {name : Text}
      {directives : List Directive} {fields : List InputValue}
      (introduced : Keyword "input" word) (named : NamePhrase naming name)
      (directed : DirectivesPhrase applied directives)
      (braced : BracedPhrase InputValuePhrase body fields) :
      InputTypePhrase description (word ++ (naming ++ (applied ++ body)))
        ⟨name, fields, directives, description, .unknown⟩

/-- `'repeatable'?` -/
inductive RepeatablePhrase : Phrase Bool where
  | absent : RepeatablePhrase [] false
  | present {word : List Reading} (given : Keyword "repeatable" word) :
      RepeatablePhrase word true

/-- `'directive' '@' Name ArgumentDeclarations? 'repeatable'? 'on' '|'? Name ('|' Name)*` -/
inductive DirectiveDeclarationPhrase (description : Option Text) :
    Phrase DirectiveDeclaration where
  | intro {word sign naming declared again place sites : List Reading} {name : Text}
      {arguments : List InputValue} {repeatable : Bool} {locations : List Text}
      (introduced : Keyword "directive" word) (marked : Mark TokenKind.at sign)
      (named : NamePhrase naming name)
      (listed : ParenthesizedPhrase InputValuePhrase declared arguments)
      (repeated : RepeatablePhrase again repeatable) (placed : Keyword "on" place)
      (located : Separated .pipe NamePhrase sites locations) :
      DirectiveDeclarationPhrase description
        (word ++ (sign ++ (naming ++ (declared ++ (again ++ (place ++ sites))))))
        ⟨name, arguments, repeatable, locations, description, .unknown⟩

/-- `'schema' Directives '{' OperationType+ '}'` -/
inductive SchemaBlockPhrase (description : Option Text) : Phrase SchemaBlock where
  | intro {word applied brace body : List Reading} {directives : List Directive}
      {operations : List OperationType}
      (introduced : Keyword "schema" word) (directed : DirectivesPhrase applied directives)
      (opened : Mark .leftBrace brace)
      (listed : NonEmpty (Enclosed .rightBrace OperationTypePhrase) body operations) :
      SchemaBlockPhrase description (word ++ (applied ++ (brace ++ body)))
        ⟨operations, directives, description, .unknown⟩

/-- A definition from its keyword on, one case for each keyword. Extensions and
executable definitions have no case. -/
inductive DefinitionBody (description : Option Text) : Phrase Definition where
  | schema {words : List Reading} {block : SchemaBlock}
      (given : SchemaBlockPhrase description words block) :
      DefinitionBody description words (.schema block)
  | scalar {words : List Reading} {type : ScalarType}
      (given : ScalarTypePhrase description words type) :
      DefinitionBody description words (.scalar type)
  | object {words : List Reading} {type : FieldedType}
      (given : FieldedTypePhrase "type" description words type) :
      DefinitionBody description words (.object type)
  | interface {words : List Reading} {type : FieldedType}
      (given : FieldedTypePhrase "interface" description words type) :
      DefinitionBody description words (.interface type)
  | union {words : List Reading} {type : UnionType}
      (given : UnionTypePhrase description words type) :
      DefinitionBody description words (.union type)
  | enum {words : List Reading} {type : EnumType}
      (given : EnumTypePhrase description words type) :
      DefinitionBody description words (.enum type)
  | inputObject {words : List Reading} {type : InputType}
      (given : InputTypePhrase description words type) :
      DefinitionBody description words (.inputObject type)
  | directive {words : List Reading} {declaration : DirectiveDeclaration}
      (given : DirectiveDeclarationPhrase description words declaration) :
      DefinitionBody description words (.directive declaration)

/-- `Description? Definition` -/
inductive DefinitionPhrase : Phrase Definition where
  | intro {lead words : List Reading} {description : Option Text} {definition : Definition}
      (described : DescriptionPhrase lead description)
      (body : DefinitionBody description words definition) :
      DefinitionPhrase (lead ++ words) definition

/-- A document is a sequence of definitions. -/
abbrev DocumentPhrase : Phrase (List Definition) := Repeated DefinitionPhrase

end SchemaForge
