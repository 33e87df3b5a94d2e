import SchemaForge.Diagnostic
import SchemaForge.Schema.Document

/-!
# Problems

Every way in which loading schemas, registering types, reading a configuration or
generating modules can go wrong, as a cause. The code, the location and the
wording of a problem are functions of the cause, and `Problem.diagnostic` turns
any problem into an error diagnostic.

A problem has two texts: `detail` is what went wrong, `report` is the same with
the kind of problem and the place in front where the kind has a place.
-/

namespace SchemaForge

/-- Something that went wrong. -/
inductive Problem where
  /-- A problem of no particular kind. -/
  | general (detail : Text)
  /-- A text that is no schema, for a reason given in words. -/
  | malformed (detail : Text) (source : Option Text) (line column : Int)
  /-- A text that cannot be cut into tokens. -/
  | lexical (detail : Text) (source : Option Text) (line column offset : Int)
  /-- One error among the tokens of a text. -/
  | grammatical (source : Option Text) (error : GrammarError)
  /-- All errors among the tokens of a text, at least one. -/
  | grammaticals (source : Option Text) (first : GrammarError) (others : List GrammarError)
  /-- A directive argument of the wrong kind. -/
  | directiveValue (directive argument location reason : Text)
  /-- A second definition of a type name; the first one stays. -/
  | duplicateType (name first second : Text)
  /-- A generated type that mentions an unknown type. -/
  | unresolvedReference (entry missing location : Text)
  /-- A registry that is not in the right phase of its life. -/
  | registryState (detail : Text)
  /-- An insertion into a registry that takes none any more. -/
  | registryFrozen (detail : Text)
  /-- A configuration that cannot be used. -/
  | configuration (detail : Text)
  /-- A module that another type has already been given. -/
  | moduleClash (module kept keptLocation rejected rejectedLocation : Text)

namespace Problem

/-- The place of a grammar error. -/
def placeOf (source : Option Text) (error : GrammarError) : Text :=
  renderLocation source error.found.line error.found.column

/-- The kind of a problem, which is also the rule of its diagnostic. -/
def rule : Problem → Text
  | general .. => "ApigenError"
  | malformed .. => "SchemaSyntaxError"
  | lexical .. => "LexError"
  | grammatical .. => "ParseError"
  | grammaticals .. => "ParseErrorCollection"
  | directiveValue .. => "DirectiveValueError"
  | duplicateType .. => "DuplicateTypeNameError"
  | unresolvedReference .. => "UnresolvedTypeReferenceError"
  | registryState .. => "RegistryStateError"
  | registryFrozen .. => "RegistryFrozenError"
  | configuration .. => "ConfigError"
  | moduleClash .. => "ModuleClashError"

/-- The code of a problem. Problems that belong to no schema share one. -/
def code : Problem → Text
  | general .. | registryState .. | registryFrozen .. | configuration .. => "APG000"
  | malformed .. | lexical .. | grammatical .. | grammaticals .. => "APG001"
  | directiveValue .. => "APG002"
  | duplicateType .. => "APG003"
  | unresolvedReference .. => "APG004"
  | moduleClash .. => "APG007"

/-- Where a problem belongs. -/
def location : Problem → Text
  | malformed _ source line column => renderLocation source line column
  | lexical _ source line column _ => renderLocation source line column
  | grammatical source error => placeOf source error
  | grammaticals source first _ => placeOf source first
  | directiveValue _ _ location _ => location
  | duplicateType _ _ second => second
  | unresolvedReference _ _ location => location
  | moduleClash _ _ _ _ rejectedLocation => rejectedLocation
  | general .. | registryState .. | registryFrozen .. | configuration .. => "<unknown>"

/-- What went wrong. -/
def detail : Problem → Text
  | general detail => detail
  | malformed detail .. => detail
  | lexical detail .. => detail
  | grammatical _ error => error.message
  | grammaticals _ first others =>
    Text.concat [Text.ofNat (others.length + 1), " syntax error(s); first: ", first.message]
  | directiveValue directive argument _ reason =>
    Text.concat ["Invalid value for argument ", Text.quoted argument, " of directive @", directive,
      ": ", reason]
  | duplicateType name first second =>
    Text.concat ["Type ", Text.quoted name, " is already defined at ", first,
      "; ignoring the definition at ", second]
  | unresolvedReference entry missing _ =>
    Text.concat ["Type ", Text.quoted entry, " references unknown type ", Text.quoted missing]
  | registryState detail => detail
  | registryFrozen detail => detail
  | configuration detail => detail
  | moduleClash module kept keptLocation rejected _ =>
    Text.concat [Text.quoted rejected, " maps to module ", Text.quoted module,
      ", already generated for ", Text.quoted kept, " from ", keptLocation]

/-- One grammar error with its place and the token that was found. -/
def reportGrammatical (source : Option Text) (error : GrammarError) : Text :=
  let found : Text :=
    if error.found.kind = .endOfInput then "(found end of input)"
    else Text.concat ["(found ", error.found.kind.label, " ", Text.quoted error.found.value, ")"]
  Text.concat ["ParseError at ", placeOf source error, ": ", error.message, " ", found]

/-- What went wrong, with the kind of problem and its place where it has one. -/
def report (problem : Problem) : Text :=
  match problem with
  | malformed .. | lexical .. =>
    Text.concat [problem.rule, " at ", problem.location, ": ", problem.detail]
  | grammatical source error => reportGrammatical source error
  | grammaticals source first others =>
    Text.join [.lineFeed]
      (Text.concat ["ParseErrorCollection (", Text.ofNat (others.length + 1), " error(s)):"] ::
        (first :: others).map (fun error => "  " ++ reportGrammatical source error))
  | general .. | directiveValue .. | duplicateType .. | unresolvedReference .. | registryState ..
  | registryFrozen .. | configuration .. | moduleClash .. => problem.detail

/-- A problem as an error diagnostic. -/
def diagnostic (problem : Problem) : Diagnostic :=
  { severity := .error, code := problem.code, message := problem.detail,
    location := problem.location, rule := problem.rule }

/-- The problem of a text that is no schema document. -/
def ofDocumentError (source : Option Text) : DocumentError → Problem
  | .lexical error =>
    lexical error.fault.message source error.place.line error.place.column error.place.offset
  | .grammatical first others => grammaticals source first others

/-- The diagnostics of a text that is no schema document: one for a text that cannot
be cut into tokens, else one for each error among its tokens. -/
def diagnosticsOfDocument (source : Option Text) : DocumentError → List Diagnostic
  | .lexical error => [(ofDocumentError source (.lexical error)).diagnostic]
  | .grammatical first others =>
    (first :: others).map (fun error => (grammatical source error).diagnostic)

/-- The definitions of a schema text, or the problem with the text. -/
def readSchema (source : Option Text) (text : Text) : Except Problem (List Definition) :=
  match parseDocument text with
  | .ok definitions => .ok definitions
  | .error error => .error (ofDocumentError source error)

/-- A problem of the schema text itself. -/
def isSyntactic : Problem → Bool
  | malformed .. | lexical .. | grammatical .. | grammaticals .. => true
  | _ => false

/-- A problem of the registry's phase of life. -/
def isPhase : Problem → Bool
  | registryState .. | registryFrozen .. => true
  | _ => false

end Problem

end SchemaForge
