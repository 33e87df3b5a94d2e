import SchemaForge.Registry.Entry

/-!
# Log events

What a run tells about its progress. An event is data; its level, the channel it
appears on and its wording are functions of it. Three events are warnings: a
second definition of a type, a module that two types would share, and a published
file that replaces another. The rest is for debugging.
-/

namespace SchemaForge

/-- How important a log event is. -/
inductive LogLevel where
  | debug | warning
deriving DecidableEq

/-- The label of a level. -/
def LogLevel.label : LogLevel → Text
  | debug => "DEBUG"
  | warning => "WARNING"

/-- Whether events of a level are told where `least` is the least level. -/
def LogLevel.admits (least level : LogLevel) : Bool := least = .debug || level = .warning

/-- A step of a run that is worth telling. -/
inductive LogEvent where
  /-- A definition without a type name was passed over. -/
  | skipped (kind : DefinitionKind) (location : Text)
  /-- An entry entered the registry. -/
  | registered (entry : Entry)
  /-- An entry was rejected because its name was taken. -/
  | rejected (kept newcomer : Entry)
  /-- An entry was not generated for want of a type it mentions. -/
  | notGenerated (name : Text)
  /-- An entry was rendered. -/
  | generated (package name : Text) (dependencies : Nat)
  /-- Two types map to one module. -/
  | clashed (detail : Text)
  /-- The result of a run. -/
  | finished (summary : Text)
  /-- A module was written. -/
  | wrote (path : Text)
  /-- A schema was read into the registry. -/
  | loaded (definitions : Nat) (source : Text) (origin : Origin)
  /-- The directory of schemas is missing. -/
  | noSources (path : Text)
  /-- Nothing is generated. -/
  | skippedGeneration
  /-- Schemas were copied for other builds. -/
  | publishedAll (count : Nat) (path : Text)
  /-- A directory to search is missing. -/
  | noSchemas (path : Text)
  /-- A dependency has published nothing. -/
  | noPublished (root : Text)
  /-- A copy replaces an earlier one of the same name. -/
  | overwrote (locator : Text)
  /-- A schema was copied. -/
  | published (locator path : Text)

namespace LogEvent

/-- The level of an event. -/
def level : LogEvent → LogLevel
  | rejected .. | clashed .. | overwrote .. => .warning
  | _ => .debug

/-- The channel of an event. -/
def channel : LogEvent → Text
  | skipped .. | registered .. | rejected .. => "apigen.core.registry"
  | notGenerated .. | generated .. | clashed .. | finished .. => "apigen.compiler.generator"
  | wrote .. => "apigen.compiler.sinks"
  | loaded .. | noSources .. | skippedGeneration | publishedAll .. => "apigen.pipeline"
  | noSchemas .. | noPublished .. | overwrote .. | published .. => "apigen.discovery.scanner"

/-- The wording of an event. -/
def message : LogEvent → Text
  | skipped kind location =>
    Text.concat ["Skipping ", kind.label, " definition at ", location, ": not a named type"]
  | registered entry =>
    Text.concat ["Registered ", entry.origin.label, " type ", Text.quoted entry.name, " (",
      entry.location, ") in namespace ", Text.quoted entry.package]
  | rejected kept newcomer =>
    Text.concat ["Duplicate type ", Text.quoted newcomer.name, ": keeping ", kept.origin.label,
      " definition at ", kept.location, ", rejecting ", newcomer.origin.label,
      " definition at ", newcomer.location]
  | notGenerated name =>
    Text.concat ["Not generating ", Text.quoted name, ": unresolved references"]
  | generated package name dependencies =>
    Text.concat ["Generated ", package, ".", name, " with ", Text.ofNat dependencies,
      " dependency edge(s)"]
  | clashed detail => detail
  | finished summary => summary
  | wrote path => "Wrote " ++ path
  | loaded definitions source origin =>
    Text.concat ["Loaded ", Text.ofNat definitions, " definition(s) from ", source, " for ",
      origin.label]
  | noSources path => Text.concat ["Source directory ", path, " does not exist"]
  | skippedGeneration => "Skipping generation"
  | publishedAll count path =>
    Text.concat ["Published ", Text.ofNat count, " schema(s) to ", path]
  | noSchemas path => Text.concat ["Schema directory ", path, " does not exist"]
  | noPublished root => "No published schemas in " ++ root
  | overwrote locator =>
    Text.concat ["Published schema ", locator, " overwrites an earlier file with the same name"]
  | published locator path => Text.concat ["Published ", locator, " to ", path]

end LogEvent

/-- A result together with the events on the way to it. -/
structure Logged (α : Type) where
  /-- The result. -/
  value : α
  /-- The events in order. -/
  log : List LogEvent

end SchemaForge
