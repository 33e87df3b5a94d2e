import SchemaForge.Console.Markup
import SchemaForge.Data.Key
import SchemaForge.File.Fault
import SchemaForge.Problem
import SchemaForge.Yaml.Scalar

/-!
# Failures

What a caller of the library can be refused with. Most problems of a run are
collected as diagnostics; the ones here end the call that met them.
-/

namespace SchemaForge

/-- Why a call has no result. -/
inductive Failure where
  /-- A problem that is not collected. -/
  | problem (problem : Problem)
  /-- A file operation that did not succeed. -/
  | file (fault : FileFault)
  /-- A rendering target that does not exist. -/
  | unknownTarget (name : Text)
  /-- A setting that does not exist. -/
  | unknownSetting (name : Text)
  /-- A configuration with a value that does not exist. -/
  | yaml (fault : Yaml.Fault)
  /-- A number of a configuration that cannot be written. -/
  | numeral (fault : NumeralFault)
  /-- Configuration keys without a common order. -/
  | order (fault : OrderFault)
  /-- A text with marks that cannot be shown. -/
  | markup (fault : Markup.Fault)
  /-- A line of output without bytes. -/
  | unprintable (fault : Utf8.EncodeFault)

/-- The wording of a failure. -/
def Failure.message : Failure → Text
  | problem cause => cause.report
  | file fault => fault.message
  | unknownTarget name =>
    Text.concat ["Unknown rendering target ", Text.quoted name, ". Available targets: python"]
  | unknownSetting name =>
    Text.concat ["ApigenConfig.__init__() got an unexpected keyword argument ",
      Text.quoted name]
  | yaml fault => fault.message
  | numeral fault => fault.message
  | order fault => fault.message
  | markup fault => fault.message
  | unprintable fault =>
    Text.concat [fault.message, [.lineFeed],
      "*** You may need to add PYTHONIOENCODING=utf-8 to your environment ***"]

end SchemaForge
