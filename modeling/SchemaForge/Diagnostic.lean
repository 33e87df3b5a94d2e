import SchemaForge.Text.Basic

/-!
# Diagnostics

A diagnostic is one finding of a run: how serious it is, a short code, a message,
where it belongs, and which rule produced it. A run collects diagnostics instead
of stopping at the first.
-/

namespace SchemaForge

/-- How serious a finding is. -/
inductive Severity where
  | error | warning | information | hint
deriving DecidableEq, Inhabited

/-- The label of a severity. -/
def Severity.label : Severity → Text
  | error => "ERROR"
  | warning => "WARNING"
  | information => "INFORMATION"
  | hint => "HINT"

/-- One finding of a run. -/
structure Diagnostic where
  /-- How serious it is. -/
  severity : Severity
  /-- A short code for machines. -/
  code : Text
  /-- What was found. -/
  message : Text
  /-- Where it was found. -/
  location : Text
  /-- What could be done about it. -/
  suggestion : Option Text := none
  /-- Which rule found it. -/
  rule : Text := []
deriving DecidableEq, Inhabited

namespace Diagnostic

/-- Only errors make a run fail. -/
def isError (diagnostic : Diagnostic) : Bool := diagnostic.severity = .error

/-- A diagnostic on one line. An empty suggestion is left out like a missing one. -/
def describe (diagnostic : Diagnostic) : Text :=
  let hint : Text :=
    match diagnostic.suggestion with
    | none | some [] => []
    | some suggestion => Text.concat [" (hint: ", suggestion, ")"]
  Text.concat ["[", diagnostic.code, "] ", diagnostic.severity.label, " at ",
    diagnostic.location, ": ", diagnostic.message, hint]

end Diagnostic

end SchemaForge
