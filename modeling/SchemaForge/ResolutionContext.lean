import SchemaForge.Text.Quoted

/-!
# Resolution contexts

What a field resolver is told about the call it answers: the object whose field is
asked for, the arguments of the field and whatever the application passes along. A
context is fixed once it is made.
-/

namespace SchemaForge

/-- What a field resolver is told, for values of a type of the application's choice. -/
structure ResolutionContext (ν : Type) where
  /-- The object whose field is asked for. -/
  source : ν
  /-- The arguments of the field by name. -/
  arguments : List (Text × ν) := []
  /-- What the application passes along. -/
  context : Option ν := none

/-- The complaint about an attempt to change a part of a context. -/
def ResolutionContext.fixedMessage (part : Text) : Text :=
  "cannot assign to field " ++ Text.quoted part

end SchemaForge
