import SchemaForge.Text.Basic

/-!
# Command-line arguments

An option has a long name after two dashes, perhaps a letter after one dash, and
either takes a value or is a flag. A value stands behind an equals sign, behind a
letter in the same argument, or in the next argument, whatever that looks like.
Flags with letters can share one dash. Two dashes alone end the options, and one
dash alone is no option.
-/

namespace SchemaForge

/-- An option that a command knows. -/
structure OptionForm where
  /-- The name after two dashes. -/
  name : Text
  /-- The letter after one dash. -/
  letter : Option CodePoint := none
  /-- Whether a value belongs to it. -/
  takesValue : Bool := true
deriving DecidableEq, Inhabited

/-- An option on a command line, with its value. A flag has the empty value. -/
structure GivenOption where
  /-- The name of the option. -/
  name : Text
  /-- The value of the option. -/
  value : Text := []
deriving DecidableEq, Inhabited

/-- Why a command line cannot be read. -/
inductive UsageFault where
  /-- There is no such option. -/
  | unknownOption (spelling : Text)
  /-- The last argument is an option that needs a value. -/
  | missingValue (name : Text)
  /-- A flag was given a value. -/
  | unexpectedValue (name : Text)
  /-- No command was given. -/
  | missingCommand
  /-- There is no such command. -/
  | unknownCommand (name : Text)
  /-- An argument that nothing asks for. -/
  | extraArgument (argument : Text)
  /-- A value that the option does not allow. -/
  | invalidChoice (name value : Text)
deriving DecidableEq

/-- The wording of a usage fault. -/
def UsageFault.message : UsageFault → Text
  | unknownOption spelling => "No such option: " ++ spelling
  | missingValue name => Text.concat ["Option '--", name, "' requires an argument."]
  | unexpectedValue name => Text.concat ["Option '--", name, "' does not take a value."]
  | missingCommand => "Missing command."
  | unknownCommand name => Text.concat ["No such command '", name, "'."]
  | extraArgument argument => Text.concat ["Got unexpected extra argument (", argument, ")"]
  | invalidChoice name value =>
    Text.concat ["Invalid value for '--", name, "': '", value, "' is not one of its choices."]

/-- The options and the other arguments of a command line, each in order. -/
structure Arguments where
  /-- The options. -/
  options : List GivenOption := []
  /-- The other arguments. -/
  others : List Text := []
deriving DecidableEq, Inhabited

namespace Arguments

/-- The options that one argument gives. The last of them may wait for its value. -/
structure Reading where
  /-- The complete options. -/
  complete : List GivenOption := []
  /-- The name of the option that takes the next argument. -/
  waiting : Option Text := none

/-- One more complete option in front. -/
def Reading.withOption (option : GivenOption) (reading : Reading) : Reading :=
  { reading with complete := option :: reading.complete }

/-- Reads the letters behind one dash. -/
def readLetters (forms : List OptionForm) : Text → Except UsageFault Reading
  | [] => .ok {}
  | letter :: rest =>
    match forms.find? (fun form => decide (form.letter = some letter)) with
    | none => .error (.unknownOption [CodePoint.ofChar '-', letter])
    | some form =>
      if form.takesValue then
        if rest.isEmpty then .ok { waiting := some form.name }
        else .ok { complete := [⟨form.name, rest⟩] }
      else (readLetters forms rest).map (Reading.withOption ⟨form.name, []⟩)

/-- The part before the first equals sign, and the part behind it if there is one. -/
def splitValue (argument : Text) : Text × Option Text :=
  let isSign (c : CodePoint) : Bool := c = '='
  let name := argument.takeWhile (fun c => !isSign c)
  let rest := argument.dropWhile (fun c => !isSign c)
  (name, if rest.isEmpty then none else some (rest.drop 1))

/-- Reads an argument that begins with a dash and is longer than that. -/
def readOption (forms : List OptionForm) (argument : Text) : Except UsageFault Reading :=
  let (spelling, value) := splitValue argument
  match forms.find? (fun form => decide (spelling = Text.concat ["--", form.name])) with
  | some form =>
    match form.takesValue, value with
    | true, some value => .ok { complete := [⟨form.name, value⟩] }
    | true, none => .ok { waiting := some form.name }
    | false, some _ => .error (.unexpectedValue form.name)
    | false, none => .ok { complete := [⟨form.name, []⟩] }
  | none =>
    if Text.startsWith argument "--" then .error (.unknownOption spelling)
    else readLetters forms (argument.drop 1)

/-- Whether an argument is read as an option. -/
def isOption (argument : Text) : Bool :=
  Text.startsWith argument "-" && 1 < argument.length

/-- More options in front. -/
def withOptions (options : List GivenOption) (arguments : Arguments) : Arguments :=
  { arguments with options := options ++ arguments.options }

/-- One more other argument in front. -/
def withOther (other : Text) (arguments : Arguments) : Arguments :=
  { arguments with others := other :: arguments.others }

/-- Reads a command line. Where options may not stand between other arguments, the
first other argument ends the options. -/
def read (forms : List OptionForm) (interspersed : Bool) :
    List Text → Except UsageFault Arguments
  | [] => .ok {}
  | argument :: rest =>
    if argument = ("--" : Text) then .ok { others := rest }
    else if isOption argument then
      match readOption forms argument with
      | .error fault => .error fault
      | .ok reading =>
        match reading.waiting with
        | none => (read forms interspersed rest).map (withOptions reading.complete)
        | some name =>
          match rest with
          | [] => .error (.missingValue name)
          | value :: rest =>
            (read forms interspersed rest).map
              (withOptions (reading.complete ++ [⟨name, value⟩]))
    else if interspersed then (read forms interspersed rest).map (withOther argument)
    else .ok { others := argument :: rest }

/-- The values of an option, in order. -/
def values (arguments : Arguments) (name : Text) : List Text :=
  (arguments.options.filter (fun option => decide (option.name = name))).map
    GivenOption.value

/-- The last value of an option. -/
def value? (arguments : Arguments) (name : Text) : Option Text :=
  (arguments.values name).getLast?

/-- Whether an option was given. -/
def has (arguments : Arguments) (name : Text) : Bool := !(arguments.values name).isEmpty

end Arguments

end SchemaForge
