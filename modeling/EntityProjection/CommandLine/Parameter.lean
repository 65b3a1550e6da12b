/-!
# Parameters

What a command line may give by name: flags, which stand alone, and options, which take a value.
Parameters have a long name and perhaps a letter.  A value follows as the next argument, or in the
same one behind an equals sign; flags may share one argument by their letters, and an option may
end it with its value.

* `Arguments.readAll`: takes the arguments in turn;
* `Arguments.settle`: the end of the arguments.
-/

namespace EntityProjection

/-- Why a command line is refused, or answered with help alone. -/
inductive UsageFault where
  /-- A value is missing, empty or not one that the option takes. -/
  | invalidValue
  /-- An argument is not known. -/
  | unknownArgument
  /-- There is no such command. -/
  | unknownCommand
  /-- An option that has to be given is not. -/
  | missingArgument
  /-- A parameter is given twice. -/
  | repeatedArgument
  /-- A flag has a value. -/
  | needlessValue
  /-- There is no command behind the flags. -/
  | missingCommand
  /-- Help is asked for. -/
  | help
  /-- Help is shown because there are no arguments. -/
  | helpInstead
  deriving DecidableEq, Repr, Inhabited

/-- What a parameter takes. -/
inductive ParameterKind where
  /-- Nothing; help is shown at once. -/
  | help
  /-- Nothing. -/
  | flag
  /-- A path, which is not empty. -/
  | path
  /-- Any text. -/
  | text
  /-- A truth value. -/
  | truth
  deriving DecidableEq, Repr, Inhabited

namespace ParameterKind

/-- Whether a parameter takes a value. -/
def takesValue : ParameterKind → Bool
  | .help => false
  | .flag => false
  | _ => true

/-- Whether a parameter takes the given value. -/
def accepts : ParameterKind → String → Bool
  | .path, value => !value.isEmpty
  | .truth, value => value == "true" || value == "false"
  | _, _ => true

end ParameterKind

/-- Something that may be given by name. -/
structure Parameter where
  name : String
  letter : Option Char := none
  kind : ParameterKind
  deriving DecidableEq, Repr, Inhabited

/-- The parameter that asks for help. -/
def helpParameter : Parameter := ⟨"help", some 'h', .help⟩

/-- The parameter that asks for more to be logged. -/
def verboseParameter : Parameter := ⟨"verbose", some 'v', .flag⟩

/-- What was given so far. -/
structure Arguments where
  /-- The parameters with their values, that of a flag being empty. -/
  given : List (String × String) := []
  /-- An option whose value may still come, with the value if it has. -/
  pending : Option (Parameter × Option String) := none
  deriving Inhabited

namespace Arguments

/-- The value given to a parameter. -/
def value? (a : Arguments) (name : String) : Option String :=
  a.given.lookup name

/-- Whether a parameter is given. -/
def has (a : Arguments) (name : String) : Bool :=
  (a.value? name).isSome

/-- Adds a parameter with its value, with none for a flag. -/
def add (a : Arguments) (p : Parameter) (value : Option String) : Except UsageFault Arguments :=
  if p.kind == .help then .error .help
  else if p.kind.takesValue && value.isNone then .error .invalidValue
  else if a.has p.name then .error .repeatedArgument
  else if !p.kind.accepts (value.getD "") then .error .invalidValue
  else .ok { a with given := a.given ++ [(p.name, value.getD "")] }

/-- Adds the pending option. -/
def settle (a : Arguments) : Except UsageFault Arguments :=
  match a.pending with
  | none => .ok a
  | some (p, value) => { a with pending := none }.add p value

/-- Adds a parameter after the pending option. -/
def give (a : Arguments) (p : Parameter) (value : Option String) :
    Except UsageFault Arguments := do
  (← a.settle).add p value

/-- Takes an option whose value may follow. -/
def await (a : Arguments) (p : Parameter) : Except UsageFault Arguments := do
  return { ← a.settle with pending := some (p, none) }

/-- Takes a parameter by its long name, perhaps with a value in the same argument. -/
def readLong (ps : List Parameter) (a : Arguments) (name : String) (value : Option String) :
    Except UsageFault Arguments :=
  match ps.find? fun p => p.name == name with
  | none => .error .unknownArgument
  | some p =>
    if p.kind.takesValue then
      match value with
      | some value => a.give p (some value)
      | none => a.await p
    else if value.isSome then .error .needlessValue
    else a.give p none

/-- The value that ends an argument of letters, without an equals sign before it. -/
def attachedValue? : List Char → Option String
  | [] => none
  | '=' :: value => some (String.ofList value)
  | value => some (String.ofList value)

/-- Takes parameters by their letters. -/
def readLetters (ps : List Parameter) (a : Arguments) : List Char → Except UsageFault Arguments
  | [] => .ok a
  | letter :: rest =>
    match ps.find? fun p => p.letter == some letter with
    | none => .error .unknownArgument
    | some p =>
      if p.kind.takesValue then
        match attachedValue? rest with
        | some value => a.give p (some value)
        | none => a.await p
      else do readLetters ps (← a.give p none) rest

/-- Takes an argument that is not given by name: the value that an option waits for. -/
def readWord? (a : Arguments) (word : String) : Option Arguments :=
  match a.pending with
  | some (p, none) => some { a with pending := some (p, some word) }
  | _ => none

end Arguments

/-- What an argument looks like. -/
inductive ArgumentShape where
  /-- Nothing after this one is given by name. -/
  | divider
  | long (name : String) (value : Option String)
  | letters (cs : List Char)
  | word
  deriving DecidableEq, Repr, Inhabited

/-- The shape of an argument. -/
def ArgumentShape.of (argument : String) : ArgumentShape :=
  match argument.toList with
  | ['-', '-'] => .divider
  | '-' :: '-' :: rest =>
    match rest.span (· != '=') with
    | (name, []) => .long (String.ofList name) none
    | (name, _ :: value) => .long (String.ofList name) (some (String.ofList value))
  | '-' :: c :: cs => .letters (c :: cs)
  | _ => .word

/-- Takes an argument given by name; another one is not taken. -/
def Arguments.readNamed? (ps : List Parameter) (a : Arguments) (argument : String) :
    Option (Except UsageFault Arguments) :=
  match ArgumentShape.of argument with
  | .long name value => some (a.readLong ps name value)
  | .letters cs => some (a.readLetters ps cs)
  | _ => none

/-- Takes the arguments of a command, which are all given by name. -/
def Arguments.readAll (ps : List Parameter) (a : Arguments) :
    List String → Except UsageFault Arguments
  | [] => a.settle
  | argument :: rest =>
    match a.readNamed? ps argument with
    | some result => do readAll ps (← result) rest
    | none =>
      if ArgumentShape.of argument == .divider then
        if rest.isEmpty then a.settle else .error .unknownArgument
      else
        match a.readWord? argument with
        | some a => readAll ps a rest
        | none => .error .unknownArgument

end EntityProjection
