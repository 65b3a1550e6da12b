import EntityProjection.CommandLine.Command
import EntityProjection.CommandLine.Parameter

/-!
# Command lines

A command line is a command with its parameters.  Before the command there may be flags that concern
all commands, which may also stand behind it.

* `Invocation.parse`: the arguments behind the program's name, taken for a command line.
-/

namespace EntityProjection

/-- The commands by name. -/
inductive CommandName where
  | generate
  | lint
  | graph
  deriving DecidableEq, Repr, Inhabited

namespace CommandName

/-- The command of a name. -/
def ofName? : String → Option CommandName
  | "generate" => some .generate
  | "lint" => some .lint
  | "graph" => some .graph
  | _ => none

/-- The parameters of a command. -/
def parameters : CommandName → List Parameter
  | .generate => [⟨"input", some 'i', .path⟩, ⟨"output", some 'o', .path⟩,
      ⟨"target", some 't', .text⟩, ⟨"partial-types", none, .truth⟩, ⟨"namespace", none, .text⟩,
      ⟨"config", none, .path⟩, ⟨"force", some 'f', .flag⟩, ⟨"dry-run", none, .flag⟩,
      verboseParameter, helpParameter]
  | .lint => [⟨"input", some 'i', .path⟩, ⟨"config", none, .path⟩,
      ⟨"fail-on-error", none, .flag⟩, ⟨"errors-only", none, .flag⟩, verboseParameter,
      helpParameter]
  | .graph => [⟨"input", some 'i', .path⟩, ⟨"json", none, .flag⟩, verboseParameter,
      helpParameter]

/-- The command that arguments amount to, for the given directory. -/
def command (a : Arguments) (input : String) : CommandName → Command
  | .generate => .generate {
      input
      output := a.value? "output"
      target := a.value? "target"
      partialTypes := (a.value? "partial-types").map (· == "true")
      container := a.value? "namespace"
      settings := a.value? "config"
      force := a.has "force"
      dryRun := a.has "dry-run" }
  | .lint => .lint {
      input
      settings := a.value? "config"
      failOnError := a.has "fail-on-error"
      errorsOnly := a.has "errors-only" }
  | .graph => .graph { input, json := a.has "json" }

/-- The command line of a command with the given arguments. -/
def parse (verbose : Bool) (arguments : List String) (name : CommandName) :
    Except UsageFault Invocation := do
  let a ← Arguments.readAll name.parameters {} arguments
  match a.value? "input" with
  | none => throw .missingArgument
  | some input =>
    return { verbose := verbose || a.has verboseParameter.name, command := name.command a input }

end CommandName

namespace Invocation

/-- The answer to a request for help on a command. -/
def helpFault : List String → UsageFault
  | [] => .help
  | [name] =>
    if name == "help" || (CommandName.ofName? name).isSome then .help else .unknownCommand
  | _ => .unknownCommand

/-- What is wrong with a command line that ends before a command. -/
def endFault (a : Arguments) : UsageFault :=
  if a.given.isEmpty then .helpInstead else .missingCommand

/-- What is wrong with a command line that has a divider before the command. -/
def dividerFault (a : Arguments) : List String → UsageFault
  | [] => endFault a
  | word :: _ =>
    if word == "help" || (CommandName.ofName? word).isSome then .unknownArgument
    else .unknownCommand

/-- The command line of the given arguments, behind those taken already. -/
def parseFrom (a : Arguments) : List String → Except UsageFault Invocation
  | [] => .error (endFault a)
  | argument :: rest =>
    match a.readNamed? [verboseParameter, helpParameter] argument with
    | some result => do parseFrom (← result) rest
    | none =>
      if ArgumentShape.of argument == .divider then .error (dividerFault a rest)
      else
        match CommandName.ofName? argument with
        | some name => name.parse (a.has verboseParameter.name) rest
        | none =>
          if argument == "help" then .error (helpFault rest) else .error .unknownCommand

/-- The command line of the given arguments. -/
def parse (arguments : List String) : Except UsageFault Invocation :=
  parseFrom {} arguments

end Invocation

end EntityProjection
