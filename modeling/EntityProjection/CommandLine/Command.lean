/-!
# Commands

What can be asked for on the command line: to generate declarations, to check a model, or to show
its relations; each for the units of a directory.
-/

namespace EntityProjection

/-- Generate declarations. -/
structure GenerateRequest where
  input : String
  output : Option String := none
  target : Option String := none
  partialTypes : Option Bool := none
  container : Option String := none
  settings : Option String := none
  force : Bool := false
  dryRun : Bool := false
  deriving DecidableEq, Repr, Inhabited

/-- Check a model. -/
structure LintRequest where
  input : String
  settings : Option String := none
  failOnError : Bool := false
  errorsOnly : Bool := false
  deriving DecidableEq, Repr, Inhabited

/-- Show the relations of a model. -/
structure GraphRequest where
  input : String
  json : Bool := false
  deriving DecidableEq, Repr, Inhabited

/-- What is asked for. -/
inductive Command where
  | generate (request : GenerateRequest)
  | lint (request : LintRequest)
  | graph (request : GraphRequest)
  deriving DecidableEq, Repr, Inhabited

/-- A command line. -/
structure Invocation where
  /-- Whether more is to be logged. -/
  verbose : Bool := false
  command : Command
  deriving DecidableEq, Repr, Inhabited

end EntityProjection
