import EntityProjection.Log.Filter

/-!
# Log settings

How a run logs is set by variables of its environment: the level, the form of the lines, more
directives, and whether lines tell where in the program they come from.  One more variable, if it is
set and well-formed, stands in for the level.
-/

namespace EntityProjection

/-- The form of log lines. -/
inductive LogFormat where
  | json
  | pretty
  deriving DecidableEq, Repr, Inhabited

/-- The form that a text names, in any ASCII case. -/
def LogFormat.ofName (text : String) : LogFormat :=
  if text.toLower == "json" then .json else .pretty

/-- How a run logs. -/
structure LogSettings where
  /-- The name of a level. -/
  level : String := "warn"
  format : LogFormat := .pretty
  /-- More directives, divided by commas. -/
  filter : Option String := none
  /-- Whether lines tell where they come from. -/
  located : Bool := false
  deriving DecidableEq, Repr, Inhabited

namespace LogSettings

/-- The settings that variables make. -/
def ofVariables (lookup : String → Option String) : LogSettings where
  level := (lookup "ETG_LOG_LEVEL").getD "warn"
  format := ((lookup "ETG_LOG_FORMAT").map LogFormat.ofName).getD .pretty
  filter := (lookup "ETG_LOG_FILTER").filter fun text => !Text.isBlankText text
  located := lookup "ETG_LOG_LOCATION" == some "true"

/-- The settings with more logged. -/
def verbose (s : LogSettings) : LogSettings :=
  { s with level := "debug" }

/-- The level down to which events are logged; a name of none stands for warnings. -/
def logLevel (s : LogSettings) : LogLevel :=
  (LogLevel.ofName? s.level).getD .warn

/-- The directives that are given besides the level, blanks around them removed. -/
def extraDirectives (s : LogSettings) : List String :=
  match s.filter with
  | none => []
  | some text => ((LogDirective.partsOf text).map Text.trim).filter fun part => !part.isEmpty

/-- The filter of a run, in which directives replace the level if they are given and well-formed. -/
def toFilter (s : LogSettings) (replacement : Option String) : LogFilter :=
  let base := match replacement.bind LogDirective.listOf? with
    | some directives => LogFilter.ofDirectives directives
    | none => LogFilter.ofLevel s.logLevel
  (s.extraDirectives.filterMap LogDirective.parse?).foldl LogFilter.add base

/-- What is said about directives that are ill-formed. -/
def warnings (s : LogSettings) : List String :=
  (s.extraDirectives.filter fun part => (LogDirective.parse? part).isNone).map fun part =>
    s!"Warning: Invalid log filter directive: {part}"

/-- The log lines of some entries. -/
def lines (s : LogSettings) (f : LogFilter) (entries : List LogEntry) : List Json :=
  match s.format with
  | .pretty => []
  | .json => (entries.filter f.passes).map fun entry => entry.toJson s.located f.showsSpan

end LogSettings

end EntityProjection
