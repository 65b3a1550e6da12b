import EntityProjection.Json.Value

/-!
# Log events

What a run reports while it works.  Every event has a level, the module that reports it, a message
and some fields; an event may happen inside the span in which a graph is analysed.
-/

namespace EntityProjection

/-- How important an event is. -/
inductive LogLevel where
  | error
  | warn
  | info
  | debug
  | trace
  deriving DecidableEq, Repr, Inhabited

namespace LogLevel

/-- How much is logged where events down to a level are: the higher, the less important. -/
def verbosity : LogLevel → Nat
  | .error => 1
  | .warn => 2
  | .info => 3
  | .debug => 4
  | .trace => 5

/-- The name of a level. -/
def name : LogLevel → String
  | .error => "ERROR"
  | .warn => "WARN"
  | .info => "INFO"
  | .debug => "DEBUG"
  | .trace => "TRACE"

/-- All levels. -/
def all : List LogLevel :=
  [.error, .warn, .info, .debug, .trace]

/-- The level of a name in any ASCII case. -/
def ofName? (name : String) : Option LogLevel :=
  all.find? fun level => level.name == name.toUpper

end LogLevel

/-- A field of an event or a span. -/
abbrev LogField := String × Json

/-- What is reported. -/
inductive LogEvent where
  | settingsUsed (path : String)
  | unitLoaded (unit : String)
  | entitiesExtracted (unit : String) (count : Nat)
  | leftoverOrdered (count : Nat)
  | cyclesSearched (count : Nat)
  | relationBroken (source target : String)
  | graphAnalysed (entities edges cycles broken : Nat)
  | declarationsProjected (count : Nat)
  | generationFinished (declarations : Nat) (family : String)
  deriving DecidableEq, Repr, Inhabited

namespace LogEvent

/-- The level of an event. -/
def level : LogEvent → LogLevel
  | .graphAnalysed .. => .info
  | .generationFinished .. => .info
  | _ => .debug

/-- The module that reports an event. -/
def origin : LogEvent → String
  | .settingsUsed .. => "entity_typegen::cli::commands"
  | .unitLoaded .. => "entity_typegen::source::load"
  | .entitiesExtracted .. => "entity_typegen::model::collect"
  | .leftoverOrdered .. => "entity_typegen::graph::order"
  | .cyclesSearched .. => "entity_typegen::graph::cycles"
  | .relationBroken .. => "entity_typegen::graph::cycles"
  | .graphAnalysed .. => "entity_typegen::generator::pipeline"
  | .declarationsProjected .. => "entity_typegen::generator::pipeline"
  | .generationFinished .. => "entity_typegen::cli::commands"

/-- The message of an event. -/
def message : LogEvent → String
  | .settingsUsed .. => "using generator config"
  | .unitLoaded .. => "loaded entity unit"
  | .entitiesExtracted .. => "extracted entities"
  | .leftoverOrdered .. => "ordering entities left on cycles"
  | .cyclesSearched .. => "cycle search finished"
  | .relationBroken .. => "breaking relation"
  | .graphAnalysed .. => "relation graph analysed"
  | .declarationsProjected .. => "declarations projected"
  | .generationFinished .. => "generation finished"

/-- The fields of an event besides its message. -/
def details : LogEvent → List LogField
  | .settingsUsed path => [("config", .text path)]
  | .unitLoaded unit => [("source", .text unit)]
  | .entitiesExtracted unit count => [("source", .text unit), ("count", .number count)]
  | .leftoverOrdered count => [("count", .number count)]
  | .cyclesSearched count => [("count", .number count)]
  | .relationBroken source target => [("from", .text source), ("to", .text target)]
  | .graphAnalysed entities edges cycles broken =>
    [("entities", .number entities), ("edges", .number edges), ("cycles", .number cycles),
      ("broken", .number broken)]
  | .declarationsProjected count => [("count", .number count)]
  | .generationFinished declarations family =>
    [("declarations", .number declarations), ("family", .text family)]

/-- All fields of an event. -/
def fields (event : LogEvent) : List LogField :=
  ("message", .text event.message) :: event.details

end LogEvent

/-- The span in which the graph of so many entities is analysed. -/
structure AnalysisSpan where
  entities : Nat
  deriving DecidableEq, Repr, Inhabited

namespace AnalysisSpan

/-- The name of the span. -/
def name : String := "analyze"

/-- The module in which the span lies. -/
def origin : String := "entity_typegen::generator::pipeline"

/-- The level of the span. -/
def level : LogLevel := .info

/-- The span as a log line tells of it. -/
def toJson (span : AnalysisSpan) : Json :=
  .object [("entities", .number span.entities), ("name", .text name)]

end AnalysisSpan

/-- An event, and the span in which it happens. -/
structure LogEntry where
  event : LogEvent
  span : Option AnalysisSpan := none
  deriving DecidableEq, Repr, Inhabited

/-- A log line: where the location is asked for, it is told that there is one. -/
def LogEntry.toJson (entry : LogEntry) (located spanShown : Bool) : Json :=
  .object ([("level", .text entry.event.level.name), ("fields", .object entry.event.fields),
      ("target", .text entry.event.origin)] ++
    (if located then [("filename", .truth true), ("line_number", .truth true)] else []) ++
    match entry.span with
    | some span =>
      if spanShown then [("span", span.toJson), ("spans", .array [span.toJson])] else []
    | none => [])

end EntityProjection
