import EntityProjection.Log.Directive

/-!
# Log filters

Which events are logged.  Of the rules that concern an event, the most specific one decides: that
with the longest target, and of equal ones that with the most fields.  Inside a span that a directive
names, that directive's level holds as well.
-/

namespace EntityProjection

/-- How much is logged of events, wherever they happen. -/
structure LogRule where
  target : Option String := none
  /-- The fields that an event has to have. -/
  fields : List String := []
  limit : Nat
  deriving DecidableEq, Repr, Inhabited

namespace LogRule

/-- The rule of a directive. -/
def ofDirective (d : LogDirective) : LogRule :=
  ⟨d.target, d.fields.map Prod.fst, d.limit⟩

/-- Whether two rules concern the same events by the same means. -/
def isLike (r other : LogRule) : Bool :=
  r.target == other.target && r.fields == other.fields

/-- The length of a rule's target, which counts more than none even if it is empty. -/
def reach (r : LogRule) : Nat :=
  (r.target.map fun target => target.utf8ByteSize + 1).getD 0

/-- Whether a rule goes before another one that concerns the same events. -/
def isBefore (r other : LogRule) : Bool :=
  other.reach < r.reach ||
    (r.reach == other.reach && (other.fields.length < r.fields.length ||
      (r.fields.length == other.fields.length && other.fields < r.fields)))

/-- Whether a rule concerns a module. -/
def concernsModule (r : LogRule) (origin : String) : Bool :=
  r.target.all fun target => target.toList.isPrefixOf origin.toList

/-- Whether a rule concerns an event. -/
def concerns (r : LogRule) (event : LogEvent) : Bool :=
  r.concernsModule event.origin &&
    r.fields.all fun name => event.fields.any fun field => field.1 == name

end LogRule

/-- The first of some rules. -/
def firstRule? : List LogRule → Option LogRule
  | [] => none
  | r :: rs =>
    match firstRule? rs with
    | none => some r
    | some best => some (if best.isBefore r then best else r)

/-- Which events are logged. -/
structure LogFilter where
  rules : List LogRule := []
  /-- Directives that concern spans. -/
  spans : List LogDirective := []
  deriving DecidableEq, Repr, Inhabited

namespace LogFilter

/-- Adds a rule, which takes the place of one like it. -/
def addRule (f : LogFilter) (r : LogRule) : LogFilter :=
  { f with rules := (f.rules.filter fun other => !other.isLike r) ++ [r] }

/-- Adds a directive that concerns spans, which takes the place of one for the same spans. -/
def addSpan (f : LogFilter) (d : LogDirective) : LogFilter :=
  { f with spans := (f.spans.filter fun other => { other with limit := d.limit } != d) ++ [d] }

/-- Adds a directive. -/
def add (f : LogFilter) (d : LogDirective) : LogFilter :=
  if d.isStatic then f.addRule (.ofDirective d) else f.addSpan d

/-- The filter of some directives.  One that names fields alone concerns events and spans. -/
def ofDirectives (ds : List LogDirective) : LogFilter :=
  let plain := ds.filter fun d => !d.isDynamic
  let dynamic := ds.filter LogDirective.isDynamic
  let rules := plain ++ dynamic.filter LogDirective.isStatic
  dynamic.foldl addSpan (rules.foldl (fun f d => f.addRule (.ofDirective d)) {})

/-- The filter that logs down to a level. -/
def ofLevel (level : LogLevel) : LogFilter :=
  { rules := [{ limit := level.verbosity }] }

/-- Whether a directive concerns the span of an analysis, by its module, name and fields. -/
def concernsAnalysis (d : LogDirective) : Bool :=
  (LogRule.ofDirective d).concernsModule AnalysisSpan.origin &&
    d.span.all (· == AnalysisSpan.name) &&
    d.fields.all fun field => field.1 == "entities"

/-- Whether the values that a directive asks for are those of a span. -/
def valuesMatch (d : LogDirective) (span : AnalysisSpan) : Bool :=
  d.fields.all fun field =>
    field.2.all fun value => LogDirective.number? value.toList == some span.entities

/-- The verbosity that directives allow inside a span. -/
def spanLimit (f : LogFilter) (span : AnalysisSpan) : Nat :=
  (f.spans.filter fun d => concernsAnalysis d && valuesMatch d span).foldl
    (fun n d => max n d.limit) 0

/-- The verbosity that rules allow for an event. -/
def eventLimit (f : LogFilter) (event : LogEvent) : Nat :=
  ((firstRule? (f.rules.filter fun r => r.concerns event)).map LogRule.limit).getD 0

/-- Whether an entry is logged. -/
def passes (f : LogFilter) (entry : LogEntry) : Bool :=
  entry.event.level.verbosity ≤ f.eventLimit entry.event ||
    entry.span.any fun span => entry.event.level.verbosity ≤ f.spanLimit span

/-- Whether log lines tell of the span of an analysis. -/
def showsSpan (f : LogFilter) : Bool :=
  f.spans.any concernsAnalysis ||
    (firstRule? (f.rules.filter fun r => r.concernsModule AnalysisSpan.origin)).any
      fun r => AnalysisSpan.level.verbosity ≤ r.limit

end LogFilter

end EntityProjection
