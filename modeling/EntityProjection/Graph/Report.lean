import EntityProjection.Graph.Analysis
import EntityProjection.Json.Value

/-!
# The report of a graph

An analysis as it is printed: as text, with an arrow for every relation, cycle and broken relation,
or as a JSON value.
-/

namespace EntityProjection

/-- The arrow of a report. -/
def arrow : String := " → "

/-- An edge as a line of a report. -/
def RelationEdge.line (e : RelationEdge) : String :=
  s!"   {e.source}.{e.field}{arrow}{e.target} ({e.multiplicity.word})"

/-- A cycle as a line of a report, which ends where it starts. -/
def Cycle.line (c : Cycle) : String :=
  "   " ++ arrow.intercalate (c.path ++ c.path.head?.toList)

/-- A broken relation as a line of a report. -/
def brokenLine (pair : String × String) : String :=
  s!"   {pair.1}{arrow}{pair.2}"

/-- The lines about the cycles of a graph. -/
def GraphAnalysis.cycleLines (a : GraphAnalysis) : List String :=
  if a.cycles.isEmpty then ["✅ No cycles"]
  else
    "🔁 Cycles:" :: a.cycles.map Cycle.line ++
      "✂️  Broken relations:" :: a.broken.toList.map brokenLine

/-- The report line by line. -/
def GraphAnalysis.reportLines (a : GraphAnalysis) : List String :=
  s!"📊 Relation graph: {a.graph.names.length} entities, {a.graph.edges.length} edges" ::
    a.graph.edges.map RelationEdge.line ++ a.cycleLines ++
    ["📋 Order: " ++ ", ".intercalate a.order]

/-- A list of names as a JSON value. -/
def jsonNames (names : List String) : Json :=
  .array (names.map .text)

/-- An edge as a JSON value. -/
def RelationEdge.toJson (e : RelationEdge) : Json :=
  .object [("from", .text e.source), ("to", .text e.target), ("field", .text e.field),
    ("multiplicity", .text e.multiplicity.word)]

/-- The broken relations as a JSON value, by owner. -/
def BrokenEdges.toJson (b : BrokenEdges) : Json :=
  .object (b.byOwner.map fun (owner, targets) => (owner, jsonNames targets))

/-- An analysis as a JSON value. -/
def GraphAnalysis.toJson (a : GraphAnalysis) : Json :=
  .object [
    ("graph", .object [("names", jsonNames a.graph.names),
      ("edges", .array (a.graph.edges.map RelationEdge.toJson))]),
    ("cycles", .array (a.cycles.map fun c => .object [("path", jsonNames c.path)])),
    ("broken", .object [("edges", a.broken.toJson)]),
    ("order", jsonNames a.order)]

end EntityProjection
