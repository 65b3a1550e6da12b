import EntityProjection.Lint.Finding

/-!
# The report of a check

Findings as they are printed: a count, and then one group per severity that occurs, the most serious
first.
-/

namespace EntityProjection

/-- The heading of the findings of a severity. -/
def Severity.heading : Severity → String
  | .error => "❌ Errors (must fix):"
  | .warning => "⚠️  Warnings (should fix):"
  | .info => "ℹ️  Info (best practices):"

/-- The findings of a severity. -/
def ofSeverity (findings : List Finding) (severity : Severity) : List Finding :=
  findings.filter fun finding => finding.severity == severity

/-- A finding over two or three lines. -/
def Finding.lines (finding : Finding) : List String :=
  [s!"   [{finding.code}] {finding.location}", s!"      {finding.message}"] ++
    match finding.suggestion? with
    | none => []
    | some suggestion => [s!"      💡 Suggestion: {suggestion}"]

/-- The group of the findings of a severity, empty if there are none. -/
def groupLines (findings : List Finding) (severity : Severity) : List String :=
  match ofSeverity findings severity with
  | [] => []
  | group => severity.heading :: group.flatMap Finding.lines ++ [""]

/-- The report line by line. -/
def reportLines (findings : List Finding) : List String :=
  if findings.isEmpty then ["✅ No lint issues found!"]
  else
    let count severity := (ofSeverity findings severity).length
    ["", "📋 Lint Results:",
      s!"   {count .error} error(s), {count .warning} warning(s), {count .info} info(s)", ""] ++
      [.error, .warning, .info].flatMap (groupLines findings)

/-- The report. -/
def report (findings : List Finding) : String :=
  String.join ((reportLines findings).map (· ++ "\n"))

end EntityProjection
