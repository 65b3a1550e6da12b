import EntityProjection.CommandLine.Command
import EntityProjection.Declaration.Generation
import EntityProjection.Files.Output
import EntityProjection.Files.Settings
import EntityProjection.Files.Units
import EntityProjection.Graph.Report
import EntityProjection.Lint.Checks
import EntityProjection.Lint.Report
import EntityProjection.Unit.Collection
import EntityProjection.Unit.Extraction

/-!
# Execution

What a command does on a disk.  A command first finds out what it needs, which leaves the disk as it
is, and only the last step of generation may write a file.  How texts are decoded is a parameter of
all this.

* `Decoders`: how units and settings files are read;
* `Disk.loadModel`, `Disk.generation`: the model of a directory, and what is generated from it;
* `execute`: the outcome of a command, with the disk after it.
-/

namespace EntityProjection

/-! ### Decoders -/

/-- How the texts of units and of settings files are read. -/
structure Decoders where
  unit : Decoder
  settings : SettingsDecoder

/-- Units are read as YAML or JSON, and settings as TOML. -/
def Decoders.standard : Decoders where
  unit := UnitFormat.decode
  settings := Settings.ofText

/-! ### Analysis -/

/-- What is logged about the analysis of a graph. -/
def GraphAnalysis.events (a : GraphAnalysis) : List LogEvent :=
  let leftover := a.graph.leftover.length
  (if leftover == 0 then [] else [.leftoverOrdered leftover]) ++
    .cyclesSearched a.cycles.length ::
    (breakingSteps a.cycles).map fun (source, target) => .relationBroken source target

/-- What is logged about the analysis of a graph in the given span. -/
def GraphAnalysis.entries (a : GraphAnalysis) (span : Option AnalysisSpan) : List LogEntry :=
  a.events.map fun event => { event, span }

/-! ### Models -/

/-- The model of the units in a directory. -/
def Disk.loadModel (disk : Disk) (directory : String) (decode : Decoder) :
    Traced Failure EntityModel := do
  let units ← disk.readUnits directory
  Traced.log ((EntityModel.extractions (extractWith decode) units).map fun (unit, count) =>
    { event := .entitiesExtracted unit count })
  Traced.ofExcept ((EntityModel.collect (extractWith decode) units).mapError (.collection directory))

/-- What is generated from a model. -/
def EntityModel.tracedGeneration (model : EntityModel) (options : Options) :
    Traced Failure Generation := do
  let a := model.analysis
  Traced.log (a.entries (some ⟨model.size⟩))
  Traced.event (.graphAnalysed a.graph.names.length a.graph.edges.length a.cycles.length
    a.broken.size)
  Traced.event (.declarationsProjected (model.declarations a options).length)
  Traced.ofExcept ((model.generate options).mapError .generation)

/-- The settings that a request gives for its run. -/
def GenerateRequest.overrides (r : GenerateRequest) : Overrides where
  target := r.target
  usePartialTypes := r.partialTypes
  container := r.container

/-- What a request generates from the units on a disk. -/
def Disk.generation (disk : Disk) (r : GenerateRequest) (decoders : Decoders) :
    Traced Failure Generation := do
  let options ← disk.resolveOptions r.settings r.input r.overrides decoders.settings
  let model ← disk.loadModel r.input decoders.unit
  let generation ← model.tracedGeneration options
  Traced.event (.generationFinished generation.declarations.length options.target.name)
  pure generation

/-- What a request finds in the model of the units on a disk. -/
def Disk.findings (disk : Disk) (r : LintRequest) (decoders : Decoders) :
    Traced Failure (List Finding) := do
  let options ← disk.resolveOptions r.settings r.input {} decoders.settings
  let model ← disk.loadModel r.input decoders.unit
  let findings := model.findings options
  pure (if r.errorsOnly then findings.filter Finding.isError else findings)

/-- The relations of the model of the units on a disk. -/
def Disk.graph (disk : Disk) (r : GraphRequest) (decode : Decoder) :
    Traced Failure GraphAnalysis := do
  let model ← disk.loadModel r.input decode
  let a := model.analysis
  Traced.log (a.entries none)
  pure a

/-! ### Printing -/

/-- Lines as they are printed. -/
def printedLines (lines : List String) : String :=
  String.join (lines.map (· ++ "\n"))

/-- What a dry run prints. -/
def Generation.dryRun (g : Generation) (output : Option String) : String :=
  let destination := (output.map Text.quoted).getD "stdout"
  let summary := s!"🔍 Dry run: would write {g.declarations.length} declaration(s) for " ++
    s!"{g.analysis.order.length} entities to {destination}"
  printedLines (summary :: g.declarations.map fun d => "   " ++ d.name)

/-- What is printed about a graph. -/
def GraphAnalysis.printed (a : GraphAnalysis) (json : Bool) : String :=
  if json then a.toJson.pretty 0 ++ "\n" else printedLines a.reportLines

/-! ### Outcomes -/

/-- What became of a command. -/
structure Outcome where
  /-- The disk afterwards. -/
  disk : Disk
  printed : String := ""
  entries : List LogEntry := []
  result : Except Failure Unit := .ok ()
  deriving Inhabited

/-- The outcome of a command that leaves the disk as it is. -/
def Outcome.ofTraced {α : Type} (disk : Disk) (way : Traced Failure α)
    (finish : α → String × Except Failure Unit) : Outcome :=
  match way.result with
  | .error e => { disk, entries := way.entries, result := .error e }
  | .ok a =>
    let (printed, result) := finish a
    { disk, printed, entries := way.entries, result }

/-- Hands over what was generated: to the output file, or as printed text. -/
def deliver (disk : Disk) (r : GenerateRequest) (entries : List LogEntry) (g : Generation) :
    Outcome :=
  if r.dryRun then { disk, printed := g.dryRun r.output, entries }
  else
    match r.output with
    | none => { disk, printed := g.output, entries }
    | some path =>
      match disk.writeOutput path g.output r.force with
      | (disk, .error e) => { disk, entries, result := .error e }
      | (disk, .ok outcome) => { disk, printed := outcome.notice path, entries }

/-- Generates declarations. -/
def executeGenerate (disk : Disk) (r : GenerateRequest) (decoders : Decoders) : Outcome :=
  let way := disk.generation r decoders
  match way.result with
  | .error e => { disk, entries := way.entries, result := .error e }
  | .ok g => deliver disk r way.entries g

/-- Checks a model. -/
def executeLint (disk : Disk) (r : LintRequest) (decoders : Decoders) : Outcome :=
  .ofTraced disk (disk.findings r decoders) fun findings =>
    (report findings,
      if r.failOnError && hasErrors findings then
        .error (.lintErrors (findings.filter Finding.isError).length)
      else .ok ())

/-- Shows the relations of a model. -/
def executeGraph (disk : Disk) (r : GraphRequest) (decoders : Decoders) : Outcome :=
  .ofTraced disk (disk.graph r decoders.unit) fun a => (a.printed r.json, .ok ())

/-- The outcome of a command. -/
def execute (disk : Disk) (command : Command) (decoders : Decoders := .standard) : Outcome :=
  match command with
  | .generate r => executeGenerate disk r decoders
  | .lint r => executeLint disk r decoders
  | .graph r => executeGraph disk r decoders

end EntityProjection
