import EntityProjection.Declaration.Container
import EntityProjection.Declaration.Projection
import EntityProjection.Graph.Analysis

/-!
# Generation

From a model and options to the generated text: the relations are analysed, the entities projected
in emission order, and the declarations put into one container.
-/

namespace EntityProjection

/-- The result of a run. -/
structure Generation where
  analysis : GraphAnalysis
  /-- The declarations in emission order. -/
  declarations : List Declaration
  output : String

/-- How a model is projected once it is analysed. -/
def EntityModel.projection (model : EntityModel) (analysis : GraphAnalysis) (options : Options) :
    Projection :=
  ⟨model.keys, analysis.broken, options⟩

/-- The declarations of a model in emission order. -/
def EntityModel.declarations (model : EntityModel) (analysis : GraphAnalysis)
    (options : Options) : List Declaration :=
  (analysis.order.filterMap model.get?).flatMap (model.projection analysis options).declarations

/-- Generates the declarations of a model. -/
def EntityModel.generate (model : EntityModel) (options : Options) :
    Except GenerationError Generation := do
  let analysis := model.analysis
  let declarations := model.declarations analysis options
  let output ← assemble declarations options
  return { analysis, declarations, output }

end EntityProjection
