import EntityProjection.Declaration.Render
import EntityProjection.Error
import EntityProjection.Names
import EntityProjection.Options.Basic

/-!
# The container of all declarations

The generated text: one namespace with the collection declaration first and all others after it in
the given order.  It exists only if every name in it is an identifier and no two declarations share
a name.
-/

namespace EntityProjection

/-- The names that a container writes, in the order in which they are checked. -/
def containerNames (ds : List Declaration) (options : Options) : List String :=
  options.container :: options.collectionType :: ds.map Declaration.name

/-- The text of a container. -/
def containerText (ds : List Declaration) (options : Options) : String :=
  "// Generated by entity-typegen. Do not edit.\nexport namespace " ++ options.container ++
    " \x7b\n" ++ collectionBlock 1 options.collectionType ++
    String.join (ds.map fun d => "\n\n" ++ d.block 1) ++ "\n\x7d\n"

/-- The container of the given declarations, or the first name that spoils it. -/
def assemble (ds : List Declaration) (options : Options) : Except GenerationError String :=
  match (containerNames ds options).find? fun name => !Text.isIdentifier name with
  | some name => .error (.invalidDeclarationName name)
  | none =>
    match firstTaken? (.ofList [options.collectionType]) (ds.map Declaration.name) with
    | some name => .error (.declarationCollision name)
    | none => .ok (containerText ds options)

end EntityProjection
