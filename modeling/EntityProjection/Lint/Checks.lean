import EntityProjection.Declaration.Projection
import EntityProjection.Entity.Model
import EntityProjection.Lint.Finding

/-!
# The checks of a model

A model is checked against the options it will be generated with: the settings first, then the
entities in ascending order, then the declaration names.

* `settingFindings`: the names in the options;
* `entityFindings`: the name, the key and the relations of one entity;
* `collisionFindings`: declaration names that are used again, the entities in ascending order before
  their partial declarations, and the collection before both.
-/

namespace EntityProjection

/-! ### Settings -/

/-- A finding about a setting that has to be an identifier. -/
def nameSettingFindings (setting : NameSetting) (value : String) : List Finding :=
  if Text.isIdentifier value then [] else [.invalidSetting setting value]

/-- Whether a suffix keeps identifiers being identifiers.  The empty one does; that it makes every
partial declaration collide with its entity is found elsewhere. -/
def isSuffix (suffix : String) : Bool :=
  suffix.toList.all Text.isIdentifierRest

/-- The findings about the options. -/
def settingFindings (options : Options) : List Finding :=
  nameSettingFindings .container options.container ++
    nameSettingFindings .collectionType options.collectionType ++
    if isSuffix options.partialSuffix then [] else [.invalidSuffix options.partialSuffix]

/-! ### Entities -/

/-- A finding about the name of an entity. -/
def entityNameFindings (name : String) : List Finding :=
  if !Text.isIdentifier name then [.invalidEntityName name]
  else if !Text.isPascalCase name then [.entityNameCasing name]
  else []

/-- A finding about a relation of an entity. -/
def relationFindings (keys : KeyIndex) (entity : String) (r : Relation) : List Finding :=
  if !keys.isKnown r.target then [.unresolvedTarget entity r (r.declared.getD opaqueType)]
  else if (keys.key? r.target).isNone then [.keylessTarget entity r]
  else []

/-- The findings about one entity. -/
def entityFindings (keys : KeyIndex) (e : Entity) : List Finding :=
  entityNameFindings e.name ++
    (if e.key.isNone then [.missingKey e.name] else []) ++
    e.relations.flatMap (relationFindings keys e.name)

/-! ### Declaration names -/

/-- The declaration names of a model with their origins, in the order in which they are checked. -/
def declaredNames (model : EntityModel) (options : Options) : List (String × NameOrigin) :=
  model.names.map (fun name => (name, .entity name)) ++
    (model.names.filter fun name => (model.keys.key? name).isSome).map fun name =>
      (options.partialName name, .companion name)

/-- The findings about names that are used again, given what the names before come from. -/
def collisionFindings (declared : Std.ExtTreeMap String NameOrigin) :
    List (String × NameOrigin) → List Finding
  | [] => []
  | (name, origin) :: rest =>
    match declared[name]? with
    | some first => .nameCollision name first origin :: collisionFindings declared rest
    | none => collisionFindings (declared.insert name origin) rest

/-! ### Models -/

/-- All findings about a model and the options it will be generated with. -/
def EntityModel.findings (model : EntityModel) (options : Options) : List Finding :=
  settingFindings options ++
    (model.names.filterMap model.get?).flatMap (entityFindings model.keys) ++
    collisionFindings ((∅ : Std.ExtTreeMap String NameOrigin).insert options.collectionType
      .collection) (declaredNames model options)

/-- Whether a finding is an error. -/
def Finding.isError (finding : Finding) : Bool :=
  finding.severity == .error

/-- Whether any finding is an error. -/
def hasErrors (findings : List Finding) : Bool :=
  findings.any Finding.isError

end EntityProjection
