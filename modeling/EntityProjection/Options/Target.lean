import EntityProjection.Text.Blank

/-!
# Target families

The families of validator generators that read the declarations.  A family is chosen by name, in
any ASCII case and with blanks around it, and decides whether relations refer to partial
declarations unless a setting says otherwise.
-/

namespace EntityProjection

/-- A family of validator generators. -/
inductive TargetFamily where
  | zod
  | valibot
  | yup
  | joi
  deriving DecidableEq, Repr, Inhabited

namespace TargetFamily

/-- All families, in the order in which a message lists them. -/
def all : List TargetFamily :=
  [.zod, .valibot, .yup, .joi]

/-- The name of a family. -/
def name : TargetFamily → String
  | .zod => "zod"
  | .valibot => "valibot"
  | .yup => "yup"
  | .joi => "joi"

/-- A text with the blanks at its ends removed and ASCII letters lowercase. -/
def plainName (text : String) : String :=
  (Text.trim text).toLower

/-- The family a text names. -/
def ofName? (text : String) : Option TargetFamily :=
  all.find? fun family => family.name == plainName text

/-- Whether relations refer to partial declarations by default: the families that can refer to a
schema before it is defined do so. -/
def usesPartialTypes : TargetFamily → Bool
  | .zod => true
  | .valibot => true
  | .yup => false
  | .joi => false

end TargetFamily

end EntityProjection
