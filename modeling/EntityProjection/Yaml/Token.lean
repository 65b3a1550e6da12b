/-!
# YAML tokens

The parts a YAML text is made of: marks that open, divide and close collections, properties, and
scalars.  A block collection, which the text shows by its indentation alone, has marks of its own.
-/

namespace EntityProjection.Yaml

/-- How a scalar is written. -/
inductive ScalarStyle where
  | plain
  | quoted
  | literal
  | folded
  deriving DecidableEq, Repr, Inhabited

/-- The bytes that spell a tag.  They need not be those of a text, because a tag may escape any. -/
abbrev TagBytes := List UInt8

/-- The bytes of a text of ASCII characters. -/
def asciiBytes (s : String) : TagBytes :=
  s.toList.map Char.toUInt8

/-- A part of a text. -/
inductive Token where
  | streamEnd
  | versionDirective (major minor : Nat)
  | tagDirective (handle : String) (start : TagBytes)
  | documentStart
  | documentEnd
  | blockSequenceStart
  | blockMappingStart
  | blockEnd
  | flowSequenceStart
  | flowSequenceEnd
  | flowMappingStart
  | flowMappingEnd
  | blockEntry
  | flowEntry
  | key
  | value
  | alias (name : String)
  | anchor (name : String)
  | tag (handle : String) (suffix : TagBytes)
  | scalar (text : String) (style : ScalarStyle)
  deriving DecidableEq, Repr, Inhabited

end EntityProjection.Yaml
