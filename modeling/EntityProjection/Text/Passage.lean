/-!
# Passages

What a reader could make of a listing in a text: the items before the text breaks off, and whether
the listing was read to its end.  A value that is decoded front to back meets the items first and
the break only after them, so that an objection to an item comes before the one to the broken text.
-/

namespace EntityProjection.Text

/-- The items of a listing that could be read. -/
structure Passage (α : Type) where
  items : List α
  /-- Whether the listing was read to its end. -/
  closed : Bool
  deriving Repr

/-- A listing without items. -/
def Passage.empty {α : Type} : Passage α := ⟨[], true⟩

end EntityProjection.Text
