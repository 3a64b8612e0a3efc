/-!
# Position — lines and columns

A position is a line and a column, both counted from zero; columns count bytes.  Positions are
ordered by line first, and written `line:column`.
-/

namespace TextScan

/-- Whatever can report a line and a column. -/
class Location (α : Type) where
  line : α → Nat
  column : α → Nat

/-- A line and a column, kept apart from the place they were read off. -/
structure Pos where
  line : Nat := 0
  column : Nat := 0
  deriving DecidableEq, Repr, Inhabited

namespace Pos

/-- The position that a location reports. -/
def of {α : Type} [Location α] (place : α) : Pos :=
  ⟨Location.line place, Location.column place⟩

instance : Location Pos := ⟨Pos.line, Pos.column⟩

/-- Positions compare by line, and by column on one line. -/
instance : Ord Pos where
  compare a b := (compare a.line b.line).then (compare a.column b.column)

/-- The later of two positions. -/
def max (a b : Pos) : Pos :=
  if compare a b = .gt then a else b

/-- The position a number of lines further down. -/
def below (p : Pos) (n : Nat) : Pos :=
  ⟨p.line + n, p.column⟩

/-- A position is written as its line, a colon and its column. -/
instance : ToString Pos where
  toString p := toString p.line ++ ":" ++ toString p.column

/-- The text that shows a position with the names of its parts. -/
def describe (p : Pos) : String :=
  "Pos \x7b line: " ++ toString p.line ++ ", column: " ++ toString p.column ++ " \x7d"

end Pos

end TextScan
