import TextScan.Text
import TextScan.Position

/-!
# Cursor — a place in a text

A cursor is a byte index with its line and column.  Moving over a character adds its bytes; a
newline starts the next line at column zero.  `Cursor.advanceColumns` moves over a text as if it
were one line.
-/

namespace TextScan

/-- Where a reader stands: the byte index, and the line and the column there. -/
structure Cursor where
  index : Nat := 0
  line : Nat := 0
  column : Nat := 0
  deriving DecidableEq, Repr, Inhabited

namespace Cursor

/-- The position of a cursor. -/
def pos (k : Cursor) : Pos :=
  ⟨k.line, k.column⟩

/-- The cursor after one more character.  Only `'\n'` ends a line. -/
def advanceChar (k : Cursor) (c : Char) : Cursor :=
  if c = '\n' then
    ⟨k.index + c.utf8Size, k.line + 1, 0⟩
  else
    ⟨k.index + c.utf8Size, k.line, k.column + c.utf8Size⟩

/-- The cursor after a text, read character by character. -/
def advance (k : Cursor) (t : Text) : Cursor :=
  t.foldl advanceChar k

/-- The cursor after a text whose newlines do not count: the column grows by all its bytes. -/
def advanceColumns (k : Cursor) (t : Text) : Cursor :=
  ⟨k.index + Text.byteSize t, k.line, k.column + Text.byteSize t⟩

@[simp] theorem advance_nil (k : Cursor) : k.advance [] = k := rfl

@[simp] theorem advance_cons (k : Cursor) (c : Char) (t : Text) :
    k.advance (c :: t) = (k.advanceChar c).advance t := rfl

theorem advance_append (k : Cursor) (t u : Text) :
    k.advance (t ++ u) = (k.advance t).advance u :=
  List.foldl_append

@[simp] theorem index_advanceChar (k : Cursor) (c : Char) :
    (k.advanceChar c).index = k.index + c.utf8Size := by
  unfold advanceChar
  split <;> rfl

/-- Moving over a text adds its bytes to the index. -/
@[simp] theorem index_advance (k : Cursor) (t : Text) :
    (k.advance t).index = k.index + Text.byteSize t := by
  induction t generalizing k with
  | nil => rfl
  | cons c t ih => rw [advance_cons, ih, index_advanceChar, Text.byteSize_cons, Nat.add_assoc]

@[simp] theorem index_advanceColumns (k : Cursor) (t : Text) :
    (k.advanceColumns t).index = k.index + Text.byteSize t := rfl

end Cursor

end TextScan
