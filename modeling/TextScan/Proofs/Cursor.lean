import TextScan.Cursor
import TextScan.Text.Lines

/-!
# Cursor — the closed form of a move

Moving over a text adds its newlines to the line, and the column afterwards is told by the last
line of the text: the bytes after the last newline, or all its bytes on top of the column before.

* `Cursor.line_advance`, `Cursor.column_advance`: the two coordinates after a text.
* `Cursor.pos_advance`: a cursor at the position of a first part is moved to the position of the
  whole.
* `Cursor.line_add_column_advance_le`: the line and the column stay within the index.
-/

namespace TextScan

namespace Text

theorem newlines_cons (c : Char) (t : Text) :
    newlines (c :: t) = (if c = '\n' then 1 else 0) + newlines t := by
  rw [newlines, List.count_cons, Nat.add_comm]
  simp [newlines]

/-- The last line of a text with one part more. -/
theorem lastLine_append (t u : Text) :
    lastLine (t ++ u) = if '\n' ∈ u then lastLine u else lastLine t ++ u := by
  split
  · next h => exact lastLine_append_of_mem h
  · next h => exact lastLine_append_of_not_mem h

end Text

namespace Cursor

theorem line_advanceChar (k : Cursor) (c : Char) :
    (k.advanceChar c).line = k.line + if c = '\n' then 1 else 0 := by
  rw [advanceChar]
  split <;> rfl

theorem column_advanceChar (k : Cursor) (c : Char) :
    (k.advanceChar c).column = if c = '\n' then 0 else k.column + c.utf8Size := by
  rw [advanceChar]
  split <;> rfl

/-- Moving over a text adds its newlines to the line. -/
theorem line_advance (k : Cursor) (t : Text) : (k.advance t).line = k.line + Text.newlines t := by
  induction t generalizing k with
  | nil => rfl
  | cons c t ih =>
    rw [advance_cons, ih, line_advanceChar, Text.newlines_cons, Nat.add_assoc]

/-- The column after a text is the bytes of its last line; without a newline these come on top of
the column before. -/
theorem column_advance (k : Cursor) (t : Text) :
    (k.advance t).column =
      if '\n' ∈ t then Text.byteSize (Text.lastLine t) else k.column + Text.byteSize t := by
  induction t generalizing k with
  | nil => rfl
  | cons c t ih =>
    have hlast : Text.lastLine (c :: t) =
        if '\n' ∈ t then Text.lastLine t else Text.lastLine [c] ++ t :=
      Text.lastLine_append [c] t
    rw [advance_cons, ih, column_advanceChar, hlast]
    by_cases ht : '\n' ∈ t
    · simp [ht]
    · by_cases hc : c = '\n'
      · subst hc
        have hnil : Text.lastLine ['\n'] = [] := rfl
        simp [ht, hnil]
      · have hmem : '\n' ∉ c :: t := by
          intro h
          rcases List.mem_cons.1 h with h | h
          · exact hc h.symm
          · exact ht h
        rw [if_neg ht, if_neg hc, if_neg hmem, Text.byteSize_cons, Nat.add_assoc]

/-- A cursor at the position where a first part ends goes to the position where both end. -/
theorem pos_advance {k : Cursor} {t : Text} (h : k.pos = Text.endPos t) (u : Text) :
    (k.advance u).pos = Text.endPos (t ++ u) := by
  obtain ⟨hline, hcolumn⟩ := Pos.mk.inj h
  rw [pos, Text.endPos, line_advance, column_advance, Text.newlines_append, Text.lastLine_append,
    hline, hcolumn]
  split
  · rfl
  · rw [Text.byteSize_append]

/-! ### Lines and columns within the index -/

/-- A character adds no more to the line and the column than to the index. -/
theorem line_add_column_advanceChar_le {k : Cursor} (h : k.line + k.column ≤ k.index) (c : Char) :
    (k.advanceChar c).line + (k.advanceChar c).column ≤ (k.advanceChar c).index := by
  have hpos := c.utf8Size_pos
  rw [line_advanceChar, column_advanceChar, index_advanceChar]
  split <;> omega

theorem line_add_column_advance_le {k : Cursor} (h : k.line + k.column ≤ k.index) (t : Text) :
    (k.advance t).line + (k.advance t).column ≤ (k.advance t).index := by
  induction t generalizing k with
  | nil => exact h
  | cons c t ih => exact ih (line_add_column_advanceChar_le h c)

theorem line_add_column_advanceColumns_le {k : Cursor} (h : k.line + k.column ≤ k.index)
    (t : Text) :
    (k.advanceColumns t).line + (k.advanceColumns t).column ≤ (k.advanceColumns t).index := by
  show k.line + (k.column + Text.byteSize t) ≤ k.index + Text.byteSize t
  omega

end Cursor

end TextScan
