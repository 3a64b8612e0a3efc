import Mathlib.Data.List.Basic
import TextScan.Proofs.Cursor

/-!
# Position — later places have later positions

Positions are compared by line and then by column.  A place further on in a text has a later
position, whether newlines lie between the two places or not.  The written form of a position tells
the position.

* `Pos.compare_eq_lt_iff`: when a position comes before another one.
* `Pos.toString_inj`: two positions with one written form are the same.
* `Cursor.compare_pos_advance`, `Cursor.compare_pos_advanceColumns`: moving over a text leads to a
  later position.
* `Text.compare_endPos_append`: what comes after a text ends later than it.
* `Text.endPos_append_newline`: below a text the lines are counted on, and the columns anew.
-/

namespace TextScan

namespace Pos

/-! ### The order -/

/-- Positions are ordered lexicographically. -/
instance : Std.TransOrd Pos :=
  inferInstanceAs (Std.TransCmp (compareLex (compareOn Pos.line) (compareOn Pos.column)))

theorem compare_eq_lt_iff {p q : Pos} :
    compare p q = .lt ↔ p.line < q.line ∨ p.line = q.line ∧ p.column < q.column := by
  show (compare p.line q.line).then (compare p.column q.column) = .lt ↔ _
  rw [Ordering.then_eq_lt, Nat.compare_eq_lt, Nat.compare_eq_eq, Nat.compare_eq_lt]

/-! ### The written form -/

theorem toList_toString (p : Pos) :
    (toString p).toList = Nat.toDigits 10 p.line ++ ':' :: Nat.toDigits 10 p.column := by
  show (toString p.line ++ ":" ++ toString p.column).toList = _
  simp

/-- **The written form tells the position.**  No digit is a colon, and the digits of a number tell
the number. -/
theorem toString_inj {p q : Pos} : toString p = toString q ↔ p = q := by
  refine ⟨fun h => ?_, congrArg toString⟩
  have hcolon : ∀ n, ':' ∉ Nat.toDigits 10 n := fun n hmem =>
    absurd (Nat.isDigit_of_mem_toDigits (by decide) (by decide) hmem) (by decide)
  have hdigits : ∀ {m n : Nat}, Nat.toDigits 10 m = Nat.toDigits 10 n → m = n := by
    intro m n hmn
    rw [← Nat.ofDigitChars_ten_toDigits (n := m), hmn, Nat.ofDigitChars_ten_toDigits]
  have hlist := congrArg String.toList h
  rw [toList_toString, toList_toString,
    List.append_cons_inj_of_notMem (hcolon _) (hcolon _)] at hlist
  obtain ⟨hline, -, hcolumn⟩ := hlist
  obtain ⟨line, column⟩ := p
  obtain rfl := hdigits hline
  obtain rfl := hdigits hcolumn
  rfl

end Pos

/-! ### Moves -/

namespace Cursor

variable {m : Text}

/-- **Moving over a text leads to a later position**: to a later line, or further on in the line. -/
theorem compare_pos_advance (k : Cursor) (hm : m ≠ []) :
    compare k.pos (k.advance m).pos = .lt := by
  rw [Pos.compare_eq_lt_iff, pos, pos, line_advance, column_advance]
  by_cases hmem : '\n' ∈ m
  · have hcount : 0 < Text.newlines m := List.count_pos_iff.2 hmem
    exact .inl (Nat.lt_add_of_pos_right hcount)
  · have hcount : Text.newlines m = 0 := List.count_eq_zero.2 hmem
    rw [if_neg hmem, hcount]
    exact .inr ⟨rfl, Nat.lt_add_of_pos_right (Text.byteSize_pos hm)⟩

theorem compare_pos_advanceColumns (k : Cursor) (hm : m ≠ []) :
    compare k.pos (k.advanceColumns m).pos = .lt :=
  Pos.compare_eq_lt_iff.2 (.inr ⟨rfl, Nat.lt_add_of_pos_right (Text.byteSize_pos hm)⟩)

end Cursor

namespace Text

/-- **What comes after a text ends later than it.** -/
theorem compare_endPos_append {t u : Text} (hu : u ≠ []) :
    compare (endPos t) (endPos (t ++ u)) = .lt := by
  let k : Cursor := { line := newlines t, column := byteSize (lastLine t) }
  have hk : k.pos = endPos t := rfl
  rw [← Cursor.pos_advance hk u, ← hk]
  exact k.compare_pos_advance hu

/-- Below a text and its newline, lines are counted on and columns anew. -/
theorem endPos_append_newline (t u : Text) :
    endPos (t ++ '\n' :: u) = (endPos u).below (newlines t + 1) := by
  have hlines : newlines (t ++ '\n' :: u) = newlines u + (newlines t + 1) := by
    rw [newlines_append, newlines_cons, if_pos rfl]
    omega
  have hlast : lastLine ('\n' :: u) = lastLine u := by
    by_cases hmem : '\n' ∈ u
    · exact lastLine_append_of_mem (t := ['\n']) hmem
    · exact (lastLine_append_of_not_mem (t := ['\n']) hmem).trans
        (lastLine_append_of_not_mem (t := []) hmem).symm
  rw [endPos, hlines, lastLine_append_of_mem List.mem_cons_self, hlast]
  rfl

end Text

end TextScan
