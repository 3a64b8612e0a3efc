import Mathlib.Tactic.MkIffOfInductiveProp
import TextScan.Proofs.Cursor
import TextScan.Reader.Checked

/-!
# Cursor — room for a move

A move with checked sums has a result just if its sums stay below the bound of offsets, and then it
is the move.  The sums are those of the index with all bytes of the text, of the line with its
newlines, and of the column with its first line: each later line starts at column zero, and is no
longer than the whole text, so its columns fit where the index does.

* `Cursor.HasRoom` says that these three sums fit, and `Cursor.hasRoom_append` that there is room
  for a text in two parts if there is room for each part where it starts.
* `Cursor.advance?_eq_some_iff`, `Cursor.advanceColumns?_eq_some_iff`: the checked moves.
* `Cursor.coordinates_of_move`: both kinds of move, in closed form, in parts and against each other.
-/

namespace TextScan

namespace Text

theorem firstLine_cons (c : Char) (t : Text) :
    firstLine (c :: t) = if c = '\n' then [] else c :: firstLine t := by
  rw [firstLine, List.takeWhile_cons]
  by_cases hc : c = '\n' <;> simp [firstLine, hc]

theorem byteSize_firstLine_le (t : Text) : byteSize (firstLine t) ≤ byteSize t := by
  obtain ⟨u, hu⟩ : firstLine t <+: t := List.takeWhile_prefix _
  have hsize := congrArg byteSize hu
  rw [byteSize_append] at hsize
  omega

end Text

namespace Cursor

/-- There is room for a text after a cursor: the bytes of the text fit on the index, its newlines on
the line, and the bytes of its first line on the column.  Room for the empty text means that the
cursor is held in 64 bits itself. -/
@[mk_iff]
structure HasRoom (k : Cursor) (t : Text) : Prop where
  index_lt : k.index + Text.byteSize t < Pattern.offsetBound
  line_lt : k.line + Text.newlines t < Pattern.offsetBound
  column_lt : k.column + Text.byteSize (Text.firstLine t) < Pattern.offsetBound

instance (k : Cursor) (t : Text) : Decidable (k.HasRoom t) :=
  decidable_of_iff _ (hasRoom_iff k t).symm

variable {k k' : Cursor} {c : Char} {t u : Text}

theorem HasRoom.nil (h : k.HasRoom t) : k.HasRoom [] :=
  ⟨Nat.lt_of_le_of_lt (Nat.le_add_right _ _) h.index_lt,
    Nat.lt_of_le_of_lt (Nat.le_add_right _ _) h.line_lt,
    Nat.lt_of_le_of_lt (Nat.le_add_right _ _) h.column_lt⟩

/-- There is room for a character and a text if there is room for the character, and for the text
after it. -/
theorem hasRoom_cons : k.HasRoom (c :: t) ↔ k.HasRoom [c] ∧ (k.advanceChar c).HasRoom t := by
  have hfirst := Text.byteSize_firstLine_le t
  simp only [hasRoom_iff, index_advanceChar, line_advanceChar, column_advanceChar,
    Text.byteSize_cons, Text.newlines_cons, Text.firstLine_cons, Text.byteSize_nil,
    Text.newlines_nil, Text.firstLine_nil]
  by_cases hc : c = '\n'
  · -- the first line of the text after `c` starts at column zero, and fits where the index does
    simp only [if_pos hc, Text.byteSize_nil]
    omega
  · simp only [if_neg hc, Text.byteSize_cons, Text.byteSize_nil]
    omega

/-- There is room for a text in two parts if there is room for each part where it starts. -/
theorem hasRoom_append : k.HasRoom (t ++ u) ↔ k.HasRoom t ∧ (k.advance t).HasRoom u := by
  induction t generalizing k with
  | nil => exact ⟨fun h => ⟨h.nil, h⟩, fun h => h.2⟩
  | cons c t ih =>
    rw [List.cons_append, hasRoom_cons, ih, ← and_assoc, ← hasRoom_cons, advance_cons]

/-- A newline needs one line more, and any other character its columns. -/
theorem hasRoom_singleton (hk : k.HasRoom []) :
    k.HasRoom [c] ↔ k.index + c.utf8Size < Pattern.offsetBound ∧
      if c = '\n' then k.line + 1 < Pattern.offsetBound
      else k.column + c.utf8Size < Pattern.offsetBound := by
  obtain ⟨-, hline, hcolumn⟩ := hk
  simp only [hasRoom_iff, Text.byteSize_cons, Text.newlines_cons, Text.firstLine_cons,
    Text.byteSize_nil, Text.newlines_nil, Text.firstLine_nil, Nat.add_zero] at hline hcolumn ⊢
  by_cases hc : c = '\n'
  · simp only [if_pos hc, Text.byteSize_nil]
    omega
  · simp only [if_neg hc, Text.byteSize_cons, Text.byteSize_nil]
    omega

/-! ### The checked moves -/

theorem advanceChar?_eq_some_iff (hk : k.HasRoom []) :
    k.advanceChar? c = some k' ↔ k.HasRoom [c] ∧ k' = k.advanceChar c := by
  rw [hasRoom_singleton hk, advanceChar?, advanceChar]
  by_cases hc : c = '\n'
  · simp only [if_pos hc]
    exact bind_sum?_eq_some_iff
  · simp only [if_neg hc]
    exact bind_sum?_eq_some_iff

theorem advance?_cons : k.advance? (c :: t) = (k.advanceChar? c).bind (·.advance? t) := rfl

theorem advance?_append : k.advance? (t ++ u) = (k.advance? t).bind (·.advance? u) :=
  List.foldlM_append

/-- **With checked sums a cursor is moved over the texts that there is room for.** -/
theorem advance?_eq_some_iff (hk : k.HasRoom []) :
    k.advance? t = some k' ↔ k.HasRoom t ∧ k' = k.advance t := by
  induction t generalizing k with
  | nil => exact ⟨fun h => ⟨hk, (Option.some.inj h).symm⟩, fun h => congrArg some h.2.symm⟩
  | cons c t ih =>
    rw [advance?_cons, Option.bind_eq_some_iff, hasRoom_cons, advance_cons]
    constructor
    · rintro ⟨m, hm, ht⟩
      obtain ⟨hc, rfl⟩ := (advanceChar?_eq_some_iff hk).1 hm
      obtain ⟨ht, hk'⟩ := (ih (hasRoom_cons.1 hc).2).1 ht
      exact ⟨⟨hc, ht⟩, hk'⟩
    · rintro ⟨⟨hc, ht⟩, hk'⟩
      exact ⟨_, (advanceChar?_eq_some_iff hk).2 ⟨hc, rfl⟩, (ih ht.nil).2 ⟨ht, hk'⟩⟩

/-- The move in columns needs room for all bytes, on the index and on the column. -/
theorem advanceColumns?_eq_some_iff :
    k.advanceColumns? t = some k' ↔
      (k.index + Text.byteSize t < Pattern.offsetBound ∧
        k.column + Text.byteSize t < Pattern.offsetBound) ∧ k' = k.advanceColumns t :=
  bind_sum?_eq_some_iff

/-! ### Both moves -/

/-- A newline is a line more, which the move in columns does not count. -/
theorem advanceColumns_eq_advance_iff : k.advanceColumns t = k.advance t ↔ '\n' ∉ t := by
  constructor
  · intro h hmem
    have hpos : 0 < Text.newlines t := List.count_pos_iff.2 hmem
    have hline : k.line = k.line + Text.newlines t := by
      rw [← line_advance, ← h]
      rfl
    omega
  · intro hmem
    have hline : (k.advance t).line = k.line := by
      rw [line_advance, Text.newlines, List.count_eq_zero.2 hmem, Nat.add_zero]
    have hcolumn : (k.advance t).column = k.column + Text.byteSize t := by
      rw [column_advance, if_neg hmem]
    rw [advanceColumns, ← hline, ← hcolumn, ← index_advance]

/-- **The two moves of a cursor.**  Character by character, a text adds its bytes to the index and
its newlines to the line, and the column is the number of bytes after its last newline; without a
newline it grows by all bytes.  With checked sums, a cursor of 64 bits is moved just if there is
room for the text, and goes to the same place.  A text in two parts is moved over part by part, and
has room if each part has where it starts.  The move in columns goes to the same index, and agrees
on the line and the column just if the text has no newline. -/
theorem coordinates_of_move (k : Cursor) (t u : Text) :
    k.advance t = ⟨k.index + Text.byteSize t, k.line + Text.newlines t,
        if '\n' ∈ t then Text.byteSize (Text.lastLine t) else k.column + Text.byteSize t⟩ ∧
      (∀ k', k.HasRoom [] ∧ k.advance? t = some k' ↔ k.HasRoom t ∧ k' = k.advance t) ∧
      k.advance (t ++ u) = (k.advance t).advance u ∧
      (k.HasRoom (t ++ u) ↔ k.HasRoom t ∧ (k.advance t).HasRoom u) ∧
      k.advance? (t ++ u) = (k.advance? t).bind (·.advance? u) ∧
      (∀ k', k.advanceColumns? t = some k' ↔
        (k.index + Text.byteSize t < Pattern.offsetBound ∧
          k.column + Text.byteSize t < Pattern.offsetBound) ∧ k' = k.advanceColumns t) ∧
      (k.advanceColumns t).index = (k.advance t).index ∧
      (k.advanceColumns t = k.advance t ↔ '\n' ∉ t) := by
  refine ⟨?_, fun k' => ⟨?_, ?_⟩, advance_append k t u, hasRoom_append, advance?_append,
    fun _ => advanceColumns?_eq_some_iff, ?_, advanceColumns_eq_advance_iff⟩
  · rw [← index_advance, ← line_advance, ← column_advance]
  · rintro ⟨hk, hmove⟩
    exact (advance?_eq_some_iff hk).1 hmove
  · rintro ⟨hroom, hk'⟩
    exact ⟨hroom.nil, (advance?_eq_some_iff hroom.nil).2 ⟨hroom, hk'⟩⟩
  · rw [index_advance, index_advanceColumns]

/-- Close to the bound, where the column has room for the first line only. -/
example :
    let k : Cursor := ⟨2 ^ 64 - 6, 7, 2 ^ 64 - 3⟩
    k.HasRoom ['é', '\n', 'a', 'b'] ∧ k.advance? ['é', '\n', 'a', 'b'] = some ⟨2 ^ 64 - 1, 8, 2⟩ ∧
      k.advanceColumns? ['é', '\n', 'a', 'b'] = none ∧ k.advance? ['é', 'a', '\n'] = none := by
  decide

end Cursor

end TextScan
