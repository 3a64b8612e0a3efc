import TextScan.Proofs.Run.Step

/-!
# Run — what lies between a mark and the cursor

A mark is the index and the position of a moment.  Later in the run they give back what was consumed
since, piece by piece, and, if all lines are tracked, the position: it is the one of the mark, moved
over this text.  Any other offset gives the text between it and the cursor, if there is a character
boundary at it and it is not behind the cursor, and else nothing (`Reader.marks_of_run`).

* `Pos.advance` moves a position over a text.
* `Reader.Between.slice?_eq_some_iff`: the texts that end at the cursor.
-/

namespace TextScan

/-! ### Positions -/

namespace Pos

/-- The position after one more character.  Only `'\n'` ends a line. -/
def advanceChar (p : Pos) (c : Char) : Pos :=
  if c = '\n' then ⟨p.line + 1, 0⟩ else ⟨p.line, p.column + c.utf8Size⟩

/-- The position after a text, character by character. -/
def advance (p : Pos) (t : Text) : Pos :=
  t.foldl advanceChar p

end Pos

/-- The position of a cursor is moved as the cursor is. -/
theorem Cursor.pos_advance_eq (k : Cursor) (t : Text) : (k.advance t).pos = k.pos.advance t := by
  induction t generalizing k with
  | nil => rfl
  | cons c t ih =>
    have hchar : (k.advanceChar c).pos = k.pos.advanceChar c := by
      rw [advanceChar, Pos.advanceChar]
      split <;> rfl
    rw [advance_cons, ih, hchar]
    rfl

namespace Reader.Between

variable {r : Reader} {u v m : Text}

/-! ### Offsets -/

/-- **The texts that end at the cursor** are last parts of what was consumed, and start where the
other parts end. -/
theorem slice?_eq_some_iff (h : r.Between u v) {start : Nat} :
    Text.slice? r.text start r.index = some m ↔ ∃ x, u = x ++ m ∧ Text.byteSize x = start := by
  rw [Text.slice?_eq_some_iff]
  constructor
  · rintro ⟨x, w, htext, hstart, hstop⟩
    -- both cuts are at the cursor
    have hcut : r.text.cut? r.index = some (x ++ m, w) := by
      refine Text.cut?_eq_some_iff.2 ⟨htext, ?_⟩
      rw [Text.byteSize_append, hstart, hstop]
    have hcut' : r.text.cut? r.index = some (u, v) :=
      Text.cut?_eq_some_iff.2 ⟨h.text_eq, h.index_eq.symm⟩
    rw [hcut'] at hcut
    exact ⟨x, congrArg Prod.fst (Option.some.inj hcut), hstart⟩
  · rintro ⟨x, rfl, rfl⟩
    exact ⟨x, v, h.text_eq, rfl, by rw [h.index_eq, Text.byteSize_append]⟩

/-- A text starts at an offset and ends at the cursor just if the offset is a boundary that is not
behind the cursor. -/
theorem exists_slice_iff (h : r.Between u v) {start : Nat} :
    (∃ x m, u = x ++ m ∧ Text.byteSize x = start) ↔
      start ≤ r.index ∧ Text.isBoundary r.text start = true := by
  rw [Text.isBoundary_iff]
  constructor
  · rintro ⟨x, m, rfl, rfl⟩
    refine ⟨?_, x, m ++ v, ?_, rfl⟩
    · rw [h.index_eq, Text.byteSize_append]
      exact Nat.le_add_right _ _
    · rw [h.text_eq, List.append_assoc]
  · rintro ⟨hle, x, w, htext, rfl⟩
    rw [h.index_eq] at hle
    obtain ⟨m, hu, -⟩ := Text.exists_append_of_byteSize_le (htext.symm.trans h.text_eq) hle
    exact ⟨x, m, hu, rfl⟩

end Reader.Between

/-- **A mark gives back what was consumed since.**  From the index of an earlier moment to the
cursor lies what the steps in between took, joined; and if all lines are tracked, the position is
that of the earlier moment, moved over this text.  From any offset to the cursor lies the one text
that starts there and has the rest of the text after it.  There is such a text if the offset is a
boundary that is not behind the cursor, and without one the answer is empty. -/
theorem Reader.marks_of_run (t : Text) (o : Options) (ops between : List Op) :
    let r := (Reader.start t o).after ops
    let q := r.after between
    let since := q.consumedSince r.mark.index
    (∃ ms, r.TakesEach between ms ∧ since = ms.flatten) ∧
      (o.patternLines = .tracked → q.pos = r.mark.pos.advance since) ∧
      ∀ offset, let found := q.consumedSince offset
        (∀ x m, t = x ++ m ++ q.rest → Text.byteSize x = offset → found = m) ∧
          ((∃ x m, t = x ++ m ++ q.rest ∧ Text.byteSize x = offset) ↔
            offset ≤ q.index ∧ Text.isBoundary t offset = true) ∧
          ((¬ ∃ x m, t = x ++ m ++ q.rest ∧ Text.byteSize x = offset) → found = []) := by
  intro r q since
  obtain ⟨u, v, h, htext, hoptions⟩ : ∃ u v, r.Between u v ∧ r.text = t ∧ r.options = o :=
    between_of_run t o ops
  obtain ⟨w, rfl, hq, hqtext, -⟩ := h.after between
  change q.Between _ w at hq
  have hsince : since = Piece.join (r.pieces between) := (h.since_start_of_run between).2
  have hqt : q.text = t := hqtext.trans htext
  have hsplit : ∀ x m, t = x ++ m ++ q.rest ↔ u ++ Piece.join (r.pieces between) = x ++ m := by
    intro x m
    rw [hq.rest_eq, ← hqt, hq.text_eq]
    exact List.append_left_inj w
  refine ⟨⟨(r.pieces between).map Piece.text, h.takesEach between, ?_⟩, fun ho => ?_,
    fun offset => ?_⟩
  · rw [hsince, Piece.join, List.flatMap_def]
  · have hafter : q = r.advance since := by
      rw [hsince]
      exact h.after_eq_advance (hoptions ▸ ho) between
    rw [hafter]
    exact r.cursor.pos_advance_eq since
  · simp only [hsplit]
    refine ⟨fun x m hx hoffset => ?_, ?_, fun hnone => ?_⟩
    · have hslice := hq.slice?_eq_some_iff.2 ⟨x, hx, hoffset⟩
      show (Text.slice? q.text offset q.index).getD [] = m
      rw [hslice]
      rfl
    · rw [← hqt]
      exact hq.exists_slice_iff
    · show (Text.slice? q.text offset q.index).getD [] = []
      cases hslice : Text.slice? q.text offset q.index with
      | none => rfl
      | some m =>
        obtain ⟨x, hx, hoffset⟩ := hq.slice?_eq_some_iff.1 hslice
        exact absurd ⟨x, m, hx, hoffset⟩ hnone

/-- A mark in the first line, the pieces since then, and an offset inside a character. -/
theorem Reader.marks_of_run_second_line :
    let o : Options := {}
    let r := (Reader.start ['a', 'é', '\n', 'b', 'c'] o).after [.read]
    let q := r.after [.matchPattern (.relative ⟨0, 3⟩), .matchText ['x'], .read]
    let since := q.consumedSince r.mark.index
    o.patternLines = .tracked ∧ q.pos = r.mark.pos.advance since ∧
      r.TakesEach [.matchPattern (.relative ⟨0, 3⟩), .matchText ['x'], .read]
        [['é', '\n'], [], ['b']] ∧
      since = ['é', '\n', 'b'] ∧ q.pos = ⟨1, 1⟩ ∧ q.consumedSince 2 = [] := by
  intro o r q since
  obtain ⟨-, hpos, -⟩ := marks_of_run ['a', 'é', '\n', 'b', 'c'] o [.read]
    [.matchPattern (.relative ⟨0, 3⟩), .matchText ['x'], .read]
  exact ⟨rfl, hpos rfl, .cons rfl rfl (.cons rfl rfl (.cons rfl rfl (.nil _))), by decide,
    by decide, by decide⟩

end TextScan
