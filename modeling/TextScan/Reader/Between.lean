import TextScan.Reader

/-!
# Reader — between two parts of the text

A reader that is used as it is meant to be stands between two characters: its text splits into what
is consumed and what is left (`Reader.Between`).  The questions and the moves of a reader are told
by these two parts.

* `Between.rest_eq`, `Between.peek_eq`, `Between.eof_eq`: the questions.
* `Between.advance`: a move takes text from the second part to the first.
* `Between.fits_iff`: a span fits when it covers a first part of what is left.
-/

namespace TextScan

/-- A reader has consumed one part of its text and has the other before it. -/
structure Reader.Between (r : Reader) (consumed left : Text) : Prop where
  text_eq : r.text = consumed ++ left
  index_eq : r.index = Text.byteSize consumed

namespace Reader.Between

variable {r : Reader} {u v : Text}

/-- A new reader has everything before it. -/
theorem start (t : Text) (o : Options) : (Reader.start t o).Between [] t :=
  ⟨rfl, rfl⟩

/-! ### The questions -/

/-- The text can be cut at the cursor. -/
theorem after?_eq (h : r.Between u v) : Text.after? r.text r.index = some v :=
  Text.after?_eq_some_iff.2 ⟨u, h.text_eq, h.index_eq.symm⟩

theorem rest_eq (h : r.Between u v) : r.rest = v := by
  unfold Reader.rest
  rw [h.after?_eq]
  rfl

theorem peek_eq (h : r.Between u v) : r.peek = v.head? := by
  unfold Reader.peek
  rw [h.rest_eq]

theorem eof_eq (h : r.Between u v) : r.eof = v.isEmpty := by
  unfold Reader.eof Reader.size
  rw [h.text_eq, h.index_eq, Text.byteSize_append]
  cases v with
  | nil => simp
  | cons c v =>
    have := c.utf8Size_pos
    simp
    omega

/-! ### The moves -/

theorem advance {m : Text} (h : r.Between u (m ++ v)) : (r.advance m).Between (u ++ m) v where
  text_eq := by
    show r.text = _
    rw [h.text_eq, List.append_assoc]
  index_eq := by
    show (r.cursor.advance m).index = _
    rw [Cursor.index_advance, Text.byteSize_append]
    exact congrArg (· + _) h.index_eq

/-! ### Spans -/

/-- **A span fits where it covers a first part of what is left.** -/
theorem fits_iff (h : r.Between u v) {s : Span} :
    s.fits r.text r.index = true ↔
      ∃ m w, v = m ++ w ∧ s.start = r.index ∧ s.stop = r.index + Text.byteSize m := by
  unfold Span.fits
  simp only [Bool.and_eq_true, beq_iff_eq, decide_eq_true_eq, Text.isBoundary_iff]
  constructor
  · rintro ⟨⟨⟨hstart, hle⟩, -⟩, x, w, htext, hstop⟩
    -- the text is cut at the cursor and at the end of the span, which comes later
    have hcut : u ++ v = x ++ w := h.text_eq ▸ htext
    have hsize : Text.byteSize u ≤ Text.byteSize x := by
      rw [← h.index_eq, hstop, ← hstart]
      exact hle
    obtain ⟨m, rfl, rfl⟩ := Text.exists_append_of_byteSize_le hcut hsize
    refine ⟨m, w, rfl, hstart, ?_⟩
    rw [← hstop, h.index_eq, Text.byteSize_append]
  · rintro ⟨m, w, rfl, hstart, hstop⟩
    have hu := h.index_eq
    refine ⟨⟨⟨hstart, by omega⟩, ?_⟩, u ++ m, w, ?_, ?_⟩
    · rw [h.text_eq, hstop, hu]
      simp only [Text.byteSize_append]
      omega
    · rw [h.text_eq, List.append_assoc]
    · rw [Text.byteSize_append, hstop, hu]

end Reader.Between

end TextScan
