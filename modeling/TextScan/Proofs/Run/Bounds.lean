import Mathlib.Algebra.Group.Nat.Defs
import TextScan.Proofs.Cursor.Room
import TextScan.Proofs.Run.Step

/-!
# Run — no sum overflows, no cut splits a character

A reader that stands between two parts of its text, and whose line and column together are no more
than its index, can do every operation with checked sums and cuts (`InBounds.step?_eq`), and the
operation leaves it such a reader (`InBounds.step`).  So a run over a text of fewer than `2 ^ 63`
bytes is the same with checks and without, whatever spans the patterns answer
(`Reader.bounds_of_run`).
-/

namespace TextScan

theorem Text.length_le_byteSize (t : Text) : t.length ≤ byteSize t := by
  induction t with
  | nil => exact Nat.le_refl 0
  | cons c t ih =>
    have hpos := c.utf8Size_pos
    rw [List.length_cons, byteSize_cons]
    omega

/-! ### Cursors -/

namespace Cursor

/-- Lines and columns within the index leave room for every text that ends within 64 bits. -/
theorem hasRoom_of_le {k : Cursor} (hk : k.line + k.column ≤ k.index) {t : Text}
    (ht : k.index + Text.byteSize t < Pattern.offsetBound) : k.HasRoom t := by
  have hlines : Text.newlines t ≤ Text.byteSize t :=
    Nat.le_trans List.count_le_length (Text.length_le_byteSize t)
  have hfirst := Text.byteSize_firstLine_le t
  exact ⟨ht, by omega, by omega⟩

theorem advance?_eq {k : Cursor} (hk : k.line + k.column ≤ k.index) {t : Text}
    (ht : k.index + Text.byteSize t < Pattern.offsetBound) : k.advance? t = some (k.advance t) := by
  have hroom := hasRoom_of_le hk ht
  exact (advance?_eq_some_iff hroom.nil).2 ⟨hroom, rfl⟩

theorem advanceColumns?_eq {k : Cursor} (hk : k.line + k.column ≤ k.index) {t : Text}
    (ht : k.index + Text.byteSize t < Pattern.offsetBound) :
    k.advanceColumns? t = some (k.advanceColumns t) :=
  advanceColumns?_eq_some_iff.2 ⟨⟨ht, by omega⟩, rfl⟩

end Cursor

/-! ### Readers -/

/-- A reader between two parts of a text that fits into 64 bits, with no more lines and columns
than bytes before it. -/
structure Reader.InBounds (r : Reader) (consumed left : Text) : Prop
    extends r.Between consumed left where
  line_add_column_le : r.line + r.column ≤ r.index
  size_lt : Text.byteSize r.text < Pattern.offsetBound

namespace Reader.InBounds

variable {r : Reader} {u v w m : Text}

theorem start {t : Text} (h : Text.byteSize t < Pattern.offsetBound) (o : Options) :
    (Reader.start t o).InBounds [] t :=
  ⟨.start t o, Nat.le_refl 0, h⟩

theorem index_add_lt (h : r.InBounds u (m ++ v)) :
    r.index + Text.byteSize m < Pattern.offsetBound := by
  have hsize := h.size_lt
  rw [h.text_eq, Text.byteSize_append, Text.byteSize_append] at hsize
  rw [h.index_eq]
  omega

theorem length_lt (h : r.InBounds u v) : v.length < Pattern.offsetBound := by
  have hsize := h.size_lt
  have hlength := Text.length_le_byteSize v
  rw [h.text_eq, Text.byteSize_append] at hsize
  omega

/-- Moving over a first part of what is left keeps the bounds. -/
theorem move (h : r.InBounds u (m ++ v)) (tracked : Bool) :
    (r.move tracked m).InBounds (u ++ m) v := by
  refine ⟨h.toBetween.move tracked, ?_, by rw [text_move]; exact h.size_lt⟩
  cases tracked with
  | true => exact Cursor.line_add_column_advance_le h.line_add_column_le m
  | false => exact Cursor.line_add_column_advanceColumns_le h.line_add_column_le m

theorem rest?_eq (h : r.InBounds u v) : r.rest? = some r.rest := by
  rw [rest?, h.rest_eq]
  exact h.after?_eq

theorem peek?_eq (h : r.InBounds u v) : r.peek? = some r.peek := by
  rw [peek?, h.rest?_eq]
  rfl

theorem advance?_eq (h : r.InBounds u (m ++ v)) : r.advance? m = some (r.advance m) := by
  have hcursor : r.cursor.advance? m = some (r.cursor.advance m) :=
    Cursor.advance?_eq h.line_add_column_le h.index_add_lt
  rw [advance?, hcursor]
  rfl

theorem advanceMatch?_eq (h : r.InBounds u (m ++ v)) :
    r.advanceMatch? m = some (r.advanceMatch m) := by
  have hcolumns : r.cursor.advanceColumns? m = some (r.cursor.advanceColumns m) :=
    Cursor.advanceColumns?_eq h.line_add_column_le h.index_add_lt
  rw [advanceMatch?, advanceMatch]
  cases r.options.patternLines with
  | tracked => exact h.advance?_eq
  | columnOnly =>
    dsimp only
    rw [hcolumns]
    rfl

/-! ### Operations -/

/-- The loop that looks up each character at its place consumes what the test accepts. -/
theorem consumeLoop?_eq {σ : Type} (test : Char → StateM σ Bool) {count : Nat} {s : σ}
    (h : r.InBounds u v) (hcount : count + v.length < Pattern.offsetBound) :
    consumeLoop? test count r s =
      some ⟨(count + (acceptedBy test v s).1.length, (acceptedBy test v s).2),
        r.advance (acceptedBy test v s).1, none⟩ := by
  induction v generalizing r u count s with
  | nil =>
    rw [consumeLoop?]
    split
    · next hpeek => rw [h.peek?_eq] at hpeek; cases hpeek
    · rfl
    · next hpeek => rw [h.peek?_eq, h.peek_eq] at hpeek; cases hpeek
  | cons c v ih =>
    rw [consumeLoop?]
    split
    · next hpeek => rw [h.peek?_eq] at hpeek; cases hpeek
    · next hpeek => rw [h.peek?_eq, h.peek_eq] at hpeek; cases hpeek
    · next c' hpeek =>
      rw [h.peek?_eq, h.peek_eq] at hpeek
      cases hpeek
      rw [acceptedBy]
      rcases test c s with ⟨_ | _, s'⟩
      · rfl
      · -- one turn: the cursor moves over `c`, and the loop goes on with the rest
        have hone : r.advance? [c] = some (r.advance [c]) := h.advance?_eq (m := [c])
        have hnext : (r.advance [c]).InBounds (u ++ [c]) v := h.move (m := [c]) true
        rw [List.length_cons] at hcount
        have hsum : sum? count 1 = some (count + 1) := sum?_eq_some_iff.2 ⟨by omega, rfl⟩
        dsimp only
        split
        · next hmove => rw [hone] at hmove; cases hmove
        · next r' hmove =>
          rw [hone] at hmove
          cases hmove
          rw [hsum, Option.bind_some, ih hnext (by omega), List.length_cons, Nat.add_assoc,
            Nat.add_comm 1]
          rfl

theorem read?_eq (h : r.InBounds u v) : r.read? = some r.read := by
  rw [read?, h.peek?_eq, h.read_eq, h.peek_eq]
  cases v with
  | nil => rfl
  | cons c v =>
    have hmove : r.advance? [c] = some (r.advance [c]) := h.advance?_eq (m := [c])
    simp [hmove]

theorem consumeWhile?_eq {σ : Type} (h : r.InBounds u v) (test : Char → StateM σ Bool) (s : σ) :
    r.consumeWhile? test s = some (r.consumeWhile test s) := by
  rw [consumeWhile?, h.consumeLoop?_eq test (by rw [Nat.zero_add]; exact h.length_lt),
    h.consumeWhile_eq, Nat.zero_add]

theorem consumeAll?_eq (h : r.InBounds u v) (p : Char → Bool) :
    r.consumeAll? p = some (r.consumeAll p) := by
  rw [consumeAll?, h.consumeWhile?_eq]
  rfl

theorem matchAny?_eq (h : r.InBounds u v) : r.matchAny? = some r.matchAny := by
  have hmove : r.advance? v = some (r.advance v) :=
    advance?_eq (v := []) (by rw [List.append_nil]; exact h)
  rw [matchAny?, h.rest?_eq, h.matchAny_eq, h.rest_eq, Option.bind_eq_bind, Option.bind_some, hmove]
  split <;> rfl

theorem matchText?_eq (h : r.InBounds u v) (literal : Text) :
    r.matchText? literal = some (r.matchText literal) := by
  rw [matchText?, h.rest?_eq, h.matchText_eq, h.rest_eq, Option.bind_eq_bind, Option.bind_some]
  split
  · next hpre =>
    obtain ⟨w, rfl⟩ := List.isPrefixOf_iff_prefix.1 hpre
    rw [h.advance?_eq]
    rfl
  · rfl

theorem matchChar?_eq (h : r.InBounds u v) (expected : Char) :
    r.matchChar? expected = some (r.matchChar expected) := by
  rw [matchChar?, h.peek?_eq, h.matchChar_eq, h.peek_eq, Option.bind_eq_bind, Option.bind_some]
  split
  · next hhead =>
    obtain ⟨w, rfl⟩ := List.head?_eq_some_iff.1 hhead
    have hmove : r.advance? [expected] = some (r.advance [expected]) :=
      h.advance?_eq (m := [expected])
    rw [hmove]
    rfl
  · rfl

/-- A span that is kept is a cut at two boundaries. -/
theorem matchPattern?_eq (h : r.InBounds u v) (p : Pattern) :
    r.matchPattern? p = some (r.matchPattern p) := by
  rcases h.matchPattern_cases p with
    ⟨hfind, hp⟩ | ⟨s, hfind, hfits, hp⟩ | ⟨s, m, w, hfind, hfits, rfl, hstart, hstop, hp⟩
  · rw [matchPattern?, hfind, hp]
  · rw [hp]
    simp [matchPattern?, hfind, hfits]
  · have hslice := (h.span_text_eq hstart hstop).1
    rw [hp]
    simp [matchPattern?, hfind, hfits, hslice, h.advanceMatch?_eq]

/-- **A step within bounds is the same with checks.** -/
theorem step?_eq (h : r.InBounds u v) (op : Op) : op.step? r = some (op.step r) := by
  cases op with
  | read => rw [Op.step?, h.read?_eq]; rfl
  | consumeWhile test => rw [Op.step?, h.consumeWhile?_eq]; rfl
  | consume set => rw [Op.step?, h.consumeAll?_eq]; rfl
  | consumeBlanks => rw [Op.step?, h.consumeAll?_eq]; rfl
  | matchAny => rw [Op.step?, h.matchAny?_eq]; rfl
  | matchText literal => rw [Op.step?, h.matchText?_eq]; rfl
  | matchChar expected => rw [Op.step?, h.matchChar?_eq]; rfl
  | matchPattern p => rw [Op.step?, h.matchPattern?_eq]; rfl

/-- A step keeps the bounds. -/
theorem step (h : r.InBounds u v) (op : Op) :
    ∃ u' v', (op.step r).reader.InBounds u' v' := by
  obtain ⟨m, w, rfl, ht⟩ := op.step_takes h.toBetween
  rw [ht.reader_eq]
  exact ⟨u ++ m, w, h.move _⟩

/-! ### Runs -/

theorem run?_eq (h : r.InBounds u v) (ops : List Op) : r.run? ops = some (r.run ops) := by
  induction ops generalizing r u v with
  | nil => rfl
  | cons op ops ih =>
    obtain ⟨u', v', hstep⟩ := h.step op
    rw [run?, h.step?_eq, Option.bind_eq_bind, Option.bind_some, ih hstep]
    rfl

theorem after (h : r.InBounds u v) (ops : List Op) : ∃ u' v', (r.after ops).InBounds u' v' := by
  induction ops generalizing r u v with
  | nil => exact ⟨u, v, h⟩
  | cons op ops ih =>
    obtain ⟨u', v', hstep⟩ := h.step op
    exact ih hstep

end Reader.InBounds

/-- **Runs stay within bounds.**  Over a text of fewer than `2 ^ 63` bytes, whatever the operations
and their patterns: the index is a boundary of the text, the line and the column together are no
more than the index, the run is the same with checked sums and cuts, and the text can be cut at the
cursor and at every earlier place. -/
theorem Reader.bounds_of_run (t : Text) (o : Options) (ops : List Op)
    (ht : Text.byteSize t < 2 ^ 63) :
    let start := Reader.start t o
    let r := start.after ops
    r.index ≤ Text.byteSize t ∧ Text.isBoundary t r.index = true ∧ r.line + r.column ≤ r.index ∧
      start.run? ops = some (start.run ops) ∧ r.rest? = some r.rest ∧ r.peek? = some r.peek ∧
      ∀ n, let earlier := (start.after (ops.take n)).index
        Text.slice? t earlier r.index = some (r.consumedSince earlier) := by
  intro start r
  have hstart : start.InBounds [] t := .start (Nat.lt_trans ht (by decide)) o
  obtain ⟨u, v, h⟩ := hstart.after ops
  obtain ⟨-, -, -, htext, -⟩ := hstart.toBetween.after ops
  have hsplit : t = u ++ v := htext.symm.trans h.text_eq
  refine ⟨?_, ?_, h.line_add_column_le, hstart.run?_eq ops, h.rest?_eq, h.peek?_eq, fun n => ?_⟩
  · rw [h.index_eq, hsplit, Text.byteSize_append]
    exact Nat.le_add_right _ _
  · exact Text.isBoundary_iff.2 ⟨u, v, hsplit, h.index_eq.symm⟩
  · -- the operations from the earlier place on are a run of their own
    obtain ⟨w, -, hbefore, htext', -⟩ := hstart.toBetween.after (ops.take n)
    obtain ⟨hslice, hsince⟩ := hbefore.since_start_of_run (ops.drop n)
    rw [← Reader.after_append, List.take_append_drop] at hslice hsince
    have ht' : (start.after (ops.take n)).text = t := htext'
    rw [ht', ← hsince] at hslice
    exact hslice

/-- Spans that split a character, run backwards or end far behind the text, with newlines that do
not count. -/
theorem Reader.bounds_of_run_stray_spans :
    let start := Reader.start ['é', '\n', 'ß'] { patternLines := .columnOnly }
    let ops : List Op := [.matchPattern (.fixed ⟨0, 1⟩), .matchPattern (.relative ⟨0, 3⟩),
      .matchPattern (.fixed ⟨3, 1⟩), .matchPattern (.relative ⟨0, 2 ^ 64 - 4⟩), .read]
    Text.byteSize ['é', '\n', 'ß'] < 2 ^ 63 ∧ start.run? ops = some (start.run ops) ∧
      (start.after ops).index = 5 :=
  ⟨by decide, (bounds_of_run _ _ _ (by decide)).2.2.2.1, by decide⟩

end TextScan
