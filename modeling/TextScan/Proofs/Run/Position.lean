import TextScan.Proofs.Cursor
import TextScan.Proofs.Run.Step

/-!
# Run — the position is told by the pieces

The line of a reader is the number of newlines in the tracked pieces that it has taken, and its
column the number of bytes after the last of these newlines (`Reader.pos_of_run`).  When all pieces
are tracked, the text before the cursor alone tells the position, however it was cut into pieces.

* `Reader.Follows` says that the position of a reader is the one that pieces lead to, and
  `Follows.after` that a run keeps it so.
-/

namespace TextScan

namespace Piece

variable {ps : List Piece}

/-- One piece more adds its newlines if it is tracked. -/
theorem lines_append_singleton (ps : List Piece) (p : Piece) :
    lines (ps ++ [p]) = lines ps + if p.tracked then Text.newlines p.text else 0 := by
  rw [lines, join, List.filter_append, List.flatMap_append, Text.newlines_append]
  cases h : p.tracked <;> simp [lines, join, h]

/-- The text after the last counted newline, with one piece more. -/
theorem lastLine_append_singleton (ps : List Piece) (p : Piece) :
    lastLine (ps ++ [p]) =
      if p.tracked = true ∧ '\n' ∈ p.text then Text.lastLine p.text
      else lastLine ps ++ p.text := by
  rw [lastLine, List.flatMap_append, List.flatMap_singleton]
  split
  · next h =>
    obtain ⟨htracked, hmem⟩ := h
    have hexists : ∃ c ∈ p.marked, (c.2 && c.1 == '\n') = true :=
      ⟨('\n', p.tracked), List.mem_map.2 ⟨'\n', hmem, rfl⟩, by rw [htracked]; rfl⟩
    rw [afterLast_append_of_exists hexists, marked, afterLast_map, List.map_map, htracked]
    exact List.map_id _
  · next h =>
    have hforall : ∀ c ∈ p.marked, (c.2 && c.1 == '\n') = false := by
      rintro ⟨c, tracked⟩ hc
      obtain ⟨d, hd, heq⟩ := List.mem_map.1 hc
      obtain ⟨rfl, rfl⟩ := Prod.mk.inj heq
      rw [Bool.and_eq_false_iff, beq_eq_false_iff_ne]
      by_cases htracked : p.tracked = true
      · exact .inr fun hd' => h ⟨htracked, hd' ▸ hd⟩
      · exact .inl (Bool.eq_false_iff.2 htracked)
    rw [afterLast_append_of_forall hforall, List.map_append, marked, List.map_map]
    exact congrArg (lastLine ps ++ ·) (List.map_id _)

/-- Tracked pieces have the newlines of the text that they make up. -/
theorem lines_of_tracked (h : ∀ p ∈ ps, p.tracked = true) : lines ps = Text.newlines (join ps) := by
  rw [lines, List.filter_eq_self.2 h]

/-- All characters of tracked pieces are tracked. -/
theorem marked_of_tracked (h : ∀ p ∈ ps, p.tracked = true) :
    ps.flatMap marked = (join ps).map (·, true) := by
  induction ps with
  | nil => rfl
  | cons p ps ih =>
    have hp : p.marked = p.text.map (·, true) := by rw [marked, h p List.mem_cons_self]
    rw [List.flatMap_cons, hp, ih fun q hq => h q (List.mem_cons_of_mem p hq), ← List.map_append]
    rfl

/-- Tracked pieces have the last line of the text that they make up. -/
theorem lastLine_of_tracked (h : ∀ p ∈ ps, p.tracked = true) :
    lastLine ps = Text.lastLine (join ps) := by
  rw [lastLine, marked_of_tracked h, afterLast_map, List.map_map]
  exact List.map_id _

end Piece

namespace Reader

variable {r : Reader} {ps : List Piece}

/-- The line and the column of a reader are those that pieces lead to. -/
structure Follows (r : Reader) (ps : List Piece) : Prop where
  line_eq : r.line = Piece.lines ps
  column_eq : r.column = Text.byteSize (Piece.lastLine ps)

theorem Follows.start (t : Text) (o : Options) : (Reader.start t o).Follows [] :=
  ⟨rfl, rfl⟩

/-- Moving over a text leads where one piece more does. -/
theorem Follows.move (h : r.Follows ps) (tracked : Bool) (m : Text) :
    (r.move tracked m).Follows (ps ++ [⟨m, tracked⟩]) := by
  obtain ⟨hline, hcolumn⟩ := h
  cases tracked with
  | true =>
    refine ⟨?_, ?_⟩
    · show (r.cursor.advance m).line = _
      rw [Cursor.line_advance, Piece.lines_append_singleton, ← hline]
      rfl
    · show (r.cursor.advance m).column = _
      rw [Cursor.column_advance, Piece.lastLine_append_singleton]
      by_cases hm : '\n' ∈ m
      · rw [if_pos hm, if_pos ⟨rfl, hm⟩]
      · rw [if_neg hm, if_neg fun h => hm h.2, Text.byteSize_append, ← hcolumn]
        rfl
  | false =>
    refine ⟨?_, ?_⟩
    · rw [Piece.lines_append_singleton, ← hline]
      rfl
    · rw [Piece.lastLine_append_singleton, if_neg fun h => Bool.noConfusion h.1,
        Text.byteSize_append, ← hcolumn]
      rfl

/-- **A run leads where its pieces do.** -/
theorem Follows.after (h : r.Follows ps) {u v : Text} (hr : r.Between u v) (ops : List Op) :
    (r.after ops).Follows (ps ++ r.pieces ops) := by
  induction ops generalizing r ps u v with
  | nil => rw [pieces, List.append_nil]; exact h
  | cons op ops ih =>
    obtain ⟨m, w, rfl, ht⟩ := op.step_takes hr
    have hnext : (op.step r).reader.Follows (ps ++ [⟨m, op.tracks r.options⟩]) := by
      rw [ht.reader_eq]
      exact h.move _ m
    have hrest := ih hnext (ht.between hr)
    rw [List.append_assoc] at hrest
    rw [ht.pieces_cons hr]
    exact hrest

/-- Without the option to leave newlines in matches alone, all pieces are tracked. -/
theorem tracked_of_mem_pieces (h : r.options.patternLines = .tracked) {u v : Text}
    (hr : r.Between u v) (ops : List Op) : ∀ p ∈ r.pieces ops, p.tracked = true := by
  induction ops generalizing r u v with
  | nil =>
    intro p hp
    cases hp
  | cons op ops ih =>
    obtain ⟨m, w, rfl, ht⟩ := op.step_takes hr
    have hoptions : (op.step r).reader.options = r.options := by rw [ht.reader_eq, options_move]
    intro p hp
    rcases List.mem_cons.1 hp with rfl | hp
    · cases op <;> simp [Op.tracks, h]
    · exact ih (hoptions ▸ h) (ht.between hr) p hp

/-- A reader that tracks all lines stands where the text before it ends. -/
theorem pos_after_of_tracked (t : Text) {o : Options} (ho : o.patternLines = .tracked)
    (ops : List Op) :
    ((start t o).after ops).pos = Text.endPos (Piece.join ((start t o).pieces ops)) := by
  rw [(Between.start t o).after_eq_advance ho ops]
  have hzero : ({} : Cursor).pos = Text.endPos [] := rfl
  exact Cursor.pos_advance hzero _

/-- **The pieces of a run tell its position.**  The text before the cursor is made up of the pieces;
the line is the number of newlines in the tracked ones, and the column the number of bytes after the
last of these.  Where patterns track lines, the position is the one at the end of the text before
the cursor. -/
theorem pos_of_run (t : Text) (o : Options) (ops : List Op) :
    let r := (Reader.start t o).after ops
    let ps := (Reader.start t o).pieces ops
    Text.before? t r.index = some (Piece.join ps) ∧
      r.line = Piece.lines ps ∧ r.column = Text.byteSize (Piece.lastLine ps) ∧
      (o.patternLines = .tracked → r.pos = Text.endPos (Piece.join ps)) := by
  intro r ps
  have hstart := Between.start t o
  obtain ⟨w, -, hafter, htext, -⟩ := hstart.after ops
  obtain ⟨hline, hcolumn⟩ : r.Follows ps := (Follows.start t o).after hstart ops
  refine ⟨?_, hline, hcolumn, fun htracked => ?_⟩
  · have hbefore := hafter.before?_eq
    rw [htext] at hbefore
    exact hbefore
  · have hps : ∀ p ∈ ps, p.tracked = true := tracked_of_mem_pieces htracked hstart ops
    show Pos.mk r.line r.column = ⟨_, _⟩
    rw [hline, hcolumn, Piece.lines_of_tracked hps, Piece.lastLine_of_tracked hps]

/-- A match over two lines, and a character of two bytes after it. -/
theorem pos_of_run_over_lines :
    let r := (Reader.start ['a', '\n', 'b', 'é', 'c'] {}).after
      [.matchPattern (.relative ⟨0, 3⟩), .read]
    (({} : Options).patternLines = .tracked ∧ r.pos = Text.endPos ['a', '\n', 'b', 'é']) ∧
      r.pos = ⟨1, 3⟩ :=
  ⟨⟨rfl, (pos_of_run _ {} _).2.2.2 rfl⟩, by decide⟩

end Reader

end TextScan
