import TextScan.Proofs.Run.Effect

/-!
# Run — what a step does

Every operation takes a first part of what is left and moves over it (`Op.step_takes`), and its
answer tells what was taken.  All that is said of one run follows from this one fact and
`Reader.Between`, and what is said of two runs from `Op.step_congr`.

* `Op.Takes` says what a step does, and `Op.step_takes` that every step does it.
* `Reader.Between.after`, `Reader.Between.takesEach`: a run takes its pieces, in order.
* `Reader.Between.tracked_pieces`: which of them count their newlines.
* `Reader.Between.after_eq_advance`: a run that tracks all lines moves over what it takes.
* `Reader.Between.read_each`: reading the characters of a text one by one.
* `Reader.between_of_run`: where a run over a text comes to.
* `Op.step_of_failure`: a failure leaves the reader as it was.
-/

namespace TextScan

/-- What one step does when it takes a text: it moves over the text, and the answer tells it. -/
structure Op.Takes (op : Op) (r : Reader) (m : Text) : Prop where
  reader_eq : (op.step r).reader = r.move (op.tracks r.options) m
  tells : op.Tells (op.step r).answer m

/-- A failure tells that nothing was consumed. -/
theorem Op.Tells.eq_nil {op : Op} {a : Answer} {m : Text} (h : op.Tells a m)
    (hfail : a.isFailure = true) : m = [] := by
  cases op <;> cases a <;> simp_all [Op.Tells, Answer.isFailure, eq_comm (a := 0)]

namespace Op

variable {r : Reader} {u v m : Text}

/-- A step takes what the text that is left tells. -/
theorem takes_effect (h : r.Between u v) (op : Op) :
    op.Takes r (op.effect r.matched? v).taken := by
  obtain ⟨hanswer, hreader⟩ := step_eq h op
  refine ⟨hreader, ?_⟩
  rw [hanswer]
  exact op.effect_tells r.matched? v

/-- **A step takes a first part of what is left.** -/
theorem step_takes (h : r.Between u v) (op : Op) : ∃ m w, v = m ++ w ∧ op.Takes r m := by
  obtain ⟨w, hw⟩ := op.effect_prefix fun _ _ => h.prefix_of_matched?
  exact ⟨_, w, hw.symm, takes_effect h op⟩

/-- **Two readers with the same text left do the same**, if a pattern matches the same for both:
they answer the same and take the same text. -/
theorem step_congr {q : Reader} {u' : Text} (hr : r.Between u v) (hq : q.Between u' v) {op : Op}
    (hmatched : ∀ p, op = .matchPattern p → r.matched? p = q.matched? p) :
    (op.step r).answer = (op.step q).answer ∧
      ∃ m w, v = m ++ w ∧ op.Takes r m ∧ op.Takes q m := by
  have heffect : op.effect r.matched? v = op.effect q.matched? v := op.effect_congr hmatched
  obtain ⟨w, hw⟩ := op.effect_prefix fun _ _ => hr.prefix_of_matched?
  refine ⟨?_, _, w, hw.symm, takes_effect hr op, ?_⟩
  · rw [(step_eq hr op).1, (step_eq hq op).1, heffect]
  · rw [heffect]
    exact takes_effect hq op

/-- After a step the reader stands behind what the step took. -/
theorem Takes.between {op : Op} {w : Text} (ht : op.Takes r m) (h : r.Between u (m ++ w)) :
    (op.step r).reader.Between (u ++ m) w := by
  rw [ht.reader_eq]
  exact h.move _

/-- What a step took is found between the two cursors. -/
theorem Takes.consumedSince_eq {op : Op} {w : Text} (ht : op.Takes r m)
    (h : r.Between u (m ++ w)) : (op.step r).reader.consumedSince r.index = m := by
  rw [h.index_eq]
  exact (ht.between h).consumedSince_eq

/-- What a step takes is the first piece of a run that starts with it. -/
theorem Takes.pieces_cons {op : Op} {w : Text} (ht : op.Takes r m) (h : r.Between u (m ++ w))
    (ops : List Op) :
    r.pieces (op :: ops) = ⟨m, op.tracks r.options⟩ :: (op.step r).reader.pieces ops := by
  rw [Reader.pieces, ht.consumedSince_eq h]

theorem Takes.join_pieces_cons {op : Op} {w : Text} (ht : op.Takes r m)
    (h : r.Between u (m ++ w)) (ops : List Op) :
    Piece.join (r.pieces (op :: ops)) = m ++ Piece.join ((op.step r).reader.pieces ops) := by
  rw [ht.pieces_cons h]
  rfl

/-- A failure leaves the reader as it was. -/
theorem step_of_failure (h : r.Between u v) {op : Op}
    (hfail : (op.step r).answer.isFailure = true) : (op.step r).reader = r := by
  obtain ⟨m, w, -, ht⟩ := step_takes h op
  rw [ht.reader_eq, ht.tells.eq_nil hfail, Reader.move_nil]

end Op

/-! ### Runs -/

namespace Reader

@[simp] theorem after_nil (r : Reader) : r.after [] = r := rfl

@[simp] theorem after_cons (r : Reader) (op : Op) (ops : List Op) :
    r.after (op :: ops) = (op.step r).reader.after ops := rfl

theorem after_append (r : Reader) (ops ops' : List Op) :
    r.after (ops ++ ops') = (r.after ops).after ops' :=
  List.foldl_append

/-- **A run takes its pieces, in order.**  It leaves the text and the options alone. -/
theorem Between.after {r : Reader} {u v : Text} (h : r.Between u v) (ops : List Op) :
    ∃ w, v = Piece.join (r.pieces ops) ++ w ∧
      (r.after ops).Between (u ++ Piece.join (r.pieces ops)) w ∧
      (r.after ops).text = r.text ∧ (r.after ops).options = r.options := by
  induction ops generalizing r u v with
  | nil => exact ⟨v, rfl, by simpa [pieces, Piece.join] using h, rfl, rfl⟩
  | cons op ops ih =>
    obtain ⟨m, w, rfl, ht⟩ := op.step_takes h
    have hjoin := ht.join_pieces_cons h ops
    obtain ⟨w', rfl, hafter, htext, hoptions⟩ := ih (ht.between h)
    refine ⟨w', ?_, ?_, ?_, ?_⟩
    · rw [hjoin, List.append_assoc]
    · rw [hjoin, ← List.append_assoc]
      exact hafter
    · rw [after_cons, htext, ht.reader_eq, text_move]
    · rw [after_cons, hoptions, ht.reader_eq, options_move]

/-- **A run takes its pieces one by one**, and its answers tell them. -/
theorem Between.takesEach {r : Reader} {u v : Text} (h : r.Between u v) (ops : List Op) :
    r.TakesEach ops ((r.pieces ops).map Piece.text) := by
  induction ops generalizing r u v with
  | nil => exact .nil r
  | cons op ops ih =>
    obtain ⟨m, w, rfl, ht⟩ := op.step_takes h
    have hnext := ht.between h
    rw [ht.pieces_cons h]
    refine .cons ?_ ht.tells (ih hnext)
    rw [h.rest_eq, hnext.rest_eq]

/-- The options and the operations say which pieces count their newlines. -/
theorem Between.tracked_pieces {r : Reader} {u v : Text} (h : r.Between u v) (ops : List Op) :
    (r.pieces ops).map Piece.tracked = ops.map (Op.tracks r.options) := by
  induction ops generalizing r u v with
  | nil => rfl
  | cons op ops ih =>
    obtain ⟨m, w, rfl, ht⟩ := op.step_takes h
    have hoptions : (op.step r).reader.options = r.options := by
      rw [ht.reader_eq, options_move]
    rw [ht.pieces_cons h, List.map_cons, List.map_cons, ih (ht.between h), hoptions]

/-- **A run that tracks all lines moves over what it takes**, character by character. -/
theorem Between.after_eq_advance {r : Reader} {u v : Text} (h : r.Between u v)
    (ho : r.options.patternLines = .tracked) (ops : List Op) :
    r.after ops = r.advance (Piece.join (r.pieces ops)) := by
  induction ops generalizing r u v with
  | nil => rfl
  | cons op ops ih =>
    obtain ⟨m, w, rfl, ht⟩ := op.step_takes h
    have htracks : op.tracks r.options = true := by cases op <;> simp [Op.tracks, ho]
    have hstep : (op.step r).reader = r.advance m := by
      rw [ht.reader_eq, htracks]
      rfl
    have hrest := ih (ht.between h) (hstep ▸ ho)
    rw [after_cons, hrest, ht.join_pieces_cons h, advance_append, hstep]

/-- The text since the start of a run is what its pieces make up. -/
theorem Between.since_start_of_run {r : Reader} {u v : Text} (h : r.Between u v) (ops : List Op) :
    Text.slice? r.text r.index (r.after ops).index = some (Piece.join (r.pieces ops)) ∧
      (r.after ops).consumedSince r.index = Piece.join (r.pieces ops) := by
  obtain ⟨w, -, hafter, htext, -⟩ := h.after ops
  rw [h.index_eq, ← htext]
  exact ⟨hafter.slice?_eq, hafter.consumedSince_eq⟩

/-- As many reads as a text has characters answer the text, if it is next, and move over it. -/
theorem Between.read_each {r : Reader} {u v m : Text} (h : r.Between u (m ++ v)) :
    (r.run (m.map fun _ => .read)).map Outcome.answer = m.map (fun c => .char (some c)) ∧
      r.after (m.map fun _ => .read) = r.advance m := by
  induction m generalizing r u with
  | nil => exact ⟨rfl, rfl⟩
  | cons c m ih =>
    have hread : Op.read.step r = ⟨.char (some c), r.advance [c], none⟩ :=
      congrArg (Outcome.map Answer.char) h.read_eq
    obtain ⟨hanswers, hafter⟩ := ih (Between.advance (m := [c]) h)
    rw [List.map_cons, run, after_cons, hread]
    exact ⟨congrArg (_ :: ·) hanswers, hafter⟩

theorem Between.after_reads {r : Reader} {u v m : Text} (h : r.Between u (m ++ v)) :
    r.after (List.replicate m.length .read) = r.advance m := by
  rw [← List.map_const']
  exact h.read_each.2

/-- A run over a text comes to a place of this text. -/
theorem between_of_run (t : Text) (o : Options) (ops : List Op) :
    let r := (start t o).after ops
    ∃ u v, r.Between u v ∧ r.text = t ∧ r.options = o := by
  obtain ⟨v, -, h, htext, hoptions⟩ := (Between.start t o).after ops
  exact ⟨_, v, h, htext, hoptions⟩

end Reader

end TextScan
