import TextScan.Proofs.Run.Step

/-!
# Run — nothing is lost, and failures leave no trace

Each step of a run goes from one place of the text to the same or a later one; what it answers is
the text between the two, or the number of its characters; and a failure leaves the cursor where it
was.  So the pieces of a run make up the text before the cursor, and with what is left the whole
text, and a failing step may as well not have been taken (`Reader.conservation_of_run`).

* `Reader.Between.run_kept`: the run without some of its failing steps.
-/

namespace TextScan

@[simp] theorem kept_cons_true {α : Type} (marks : List Bool) (x : α) (xs : List α) :
    kept (true :: marks) (x :: xs) = x :: kept marks xs := rfl

@[simp] theorem kept_cons_false {α : Type} (marks : List Bool) (x : α) (xs : List α) :
    kept (false :: marks) (x :: xs) = kept marks xs := rfl

namespace Reader

variable {r : Reader} {u v : Text}

/-- A reader cuts its text in two. -/
theorem Between.consumedSince_zero_append_rest (h : r.Between u v) :
    r.consumedSince 0 ++ r.rest = r.text := by
  have hconsumed : r.consumedSince 0 = u := consumedSince_eq (u := []) h
  rw [hconsumed, h.rest_eq, h.text_eq]

/-- A run without some of its failing steps has the outcomes of the other steps, and goes to the
same place. -/
theorem Between.run_kept (h : r.Between u v) {ops : List Op} {marks : List Bool}
    (hlength : marks.length = ops.length)
    (hfail : ∀ s ∈ (r.run ops).zip marks, s.2 = false → s.1.answer.isFailure = true) :
    r.run (kept marks ops) = kept marks (r.run ops) ∧ r.after (kept marks ops) = r.after ops := by
  induction ops generalizing r u v marks with
  | nil =>
    cases marks with
    | nil => exact ⟨rfl, rfl⟩
    | cons mark marks => cases hlength
  | cons op ops ih =>
    cases marks with
    | nil => cases hlength
    | cons mark marks =>
      obtain ⟨m, w, rfl, ht⟩ := op.step_takes h
      have hrest := ih (ht.between h) (Nat.succ.inj hlength) fun s hs =>
        hfail s (List.mem_cons_of_mem _ hs)
      cases mark with
      | true =>
        obtain ⟨hrun, hafter⟩ := hrest
        exact ⟨congrArg (op.step r :: ·) hrun, hafter⟩
      | false =>
        -- the step that is left out changes nothing for those after it
        have hstay : (op.step r).reader = r :=
          Op.step_of_failure h (hfail (op.step r, false) List.mem_cons_self rfl)
        rw [run, after_cons, kept_cons_false, kept_cons_false, hstay]
        rw [hstay] at hrest
        exact hrest

/-- **A run loses nothing, and its failures leave no trace.**  Each further step keeps the text and
the options and goes on to the same or a later place; its answer tells the text between the two
places; if it fails, the cursor stays.  The pieces of the run make up the text before the cursor,
which with the rest is the whole text.  The reader is at the end when no character is next, which is
when nothing is left.  Failing steps can be left out. -/
theorem conservation_of_run (t : Text) (o : Options) (ops : List Op) :
    let start := Reader.start t o
    let r := start.after ops
    (∀ op : Op, let s := op.step r
      r.index ≤ s.reader.index ∧ s.reader.text = t ∧ s.reader.options = o ∧
        (∃ m, Text.slice? t r.index s.reader.index = some m ∧ op.Tells s.answer m) ∧
        (s.answer.isFailure = true → s.reader.cursor = r.cursor)) ∧
      Text.before? t r.index = some (Piece.join (start.pieces ops)) ∧
      r.consumedSince 0 ++ r.rest = t ∧
      (r.eof = true ↔ r.peek = none) ∧ (r.peek = none ↔ r.rest = []) ∧
      ∀ marks : List Bool, marks.length = ops.length →
        (∀ s ∈ (start.run ops).zip marks, s.2 = false → s.1.answer.isFailure = true) →
        start.run (kept marks ops) = kept marks (start.run ops) ∧
          start.after (kept marks ops) = r := by
  intro start r
  have hstart : start.Between [] t := .start t o
  obtain ⟨v, -, h, htext, hoptions⟩ := hstart.after ops
  change r.Between _ v at h
  change r.text = t at htext
  change r.options = o at hoptions
  refine ⟨fun op => ?_, ?_, ?_, ?_, ?_, fun marks hlength hfail => hstart.run_kept hlength hfail⟩
  · obtain ⟨m, w, rfl, ht⟩ := op.step_takes h
    have hslice := (ht.between h).slice?_eq
    rw [ht.reader_eq, text_move, htext, ← ht.reader_eq, ← h.index_eq] at hslice
    refine ⟨?_, ?_, ?_, ⟨m, hslice, ht.tells⟩, fun hfail => ?_⟩
    · rw [ht.reader_eq, index_move]
      exact Nat.le_add_right _ _
    · rw [ht.reader_eq, text_move, htext]
    · rw [ht.reader_eq, options_move, hoptions]
    · rw [Op.step_of_failure h hfail]
  · exact htext ▸ h.before?_eq
  · exact h.consumedSince_zero_append_rest.trans htext
  · rw [h.eof_eq, h.peek_eq]
    cases v <;> simp
  · rw [h.peek_eq, h.rest_eq]
    exact List.head?_eq_none_iff

/-- Two reads, with three failures between them that are left out. -/
theorem conservation_of_run_two_reads :
    let start := Reader.start ['é', 'b'] {}
    let ops : List Op :=
      [.read, .matchText ['b', 'c'], .matchPattern (.relative ⟨0, 2⟩), .consume (· == 'é'), .read]
    let marks := [true, false, false, false, true]
    (marks.length = ops.length ∧
      ∀ s ∈ (start.run ops).zip marks, s.2 = false → s.1.answer.isFailure = true) ∧
      start.run [.read, .read] = kept marks (start.run ops) ∧ (start.after ops).index = 3 := by
  intro start ops marks
  have hfail : ∀ s ∈ (start.run ops).zip marks, s.2 = false → s.1.answer.isFailure = true := by
    decide
  obtain ⟨-, -, -, -, -, hkept⟩ := conservation_of_run ['é', 'b'] {} ops
  exact ⟨⟨rfl, hfail⟩, (hkept marks rfl hfail).1, by decide⟩

end Reader

end TextScan
