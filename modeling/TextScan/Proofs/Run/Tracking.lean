import Mathlib.Data.List.TakeWhile
import TextScan.Proofs.Run.Position

/-!
# Run — line tracking changes no match

Whether the newlines of matches count decides where a reader says that it stands, and nothing else:
two readers over one text that differ in this alone answer the same and stand at the same index.
The reader that counts them is further down by the newlines of the matches.  In its line it is no
further on, and just as far on if no match had a newline since the last one that both count
(`Reader.tracking_of_run`).

* `Reader.Between.run_alike`: two runs over one text answer the same and take the same texts.
* `Piece.newlines_join`: newlines in tracked pieces and in the others.
* `Piece.lastLine_lastLine`: the last line is within what comes after the last counted newline.
-/

namespace TextScan

/-! ### Last lines -/

section
variable {α : Type} {p q : α → Bool} {xs : List α}

theorem afterLast_suffix (p : α → Bool) (xs : List α) : afterLast p xs <:+ xs := by
  rw [← List.reverse_prefix, afterLast, List.reverse_reverse]
  exact List.takeWhile_prefix _

theorem eq_false_of_mem_afterLast {x : α} (hx : x ∈ afterLast p xs) : p x = false := by
  have hx' := List.mem_takeWhile_imp (List.mem_reverse.1 hx)
  simpa using hx'

/-- What comes after the last element with a property comes after the last one of those with a
stronger property. -/
theorem afterLast_afterLast (h : ∀ x, q x = true → p x = true) :
    afterLast p (afterLast q xs) = afterLast p xs := by
  rw [afterLast, afterLast, List.reverse_reverse, List.takeWhile_takeWhile, afterLast]
  congr 2
  funext x
  cases hq : q x with
  | false => simp
  | true => simp [h x hq]

end

namespace Text

/-- A text is as long as its last line just if it has no newline, and else it is longer. -/
theorem byteSize_lastLine (t : Text) :
    byteSize (lastLine t) ≤ byteSize t ∧ (byteSize (lastLine t) = byteSize t ↔ '\n' ∉ t) := by
  obtain ⟨u, hu⟩ : lastLine t <:+ t := afterLast_suffix (· == '\n') t
  have hsize : byteSize t = byteSize u + byteSize (lastLine t) := by
    rw [← byteSize_append, hu]
  refine ⟨by omega, fun heq hmem => ?_, fun hmem => ?_⟩
  · obtain rfl : u = [] := byteSize_eq_zero_iff.1 (by omega)
    rw [← hu, List.nil_append] at hmem
    have hnot := eq_false_of_mem_afterLast hmem
    cases hnot
  · rw [← List.nil_append t, lastLine_append_of_not_mem hmem]
    rfl

end Text

namespace Piece

/-- The newlines of a text are those in its tracked pieces and those in the others. -/
theorem newlines_join (ps : List Piece) :
    Text.newlines (join ps) =
      lines ps + Text.newlines (join (ps.filter fun p => !p.tracked)) := by
  induction ps with
  | nil => rfl
  | cons p ps ih =>
    have hjoin : join (p :: ps) = p.text ++ join ps := rfl
    rw [hjoin, Text.newlines_append, ih, lines, lines]
    cases hp : p.tracked with
    | true => simp [hp, join, Nat.add_assoc]
    | false => simp [hp, join, Nat.add_left_comm]

/-- The last line is within what comes after the last newline that counts. -/
theorem lastLine_lastLine (ps : List Piece) :
    Text.lastLine (lastLine ps) = Text.lastLine (join ps) := by
  have hmarked : ∀ p : Piece, p.marked.map Prod.fst = p.text := by
    intro p
    rw [marked, List.map_map]
    exact List.map_id _
  have hjoin : (ps.flatMap marked).map Prod.fst = join ps := by
    rw [List.map_flatMap, join]
    exact congrArg (ps.flatMap ·) (funext hmarked)
  have hcounted : ∀ c : Char × Bool, (c.2 && c.1 == '\n') = true → (c.1 == '\n') = true :=
    fun _ hc => (Bool.and_eq_true_iff.1 hc).2
  rw [← hjoin]
  show afterLast (· == '\n') ((afterLast _ _).map Prod.fst) = afterLast (· == '\n') (_ : Text)
  rw [afterLast_map, afterLast_map, afterLast_afterLast hcounted]

end Piece

namespace Reader

/-! ### Two runs over one text -/

namespace Between

variable {r q : Reader} {u v : Text}

/-- **Two runs over one text answer the same and take the same texts**, whatever the options, and
lead to the same place. -/
theorem run_alike (hr : r.Between u v) (hq : q.Between u v) (ops : List Op) :
    (r.run ops).map Outcome.answer = (q.run ops).map Outcome.answer ∧
      (r.pieces ops).map Piece.text = (q.pieces ops).map Piece.text ∧
      ∃ u' v', (r.after ops).Between u' v' ∧ (q.after ops).Between u' v' := by
  induction ops generalizing r q u v with
  | nil => exact ⟨rfl, rfl, u, v, hr, hq⟩
  | cons op ops ih =>
    have hmatched : ∀ p, op = .matchPattern p → r.matched? p = q.matched? p := by
      intro p _
      rw [matched?, matched?, hr.text_eq, hq.text_eq, hr.index_eq, hq.index_eq]
    obtain ⟨hanswer, m, w, rfl, htr, htq⟩ := Op.step_congr hr hq hmatched
    obtain ⟨hanswers, htexts, hafter⟩ := ih (htr.between hr) (htq.between hq)
    refine ⟨?_, ?_, hafter⟩
    · rw [run, run, List.map_cons, List.map_cons, hanswer, hanswers]
    · rw [htr.pieces_cons hr, htq.pieces_cons hq, List.map_cons, List.map_cons, htexts]

end Between

/-- **Line tracking changes no match.**  A reader that counts the newlines of matches and one that
does not give the same answers in a run, and take the same texts, which the answers tell.  After it
they stand at the same index, with the same character next and the same text left, and the same was
consumed since any place.  The first is further down by the newlines of the matches, which are the
pieces that are not tracked by the second.  Its column is no larger, and is the same if no match had
a newline since the last newline that another operation took, and only then. -/
theorem tracking_of_run (t : Text) (o : Options) (ops : List Op) :
    let tracked := start t (o.withPatternLines .tracked)
    let untracked := start t (o.withPatternLines .columnOnly)
    let ps := untracked.pieces ops
    let r := tracked.after ops
    let q := untracked.after ops
    (tracked.run ops).map Outcome.answer = (untracked.run ops).map Outcome.answer ∧
      tracked.TakesEach ops (ps.map Piece.text) ∧ untracked.TakesEach ops (ps.map Piece.text) ∧
      ps.map Piece.tracked = ops.map (Op.tracks untracked.options) ∧
      r.index = q.index ∧ r.peek = q.peek ∧ r.eof = q.eof ∧ r.rest = q.rest ∧
      (∀ start, r.consumedSince start = q.consumedSince start) ∧
      r.line = q.line + Text.newlines (Piece.join (ps.filter fun p => !p.tracked)) ∧
      r.column ≤ q.column ∧ (r.column = q.column ↔ '\n' ∉ Piece.lastLine ps) := by
  intro tracked untracked ps r q
  have htracked : tracked.Between [] t := .start t _
  have huntracked : untracked.Between [] t := .start t _
  obtain ⟨hanswers, htexts, u, v, hr, hq⟩ := htracked.run_alike huntracked ops
  have hjoin : Piece.join (tracked.pieces ops) = Piece.join ps := by
    rw [Piece.join, Piece.join, List.flatMap_def, List.flatMap_def, htexts]
  have hpos : r.pos = Text.endPos (Piece.join ps) := by
    rw [← hjoin]
    exact pos_after_of_tracked t rfl ops
  have hline : r.line = Text.newlines (Piece.join ps) := congrArg Pos.line hpos
  have hcolumn : r.column = Text.byteSize (Text.lastLine (Piece.lastLine ps)) := by
    rw [Piece.lastLine_lastLine]
    exact congrArg Pos.column hpos
  obtain ⟨hline', hcolumn'⟩ : q.Follows ps := (Follows.start t _).after huntracked ops
  have htext : r.text = q.text := hr.text_eq.trans hq.text_eq.symm
  have hindex : r.index = q.index := hr.index_eq.trans hq.index_eq.symm
  refine ⟨hanswers, htexts ▸ htracked.takesEach ops, huntracked.takesEach ops,
    huntracked.tracked_pieces ops, hindex, hr.peek_eq.trans hq.peek_eq.symm,
    hr.eof_eq.trans hq.eof_eq.symm, hr.rest_eq.trans hq.rest_eq.symm, fun start => ?_, ?_, ?_⟩
  · rw [consumedSince, consumedSince, htext, hindex]
  · rw [hline, hline', Piece.newlines_join]
  · rw [hcolumn, hcolumn']
    exact Text.byteSize_lastLine (Piece.lastLine ps)

/-- The columns drift apart at a newline that is matched, and meet again at one that is read. -/
example :
    let pos (lines : LineTracking) (ops : List Op) : Pos :=
      ((start ['a', '\n', 'é', '\n', 'c'] { patternLines := lines }).after ops).pos
    let matching : List Op := [.matchPattern (.relative ⟨0, 4⟩)]
    pos .tracked matching = ⟨1, 2⟩ ∧ pos .columnOnly matching = ⟨0, 4⟩ ∧
      pos .tracked (matching ++ [.read]) = ⟨2, 0⟩ ∧
      pos .columnOnly (matching ++ [.read]) = ⟨1, 0⟩ := by
  decide

end Reader

end TextScan
