import Mathlib.Algebra.Group.Nat.Defs
import TextScan.Proofs.Pattern
import TextScan.Proofs.Run.Step
import TextScan.Regex.Threads

/-!
# Run — a run can start anywhere

A reader that has come to some place of its text goes on as a new reader over the rest of the text
does, as long as the patterns look only ahead, whatever the engine of the expressions among them is.
Both answer the same, and the coordinates of the one are those of the place with those of the other
on top: the first line of the new reader is the one that the place is in (`Reader.restart_of_run`).

* `Cursor.resume` puts the coordinates in a rest on top of those where the rest starts.
* `Reader.Resumes` is what the two readers keep: `Reader.Resumes.step` and `Reader.Resumes.run`.
-/

namespace TextScan

open Regex (Engine Anchored)

variable {E : Engine}

/-! ### Coordinates -/

namespace Cursor

/-- The cursor in a whole text, given the cursor where a rest starts and the cursor in this rest. -/
def resume (base k : Cursor) : Cursor where
  index := base.index + k.index
  line := base.line + k.line
  column := if k.line = 0 then base.column + k.column else k.column

theorem resume_advanceChar (base k : Cursor) (c : Char) :
    base.resume (k.advanceChar c) = (base.resume k).advanceChar c := by
  by_cases hc : c = '\n'
  · simp [resume, advanceChar, hc, Nat.add_assoc]
  · by_cases hk : k.line = 0 <;> simp [resume, advanceChar, hc, hk, Nat.add_assoc]

theorem resume_advance (base k : Cursor) (m : Text) :
    base.resume (k.advance m) = (base.resume k).advance m := by
  induction m generalizing k with
  | nil => rfl
  | cons c m ih => rw [advance_cons, advance_cons, ih, resume_advanceChar]

theorem resume_advanceColumns (base k : Cursor) (m : Text) :
    base.resume (k.advanceColumns m) = (base.resume k).advanceColumns m := by
  by_cases hk : k.line = 0 <;> simp [resume, advanceColumns, hk, Nat.add_assoc]

end Cursor

namespace Reader

/-! ### The two readers -/

/-- A reader `s` over a whole text, which fits into 64 bits, and a reader `f` over its rest from
`base` on stand at the same place: `before` comes before the rest, `u` is what both consumed of it,
and `v` is left. -/
structure Resumes (base : Cursor) (before u v : Text) (s f : Reader) : Prop where
  whole : s.Between (before ++ u) v
  rest : f.Between u v
  options_eq : s.options = f.options
  cursor_eq : s.cursor = base.resume f.cursor
  size_lt : Text.byteSize s.text < Pattern.offsetBound

namespace Resumes

variable {base : Cursor} {before u v m : Text} {s f : Reader}

/-- A new reader over the rest of a text stands where the rest starts. -/
theorem start (h : s.Between u v) (hsize : Text.byteSize s.text < Pattern.offsetBound) :
    Resumes s.cursor u [] v s (Reader.start v s.options) where
  whole := by
    rw [List.append_nil]
    exact h
  rest := .start v s.options
  options_eq := rfl
  cursor_eq := rfl
  size_lt := hsize

/-- Both readers move over the same text. -/
theorem move (h : Resumes base before u (m ++ v) s f) (tracked : Bool) :
    Resumes base before (u ++ m) v (s.move tracked m) (f.move tracked m) where
  whole := by
    rw [← List.append_assoc]
    exact h.whole.move tracked
  rest := h.rest.move tracked
  options_eq := by rw [options_move, options_move, h.options_eq]
  cursor_eq := by
    have hcursor := h.cursor_eq
    cases tracked with
    | true =>
      show s.cursor.advance m = base.resume (f.cursor.advance m)
      rw [Cursor.resume_advance, hcursor]
    | false =>
      show s.cursor.advanceColumns m = base.resume (f.cursor.advanceColumns m)
      rw [Cursor.resume_advanceColumns, hcursor]
  size_lt := by
    rw [text_move]
    exact h.size_lt

/-- The whole text is the rest with something before it. -/
theorem text_eq (h : Resumes base before u v s f) : s.text = before ++ f.text := by
  rw [h.whole.text_eq, h.rest.text_eq, List.append_assoc]

/-- A pattern that looks only ahead matches the same for both readers. -/
theorem matched?_eq (h : Resumes base before u v s f) {p : Pattern} (hp : p.LooksAhead E) :
    s.matched? p = f.matched? p := by
  have hsize := h.size_lt
  rw [h.text_eq, Text.byteSize_append] at hsize
  rw [hp.matched?_eq h.whole h.size_lt, hp.matched?_eq h.rest (by omega)]

/-- **A step that looks only ahead is the same for both readers.** -/
theorem step (h : Resumes base before u v s f) {op : Op} (hop : op.LooksAhead E) :
    (op.step s).answer = (op.step f).answer ∧
      ∃ u' v', Resumes base before u' v' (op.step s).reader (op.step f).reader := by
  have hmatched : ∀ p, op = .matchPattern p → s.matched? p = f.matched? p := by
    rintro p rfl
    exact h.matched?_eq hop
  obtain ⟨hanswer, m, w, rfl, hs, hf⟩ := Op.step_congr h.whole h.rest hmatched
  refine ⟨hanswer, u ++ m, w, ?_⟩
  rw [hs.reader_eq, hf.reader_eq, h.options_eq]
  exact h.move _

/-- **A run that looks only ahead is the same for both readers.** -/
theorem run (h : Resumes base before u v s f) {ops : List Op}
    (hops : ∀ op ∈ ops, op.LooksAhead E) :
    (s.run ops).map Outcome.answer = (f.run ops).map Outcome.answer ∧
      ∃ u' v', Resumes base before u' v' (s.after ops) (f.after ops) := by
  induction ops generalizing s f u v with
  | nil => exact ⟨rfl, u, v, h⟩
  | cons op ops ih =>
    obtain ⟨hanswer, u', v', hnext⟩ := h.step (hops op List.mem_cons_self)
    obtain ⟨hanswers, hafter⟩ := ih hnext fun op' hop' => hops op' (List.mem_cons_of_mem op hop')
    refine ⟨?_, hafter⟩
    rw [Reader.run, Reader.run, List.map_cons, List.map_cons, hanswer, hanswers]

/-- What both consumed of the rest since a place in it is the same. -/
theorem consumedSince_eq (h : Resumes base before u v s f)
    (hbase : base.index = Text.byteSize before) (k : Nat) :
    s.consumedSince (base.index + k) = f.consumedSince k := by
  have hindex : s.index = Text.byteSize before + f.index := by
    rw [h.whole.index_eq, h.rest.index_eq, Text.byteSize_append]
  rw [consumedSince, consumedSince, h.text_eq, hindex, hbase, Text.slice?_append_add]

end Resumes

/-! ### Runs -/

/-- **A run can start anywhere.**  A reader that some run led to goes on as a new reader over the
rest of its text does, while the patterns look only ahead: the answers are the same, and after them
what is next and what is left, and what was consumed since a place of the rest.  The index and the
line count on from those where the rest starts, and so does the column, while the new reader is in
its first line.  All lengths of a text are offsets, below `2 ^ 64`; in a longer one the end of a
match could be an offset of the rest alone. -/
theorem restart_of_run (t : Text) (o : Options) (earlier ops : List Op)
    (ht : Text.byteSize t < 2 ^ 64) (hops : ∀ op ∈ ops, op.LooksAhead E) :
    let s := (start t o).after earlier
    let f := start s.rest o
    let s' := s.after ops
    let f' := f.after ops
    Text.after? t s.index = some s.rest ∧
      (s.run ops).map Outcome.answer = (f.run ops).map Outcome.answer ∧
      s'.peek = f'.peek ∧ s'.eof = f'.eof ∧ s'.rest = f'.rest ∧
      s'.index = s.index + f'.index ∧ s'.line = s.line + f'.line ∧
      s'.column = (if f'.line = 0 then s.column + f'.column else f'.column) ∧
      ∀ k, s'.consumedSince (s.index + k) = f'.consumedSince k := by
  intro s f s' f'
  obtain ⟨v, -, hs, htext, hoptions⟩ := (Between.start t o).after earlier
  change s.Between _ v at hs
  change s.text = t at htext
  change s.options = o at hoptions
  have hf : f = start v s.options := by rw [hoptions, ← hs.rest_eq]
  have hstart := Resumes.start hs (by rw [htext]; exact ht)
  rw [← hf] at hstart
  obtain ⟨hanswers, u', v', h⟩ := hstart.run hops
  change Resumes s.cursor _ u' v' s' f' at h
  refine ⟨?_, hanswers, ?_, ?_, ?_, ?_, ?_, ?_, h.consumedSince_eq hs.index_eq⟩
  · rw [← htext, hs.after?_eq, hs.rest_eq]
  · rw [h.whole.peek_eq, h.rest.peek_eq]
  · rw [h.whole.eof_eq, h.rest.eof_eq]
  · rw [h.whole.rest_eq, h.rest.rest_eq]
  · exact congrArg Cursor.index h.cursor_eq
  · exact congrArg Cursor.line h.cursor_eq
  · exact congrArg Cursor.column h.cursor_eq

/-- From the middle of the second line on: an expression that asks for the start of the text, and a
length that goes past the last offset for the one reader and past the text for the other. -/
theorem restart_of_run_second_line :
    let program : Regex.Program :=
      #[.look .textStart 1, .read (Regex.CharClass.char 'b') 2, .accept]
    let re : Anchored Engine.threads := ⟨['^', 'b'], program, rfl⟩
    let ops : List Op := [.matchPattern re.pattern,
      .matchPattern (.ofLength fun _ => some (2 ^ 64 - 1)), .read]
    let s := (start ['a', '\n', 'é', 'b', 'c'] {}).after [.consume (· != 'b')]
    let f := start s.rest {}
    (Text.byteSize ['a', '\n', 'é', 'b', 'c'] < 2 ^ 64 ∧
        ∀ op ∈ ops, op.LooksAhead Engine.threads) ∧
      (s.run ops).map Outcome.answer = (f.run ops).map Outcome.answer ∧
      (f.run ops).map Outcome.answer = [.text (some ['b']), .text none, .char (some 'c')] ∧
      (s.after ops).index = s.index + (f.after ops).index ∧ (s.after ops).pos = ⟨1, 4⟩ := by
  intro program re ops s f
  have hops : ∀ op ∈ ops, op.LooksAhead Engine.threads := by
    intro op hop
    rcases List.mem_cons.1 hop with rfl | hop
    · exact .expression (.anchored re)
    rcases List.mem_cons.1 hop with rfl | hop
    · exact .ofLength _
    rcases List.mem_cons.1 hop with rfl | hop
    · trivial
    · cases hop
  obtain ⟨-, hanswers, -, -, -, hindex, -⟩ := restart_of_run ['a', '\n', 'é', 'b', 'c'] {}
    [.consume (· != 'b')] ops (by decide) hops
  exact ⟨⟨by decide, hops⟩, hanswers, by decide, hindex, by decide⟩

end Reader

end TextScan
