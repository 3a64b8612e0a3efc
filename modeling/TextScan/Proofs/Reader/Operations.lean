import TextScan.Reader.Between

/-!
# Reader — the operations, told by the two parts

What each operation comes to is told by the text that is left: `Between.read_eq`,
`Between.consumeWhile_eq`, `Between.consumeAll_eq`, `Between.matchAny_eq`, `Between.matchText_eq`,
`Between.matchChar_eq`, and for patterns `Between.matchPattern_cases`.

* `Reader.move` is the one way in which they move a reader.
* `Between.consumedSince_eq`: what lies between an earlier place and the cursor.
-/

namespace TextScan

/-- The reader after a text that lies before it, whose newlines count or not. -/
def Reader.move (r : Reader) (tracked : Bool) (m : Text) : Reader :=
  if tracked then r.advance m else { r with cursor := r.cursor.advanceColumns m }

namespace Reader

@[simp] theorem move_nil (r : Reader) (tracked : Bool) : r.move tracked [] = r := by
  cases tracked <;> rfl

@[simp] theorem text_move (r : Reader) (tracked : Bool) (m : Text) :
    (r.move tracked m).text = r.text := by
  cases tracked <;> rfl

@[simp] theorem options_move (r : Reader) (tracked : Bool) (m : Text) :
    (r.move tracked m).options = r.options := by
  cases tracked <;> rfl

@[simp] theorem index_move (r : Reader) (tracked : Bool) (m : Text) :
    (r.move tracked m).index = r.index + Text.byteSize m := by
  cases tracked with
  | true => exact Cursor.index_advance r.cursor m
  | false => rfl

/-- The match of a pattern is moved over as the options say. -/
theorem advanceMatch_eq_move (r : Reader) (m : Text) :
    r.advanceMatch m = r.move (r.options.patternLines == .tracked) m := by
  rw [advanceMatch, move]
  cases r.options.patternLines <;> rfl

theorem advance_append (r : Reader) (m m' : Text) :
    r.advance (m ++ m') = (r.advance m).advance m' :=
  congrArg (fun k => { r with cursor := k }) (r.cursor.advance_append m m')

/-! ### Tests -/

section
variable {σ : Type} {test : Char → StateM σ Bool} {c : Char} {s s' : σ}

/-- A test that refuses the first character stops there. -/
theorem acceptedBy_of_refused (h : test c s = (false, s')) (t : Text) :
    acceptedBy test (c :: t) s = ([], s') := by
  rw [acceptedBy, h]

/-- A test that accepts the first character goes on with the others. -/
theorem acceptedBy_of_accepted (h : test c s = (true, s')) (t : Text) :
    acceptedBy test (c :: t) s =
      (c :: (acceptedBy test t s').1, (acceptedBy test t s').2) := by
  rw [acceptedBy, h]

end

/-- What a test accepts is a first part of the text. -/
theorem acceptedBy_prefix {σ : Type} (test : Char → StateM σ Bool) (t : Text) (s : σ) :
    ∃ w, t = (acceptedBy test t s).1 ++ w := by
  induction t generalizing s with
  | nil => exact ⟨[], rfl⟩
  | cons c t ih =>
    rcases htest : test c s with ⟨_ | _, s'⟩
    · rw [acceptedBy_of_refused htest]
      exact ⟨c :: t, rfl⟩
    · rw [acceptedBy_of_accepted htest]
      obtain ⟨w, hw⟩ := ih s'
      exact ⟨w, congrArg (c :: ·) hw⟩

/-- A test without a state accepts the leading characters with its property. -/
theorem acceptedBy_pure (p : Char → Bool) (t : Text) :
    acceptedBy (fun c => (pure (p c) : StateM Unit Bool)) t () = (t.takeWhile p, ()) := by
  induction t with
  | nil => rfl
  | cons c t ih =>
    cases hp : p c with
    | false =>
      have htest : (pure (p c) : StateM Unit Bool) () = (false, ()) := by rw [hp]; rfl
      rw [acceptedBy_of_refused htest, List.takeWhile_cons_of_neg (by simp [hp])]
    | true =>
      have htest : (pure (p c) : StateM Unit Bool) () = (true, ()) := by rw [hp]; rfl
      rw [acceptedBy_of_accepted htest, ih, List.takeWhile_cons_of_pos hp]

namespace Between

variable {r : Reader} {u v w m : Text}

/-! ### Places -/

theorem move (h : r.Between u (m ++ v)) (tracked : Bool) :
    (r.move tracked m).Between (u ++ m) v where
  text_eq := by rw [text_move, h.text_eq, List.append_assoc]
  index_eq := by rw [index_move, h.index_eq, Text.byteSize_append]

/-- The text between an earlier place and the cursor. -/
theorem slice?_eq (h : r.Between (u ++ m) w) :
    Text.slice? r.text (Text.byteSize u) r.index = some m := by
  refine Text.slice?_eq_some_iff.2 ⟨u, w, h.text_eq, rfl, ?_⟩
  rw [h.index_eq, Text.byteSize_append]

theorem consumedSince_eq (h : r.Between (u ++ m) w) : r.consumedSince (Text.byteSize u) = m := by
  rw [consumedSince, h.slice?_eq]
  rfl

/-- What was moved over is found between the two cursors. -/
theorem slice?_advance (h : r.Between u (m ++ v)) :
    Text.slice? r.text r.index (r.advance m).index = some m := by
  rw [h.index_eq]
  exact h.advance.slice?_eq

theorem consumedSince_advance (h : r.Between u (m ++ v)) :
    (r.advance m).consumedSince r.index = m := by
  rw [h.index_eq]
  exact h.advance.consumedSince_eq

/-- After the next character, the others are left. -/
theorem advance_head (h : r.Between u v) {c : Char} (hc : v.head? = some c) :
    (r.advance [c]).Between (u ++ [c]) v.tail := by
  obtain ⟨t, rfl⟩ := List.head?_eq_some_iff.1 hc
  exact advance (m := [c]) h

/-- After the leading characters with a property, the others are left. -/
theorem advance_takeWhile (h : r.Between u v) (p : Char → Bool) :
    (r.advance (v.takeWhile p)).Between (u ++ v.takeWhile p) (v.dropWhile p) := by
  refine advance ?_
  rw [List.takeWhile_append_dropWhile]
  exact h

/-- What was consumed by a property is found between the two cursors. -/
theorem consumedSince_advance_takeWhile (h : r.Between u v) (p : Char → Bool) :
    (r.advance (v.takeWhile p)).consumedSince r.index = v.takeWhile p := by
  refine consumedSince_advance (u := u) (v := v.dropWhile p) ?_
  rw [List.takeWhile_append_dropWhile]
  exact h

/-- The text before the cursor is what was consumed. -/
theorem before?_eq (h : r.Between u v) : Text.before? r.text r.index = some u :=
  Text.before?_eq_some_iff.2 ⟨v, h.text_eq, h.index_eq.symm⟩

/-! ### Operations -/

theorem read_eq (h : r.Between u v) :
    r.read = ⟨v.head?, r.advance v.head?.toList, none⟩ := by
  rw [read, h.peek_eq]
  cases v.head? <;> rfl

/-- Consuming with a test takes what the test accepts. -/
theorem consumeWhile_eq {σ : Type} (h : r.Between u v) (test : Char → StateM σ Bool) (s : σ) :
    r.consumeWhile test s =
      ⟨((acceptedBy test v s).1.length, (acceptedBy test v s).2),
        r.advance (acceptedBy test v s).1, none⟩ := by
  rw [consumeWhile, h.rest_eq]

theorem consumeAll_eq (h : r.Between u v) (p : Char → Bool) :
    r.consumeAll p = ⟨(v.takeWhile p).length, r.advance (v.takeWhile p), none⟩ := by
  rw [consumeAll, h.consumeWhile_eq, acceptedBy_pure]
  rfl

theorem matchAny_eq (h : r.Between u v) :
    r.matchAny = if v.isEmpty then ⟨none, r, none⟩ else ⟨some v, r.advance v, none⟩ := by
  rw [matchAny, h.rest_eq]

theorem matchText_eq (h : r.Between u v) (literal : Text) :
    r.matchText literal =
      if literal.isPrefixOf v then
        ⟨true, r.advance literal, some (.literalMatched literal (r.advance literal).pos)⟩
      else ⟨false, r, none⟩ := by
  rw [matchText, h.rest_eq]

theorem matchChar_eq (h : r.Between u v) (expected : Char) :
    r.matchChar expected =
      if v.head? = some expected then ⟨true, r.advance [expected], none⟩
      else ⟨false, r, none⟩ := by
  rw [matchChar, h.peek_eq]

/-- A span that fits covers a first part of what is left. -/
theorem span_text_eq (h : r.Between u (m ++ w)) {s : Span} (hstart : s.start = r.index)
    (hstop : s.stop = r.index + Text.byteSize m) :
    Text.slice? r.text s.start s.stop = some m ∧ s.text r.text = m := by
  have hslice : Text.slice? r.text s.start s.stop = some m := by
    rw [hstart, hstop]
    exact Text.slice?_eq_some_iff.2
      ⟨u, w, by rw [h.text_eq, List.append_assoc], h.index_eq.symm, rfl⟩
  refine ⟨hslice, ?_⟩
  rw [Span.text, hslice]
  rfl

/-- A pattern either answers nothing, or a span that does not fit, or a span that covers a first
part of what is left, which is then consumed. -/
theorem matchPattern_cases (h : r.Between u v) (p : Pattern) :
    (p.findAt r.text r.index = none ∧ r.matchPattern p = ⟨none, r, none⟩) ∨
    (∃ s, p.findAt r.text r.index = some s ∧ s.fits r.text r.index = false ∧
      r.matchPattern p = ⟨none, r, some (.invalidSpan r.index s)⟩) ∨
    ∃ s m w, p.findAt r.text r.index = some s ∧ s.fits r.text r.index = true ∧ v = m ++ w ∧
      s.start = r.index ∧ s.stop = r.index + Text.byteSize m ∧
      r.matchPattern p = ⟨some m, r.advanceMatch m,
        some (.patternMatched r.index (Text.byteSize m) (r.advanceMatch m).pos)⟩ := by
  cases hfind : p.findAt r.text r.index with
  | none => exact .inl ⟨rfl, by simp only [matchPattern, hfind]⟩
  | some s =>
    right
    cases hfits : s.fits r.text r.index with
    | false => exact .inl ⟨s, rfl, hfits, by simp [matchPattern, hfind, hfits]⟩
    | true =>
      obtain ⟨m, w, rfl, hstart, hstop⟩ := h.fits_iff.1 hfits
      have htext := (h.span_text_eq hstart hstop).2
      exact .inr ⟨s, m, w, rfl, hfits, rfl, hstart, hstop,
        by simp [matchPattern, hfind, hfits, htext]⟩

end Between

end Reader

end TextScan
