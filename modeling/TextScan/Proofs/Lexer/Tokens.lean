import TextScan.Proofs.Cursor
import TextScan.Proofs.Lexer.Leading
import TextScan.Proofs.Pattern

/-!
# Lexer — reading the token that a text starts with

A lexer that stands before a text reads the token that the text starts with, and stands after it.
Each kind is read as the text alone tells, and the kinds are tried in the same order.

* `Lexer.words` are the words that a lexer finds.
* `Reader.Between.plainToken?_eq`: the tokens that are no strings.
* `Reader.Between.tokenAt_eq`: all tokens, the errors and the end.
* `Lexer.Stands` is what a lexer keeps: it has read one part of its text, its position is where that
  part ends, and the words that it finds are the same.
* `Lexer.Stands.next_eq`: what a call answers, and what it goes over.
* `Lexer.Stands.next_of_token`, `Lexer.Stands.next_of_blanks`, `Lexer.Stands.next_of_error`: the
  next token, the end, and an error.
-/

namespace TextScan

open Lexer

variable {E : Regex.Engine}

/-! ### The words of a lexer -/

/-- What a pattern matches at the start of a text is a first part of it. -/
theorem Pattern.first?_prefix {p : Pattern} {t m : Text} (h : p.first? t = some m) : m <+: t :=
  (Reader.Between.start t {}).prefix_of_matched? h

/-- The words that a lexer finds are what its expressions match. -/
def Lexer.words (x : Lexer E) : Words where
  ident := x.ident.pattern.first?
  number := x.number.pattern.first?
  ident_prefix := Pattern.first?_prefix
  number_prefix := Pattern.first?_prefix

/-- A lexer for a text starts with it, and has its two expressions. -/
theorem Lexer.ofText_eq_ok {t : Text} {x : Lexer E} (h : ofText E t = .ok x) :
    x.reader = Reader.start t ∧
      x.ident.source = identPattern ∧ x.number.source = numberPattern := by
  rw [ofText] at h
  cases hident : Regex.Anchored.ofText E identPattern with
  | error e =>
    rw [hident] at h
    cases h
  | ok ident =>
    rw [hident] at h
    cases hnumber : Regex.Anchored.ofText E numberPattern with
    | error e =>
      rw [hnumber] at h
      cases h
    | ok number =>
      rw [hnumber] at h
      cases h
      exact ⟨rfl, Regex.Anchored.source_of_ofText hident, Regex.Anchored.source_of_ofText hnumber⟩

/-- With tracked lines, the match of a pattern is moved over like any other text. -/
theorem Reader.advanceMatch_of_tracked {r : Reader} (h : r.options.patternLines = .tracked)
    (m : Text) : r.advanceMatch m = r.advance m := by
  rw [advanceMatch, h]

/-! ### The kinds of tokens -/

namespace Reader.Between

variable {r : Reader} {u v : Text}

theorem newline?_eq (h : r.Between u v) :
    Lexer.newline? r = (Leading.newline? v).map fun tk => (tk, r.advance tk.raw) := by
  rw [Lexer.newline?, h.matchChar_eq, Leading.newline?]
  by_cases hc : v.head? = some '\n'
  · simp [hc, Token.raw]
  · simp [hc]

theorem comment?_eq (h : r.Between u v) :
    Lexer.comment? r = (Leading.comment? v).map fun tk => (tk, r.advance tk.raw) := by
  rw [Lexer.comment?, h.matchChar_eq, Leading.comment?]
  by_cases hc : v.head? = some '#'
  · have h₁ := h.advance_head hc
    simp only [hc, if_true, h₁.consumeAll_eq, h₁.consumedSince_advance_takeWhile, Option.map_some,
      Token.raw]
    rw [← advance_append]
    rfl
  · simp [hc]

theorem operator?_eq (h : r.Between u v) :
    Lexer.operator? r = (Leading.operator? v).map fun tk => (tk, r.advance tk.raw) := by
  rw [Lexer.operator?, Leading.operator?]
  induction Operator.all with
  | nil => rfl
  | cons op ops ih =>
    rw [List.findSome?_cons, List.find?_cons, ih, h.matchText_eq]
    by_cases hop : op.text.isPrefixOf v = true
    · simp [hop, Token.raw]
    · simp [hop]

/-- An expression reads what it matches at the start of what is left. -/
theorem matched?_eq (h : r.Between u v) (htracked : r.options.patternLines = .tracked)
    (a : Regex.Anchored E) {token : Text → Token} (hraw : ∀ m, (token m).raw = m) :
    Lexer.matched? a token r =
      ((a.pattern.first? v).map token).map fun tk => (tk, r.advance tk.raw) := by
  obtain ⟨hanswer, hreader⟩ := r.matchPattern_eq a.pattern
  rw [Pattern.IsExpression.matched?_eq (.anchored a) h] at hanswer hreader
  rw [Lexer.matched?, hanswer, hreader, advanceMatch_of_tracked htracked]
  cases a.pattern.first? v <;> simp [hraw]

/-- **A token that is no string is read as the text tells.** -/
theorem plainToken?_eq (x : Lexer E) (h : r.Between u v)
    (htracked : r.options.patternLines = .tracked) :
    x.plainToken? r = (Leading.plain? x.words v).map fun tk => (tk, r.advance tk.raw) := by
  rw [Lexer.plainToken?, Leading.plain?, h.newline?_eq, h.comment?_eq, h.operator?_eq,
    h.matched?_eq htracked x.ident fun _ => rfl, h.matched?_eq htracked x.number fun _ => rfl]
  simp only [Option.orElse_eq_orElse, Option.orElse_eq_or, Option.map_or, Lexer.words]

/-- After its opening quote a string is read up to its closing quote, or up to the end of its line
if it has none. -/
theorem closeString_eq (h : r.Between u v) (start : Pos) :
    Lexer.closeString start r =
      if (v.dropWhile isStringChar).head? = some '"' then
        (.ok (.str (v.takeWhile isStringChar)), r.advance (v.takeWhile isStringChar ++ ['"']))
      else
        (.error (.unclosedString start), r.advance (v.takeWhile isStringChar)) := by
  have hrest := h.advance_takeWhile isStringChar
  simp only [Lexer.closeString, h.consumeAll_eq, hrest.matchChar_eq,
    h.consumedSince_advance_takeWhile, advance_append]
  split <;> rfl

/-- **A text is read as it tells by itself**: a token, or an error. -/
theorem tokenAt_eq (x : Lexer E) (h : r.Between u v) (hv : v ≠ [])
    (htracked : r.options.patternLines = .tracked) :
    x.tokenAt r = ((Lead.of x.words v).answer r.pos, r.advance (Lead.of x.words v).taken) := by
  rw [Lexer.tokenAt, h.plainToken?_eq x htracked]
  cases hplain : Leading.plain? x.words v with
  | some tk =>
    have htoken : Leading.token? x.words v = some tk := by rw [Leading.token?, hplain]; rfl
    rw [Lead.of_token hv htoken]
    rfl
  | none =>
    have htoken : Leading.token? x.words v = Leading.str? v := by rw [Leading.token?, hplain]; rfl
    rw [Option.map_none]
    dsimp only
    rw [h.matchChar_eq]
    obtain ⟨c, t, rfl⟩ := List.exists_cons_of_ne_nil hv
    by_cases hc : c = '"'
    · -- a string is tried last, and only its quote is looked for before it is consumed
      subst hc
      have hopen : (r.advance ['"']).Between (u ++ ['"']) t := h.advance_head rfl
      rw [List.head?_cons, if_pos rfl, if_pos rfl, hopen.closeString_eq]
      rw [Leading.str?, List.head?_cons, List.tail_cons] at htoken
      by_cases hclose : (t.dropWhile isStringChar).head? = some '"'
      · rw [if_pos ⟨rfl, hclose⟩] at htoken
        rw [if_pos hclose, Lead.of_token hv htoken, ← advance_append]
        rfl
      · rw [if_neg fun h => hclose h.2] at htoken
        rw [if_neg hclose, Lead.of_quote htoken, ← advance_append]
        rfl
    · have hhead : (c :: t).head? ≠ some '"' := fun h => hc (Option.some.inj h)
      rw [Leading.str?, if_neg fun h => hhead h.1] at htoken
      rw [if_neg hhead, h.peek_eq, Lead.of_unexpected htoken hc]
      rfl

end Reader.Between

/-! ### A lexer between two parts of its text -/

/-- What is left after blanks starts with none. -/
theorem Leading.bare_dropWhile (v : Text) : Leading.Bare (v.dropWhile Reader.isBlank) := by
  intro c hc
  have hnot := List.head?_dropWhile_not Reader.isBlank v
  rw [hc] at hnot
  exact hnot

/-- A text is blanks and a part that starts with none. -/
theorem Leading.exists_blanks (v : Text) :
    ∃ b w, v = b ++ w ∧ b.all Reader.isBlank = true ∧ Bare w :=
  ⟨v.takeWhile Reader.isBlank, v.dropWhile Reader.isBlank,
    List.takeWhile_append_dropWhile.symm, List.all_takeWhile, bare_dropWhile v⟩

/-- A lexer has read one part of its text, has the other before it, and knows its position.  It
finds words in a way of its own. -/
structure Lexer.Stands (x : Lexer E) (w : Words) (u v : Text) : Prop where
  between : x.reader.Between u v
  tracked : x.reader.options.patternLines = .tracked
  pos : x.reader.pos = Text.endPos u
  words_eq : x.words = w

namespace Lexer.Stands

variable {x : Lexer E} {w : Words} {u v m b : Text} {tk : Token}

/-- A new lexer has everything before it. -/
theorem start {t : Text} (h : ofText E t = .ok x) : x.Stands x.words [] t := by
  obtain ⟨hreader, -⟩ := ofText_eq_ok h
  exact ⟨hreader ▸ Reader.Between.start t {}, by rw [hreader]; rfl, by rw [hreader]; rfl, rfl⟩

theorem advance (h : x.Stands w u (m ++ v)) :
    Stands { x with reader := x.reader.advance m } w (u ++ m) v where
  between := h.between.advance
  tracked := h.tracked
  pos := Cursor.pos_advance h.pos m
  words_eq := h.words_eq

/-- The reader after the blanks before it. -/
theorem consumeBlanks_eq (h : x.Stands w u (b ++ v)) (hb : b.all Reader.isBlank = true)
    (hv : Leading.Bare v) : x.reader.consumeBlanks.reader = x.reader.advance b := by
  rw [Reader.consumeBlanks, h.between.consumeAll_eq, Text.takeWhile_append hb hv]

/-- **A call** answers what the text after the blanks starts with, at the position where the blanks
end, and goes over as much of it as it takes. -/
theorem next_eq (h : x.Stands w u (b ++ v)) (hb : b.all Reader.isBlank = true)
    (hv : Leading.Bare v) :
    x.next =
      (((Lead.of w v).answer (Text.endPos (u ++ b))).map fun token =>
          token.map (Text.endPos (u ++ b), ·),
        { x with reader := x.reader.advance (b ++ (Lead.of w v).taken) }) := by
  have hat := h.advance
  rw [next, h.consumeBlanks_eq hb hv, hat.between.eof_eq, Reader.advance_append]
  cases v with
  | nil => rfl
  | cons c t =>
    have htoken := hat.between.tokenAt_eq x (List.cons_ne_nil c t) hat.tracked
    rw [h.words_eq, hat.pos] at htoken
    simp only [List.isEmpty_cons, Bool.false_eq_true, if_false, htoken, ← hat.pos]

/-- **The next token** is the one that the text after the blanks starts with, at the position where
the blanks end; the lexer stands after it. -/
theorem next_of_token (h : x.Stands w u (b ++ (tk.raw ++ v))) (hb : b.all Reader.isBlank = true)
    (hv : Leading.Bare (tk.raw ++ v)) (htk : Leading.token? w (tk.raw ++ v) = some tk)
    (hne : tk.raw ++ v ≠ []) :
    ∃ x', x.next = (.ok (some (Text.endPos (u ++ b), tk)), x') ∧
      x'.Stands w (u ++ (b ++ tk.raw)) v := by
  have hnext := h.next_eq hb hv
  rw [Lead.of_token hne htk] at hnext
  rw [← List.append_assoc] at h
  exact ⟨_, hnext, h.advance⟩

/-- **No token is left** where only blanks are. -/
theorem next_of_blanks (h : x.Stands w u b) (hb : b.all Reader.isBlank = true) :
    ∃ x', x.next = (.ok none, x') ∧ x'.Stands w (u ++ b) [] := by
  have h' : x.Stands w u (b ++ []) := by rwa [List.append_nil]
  have hnext := h'.next_eq hb fun _ hc => by cases hc
  rw [Lead.of, Lead.taken, List.append_nil] at hnext
  exact ⟨_, hnext, h'.advance⟩

/-- **An error** is what the text after the blanks shows, at the position where the blanks end. -/
theorem next_of_error {e : LexError} (h : x.Stands w u (b ++ v)) (hb : b.all Reader.isBlank = true)
    (hv : Leading.Bare v) (he : (Lead.of w v).answer (Text.endPos (u ++ b)) = .error e) :
    ∃ x', x.next = (.error e, x') := by
  rw [h.next_eq hb hv, he]
  exact ⟨_, rfl⟩

end Lexer.Stands

end TextScan
