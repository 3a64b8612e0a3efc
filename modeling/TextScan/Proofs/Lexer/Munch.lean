import TextScan.Proofs.Lexer.Patterns

/-!
# Lexer — every call is a longest match

The kinds of tokens are tried in a fixed order, and each kind takes what its characters allow.  What
comes out is the longest match of all kinds together, for every state that calls can lead to.

* `Lead.munch`: what a text starts with is the longest match.
* `Lexer.Stands.next_munch`: one call is a longest match.
* `Lexer.Stands.after`: calls leave the lexer between two parts of its text.
* `Lexer.munch_of_next`: every call is a longest match.
-/

namespace TextScan

open Lexer (isStringChar)

/-! ### What a text starts with -/

namespace Lead

/-- What is consumed is a first part of the text. -/
theorem exists_eq_taken_append (w : Words) (t : Text) : ∃ v, t = (of w t).taken ++ v := by
  obtain ⟨l, hl, h⟩ := exists_finds w t
  rw [hl]
  cases h with
  | nothing => exact ⟨[], rfl⟩
  | token ne found =>
    obtain ⟨v, hv⟩ := Leading.raw_prefix_of_token? found
    exact ⟨v, hv.symm⟩
  | @unclosed t fails =>
    refine ⟨t.dropWhile isStringChar, ?_⟩
    rw [taken, List.cons_append, List.takeWhile_append_dropWhile]
  | unexpected fails other => exact ⟨_, rfl⟩

/-- A text without a closing quote on its first line has no quote on it at all. -/
theorem takeWhile_of_unclosed {t : Text} (h : (t.dropWhile isStringChar).head? ≠ some '"') :
    t.takeWhile isStringChar = t.takeWhile (· != '\n') := by
  induction t with
  | nil => rfl
  | cons c t ih =>
    by_cases hc : isStringChar c = true
    · have hline : (c != '\n') = true := (Bool.and_eq_true_iff.1 hc).2
      rw [List.dropWhile_cons, if_pos hc] at h
      rw [List.takeWhile_cons, List.takeWhile_cons, if_pos hc, if_pos hline, ih h]
    · have hquote : c ≠ '"' := by
        rintro rfl
        exact h rfl
      have hline : c = '\n' := by simpa [isStringChar, hquote] using hc
      subst hline
      rfl

/-- **What a text starts with is the longest match**, with the words of the language. -/
theorem munch (place : Pos) (t : Text) :
    Munch place t
      ((((of .language t).answer place).map fun token =>
        token.map (place, ·)).mapError LexError.message)
      (of .language t).taken := by
  obtain ⟨l, hl, h⟩ := exists_finds .language t
  rw [hl]
  cases h with
  | nothing => exact .nothing
  | token ne found =>
    have hlongest := Leading.token?_eq_some_iff.1 found
    exact .token hlongest fun tk' h' hraw => Token.eq_of_raw_eq hlongest.wellFormed h' hraw
  | unclosed fails =>
    rw [takeWhile_of_unclosed (Leading.not_closed_of_token? fails)]
    exact .unclosed (Leading.token?_eq_none_iff.1 fails)
  | unexpected fails other => exact .unexpected (Leading.token?_eq_none_iff.1 fails) other

end Lead

/-! ### Calls -/

namespace Lexer

namespace Stands

variable {E : Regex.Engine} {x : Lexer E} {w : Words} {u v b : Text}

/-- A call leaves the lexer after the blanks and what it takes. -/
theorem next (h : x.Stands w u (b ++ v)) (hb : b.all Reader.isBlank = true)
    (hv : Leading.Bare v) :
    ∃ m, v = (Lead.of w v).taken ++ m ∧
      x.next.2.Stands w (u ++ (b ++ (Lead.of w v).taken)) m := by
  obtain ⟨m, hm⟩ := Lead.exists_eq_taken_append w v
  refine ⟨m, hm, ?_⟩
  have h' : x.Stands w u ((b ++ (Lead.of w v).taken) ++ m) := by rwa [List.append_assoc, ← hm]
  rw [h.next_eq hb hv]
  exact h'.advance

/-- Calls leave the lexer between two parts of its text. -/
theorem after (h : x.Stands w u v) (n : Nat) : ∃ u' v', (x.after n).Stands w u' v' := by
  induction n generalizing x u v with
  | zero => exact ⟨u, v, h⟩
  | succ n ih =>
    obtain ⟨b, v, rfl, hb, hv⟩ := Leading.exists_blanks v
    obtain ⟨m, -, hnext⟩ := h.next hb hv
    exact ih hnext

/-- **One call is a longest match** of what is left after the blanks. -/
theorem next_munch (h : x.Stands .language u v) :
    let r := x.reader.advance (x.reader.rest.takeWhile Reader.isBlank)
    ∃ taken, Munch r.pos (x.reader.rest.dropWhile Reader.isBlank)
        (x.next.1.mapError LexError.message) taken ∧
      x.next.2.reader = r.advance taken := by
  have hrest : x.reader.rest = v := h.between.rest_eq
  have hsplit : v = v.takeWhile Reader.isBlank ++ v.dropWhile Reader.isBlank :=
    List.takeWhile_append_dropWhile.symm
  rw [hsplit] at h
  have hpos : (x.reader.advance (v.takeWhile Reader.isBlank)).pos =
      Text.endPos (u ++ v.takeWhile Reader.isBlank) := h.advance.pos
  have hnext := h.next_eq List.all_takeWhile (Leading.bare_dropWhile v)
  refine ⟨(Lead.of .language (v.dropWhile Reader.isBlank)).taken, ?_, ?_⟩
  · rw [hnext, hrest, hpos]
    exact Lead.munch _ _
  · rw [hnext, hrest]
    exact Reader.advance_append ..

end Stands

/-- **Every call is a longest match**, if the engine reads the two expressions as they are meant.
Whatever calls were made before, a call skips the blanks and answers the longest match of what is
left, at the position after the blanks; it leaves the reader after what was matched. -/
theorem munch_of_next {E : Regex.Engine} (hE : Supported E) (t : Text) (n : Nat) :
    ∃ x, ofText E t = .ok x ∧
      let y := x.after n
      let r := y.reader.advance (y.reader.rest.takeWhile Reader.isBlank)
      ∃ taken, Munch r.pos (y.reader.rest.dropWhile Reader.isBlank)
          (y.next.1.mapError LexError.message) taken ∧
        y.next.2.reader = r.advance taken := by
  obtain ⟨x, hx, hwords⟩ := hE.exists_ofText t
  have hstart := Stands.start hx
  rw [hwords] at hstart
  obtain ⟨u, v, h⟩ := hstart.after n
  exact ⟨x, hx, h.next_munch⟩

/-- After a string that is not closed and the newline behind it, a number whose point is not part of
it. -/
theorem munch_of_next_point :
    let t : Text := ['"', 'a', '\n', ' ', '1', '.']
    Supported Regex.Engine.threads ∧
      ∃ x, ofText Regex.Engine.threads t = .ok x ∧
        let y := x.after 2
        (y.next.1 = .ok (some (⟨1, 1⟩, .number ['1'])) ∧ y.next.2.reader.rest = ['.']) ∧
          ∃ taken, Munch ⟨1, 1⟩ ['1', '.'] (y.next.1.mapError LexError.message) taken ∧
            y.next.2.reader = (y.reader.advance [' ']).advance taken := by
  intro t
  obtain ⟨x, hx, h⟩ := munch_of_next supported_threads t 2
  obtain rfl := Except.ok.inj ((ofText_threads t).symm.trans hx)
  have hrest : ((ofThreads t).after 2).reader.rest = [' ', '1', '.'] := by decide +kernel
  have hpos : (((ofThreads t).after 2).reader.advance [' ']).pos = ⟨1, 1⟩ := by decide +kernel
  have hblanks : [' ', '1', '.'].takeWhile Reader.isBlank = [' '] := rfl
  have hbare : [' ', '1', '.'].dropWhile Reader.isBlank = ['1', '.'] := rfl
  simp only [hrest, hblanks, hbare, hpos] at h
  exact ⟨supported_threads, _, ofText_threads t, by decide +kernel, h⟩

end Lexer

end TextScan
