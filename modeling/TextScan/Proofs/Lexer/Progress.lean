import TextScan.Proofs.Lexer.Munch
import TextScan.Proofs.Lexer.Patterns
import TextScan.Proofs.Lexer.Reading
import TextScan.Proofs.Run.Bounds

/-!
# Lexer — calls make progress or stand still

A call that takes something leaves less of the text, and a call that takes nothing is repeated by
every call after it.  So there are at most as many calls of the first kind as the text has bytes,
and after that nothing changes any more; collecting comes to an end within these calls
(`Lexer.progress_of_next`).

* `Lexer.Proceeds` says what a call does, by its answer.
* `Lexer.Stands.next_of_still`: a call that takes nothing is repeated.
* `Lexer.Stands.proceeds`: every call makes progress or stands still.
* `Lexer.Stands.after_add_eq`: after as many calls as bytes are left nothing changes.
-/

namespace TextScan

open Lexer (isStringChar)

/-- What a call that goes from one lexer to another does, by its answer. -/
inductive Lexer.Proceeds {E : Regex.Engine} (x y : Lexer E) :
    Except LexError (Option (Pos × Token)) → Prop where
  /-- A token takes something. -/
  | token {found : Pos × Token} (lt : x.reader.index < y.reader.index) :
      Proceeds x y (.ok (some found))
  /-- A string that is not closed takes something too, up to the end of its line: the newline there
  is the next token, or nothing is left. -/
  | unclosed {start : Pos} (lt : x.reader.index < y.reader.index)
      (line : y.next.1 = .ok (some (y.reader.pos, .newline)) ∨
        y.next.1 = .ok none ∧ y.reader.eof = true) :
      Proceeds x y (.error (.unclosedString start))
  /-- Where nothing is left, all later calls say so and change nothing. -/
  | nothing (still : ∀ n, (y.after n).next = (.ok none, y)) : Proceeds x y (.ok none)
  /-- At an unexpected symbol all later calls fail alike and change nothing. -/
  | unexpected {place : Pos} {c : Char}
      (still : ∀ n, (y.after n).next = (.error (.unexpectedSymbol place c), y)) :
      Proceeds x y (.error (.unexpectedSymbol place c))

namespace Lexer

variable {E : Regex.Engine} {x : Lexer E}

/-- A call that is repeated once is repeated by all calls after it. -/
theorem after_next_of_still (h : x.next.2.next = x.next) (n : Nat) :
    (x.next.2.after n).next = x.next := by
  induction n with
  | zero => exact h
  | succ n ih =>
    rw [after, h]
    exact ih

namespace Stands

variable {w : Words} {u v b : Text}

/-- A call goes over the blanks and what it takes. -/
theorem index_next (h : x.Stands w u (b ++ v)) (hb : b.all Reader.isBlank = true)
    (hv : Leading.Bare v) :
    x.next.2.reader.index = x.reader.index + Text.byteSize (b ++ (Lead.of w v).taken) := by
  rw [h.next_eq hb hv]
  exact Cursor.index_advance ..

/-- **A call that takes nothing is repeated** by the next one. -/
theorem next_of_still (h : x.Stands w u (b ++ v)) (hb : b.all Reader.isBlank = true)
    (hv : Leading.Bare v) (htaken : (Lead.of w v).taken = []) : x.next.2.next = x.next := by
  have hnext := h.next_eq hb hv
  rw [htaken, List.append_nil] at hnext
  -- the blanks are gone, and the text after them is the same
  have hagain := next_eq (b := []) h.advance rfl hv
  rw [htaken, List.append_nil, List.append_nil] at hagain
  rw [hnext]
  exact hagain

/-- What comes after a string that is not closed is a newline, or nothing. -/
theorem next_of_line (h : x.Stands w u v) (hv : ∀ c, v.head? = some c → c = '\n') :
    x.next.1 = .ok (some (x.reader.pos, .newline)) ∨ x.next.1 = .ok none ∧ x.reader.eof = true := by
  cases v with
  | nil =>
    obtain ⟨y, hnext, -⟩ := h.next_of_blanks rfl
    exact .inr ⟨congrArg Prod.fst hnext, h.between.eof_eq⟩
  | cons c v =>
    obtain rfl := hv c rfl
    have hbare : Leading.Bare ('\n' :: v) := by
      rintro c hc
      obtain rfl := Option.some.inj hc
      decide
    have hnewline : x.Stands w u ([] ++ (Token.newline.raw ++ v)) := h
    obtain ⟨y, hnext, -⟩ := hnewline.next_of_token rfl hbare rfl (List.cons_ne_nil _ _)
    rw [List.append_nil, ← h.pos] at hnext
    exact .inl (congrArg Prod.fst hnext)

/-- **Every call makes progress or stands still**, if no word is empty. -/
theorem proceeds (hw : w.NeverEmpty) (h : x.Stands w u v) : x.Proceeds x.next.2 x.next.1 := by
  obtain ⟨b, v, rfl, hb, hv⟩ := Leading.exists_blanks v
  obtain ⟨l, hl, hfinds⟩ := Lead.exists_finds w v
  have hindex := h.index_next hb hv
  have hnext := congrArg Prod.fst (h.next_eq hb hv)
  have hlt : (Lead.of w v).taken ≠ [] → x.reader.index < x.next.2.reader.index := by
    intro htaken
    rw [hindex]
    exact Nat.lt_add_of_pos_right (Text.byteSize_pos (by simp [htaken]))
  have hstill : (Lead.of w v).taken = [] →
      ∀ n, (x.next.2.after n).next = (x.next.1, x.next.2) := fun htaken =>
    after_next_of_still (h.next_of_still hb hv htaken)
  rw [hl] at hnext hlt hstill
  rw [hnext] at hstill ⊢
  cases hfinds with
  | nothing => exact .nothing (hstill rfl)
  | token ne found => exact .token (hlt (Leading.raw_ne_nil_of_token? hw found))
  | @unclosed t fails =>
    -- the lexer stands at the end of the line
    have hline : x.next.2.Stands w (u ++ (b ++ (Lead.of w ('"' :: t)).taken))
        (t.dropWhile isStringChar) := by
      rw [h.next_eq hb hv]
      refine advance ?_
      rw [hl, Lead.taken, List.append_assoc, List.cons_append, List.takeWhile_append_dropWhile]
      exact h
    exact .unclosed (hlt (List.cons_ne_nil _ _))
      (hline.next_of_line fun c hc => Leading.eq_newline_of_token? fails hc)
  | unexpected fails other => exact .unexpected (hstill rfl)

/-- Either a call leaves less of the text, or all later calls do the same as it. -/
theorem shorter_or_still (h : x.Stands w u v) :
    (∃ u' m, x.next.2.Stands w u' m ∧ Text.byteSize m < Text.byteSize v) ∨
      ∀ n, (x.after n).next = x.next := by
  obtain ⟨b, v, rfl, hb, hv⟩ := Leading.exists_blanks v
  by_cases htaken : (Lead.of w v).taken = []
  · right
    intro n
    cases n with
    | zero => rfl
    | succ n => exact after_next_of_still (h.next_of_still hb hv htaken) n
  · left
    obtain ⟨m, hm, hnext⟩ := h.next hb hv
    have hsize : Text.byteSize v = Text.byteSize (Lead.of w v).taken + Text.byteSize m := by
      rw [← Text.byteSize_append, ← hm]
    have hpos := Text.byteSize_pos htaken
    refine ⟨_, m, hnext, ?_⟩
    rw [Text.byteSize_append]
    omega

/-- **After as many calls as bytes are left nothing changes any more.** -/
theorem after_add_eq (h : x.Stands w u v) {n : Nat} (hn : Text.byteSize v ≤ n) (k : Nat) :
    (x.after (n + k)).next = (x.after n).next := by
  induction n generalizing x u v with
  | zero =>
    rcases h.shorter_or_still with ⟨u', m, -, hlt⟩ | hstill
    · omega
    · rw [hstill, hstill]
  | succ n ih =>
    rcases h.shorter_or_still with ⟨u', m, hnext, hlt⟩ | hstill
    · rw [Nat.succ_add]
      exact ih hnext (by omega)
    · rw [hstill, hstill]

/-- After the blanks a lexer is at the end, or finds a character and answers it. -/
theorem eof_or_tokenAt_ne (h : x.Stands w u v) :
    let r := x.reader.consumeBlanks.reader
    r.eof = true ∨ r.peek ≠ none ∧ (x.tokenAt r).1 ≠ .ok none := by
  obtain ⟨b, v, rfl, hb, hv⟩ := Leading.exists_blanks v
  have hat := h.advance
  dsimp only
  rw [h.consumeBlanks_eq hb hv, hat.between.eof_eq, hat.between.peek_eq]
  cases v with
  | nil => exact .inl rfl
  | cons c t =>
    refine .inr ⟨by simp, ?_⟩
    rw [hat.between.tokenAt_eq x (List.cons_ne_nil c t) hat.tracked, h.words_eq]
    obtain ⟨l, hl, hfinds⟩ := Lead.exists_finds w (c :: t)
    rw [hl]
    cases hfinds <;> simp [Lead.answer]

end Stands

/-- **Calls make progress or stand still for good**, whatever calls were made before, if the engine
never matches nothing with the two expressions.  A call that does not find the end after the blanks
finds a character there, and does not answer that nothing is left.  After as many calls as the text
has bytes nothing changes any more.  So collecting comes to an end: no more calls than bytes answer
a token, and the call after them ends it. -/
theorem progress_of_next (hident : E.NeverEmpty identPattern) (hnumber : E.NeverEmpty numberPattern)
    {t : Text} (hx : ofText E t = .ok x) :
    (∀ n, let y := x.after n
      y.Proceeds y.next.2 y.next.1 ∧
        let r := y.reader.consumeBlanks.reader
        r.eof = true ∨ r.peek ≠ none ∧ (y.tokenAt r).1 ≠ .ok none) ∧
    (∀ k, (x.after (Text.byteSize t + k)).next = (x.after (Text.byteSize t)).next) ∧
    ∃ tokens stop, tokens.length ≤ Text.byteSize t ∧
      (x.calls (tokens.length + 1)).map Prod.fst =
        tokens.map (fun token => .ok (some token)) ++ [stop.elim (.ok none) .error] ∧
      x.collect = some (result tokens stop) := by
  have hstart := Stands.start hx
  have hw := neverEmpty_words hident hnumber hx
  refine ⟨fun n => ?_, hstart.after_add_eq (Nat.le_refl _), ?_⟩
  · obtain ⟨u, v, h⟩ := hstart.after n
    exact ⟨h.proceeds hw, h.eof_or_tokenAt_ne⟩
  · obtain ⟨tokens, stop, h⟩ := Reads.of_text hw [] t
    exact ⟨tokens, stop, Nat.le_trans h.length_le (Text.length_le_byteSize t), h.calls_eq hstart,
      h.collect_eq hstart⟩

/-- A string that is not closed, the newline behind it, and then a symbol that is never consumed. -/
theorem progress_of_next_symbol :
    let t : Text := ['"', 'a', '\n', 'é']
    (Regex.Engine.threads.NeverEmpty identPattern ∧ Regex.Engine.threads.NeverEmpty numberPattern) ∧
      ∃ x, ofText Regex.Engine.threads t = .ok x ∧
        x.next.1 = .error (.unclosedString ⟨0, 0⟩) ∧ x.Proceeds x.next.2 x.next.1 ∧
        (x.after 5).next.1 = .error (.unexpectedSymbol ⟨1, 0⟩ 'é') ∧
        (∀ k, (x.after (5 + k)).next = (x.after 5).next) ∧
        ∃ tokens stop, tokens.length ≤ 5 ∧ x.collect = some (result tokens stop) := by
  intro t
  have hempty := supported_threads.neverEmpty
  obtain ⟨hcalls, hstill, tokens, stop, hlength, -, hcollect⟩ :=
    progress_of_next hempty.1 hempty.2 (ofText_threads t)
  exact ⟨hempty, _, ofText_threads t, by decide +kernel, (hcalls 0).1, by decide +kernel, hstill,
    tokens, stop, hlength, hcollect⟩

end Lexer

end TextScan
