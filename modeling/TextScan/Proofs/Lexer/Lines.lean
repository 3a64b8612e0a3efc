import TextScan.Proofs.Lexer.Patterns
import TextScan.Proofs.Lexer.Reading
import TextScan.Proofs.Position

/-!
# Lexer — lines are read apart

No token but the newline holds a newline, and no token depends on what stands on the lines below
it.  So a text with another one below it is read as the first one, a newline, and the second one
with all its positions that many lines further down.

* `Lead.of_append_newline`: lines below a text do not change what it starts with.
* `Reads.append_newline`: a reading goes on below, unless it ends in an error.
* `Reads.moved_below`: a reading below a text is the same reading some lines further down.
* `Lexer.collect_append_newline`: collecting over lines.
-/

namespace TextScan

variable {u v w b : Text}

/-! ### One token -/

namespace Text

theorem takeWhile_append_of_not {p : Char → Bool} {c : Char} (hc : p c = false) (t u : Text) :
    (t ++ c :: u).takeWhile p = t.takeWhile p := by
  induction t with
  | nil => simp [hc]
  | cons d t ih => rw [List.cons_append, List.takeWhile_cons, List.takeWhile_cons, ih]

end Text

/-- A text that is not empty starts with the same tokens, whatever stands below it. -/
theorem Token.starts_append_newline {tk : Token} (hw : w ≠ []) :
    tk.Starts (w ++ '\n' :: b) ↔ tk.Starts w := by
  constructor
  · rintro ⟨hkind, hfound⟩
    rcases List.prefix_or_prefix_of_prefix hfound (List.prefix_append w ('\n' :: b)) with h | h
    · exact ⟨hkind, h⟩
    · -- a token that is longer than the text goes over the newline
      obtain ⟨m, hm⟩ := h
      rw [← hm, List.prefix_append_right_inj] at hfound
      cases m with
      | nil =>
        rw [List.append_nil] at hm
        exact ⟨hkind, [], by rw [hm, List.append_nil]⟩
      | cons c m =>
        obtain ⟨rfl, -⟩ := List.cons_prefix_cons.1 hfound
        have hmem : '\n' ∈ tk.raw := by rw [← hm]; simp
        obtain rfl := Token.eq_newline_of_mem hkind hmem
        obtain ⟨d, w, rfl⟩ := List.exists_cons_of_ne_nil hw
        simp [raw] at hm
  · rintro ⟨hkind, hfound⟩
    exact ⟨hkind, hfound.trans (List.prefix_append w _)⟩

theorem Leading.token?_append_newline (hw : w ≠ []) :
    Leading.token? .language (w ++ '\n' :: b) = Leading.token? .language w := by
  refine Option.ext fun tk => ?_
  rw [token?_eq_some_iff, token?_eq_some_iff]
  constructor
  · rintro ⟨hstarts, hlongest⟩
    exact ⟨(Token.starts_append_newline hw).1 hstarts, fun tk' h =>
      hlongest tk' ((Token.starts_append_newline hw).2 h)⟩
  · rintro ⟨hstarts, hlongest⟩
    exact ⟨(Token.starts_append_newline hw).2 hstarts, fun tk' h =>
      hlongest tk' ((Token.starts_append_newline hw).1 h)⟩

/-- The first token is the same with lines below what follows it. -/
theorem Leading.token?_raw_append_newline {tk : Token} (htakes : tk.raw ≠ [])
    (h : token? .language (tk.raw ++ v) = some tk) (b : Text) :
    token? .language (tk.raw ++ (v ++ '\n' :: b)) = some tk := by
  rw [← List.append_assoc,
    token?_append_newline (List.append_ne_nil_of_left_ne_nil htakes v), h]

/-- **Lines below a text do not change what it starts with**, if it is not empty. -/
theorem Lead.of_append_newline (hw : w ≠ []) :
    Lead.of .language (w ++ '\n' :: b) = Lead.of .language w := by
  have htoken := Leading.token?_append_newline (b := b) hw
  obtain ⟨l, hl, h⟩ := exists_finds .language w
  rw [hl]
  cases h with
  | nothing => exact absurd rfl hw
  | token ne found =>
    exact of_token (List.append_ne_nil_of_left_ne_nil ne _) (htoken.trans found)
  | @unclosed t fails =>
    rw [← Text.takeWhile_append_of_not (c := '\n') rfl t b]
    exact of_quote (htoken.trans fails)
  | unexpected fails other => exact of_unexpected (htoken.trans fails) other

/-- What is answered some lines further down is the same, with the position there. -/
theorem Lead.answer_below (l : Lead) (place : Pos) (n : Nat) :
    l.answer (place.below n) = (l.answer place).mapError fun e => e.below n := by
  cases l <;> rfl

/-! ### Readings -/

namespace Reads

variable {tokens more : List (Pos × Token)} {stop : Option LexError}

/-- **A reading goes on below** where it comes to the end of its text. -/
theorem append_newline (h : Reads .language u v tokens none)
    (hbelow : Reads .language (u ++ (v ++ ['\n'])) b more stop) :
    Reads .language u (v ++ '\n' :: b)
      (tokens ++ (Text.endPos (u ++ v), .newline) :: more) stop := by
  generalize hend : (none : Option LexError) = ending at h
  induction h with
  | @nothing u a blanks =>
    -- the blanks before the end of the text stand before the newline now
    have hfound : Leading.token? .language (Token.newline.raw ++ b) = some .newline := rfl
    show Reads .language u (a ++ (Token.newline.raw ++ b))
      ((Text.endPos (u ++ a), .newline) :: more) stop
    exact .token blanks (Leading.bare_of_token? hfound) hfound (List.cons_ne_nil _ _) hbelow
  | @token u a v tk tokens ending blanks bare found takes rest ih =>
    have hfound := Leading.token?_raw_append_newline takes found b
    rw [List.append_assoc, List.append_assoc] at hbelow ⊢
    have hmore := ih (by simpa using hbelow) hend
    rw [List.append_assoc, List.append_assoc] at hmore
    exact .token blanks (Leading.bare_of_token? hfound) hfound takes hmore
  | error => cases hend

/-- **A reading that ends in an error** ends in it whatever stands below. -/
theorem error_append_newline {e : LexError} (h : Reads .language u v tokens (some e)) (b : Text) :
    Reads .language u (v ++ '\n' :: b) tokens (some e) := by
  generalize hend : some e = ending at h ⊢
  induction h with
  | nothing => cases hend
  | @token u a v tk tokens ending blanks bare found takes rest ih =>
    have hfound := Leading.token?_raw_append_newline takes found b
    rw [List.append_assoc, List.append_assoc]
    exact .token blanks (Leading.bare_of_token? hfound) hfound takes (ih hend)
  | @error u a v e' blanks bare shown =>
    have hne : v ≠ [] := by
      rintro rfl
      cases shown
    have hbare : Leading.Bare (v ++ '\n' :: b) := by
      obtain ⟨c, t, rfl⟩ := List.exists_cons_of_ne_nil hne
      exact bare
    rw [List.append_assoc]
    exact .error blanks hbare (by rw [Lead.of_append_newline hne, shown])

/-- **A reading below a text** is the same reading as many lines further down as the text has. -/
theorem moved_below {w : Words} (h : Reads w u v tokens stop) (a : Text) :
    Reads w (a ++ '\n' :: u) v (tokens.map fun s => (s.1.below (Text.newlines a + 1), s.2))
      (stop.map fun e => e.below (Text.newlines a + 1)) := by
  have hpos : ∀ w b, Text.endPos (a ++ '\n' :: w ++ b) =
      (Text.endPos (w ++ b)).below (Text.newlines a + 1) := fun w b => by
    rw [List.append_assoc, List.cons_append, Text.endPos_append_newline]
  induction h with
  | nothing blanks => exact .nothing blanks
  | @token u b v tk tokens stop blanks bare found takes rest ih =>
    rw [List.map_cons, ← hpos]
    refine .token blanks bare found takes ?_
    rw [List.append_assoc, List.cons_append]
    exact ih
  | @error u b v e blanks bare shown =>
    refine .error blanks bare ?_
    rw [hpos, Lead.answer_below, shown]
    rfl

end Reads

/-! ### Results -/

namespace Lexer

/-- **Collecting over lines**, if the engine reads the two expressions as they are meant.  A text
with another one on the lines below it is collected as the two texts are, each by a lexer of its
own: the tokens of the first, the newline after it, and the tokens of the second with their lines
counted on from the first.  Collecting fails as it does over the first text, with the same message,
or else as it does over the second, with the message that this error has that many lines further
down. -/
theorem collect_append_newline {E : Regex.Engine} (hE : Supported E) (a b : Text) :
    ∃ x y z above below whole,
      (ofText E a = .ok x ∧ ofText E b = .ok y ∧ ofText E (a ++ '\n' :: b) = .ok z) ∧
      (x.collect = some above ∧ y.collect = some below ∧ z.collect = some whole) ∧
      whole = joinLines a above below ∧
      (∀ e, above = .error e → whole.mapError LexError.message = .error e.message) ∧
      ∀ tokens e, above = .ok tokens → below = .error e →
        e.message = toString e.place ++ e.complaint ∧
          whole.mapError LexError.message =
            .error (toString (e.place.below (Text.newlines a + 1)) ++ e.complaint) := by
  obtain ⟨x, hx, hxwords⟩ := hE.exists_ofText a
  obtain ⟨y, hy, hywords⟩ := hE.exists_ofText b
  obtain ⟨z, hz, hzwords⟩ := hE.exists_ofText (a ++ '\n' :: b)
  obtain ⟨tokens, stop, ha⟩ := Reads.of_text Leading.neverEmpty_language [] a
  obtain ⟨more, stop', hb⟩ := Reads.of_text Leading.neverEmpty_language [] b
  have habove := ha.collect_eq (hxwords ▸ Stands.start hx)
  have hbelow := hb.collect_eq (hywords ▸ Stands.start hy)
  have hwhole : z.collect = some (joinLines a (result tokens stop) (result more stop')) := by
    have hstart : z.Stands .language [] (a ++ '\n' :: b) := hzwords ▸ Stands.start hz
    cases stop with
    | some e => exact (ha.error_append_newline b).collect_eq hstart
    | none =>
      rw [(ha.append_newline (hb.moved_below a)).collect_eq hstart]
      cases stop' <;> rfl
  refine ⟨x, y, z, _, _, _, ⟨hx, hy, hz⟩, ⟨habove, hbelow, hwhole⟩, rfl, ?_, ?_⟩
  · intro e he
    rw [he]
    rfl
  · intro tokens e htokens he
    rw [htokens, he]
    exact ⟨e.message_eq, congrArg Except.error (e.message_below _)⟩

/-- A comment, and below it a string that is not closed. -/
theorem collect_append_newline_unclosed :
    let a : Text := ['x', ' ', '#', 'c']
    let b : Text := ['=', ' ', '"', 'é']
    Supported Regex.Engine.threads ∧
      ∃ x y z whole,
        (ofText Regex.Engine.threads a = .ok x ∧ ofText Regex.Engine.threads b = .ok y ∧
          ofText Regex.Engine.threads (a ++ '\n' :: b) = .ok z) ∧
        x.collect = some (.ok [(⟨0, 0⟩, .ident ['x']), (⟨0, 2⟩, .comment ['c'])]) ∧
        y.collect = some (.error (.unclosedString ⟨0, 2⟩)) ∧ z.collect = some whole ∧
        whole.mapError LexError.message = .error "1:2: string literal is not closed properly" := by
  intro a b
  obtain ⟨x, y, z, above, below, whole, ⟨hx, hy, hz⟩, ⟨hxs, hys, hzs⟩, -, -, hfail⟩ :=
    collect_append_newline supported_threads a b
  obtain rfl := Except.ok.inj ((ofText_threads a).symm.trans hx)
  obtain rfl := Except.ok.inj ((ofText_threads b).symm.trans hy)
  have habove : (ofThreads a).collect =
      some (result [(⟨0, 0⟩, .ident ['x']), (⟨0, 2⟩, .comment ['c'])] none) :=
    by decide +kernel
  have hbelow : (ofThreads b).collect =
      some (result [(⟨0, 0⟩, .op .assign)] (some (.unclosedString ⟨0, 2⟩))) :=
    by decide +kernel
  have hmessage := (hfail _ _ (Option.some.inj (hxs.symm.trans habove))
    (Option.some.inj (hys.symm.trans hbelow))).2
  exact ⟨supported_threads, _, _, z, whole, ⟨hx, hy, hz⟩, habove, hbelow, hzs,
    hmessage.trans (congrArg Except.error (by decide +kernel))⟩

end Lexer

end TextScan
