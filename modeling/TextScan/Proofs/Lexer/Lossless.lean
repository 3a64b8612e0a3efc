import TextScan.Proofs.Lexer.RoundTrip
import TextScan.Proofs.Position

/-!
# Lexer — nothing is lost

The tokens that are read are laid out in the text: with the blanks between them they make up the
text, or the text before the place of the error, and each token has the position where it starts.
This holds whatever the expressions match.  With the words of the language the layout is one that
can be read back, since a token that goes on with the next character would have been read as a
longer one.

* `Token.IsLongest.goesOn_eq_false`: the longest token does not go on.
* `Layout.pairwise_tokensAfter`: the tokens of a layout have later and later positions.
* `Reads.layout`: a reading is a layout, and what its error shows.
* `Lexer.collect_lossless`: collecting loses nothing.
-/

namespace TextScan

open Reader (isBlank)

/-! ### Tokens that go on -/

namespace Token

variable {tk a b : Token} {c : Char} {t v : Text}

/-- With a character that a token goes on with, it is another token. -/
theorem exists_longer (h : tk.isWellFormed = true) (hc : tk.goesOn c = true) :
    ∃ tk' : Token, tk'.isWellFormed = true ∧ tk'.raw = tk.raw ++ [c] := by
  cases tk with
  | ident name =>
    obtain ⟨d, u, rfl, hd, hu⟩ := exists_cons_of_isIdent h
    have hc : isIdentChar c = true := hc
    have hall : (u ++ [c]).all isIdentChar = true := by simp [hu, hc]
    exact ⟨.ident (d :: u ++ [c]), Bool.and_eq_true_iff.2 ⟨hd, hall⟩, rfl⟩
  | number m =>
    have happend : ∀ {m}, isDigits m = true → isDigits (m ++ [c]) = true := by
      intro m hm
      have hm' : m.all isDigit = true := (Bool.and_eq_true_iff.1 hm).2
      have hc : isDigit c = true := hc
      simp [isDigits, hm', hc]
    refine ⟨.number (m ++ [c]), isNumber_iff.2 ?_, rfl⟩
    rcases isNumber_iff.1 h with hm | ⟨m, w, rfl, hm, hw⟩
    · exact .inl (happend hm)
    · exact .inr ⟨m, w ++ [c], by simp, hm, happend hw⟩
  | op o =>
    cases o with
    | assign =>
      obtain rfl := beq_iff_eq.1 hc
      exact ⟨.op .equal, rfl, rfl⟩
    | _ => cases hc
  | comment content =>
    have hc : (c != '\n') = true := hc
    have hall : (content ++ [c]).all (· != '\n') = true := by
      rw [List.all_append, Bool.and_eq_true_iff]
      exact ⟨h, by rw [List.all_cons, hc]; rfl⟩
    exact ⟨.comment (content ++ [c]), hall, rfl⟩
  | _ => cases hc

/-- **The longest token does not go on** with the character after it. -/
theorem IsLongest.goesOn_eq_false (h : tk.IsLongest (tk.raw ++ v)) (hc : v.head? = some c) :
    tk.goesOn c = false := by
  rw [← Bool.not_eq_true]
  intro hgoes
  obtain ⟨tk', htk', hraw⟩ := exists_longer h.wellFormed hgoes
  obtain ⟨w, rfl⟩ := List.head?_eq_some_iff.1 hc
  have hle := h.longest tk' ⟨htk', w, by rw [hraw, List.append_assoc]; rfl⟩
  rw [hraw, List.length_append] at hle
  exact absurd hle (Nat.not_succ_le_self _)

/-- Of two tokens that merge, the first goes on with what the second starts with. -/
theorem goesOn_of_merges (h : a.merges b = true) (hb : b.isWellFormed = true) :
    ∃ c u, b.raw = c :: u ∧ a.goesOn c = true := by
  unfold merges at h
  split at h
  · obtain ⟨c, u, rfl, hc, -⟩ := exists_cons_of_isIdent hb
    exact ⟨c, u, rfl, by simp [goesOn, isIdentChar, hc]⟩
  · obtain ⟨c, u, rfl, hc⟩ := exists_cons_of_isNumber hb
    exact ⟨c, u, rfl, by simp [goesOn, isIdentChar, hc]⟩
  · obtain ⟨c, u, rfl, hc⟩ := exists_cons_of_isNumber hb
    exact ⟨c, u, rfl, hc⟩
  · exact ⟨_, _, rfl, rfl⟩
  · exact ⟨_, _, rfl, rfl⟩
  · cases h

/-- A comment goes on over all but a newline. -/
theorem eq_newline_of_isComment (h : tk.isComment = true) (hc : tk.goesOn c = false) :
    c = '\n' := by
  cases tk with
  | comment content => simpa [goesOn] using hc
  | _ => cases h

end Token

/-! ### Layouts -/

namespace Layout

variable {s : Spaced} {items : List Spaced} {last rest b u : Text}

/-- Blanks alone are spaced. -/
theorem IsSpaced.blank (hb : b.all isBlank = true) : IsSpaced ⟨[], b⟩ :=
  ⟨by simp, hb⟩

/-- A token after blanks makes a layout longer. -/
theorem IsSpaced.cons (h : IsSpaced ⟨items, last⟩) (hb : s.blanks.all isBlank = true) :
    IsSpaced ⟨s :: items, last⟩ :=
  ⟨List.forall_mem_cons.2 ⟨hb, h.blanks⟩, h.last⟩

/-- Blanks alone are laid out well. -/
theorem WellFormed.blank (hb : b.all isBlank = true) : WellFormed ⟨[], b⟩ :=
  ⟨.blank hb, by simp, .nil, .nil, by simp⟩

/-- Where nothing but a newline can be next there are no blanks. -/
theorem eq_nil_of_blanks (hb : b.all isBlank = true)
    (h : ∀ c, (b ++ u).head? = some c → c = '\n') : b = [] := by
  cases b with
  | nil => rfl
  | cons c b =>
    have hc : isBlank c = true := (Bool.and_eq_true_iff.1 hb).1
    rw [h c rfl] at hc
    exact absurd hc (by decide)

/-- **A longest token before a layout makes it longer.** -/
theorem WellFormed.cons (h : WellFormed ⟨items, last⟩) (hb : s.blanks.all isBlank = true)
    (htk : s.token.IsLongest (s.token.raw ++ (text ⟨items, last⟩ ++ rest))) :
    WellFormed ⟨s :: items, last⟩ := by
  have hgoes : ∀ c, (text ⟨items, last⟩).head? = some c → s.token.goesOn c = false := by
    intro c hc
    obtain ⟨w, hw⟩ := List.head?_eq_some_iff.1 hc
    exact htk.goesOn_eq_false (by rw [hw]; rfl)
  have hline : s.token.isComment = true →
      ∀ c, (text ⟨items, last⟩).head? = some c → c = '\n' := fun hs c hc =>
    Token.eq_newline_of_isComment hs (hgoes c hc)
  refine ⟨h.toIsSpaced.cons hb, ?_, List.isChain_cons.2 ⟨?_, h.apart⟩,
    List.isChain_cons.2 ⟨?_, h.lines⟩, ?_⟩
  · exact List.forall_mem_cons.2 ⟨htk.wellFormed, h.kinds⟩
  · -- a token that touches one it merges with would go on
    intro t ht hmerges hblanks
    obtain ⟨items, rfl⟩ := List.head?_eq_some_iff.1 ht
    obtain ⟨c, w, hraw, hmore⟩ := Token.goesOn_of_merges hmerges (h.kinds t List.mem_cons_self)
    rw [hgoes c (by rw [text_cons, hblanks, hraw]; rfl)] at hmore
    cases hmore
  · -- the only token that starts with a newline is the newline
    intro t ht hs
    obtain ⟨items, rfl⟩ := List.head?_eq_some_iff.1 ht
    have hkind := h.kinds t List.mem_cons_self
    obtain ⟨c, w, hraw⟩ := Token.exists_cons_of_raw hkind
    have hnext := hline hs
    rw [text_cons] at hnext
    have hblanks := eq_nil_of_blanks (h.blanks t List.mem_cons_self) hnext
    rw [hblanks, hraw] at hnext
    obtain rfl := hnext c rfl
    exact ⟨Token.eq_newline_of_mem hkind (by rw [hraw]; exact List.mem_cons_self), hblanks⟩
  · intro t ht hs
    cases items with
    | cons t' items => exact h.closed t ht hs
    | nil =>
      obtain rfl := Option.some.inj ht
      have hnext := hline hs
      rw [← List.append_nil (text ⟨[], last⟩)] at hnext
      exact eq_nil_of_blanks h.last hnext

/-- The tokens after a text have positions further on. -/
theorem exists_of_mem_tokensAfter {p : Pos × Token} (h : p ∈ tokensAfter u items) :
    ∃ m, p.1 = Text.endPos (u ++ m) := by
  induction items generalizing u with
  | nil => cases h
  | cons s items ih =>
    rcases List.mem_cons.1 h with rfl | h
    · exact ⟨s.blanks, rfl⟩
    · obtain ⟨m, hm⟩ := ih h
      exact ⟨s.text ++ m, by rw [hm, List.append_assoc]⟩

/-- **The tokens of a layout have later and later positions**, if each of them takes something. -/
theorem pairwise_tokensAfter (h : ∀ s ∈ items, s.token.raw ≠ []) (u : Text) :
    (tokensAfter u items).Pairwise fun p q => compare p.1 q.1 = .lt := by
  induction items generalizing u with
  | nil => exact .nil
  | cons s items ih =>
    refine .cons (fun q hq => ?_) (ih (fun t ht => h t (List.mem_cons_of_mem s ht)) _)
    obtain ⟨m, hm⟩ := exists_of_mem_tokensAfter hq
    have hsplit : u ++ s.text ++ m = (u ++ s.blanks) ++ (s.token.raw ++ m) := by
      simp only [Spaced.text, List.append_assoc]
    rw [hm, hsplit]
    exact Text.compare_endPos_append
      (List.append_ne_nil_of_left_ne_nil (h s List.mem_cons_self) m)

end Layout

/-! ### Readings -/

/-- An error is about the place where the text stands, and the text shows it. -/
theorem Lead.shownBy {w : Words} {place : Pos} {v : Text} {e : LexError}
    (h : (Lead.of w v).answer place = .error e) : e.place = place ∧ e.ShownBy v := by
  obtain ⟨l, hl, hfinds⟩ := Lead.exists_finds w v
  rw [hl] at h
  cases hfinds with
  | nothing => cases h
  | token ne found => cases h
  | @unclosed t fails =>
    cases h
    refine ⟨rfl, t.takeWhile Lexer.isStringChar, t.dropWhile Lexer.isStringChar, ?_,
      List.all_takeWhile, fun c hc => Leading.eq_newline_of_token? fails hc⟩
    rw [List.takeWhile_append_dropWhile]
  | unexpected fails other =>
    cases h
    exact ⟨rfl, rfl⟩

/-- **A reading is a layout**, after which there is nothing, or what the error shows. -/
theorem Reads.layout {w : Words} {u v : Text} {tokens : List (Pos × Token)}
    {stop : Option LexError} (h : Reads w u v tokens stop) :
    ∃ (l : Layout) (rest : Text), v = l.text ++ rest ∧ l.IsSpaced ∧
      (w = .language → l.WellFormed) ∧ (∀ s ∈ l.items, s.token.raw ≠ []) ∧
      tokens = Layout.tokensAfter u l.items ∧ (stop = none → rest = []) ∧
      ∀ e, stop = some e → e.place = Text.endPos (u ++ l.text) ∧ e.ShownBy rest := by
  induction h with
  | @nothing u b blanks =>
    exact ⟨⟨[], b⟩, [], (List.append_nil b).symm, .blank blanks, fun _ => .blank blanks, by simp,
      rfl, fun _ => rfl, by simp⟩
  | @token u b v tk tokens stop blanks bare found takes more ih =>
    -- the token goes before the layout of what is left, whose rest is the same
    obtain ⟨⟨items, last⟩, rest, rfl, hspaced, hwell, htakes, rfl, hnone, hsome⟩ := ih
    refine ⟨⟨⟨b, tk⟩ :: items, last⟩, rest, ?_, hspaced.cons blanks, fun hw => ?_,
      List.forall_mem_cons.2 ⟨takes, htakes⟩, rfl, hnone, fun e he => ?_⟩
    · simp only [Layout.text_cons, List.append_assoc]
    · subst hw
      exact (hwell rfl).cons blanks (Leading.token?_eq_some_iff.1 found)
    · have htext : u ++ Layout.text ⟨⟨b, tk⟩ :: items, last⟩ =
          u ++ (b ++ tk.raw) ++ Layout.text ⟨items, last⟩ := by
        simp only [Layout.text_cons, List.append_assoc]
      rw [htext]
      exact hsome e he
  | @error u b v e blanks bare shown =>
    refine ⟨⟨[], b⟩, v, rfl, .blank blanks, fun _ => .blank blanks, by simp, rfl, by simp, ?_⟩
    intro e' he'
    obtain rfl := Option.some.inj he'
    exact Lead.shownBy shown

namespace Lexer

/-- **Collecting loses nothing**, whatever the engine is.  If the calls come to the end or to an
error, however many they are, then collecting comes to the same, and the text is the layout of
tokens and a rest.  Collecting gives the tokens of the layout, each with the position where it
starts, and then there is no rest; or the calls give these tokens and then an error, whose message
starts with the position where the layout ends, and the rest shows the error.  Later tokens have
later positions.  If the engine reads the two expressions as they are meant, the layout is one that
can be read back. -/
theorem collect_lossless {E : Regex.Engine} {t : Text} {x : Lexer E} (hx : ofText E t = .ok x)
    {n : Nat} {result : Except LexError (List (Pos × Token))}
    (hresult : x.collectUpTo n = some result) :
    x.collect = some result ∧ ∃ (l : Layout) (rest : Text), t = l.text ++ rest ∧ l.IsSpaced ∧
      (Supported E → l.WellFormed) ∧ (l.tokens.Pairwise fun p q => compare p.1 q.1 = .lt) ∧
      match result with
      | .ok tokens => tokens = l.tokens ∧ rest = []
      | .error e =>
        (x.calls (l.tokens.length + 1)).map Prod.fst =
            l.tokens.map (fun token => .ok (some token)) ++ [.error e] ∧
          e.message = toString (Text.endPos l.text) ++ e.complaint ∧ e.ShownBy rest := by
  have hstart := Stands.start hx
  have hcollect := hstart.collect_eq_some_iff.2 ⟨n, hresult⟩
  obtain ⟨tokens, stop, h, rfl⟩ := Reads.of_collectUpTo hresult hstart
  obtain ⟨l, rest, htext, hspaced, hwell, htakes, rfl, hnone, hsome⟩ := h.layout
  refine ⟨hcollect, l, rest, htext, hspaced, fun hE => hwell ?_,
    Layout.pairwise_tokensAfter htakes [], ?_⟩
  · obtain ⟨x', hx', hwords⟩ := hE.exists_ofText t
    obtain rfl := Except.ok.inj (hx.symm.trans hx')
    exact hwords
  · cases stop with
    | none => exact ⟨rfl, hnone rfl⟩
    | some e =>
      obtain ⟨hplace, hshown⟩ := hsome e rfl
      exact ⟨h.calls_eq hstart, by rw [e.message_eq, hplace]; rfl, hshown⟩

/-- Two tokens, and a string that is not closed on its line. -/
theorem collect_lossless_unclosed :
    let t : Text := ['a', '\t', '=', ' ', '"', 'é', '\n', '1']
    let e := LexError.unclosedString ⟨0, 4⟩
    ∃ x, ofText Regex.Engine.threads t = .ok x ∧ x.collectUpTo 3 = some (.error e) ∧
      x.collect = some (.error e) ∧
      ∃ (l : Layout) (rest : Text), t = l.text ++ rest ∧ l.WellFormed ∧
        (l.tokens.Pairwise fun p q => compare p.1 q.1 = .lt) ∧
        (x.calls (l.tokens.length + 1)).map Prod.fst =
          l.tokens.map (fun token => .ok (some token)) ++ [.error e] ∧
        e.message = toString (Text.endPos l.text) ++ ": string literal is not closed properly" ∧
        e.ShownBy rest := by
  intro t e
  have hresult : (ofThreads t).collectUpTo 3 = some (.error e) := by decide +kernel
  obtain ⟨hcollect, l, rest, htext, -, hwell, hpairs, hend⟩ :=
    collect_lossless (ofText_threads t) hresult
  exact ⟨_, ofText_threads t, hresult, hcollect, l, rest, htext, hwell supported_threads, hpairs,
    hend⟩

end Lexer

end TextScan
