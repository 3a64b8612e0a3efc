import TextScan.Lexer.Layout
import TextScan.Proofs.Lexer.Patterns
import TextScan.Proofs.Lexer.Reading

/-!
# Lexer — reading back what was laid out

A token that is followed by nothing it could go on with is read back as itself, and a well-formed
layout lets each of its tokens end where it should.  So the lexer reads back the tokens of the
layout, each at its position.

* `Token.stopsAt_head`: a token ends where the next one starts, unless they merge.
* `Layout.WellFormed.endsAt`: in a well-formed layout each token ends where the text after it
  starts.
* `Layout.WellFormed.reads`: a well-formed layout reads as its tokens.
* `Lexer.collect_of_layout`: the round trip.
-/

namespace TextScan

open Reader (isBlank)

/-! ### Neighbours -/

namespace Token

/-- The equals sign goes on with an assignment, and with no other token that is no comment. -/
theorem stopsAt_equals {tk : Token} (h : tk.isComment = false) (hop : tk ≠ op .assign) :
    tk.stopsAt '=' = true := by
  cases tk with
  | op o =>
    cases o with
    | assign => exact absurd rfl hop
    | _ => rfl
  | comment content => cases h
  | _ => rfl

/-- Other signs go on with no token but a comment. -/
theorem stopsAt_sign {tk : Token} (h : tk.isComment = false) {c : Char}
    (hc : isIdentChar c = false) (hpoint : c ≠ '.') (hequals : c ≠ '=') : tk.stopsAt c = true := by
  cases tk with
  | ident name => simp [stopsAt, hc]
  | number t => simp [stopsAt, (Bool.or_eq_false_iff.1 hc).2, hpoint]
  | op o =>
    cases o with
    | assign => simp [stopsAt, hequals]
    | _ => rfl
  | comment content => cases h
  | _ => rfl

theorem stopsAt_blank {tk : Token} (h : tk.isComment = false) {c : Char} (hc : isBlank c = true) :
    tk.stopsAt c = true := by
  rcases (by simpa [isBlank] using hc : c = ' ' ∨ c = '\t') with rfl | rfl
  · exact stopsAt_sign h (by decide) (by decide) (by decide)
  · exact stopsAt_sign h (by decide) (by decide) (by decide)

/-- No operator goes on with a letter, an underscore or a digit. -/
theorem op_stopsAt_word (o : Operator) {c : Char} (hc : isIdentChar c = true) :
    (op o).stopsAt c = true := by
  cases o with
  | assign => simp [stopsAt, ne_of_test hc (d := '=') (by decide)]
  | _ => rfl

/-- **A token ends where the next one starts**, unless the two merge, or the first is a comment. -/
theorem stopsAt_head {a b : Token} {c : Char} {u : Text} (hb : b.isWellFormed = true)
    (hraw : b.raw = c :: u) (hmerges : a.merges b = false)
    (hline : a.isComment = true → b = newline) : a.stopsAt c = true := by
  -- only a comment goes on over the sign that starts the next token
  cases ha : a.isComment with
  | true =>
    obtain rfl := hline ha
    obtain ⟨rfl, -⟩ := List.cons.inj hraw
    cases a with
    | comment content => rfl
    | _ => cases ha
  | false =>
    cases b with
    | ident name =>
      obtain ⟨d, w, rfl, hd, -⟩ := exists_cons_of_isIdent hb
      obtain ⟨rfl, -⟩ := List.cons.inj hraw
      cases a with
      | ident name => cases hmerges
      | number t =>
        have hdigit : isDigit d = false := by
          rw [← Bool.not_eq_true]
          intro h
          rw [isIdentStart_of_isDigit h] at hd
          cases hd
        simp [stopsAt, hdigit, ne_of_test hd (d := '.') (by decide)]
      | op o => exact op_stopsAt_word o (by simp [isIdentChar, hd])
      | comment content => cases ha
      | _ => rfl
    | number t =>
      obtain ⟨d, w, rfl, hd⟩ := exists_cons_of_isNumber hb
      obtain ⟨rfl, -⟩ := List.cons.inj hraw
      cases a with
      | ident name => cases hmerges
      | number t => cases hmerges
      | op o => exact op_stopsAt_word o (by simp [isIdentChar, hd])
      | comment content => cases ha
      | _ => rfl
    | op o =>
      cases o with
      | equal | assign =>
        obtain ⟨rfl, -⟩ := List.cons.inj hraw
        refine stopsAt_equals ha ?_
        rintro rfl
        cases hmerges
      | _ =>
        obtain ⟨rfl, -⟩ := List.cons.inj hraw
        exact stopsAt_sign ha (by decide) (by decide) (by decide)
    | _ =>
      obtain ⟨rfl, -⟩ := List.cons.inj hraw
      exact stopsAt_sign ha (by decide) (by decide) (by decide)

end Token

/-! ### Layouts -/

namespace Layout

variable {s : Spaced} {items : List Spaced} {last : Text}

theorem text_cons : text ⟨s :: items, last⟩ =
    s.blanks ++ (s.token.raw ++ text ⟨items, last⟩) := by
  rw [text, List.flatMap_cons, Spaced.text, List.append_assoc, List.append_assoc]
  rfl

namespace WellFormed

theorem tail (h : WellFormed ⟨s :: items, last⟩) : WellFormed ⟨items, last⟩ where
  blanks := fun t ht => h.blanks t (List.mem_cons_of_mem s ht)
  kinds := fun t ht => h.kinds t (List.mem_cons_of_mem s ht)
  last := h.last
  apart := h.apart.tail
  lines := h.lines.tail
  closed := by
    intro t ht
    refine h.closed t ?_
    cases items with
    | nil => cases ht
    | cons t' items => exact ht

/-- **Each token ends where the text after it starts.** -/
theorem endsAt (h : WellFormed ⟨s :: items, last⟩) : s.token.EndsAt (text ⟨items, last⟩) := by
  intro c hc
  cases items with
  | nil =>
    cases hs : s.token.isComment with
    | true =>
      rw [show text ⟨[], last⟩ = [] from h.closed s rfl hs] at hc
      cases hc
    | false =>
      have hmem : c ∈ last := List.mem_of_mem_head? hc
      exact Token.stopsAt_blank hs (List.all_eq_true.1 h.last c hmem)
  | cons t items =>
    have happart := (List.isChain_cons_cons.1 h.apart).1
    have hlines := (List.isChain_cons_cons.1 h.lines).1
    have htmem : t ∈ s :: t :: items := List.mem_cons_of_mem s List.mem_cons_self
    rw [text_cons] at hc
    cases hblanks : t.blanks with
    | nil =>
      -- the two tokens touch, so they are no pair that merges
      have hmerges : s.token.merges t.token = false := by
        rw [← Bool.not_eq_true]
        exact fun h => happart h hblanks
      obtain ⟨d, u, hraw⟩ := Token.exists_cons_of_raw (h.kinds t htmem)
      rw [hblanks, hraw] at hc
      obtain rfl := Option.some.inj hc
      exact Token.stopsAt_head (h.kinds t htmem) hraw hmerges fun hs => (hlines hs).1
    | cons d u =>
      have hs : s.token.isComment = false := by
        rw [← Bool.not_eq_true]
        intro hs
        rw [(hlines hs).2] at hblanks
        cases hblanks
      have hmem : d ∈ t.blanks := by
        rw [hblanks]
        exact List.mem_cons_self
      have hblank : isBlank d = true := List.all_eq_true.1 (h.blanks t htmem) d hmem
      rw [hblanks] at hc
      obtain rfl := Option.some.inj hc
      exact Token.stopsAt_blank hs hblank

/-- **A layout reads as its tokens**, whatever stands before it. -/
theorem reads (h : WellFormed ⟨items, last⟩) (u : Text) :
    Reads .language u (text ⟨items, last⟩) (tokensAfter u items) none := by
  induction items generalizing u with
  | nil => exact .nothing h.last
  | cons s items ih =>
    have hkind := h.kinds s List.mem_cons_self
    have hfound : Leading.token? .language (s.token.raw ++ text ⟨items, last⟩) = some s.token :=
      Leading.token?_raw hkind h.endsAt
    obtain ⟨c, v, hraw⟩ := Token.exists_cons_of_raw hkind
    rw [text_cons]
    exact .token (h.blanks s List.mem_cons_self) (Leading.bare_of_token? hfound) hfound
      (by simp [hraw]) (ih h.tail _)

end WellFormed

end Layout

/-! ### The round trip -/

namespace Lexer

/-- **The round trip**: a lexer reads back the tokens of a layout, each with its position, if its
engine reads the two expressions as they are meant. -/
theorem collect_of_layout {E : Regex.Engine} (hE : Supported E) {l : Layout} (h : l.WellFormed) :
    ∃ x, ofText E l.text = .ok x ∧ x.collect = some (.ok l.tokens) := by
  obtain ⟨x, hx, hwords⟩ := hE.exists_ofText l.text
  have hstart := Stands.start hx
  rw [hwords] at hstart
  have hreads : Reads .language [] l.text l.tokens none := h.reads []
  exact ⟨x, hx, hreads.collect_eq hstart⟩

/-- All kinds of tokens on two lines, which touch wherever they can. -/
theorem collect_of_layout_touching :
    let l : Layout := ⟨[⟨['\t'], .number ['2']⟩, ⟨[], .ident ['b']⟩, ⟨[], .op .equal⟩,
      ⟨[], .op .assign⟩, ⟨[' '], .op .assign⟩, ⟨[], .str ['#', 'é']⟩, ⟨[], .op .notEqual⟩,
      ⟨[], .ident ['_']⟩, ⟨[' '], .number ['1', '.', '5']⟩, ⟨[], .comment [' ', '"']⟩,
      ⟨[], .newline⟩, ⟨[], .op .plus⟩, ⟨[' '], .comment ['ß']⟩], []⟩
    Supported Regex.Engine.threads ∧ l.WellFormed ∧
      l.text = "\t2b=== =\"#é\"!=_ 1.5# \"\n+ #ß".toList ∧
      ∃ x, ofText Regex.Engine.threads l.text = .ok x ∧
        x.collect = some (.ok [(⟨0, 1⟩, .number ['2']), (⟨0, 2⟩, .ident ['b']),
          (⟨0, 3⟩, .op .equal), (⟨0, 5⟩, .op .assign), (⟨0, 7⟩, .op .assign),
          (⟨0, 8⟩, .str ['#', 'é']), (⟨0, 13⟩, .op .notEqual), (⟨0, 15⟩, .ident ['_']),
          (⟨0, 17⟩, .number ['1', '.', '5']), (⟨0, 20⟩, .comment [' ', '"']), (⟨0, 23⟩, .newline),
          (⟨1, 0⟩, .op .plus), (⟨1, 2⟩, .comment ['ß'])]) := by
  intro l
  have h : l.WellFormed :=
    ⟨⟨by decide, by decide⟩, by decide, by decide, by decide, by decide⟩
  exact ⟨supported_threads, h, by decide, collect_of_layout supported_threads h⟩

end Lexer

end TextScan
