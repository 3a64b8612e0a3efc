import TextScan.Proofs.Regex.Spelling
import TextScan.Proofs.Run.Step

/-!
# Regex — the expression of a text

A text in which every character that means something else has a backslash before it spells the text.
So, with an engine that reads literals, its expression and the literal match in the same places of
every run (`Regex.escape_of_run`).

* `Regex.Anchored.first?_escape`: the expression of a text matches the text, where it is next.
-/

namespace TextScan.Regex

variable {E : Engine}

/-- **The expression of a text matches the text** where it is next, and nothing elsewhere. -/
theorem Anchored.first?_escape (hE : E.ReadsLiterals) {s : Text} {a : Anchored E}
    (h : ofText E (escape s) = .ok a) (t : Text) :
    a.pattern.first? t = if s.isPrefixOf t then some s else none := by
  have hreads := hE _ _ (spells_escape s)
  rw [← source_of_ofText h, a.compiled] at hreads
  rw [first?_pattern hreads, Re.first?_literal]

/-! ### Runs -/

/-- **An escaped text is matched like the literal**, if the engine reads literals.  It compiles,
unless it is too large, and is never at fault otherwise.  At every place of a run its expression
matches the text where the literal is next, and nothing elsewhere.  With tracked lines the
expression leads to where the literal leads; otherwise it leads along the line. -/
theorem escape_of_run (hE : E.ReadsLiterals) (s : Text) :
    match Anchored.ofText E (escape s) with
    | .error e =>
      e.pattern = escape s ∧ E.isSyntaxFault e.fault = false ∧ E.isSizeFault e.fault = true
    | .ok a => ∀ (t : Text) (o : Options) (ops : List Op),
      let r := (Reader.start t o).after ops
      let found := r.matchPattern a.pattern
      let literal := r.matchText s
      found.answer = (if literal.answer then some s else none) ∧
        match o.patternLines with
        | .tracked => found.reader = literal.reader
        | .columnOnly =>
          found.reader =
            if literal.answer then
              ⟨t, ⟨r.index + Text.byteSize s, r.line, r.column + Text.byteSize s⟩, o⟩
            else r := by
  split
  · next e he =>
    obtain ⟨hpattern, hfault⟩ := Anchored.ofText_eq_error he
    have hreads := hE _ _ (spells_escape s)
    rw [hfault] at hreads
    exact ⟨hpattern, hreads⟩
  · next a ha =>
    intro t o ops r found literal
    obtain ⟨u, v, h, htext, hoptions⟩ : ∃ u v, r.Between u v ∧ r.text = t ∧ r.options = o :=
      Reader.between_of_run t o ops
    obtain ⟨hanswer, hreader⟩ := r.matchPattern_eq a.pattern
    -- a pattern of an expression sees no more than the text that is left
    have hmatched : r.matched? a.pattern = if s.isPrefixOf v then some s else none :=
      (Pattern.IsExpression.matched?_eq (.anchored a) h).trans (a.first?_escape hE ha v)
    have hliteral : literal = _ := h.matchText_eq s
    change found.answer = _ at hanswer
    change found.reader = _ at hreader
    rw [hmatched] at hanswer hreader
    by_cases hnext : s.isPrefixOf v = true
    · rw [if_pos hnext] at hanswer hreader hliteral
      rw [hanswer, hreader, hliteral]
      refine ⟨rfl, ?_⟩
      -- the options are the only thing that the two ways to move differ in
      rw [← htext, ← hoptions, Option.getD_some, Reader.advanceMatch]
      cases r.options.patternLines <;> rfl
    · rw [if_neg hnext] at hanswer hreader hliteral
      rw [hanswer, hreader, hliteral, Reader.advanceMatch_eq_move, Option.getD_none,
        Reader.move_nil]
      refine ⟨rfl, ?_⟩
      cases o.patternLines <;> rfl

/-- A text over two lines, with a point, at its place and before it. -/
theorem escape_of_run_over_lines :
    let s : Text := ['é', '\n', '.']
    let t : Text := ['x', 'é', '\n', '.', 'x']
    Engine.threads.ReadsLiterals ∧
      ∃ a, Anchored.ofText Engine.threads (escape s) = .ok a ∧
        ((Reader.start t).matchPattern a.pattern).answer = none ∧
        let r := (Reader.start t).after [.read]
        (r.matchPattern a.pattern).answer = some s ∧
          (r.matchPattern a.pattern).reader = ⟨t, ⟨5, 1, 1⟩, {}⟩ := by
  intro s t
  have hcompile : Engine.threads.matcher (escape s) = .ok (Program.ofCore (Core.literal s)) := rfl
  have h := escape_of_run Engine.threads_readsLiterals s
  rw [Anchored.ofText_eq_ok hcompile] at h
  obtain ⟨hbefore, -⟩ := h t {} []
  obtain ⟨hanswer, hreader⟩ := h t {} [.read]
  exact ⟨Engine.threads_readsLiterals, _, Anchored.ofText_eq_ok hcompile, hbefore, hanswer, hreader⟩

end TextScan.Regex
