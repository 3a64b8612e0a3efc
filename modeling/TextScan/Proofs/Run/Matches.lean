import TextScan.Proofs.Run.Step

/-!
# Run — what a pattern can match

A pattern may answer any span.  It matches a text exactly when this text is next and the span goes
from the cursor to its end; the match of an empty text, and of all that is left, are no exceptions.
A match is moved over as if it were read, or as the part of one line; everything else leaves the
reader as it was (`Reader.matches_of_run`).

* `Reader.Between.matched?_eq_some_iff`: the spans that are kept.
-/

namespace TextScan.Reader

namespace Between

variable {r : Reader} {u v m : Text}

/-- A span from the cursor on matches the text that it covers, if it covers one. -/
theorem matched?_eq_before? (h : r.Between u v) {p : Pattern} {n : Nat}
    (hfind : p.findAt r.text r.index = some ⟨r.index, r.index + n⟩) :
    r.matched? p = Text.before? v n := by
  rw [matched?, hfind]
  cases hbefore : Text.before? v n with
  | none =>
    -- the span ends inside a character or behind the text
    have hfits : Span.fits ⟨r.index, r.index + n⟩ r.text r.index = false := by
      rw [Bool.eq_false_iff]
      intro hfits
      obtain ⟨m, w, rfl, -, hstop⟩ := h.fits_iff.1 hfits
      have hn : n = Text.byteSize m := Nat.add_left_cancel hstop
      rw [Text.before?_eq_some_iff.2 ⟨w, rfl, hn.symm⟩] at hbefore
      cases hbefore
    simp [Option.filter, hfits]
  | some m =>
    obtain ⟨w, rfl, rfl⟩ := Text.before?_eq_some_iff.1 hbefore
    have hfits : Span.fits ⟨r.index, r.index + Text.byteSize m⟩ r.text r.index = true :=
      h.fits_iff.2 ⟨m, w, rfl, rfl, rfl⟩
    have htext : Span.text ⟨r.index, r.index + Text.byteSize m⟩ r.text = m :=
      (h.span_text_eq rfl rfl).2
    simp [Option.filter, hfits, htext]

/-- **A pattern matches what is next, and what its span covers.** -/
theorem matched?_eq_some_iff (h : r.Between u v) {p : Pattern} :
    r.matched? p = some m ↔
      ∃ w, v = m ++ w ∧
        p.findAt r.text r.index = some ⟨r.index, r.index + Text.byteSize m⟩ := by
  constructor
  · intro hm
    obtain ⟨s, hs, rfl⟩ := Option.map_eq_some_iff.1 hm
    obtain ⟨hfind, hfits⟩ := Option.filter_eq_some_iff.1 hs
    obtain ⟨m, w, rfl, hstart, hstop⟩ := h.fits_iff.1 hfits
    have hspan : s = ⟨r.index, r.index + Text.byteSize m⟩ := by rw [← hstop, ← hstart]
    rw [(h.span_text_eq hstart hstop).2]
    exact ⟨w, rfl, hspan ▸ hfind⟩
  · rintro ⟨w, hv, hfind⟩
    rw [h.matched?_eq_before? hfind]
    exact Text.before?_eq_some_iff.2 ⟨w, hv, rfl⟩

end Between

/-- **Exactly the spans that cover what is next are matches.**  A pattern, whatever it answers,
matches a text after the cursor if its span starts at the cursor and ends where this text does.
Then the reader goes to this end: with tracked lines to where reading the text character by
character leads, and otherwise along the line.  If there is no such text, the reader stays. -/
theorem matches_of_run (t : Text) (o : Options) (ops : List Op) (p : Pattern) :
    let r := (start t o).after ops
    let s := r.matchPattern p
    (∀ m, s.answer = some m ↔
      ∃ u w, Text.before? t r.index = some u ∧ t = u ++ m ++ w ∧
        p.findAt t r.index = some ⟨r.index, r.index + Text.byteSize m⟩) ∧
      match s.answer with
      | none => s.reader = r
      | some m =>
        s.reader.index = r.index + Text.byteSize m ∧
          match o.patternLines with
          | .tracked =>
            let reads := m.map fun _ => Op.read
            (r.run reads).map Outcome.answer = m.map (fun c => .char (some c)) ∧
              s.reader = r.after reads
          | .columnOnly =>
            s.reader = ⟨t, ⟨r.index + Text.byteSize m, r.line, r.column + Text.byteSize m⟩, o⟩ := by
  intro r s
  obtain ⟨u, v, h, htext, hoptions⟩ : ∃ u v, r.Between u v ∧ r.text = t ∧ r.options = o :=
    between_of_run t o ops
  obtain ⟨hanswer, hreader⟩ := r.matchPattern_eq p
  change s.answer = _ at hanswer
  change s.reader = _ at hreader
  have hmatched : ∀ {m}, r.matched? p = some m ↔ ∃ w, v = m ++ w ∧
      p.findAt t r.index = some ⟨r.index, r.index + Text.byteSize m⟩ := by
    intro m
    rw [← htext]
    exact h.matched?_eq_some_iff
  have hbefore := h.before?_eq
  have hsplit := h.text_eq
  rw [htext] at hbefore hsplit
  constructor
  · intro m
    rw [hanswer, hmatched]
    constructor
    · rintro ⟨w, rfl, hfind⟩
      exact ⟨u, w, hbefore, hsplit.trans (List.append_assoc u m w).symm, hfind⟩
    · rintro ⟨u', w, hu, ht, hfind⟩
      obtain rfl := Option.some.inj (hbefore.symm.trans hu)
      rw [List.append_assoc] at ht
      exact ⟨w, List.append_cancel_left (hsplit.symm.trans ht), hfind⟩
  · rw [hanswer, hreader, advanceMatch_eq_move]
    cases hm : r.matched? p with
    | none => exact r.move_nil _
    | some m =>
      obtain ⟨w, hw, -⟩ := hmatched.1 hm
      refine ⟨index_move .., ?_⟩
      rw [hoptions, Option.getD_some]
      cases o.patternLines with
      | tracked =>
        obtain ⟨hanswers, hafter⟩ := Between.read_each (hw ▸ h)
        exact ⟨hanswers, hafter.symm⟩
      | columnOnly =>
        rw [← htext, ← hoptions]
        rfl

end TextScan.Reader
