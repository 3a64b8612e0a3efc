import TextScan.Proofs.Run.Calls

/-!
# Run — a literal is its characters

A literal matches when its characters match one after the other, and moves the reader as they do;
otherwise the reader stays, however much of the literal was next.  So a literal can be cut in two,
and all that is left is a literal that matches (`Reader.literal_of_run`).

* `Reader.Between.matchText_answer_iff`: a literal matches if it is next.
* `Reader.Between.matchChar_each_iff`: so do its characters.
-/

namespace TextScan

/-- A text is a first part of another if its bytes are. -/
theorem Text.isPrefix_iff_bytes {s t : Text} :
    s <+: t ↔ ∃ bytes, s.utf8Encode ++ bytes = t.utf8Encode := by
  constructor
  · rintro ⟨w, rfl⟩
    exact ⟨w.utf8Encode, List.utf8Encode_append.symm⟩
  · rintro ⟨bytes, h⟩
    exact List.isPrefix_of_utf8Encode_append_eq_utf8Encode bytes h

namespace Reader

variable {r : Reader} {u v s : Text}

/-! ### Literals -/

/-- A literal that does not match leaves the reader as it was. -/
theorem matchText_of_failure (h : (r.matchText s).answer = false) : (r.matchText s).reader = r := by
  rw [matchText] at h ⊢
  split at h
  · cases h
  · next hnot => rw [if_neg hnot]

namespace Between

/-- **A literal matches if it is next.** -/
theorem matchText_answer_iff (h : r.Between u v) : (r.matchText s).answer = true ↔ s <+: v := by
  rw [h.matchText_eq, ← List.isPrefixOf_iff_prefix]
  split
  · next hpre => exact ⟨fun _ => hpre, fun _ => rfl⟩
  · next hnot =>
    constructor
    · intro hfalse
      cases hfalse
    · intro hpre
      exact absurd hpre hnot

/-- A literal that matches is moved over. -/
theorem matchText_reader (h : r.Between u v) (hs : s <+: v) :
    (r.matchText s).reader = r.advance s := by
  rw [h.matchText_eq, if_pos (List.isPrefixOf_iff_prefix.2 hs)]

/-- **A literal can be cut in two.**  Both parts match, the second behind the first, just if the
whole does, and they lead to the same place. -/
theorem matchText_append (h : r.Between u v) (s s' : Text) :
    let first := r.matchText s
    let second := first.reader.matchText s'
    let both := r.matchText (s ++ s')
    (both.answer = true ↔ first.answer = true ∧ second.answer = true) ∧
      (both.answer = true → both.reader = second.reader) := by
  intro first second both
  have hfirst : first.answer = true ↔ s <+: v := h.matchText_answer_iff
  have hboth : both.answer = true ↔ s ++ s' <+: v := h.matchText_answer_iff
  by_cases hs : s <+: v
  · obtain ⟨w, rfl⟩ := hs
    have hmoved : first.reader = r.advance s := h.matchText_reader (List.prefix_append s w)
    have hnext : first.reader.Between (u ++ s) w := by
      rw [hmoved]
      exact h.advance
    have hsecond : second.answer = true ↔ s' <+: w := hnext.matchText_answer_iff
    rw [List.prefix_append_right_inj] at hboth
    refine ⟨?_, fun hanswer => ?_⟩
    · rw [hboth, hfirst, hsecond]
      exact ⟨fun hs' => ⟨List.prefix_append s w, hs'⟩, And.right⟩
    · have hs' : s' <+: w := hboth.1 hanswer
      have hreader : both.reader = r.advance (s ++ s') :=
        h.matchText_reader ((List.prefix_append_right_inj s).2 hs')
      have hreader' : second.reader = first.reader.advance s' := hnext.matchText_reader hs'
      rw [hreader, hreader', hmoved, advance_append]
  · -- without its first part the whole is not next either
    have hnot : ¬ both.answer = true := fun hanswer =>
      hs ((List.prefix_append s s').trans (hboth.1 hanswer))
    exact ⟨⟨fun hanswer => absurd hanswer hnot, fun hparts => absurd (hfirst.1 hparts.1) hs⟩,
      fun hanswer => absurd hanswer hnot⟩

/-- Consuming all that is left goes where matching it goes. -/
theorem matchAny_reader (h : r.Between u v) : r.matchAny.reader = (r.matchText v).reader := by
  rw [h.matchAny_eq, h.matchText_reader (List.prefix_refl v)]
  cases v <;> rfl

/-! ### Characters, one after the other -/

/-- **The characters of a literal match one after the other if it is next.** -/
theorem matchChar_each_iff (h : r.Between u v) :
    (∀ step ∈ r.run (s.map Op.matchChar), step.answer = .flag true) ↔ s <+: v := by
  induction s generalizing r u v with
  | nil =>
    constructor
    · intro _
      exact List.nil_prefix
    · intro _ step hstep
      cases hstep
  | cons c s ih =>
    have hstep : (Op.matchChar c).step r = (r.matchChar c).map .flag := rfl
    rw [List.map_cons, run, List.forall_mem_cons, hstep, h.matchChar_eq]
    by_cases hc : v.head? = some c
    · obtain ⟨t, rfl⟩ := List.head?_eq_some_iff.1 hc
      have hrest : (∀ step ∈ (r.advance [c]).run (s.map Op.matchChar), step.answer = .flag true) ↔
          s <+: t := ih (h.advance_head hc)
      rw [if_pos hc, List.cons_prefix_cons]
      constructor
      · rintro ⟨-, hall⟩
        exact ⟨rfl, hrest.1 hall⟩
      · rintro ⟨-, hs⟩
        exact ⟨rfl, hrest.2 hs⟩
    · rw [if_neg hc]
      constructor
      · rintro ⟨hfalse, -⟩
        cases hfalse
      · rintro ⟨w, rfl⟩
        exact absurd rfl hc

/-- Characters that are next are moved over. -/
theorem after_matchChar_each (h : r.Between u (s ++ v)) :
    r.after (s.map Op.matchChar) = r.advance s := by
  induction s generalizing r u with
  | nil => rfl
  | cons c s ih =>
    have hstep : ((Op.matchChar c).step r).reader = r.advance [c] := by
      have hhead : (c :: s ++ v).head? = some c := rfl
      show (r.matchChar c).reader = _
      rw [h.matchChar_eq, if_pos hhead]
    rw [List.map_cons, after_cons, hstep]
    exact ih (Between.advance (m := [c]) h)

end Between

/-- **A literal is its characters.**  It matches if its bytes come first in the bytes that are left,
and this is when its characters match one after the other.  Then the reader goes where they lead,
where as many reads lead, and where a test leads that grants as many calls; and otherwise it stays.
A literal in two parts matches if the first part does and then the second, and leads to the same
place.  All that is left is consumed as it is matched. -/
theorem literal_of_run (t : Text) (o : Options) (ops : List Op) (s : Text) :
    let r := (start t o).after ops
    let whole := r.matchText s
    let each := s.map Op.matchChar
    (whole.answer = true ↔ ∃ bytes, s.utf8Encode ++ bytes = r.rest.utf8Encode) ∧
      (whole.answer = true ↔ ∀ step ∈ r.run each, step.answer = .flag true) ∧
      (whole.answer = true →
        whole.reader = r.after each ∧ whole.reader = r.after (List.replicate s.length .read) ∧
          ∀ (σ : Type) (test : Char → StateM σ Bool) (x : σ), Grants test s.length x →
            (r.consumeWhile test x).answer.1 = s.length ∧
              whole.reader = (r.consumeWhile test x).reader) ∧
      (whole.answer = false → whole.reader = r) ∧
      (∀ s', let second := whole.reader.matchText s'
        let both := r.matchText (s ++ s')
        (both.answer = true ↔ whole.answer = true ∧ second.answer = true) ∧
          (both.answer = true → both.reader = second.reader)) ∧
      (r.matchText r.rest).answer = true ∧ r.matchAny.reader = (r.matchText r.rest).reader := by
  intro r whole each
  obtain ⟨u, v, h, -, -⟩ : ∃ u v, r.Between u v ∧ r.text = t ∧ r.options = o :=
    between_of_run t o ops
  have hiff : whole.answer = true ↔ s <+: v := h.matchText_answer_iff
  refine ⟨?_, ?_, fun hwhole => ?_, matchText_of_failure, h.matchText_append s, ?_, ?_⟩
  · rw [hiff, h.rest_eq, Text.isPrefix_iff_bytes]
  · rw [hiff, h.matchChar_each_iff]
  · obtain ⟨w, rfl⟩ := hiff.1 hwhole
    have hreader : whole.reader = r.advance s := h.matchText_reader (List.prefix_append s w)
    refine ⟨?_, ?_, fun σ test x hgrants => ?_⟩
    · rw [hreader, h.after_matchChar_each]
    · rw [hreader, h.after_reads]
    · -- the literal is as long as what the test accepts, and both come first
      have haccepted : (acceptedBy test (s ++ w) x).1 = s := by
        rw [acceptedBy_of_grants test hgrants, List.take_left]
      rw [hreader, h.consumeWhile_eq, haccepted]
      exact ⟨rfl, rfl⟩
  · have hnext : r.rest <+: v := ⟨[], by rw [h.rest_eq, List.append_nil]⟩
    exact h.matchText_answer_iff.2 hnext
  · rw [h.matchAny_reader, h.rest_eq]

/-- A literal over two lines: by its characters, by reads, and by a test that grants two calls. -/
theorem literal_of_run_over_lines :
    let r := (start ['a', '\n', 'é', 'b'] {}).after [.read]
    let whole := r.matchText ['\n', 'é']
    (whole.answer = true ∧ Grants countdown 2 2) ∧
      whole.reader = r.after [.matchChar '\n', .matchChar 'é'] ∧
      whole.reader = r.after [.read, .read] ∧
      whole.reader = (r.consumeWhile countdown 2).reader ∧ whole.reader.pos = ⟨1, 2⟩ := by
  intro r whole
  have hwhole : whole.answer = true := by decide
  obtain ⟨-, -, hmatched, -⟩ := literal_of_run ['a', '\n', 'é', 'b'] {} [.read] ['\n', 'é']
  obtain ⟨heach, hreads, htests⟩ := hmatched hwhole
  have htest := htests Nat countdown 2 (grants_countdown 2)
  exact ⟨⟨hwhole, grants_countdown 2⟩, heach, hreads, htest.2, by decide⟩

end Reader

end TextScan
