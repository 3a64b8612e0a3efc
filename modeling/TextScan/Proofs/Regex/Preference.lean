import TextScan.Proofs.Pattern
import TextScan.Proofs.Run.Matches
import TextScan.Regex.Preference

/-!
# Regex — the preferred match, part by part

What an expression prefers is told by what its parts prefer, as long as what comes later cannot
fail: then no other match of what came first is ever asked for.

* `Re.head?_extend`: the preferred way to go on.
* `Re.best?_char_seq`, `Re.best?_either`, `Re.best?_star_char`: characters, alternatives, and
  characters any number of times.
* `Re.first?_literal`: the characters of a text match that text alone.
* `Anchored.first?_pattern`: where an engine finds the preferred match, it is what the pattern
  matches.
-/

namespace TextScan

/-- What a pattern matches at the start of a text is what its span covers there. -/
theorem Pattern.first?_eq_some_iff {p : Pattern} {t m : Text} :
    p.first? t = some m ↔ ∃ w, t = m ++ w ∧ p.findAt t 0 = some ⟨0, Text.byteSize m⟩ := by
  have h := (Reader.Between.start t {}).matched?_eq_some_iff (p := p) (m := m)
  rwa [show (Reader.start t).index = 0 from rfl, Nat.zero_add] at h

namespace Regex

namespace Re

variable {a b : Re} {p : Char → Bool} {t : Text}

/-- The preferred match at the start of a text, and what it leaves. -/
def best? (re : Re) (t : Text) : Option (Text × Text) :=
  (re.splits t).head?

theorem first?_eq (re : Re) (t : Text) : re.first? t = (re.best? t).map Prod.fst := rfl

/-- What goes on everywhere goes on from the preferred match. -/
theorem head?_extend {found : List (Text × Text)} {next : Text → List (Text × Text)}
    (h : ∀ t, next t ≠ []) :
    (extend found next).head? =
      found.head?.bind fun s => (next s.2).head?.map fun s' => (s.1 ++ s'.1, s'.2) := by
  cases found with
  | nil => rfl
  | cons s found =>
    obtain ⟨s', rest, hs⟩ := List.exists_cons_of_ne_nil (h s.2)
    simp [extend, hs]

/-- After the preferred match of the first part comes that of the second one, if it cannot fail. -/
theorem best?_seq (h : ∀ t, b.splits t ≠ []) (t : Text) :
    (seq a b).best? t =
      (a.best? t).bind fun s => (b.best? s.2).map fun s' => (s.1 ++ s'.1, s'.2) :=
  head?_extend h

/-- After a character comes the preferred match of what follows. -/
theorem best?_char_seq (p : Char → Bool) (b : Re) (c : Char) (t : Text) :
    (seq (char p) b).best? (c :: t) =
      if p c then (b.best? t).map fun s => (c :: s.1, s.2) else none := by
  rw [best?, splits, splits]
  split
  · simp [extend, best?]
  · rfl

/-- The second alternative counts where the first one fails. -/
theorem best?_either (a b : Re) (t : Text) : (either a b).best? t = (a.best? t).or (b.best? t) :=
  List.head?_append

/-- Characters any number of times are taken as long as there are any. -/
theorem head?_iterate_char {n : Nat} (h : t.length ≤ n) :
    (iterate (char p).splits n t).head? = some (t.takeWhile p, t.dropWhile p) := by
  induction t generalizing n with
  | nil => cases n <;> rfl
  | cons c t ih =>
    cases n with
    | zero => cases h
    | succ n =>
      have hne : ∀ t, iterate (char p).splits n t ≠ [] := by
        intro t
        cases n <;> simp [iterate]
      have hrest := ih (Nat.le_of_succ_le_succ h)
      -- a character takes something, so no iteration is left out
      rw [iterate, List.head?_append, head?_extend hne, splits]
      by_cases hc : p c = true <;> simp [hc, hrest]

theorem best?_star_char (p : Char → Bool) (t : Text) :
    (star (char p)).best? t = some (t.takeWhile p, t.dropWhile p) :=
  head?_iterate_char (Nat.le_refl _)

/-- **A character once at least**: all characters with the property, if the text starts with one. -/
theorem best?_plus_char (p : Char → Bool) (t : Text) :
    (plus (char p)).best? t =
      if t.head?.any p then some (t.takeWhile p, t.dropWhile p) else none := by
  cases t with
  | nil => rfl
  | cons c t =>
    rw [plus, best?_char_seq, best?_star_char]
    cases hc : p c <;> simp [hc]

/-- **The characters of a text match that text.** -/
theorem best?_literal (s t : Text) :
    (literal s).best? t = if s.isPrefixOf t then some (s, t.drop s.length) else none := by
  induction s generalizing t with
  | nil => rfl
  | cons c s ih =>
    cases t with
    | nil => rfl
    | cons d t =>
      rw [literal, best?_char_seq, ih]
      by_cases hd : d = c
      · subst hd
        by_cases hs : s.isPrefixOf t = true <;> simp [hs]
      · have hc : ¬ c = d := fun e => hd e.symm
        simp [hd, hc]

theorem first?_literal (s t : Text) :
    (literal s).first? t = if s.isPrefixOf t then some s else none := by
  rw [first?_eq, best?_literal]
  split <;> rfl

/-! ### What matches leave -/

/-- A match of a part and one of what it leaves make up the text, if they both do. -/
theorem append_of_mem_extend {found : List (Text × Text)} {next : Text → List (Text × Text)}
    (hfound : ∀ s ∈ found, s.1 ++ s.2 = t) (hnext : ∀ t, ∀ s ∈ next t, s.1 ++ s.2 = t) :
    ∀ s ∈ extend found next, s.1 ++ s.2 = t := by
  intro s hs
  obtain ⟨s₁, h₁, hs⟩ := List.mem_flatMap.1 hs
  obtain ⟨s₂, h₂, rfl⟩ := List.mem_map.1 hs
  rw [List.append_assoc, hnext _ s₂ h₂, hfound s₁ h₁]

theorem append_of_mem_iterate {step : Text → List (Text × Text)}
    (hstep : ∀ t, ∀ s ∈ step t, s.1 ++ s.2 = t) (n : Nat) (t : Text) :
    ∀ s ∈ iterate step n t, s.1 ++ s.2 = t := by
  induction n generalizing t with
  | zero => simp [iterate]
  | succ n ih =>
    intro s hs
    rcases List.mem_append.1 hs with hs | hs
    · exact append_of_mem_extend (fun s hs => hstep t s (List.mem_filter.1 hs).1) ih s hs
    · obtain rfl := List.mem_singleton.1 hs
      rfl

/-- **A match and what it leaves make up the text.** -/
theorem append_of_mem_splits (re : Re) (t : Text) : ∀ s ∈ re.splits t, s.1 ++ s.2 = t := by
  induction re generalizing t with
  | empty => simp [splits]
  | char p =>
    cases t with
    | nil => simp [splits]
    | cons c t => cases hc : p c <;> simp [splits, hc]
  | seq a b iha ihb => exact append_of_mem_extend (iha t) ihb
  | either a b iha ihb =>
    intro s hs
    rcases List.mem_append.1 hs with hs | hs
    · exact iha t s hs
    · exact ihb t s hs
  | star a ih => exact append_of_mem_iterate ih t.length t

/-- The preferred match is a first part of the text. -/
theorem first?_prefix {re : Re} {w : Text} (h : re.first? t = some w) : w <+: t := by
  obtain ⟨s, hs, rfl⟩ := Option.map_eq_some_iff.1 h
  exact ⟨s.2, append_of_mem_splits re t s (List.mem_of_head? hs)⟩

end Re

/-! ### Patterns -/

namespace Anchored

variable {E : Engine} {a : Anchored E}

/-- **What the pattern matches is the preferred match**, where the engine finds it. -/
theorem first?_pattern {re : Re} (h : E.FindsFirst a.matcher re) (t : Text) :
    a.pattern.first? t = re.first? t := by
  have hfind := a.findAt_pattern t.after?_zero
  rw [h t] at hfind
  cases hm : re.first? t with
  | none =>
    rw [Pattern.first?, hfind, hm]
    rfl
  | some m =>
    obtain ⟨w, hw⟩ := Re.first?_prefix hm
    exact Pattern.first?_eq_some_iff.2 ⟨w, hw.symm, by rw [hfind, hm]; simp⟩

/-- A pattern never matches nothing, if its expression does not. -/
theorem first?_ne_nil (h : E.NeverEmpty a.source) (t : Text) : a.pattern.first? t ≠ some [] := by
  intro hm
  obtain ⟨-, -, hfind⟩ := Pattern.first?_eq_some_iff.1 hm
  rw [a.findAt_pattern t.after?_zero] at hfind
  obtain ⟨s, hs, hspan⟩ := Option.map_eq_some_iff.1 hfind
  rw [Span.shift_zero] at hspan
  exact h a.matcher a.compiled t s hs (by rw [hspan]; rfl)

/-- An expression that an engine reads is compiled, and matches what is preferred. -/
theorem exists_of_reads {source : Text} {re : Re} (h : E.Reads source re) :
    ∃ a, ofText E source = .ok a ∧ ∀ t, a.pattern.first? t = re.first? t := by
  obtain ⟨m, hm, hfinds⟩ := h
  exact ⟨_, ofText_eq_ok hm, first?_pattern hfinds⟩

end Anchored

/-- An expression that is read never matches nothing, if what it prefers is not empty. -/
theorem Engine.Reads.neverEmpty {E : Engine} {source : Text} {re : Re} (h : E.Reads source re)
    (hre : ∀ t, re.first? t ≠ some []) : E.NeverEmpty source := by
  obtain ⟨m, hm, hfinds⟩ := h
  intro m' hm' t s hs
  obtain rfl : m = m' := Except.ok.inj (hm.symm.trans hm')
  rw [hfinds t] at hs
  obtain ⟨w, hw, rfl⟩ := Option.map_eq_some_iff.1 hs
  refine Nat.ne_of_lt (Text.byteSize_pos ?_)
  rintro rfl
  exact hre t hw

end Regex

end TextScan
