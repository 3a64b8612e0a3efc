import TextScan.Regex.Threads

/-!
# Regex — the engine of threads is one to be trusted

Threads read a text from its start and accept between two characters, so a match lies in the text.
A search tries the places of a text one after another, so it finds the first place with a match, and
there the match that is found without searching.

* `Program.boundary_of_matchLength?`: a match ends between two characters of the text.
* `Program.find?_eq_some_iff`: the leftmost match.
* `Engine.threads_inBounds`, `Engine.threads_leftmostFirst`: what the engine is trusted with.
-/

namespace TextScan.Regex

namespace Program

variable {p : Program} {before : Option Char} {t : Text}

/-! ### Where matches end -/

/-- Without threads nothing more is found. -/
theorem run_nil (p : Program) (fresh : AddressSet) (before : Option Char) (n : Nat)
    (best : Option Nat) (t : Text) : p.run fresh before [] n best t = best := by
  cases t <;> simp [run, follow]

/-- One character more: the threads that read it go on, with what is found so far. -/
theorem run_cons (p : Program) (fresh : AddressSet) (before : Option Char) (threads : List Nat)
    (n : Nat) (best : Option Nat) (c : Char) (t : Text) :
    p.run fresh before threads n best (c :: t) =
      p.run fresh (some c) (p.follow before (some c) threads fresh []).next.reverse
        (n + c.utf8Size)
        (if (p.follow before (some c) threads fresh []).accepted then some n else best) t := by
  rw [run]
  split
  · next h =>
    rw [h, List.reverse_nil, run_nil]
  · rfl

/-- A match ends between two characters that are read, or where the best match before did. -/
theorem boundary_of_run {fresh : AddressSet} {threads : List Nat} {n k : Nat} {best : Option Nat}
    (h : p.run fresh before threads n best t = some k) :
    best = some k ∨ ∃ u v, t = u ++ v ∧ k = n + Text.byteSize u := by
  induction t generalizing before threads n best with
  | nil =>
    rw [run] at h
    split at h
    · exact .inr ⟨[], [], rfl, (Option.some.inj h).symm⟩
    · exact .inl h
  | cons c t ih =>
    rw [run_cons] at h
    rcases ih h with hbest | ⟨u, v, rfl, rfl⟩
    · split at hbest
      · exact .inr ⟨[], c :: t, rfl, (Option.some.inj hbest).symm⟩
      · exact .inl hbest
    · exact .inr ⟨c :: u, v, rfl, by rw [Text.byteSize_cons, Nat.add_assoc]⟩

/-- **A match ends between two characters of the text.** -/
theorem boundary_of_matchLength? {k : Nat} (h : p.matchLength? before t = some k) :
    ∃ u v, t = u ++ v ∧ Text.byteSize u = k := by
  rcases boundary_of_run h with hbest | ⟨u, v, rfl, rfl⟩
  · cases hbest
  · exact ⟨u, v, rfl, (Nat.zero_add _).symm⟩

/-! ### The leftmost match -/

/-- The end of the match at an offset of a text. -/
def matchAt? (p : Program) (t : Text) (offset : Nat) : Option Nat :=
  (t.cut? offset).bind fun parts =>
    (p.matchLength? parts.1.getLast? parts.2).map (offset + ·)

theorem matchAt?_append (p : Program) (u v : Text) :
    p.matchAt? (u ++ v) (Text.byteSize u) =
      (p.matchLength? u.getLast? v).map (Text.byteSize u + ·) := by
  rw [matchAt?, Text.cut?_append]
  rfl

/-- Inside a character there is no match. -/
theorem matchAt?_inside (p : Program) (u v : Text) {c : Char} {i : Nat} (hle : Text.byteSize u < i)
    (hlt : i < Text.byteSize u + c.utf8Size) : p.matchAt? (u ++ c :: v) i = none := by
  obtain ⟨d, rfl⟩ := Nat.exists_eq_add_of_lt hle
  have hcut : Text.cut? (c :: v) (d + 1) = none := by
    rw [Text.cut?, if_neg (by omega)]
  rw [matchAt?, Nat.add_assoc, Text.cut?_append_add, hcut]
  rfl

/-- Behind the text there is no match. -/
theorem matchAt?_behind (p : Program) {i : Nat} (h : Text.byteSize t < i) :
    p.matchAt? t i = none := by
  cases hcut : t.cut? i with
  | none => rw [matchAt?, hcut]; rfl
  | some parts =>
    obtain ⟨rfl, rfl⟩ := Text.cut?_eq_some_iff.1 hcut
    rw [Text.byteSize_append] at h
    omega

/-- A place with a match is the first one from there on. -/
theorem first_iff_of_some {f : Nat → Option Nat} {n k i j : Nat} (h : f n = some k) :
    n = i ∧ k = j ↔ n ≤ i ∧ f i = some j ∧ ∀ i', n ≤ i' → i' < i → f i' = none := by
  constructor
  · rintro ⟨rfl, rfl⟩
    exact ⟨Nat.le_refl n, h, fun i' hle hlt => absurd hlt (Nat.not_lt.2 hle)⟩
  · rintro ⟨hle, hi, hnone⟩
    rcases Nat.eq_or_lt_of_le hle with rfl | hlt
    · exact ⟨rfl, Option.some.inj (h.symm.trans hi)⟩
    · rw [hnone n (Nat.le_refl n) hlt] at h
      cases h

/-- **A search finds the first place with a match**, from a place on, and the match there. -/
theorem find?_eq_some_iff {u v : Text} {i j : Nat} :
    p.find? u.getLast? (Text.byteSize u) v = some (i, j) ↔
      Text.byteSize u ≤ i ∧ p.matchAt? (u ++ v) i = some j ∧
        ∀ i', Text.byteSize u ≤ i' → i' < i → p.matchAt? (u ++ v) i' = none := by
  induction v generalizing u with
  | nil =>
    have hhere := p.matchAt?_append u []
    rw [find?]
    cases hmatch : p.matchLength? u.getLast? [] with
    | some k =>
      rw [hmatch] at hhere
      rw [← first_iff_of_some hhere, Option.map_some, Option.some.injEq, Prod.mk.injEq]
    | none =>
      rw [hmatch] at hhere
      refine ⟨nofun, fun ⟨hle, hi, _⟩ => ?_⟩
      rcases Nat.eq_or_lt_of_le hle with rfl | hlt
      · rw [hhere] at hi
        cases hi
      · rw [p.matchAt?_behind (by rwa [List.append_nil])] at hi
        cases hi
  | cons c v ih =>
    have hhere := p.matchAt?_append u (c :: v)
    rw [find?]
    cases hmatch : p.matchLength? u.getLast? (c :: v) with
    | some k =>
      rw [hmatch] at hhere
      rw [← first_iff_of_some hhere, Option.some.injEq, Prod.mk.injEq]
    | none =>
      -- there is no match from here up to the next character
      rw [hmatch] at hhere
      have hnone : ∀ i', Text.byteSize u ≤ i' → i' < Text.byteSize u + c.utf8Size →
          p.matchAt? (u ++ c :: v) i' = none := by
        intro i' hle hlt
        rcases Nat.eq_or_lt_of_le hle with rfl | hlt'
        · exact hhere
        · exact p.matchAt?_inside u v hlt' hlt
      have hrest := @ih (u ++ [c])
      rw [List.getLast?_append, List.append_assoc, Text.byteSize_append] at hrest
      refine hrest.trans ⟨fun ⟨hle, hi, hbefore⟩ => ?_, fun ⟨hle, hi, hbefore⟩ => ?_⟩
      · refine ⟨by omega, hi, fun i' hle' hlt => ?_⟩
        by_cases h : i' < Text.byteSize u + c.utf8Size
        · exact hnone i' hle' h
        · exact hbefore i' (Nat.not_lt.1 h) hlt
      · refine ⟨Nat.not_lt.1 fun hlt => ?_, hi, fun i' hle' hlt => hbefore i' (by omega) hlt⟩
        have := (hnone i hle hlt).symm.trans hi
        cases this

/-- The match at the start of a text. -/
theorem matchAt?_zero (p : Program) (t : Text) : p.matchAt? t 0 = p.matchLength? none t := by
  have hstart := p.matchAt?_append [] t
  rw [List.nil_append, Text.byteSize_nil] at hstart
  simpa using hstart

/-- The first match in a text. -/
theorem find?_span_eq_some_iff {s : Span} :
    (p.find? none 0 t).map (fun found => (⟨found.1, found.2⟩ : Span)) = some s ↔
      p.matchAt? t s.start = some s.stop ∧ ∀ i < s.start, p.matchAt? t i = none := by
  have hfind := find?_eq_some_iff (p := p) (u := []) (v := t) (i := s.start) (j := s.stop)
  rw [List.nil_append] at hfind
  rw [Option.map_eq_some_iff]
  constructor
  · rintro ⟨found, hfound, rfl⟩
    obtain ⟨-, hmatch, hnone⟩ := hfind.1 hfound
    exact ⟨hmatch, fun i hi => hnone i (Nat.zero_le i) hi⟩
  · rintro ⟨hmatch, hnone⟩
    exact ⟨_, hfind.2 ⟨Nat.zero_le _, hmatch, fun i _ hi => hnone i hi⟩, rfl⟩

/-- What is found lies in the text. -/
theorem liesIn_of_matchAt? {s : Span} (h : p.matchAt? t s.start = some s.stop) : s.LiesIn t := by
  obtain ⟨⟨u, v⟩, hcut, hmatch⟩ := Option.bind_eq_some_iff.1 h
  obtain ⟨k, hk, hstop⟩ := Option.map_eq_some_iff.1 hmatch
  obtain ⟨rfl, hstart⟩ := Text.cut?_eq_some_iff.1 hcut
  obtain ⟨x, w, hv, rfl⟩ := boundary_of_matchLength? hk
  obtain rfl : v = x ++ w := hv
  constructor
  · rw [← hstop]
    exact Nat.le_add_right _ _
  · simp [← hstop, ← hstart]
  · exact Text.isBoundary_iff.2 ⟨u, x ++ w, rfl, hstart⟩
  · exact Text.isBoundary_iff.2 ⟨u ++ x, w, by simp, by simp [← hstop, ← hstart]⟩

/-! ### Compiling -/

/-- An expression that is read and not too large is compiled. -/
theorem exists_ofText_iff {source : Text} :
    (∃ p, ofText source = .ok p) ↔
      (∃ e, Expr.ofText source = .ok e) ∧
        ∀ e, Expr.ofText source = .ok e → (Core.ofExpr e).fits = true := by
  rw [ofText]
  cases Expr.ofText source with
  | error fault => simp
  | ok e => cases hfits : (Core.ofExpr e).fits <;> simp [hfits]

theorem toOption_ofText_iff {source : Text} :
    (ofText source).toOption = some p ↔ ofText source = .ok p := by
  cases ofText source <;> simp [Except.toOption]

end Program

/-! ### What the engine is trusted with -/

namespace Engine

/-- **What threads find lies in the text.** -/
theorem threads_inBounds : threads.InBounds where
  tried := by
    rintro (p : Program) t s h
    obtain ⟨k, hk, rfl⟩ := Option.map_eq_some_iff.1 h
    exact ⟨Program.liesIn_of_matchAt? ((p.matchAt?_zero t).trans hk), rfl⟩
  searched := by
    rintro (p : Program) t s h
    exact Program.liesIn_of_matchAt? (Program.find?_span_eq_some_iff.1 h).1

/-- What the expressions of the engine are, and where they match. -/
def Dialect.threads : Dialect where
  IsExpression source := ∃ e, Expr.ofText source = .ok e
  Fits source := ∀ e, Expr.ofText source = .ok e → (Core.ofExpr e).fits = true
  stops source t i :=
    match Program.ofText source with
    | .ok p => (p.matchAt? t i).toList
    | .error _ => []

theorem Dialect.threads_stops {source : Text} {p : Program} (h : Program.ofText source = .ok p)
    (t : Text) (i : Nat) : Dialect.threads.stops source t i = (p.matchAt? t i).toList := by
  simp only [threads, h]

/-- **Threads are leftmost-first.** -/
theorem threads_leftmostFirst : threads.LeftmostFirst Dialect.threads where
  matcher_iff _ := Program.exists_ofText_iff
  searcher_iff _ :=
    (exists_congr fun _ => Program.toOption_ofText_iff).trans Program.exists_ofText_iff
  tried := by
    rintro source (p : Program) h t
    rw [Dialect.threads_stops h, p.matchAt?_zero, Option.head?_toList]
    rfl
  searched := by
    rintro source (p : Program) h t s
    simp only [Dialect.threads_stops (Program.toOption_ofText_iff.1 h), Option.head?_toList,
      Option.toList_eq_nil_iff]
    exact Program.find?_span_eq_some_iff

end Engine

end TextScan.Regex
