import TextScan.Proofs.Run.Effect
import TextScan.Regex

/-!
# Pattern — patterns that look only ahead

An expression, in either use, and a function of the text that is left match what this text alone
tells, whatever the engine of the expression is.  What stands before the cursor decides no more than
whether the end of a match is still an offset, and it is one wherever the text itself fits into
64 bits.

* `Pattern.IsExpression` are the expressions of an engine, and `Pattern.LooksAhead` also the
  functions.
* `Pattern.IsExpression.findAt_shift`: what an expression finds at an offset is what it finds in the
  text that is left, moved on.
* `Pattern.IsExpression.fits_of_findAt`: the spans of an expression fit, if its engine finds what
  lies in the text.
* `Pattern.LooksAhead.matched?_eq`: what they match is what they match at the start of the text that
  is left.
-/

namespace TextScan

open Regex (Engine Anchored Searching)

variable {E : Engine}

/-! ### Patterns -/

/-- The two ways to use an expression of an engine. -/
inductive Pattern.IsExpression (E : Engine) : Pattern → Prop where
  | anchored (a : Anchored E) : IsExpression E a.pattern
  | searching (x : Searching E) : IsExpression E x.pattern

/-- The patterns that look only ahead: expressions in both uses, and functions of what is left. -/
inductive Pattern.LooksAhead (E : Engine) : Pattern → Prop where
  | expression {p : Pattern} (h : p.IsExpression E) : LooksAhead E p
  | ofLength (accepted : Text → Option Nat) : LooksAhead E (.ofLength accepted)

/-- The operations that look only ahead: all of them, but for the match of another pattern. -/
def Op.LooksAhead (E : Engine) : Op → Prop
  | matchPattern p => p.LooksAhead E
  | _ => True

/-! ### Spans -/

section
variable {t rest : Text} {offset : Nat}

theorem Text.after?_zero (t : Text) : t.after? 0 = some t := by
  rw [after?, cut?_zero]
  rfl

namespace Span

@[simp] theorem shift_zero (s : Span) : s.shift 0 = s := by
  simp only [shift, Nat.zero_add]

/-- **A span that is moved on fits at the offset** just if it fits in the text that is left. -/
theorem fits_shift (h : Text.after? t offset = some rest) (s : Span) :
    (s.shift offset).fits t offset = s.fits rest 0 := by
  obtain ⟨u, rfl, rfl⟩ := Text.after?_eq_some_iff.1 h
  have hboundary : Text.isBoundary (u ++ rest) (Text.byteSize u + s.stop) =
      Text.isBoundary rest s.stop := by
    rw [Text.isBoundary, Text.cut?_append_add, Option.isSome_map]
    rfl
  rw [Bool.eq_iff_iff]
  simp [fits, shift, hboundary]

theorem text_shift (h : Text.after? t offset = some rest) (s : Span) :
    (s.shift offset).text t = s.text rest := by
  obtain ⟨u, rfl, rfl⟩ := Text.after?_eq_some_iff.1 h
  rw [text, shift, Text.slice?_append_add]
  rfl

/-- A span that lies in a text and starts with it fits at its start. -/
theorem LiesIn.fits {s : Span} (h : s.LiesIn t) (hstart : s.start = 0) : s.fits t 0 = true := by
  simp [Span.fits, hstart, h.within, h.stop_boundary]

end Span

/-! ### What is found -/

/-- An expression that is tried finds what the engine finds in the text that is left. -/
theorem Regex.Anchored.findAt_pattern (h : Text.after? t offset = some rest) (a : Anchored E) :
    a.pattern.findAt t offset = (E.tryAt a.matcher rest).map (·.shift offset) := by
  simp only [pattern, h, Option.bind_eq_bind, Option.bind_some]
  cases E.tryAt a.matcher rest <;> rfl

/-- An expression that is looked for finds what the engine finds first in the text that is left, if
that starts with the text. -/
theorem Regex.Searching.findAt_pattern (h : Text.after? t offset = some rest) (x : Searching E) :
    x.pattern.findAt t offset =
      ((E.search x.searcher rest).filter (·.start == 0)).map (·.shift offset) := by
  simp only [pattern, h, Option.bind_eq_bind, Option.bind_some]
  cases E.search x.searcher rest with
  | none => rfl
  | some s =>
    by_cases hs : s.start = 0
    · simp [Option.filter, Span.shift, hs]
    · simp [Option.filter, hs]

namespace Pattern

/-- What a function accepts is a span from the offset on, as long as its end is an offset. -/
theorem findAt_ofLength (h : Text.after? t offset = some rest) (accepted : Text → Option Nat) :
    (ofLength accepted).findAt t offset =
      (accepted rest).bind fun n =>
        if offset + n < offsetBound then some ⟨offset, offset + n⟩ else none := by
  simp only [ofLength, h, Option.bind_eq_bind, Option.bind_some]

variable {p : Pattern} {s : Span}

/-- Where no text starts nothing is found. -/
theorem LooksAhead.findAt_eq_none (hp : p.LooksAhead E) (h : Text.after? t offset = none) :
    p.findAt t offset = none := by
  cases hp with
  | expression hp => cases hp <;> simp [Anchored.pattern, Searching.pattern, h]
  | ofLength accepted => simp [Pattern.ofLength, h]

namespace IsExpression

/-- **An expression finds at an offset what it finds in the text that is left**, moved on. -/
theorem findAt_shift (hp : p.IsExpression E) (h : Text.after? t offset = some rest) :
    p.findAt t offset = (p.findAt rest 0).map (·.shift offset) := by
  cases hp with
  | anchored a =>
    rw [a.findAt_pattern h, a.findAt_pattern rest.after?_zero]
    simp
  | searching x =>
    rw [x.findAt_pattern h, x.findAt_pattern rest.after?_zero]
    simp

/-- **The spans of an expression fit**, at every offset of every text, if its engine finds what lies
in the text. -/
theorem fits_of_findAt (hE : E.InBounds) (hp : p.IsExpression E)
    (hs : p.findAt t offset = some s) : s.fits t offset = true := by
  cases h : Text.after? t offset with
  | none =>
    rw [LooksAhead.findAt_eq_none (.expression hp) h] at hs
    cases hs
  | some rest =>
    cases hp with
    | anchored a =>
      rw [a.findAt_pattern h] at hs
      obtain ⟨found, hfound, rfl⟩ := Option.map_eq_some_iff.1 hs
      obtain ⟨hlies, hstart⟩ := hE.tried hfound
      rw [Span.fits_shift h, hlies.fits hstart]
    | searching x =>
      rw [x.findAt_pattern h] at hs
      obtain ⟨found, hfound, rfl⟩ := Option.map_eq_some_iff.1 hs
      obtain ⟨hfound, hstart⟩ := Option.filter_eq_some_iff.1 hfound
      rw [Span.fits_shift h, (hE.searched hfound).fits (beq_iff_eq.1 hstart)]

end IsExpression

end Pattern

end

/-! ### Matches -/

namespace Reader.Between

variable {r : Reader} {u v : Text} {p : Pattern}

/-- A pattern whose spans move on with the offset matches what it matches at the start of the text
that is left. -/
theorem matched?_eq_first? (h : r.Between u v)
    (hfind : p.findAt r.text r.index = (p.findAt v 0).map (·.shift r.index)) :
    r.matched? p = p.first? v := by
  rw [matched?, hfind, Pattern.first?]
  cases p.findAt v 0 with
  | none => rfl
  | some s =>
    simp [Option.filter, Span.fits_shift h.after?_eq, Span.text_shift h.after?_eq, apply_ite]

end Reader.Between

namespace Pattern

variable {r : Reader} {u v : Text} {p : Pattern}

theorem IsExpression.matched?_eq (hp : p.IsExpression E) (h : r.Between u v) :
    r.matched? p = p.first? v :=
  h.matched?_eq_first? (hp.findAt_shift h.after?_eq)

/-- **What looks only ahead matches what it matches at the start of the text that is left**, in a
text that fits into 64 bits. -/
theorem LooksAhead.matched?_eq (hp : p.LooksAhead E) (h : r.Between u v)
    (hsize : Text.byteSize r.text < offsetBound) : r.matched? p = p.first? v := by
  cases hp with
  | expression hp => exact hp.matched?_eq h
  | ofLength accepted =>
    have hfind := findAt_ofLength h.after?_eq accepted
    have hstart := findAt_ofLength v.after?_zero accepted
    cases haccepted : accepted v with
    | none =>
      rw [haccepted] at hfind hstart
      refine h.matched?_eq_first? ?_
      rw [hfind, hstart]
      rfl
    | some n =>
      rw [haccepted] at hfind hstart
      by_cases hn : r.index + n < offsetBound
      · refine h.matched?_eq_first? ?_
        rw [hfind, hstart, Option.bind_some, Option.bind_some, if_pos hn, if_pos (by omega)]
        simp [Span.shift]
      · -- an end that is no offset lies behind the text
        have hlong : ¬ n ≤ Text.byteSize v := by
          intro hle
          rw [h.text_eq, Text.byteSize_append, ← h.index_eq] at hsize
          omega
        rw [Reader.matched?, hfind, first?, hstart, Option.bind_some, Option.bind_some, if_neg hn]
        split
        · simp [Option.filter, Span.fits, hlong]
        · rfl

end Pattern

end TextScan
