import Mathlib.Algebra.Group.Nat.Defs
import TextScan.Proofs.Pattern
import TextScan.Proofs.Regex.Threads

/-!
# Pattern — the same at every offset

A pattern that looks only ahead takes the text from the offset on for a text of its own: it finds
there what it finds at the start of this text, moved on by the offset.  So a condition on the start
of the text holds at every offset, and on the character before a place at no offset sees what stands
before it.  Where no text starts, past the end or inside a character, nothing is found
(`Pattern.uniform_of_offset`).

* `Span.shift?` moves a span on, as long as its end is an offset.
* `Pattern.findAt_ofLength_shift`: what a function finds moves on with the offset.
* `Pattern.LooksAhead.findAt_congr`: what stands before the offset is not looked at.
-/

namespace TextScan

open Regex (Engine Anchored Searching)

/-- The span an offset further on, unless its end is no offset there. -/
def Span.shift? (s : Span) (offset : Nat) : Option Span :=
  if offset + s.stop < Pattern.offsetBound then some (s.shift offset) else none

namespace Pattern

variable {E : Engine} {t rest : Text} {offset : Nat} {p : Pattern} {s : Span}

/-- **A function of a length finds at an offset what it finds in the text that is left**, moved on
as long as its end is an offset. -/
theorem findAt_ofLength_shift (h : Text.after? t offset = some rest)
    (accepted : Text → Option Nat) :
    (ofLength accepted).findAt t offset =
      ((ofLength accepted).findAt rest 0).bind (·.shift? offset) := by
  rw [findAt_ofLength h, findAt_ofLength rest.after?_zero, Option.bind_assoc]
  refine congrArg (Option.bind _) (funext fun n => ?_)
  rw [Nat.zero_add]
  split
  · next hlt =>
    have hn : n < offsetBound := by omega
    rw [if_pos hn, Option.bind_some, Span.shift?, if_pos hlt]
    rfl
  · next hge =>
    split
    · rw [Option.bind_some, Span.shift?, if_neg hge]
    · rfl

namespace LooksAhead

/-- **What stands before the offset is not looked at.** -/
theorem findAt_congr {t' : Text} (hp : p.LooksAhead E)
    (h : Text.after? t' offset = Text.after? t offset) :
    p.findAt t' offset = p.findAt t offset := by
  cases hp with
  | expression hp => cases hp <;> simp only [Anchored.pattern, Searching.pattern, h]
  | ofLength accepted => simp only [Pattern.ofLength, h]

/-- What is found starts at the offset, if engines find what lies in the text. -/
theorem start_eq (hE : E.InBounds) (hp : p.LooksAhead E) (h : p.findAt t offset = some s) :
    s.start = offset := by
  cases hrest : Text.after? t offset with
  | none =>
    rw [hp.findAt_eq_none hrest] at h
    cases h
  | some rest =>
    cases hp with
    | expression hp =>
      have hfits := hp.fits_of_findAt hE h
      simp only [Span.fits, Bool.and_eq_true, beq_iff_eq] at hfits
      exact hfits.1.1.1
    | ofLength accepted =>
      rw [findAt_ofLength hrest] at h
      obtain ⟨n, -, hn⟩ := Option.bind_eq_some_iff.1 h
      split at hn
      · cases hn
        rfl
      · cases hn

end LooksAhead

/-- **Expressions and functions of a length are uniform in the offset**, if the engine of the
expressions finds what lies in the text that it searches.  Where no text starts they find nothing.
Where one starts, what they find starts there, depends on this text alone, and is what they find at
its start, moved on; the end of what a function accepts has to be an offset.  What an expression
finds ends in the text and splits no character, and so its end is always an offset in a text that
fits into 64 bits. -/
theorem uniform_of_offset (hE : E.InBounds) (t : Text) (offset : Nat) :
    (Text.after? t offset = none → ∀ p : Pattern, p.LooksAhead E → p.findAt t offset = none) ∧
      ∀ rest, Text.after? t offset = some rest →
        (∀ p : Pattern, p.LooksAhead E →
          (∀ s, p.findAt t offset = some s → s.start = offset) ∧
            ∀ t', Text.after? t' offset = some rest → p.findAt t' offset = p.findAt t offset) ∧
        (∀ accepted, (ofLength accepted).findAt t offset =
          ((ofLength accepted).findAt rest 0).bind (·.shift? offset)) ∧
        ∀ p : Pattern, p.IsExpression E →
          p.findAt t offset = (p.findAt rest 0).map (·.shift offset) ∧
            ∀ s, p.findAt t offset = some s →
              s.stop ≤ Text.byteSize t ∧ Text.isBoundary t s.stop = true ∧
                (Text.byteSize t < 2 ^ 64 → s.stop < 2 ^ 64) := by
  refine ⟨fun h p hp => hp.findAt_eq_none h, fun rest h => ⟨fun p hp => ?_, ?_, fun p hp => ?_⟩⟩
  · exact ⟨fun s hs => hp.start_eq hE hs, fun t' h' => hp.findAt_congr (h'.trans h.symm)⟩
  · exact findAt_ofLength_shift h
  · refine ⟨hp.findAt_shift h, fun s hs => ?_⟩
    have hfits := hp.fits_of_findAt hE hs
    simp only [Span.fits, Bool.and_eq_true, decide_eq_true_eq] at hfits
    obtain ⟨⟨-, hstop⟩, hboundary⟩ := hfits
    exact ⟨hstop, hboundary, Nat.lt_of_le_of_lt hstop⟩

/-- At the start of the second line, with other texts of three bytes before it, and inside the first
character: an expression that asks for the start of the text, and a length that goes past the last
offset from the fourth byte on. -/
theorem uniform_of_offset_second_line :
    let program : Regex.Program :=
      #[.look .textStart 1, .read (Regex.CharClass.char 'b') 2, .accept]
    let re : Searching Engine.threads := ⟨['^', 'b'], program, rfl⟩
    let long := ofLength fun _ => some (2 ^ 64 - 1)
    let t : Text := ['é', '\n', 'b']
    (Engine.threads.InBounds ∧ Text.after? t 1 = none ∧ Text.after? t 3 = some ['b'] ∧
        Text.after? ['x', 'y', 'b', 'b'] 3 = some ['b'] ∧ Text.byteSize t < 2 ^ 64) ∧
      re.pattern.findAt t 1 = none ∧
      re.pattern.findAt t 3 = (re.pattern.findAt ['b'] 0).map (·.shift 3) ∧
      re.pattern.findAt t 3 = some ⟨3, 4⟩ ∧
      re.pattern.findAt ['x', 'y', 'b', 'b'] 3 = re.pattern.findAt t 3 ∧
      (⟨3, 4⟩ : Span).start = 3 ∧ (⟨3, 4⟩ : Span).stop < 2 ^ 64 ∧
      long.findAt t 3 = (long.findAt ['b'] 0).bind (·.shift? 3) ∧
      long.findAt ['b'] 0 = some ⟨0, 2 ^ 64 - 1⟩ ∧ long.findAt t 3 = none := by
  intro program re long t
  have hE := Engine.threads_inBounds
  have hfind : re.pattern.findAt t 3 = some ⟨3, 4⟩ := by decide
  obtain ⟨hahead, hlength, hexpression⟩ := (uniform_of_offset hE t 3).2 ['b'] rfl
  obtain ⟨hstart, hcongr⟩ := hahead re.pattern (.expression (.searching re))
  obtain ⟨hshift, hspan⟩ := hexpression re.pattern (.searching re)
  obtain ⟨-, -, hlt⟩ := hspan ⟨3, 4⟩ hfind
  exact ⟨⟨hE, rfl, rfl, rfl, by decide⟩,
    (uniform_of_offset hE t 1).1 rfl re.pattern (.expression (.searching re)), hshift, hfind,
    hcongr ['x', 'y', 'b', 'b'] rfl, hstart ⟨3, 4⟩ hfind, hlt (by decide), hlength _, by decide,
    by decide⟩

end Pattern

end TextScan
