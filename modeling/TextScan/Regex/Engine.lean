import TextScan.Span

/-!
# Regex — engines

Expressions are compiled and looked for by an engine.  It compiles a text in two ways: to a matcher,
which is tried at the start of a text alone, and to a searcher, which looks for the first match in a
text.  All else takes the engine as it is given, and asks it nothing but these questions; what it
can be trusted with is said here, and assumed by name where it is needed.

* `Engine.InBounds`: what is found lies in the text that was searched.
* `Engine.NeverEmpty`: an expression matches something or fails.
* `Engine.LeftmostFirst`: both ways accept the same expressions, and find the first match, and of
  several matches at one place the one that the expression prefers.
-/

namespace TextScan

/-- A span selects a part of a text. -/
structure Span.LiesIn (s : Span) (t : Text) : Prop where
  ordered : s.start ≤ s.stop
  within : s.stop ≤ Text.byteSize t
  start_boundary : Text.isBoundary t s.start = true
  stop_boundary : Text.isBoundary t s.stop = true

namespace Regex

/-- What compiles expressions and looks for them.  Spans are counted in bytes from the start of the
text that is searched. -/
structure Engine where
  /-- Why a text is refused. -/
  Fault : Type
  /-- What a fault is said to be. -/
  describe : Fault → String
  /-- The text is no expression. -/
  isSyntaxFault : Fault → Bool
  /-- The expression is larger than the engine allows. -/
  isSizeFault : Fault → Bool
  /-- The expressions that are tried at the start of a text. -/
  Matcher : Type
  /-- Compiles an expression that is tried at the start of a text. -/
  matcher : Text → Except Fault Matcher
  /-- The match at the start of a text. -/
  tryAt : Matcher → Text → Option Span
  /-- The expressions that are looked for. -/
  Searcher : Type
  /-- Compiles an expression that is looked for. -/
  searcher : Text → Option Searcher
  /-- The first match in a text. -/
  search : Searcher → Text → Option Span

namespace Engine

/-- **Matches lie in the text**, and those that are tried at its start begin there. -/
structure InBounds (E : Engine) : Prop where
  tried : ∀ {m : E.Matcher} {t : Text} {s : Span}, E.tryAt m t = some s → s.LiesIn t ∧ s.start = 0
  searched : ∀ {m : E.Searcher} {t : Text} {s : Span}, E.search m t = some s → s.LiesIn t

/-- **An expression is never matched by nothing** at the start of a text. -/
def NeverEmpty (E : Engine) (p : Text) : Prop :=
  ∀ m, E.matcher p = .ok m → ∀ t s, E.tryAt m t = some s → s.start ≠ s.stop

/-- What expressions are, and where they match. -/
structure Dialect where
  /-- A text is an expression. -/
  IsExpression : Text → Prop
  /-- An expression is no larger than is allowed. -/
  Fits : Text → Prop
  /-- The ends of the matches of an expression that start at an offset of a text, the preferred one
  first. -/
  stops : Text → Text → Nat → List Nat

/-- **An engine is leftmost-first** for a dialect: the same syntax and the same limit hold for both
ways to compile an expression, a match at the start of a text is the preferred one there, and a
search finds the preferred one of the matches that start first. -/
structure LeftmostFirst (E : Engine) (d : Dialect) : Prop where
  matcher_iff : ∀ p, (∃ m, E.matcher p = .ok m) ↔ d.IsExpression p ∧ d.Fits p
  searcher_iff : ∀ p, (∃ m, E.searcher p = some m) ↔ d.IsExpression p ∧ d.Fits p
  tried : ∀ {p m}, E.matcher p = .ok m → ∀ t, E.tryAt m t = (d.stops p t 0).head?.map (⟨0, ·⟩)
  searched : ∀ {p m}, E.searcher p = some m → ∀ t s, E.search m t = some s ↔
    (d.stops p t s.start).head? = some s.stop ∧ ∀ i < s.start, d.stops p t i = []

end Engine

end Regex

end TextScan
