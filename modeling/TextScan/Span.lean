import TextScan.Text

/-!
# Span — what a pattern answers

A span is a pair of byte offsets.  A pattern may answer any pair; `Span.fits` says which pairs are a
match at an offset of a text: the span starts there, ends no earlier than it starts and no later
than the text, and its end splits no character.

* `Span.text` is the part of a text that a span covers.
* `Span.shift` moves a span on.
-/

namespace TextScan

/-- A pair of byte offsets, in no particular order. -/
structure Span where
  start : Nat
  stop : Nat
  deriving DecidableEq, Repr

namespace Span

/-- A span is a match at an offset of a text. -/
def fits (s : Span) (t : Text) (offset : Nat) : Bool :=
  s.start == offset && decide (s.start ≤ s.stop) && decide (s.stop ≤ Text.byteSize t)
    && Text.isBoundary t s.stop

/-- The part of a text that a span covers, empty where the span covers none. -/
def text (s : Span) (t : Text) : Text :=
  (Text.slice? t s.start s.stop).getD []

/-- The span that starts and ends an offset further on. -/
def shift (s : Span) (offset : Nat) : Span :=
  ⟨offset + s.start, offset + s.stop⟩

end Span

end TextScan
