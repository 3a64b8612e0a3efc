import TextScan.Span

/-!
# Pattern — what can be matched at an offset

A pattern is asked about a text and a byte offset, and answers a span or nothing.  Nothing is asked
of the span here: whoever uses it checks it (`Span.fits`).

* `Pattern.ofLength` makes a pattern of a function that accepts a number of leading bytes of the
  text that is left.
* `Pattern.fixed` and `Pattern.relative` answer one span, whatever the text.
* `Pattern.first?` is what a pattern matches at the start of a text.
-/

namespace TextScan

/-- Something that answers, for a text and an offset, the span that it matches there. -/
structure Pattern where
  findAt : Text → Nat → Option Span

namespace Pattern

/-- Offsets are below this bound: they are held in 64 bits. -/
def offsetBound : Nat := UInt64.size

/-- The pattern that matches as many bytes as a function accepts of the text that is left.  It
matches nothing at an offset that is no boundary, and where the end would not be an offset. -/
def ofLength (accepted : Text → Option Nat) : Pattern where
  findAt t offset := do
    let rest ← Text.after? t offset
    let size ← accepted rest
    if offset + size < offsetBound then some ⟨offset, offset + size⟩ else none

/-- The pattern that answers one span everywhere. -/
def fixed (s : Span) : Pattern where
  findAt _ _ := some s

/-- The pattern that answers one span, counted from the offset it is asked at. -/
def relative (s : Span) : Pattern where
  findAt _ offset := some ⟨offset + s.start, offset + s.stop⟩

/-- What a pattern matches at the start of a text: the text of its span, if the span fits there. -/
def first? (p : Pattern) (t : Text) : Option Text :=
  ((p.findAt t 0).filter (·.fits t 0)).map (·.text t)

end Pattern

end TextScan
