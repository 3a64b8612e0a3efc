import TextScan.Position
import TextScan.Span

/-!
# Event — what a reader reports

Matching a literal or a pattern reports what happened.  A match carries the position after it; a
span that does not fit is reported as the pattern answered it.
-/

namespace TextScan

/-- Something that a reader reports while it works. -/
inductive Event where
  /-- A pattern matched `size` bytes from `offset` on, and the reader went to `after`. -/
  | patternMatched (offset size : Nat) (after : Pos)
  /-- A literal matched, and the reader went to `after`. -/
  | literalMatched (literal : Text) (after : Pos)
  /-- At `offset` a pattern answered a span that does not fit there. -/
  | invalidSpan (offset : Nat) (span : Span)
  deriving DecidableEq, Repr

/-- How much an event matters. -/
inductive Event.Level where
  | trace
  | warn
  deriving DecidableEq, Repr

namespace Event

/-- Matches are traced; a span that does not fit is worth a warning. -/
def level : Event → Level
  | patternMatched .. => .trace
  | literalMatched .. => .trace
  | invalidSpan .. => .warn

/-- The name of a level. -/
def Level.describe : Level → String
  | .trace => "TRACE"
  | .warn => "WARN"

/-- The message of an event, without its data. -/
def message : Event → String
  | patternMatched .. => "pattern matched"
  | literalMatched .. => "literal matched"
  | invalidSpan .. => "pattern returned an invalid span, treating it as no match"

end Event

end TextScan
