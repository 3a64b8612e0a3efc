import TextScan.Reader

/-!
# Run — sequences of operations

The operations of a reader as data, so that whole runs can be spoken of: `Op.step` does one of them
and `Reader.run` does a list of them in order.
-/

namespace TextScan

/-- An operation that may move a reader. -/
inductive Op where
  | read
  /-- Consumes while a test accepts.  The test sees the characters that it has accepted so far, the
  last one first, and the next character. -/
  | consumeWhile (test : Text → Char → Bool)
  /-- Consumes the characters of a set. -/
  | consume (set : Char → Bool)
  | consumeBlanks
  | matchAny
  | matchText (literal : Text)
  | matchChar (expected : Char)
  | matchPattern (p : Pattern)

/-- What an operation answers. -/
inductive Answer where
  | char (c : Option Char)
  | count (n : Nat)
  | text (t : Option Text)
  | flag (b : Bool)
  deriving DecidableEq, Repr

/-- A test that remembers what it has accepted, as a test with a state. -/
def Op.remembering (test : Text → Char → Bool) (c : Char) : StateM Text Bool := fun seen =>
  if test seen c then (true, c :: seen) else (false, seen)

/-- Does one operation. -/
def Op.step (r : Reader) : Op → Outcome Answer
  | read => r.read.map .char
  | consumeWhile test => (r.consumeWhile (remembering test) []).map fun a => .count a.1
  | consume set => (r.consumeAll set).map .count
  | consumeBlanks => r.consumeBlanks.map .count
  | matchAny => r.matchAny.map .text
  | matchText literal => (r.matchText literal).map .flag
  | matchChar expected => (r.matchChar expected).map .flag
  | matchPattern p => (r.matchPattern p).map .text

/-- The outcomes of a list of operations, each done by the reader that the one before it left. -/
def Reader.run (r : Reader) : List Op → List (Outcome Answer)
  | [] => []
  | op :: ops => let o := op.step r; o :: o.reader.run ops

/-- The reader that a list of operations leaves. -/
def Reader.after (r : Reader) (ops : List Op) : Reader :=
  ops.foldl (fun r op => (op.step r).reader) r

end TextScan
