import TextScan.Run
import TextScan.Text.Lines

/-!
# Run — pieces

A run eats its text piece by piece: each step takes the text between the index before it and the
index after it.

* `Reader.pieces` are the pieces of a run, each with whether its newlines count.
* `Op.Tells` says what an answer tells of the piece that its step took, and `Reader.TakesEach` which
  texts the steps of a run take.
* `Piece.lines` and `Piece.lastLine` are the counted newlines of pieces, and the text after the last
  of them.
-/

namespace TextScan

/-! ### Answers -/

/-- An answer that says that nothing was found. -/
def Answer.isFailure : Answer → Bool
  | char c => c.isNone
  | count n => n == 0
  | text t => t.isNone
  | flag b => !b

/-- What an answer tells of the text that was consumed: the character or the text itself, the number
of its characters, or whether it is what was asked for.  A failure tells that it is empty. -/
def Op.Tells : Op → Answer → Text → Prop
  | read, .char c, m => m = c.toList
  | consumeWhile _, .count n, m => n = m.length
  | consume _, .count n, m => n = m.length
  | consumeBlanks, .count n, m => n = m.length
  | matchAny, .text t, m => m = t.getD []
  | matchText literal, .flag b, m => m = if b then literal else []
  | matchChar expected, .flag b, m => m = if b then [expected] else []
  | matchPattern _, .text t, m => m = t.getD []
  | _, _, _ => False

/-- The operations of a run take texts off what is left, one each, and their answers tell them. -/
inductive Reader.TakesEach : Reader → List Op → List Text → Prop where
  | nil (r : Reader) : TakesEach r [] []
  | cons {r : Reader} {op : Op} {ops : List Op} {m : Text} {ms : List Text}
      (hrest : r.rest = m ++ (op.step r).reader.rest) (htells : op.Tells (op.step r).answer m)
      (hnext : TakesEach (op.step r).reader ops ms) : TakesEach r (op :: ops) (m :: ms)

/-! ### Pieces -/

/-- A text that one step took. -/
structure Piece where
  text : Text
  /-- The newlines in it count. -/
  tracked : Bool
  deriving DecidableEq, Repr

/-- Newlines count in what an operation consumes.  The options decide it for patterns alone. -/
def Op.tracks (o : Options) : Op → Bool
  | matchPattern _ => o.patternLines == .tracked
  | _ => true

/-- The pieces of a run, one for each operation. -/
def Reader.pieces (r : Reader) : List Op → List Piece
  | [] => []
  | op :: ops =>
    let r' := (op.step r).reader
    ⟨r'.consumedSince r.index, op.tracks r.options⟩ :: r'.pieces ops

namespace Piece

/-- The characters of a piece, each with whether it would count as a newline. -/
def marked (p : Piece) : List (Char × Bool) :=
  p.text.map (·, p.tracked)

/-- The text of several pieces. -/
def join (ps : List Piece) : Text :=
  ps.flatMap text

/-- The number of newlines in the tracked pieces. -/
def lines (ps : List Piece) : Nat :=
  Text.newlines (join (ps.filter tracked))

/-- The text after the last newline of a tracked piece; all of it if there is none. -/
def lastLine (ps : List Piece) : Text :=
  (afterLast (fun c => c.2 && c.1 == '\n') (ps.flatMap marked)).map Prod.fst

end Piece

/-! ### Selections -/

/-- The elements of a list that are marked. -/
def kept {α : Type} (marks : List Bool) (xs : List α) : List α :=
  ((xs.zip marks).filter Prod.snd).map Prod.fst

end TextScan
