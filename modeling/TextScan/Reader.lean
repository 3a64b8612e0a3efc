import TextScan.CharSet
import TextScan.Cursor
import TextScan.Event
import TextScan.Options
import TextScan.Pattern

/-!
# Reader — a cursor that moves over a text

A reader walks over a text once, forward, and keeps the line and the column of where it stands.
Each operation either consumes text and moves, or fails and leaves the reader where it was.

* The questions: `Reader.peek`, `Reader.rest`, `Reader.eof`, `Reader.consumedSince`.
* The operations answer an `Outcome`: what was found, the reader afterwards, and what there is to
  report.  They are `read`, `consumeWhile`, `consume`, `consumeBlanks`, `matchAny`, `matchText`,
  `matchChar` and `matchPattern`.
-/

namespace TextScan

/-- A text with a cursor in it, and the settings for moving it. -/
structure Reader where
  text : Text
  cursor : Cursor := {}
  options : Options := {}
  deriving DecidableEq, Repr

/-- What an operation of a reader comes to: its answer, the reader after it, and what it reports. -/
structure Outcome (α : Type) where
  answer : α
  reader : Reader
  event : Option Event := none

/-- The same outcome with another form of answer. -/
def Outcome.map {α β : Type} (f : α → β) (o : Outcome α) : Outcome β :=
  ⟨f o.answer, o.reader, o.event⟩

/-- A moment of a reader's run, kept to come back to: the index and the position at that time. -/
structure Mark where
  index : Nat
  pos : Pos
  deriving DecidableEq, Repr

namespace Reader

/-- A reader at the start of a text. -/
def start (t : Text) (o : Options := {}) : Reader :=
  ⟨t, {}, o⟩

/-! ### Where the reader stands -/

/-- The byte offset of the cursor. -/
def index (r : Reader) : Nat :=
  r.cursor.index

/-- The line of the cursor, counted from zero. -/
def line (r : Reader) : Nat :=
  r.cursor.line

/-- The byte column of the cursor, counted from zero. -/
def column (r : Reader) : Nat :=
  r.cursor.column

instance : Location Reader := ⟨line, column⟩

/-- The position of the cursor. -/
def pos (r : Reader) : Pos :=
  Pos.of r

/-- The bytes of the whole text. -/
def size (r : Reader) : Nat :=
  Text.byteSize r.text

/-- The whole text is empty, wherever the cursor stands. -/
def isEmpty (r : Reader) : Bool :=
  r.text.isEmpty

/-- The text after the cursor. -/
def rest (r : Reader) : Text :=
  (Text.after? r.text r.index).getD []

/-- The next character, left where it is. -/
def peek (r : Reader) : Option Char :=
  r.rest.head?

/-- Nothing is left. -/
def eof (r : Reader) : Bool :=
  r.index == r.size

/-- The text between an earlier offset and the cursor; empty where the offset lies after the cursor
or inside a character. -/
def consumedSince (r : Reader) (start : Nat) : Text :=
  (Text.slice? r.text start r.index).getD []

/-- The present moment. -/
def mark (r : Reader) : Mark :=
  ⟨r.index, r.pos⟩

/-! ### Moving -/

/-- The reader after a text that lies before it, character by character. -/
def advance (r : Reader) (t : Text) : Reader :=
  { r with cursor := r.cursor.advance t }

/-- The reader after the match of a pattern: the options say what newlines in it do. -/
def advanceMatch (r : Reader) (t : Text) : Reader :=
  match r.options.patternLines with
  | .tracked => r.advance t
  | .columnOnly => { r with cursor := r.cursor.advanceColumns t }

/-- Consumes the next character, if there is one. -/
def read (r : Reader) : Outcome (Option Char) :=
  match r.peek with
  | some c => ⟨some c, r.advance [c], none⟩
  | none => ⟨none, r, none⟩

/-- The leading characters of a text that a test with a state of its own accepts, and the state
after the last test.  The first character refused is tested too, and none after it. -/
def acceptedBy {σ : Type} (test : Char → StateM σ Bool) : Text → σ → Text × σ
  | [], s => ([], s)
  | c :: t, s =>
    match test c s with
    | (true, s') => let (accepted, s'') := acceptedBy test t s'; (c :: accepted, s'')
    | (false, s') => ([], s')

/-- Consumes characters as long as a test accepts them.  The answer is their number and the state
that the test is left in. -/
def consumeWhile {σ : Type} (r : Reader) (test : Char → StateM σ Bool) (s : σ) :
    Outcome (Nat × σ) :=
  let (accepted, s') := acceptedBy test r.rest s
  ⟨(accepted.length, s'), r.advance accepted, none⟩

/-- Consumes characters as long as they have a property, and answers their number. -/
def consumeAll (r : Reader) (p : Char → Bool) : Outcome Nat :=
  (r.consumeWhile (fun c => pure (p c)) ()).map Prod.fst

/-- Consumes characters as long as they are in a set, and answers their number. -/
def consume {σ : Type} [CharSet σ] (r : Reader) (set : σ) : Outcome Nat :=
  r.consumeAll (CharSet.holds set)

/-- Blanks are the space and the tab; a newline is none. -/
def isBlank (c : Char) : Bool :=
  c == ' ' || c == '\t'

/-- Consumes blanks, and answers their number. -/
def consumeBlanks (r : Reader) : Outcome Nat :=
  r.consumeAll isBlank

/-- Consumes all that is left, if anything is. -/
def matchAny (r : Reader) : Outcome (Option Text) :=
  if r.rest.isEmpty then ⟨none, r, none⟩ else ⟨some r.rest, r.advance r.rest, none⟩

/-- Consumes a literal, if the text at the cursor starts with it. -/
def matchText (r : Reader) (literal : Text) : Outcome Bool :=
  if literal.isPrefixOf r.rest then
    let r' := r.advance literal
    ⟨true, r', some (.literalMatched literal r'.pos)⟩
  else
    ⟨false, r, none⟩

/-- Consumes one given character, if it is next. -/
def matchChar (r : Reader) (expected : Char) : Outcome Bool :=
  if r.peek = some expected then ⟨true, r.advance [expected], none⟩ else ⟨false, r, none⟩

/-- Consumes what a pattern matches at the cursor.  A span that does not fit there is no match, and
is reported. -/
def matchPattern (r : Reader) (p : Pattern) : Outcome (Option Text) :=
  match p.findAt r.text r.index with
  | none => ⟨none, r, none⟩
  | some span =>
    if span.fits r.text r.index then
      let matched := span.text r.text
      let r' := r.advanceMatch matched
      ⟨some matched, r', some (.patternMatched r.index (Text.byteSize matched) r'.pos)⟩
    else
      ⟨none, r, some (.invalidSpan r.index span)⟩

end Reader

end TextScan
