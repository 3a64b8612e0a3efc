import TextScan.Lexer.Token
import TextScan.Reader
import TextScan.Regex

/-!
# Lexer — from text to tokens

A lexer reads a text token by token and gives each the position of its first character.  Blanks
between tokens mean nothing; newlines are tokens.

* `Lexer.next` reads one token, and can be asked again after the end and after an error.
* `Lexer.collect` reads all tokens, or fails with the first error.

The expressions of identifiers and numbers are compiled and tried by an engine.
-/

namespace TextScan

/-- What is wrong with a text. -/
inductive LexError where
  /-- The string that starts here does not end on its line. -/
  | unclosedString (start : Pos)
  /-- No token starts with this character. -/
  | unexpectedSymbol (place : Pos) (c : Char)
  deriving DecidableEq, Repr

/-- The message of an error starts with its position. -/
def LexError.message : LexError → String
  | unclosedString start => toString start ++ ": string literal is not closed properly"
  | unexpectedSymbol place c =>
    toString place ++ ": unexpected symbol '" ++ String.singleton c ++ "'"

/-- A reader over the text, and the expressions of identifiers and numbers. -/
structure Lexer (E : Regex.Engine) where
  reader : Reader
  ident : Regex.Anchored E
  number : Regex.Anchored E

namespace Lexer

variable {E : Regex.Engine}

/-- Identifiers are letters, digits and underscores of ASCII, and do not start with a digit. -/
def identPattern : Text :=
  "[A-Za-z_][A-Za-z0-9_]*".toList

/-- Numbers are digits of ASCII, with a point between digits at most once. -/
def numberPattern : Text :=
  "[0-9]+(\\.[0-9]+)?".toList

/-- A lexer at the start of a text. -/
def ofText (E : Regex.Engine) (t : Text) : Except (Regex.InvalidPattern E) (Lexer E) := do
  let ident ← Regex.Anchored.ofText E identPattern
  let number ← Regex.Anchored.ofText E numberPattern
  pure ⟨Reader.start t, ident, number⟩

/-! ### The kinds of tokens -/

/-- A newline. -/
def newline? (r : Reader) : Option (Token × Reader) :=
  let o := r.matchChar '\n'
  if o.answer then some (.newline, o.reader) else none

/-- A comment, which runs to the end of its line. -/
def comment? (r : Reader) : Option (Token × Reader) :=
  let o := r.matchChar '#'
  if o.answer then
    let r' := (o.reader.consumeAll (· != '\n')).reader
    some (.comment (r'.consumedSince o.reader.index), r')
  else
    none

/-- The first operator that is next. -/
def operator? (r : Reader) : Option (Token × Reader) :=
  Operator.all.findSome? fun op =>
    let o := r.matchText op.text
    if o.answer then some (.op op, o.reader) else none

/-- What an expression matches next, as a token. -/
def matched? (a : Regex.Anchored E) (token : Text → Token) (r : Reader) :
    Option (Token × Reader) :=
  let o := r.matchPattern a.pattern
  o.answer.map fun t => (token t, o.reader)

/-- A token that is no string: the first kind that is next. -/
def plainToken? (x : Lexer E) (r : Reader) : Option (Token × Reader) :=
  newline? r <|> comment? r <|> operator? r <|> matched? x.ident .ident r
    <|> matched? x.number .number r

/-- What is inside a string: all up to a quote or the end of the line. -/
def isStringChar (c : Char) : Bool :=
  c != '"' && c != '\n'

/-- The rest of a string, after its opening quote.  A string that is not closed leaves the reader
where its content ended. -/
def closeString (start : Pos) (r : Reader) : Except LexError Token × Reader :=
  let r' := (r.consumeAll isStringChar).reader
  let o := r'.matchChar '"'
  if o.answer then (.ok (.str (r'.consumedSince r.index)), o.reader)
  else (.error (.unclosedString start), o.reader)

/-- A token at a reader that stands on no blank; none at the end of the text.  An unexpected symbol
is not consumed. -/
def tokenAt (x : Lexer E) (r : Reader) : Except LexError (Option Token) × Reader :=
  match x.plainToken? r with
  | some (token, r') => (.ok (some token), r')
  | none =>
    let o := r.matchChar '"'
    if o.answer then
      let (result, r') := closeString r.pos o.reader
      (result.map some, r')
    else
      match r.peek with
      | some c => (.error (.unexpectedSymbol r.pos c), r)
      | none => (.ok none, r)

/-! ### Reading tokens -/

/-- The next token with its position; none at the end of the text. -/
def next (x : Lexer E) : Except LexError (Option (Pos × Token)) × Lexer E :=
  let r := x.reader.consumeBlanks.reader
  if r.eof then (.ok none, { x with reader := r })
  else
    let (result, r') := x.tokenAt r
    (result.map fun token => token.map (r.pos, ·), { x with reader := r' })

/-- The answers of a number of calls, each with the lexer that it leaves. -/
def calls (x : Lexer E) : Nat → List (Except LexError (Option (Pos × Token)) × Lexer E)
  | 0 => []
  | n + 1 => x.next :: x.next.2.calls n

/-- The tokens up to the end of the text, or the first error, if a number of calls comes to one of
them. -/
def collectUpTo (x : Lexer E) : Nat → Option (Except LexError (List (Pos × Token)))
  | 0 => none
  | n + 1 =>
    match x.next with
    | (.error e, _) => some (.error e)
    | (.ok none, _) => some (.ok [])
    | (.ok (some token), x') => (x'.collectUpTo n).map (·.map (token :: ·))

/-- All tokens that are left, or the first error; nothing if the calls go on for ever.  A call that
takes nothing is repeated by those after it, so as many calls as characters are left and one more
come to an end, or no number of them does. -/
def collect (x : Lexer E) : Option (Except LexError (List (Pos × Token))) :=
  x.collectUpTo (x.reader.rest.length + 1)

end Lexer

end TextScan
