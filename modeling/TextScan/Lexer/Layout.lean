import Mathlib.Data.List.Chain
import TextScan.Lexer.Leading
import TextScan.Text.Lines

/-!
# Lexer — tokens laid out as a text

A list of tokens is written as a text by putting blanks before each of them and after the last.
Most tokens may stand side by side; some need blanks between them, and a comment ends only with its
line.

* `Layout.text` is the text, and `Layout.tokens` are the tokens with the positions that they have
  in it.
* `Layout.IsSpaced` says that only blanks stand between the tokens, and `Layout.WellFormed` which
  layouts can be read back.
* `Token.merges` are the pairs that need blanks between them.
-/

namespace TextScan

/-! ### Neighbours -/

/-- Without blanks between them, two such tokens are read as others. -/
def Token.merges : Token → Token → Bool
  | ident _, ident _ => true
  | ident _, number _ => true
  | number _, number _ => true
  | op .assign, op .assign => true
  | op .assign, op .equal => true
  | _, _ => false

/-- A comment. -/
def Token.isComment : Token → Bool
  | comment _ => true
  | _ => false

/-- Tokens that do not go on with a character. -/
def Token.stopsAt : Token → Char → Bool
  | ident _, c => !isIdentChar c
  | number _, c => !isDigit c && c != '.'
  | op .assign, c => c != '='
  | comment _, c => c == '\n'
  | _, _ => true

/-- Tokens that are longer tokens with a character more. -/
def Token.goesOn : Token → Char → Bool
  | ident _, c => isIdentChar c
  | number _, c => isDigit c
  | op .assign, c => c == '='
  | comment _, c => c != '\n'
  | _, _ => false

/-- A token ends where a text starts: at its first character, or with it if it is empty. -/
def Token.EndsAt (token : Token) (rest : Text) : Prop :=
  ∀ c, rest.head? = some c → token.stopsAt c = true

/-! ### Layouts -/

/-- A token and the blanks before it. -/
structure Spaced where
  blanks : Text
  token : Token
  deriving DecidableEq, Repr

/-- The blanks and the token as they are written. -/
def Spaced.text (s : Spaced) : Text :=
  s.blanks ++ s.token.raw

/-- Tokens with the blanks before each, and the blanks after the last. -/
structure Layout where
  items : List Spaced
  last : Text

namespace Layout

/-- The text of a layout. -/
def text (l : Layout) : Text :=
  l.items.flatMap Spaced.text ++ l.last

/-- The tokens that are written after a text, each with the position where the text before it
ends. -/
def tokensAfter (before : Text) : List Spaced → List (Pos × Token)
  | [] => []
  | s :: items =>
    (Text.endPos (before ++ s.blanks), s.token) :: tokensAfter (before ++ s.text) items

/-- The tokens of a layout, each with the position of its first character. -/
def tokens (l : Layout) : List (Pos × Token) :=
  tokensAfter [] l.items

/-- Only blanks stand between tokens. -/
structure IsSpaced (l : Layout) : Prop where
  /-- Only blanks stand before tokens. -/
  blanks : ∀ s ∈ l.items, s.blanks.all Reader.isBlank = true
  /-- Only blanks stand after the last token. -/
  last : l.last.all Reader.isBlank = true

/-- Layouts that can be read back. -/
structure WellFormed (l : Layout) : Prop extends l.IsSpaced where
  /-- Each token is a text of its kind. -/
  kinds : ∀ s ∈ l.items, s.token.isWellFormed = true
  /-- Tokens that merge do not touch. -/
  apart : l.items.IsChain fun s t => s.token.merges t.token = true → t.blanks ≠ []
  /-- A comment touches the newline that ends it. -/
  lines : l.items.IsChain fun s t => s.token.isComment = true → t.token = .newline ∧ t.blanks = []
  /-- After a comment that is last there are no blanks, which would belong to it. -/
  closed : ∀ s ∈ l.items.getLast?, s.token.isComment = true → l.last = []

end Layout

end TextScan
