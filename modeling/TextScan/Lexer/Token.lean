import TextScan.Text

/-!
# Lexer — tokens

The tokens of the small language that the lexer reads, and the text that each of them is written as
(`Token.raw`).
-/

namespace TextScan

/-- The operators. -/
inductive Operator where
  | equal
  | notEqual
  | assign
  | plus
  | openParen
  | closeParen
  deriving DecidableEq, Repr

namespace Operator

/-- The operators in the order in which they are tried: a longer one comes before its beginning. -/
def all : List Operator :=
  [equal, notEqual, assign, plus, openParen, closeParen]

/-- The characters of an operator. -/
def text : Operator → Text
  | equal => ['=', '=']
  | notEqual => ['!', '=']
  | assign => ['=']
  | plus => ['+']
  | openParen => ['(']
  | closeParen => [')']

end Operator

/-- A token. -/
inductive Token where
  | ident (name : Text)
  | number (digits : Text)
  /-- A string, without its quotes. -/
  | str (content : Text)
  | op (o : Operator)
  /-- A comment, without the sign that starts it. -/
  | comment (content : Text)
  | newline
  deriving DecidableEq, Repr

namespace Token

/-- The source form of a token. -/
def raw : Token → Text
  | ident name => name
  | number digits => digits
  | str content => '"' :: (content ++ ['"'])
  | op o => o.text
  | comment content => '#' :: content
  | newline => ['\n']

end Token

end TextScan
