import TextScan.Lexer
import TextScan.Lexer.Grammar

/-!
# Lexer — longest match

What a lexer should answer, told by the token languages alone: a text is read as the longest first
part of it that is the form of a token, whatever order the kinds are tried in.

* `Token.Starts` says that a text starts with the form of a token, and `Token.IsLongest` that no
  other token has a longer form there.
* `Munch` is the answer that follows, with its message if it is an error, and the part of the text
  that is consumed.
* `Lexer.after` is a lexer after a number of calls.
-/

namespace TextScan

/-- A text starts with the form of a token. -/
structure Token.Starts (tk : Token) (t : Text) : Prop where
  wellFormed : tk.isWellFormed = true
  found : tk.raw <+: t

/-- A text starts with the form of a token, and with no longer form of another one. -/
structure Token.IsLongest (tk : Token) (t : Text) : Prop extends tk.Starts t where
  longest : ∀ tk' : Token, tk'.Starts t → tk'.raw.length ≤ tk.raw.length

/-- The answer to a text that starts with no blank and stands at a position, and the part of the
text that is consumed. -/
inductive Munch (place : Pos) : Text → Except String (Option (Pos × Token)) → Text → Prop where
  | nothing : Munch place [] (.ok none) []
  /-- The longest form is read, which is the form of one token only. -/
  | token {t : Text} {tk : Token} (longest : tk.IsLongest t)
      (unique : ∀ tk' : Token, tk'.isWellFormed = true → tk'.raw = tk.raw → tk' = tk) :
      Munch place t (.ok (some (place, tk))) tk.raw
  /-- What follows a quote is consumed up to the end of the line. -/
  | unclosed {t : Text} (fails : ∀ tk : Token, ¬ tk.Starts ('"' :: t)) :
      Munch place ('"' :: t) (.error (toString place ++ ": string literal is not closed properly"))
        ('"' :: t.takeWhile (· != '\n'))
  /-- Another character is not consumed. -/
  | unexpected {c : Char} {t : Text} (fails : ∀ tk : Token, ¬ tk.Starts (c :: t))
      (other : c ≠ '"') :
      Munch place (c :: t)
        (.error (toString place ++ ": unexpected symbol '" ++ String.singleton c ++ "'")) []

namespace Lexer

/-- The lexer that a number of calls leave. -/
def after {E : Regex.Engine} (x : Lexer E) : Nat → Lexer E
  | 0 => x
  | n + 1 => x.next.2.after n

end Lexer

end TextScan
