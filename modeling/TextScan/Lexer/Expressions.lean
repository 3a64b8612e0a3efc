import TextScan.Lexer
import TextScan.Lexer.Leading
import TextScan.Regex.Preference

/-!
# Lexer — what its expressions mean

The texts of the two expressions, read: characters of a kind, one after another, as many of them as
there are.  A lexer is as good as its engine, which has to read them as this.

* `Lexer.identExpr` and `Lexer.numberExpr` are the two expressions.
* `Lexer.Supported`: an engine reads their texts as these expressions.
-/

namespace TextScan.Lexer

open Regex (Engine Re)

/-- A letter or an underscore, and then letters, digits and underscores. -/
def identExpr : Re :=
  .seq (.char isIdentStart) (.star (.char isIdentChar))

/-- Digits, and perhaps a point and digits. -/
def numberExpr : Re :=
  .seq (.plus (.char isDigit)) (.opt (.seq (.char (· == '.')) (.plus (.char isDigit))))

/-- **An engine supports the lexer**: it reads its two expressions as they are meant. -/
structure Supported (E : Engine) : Prop where
  ident : E.Reads identPattern identExpr
  number : E.Reads numberPattern numberExpr

end TextScan.Lexer
