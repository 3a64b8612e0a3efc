import TextScan.Lexer.Leading
import TextScan.Text.Lines

/-!
# Lexer — readings

A reading takes a text apart from its start: blanks and a token, again and again, up to the end or
to what no token starts with.  It is told without a lexer, by the text that was read before and the
text that is left.

* `Reads` relates the two texts to the tokens and to the error that ends the reading, if one does.
* `Lexer.result` is what collecting the tokens of a reading comes to.
* `LexError.ShownBy` is what an error says of the text that it stands before.
* `Lexer.joinLines` puts the results of two texts together, the second of which stands on the lines
  below the first.
-/

namespace TextScan

/-! ### Readings -/

/-- After one text another one is read as tokens, each with the position where it starts, up to an
error if there is one.  Each token takes something. -/
inductive Reads (w : Words) : Text → Text → List (Pos × Token) → Option LexError → Prop where
  /-- Only blanks are left. -/
  | nothing {u b : Text} (blanks : b.all Reader.isBlank = true) : Reads w u b [] none
  | token {u b v : Text} {tk : Token} {tokens : List (Pos × Token)} {stop : Option LexError}
      (blanks : b.all Reader.isBlank = true) (bare : Leading.Bare (tk.raw ++ v))
      (found : Leading.token? w (tk.raw ++ v) = some tk) (takes : tk.raw ≠ [])
      (more : Reads w (u ++ (b ++ tk.raw)) v tokens stop) :
      Reads w u (b ++ (tk.raw ++ v)) ((Text.endPos (u ++ b), tk) :: tokens) stop
  | error {u b v : Text} {e : LexError} (blanks : b.all Reader.isBlank = true)
      (bare : Leading.Bare v) (shown : (Lead.of w v).answer (Text.endPos (u ++ b)) = .error e) :
      Reads w u (b ++ v) [] (some e)

/-- The tokens, or the error that stands in the way of collecting them. -/
def Lexer.result (tokens : List (Pos × Token)) :
    Option LexError → Except LexError (List (Pos × Token))
  | none => .ok tokens
  | some e => .error e

/-! ### Errors -/

namespace LexError

/-- The position that an error is about. -/
def place : LexError → Pos
  | unclosedString start => start
  | unexpectedSymbol place _ => place

/-- What the message says after the position. -/
def complaint : LexError → String
  | unclosedString _ => ": string literal is not closed properly"
  | unexpectedSymbol _ c => ": unexpected symbol '" ++ String.singleton c ++ "'"

theorem message_eq (e : LexError) : e.message = toString e.place ++ e.complaint := by
  cases e with
  | unclosedString start => rfl
  | unexpectedSymbol place c =>
    have hassoc : ∀ s t u v : String, s ++ t ++ u ++ v = s ++ (t ++ u ++ v) := fun s t u v => by
      simp only [String.append_assoc]
    exact hassoc _ _ _ _

/-- The text starts with what an error says: the symbol, or a quote and what can be in a string, up
to the end of the line. -/
def ShownBy : LexError → Text → Prop
  | unclosedString _, t =>
    ∃ content rest, t = '"' :: (content ++ rest) ∧ content.all Lexer.isStringChar = true ∧
      ∀ c, rest.head? = some c → c = '\n'
  | unexpectedSymbol _ c, t => t.head? = some c

end LexError

/-! ### Lines below -/

namespace LexError

/-- The same error a number of lines further down. -/
def below (e : LexError) (n : Nat) : LexError :=
  match e with
  | unclosedString start => unclosedString (start.below n)
  | unexpectedSymbol place c => unexpectedSymbol (place.below n) c

/-- The message says the same of a position with another line. -/
theorem message_below (e : LexError) (n : Nat) :
    (e.below n).message = toString (e.place.below n) ++ e.complaint := by
  rw [message_eq]
  cases e <;> rfl

end LexError

/-- The results of a text and of another one that stands below it, put together: the tokens of both
with the newline between them, or the first error. -/
def Lexer.joinLines (above : Text) :
    Except LexError (List (Pos × Token)) → Except LexError (List (Pos × Token)) →
      Except LexError (List (Pos × Token))
  | .error e, _ => .error e
  | .ok _, .error e => .error (e.below (Text.newlines above + 1))
  | .ok tokens, .ok more =>
    .ok (tokens ++ (Text.endPos above, .newline) ::
      more.map fun s => (s.1.below (Text.newlines above + 1), s.2))

end TextScan
