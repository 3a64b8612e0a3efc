import TextScan.Lexer
import TextScan.Lexer.Grammar

/-!
# Lexer — what a text starts with

The token at the start of a text, told by the text alone: its first character says the kind, and
the token goes on as far as the characters of its kind do.  Only what identifiers and numbers are is
left open: the lexer leaves it to its engine.

* `Words` say how identifiers and numbers are found, and `Words.language` as the language has them.
* `Leading.plain?` is the first token of a text, if it is no string.
* `Leading.token?` is the first token of a text that starts with no blank.
* `Lead.of` is all that a lexer can meet there: a token, an error, or the end; `Lead.exists_finds`
  are its cases.
-/

namespace TextScan

/-- Characters that an identifier goes on with. -/
def isIdentChar (c : Char) : Bool :=
  isIdentStart c || isDigit c

/-- How words are found: the first part of a text that is an identifier or a number, if there is
one. -/
@[ext]
structure Words where
  ident : Text → Option Text
  number : Text → Option Text
  ident_prefix : ∀ {t m : Text}, ident t = some m → m <+: t
  number_prefix : ∀ {t m : Text}, number t = some m → m <+: t

/-- No word is empty. -/
structure Words.NeverEmpty (w : Words) : Prop where
  ident : ∀ t, w.ident t ≠ some []
  number : ∀ t, w.number t ≠ some []

namespace Leading

/-- A newline. -/
def newline? (t : Text) : Option Token :=
  if t.head? = some '\n' then some .newline else none

/-- A comment takes the rest of its line. -/
def comment? (t : Text) : Option Token :=
  if t.head? = some '#' then some (.comment (t.tail.takeWhile (· != '\n'))) else none

/-- The first operator that the text starts with. -/
def operator? (t : Text) : Option Token :=
  (Operator.all.find? (·.text.isPrefixOf t)).map .op

/-- An identifier of the language. -/
def ident? (t : Text) : Option Text :=
  if t.head?.any isIdentStart then some (t.takeWhile isIdentChar) else none

/-- A point and the digits after it; nothing where no digit follows the point. -/
def fraction : Text → Text
  | [] => []
  | c :: t => if c == '.' && t.head?.any isDigit then c :: t.takeWhile isDigit else []

/-- The digits of a number, and its fraction if it has one. -/
def digits (t : Text) : Text :=
  t.takeWhile isDigit ++ fraction (t.dropWhile isDigit)

/-- A number of the language. -/
def number? (t : Text) : Option Text :=
  if t.head?.any isDigit then some (digits t) else none

/-- A string that is closed on its line. -/
def str? (t : Text) : Option Token :=
  if t.head? = some '"' ∧ (t.tail.dropWhile Lexer.isStringChar).head? = some '"' then
    some (.str (t.tail.takeWhile Lexer.isStringChar))
  else
    none

/-- The first token of a text, if it is no string. -/
def plain? (w : Words) (t : Text) : Option Token :=
  newline? t <|> comment? t <|> operator? t <|> (w.ident t).map .ident <|> (w.number t).map .number

/-- The first token of a text that starts with no blank. -/
def token? (w : Words) (t : Text) : Option Token :=
  plain? w t <|> str? t

/-- A text starts with no blank. -/
def Bare (t : Text) : Prop :=
  ∀ c, t.head? = some c → Reader.isBlank c = false

/-! ### Words of the language -/

theorem ident?_prefix {t m : Text} (h : ident? t = some m) : m <+: t := by
  rw [ident?] at h
  split at h
  · obtain rfl := Option.some.inj h
    exact List.takeWhile_prefix _
  · cases h

theorem fraction_prefix (t : Text) : fraction t <+: t := by
  cases t with
  | nil => exact List.prefix_rfl
  | cons c t =>
    rw [fraction]
    split
    · exact List.cons_prefix_cons.2 ⟨rfl, List.takeWhile_prefix _⟩
    · exact List.nil_prefix

theorem digits_prefix (t : Text) : digits t <+: t := by
  obtain ⟨w, hw⟩ := fraction_prefix (t.dropWhile isDigit)
  refine ⟨w, ?_⟩
  rw [digits, List.append_assoc, hw, List.takeWhile_append_dropWhile]

theorem number?_prefix {t m : Text} (h : number? t = some m) : m <+: t := by
  rw [number?] at h
  split at h
  · obtain rfl := Option.some.inj h
    exact digits_prefix t
  · cases h

end Leading

/-- The words of the language. -/
def Words.language : Words where
  ident := Leading.ident?
  number := Leading.number?
  ident_prefix := Leading.ident?_prefix
  number_prefix := Leading.number?_prefix

/-! ### All that a lexer can meet -/

/-- What a text starts with. -/
inductive Lead where
  /-- Nothing is left. -/
  | nothing
  | token (tk : Token)
  /-- A string that does not end on its line, with what is in it. -/
  | unclosed (content : Text)
  /-- A character that no token starts with. -/
  | unexpected (c : Char)
  deriving DecidableEq, Repr

namespace Lead

/-- What a text that starts with no blank starts with. -/
def of (w : Words) : Text → Lead
  | [] => nothing
  | c :: t =>
    match Leading.token? w (c :: t) with
    | some tk => token tk
    | none => if c = '"' then unclosed (t.takeWhile Lexer.isStringChar) else unexpected c

/-- What a text starts with, case by case. -/
inductive Finds (w : Words) : Text → Lead → Prop where
  | nothing : Finds w [] nothing
  | token {t : Text} {tk : Token} (ne : t ≠ []) (found : Leading.token? w t = some tk) :
      Finds w t (token tk)
  | unclosed {t : Text} (fails : Leading.token? w ('"' :: t) = none) :
      Finds w ('"' :: t) (unclosed (t.takeWhile Lexer.isStringChar))
  | unexpected {c : Char} {t : Text} (fails : Leading.token? w (c :: t) = none)
      (other : c ≠ '"') : Finds w (c :: t) (unexpected c)

/-- **What a text starts with is one of these.** -/
theorem exists_finds (w : Words) (t : Text) : ∃ l, of w t = l ∧ Finds w t l := by
  refine ⟨_, rfl, ?_⟩
  cases t with
  | nil => exact .nothing
  | cons c t =>
    rw [of]
    cases h : Leading.token? w (c :: t) with
    | some tk => exact .token (List.cons_ne_nil c t) h
    | none =>
      by_cases hc : c = '"'
      · subst hc
        exact .unclosed h
      · simp only [if_neg hc]
        exact .unexpected h hc

section
variable {w : Words} {c : Char} {t : Text} {tk : Token}

theorem of_token (ht : t ≠ []) (h : Leading.token? w t = some tk) : of w t = token tk := by
  obtain ⟨c, t, rfl⟩ := List.exists_cons_of_ne_nil ht
  rw [of, h]

theorem of_quote (h : Leading.token? w ('"' :: t) = none) :
    of w ('"' :: t) = unclosed (t.takeWhile Lexer.isStringChar) := by
  rw [of, h]
  rfl

theorem of_unexpected (h : Leading.token? w (c :: t) = none) (hc : c ≠ '"') :
    of w (c :: t) = unexpected c := by
  rw [of, h]
  exact if_neg hc

end

/-- What is consumed of the text.  An unexpected symbol is left where it is. -/
def taken : Lead → Text
  | nothing => []
  | token tk => tk.raw
  | unclosed content => '"' :: content
  | unexpected _ => []

/-- What is answered at a position. -/
def answer (place : Pos) : Lead → Except LexError (Option Token)
  | nothing => .ok none
  | token tk => .ok (some tk)
  | unclosed _ => .error (.unclosedString place)
  | unexpected c => .error (.unexpectedSymbol place c)

end Lead

end TextScan
