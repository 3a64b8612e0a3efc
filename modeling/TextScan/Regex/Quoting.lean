import TextScan.Regex

/-!
# Regex — quoted texts

A text is written as the expression that matches it by a backslash before each character that would
mean something else.

* `Regex.escape` is this expression.
* `Regex.Spells` are the expressions that only write down characters: as themselves, or with a
  backslash before them where that makes them literal.
-/

namespace TextScan.Regex

/-- The characters that mean something else in an expression. -/
def metaChars : List Char :=
  ['\\', '.', '+', '*', '?', '(', ')', '|', '[', ']', '\x7b', '\x7d', '^', '$', '#', '&', '-', '~']

/-- The characters that a backslash makes literal: those of ASCII that are no letters and no digits,
apart from the two angle brackets. -/
def isQuotable (c : Char) : Bool :=
  c.toNat < 0x80 && !c.isAlphanum && c != '<' && c != '>'

/-- The expression that matches a text and nothing else. -/
def escape (t : Text) : Text :=
  t.flatMap fun c => if metaChars.contains c then ['\\', c] else [c]

/-- An expression writes down the characters of a text, one after another. -/
inductive Spells : Text → Text → Prop where
  | nil : Spells [] []
  /-- A character that means nothing else stands for itself. -/
  | plain {c : Char} {p s : Text} (hc : c ∉ metaChars) (rest : Spells p s) :
      Spells (c :: p) (c :: s)
  /-- A backslash makes the character after it literal. -/
  | quoted {c : Char} {p s : Text} (hc : isQuotable c = true) (rest : Spells p s) :
      Spells ('\\' :: c :: p) (c :: s)

theorem isQuotable_of_mem_metaChars : ∀ c ∈ metaChars, isQuotable c = true :=
  List.all_eq_true.1 (by decide)

/-- **An escaped text spells the text.** -/
theorem spells_escape (s : Text) : Spells (escape s) s := by
  induction s with
  | nil => exact .nil
  | cons c s ih =>
    rw [escape, List.flatMap_cons]
    by_cases hc : c ∈ metaChars
    · rw [if_pos (List.contains_iff_mem.2 hc)]
      exact .quoted (isQuotable_of_mem_metaChars c hc) ih
    · rw [if_neg (mt List.contains_iff_mem.1 hc)]
      exact .plain hc ih

end TextScan.Regex
