import TextScan.Lexer.Token

/-!
# Lexer — the token languages

Which texts the kinds of tokens consist of, said without the lexer: identifiers and numbers by their
characters, strings and comments by the characters that cannot stand in them.
-/

namespace TextScan

/-- Letters of ASCII and the underscore. -/
def isIdentStart (c : Char) : Bool :=
  ('A' ≤ c && c ≤ 'Z') || ('a' ≤ c && c ≤ 'z') || c == '_'

/-- Digits of ASCII. -/
def isDigit (c : Char) : Bool :=
  '0' ≤ c && c ≤ '9'

theorem isDigit_iff {c : Char} : isDigit c = true ↔ 48 ≤ c.toNat ∧ c.toNat ≤ 57 := by
  simp [isDigit, Char.le_def, UInt32.le_iff_toNat_le]

theorem isIdentStart_iff {c : Char} :
    isIdentStart c = true ↔
      65 ≤ c.toNat ∧ c.toNat ≤ 90 ∨ c.toNat = 95 ∨ 97 ≤ c.toNat ∧ c.toNat ≤ 122 := by
  have hunderscore : c = '_' ↔ c.toNat = 95 := ⟨fun h => h ▸ rfl, fun h => Char.toNat_inj.1 h⟩
  simp only [isIdentStart, Bool.or_eq_true, Bool.and_eq_true, decide_eq_true_eq, beq_iff_eq,
    hunderscore, Char.le_def, UInt32.le_iff_toNat_le]
  exact or_right_comm.trans or_assoc

/-- No digit starts an identifier. -/
theorem isIdentStart_of_isDigit {c : Char} (h : isDigit c = true) : isIdentStart c = false := by
  rw [isDigit_iff] at h
  rw [← Bool.not_eq_true, isIdentStart_iff]
  omega

/-- Identifiers start with a letter or an underscore, and go on with these and digits. -/
def isIdent : Text → Bool
  | [] => false
  | c :: t => isIdentStart c && t.all fun d => isIdentStart d || isDigit d

/-- A row of digits, one at least. -/
def isDigits (t : Text) : Bool :=
  !t.isEmpty && t.all isDigit

/-- Numbers are digits, or digits on both sides of a point. -/
def isNumber (t : Text) : Bool :=
  match t.dropWhile isDigit with
  | [] => isDigits t
  | c :: fraction => c == '.' && isDigits (t.takeWhile isDigit) && isDigits fraction

/-- A token holds a text of its kind. -/
def Token.isWellFormed : Token → Bool
  | ident name => isIdent name
  | number digits => isNumber digits
  | str content => content.all fun c => c != '"' && c != '\n'
  | op _ => true
  | comment content => content.all (· != '\n')
  | newline => true

end TextScan
