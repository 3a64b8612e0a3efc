import TextScan.Unicode.Property

/-!
# Regex — conditions at a place

A look is a condition on a place between two characters.  It consumes nothing, and it depends on
the character before the place and the one after it alone.
-/

namespace TextScan.Regex

/-- Which characters make up words: those with the property of Unicode, or letters, digits and the
underscore of ASCII. -/
inductive WordKind where
  | unicode
  | ascii
  deriving DecidableEq, Repr

/-- A letter, a digit or the underscore of ASCII. -/
def isAsciiWord (c : Char) : Bool :=
  c.isAlphanum || c == '_'

/-- A character is part of a word. -/
def WordKind.holds : WordKind → Char → Bool
  | unicode, c => Unicode.Property.word.contains c
  | ascii, c => isAsciiWord c

/-- A condition on a place in a text. -/
inductive Look where
  | textStart
  | textEnd
  /-- After a newline, or at the start of the text. -/
  | lineStart
  /-- Before a newline, or at the end of the text. -/
  | lineEnd
  /-- As `lineStart`, where a line may also end in a carriage return, alone or before a newline. -/
  | anyLineStart
  /-- As `lineEnd`, where a line may also end in a carriage return, alone or before a newline. -/
  | anyLineEnd
  /-- Between a word and something else. -/
  | wordBoundary (w : WordKind)
  | notWordBoundary (w : WordKind)
  | wordStart (w : WordKind)
  | wordEnd (w : WordKind)
  /-- Not after a word. -/
  | wordStartHalf (w : WordKind)
  /-- Not before a word. -/
  | wordEndHalf (w : WordKind)
  deriving DecidableEq, Repr

/-- A place holds a condition, given the characters on both sides of it. -/
def Look.holds (l : Look) (before after : Option Char) : Bool :=
  match l with
  | textStart => before.isNone
  | textEnd => after.isNone
  | lineStart => before.isNone || before == some '\n'
  | lineEnd => after.isNone || after == some '\n'
  | anyLineStart =>
    before.isNone || before == some '\n' || before == some '\r' && after != some '\n'
  | anyLineEnd =>
    after.isNone || after == some '\r' || after == some '\n' && before != some '\r'
  | wordBoundary w => before.any w.holds != after.any w.holds
  | notWordBoundary w => before.any w.holds == after.any w.holds
  | wordStart w => !before.any w.holds && after.any w.holds
  | wordEnd w => before.any w.holds && !after.any w.holds
  | wordStartHalf w => !before.any w.holds
  | wordEndHalf w => !after.any w.holds

end TextScan.Regex
