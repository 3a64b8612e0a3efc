import TextScan.Regex.CharClass
import TextScan.Regex.Fault
import TextScan.Regex.Flags
import TextScan.Regex.Look
import TextScan.Unicode.Property

/-!
# Regex — classes that the flags decide

The same notation stands for different classes under different flags: letters stand for their case
variants, and without the flag `u` the named classes shrink to ASCII.  Without `u` a class that
holds anything beyond ASCII could match part of a character, and is a fault.
-/

namespace TextScan.Regex.Flags

/-- A class under the flags: its case variants belong to it when case is ignored. -/
def folded (f : Flags) (a : CharClass) : CharClass :=
  if f.ignoreCase then (if f.unicode then a.anyCase else a.anyAsciiCase) else a

/-- The complement of a class, when a sign of negation asks for it. -/
def negated (f : Flags) (negate : Bool) (a : CharClass) : Except SyntaxFault CharClass :=
  if negate then
    if f.unicode then pure a.compl else throw .unicodeNeeded
  else
    pure a

/-- One character that stands for itself.  `isByte` says that it was written as the value of a
byte, which is a character only below 80 hexadecimal when `u` is off. -/
def literal (f : Flags) (c : Char) (isByte : Bool) : Except SyntaxFault CharClass :=
  if !f.unicode && isByte && 0x80 ≤ c.toNat then throw .unicodeNeeded
  else if f.ignoreCase && (f.unicode || c.isAlpha) then pure (f.folded (CharClass.char c))
  else pure (CharClass.char c)

/-- What the dot stands for: any character, but the end of a line only under `s`. -/
def dot (f : Flags) : Except SyntaxFault CharClass :=
  if !f.unicode then throw .unicodeNeeded
  else if f.dotAll then pure CharClass.any
  else if f.anyLineEnds then pure ((CharClass.char '\n').union (CharClass.char '\r')).compl
  else pure (CharClass.char '\n').compl

/-- The condition that `^` stands for. -/
def lineStart (f : Flags) : Look :=
  if f.multiLine then (if f.anyLineEnds then .anyLineStart else .lineStart) else .textStart

/-- The condition that `$` stands for. -/
def lineEnd (f : Flags) : Look :=
  if f.multiLine then (if f.anyLineEnds then .anyLineEnd else .lineEnd) else .textEnd

/-- Which words a word boundary is about. -/
def wordKind (f : Flags) : WordKind :=
  if f.unicode then .unicode else .ascii

end TextScan.Regex.Flags

namespace TextScan.Regex

/-! ### Named classes -/

/-- The letters, digits and the underscore of ASCII. -/
def asciiWord : CharClass :=
  CharClass.ofRanges [('0', '9'), ('A', 'Z'), ('_', '_'), ('a', 'z')]

/-- The white space of ASCII. -/
def asciiSpace : CharClass :=
  CharClass.ofRanges [('\t', '\r'), (' ', ' ')]

/-- The class that a letter after a backslash stands for, under `u` and without it. -/
def Flags.named? (f : Flags) : Char → Option CharClass
  | 'd' => some (if f.unicode then Unicode.GeneralCategory.nd.set else CharClass.range '0' '9')
  | 's' => some (if f.unicode then Unicode.Property.whiteSpace else asciiSpace)
  | 'w' => some (if f.unicode then Unicode.Property.word else asciiWord)
  | _ => none

/-- The classes of ASCII that have names between `[:` and `:]`. -/
def asciiClass? (name : String) : Option CharClass :=
  match name with
  | "alnum" => some (CharClass.ofRanges [('0', '9'), ('A', 'Z'), ('a', 'z')])
  | "alpha" => some (CharClass.ofRanges [('A', 'Z'), ('a', 'z')])
  | "ascii" => some (CharClass.range '\x00' '\x7f')
  | "blank" => some (CharClass.ofRanges [('\t', '\t'), (' ', ' ')])
  | "cntrl" => some (CharClass.ofRanges [('\x00', '\x1f'), ('\x7f', '\x7f')])
  | "digit" => some (CharClass.range '0' '9')
  | "graph" => some (CharClass.range '!' '~')
  | "lower" => some (CharClass.range 'a' 'z')
  | "print" => some (CharClass.range ' ' '~')
  | "punct" => some (CharClass.ofRanges [('!', '/'), (':', '@'), ('[', '\x60'), ('\x7b', '~')])
  | "space" => some asciiSpace
  | "upper" => some (CharClass.range 'A' 'Z')
  | "word" => some asciiWord
  | "xdigit" => some (CharClass.ofRanges [('0', '9'), ('A', 'F'), ('a', 'f')])
  | _ => none

end TextScan.Regex
