import TextScan.Unicode.CaseFolding

/-!
# Regex — character classes

A character class is a set of characters.  It is built from ranges and properties by the operations
on sets, and closed under case variants where case is ignored.
-/

namespace TextScan.Regex

open Unicode

/-- A set of characters in an expression. -/
abbrev CharClass := RangeSet

namespace CharClass

/-- The class of one character. -/
def char (c : Char) : CharClass :=
  RangeSet.range c.toNat c.toNat

theorem contains_char (c d : Char) : (char c).contains d = (d == c) := by
  rw [Bool.eq_iff_iff, beq_iff_eq, ← Char.toNat_inj]
  simp [char, RangeSet.range, RangeSet.contains, RangeSet.hasPoint, RangeSet.inRanges]
  omega

/-- The characters from one to another, both included. -/
def range (first last : Char) : CharClass :=
  RangeSet.range first.toNat last.toNat

/-- All characters. -/
def any : CharClass :=
  RangeSet.range 0 RangeSet.lastPoint

/-- The class of characters in one of several ranges. -/
def ofRanges (ranges : List (Char × Char)) : CharClass :=
  .unionAll (ranges.map fun r => range r.1 r.2)

/-- Every case variant of what is in a class. -/
def anyCase (a : CharClass) : CharClass :=
  CaseFolding.closure a

/-- A class with the letters of ASCII that are in it in the other case. -/
def anyAsciiCase (a : CharClass) : CharClass :=
  let letters := ((List.range 26).map fun n => (0x41 + n, 0x61 + n)).filter fun (upper, lower) =>
    a.hasPoint upper || a.hasPoint lower
  a.union (.ofPoints (letters.flatMap fun (upper, lower) => [upper, lower]))

end CharClass

end TextScan.Regex
