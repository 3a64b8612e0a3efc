import TextScan.Numeral

/-!
# Unicode — sets of ranges

A set of characters is kept as the ranges of code points that make it up, in order, of which no two
overlap or touch.  A set has only one such form, so two sets are equal when their ranges are.  The
code points of surrogates are no characters, and so the ranges on both sides of them touch.

* `RangeSet.contains` decides membership.
* `RangeSet.union`, `inter`, `diff`, `symmDiff` and `compl` are the operations on sets.
* `RangeSet.ofText` reads a set that is written down as text: hexadecimal numbers in order, alone or
  in pairs joined by a hyphen, with blanks between them.
-/

namespace TextScan.Unicode

/-- A set of characters: the ranges that make it up, both ends included. -/
structure RangeSet where
  ranges : List (Nat × Nat)
  deriving DecidableEq, Repr

namespace RangeSet

/-! ### Code points -/

/-- The last code point. -/
def lastPoint : Nat := 0x10FFFF

/-- The code point after another, surrogates left out. -/
def after (n : Nat) : Nat :=
  if n = 0xD7FF then 0xE000 else n + 1

/-- The code point before another, surrogates left out. -/
def before (n : Nat) : Nat :=
  if n = 0xE000 then 0xD7FF else n - 1

/-! ### Ranges in order -/

/-- Joins a range with those that overlap or touch it in a list of ranges ordered by where they
start, none of which starts before it. -/
def joinFrom (lo hi : Nat) : List (Nat × Nat) → List (Nat × Nat)
  | [] => [(lo, hi)]
  | (a, b) :: rest =>
    if a ≤ after hi then joinFrom lo (max hi b) rest else (lo, hi) :: joinFrom a b rest

/-- The set of what is in one of several ranges, which are ordered by where they start. -/
def ofOrdered : List (Nat × Nat) → RangeSet
  | [] => ⟨[]⟩
  | (a, b) :: rest => ⟨joinFrom a b rest⟩

/-- Places a range among ordered ranges.  `more` places further ranges after it. -/
def place (r : Nat × Nat) (more : List (Nat × Nat) → List (Nat × Nat)) :
    List (Nat × Nat) → List (Nat × Nat)
  | [] => r :: more []
  | s :: t => if r.1 ≤ s.1 then r :: more (s :: t) else s :: place r more t

/-- The ranges of two ordered lists in one. -/
def merge : List (Nat × Nat) → List (Nat × Nat) → List (Nat × Nat)
  | [], t => t
  | r :: s, t => place r (merge s) t

/-- The gaps between ordered ranges, up to the last code point.  `lo` is the code point after the
ranges before. -/
def gaps (lo : Nat) : List (Nat × Nat) → List (Nat × Nat)
  | [] => if lo ≤ lastPoint then [(lo, lastPoint)] else []
  | (a, b) :: rest => if lo < a then (lo, before a) :: gaps (after b) rest else gaps (after b) rest

/-- A code point is in one of several ordered ranges. -/
def inRanges (n : Nat) : List (Nat × Nat) → Bool
  | [] => false
  | (a, b) :: rest => decide (a ≤ n) && (decide (n ≤ b) || inRanges n rest)

/-! ### Sets -/

/-- No character. -/
def empty : RangeSet :=
  ⟨[]⟩

/-- The characters from one code point to another, both included. -/
def range (lo hi : Nat) : RangeSet :=
  ⟨[(lo, hi)]⟩

/-- The code points of a list. -/
def ofPoints (ns : List Nat) : RangeSet :=
  ofOrdered ((ns.mergeSort fun a b => a ≤ b).map fun n => (n, n))

/-- A set has a code point. -/
def hasPoint (s : RangeSet) (n : Nat) : Bool :=
  inRanges n s.ranges

/-- A character is in a set. -/
def contains (s : RangeSet) (c : Char) : Bool :=
  s.hasPoint c.toNat

/-- What is in one of two sets. -/
def union (s t : RangeSet) : RangeSet :=
  ofOrdered (merge s.ranges t.ranges)

/-- What is in one of several sets. -/
def unionAll (sets : List RangeSet) : RangeSet :=
  sets.foldr union empty

/-- What is not in a set. -/
def compl (s : RangeSet) : RangeSet :=
  ⟨gaps 0 s.ranges⟩

/-- What is in both of two sets. -/
def inter (s t : RangeSet) : RangeSet :=
  (s.compl.union t.compl).compl

/-- What is in the first of two sets and not in the second. -/
def diff (s t : RangeSet) : RangeSet :=
  s.inter t.compl

/-- What is in one of two sets and not in both. -/
def symmDiff (s t : RangeSet) : RangeSet :=
  (s.diff t).union (t.diff s)

/-- The code point of a set that has no other. -/
def only? (s : RangeSet) : Option Nat :=
  match s.ranges with
  | [(a, b)] => if a = b then some a else none
  | _ => none

/-! ### Sets as text -/

/-- The range that a number ends: from the number before the hyphen, or from itself. -/
def closeRange : Option Nat → Option Nat → List (Nat × Nat)
  | some lo, some hi => [(lo, hi)]
  | none, some n => [(n, n)]
  | _, none => []

/-- Reads ranges.  `lo` is the number before a hyphen, and `n` the number read so far. -/
def readRanges (lo n : Option Nat) : List Char → List (Nat × Nat)
  | [] => closeRange lo n
  | c :: t =>
    match Numeral.hexDigit? c with
    | some d => readRanges lo (some (n.getD 0 * 16 + d)) t
    | none => if c = '-' then readRanges n none t else closeRange lo n ++ readRanges none none t

/-- The set that a text writes down. -/
def ofText (s : String) : RangeSet :=
  ofOrdered (readRanges none none s.toList)

end RangeSet

end TextScan.Unicode
