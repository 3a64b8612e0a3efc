import TextScan.Unicode.RangeSet

/-!
# Text — characters as bytes

The bytes of UTF-8.  A set of characters is a list of sequences of byte ranges: what takes one byte
of each range of a sequence is a character of the set.

* `Encoded.sequences` is this list, in the order of the characters.
-/

namespace TextScan.Text.Encoded

/-- A range of bytes, both ends included. -/
abbrev ByteRange := Nat × Nat

/-- The sequences for the numbers from `lo` to `hi` that are written in a first byte, which starts
at `mark`, and a number of bytes of six bits each after it.  Numbers with the same first byte are
written together, unless all that share it are in the range. -/
def spread : Nat → Nat → Nat → Nat → List (List ByteRange)
  | 0, mark, lo, hi => [[(mark + lo, mark + hi)]]
  | k + 1, mark, lo, hi =>
    let unit := 64 ^ (k + 1)
    let (first, last) := (lo / unit, hi / unit)
    let within (byte lo hi : Nat) :=
      (spread k 0x80 lo hi).map fun rest => (mark + byte, mark + byte) :: rest
    if first = last then within first (lo % unit) (hi % unit)
    else
      let startsFull := lo % unit = 0
      let endsFull := hi % unit = unit - 1
      let start := if startsFull then first else first + 1
      let stop := if endsFull then last + 1 else last
      (if startsFull then [] else within first (lo % unit) (unit - 1)) ++
        (if start < stop then
          [(mark + start, mark + stop - 1) :: List.replicate (k + 1) (0x80, 0xBF)]
        else []) ++
        (if endsFull then [] else within last 0 (hi % unit))

/-- The code points of each length: the first and the last, the number of bytes after the first, and
the mark of the first byte. -/
def lengths : List (Nat × Nat × Nat × Nat) :=
  [(0, 0x7F, 0, 0), (0x80, 0x7FF, 1, 0xC0), (0x800, 0xD7FF, 2, 0xE0), (0xE000, 0xFFFF, 2, 0xE0),
    (0x10000, 0x10FFFF, 3, 0xF0)]

/-- The sequences of a set of characters. -/
def sequences (s : Unicode.RangeSet) : List (List ByteRange) :=
  s.ranges.flatMap fun (lo, hi) =>
    lengths.flatMap fun (first, last, more, mark) =>
      let (lo, hi) := (max lo first, min hi last)
      if lo ≤ hi then spread more mark lo hi else []

end TextScan.Text.Encoded
