import TextScan.Numeral
import TextScan.Regex.Fault
import TextScan.Regex.Flags

/-!
# Regex — counts

The count of a repetition, in braces: a number, a number with a comma for no upper bound, or two
numbers.  White space may stand around the numbers.
-/

namespace TextScan.Regex

/-- How often something is repeated: at least, and at most if there is a bound. -/
structure Count where
  least : Nat
  most : Option Nat
  deriving DecidableEq, Repr

namespace Count

/-- Counts are below this bound: they are held in 32 bits. -/
def bound : Nat := UInt32.size

/-- Decimal digits and what is left after them.  In a verbose expression blanks and comments may
stand between the digits. -/
def readDigits (verbose inComment : Bool) : List Char → List Nat × List Char
  | [] => ([], [])
  | c :: t =>
    if inComment then readDigits verbose (c != '\n') t
    else
      match Numeral.decimalDigit? c with
      | some d => let (ds, rest) := readDigits verbose false t; (d :: ds, rest)
      | none =>
        if verbose && c == '#' then readDigits verbose true t
        else if verbose && isSpace c then readDigits verbose false t
        else ([], c :: t)

/-- A number with white space around it. -/
def readNumber (f : Flags) (t : List Char) : Except SyntaxFault (Nat × List Char) :=
  let (ds, rest) := readDigits f.verbose false (t.dropWhile isSpace)
  let n := Numeral.ofDigits 10 ds
  if ds.isEmpty || bound ≤ n then throw .countInvalid else pure (n, rest.dropWhile isSpace)

/-- The end of a count.  The bounds are in order. -/
def close (n : Count) : List Char → Except SyntaxFault (Count × List Char)
  | '\x7d' :: t => if n.most.all (n.least ≤ ·) then pure (n, t) else throw .countInvalid
  | _ => throw .countNotClosed

/-- A count, read after its opening brace. -/
def read (f : Flags) (t : List Char) : Except SyntaxFault (Count × List Char) := do
  let (least, t) ← readNumber f (f.skip t)
  match t with
  | ',' :: t =>
    match f.skip t with
    | '\x7d' :: rest => close ⟨least, none⟩ ('\x7d' :: rest)
    | t => do
      let (most, rest) ← readNumber f t
      close ⟨least, some most⟩ rest
  | t => close ⟨least, some least⟩ t

end Count

end TextScan.Regex
