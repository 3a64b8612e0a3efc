import TextScan.Unicode.Property

/-!
# Regex — flags

The flags in force at a point of an expression say how the expression is read from there on.  In a
verbose expression blanks mean nothing and `#` starts a comment.
-/

namespace TextScan.Regex

/-- A flag, by the letter that sets it: `i`, `m`, `s`, `U`, `u`, `R` and `x`. -/
inductive Flag where
  | ignoreCase
  | multiLine
  | dotAll
  | swapGreed
  | unicode
  | anyLineEnds
  | verbose
  deriving DecidableEq, Repr

/-- The flag of a letter. -/
def Flag.ofChar? : Char → Option Flag
  | 'i' => some ignoreCase
  | 'm' => some multiLine
  | 's' => some dotAll
  | 'U' => some swapGreed
  | 'u' => some unicode
  | 'R' => some anyLineEnds
  | 'x' => some verbose
  | _ => none

/-- The flags in force.  An expression starts with `unicode` alone. -/
structure Flags where
  ignoreCase : Bool := false
  multiLine : Bool := false
  dotAll : Bool := false
  swapGreed : Bool := false
  unicode : Bool := true
  anyLineEnds : Bool := false
  verbose : Bool := false
  deriving DecidableEq, Repr

namespace Flags

/-- The flags with one of them turned on or off. -/
def set (f : Flags) : Flag → Bool → Flags
  | .ignoreCase, b => { f with ignoreCase := b }
  | .multiLine, b => { f with multiLine := b }
  | .dotAll, b => { f with dotAll := b }
  | .swapGreed, b => { f with swapGreed := b }
  | .unicode, b => { f with unicode := b }
  | .anyLineEnds, b => { f with anyLineEnds := b }
  | .verbose, b => { f with verbose := b }

/-- The flags after several changes, the first one first. -/
def setAll (f : Flags) (changes : List (Flag × Bool)) : Flags :=
  changes.foldl (fun f change => f.set change.1 change.2) f

end Flags

/-- White space in an expression. -/
def isSpace (c : Char) : Bool :=
  Unicode.Property.whiteSpace.contains c

/-- What is left after leading white space and comments.  A comment runs from `#` to the end of its
line. -/
def dropBlanks (inComment : Bool) : List Char → List Char
  | [] => []
  | c :: t =>
    if inComment then dropBlanks (c != '\n') t
    else if c = '#' then dropBlanks true t
    else if isSpace c then dropBlanks false t
    else c :: t

/-- What is left after the blanks that the flags let stand between the parts of an expression. -/
def Flags.skip (f : Flags) (t : List Char) : List Char :=
  if f.verbose then dropBlanks false t else t

end TextScan.Regex
