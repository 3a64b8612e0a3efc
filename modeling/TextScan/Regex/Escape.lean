import TextScan.Numeral
import TextScan.Regex.CharClass.Flagged
import TextScan.Regex.Quoting

/-!
# Regex — escapes

What a backslash and the characters after it stand for: a character given by its code point, a
character that would mean something else, a named class, or a condition on a place.
-/

namespace TextScan.Regex

/-- What an escape stands for. -/
inductive Escape where
  /-- A character.  `isByte` says that it was given as the value of a byte. -/
  | char (c : Char) (isByte : Bool)
  | cls (a : CharClass)
  | look (l : Look)
  deriving DecidableEq, Repr

namespace Escape

/-- The characters up to a closing brace, and what is left after it; blanks and comments between
them are dropped in a verbose expression.  `none` if no brace closes. -/
def braced (verbose inComment : Bool) : List Char → Option (List Char × List Char)
  | [] => none
  | c :: t =>
    if inComment then braced verbose (c != '\n') t
    else if c = '\x7d' then some ([], t)
    else if verbose && c == '#' then braced verbose true t
    else if verbose && isSpace c then braced verbose false t
    else (braced verbose false t).map fun found => (c :: found.1, found.2)

/-! ### Code points -/

/-- The character of a code point, if it has one. -/
def charOf? (n : Nat) : Option Char :=
  if n.isValidChar then some (Char.ofNat n) else none

/-- A given number of hexadecimal digits after those that make up `n`. -/
def readDigits (f : Flags) (n : Nat) : Nat → List Char → Except SyntaxFault (Nat × List Char)
  | 0, t => pure (n, t)
  | _ + 1, [] => throw .escapeUnfinished
  | k + 1, c :: t =>
    match Numeral.hexDigit? c with
    | some d => readDigits f (n * 16 + d) k (f.skip t)
    | none => throw .hexInvalid

/-- A code point in hexadecimal: any number of digits in braces, or as many as given. -/
def readHex (f : Flags) (digits : Nat) (isByte : Bool) (t : List Char) :
    Except SyntaxFault (Escape × List Char) :=
  match f.skip t with
  | [] => throw .escapeUnfinished
  | '\x7b' :: t =>
    match braced f.verbose false t with
    | none => throw .escapeUnfinished
    | some (written, rest) =>
      match written.mapM Numeral.hexDigit? with
      | none | some [] => throw .hexInvalid
      | some ds =>
        match charOf? (Numeral.ofDigits 16 ds) with
        | some c => pure (char c false, f.skip rest)
        | none => throw .hexInvalid
  | t => do
    let (n, rest) ← readDigits f 0 digits t
    match charOf? n with
    | some c => pure (char c isByte, rest)
    | none => throw .hexInvalid

/-! ### Properties -/

/-- What stands before and after the first occurrence of a separator. -/
def splitAtFirst (separator : List Char) : List Char → Option (List Char × List Char)
  | [] => none
  | c :: t =>
    if separator.isPrefixOf (c :: t) then some ([], (c :: t).drop separator.length)
    else (splitAtFirst separator t).map fun parts => (c :: parts.1, parts.2)

/-- The property that a name in braces stands for: a name alone, or the name of a kind of property
and of a value, joined by `!=`, `:` or `=`, which all mean the same. -/
def propertyOf? (name : List Char) : Option CharClass :=
  let parts := (splitAtFirst ['!', '='] name).or <|
    (splitAtFirst [':'] name).or (splitAtFirst ['='] name)
  match parts with
  | some (kind, value) => Unicode.Property.valued? kind value
  | none => Unicode.Property.named? name

/-- The class of a property under the flags. -/
def ofProperty (f : Flags) (negate : Bool) (found : Option CharClass) (rest : List Char) :
    Except SyntaxFault (Escape × List Char) :=
  match found with
  | none => throw .propertyUnknown
  | some a => do
    if !f.unicode then throw .unicodeNeeded
    pure (cls (← f.negated negate (f.folded a)), rest)

/-- A property: one letter, or a name in braces. -/
def readProperty (f : Flags) (negate : Bool) (t : List Char) :
    Except SyntaxFault (Escape × List Char) :=
  match f.skip t with
  | [] => throw .escapeUnfinished
  | '\x7b' :: t =>
    match braced f.verbose false t with
    | none => throw .escapeUnfinished
    | some (name, rest) => ofProperty f negate (propertyOf? name) rest
  | '\\' :: _ => throw .propertyUnknown
  | c :: t => ofProperty f negate (Unicode.Property.named? [c]) (f.skip t)

/-! ### Word boundaries -/

/-- The characters that the names of word boundaries are made of. -/
def isBoundaryChar (c : Char) : Bool :=
  c.isAlpha || c == '-'

/-- The word boundary of a name. -/
def boundary? (w : WordKind) (name : List Char) : Option Look :=
  if name = "start".toList then some (.wordStart w)
  else if name = "end".toList then some (.wordEnd w)
  else if name = "start-half".toList then some (.wordStartHalf w)
  else if name = "end-half".toList then some (.wordEndHalf w)
  else none

/-- A word boundary: a name in braces makes it a special one.  What does not start like a name is
left for a count. -/
def readBoundary (f : Flags) (t : List Char) : Except SyntaxFault (Escape × List Char) :=
  match t with
  | '\x7b' :: t' =>
    match f.skip t' with
    | [] => throw .boundaryUnknown
    | c :: t'' =>
      if isBoundaryChar c then
        match braced f.verbose false (c :: t'') with
        | none => throw .boundaryUnknown
        | some (name, rest) =>
          match boundary? f.wordKind name with
          | some l => pure (look l, rest)
          | none => throw .boundaryUnknown
      else
        pure (look (.wordBoundary f.wordKind), t)
  | _ => pure (look (.wordBoundary f.wordKind), t)

/-! ### All escapes -/

/-- The characters that a letter after a backslash stands for. -/
def control? : Char → Option Char
  | 'a' => some '\x07'
  | 'f' => some '\x0c'
  | 't' => some '\t'
  | 'n' => some '\n'
  | 'r' => some '\r'
  | 'v' => some '\x0b'
  | _ => none

/-- The conditions that a character after a backslash stands for, apart from `b`. -/
def look? (f : Flags) : Char → Option Look
  | 'A' => some .textStart
  | 'z' => some .textEnd
  | 'B' => some (.notWordBoundary f.wordKind)
  | '<' => some (.wordStart f.wordKind)
  | '>' => some (.wordEnd f.wordKind)
  | _ => none

/-- A letter that stands for one of two complementary classes: the lower case of it, and whether
the class is the complement. -/
def classLetter? (f : Flags) (c : Char) : Option (CharClass × Bool) :=
  (f.named? c.toLower).map fun a => (a, c.isUpper)

/-- An escape, read after its backslash. -/
def read (f : Flags) : List Char → Except SyntaxFault (Escape × List Char)
  | [] => throw .escapeUnfinished
  | c :: t =>
    if isQuotable c then pure (char c false, t)
    else if c = 'x' then readHex f 2 true t
    else if c = 'u' then readHex f 4 false t
    else if c = 'U' then readHex f 8 false t
    else if c = 'p' then readProperty f false t
    else if c = 'P' then readProperty f true t
    else if c = 'b' then readBoundary f t
    else
      match classLetter? f c, control? c, look? f c with
      | some (a, negate), _, _ => do pure (cls (← f.negated negate a), t)
      | none, some d, _ => pure (char d false, t)
      | none, none, some l => pure (look l, t)
      | none, none, none => throw .escapeUnknown

end Escape

end TextScan.Regex
