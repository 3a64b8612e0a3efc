import TextScan.Regex.Escape

/-!
# Regex — bracketed classes

A class in brackets is a list of characters, ranges and named classes, possibly of classes in
brackets of their own, possibly negated.  Lists are joined from left to right by the operations
`&&`, `--` and `~~`, which bind less tightly than standing side by side.
-/

namespace TextScan.Regex

open Unicode

/-- A part of a class, and how deep the brackets, lists and operations in it are nested. -/
structure ClassPart where
  cls : CharClass
  depth : Nat := 0

/-- The operations that join lists in a class. -/
inductive ClassOp where
  | inter
  | diff
  | symmDiff
  deriving DecidableEq, Repr

/-- The class that an operation makes of two others. -/
def ClassOp.apply : ClassOp → CharClass → CharClass → CharClass
  | inter => RangeSet.inter
  | diff => RangeSet.diff
  | symmDiff => RangeSet.symmDiff

namespace ClassPart

/-- The list of parts given the last one first. -/
def ofList : List ClassPart → ClassPart
  | [] => ⟨.empty, 0⟩
  | [part] => part
  | part :: parts =>
    parts.foldl (fun a b => ⟨b.cls.union a.cls, max (b.depth + 1) a.depth⟩)
      ⟨part.cls, part.depth + 1⟩

/-- The list that ends here, joined to what stands before the last operation.  Case is ignored on
both sides before they are joined. -/
def join (f : Flags) (left : Option (ClassPart × ClassOp)) (items : List ClassPart) : ClassPart :=
  let right := ofList items
  match left with
  | none => right
  | some (l, op) =>
    ⟨op.apply (f.folded l.cls) (f.folded right.cls), max l.depth right.depth + 1⟩

/-- A part in brackets. -/
def bracketed (f : Flags) (negate : Bool) (part : ClassPart) : Except SyntaxFault ClassPart := do
  pure ⟨← f.negated negate (f.folded part.cls), part.depth + 1⟩

/-! ### Items -/

/-- One character or escape of a class. -/
def readAtom (f : Flags) : List Char → Except SyntaxFault (Escape × List Char)
  | [] => throw .classNotClosed
  | '\\' :: t => Escape.read f t
  | c :: t => pure (.char c false, t)

/-- A character as it stands in a class.  Without `u` only ASCII may. -/
def plain (f : Flags) (c : Char) : Except SyntaxFault Char :=
  if !f.unicode && 0x80 ≤ c.toNat then throw .unicodeNeeded else pure c

/-- An atom as an item of a class.  Conditions are none. -/
def ofAtom (f : Flags) : Escape → Except SyntaxFault ClassPart
  | .char c _ => do pure ⟨CharClass.char (← plain f c), 0⟩
  | .cls a => pure ⟨a, 0⟩
  | .look _ => throw .classItemInvalid

/-- The range between two atoms.  Both are characters, in order. -/
def ofRange (f : Flags) : Escape → Escape → Except SyntaxFault ClassPart
  | .char a _, .char b _ => do
    let first ← plain f a
    let last ← plain f b
    if first ≤ last then pure ⟨CharClass.range first last, 0⟩ else throw .rangeInvalid
  | _, _ => throw .rangeInvalid

/-- The character that decides whether a hyphen makes a range, read after the hyphen.  In a verbose
expression it is the first one that is no white space, and one `#` is passed over too; if there is
none, it is the very next one. -/
def decider? (f : Flags) (t : List Char) : Option Char :=
  if f.verbose then
    let t' := match t.dropWhile isSpace with
      | '#' :: t' => t'.dropWhile isSpace
      | t' => t'
    t'.head?.or t.head?
  else
    t.head?

/-- An item or a range.  A hyphen before the closing bracket or another hyphen makes no range. -/
def readItem (f : Flags) (t : List Char) : Except SyntaxFault (ClassPart × List Char) := do
  let (a, t) ← readAtom f t
  match f.skip t with
  | [] => throw .classNotClosed
  | '-' :: t' =>
    if decider? f t' = some ']' ∨ decider? f t' = some '-' then
      pure (← ofAtom f a, '-' :: t')
    else
      match f.skip t' with
      | [] => throw .classNotClosed
      | t' =>
        let (b, rest) ← readAtom f t'
        pure (← ofRange f a b, rest)
  | rest => pure (← ofAtom f a, rest)

/-- A named class of ASCII, read after `[`: its name, whether it is negated, and what is left.
`none` if it is no such class after all. -/
def readNamed? (t : List Char) : Option (CharClass × Bool × List Char) :=
  match t with
  | ':' :: t =>
    let negate := t.head? == some '^'
    let named := if negate then t.tail else t
    match named.dropWhile (· != ':') with
    | ':' :: ']' :: rest =>
      (asciiClass? (String.ofList (named.takeWhile (· != ':')))).map fun a => (a, negate, rest)
    | _ => none
  | _ => none

/-! ### Brackets -/

/-- The hyphens at the start of a class, which stand for themselves. -/
def readHyphens (f : Flags) : Nat → List ClassPart → List Char → List ClassPart × List Char
  | 0, items, t => (items, t)
  | fuel + 1, items, t =>
    match t with
    | '-' :: t => readHyphens f fuel (⟨CharClass.char '-', 0⟩ :: items) (f.skip t)
    | _ => (items, t)

/-- The opening of a class, read after `[`: whether it is negated, the items that stand there for
themselves, and what is left.  After the hyphens, if there are none, a closing bracket stands for
itself too. -/
def readOpening (f : Flags) (t : List Char) : Bool × List ClassPart × List Char :=
  let t := f.skip t
  let negate := t.head? == some '^'
  let t := if negate then f.skip t.tail else t
  match readHyphens f t.length [] t with
  | ([], ']' :: t) => (negate, [⟨CharClass.char ']', 0⟩], f.skip t)
  | (items, t) => (negate, items, t)

/-- The operation that a class goes on with. -/
def readOp? : List Char → Option (ClassOp × List Char)
  | '&' :: '&' :: t => some (.inter, t)
  | '-' :: '-' :: t => some (.diff, t)
  | '~' :: '~' :: t => some (.symmDiff, t)
  | _ => none

/-- A class whose bracket is still open: whether it is negated, what stands before its last
operation, and the items after that, the last one first. -/
structure Open where
  negate : Bool
  left : Option (ClassPart × ClassOp) := none
  items : List ClassPart := []

/-- A class with one item more. -/
def Open.add (o : Open) (part : ClassPart) : Open :=
  { o with items := part :: o.items }

/-- A class that goes on after an operation. -/
def Open.operate (f : Flags) (o : Open) (op : ClassOp) : Open :=
  { o with left := some (join f o.left o.items, op), items := [] }

/-- The class that ends here. -/
def Open.close (f : Flags) (o : Open) : Except SyntaxFault ClassPart :=
  bracketed f o.negate (join f o.left o.items)

/-- A class that opens, read after `[`. -/
def Open.read (f : Flags) (t : List Char) : Open × List Char :=
  let (negate, items, rest) := readOpening f t
  (⟨negate, none, items⟩, rest)

/-- Reads to the end of the outermost of the open classes.  `o` is the innermost one and `outer` the
ones around it. -/
def readOpen (f : Flags) : Nat → Open → List Open → List Char →
    Except SyntaxFault (ClassPart × List Char)
  | 0, _, _, _ => throw .classNotClosed
  | fuel + 1, o, outer, t =>
    let t := f.skip t
    match t with
    | [] => throw .classNotClosed
    | ']' :: t => do
      let part ← o.close f
      match outer with
      | [] => pure (part, t)
      | o' :: outer' => readOpen f fuel (o'.add part) outer' t
    | '[' :: t =>
      match readNamed? t with
      | some (a, negate, rest) => do
        let a ← f.negated negate (f.folded a)
        readOpen f fuel (o.add ⟨a, 0⟩) outer rest
      | none =>
        let (o', rest) := Open.read f t
        readOpen f fuel o' (o :: outer) rest
    | _ =>
      match readOp? t with
      | some (op, rest) => readOpen f fuel (o.operate f op) outer rest
      | none => do
        let (part, rest) ← readItem f t
        readOpen f fuel (o.add part) outer rest

/-- A class in brackets, read after its `[`. -/
def read (f : Flags) (t : List Char) : Except SyntaxFault (ClassPart × List Char) :=
  let (o, rest) := Open.read f t
  readOpen f (t.length + 1) o [] rest

end ClassPart

end TextScan.Regex
