import TextScan.Regex.CharClass.Bracketed
import TextScan.Regex.Count
import TextScan.Regex.Expr

/-!
# Regex — from text to expression

An expression is read from left to right, one part at a time.  What is read so far is a `Draft`: the
parts and alternatives of the innermost open group, the groups around it, and the flags in force.

* `Draft.next` reads one part.
* `Expr.ofText` reads a whole text, and refuses what is nested too deep.
-/

namespace TextScan.Regex

/-- A group that is open around the parts being read: what it holds so far outside of them, and the
flags that are in force again when it closes. -/
structure OpenGroup where
  index : Option Nat
  flags : Flags
  parts : List Expr
  branches : List Expr

/-- What is read of an expression so far.  Parts and branches come last one first. -/
structure Draft where
  flags : Flags := {}
  /-- The parts of the alternative being read. -/
  parts : List Expr := []
  /-- The alternatives before it in the same group. -/
  branches : List Expr := []
  /-- The groups around it, the innermost one first. -/
  groups : List OpenGroup := []
  /-- The number of groups that capture. -/
  captures : Nat := 0
  /-- The names of groups. -/
  names : List (List Char) := []

namespace Draft

/-- One part more. -/
def add (d : Draft) (part : Expr) : Draft :=
  { d with parts := part :: d.parts }

/-- The expression that the innermost open group holds. -/
def body (d : Draft) : Expr :=
  Expr.ofBranches (Expr.ofParts d.parts :: d.branches)

/-! ### Groups -/

/-- The changes of flags up to the character that ends them, which is a colon or a closing
parenthesis.  `seen` are the flags before, `negated` says that a hyphen came, and `dangling` that it
came last. -/
def readChanges (seen : List Flag) (negated dangling : Bool) :
    List Char → Except SyntaxFault (List (Flag × Bool) × List Char)
  | [] => throw .groupNotClosed
  | c :: t =>
    if c = ':' ∨ c = ')' then
      if dangling then throw .negationDangling else pure ([], c :: t)
    else if c = '-' then
      if negated then throw .negationRepeated else readChanges seen true true t
    else
      match Flag.ofChar? c with
      | none => throw .flagUnknown
      | some flag =>
        if seen.contains flag then throw .flagRepeated
        else do
          let (changes, rest) ← readChanges (flag :: seen) negated false t
          pure ((flag, !negated) :: changes, rest)

/-- The first character of the name of a group. -/
def isNameStart (c : Char) : Bool :=
  c == '_' || Unicode.Property.alphabetic.contains c

/-- The other characters of the name of a group. -/
def isNameChar (c : Char) : Bool :=
  isNameStart c || c == '.' || c == '[' || c == ']'
    || Unicode.Property.numeric.contains c

/-- The name of a group, read after `<`.  A name is not empty and is given once. -/
def readName (d : Draft) (t : List Char) : Except SyntaxFault (Draft × List Char) :=
  let name := t.takeWhile (· != '>')
  match t.dropWhile (· != '>') with
  | [] => throw .groupNameInvalid
  | _ :: rest =>
    if name.head?.all (!isNameStart ·) || name.any (!isNameChar ·) then throw .groupNameInvalid
    else if d.names.contains name then throw .groupNameRepeated
    else pure ({ d with names := name :: d.names }, rest)

/-- A group opens, with flags of its own. -/
def openGroup (d : Draft) (index : Option Nat) (inside : Flags) : Draft :=
  { d with
    flags := inside
    parts := []
    branches := []
    groups := ⟨index, d.flags, d.parts, d.branches⟩ :: d.groups }

/-- A group opens that captures. -/
def openCapture (d : Draft) : Draft :=
  { d with captures := d.captures + 1 }.openGroup (some d.captures) d.flags

/-- What a parenthesis opens, read after it: a group, a named group, a group with flags, or a
setting of flags for the rest of the group that it stands in. -/
def readOpening (d : Draft) (t : List Char) : Except SyntaxFault (Draft × List Char) :=
  match d.flags.skip t with
  | '?' :: '=' :: _ | '?' :: '!' :: _ | '?' :: '<' :: '=' :: _ | '?' :: '<' :: '!' :: _ =>
    throw .lookAroundUnsupported
  | '?' :: 'P' :: '<' :: t | '?' :: '<' :: t => do
    let (d, rest) ← d.readName t
    pure (d.openCapture, rest)
  | '?' :: t => do
    let (changes, rest) ← readChanges [] false false t
    match rest with
    | ':' :: rest => pure (d.openGroup none (d.flags.setAll changes), rest)
    | _ =>
      if changes.isEmpty then throw .repetitionOfNothing
      else pure ({ d with flags := d.flags.setAll changes }.add .empty, rest.tail)
  | t => pure (d.openCapture, t)

/-- The innermost open group closes. -/
def closeGroup (d : Draft) : Except SyntaxFault Draft :=
  match d.groups with
  | [] => throw .groupNotOpen
  | g :: groups =>
    pure { d with
      flags := g.flags
      parts := .group g.index d.body :: g.parts
      branches := g.branches
      groups := groups }

/-! ### Repetitions -/

/-- The last part is repeated.  A question mark after the sign of repetition turns its greed. -/
def repeatLast (d : Draft) (n : Count) (t : List Char) : Except SyntaxFault (Draft × List Char) :=
  match d.parts with
  | [] | .empty :: _ => throw .repetitionOfNothing
  | part :: parts =>
    let (lazy, rest) := match t with
      | '?' :: rest => (true, rest)
      | _ => (false, t)
    let greedy := lazy == d.flags.swapGreed
    pure ({ d with parts := .iterate n.least n.most greedy part :: parts }, rest)

/-! ### Parts -/

/-- The part that an escape stands for. -/
def addEscape (d : Draft) : Escape → Except SyntaxFault Draft
  | .char c isByte => do pure (d.add (.one (← d.flags.literal c isByte) 0))
  | .cls a => pure (d.add (.one a 0))
  | .look l => pure (d.add (.look l))

/-- Reads one part: `c` is its first character and `t` what comes after. -/
def next (d : Draft) (c : Char) (t : List Char) : Except SyntaxFault (Draft × List Char) :=
  match c with
  | '(' => d.readOpening t
  | ')' => do pure (← d.closeGroup, t)
  | '|' => pure ({ d with parts := [], branches := Expr.ofParts d.parts :: d.branches }, t)
  | '[' => do
    let (part, rest) ← ClassPart.read d.flags t
    pure (d.add (.one part.cls part.depth), rest)
  | '?' => d.repeatLast ⟨0, some 1⟩ t
  | '*' => d.repeatLast ⟨0, none⟩ t
  | '+' => d.repeatLast ⟨1, none⟩ t
  | '\x7b' => do
    if d.parts.isEmpty then throw .repetitionOfNothing
    let (n, rest) ← Count.read d.flags t
    d.repeatLast n (d.flags.skip rest)
  | '\\' => do
    let (e, rest) ← Escape.read d.flags t
    pure (← d.addEscape e, rest)
  | '.' => do pure (d.add (.one (← d.flags.dot) 0), t)
  | '^' => pure (d.add (.look d.flags.lineStart), t)
  | '$' => pure (d.add (.look d.flags.lineEnd), t)
  | _ => do pure (d.add (.one (← d.flags.literal c false) 0), t)

/-- Reads part after part to the end of the text.  Each part takes one character at least, so as
many steps as there are characters are enough. -/
def readAll : Nat → Draft → List Char → Except SyntaxFault Draft
  | 0, _, _ => throw .groupNotClosed
  | fuel + 1, d, t =>
    match d.flags.skip t with
    | [] => pure d
    | c :: t => do
      let (d, rest) ← d.next c t
      readAll fuel d rest

end Draft

/-- How deep an expression may be nested. -/
def Expr.depthLimit : Nat := 250

/-- The expression that a text writes down. -/
def Expr.ofText (t : List Char) : Except SyntaxFault Expr := do
  let d ← Draft.readAll (t.length + 1) {} t
  if !d.groups.isEmpty then throw .groupNotClosed
  if Expr.depthLimit < d.body.depth then throw .nestedTooDeep
  pure d.body

end TextScan.Regex
