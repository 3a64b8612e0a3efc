import TextScan.Regex.Expr

/-!
# Regex — core expressions

The normal form of an expression.  Groups that only hold things together are gone, sequences and
alternatives are flat chains to the right, characters that follow one another are one text,
alternatives of one character each are one class, and what all alternatives start with stands before
them.

* `Core.ofExpr` is the normal form of a syntax tree.
-/

namespace TextScan.Regex

/-- An expression in normal form. -/
inductive Core where
  | empty
  | look (l : Look)
  /-- Characters in a row, one at least. -/
  | text (c : Char) (cs : List Char)
  /-- One character of a class, which has no character or several. -/
  | one (cls : CharClass)
  /-- The first part is no sequence itself, no part is empty, and no text follows another one. -/
  | seq (first rest : Core)
  /-- The first alternative is preferred, and is no list of alternatives itself. -/
  | alt (first rest : Core)
  /-- A group with a number of its own. -/
  | capture (index : Nat) (body : Core)
  /-- Between `least` and `most` iterations, without an upper bound if there is no `most`: as many
  as possible if greedy, as few as possible if not. -/
  | loop (least : Nat) (most : Option Nat) (greedy : Bool) (body : Core)
  deriving DecidableEq, Repr

namespace Core

/-- An expression cannot read a character. -/
def readsNothing : Core → Bool
  | empty => true
  | look _ => true
  | text _ _ => false
  | one _ => false
  | seq a b => a.readsNothing && b.readsNothing
  | alt a b => a.readsNothing && b.readsNothing
  | capture _ a => a.readsNothing
  | loop _ most _ a => most == some 0 || a.readsNothing

/-- An expression cannot match without reading a character. -/
def alwaysReads : Core → Bool
  | empty => false
  | look _ => false
  | text _ _ => true
  | one _ => true
  | seq a b => a.alwaysReads || b.alwaysReads
  | alt a b => a.alwaysReads && b.alwaysReads
  | capture _ a => a.alwaysReads
  | loop least _ _ a => least != 0 && a.alwaysReads

/-- One character of a class. -/
def ofClass (cls : CharClass) : Core :=
  match cls.only? with
  | some n => text (Char.ofNat n) []
  | none => one cls

/-! ### Sequences -/

/-- One expression after another. -/
def append : Core → Core → Core
  | empty, b => b
  | seq a r, b => seq a (append r b)
  | a, empty => a
  | text c cs, text d ds => text c (cs ++ d :: ds)
  | text c cs, seq (text d ds) r => seq (text c (cs ++ d :: ds)) r
  | a, b => seq a b

/-- The parts of a sequence. -/
def parts : Core → List Core
  | empty => []
  | seq a r => a :: r.parts
  | a => [a]

/-- The sequence of parts. -/
def ofParts (as : List Core) : Core :=
  as.foldr append empty

/-! ### Repetitions -/

/-- The repetition of an expression.  What reads nothing is repeated once at most. -/
def iterate (least : Nat) (most : Option Nat) (greedy : Bool) (a : Core) : Core :=
  let (least, most) :=
    if a.readsNothing then (min least 1, some (min (most.getD 1) 1)) else (least, most)
  if most = some 0 then empty
  else if least = 1 ∧ most = some 1 then a
  else loop least most greedy a

/-! ### Alternatives -/

/-- The alternatives of a list of them. -/
def branches : Core → List Core
  | alt a r => a :: r.branches
  | a => [a]

/-- An expression is a sequence of two parts or more. -/
def isSeq : Core → Bool
  | seq _ _ => true
  | _ => false

/-- The class of several expressions that are all characters, or all classes. -/
def classOfAll? (as : List Core) : Option CharClass :=
  let ofChar : Core → Option CharClass
    | text c [] => some (CharClass.char c)
    | _ => none
  let ofClass : Core → Option CharClass
    | one cls => some cls
    | _ => none
  ((as.mapM ofChar).or (as.mapM ofClass)).map Unicode.RangeSet.unionAll

/-- The first of several expressions that matches. -/
def choice : List Core → Core
  | [] => one .empty
  | [a] => a
  | a :: as => alt a (choice as)

/-- The first of several expressions that matches, as one class if they make one up. -/
def alternatives (as : List Core) : Core :=
  let as := as.flatMap branches
  match classOfAll? as with
  | some cls => ofClass cls
  | none => choice as

/-- What two lists both start with. -/
def commonStart : List Core → List Core → List Core
  | a :: as, b :: bs => if a = b then a :: commonStart as bs else []
  | _, _ => []

/-- What all sequences among several expressions start with, if all are sequences. -/
def sharedStart : List Core → List Core
  | [] => []
  | a :: as =>
    if (a :: as).all isSeq then as.foldl (fun start b => commonStart start b.parts) a.parts else []

/-- The first of several expressions that matches.  What all of them start with is taken out. -/
def ofBranches : List Core → Core
  | [a] => a
  | as =>
    let as := as.flatMap branches
    match sharedStart as with
    | [] => alternatives as
    | start =>
      let rest := as.map fun a => ofParts (a.parts.drop start.length)
      ofParts (start ++ [alternatives rest])

/-! ### Syntax trees -/

/-- The normal forms of the alternatives of a syntax tree. -/
def branchesOf : Expr → List Core
  | .empty => [empty]
  | .look l => [look l]
  | .one cls _ => [ofClass cls]
  | .group (some index) body => [capture index (ofBranches (branchesOf body))]
  | .group none body => [ofBranches (branchesOf body)]
  | .iterate least most greedy body =>
    [iterate least most greedy (ofBranches (branchesOf body))]
  | .concat a b => [append (ofBranches (branchesOf a)) (ofBranches (branchesOf b))]
  | .either a b => ofBranches (branchesOf a) :: branchesOf b

/-- The normal form of a syntax tree. -/
def ofExpr (e : Expr) : Core :=
  ofBranches (branchesOf e)

end Core

end TextScan.Regex
