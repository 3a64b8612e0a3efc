import TextScan.Regex.CharClass
import TextScan.Regex.Look

/-!
# Regex — expressions

The syntax tree of an expression, with the flags already applied to its leaves.  Sequences and
alternatives of more than two parts are chains to the right; a part that is itself a sequence or a
list of alternatives stands in a group.
-/

namespace TextScan.Regex

/-- The syntax tree of an expression. -/
inductive Expr where
  /-- Nothing: an empty alternative or group, or a place where flags are set. -/
  | empty
  | look (l : Look)
  /-- One character of a class, whose own brackets are nested `depth` deep. -/
  | one (cls : CharClass) (depth : Nat)
  /-- A group, with a number of its own if it captures. -/
  | group (index : Option Nat) (body : Expr)
  /-- Between `least` and `most` iterations, without an upper bound if there is no `most`. -/
  | iterate (least : Nat) (most : Option Nat) (greedy : Bool) (body : Expr)
  | concat (first rest : Expr)
  | either (first rest : Expr)
  deriving DecidableEq, Repr

namespace Expr

/-- How deep an expression is nested.  A group, a repetition, a class, a sequence and a list of
alternatives count as one level each. -/
def depth : Expr → Nat
  | empty => 0
  | look _ => 0
  | one _ d => d
  | group _ body => body.depth + 1
  | iterate _ _ _ body => body.depth + 1
  | concat first rest =>
    max (first.depth + 1) (match rest with
      | concat .. => rest.depth
      | _ => rest.depth + 1)
  | either first rest =>
    max (first.depth + 1) (match rest with
      | either .. => rest.depth
      | _ => rest.depth + 1)

/-- The sequence of parts given the last one first. -/
def ofParts : List Expr → Expr
  | [] => empty
  | last :: before => before.foldl (fun rest part => concat part rest) last

/-- The alternatives of a list given the last one first. -/
def ofBranches : List Expr → Expr
  | [] => empty
  | last :: before => before.foldl (fun rest branch => either branch rest) last

end Expr

end TextScan.Regex
