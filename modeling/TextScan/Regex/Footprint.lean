import TextScan.Regex.Core
import TextScan.Text
import TextScan.Text.Encoded

/-!
# Regex — footprint

The memory that an expression takes when it is compiled to an automaton that reads bytes.  Copies
count as often as they are made, a class counts by the byte sequences of its characters, and
alternatives that are all texts are read by one tree.  There is an automaton for each of the two
directions in which a text can be read, and each has to fit.

* `Core.footprint` is the larger one of the two.
* `Core.fits`: expressions over `Core.footprintLimit` are refused, apart from those that only look
  up texts in a table.
-/

namespace TextScan.Regex

open Text.Encoded

/-! ### Units -/

/-- The bytes that a state of an automaton takes. -/
def stateSize : Nat := 32

/-- The bytes that a transition on a range of bytes takes. -/
def transitionSize : Nat := 8

/-- The bytes that one of several ways out of a state takes. -/
def branchSize : Nat := 4

/-- The bytes that a state with two ways out takes. -/
def forkSize : Nat := stateSize + 2 * branchSize

/-- The bytes that several parts take together. -/
def total (sizes : List Nat) : Nat :=
  sizes.foldl (· + ·) 0

/-! ### Classes -/

/-- The number of elements that two lists both start with. -/
def sharedLength : List ByteRange → List ByteRange → Nat
  | a :: as, b :: bs => if a = b then sharedLength as bs + 1 else 0
  | _, _ => 0

/-- The number of states that sequences take when each shares those of the sequence before it up to
where they part. -/
def branchingStates (before : List ByteRange) : List (List ByteRange) → Nat
  | [] => 0
  | s :: rest => s.length - sharedLength before s + branchingStates s rest

/-- Sequences that start with the same range, together: what they start with, and what follows. -/
def byFirst : List (List ByteRange) → List (ByteRange × List (List ByteRange))
  | [] => []
  | [] :: rest => byFirst rest
  | (b :: s) :: rest =>
    match byFirst rest with
    | (c, group) :: others =>
      if b = c then (c, s :: group) :: others else (b, [s]) :: (c, group) :: others
    | [] => [(b, [s])]

/-- The states of an automaton that reads sequences of no more than a length: each is given by the
sequences that are left to read. -/
def statesOf : Nat → List (List ByteRange) → List (List (List ByteRange))
  | 0, _ => []
  | n + 1, seqs =>
    if seqs.all List.isEmpty then []
    else seqs :: (byFirst seqs).flatMap fun group => statesOf n group.2

/-- The bytes that a class of several characters takes.  Reading forward, states with the same
sequences left are one; reading backward, sequences share only what they start with. -/
def classSize (backward : Bool) (cls : CharClass) : Nat :=
  let seqs := sequences cls
  if seqs.all fun s => s.length ≤ 1 then 2 * stateSize + transitionSize * seqs.length
  else if backward then
    2 * stateSize + branchSize * seqs.length + stateSize * branchingStates [] seqs
  else
    stateSize + total ((statesOf 4 seqs).eraseDups.map fun state =>
      stateSize + transitionSize * (byFirst state).length)

/-! ### Alternatives of text -/

/-- The texts between those that are empty. -/
def chunks : List (List UInt8) → List (List (List UInt8))
  | [] => [[]]
  | [] :: rest => [] :: chunks rest
  | t :: rest =>
    match chunks rest with
    | c :: cs => (t :: c) :: cs
    | [] => [[t]]

/-- The bytes that texts start with, each once. -/
def firsts (texts : List (List UInt8)) : List UInt8 :=
  (texts.filterMap List.head?).eraseDups

/-- The bytes that a tree takes that reads the first of several texts that matches, none of which is
longer than a length.  A text that ends where another goes on parts what comes before it from what
comes after. -/
def treeSize : Nat → List (List UInt8) → Nat
  | 0, _ => 0
  | n + 1, texts =>
    if texts.all List.isEmpty then 0
    else
      let later := texts.dropWhile List.isEmpty
      let parts := chunks (if later.length = texts.length then texts else [] :: later)
      let ways := (parts.filter (!·.isEmpty)).length + (parts.length - 1)
      stateSize + branchSize * ways + total (parts.map fun part =>
        let bytes := firsts part
        let state :=
          if bytes.length ≤ 1 then stateSize * bytes.length
          else stateSize + transitionSize * bytes.length
        state + total (bytes.map fun b =>
          treeSize n ((part.filter (·.head? == some b)).map List.tail)))

/-! ### Expressions -/

namespace Core

/-- The bytes of an expression that is a text, in the order in which they are read. -/
def bytes? (backward : Bool) : Core → Option (List UInt8)
  | text c cs =>
    let bytes := (c :: cs).flatMap String.utf8EncodeChar
    some (if backward then bytes.reverse else bytes)
  | _ => none

/-- The bytes that the alternatives of an expression take if all are texts. -/
def textsSize? (backward : Bool) (a : Core) : Option Nat :=
  (a.branches.mapM (bytes? backward)).map fun texts =>
    stateSize + treeSize ((texts.map List.length).foldl max 0) texts

/-- The bytes that an expression takes in one direction; `listed` says that it comes after the first
of a list of alternatives.  Only the forward automaton marks where groups start and end. -/
def footprintIn (backward listed : Bool) : Core → Nat
  | empty => stateSize
  | look _ => stateSize
  | text c cs => stateSize * Text.byteSize (c :: cs)
  | one cls => classSize backward cls
  | seq a b => a.footprintIn backward false + b.footprintIn backward false
  | alt a b =>
    match if listed then none else textsSize? backward (alt a b) with
    | some n => n
    | none =>
      a.footprintIn backward false + b.footprintIn backward true +
        if listed then branchSize else forkSize + stateSize
  | capture _ a => a.footprintIn backward false + if backward then 0 else 2 * stateSize
  | loop 0 (some 1) _ a => forkSize + stateSize + a.footprintIn backward false
  | loop least (some most) _ a =>
    let one := a.footprintIn backward false
    if least = most then least * one
    else
      (if least = 0 then stateSize else least * one) + stateSize +
        (most - least) * (forkSize + one)
  | loop 0 none _ a =>
    a.footprintIn backward false + if a.alwaysReads then forkSize else 2 * forkSize + stateSize
  | loop (n + 1) none _ a => (n + 1) * a.footprintIn backward false + forkSize

/-- An expression matches only at the end of the text where a direction begins. -/
def startsAtEdge (backward : Bool) : Core → Bool
  | look l => l == if backward then .textEnd else .textStart
  | seq a b =>
    if backward then b.startsAtEdge backward || b.readsNothing && a.startsAtEdge backward
    else a.startsAtEdge backward || a.readsNothing && b.startsAtEdge backward
  | alt a b => a.startsAtEdge backward && b.startsAtEdge backward
  | capture _ a => a.startsAtEdge backward
  | loop least _ _ a => least != 0 && a.startsAtEdge backward
  | _ => false

/-- The bytes that the automaton of an expression takes in one direction: to start anywhere or at
the edge, to match, and to accept. -/
def automatonSize (backward : Bool) (a : Core) : Nat :=
  (if a.startsAtEdge backward then stateSize else forkSize + 2 * stateSize + transitionSize) +
    a.footprintIn backward false + stateSize

/-- The bytes that a compiled expression takes in the direction that takes more.  The whole match is
a group too. -/
def footprint (a : Core) : Nat :=
  max (automatonSize false (capture 0 a)) (automatonSize true a)

/-- The bytes that a compiled expression may take. -/
def footprintLimit : Nat := 10 * 1024 * 1024

/-- The alternatives that are looked up in a table, which takes no automaton: texts, of which there
are many. -/
def isTable (a : Core) : Bool :=
  3000 ≤ a.branches.length && a.branches.all fun b => (b.bytes? false).isSome

/-- An expression is no larger than is allowed. -/
def fits (a : Core) : Bool :=
  a.isTable || a.footprint ≤ footprintLimit

end Core

end TextScan.Regex
