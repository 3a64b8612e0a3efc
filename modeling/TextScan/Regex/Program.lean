import TextScan.Regex.Core

/-!
# Regex — programs

An expression is matched by a program: a list of instructions, each of which names those that may
come next.  Every part of an expression has instructions of its own, and so has every copy that a
counted repetition makes of its body.

* `Program.ofCore` is the program of an expression, which starts with the first instruction.
-/

namespace TextScan.Regex

/-- A step of a program. -/
inductive Instr where
  /-- The match ends here. -/
  | accept
  /-- Reads a character of a class. -/
  | read (cls : CharClass) (next : Nat)
  /-- Goes on if the place holds a condition. -/
  | look (l : Look) (next : Nat)
  | jump (next : Nat)
  /-- Goes on in two ways, of which the first is preferred. -/
  | fork (first second : Nat)
  deriving DecidableEq, Repr

namespace Core

/-- The number of instructions that an expression takes. -/
def size : Core → Nat
  | empty => 1
  | look _ => 1
  | text _ cs => cs.length + 1
  | one _ => 1
  | seq a b => a.size + b.size
  | alt a b => 1 + a.size + b.size
  | capture _ a => a.size
  | loop least (some most) _ a => least * a.size + (most - least) * (1 + a.size)
  | loop 0 none _ a => if a.alwaysReads then 1 + a.size else 2 + a.size
  | loop (n + 1) none _ a => (n + 1) * a.size + 1

/-- Enters a part or leaves it, with a preference. -/
def enterOrLeave (greedy : Bool) (inside outside : Nat) : Instr :=
  if greedy then .fork inside outside else .fork outside inside

/-- Copies one after another, each of `size` instructions: `body` lays out a copy at an address,
given the address that it goes on to.  The last copy goes on to `next`. -/
def copies (n size start next : Nat) (body : Nat → Nat → List Instr) : List Instr :=
  (List.range n).flatMap fun k =>
    body (start + k * size) (if k + 1 = n then next else start + (k + 1) * size)

/-- The instructions that read characters in a row. -/
def reads : List Char → Nat → Nat → List Instr
  | [], _, _ => []
  | [c], _, next => [.read (CharClass.char c) next]
  | c :: cs, start, next => .read (CharClass.char c) (start + 1) :: reads cs (start + 1) next

/-- The instructions of an expression from an address on.  The first of them is where it is entered,
and it goes on to `next`. -/
def layout : Core → Nat → Nat → List Instr
  | empty, _, next => [.jump next]
  | look l, _, next => [.look l next]
  | text c cs, start, next => reads (c :: cs) start next
  | one cls, _, next => [.read cls next]
  | seq a b, start, next =>
    a.layout start (start + a.size) ++ b.layout (start + a.size) next
  | alt a b, start, next =>
    .fork (start + 1) (start + 1 + a.size) ::
      (a.layout (start + 1) next ++ b.layout (start + 1 + a.size) next)
  | capture _ a, start, next => a.layout start next
  | loop least (some most) greedy a, start, next =>
    let middle := start + least * a.size
    copies least a.size start (if least = most then next else middle) a.layout ++
      copies (most - least) (1 + a.size) middle next fun start' next' =>
        enterOrLeave greedy (start' + 1) next :: a.layout (start' + 1) next'
  | loop 0 none greedy a, start, next =>
    -- A body that may read nothing needs a second choice, for what comes after its first iteration.
    if a.alwaysReads then
      enterOrLeave greedy (start + 1) next :: a.layout (start + 1) start
    else
      enterOrLeave greedy (start + 1) next ::
        (a.layout (start + 1) (start + 1 + a.size) ++ [enterOrLeave greedy (start + 1) next])
  | loop (n + 1) none greedy a, start, next =>
    let last := start + n * a.size
    copies n a.size start last a.layout ++
      (a.layout last (last + a.size) ++ [enterOrLeave greedy last next])

end Core

/-- The instructions of an expression, at their addresses. -/
abbrev Program := Array Instr

/-- The program of an expression. -/
def Program.ofCore (a : Core) : Program :=
  (a.layout 0 a.size ++ [Instr.accept]).toArray

end TextScan.Regex
