import TextScan.Regex.AddressSet
import TextScan.Regex.Program

/-!
# Regex — matching

A program is run by threads, in the order of preference.  All threads read the same character at the
same time.  Between two characters each thread goes on until it reads or accepts, and no instruction
is reached twice at one place: what comes back to an instruction would only repeat what was
preferred.  A thread that accepts rules out those after it.  So the match that is found is the one
that the preferences of the expression put first, in time linear in the text.

* `Program.matchLength?` is the match at a place of a text.
* `Program.find?` is the leftmost match in a text.
-/

namespace TextScan.Regex

/-- What threads come to at a place.  A thread is given by the address where it goes on. -/
structure Frontier where
  /-- The instructions that were reached. -/
  reached : AddressSet
  /-- The threads that read the next character, the last one first. -/
  next : List Nat
  /-- A thread accepts. -/
  accepted : Bool

namespace Program

/-- Follows one thread to the next character.  The place is given by the characters on both sides of
it, and the addresses are those where the thread goes on, best first. -/
def explore (p : Program) (before after : Option Char) :
    Nat → List Nat → AddressSet → List Nat → Frontier
  | 0, _, reached, next => ⟨reached, next, false⟩
  | _ + 1, [], reached, next => ⟨reached, next, false⟩
  | fuel + 1, i :: more, reached, next =>
    if reached.contains i then explore p before after fuel more reached next
    else
      let reached := reached.insert i
      match p[i]? with
      | none => explore p before after fuel more reached next
      | some .accept => ⟨reached, next, true⟩
      | some (.read cls j) =>
        explore p before after fuel more reached
          (if after.any cls.contains then j :: next else next)
      | some (.look l j) =>
        explore p before after fuel (if l.holds before after then j :: more else more) reached next
      | some (.jump j) => explore p before after fuel (j :: more) reached next
      | some (.fork j k) => explore p before after fuel (j :: k :: more) reached next

/-- Follows threads to the next character, up to one that accepts.  Each instruction adds one
address at most, and only when it is reached first, so the steps that are allowed are enough. -/
def follow (p : Program) (before after : Option Char) :
    List Nat → AddressSet → List Nat → Frontier
  | [], reached, next => ⟨reached, next, false⟩
  | i :: threads, reached, next =>
    let f := p.explore before after (2 * p.size + 1) [i] reached next
    if f.accepted then f else follow p before after threads f.reached f.next

/-- Runs threads through a text.  `n` bytes are read, `best` is the end of the best match among
them, and `fresh` is the set of no address. -/
def run (p : Program) (fresh : AddressSet) (before : Option Char) (threads : List Nat) (n : Nat)
    (best : Option Nat) : List Char → Option Nat
  | [] => if (p.follow before none threads fresh []).accepted then some n else best
  | c :: t =>
    let f := p.follow before (some c) threads fresh []
    let best := if f.accepted then some n else best
    if f.next = [] then best else run p fresh (some c) f.next.reverse (n + c.utf8Size) best t

/-- The number of bytes of the match at the start of a text, after a character or none. -/
def matchLength? (p : Program) (before : Option Char) (t : List Char) : Option Nat :=
  p.run (.none p.size) before [0] 0 none t

/-- The start and the end of the leftmost match in a text, after a character or none, and after a
number of bytes. -/
def find? (p : Program) (before : Option Char) (n : Nat) : List Char → Option (Nat × Nat)
  | [] => (p.matchLength? before []).map fun k => (n, n + k)
  | c :: t =>
    match p.matchLength? before (c :: t) with
    | some k => some (n, n + k)
    | none => find? p (some c) (n + c.utf8Size) t

end Program

end TextScan.Regex
