import TextScan.Regex.Quoting

/-!
# Regex — the match that is preferred

An expression matches first parts of a text, some before others: what stands first of two
alternatives is preferred, and so is another iteration before none.  The match that counts is the
first one in this order.

* `Re` are expressions without their syntax.
* `Re.splits` are all matches at the start of a text, the preferred one first, and `Re.first?` is
  this one.
* `Engine.Reads`: an engine compiles a text, and finds the first match of an expression with it.
* `Engine.ReadsLiterals`: an engine reads what spells a text as the characters of the text.
-/

namespace TextScan.Regex

/-- An expression: characters with a property, one thing after another, one of two things, and a
thing any number of times. -/
inductive Re where
  | empty
  | char (p : Char → Bool)
  | seq (first second : Re)
  | either (first second : Re)
  | star (body : Re)

namespace Re

/-- The ways to go on after one of several matches, each given with what it leaves. -/
def extend (found : List (Text × Text)) (next : Text → List (Text × Text)) : List (Text × Text) :=
  found.flatMap fun s => (next s.2).map fun s' => (s.1 ++ s'.1, s'.2)

/-- Up to a number of matches, one after another, each of which takes something. -/
def iterate (step : Text → List (Text × Text)) : Nat → Text → List (Text × Text)
  | 0, t => [([], t)]
  | n + 1, t => extend ((step t).filter (!·.1.isEmpty)) (iterate step n) ++ [([], t)]

/-- The matches at the start of a text, the preferred one first, each with what it leaves. -/
def splits : Re → Text → List (Text × Text)
  | empty, t => [([], t)]
  | char _, [] => []
  | char p, c :: t => if p c then [([c], t)] else []
  | seq a b, t => extend (a.splits t) b.splits
  | either a b, t => a.splits t ++ b.splits t
  | star a, t => iterate a.splits t.length t

/-- The preferred match at the start of a text. -/
def first? (re : Re) (t : Text) : Option Text :=
  (re.splits t).head?.map Prod.fst

/-- A thing once at least. -/
def plus (re : Re) : Re :=
  seq re (star re)

/-- A thing once, or else nothing. -/
def opt (re : Re) : Re :=
  either re empty

/-- The characters of a text. -/
def literal : Text → Re
  | [] => empty
  | c :: s => seq (char (· == c)) (literal s)

end Re

/-! ### What an engine is trusted with -/

namespace Engine

/-- A matcher finds the first match of an expression at the start of every text. -/
def FindsFirst (E : Engine) (m : E.Matcher) (re : Re) : Prop :=
  ∀ t, E.tryAt m t = (re.first? t).map fun w => ⟨0, Text.byteSize w⟩

/-- **An engine reads a text as an expression**: it compiles the text, and finds the first match. -/
def Reads (E : Engine) (p : Text) (re : Re) : Prop :=
  ∃ m, E.matcher p = .ok m ∧ E.FindsFirst m re

/-- **An engine reads literals.**  What spells a text is an expression, which may be too large but
is not at fault, and matches the characters of the text. -/
def ReadsLiterals (E : Engine) : Prop :=
  ∀ p s, Spells p s →
    match E.matcher p with
    | .ok m => E.FindsFirst m (Re.literal s)
    | .error fault => E.isSyntaxFault fault = false ∧ E.isSizeFault fault = true

end Engine

end TextScan.Regex
