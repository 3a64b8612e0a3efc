/-!
# CharSet — sets of characters

A set of characters is anything that answers whether it holds a character.  A list, an array or a
vector of characters holds what it lists; a range holds what lies between its ends.  Membership is
equality of characters: nothing is normalised.
-/

namespace TextScan

/-- What can be asked whether it holds a character. -/
class CharSet (σ : Type) where
  holds : σ → Char → Bool

/-- The characters between two characters, both included. -/
structure CharRange where
  first : Char
  last : Char
  deriving DecidableEq, Repr

instance : CharSet (List Char) where
  holds s c := s.contains c

instance : CharSet (Array Char) where
  holds s c := s.contains c

instance (n : Nat) : CharSet (Vector Char n) where
  holds s c := s.toArray.contains c

instance : CharSet CharRange where
  holds s c := decide (s.first ≤ c) && decide (c ≤ s.last)

end TextScan
