/-!
# Regex — sets of addresses

The addresses of a program that were reached, kept as one byte for each address.

* `AddressSet.contains_none` and `AddressSet.contains_insert` say what a set holds.
-/

namespace TextScan.Regex

/-- A set of addresses below a bound: the bytes at them are not zero. -/
structure AddressSet where
  bytes : ByteArray

namespace AddressSet

/-- No address below `size`. -/
def none (size : Nat) : AddressSet :=
  ⟨⟨Array.replicate size 0⟩⟩

/-- An address is in a set, or is not below the bound. -/
def contains (s : AddressSet) (i : Nat) : Bool :=
  if h : i < s.bytes.size then s.bytes[i] != 0 else true

/-- One address more. -/
def insert (s : AddressSet) (i : Nat) : AddressSet :=
  if h : i < s.bytes.size then ⟨s.bytes.set i 1⟩ else s

/-- What is not below the bound counts as a byte of 1. -/
theorem contains_eq (s : AddressSet) (i : Nat) :
    s.contains i = (s.bytes.data[i]?.getD 1 != 0) := by
  by_cases h : i < s.bytes.data.size
  · have : s.contains i = (s.bytes.data[i] != 0) := dif_pos h
    rw [this, Array.getElem?_eq_getElem h, Option.getD_some]
  · have : s.contains i = true := dif_neg h
    rw [this, Array.getElem?_eq_none (Nat.le_of_not_lt h)]
    rfl

/-- The empty set has what is not below the bound. -/
@[simp]
theorem contains_none (size i : Nat) : (none size).contains i = decide (size ≤ i) := by
  by_cases h : i < size
  · simp [contains_eq, none, h]
  · simp [contains_eq, none, h, Nat.le_of_not_lt h]

/-- A set with one address more has this address and its own. -/
@[simp]
theorem contains_insert (s : AddressSet) (i j : Nat) :
    (s.insert i).contains j = (decide (i = j) || s.contains j) := by
  by_cases h : i < s.bytes.data.size
  · have : s.insert i = ⟨⟨s.bytes.data.set i 1 h⟩⟩ := dif_pos h
    by_cases hij : i = j
    · subst hij
      simp [this, contains_eq]
    · simp [this, contains_eq, hij]
  · have : s.insert i = s := dif_neg h
    by_cases hij : i = j
    · subst hij
      rw [this, contains_eq, Array.getElem?_eq_none (Nat.le_of_not_lt h)]
      simp
    · simp [this, hij]

end AddressSet

end TextScan.Regex
