import TextScan.Proofs.Lexer.Expressions
import TextScan.Proofs.Regex.Threads

/-!
# Lexer — threads support the lexer

The expressions of identifiers and numbers are compiled to programs of a few instructions, and the
programs are run here state by state: one thread stands at one address before each character.

* `Lexer.matchLength?_identProgram`: the first program goes over the characters of an identifier.
* `Lexer.matchLength?_numberProgram`: the second one goes over the digits of a number and its
  fraction.
* `Lexer.supported_threads`: the engine of threads supports the lexer.
-/

namespace TextScan

/-! ### Loops -/

/-- A thread that can stop at every place, and comes back to its address after each character of a
kind, takes all of them. -/
theorem Regex.Program.run_loop {p : Regex.Program} {fresh : Regex.AddressSet} {address : Nat}
    {q : Char → Bool}
    (h : ∀ before after,
      (p.follow before after [address] fresh []).accepted = true ∧
        (p.follow before after [address] fresh []).next = if after.any q then [address] else [])
    (before : Option Char) (n : Nat) (best : Option Nat) (t : Text) :
    p.run fresh before [address] n best t = some (n + Text.byteSize (t.takeWhile q)) := by
  induction t generalizing before n best with
  | nil =>
    rw [run, (h before none).1]
    rfl
  | cons c t ih =>
    obtain ⟨hacc, hnext⟩ := h before (some c)
    rw [run_cons, hacc, hnext, List.takeWhile_cons]
    by_cases hc : q c = true
    · simp [hc, ih, Nat.add_assoc]
    · simp [hc, run_nil]

namespace Lexer

open Regex

/-! ### The classes of characters -/

def startClass : CharClass := ⟨[(65, 90), (95, 95), (97, 122)]⟩

def wordClass : CharClass := ⟨[(48, 57), (65, 90), (95, 95), (97, 122)]⟩

def digitClass : CharClass := ⟨[(48, 57)]⟩

def pointClass : CharClass := ⟨[(46, 46)]⟩

theorem startClass_contains : startClass.contains = isIdentStart := by
  funext c
  rw [Bool.eq_iff_iff, isIdentStart_iff]
  simp [startClass, Unicode.RangeSet.contains, Unicode.RangeSet.hasPoint,
    Unicode.RangeSet.inRanges]
  omega

theorem digitClass_contains : digitClass.contains = isDigit := by
  funext c
  rw [Bool.eq_iff_iff, isDigit_iff]
  simp [digitClass, Unicode.RangeSet.contains, Unicode.RangeSet.hasPoint,
    Unicode.RangeSet.inRanges]

theorem pointClass_contains : pointClass.contains = (· == '.') :=
  funext (CharClass.contains_char '.')

theorem wordClass_contains : wordClass.contains = isIdentChar := by
  funext c
  rw [isIdentChar, Bool.eq_iff_iff, Bool.or_eq_true, isIdentStart_iff, isDigit_iff]
  simp [wordClass, Unicode.RangeSet.contains, Unicode.RangeSet.hasPoint,
    Unicode.RangeSet.inRanges]
  omega

/-! ### The programs -/

/-- One start, then a loop. -/
def identProgram : Program :=
  #[.read startClass 1, .fork 2 3, .read wordClass 1, .accept]

/-- A loop of digits, then perhaps a point and a loop of digits. -/
def numberProgram : Program :=
  #[.read digitClass 1, .fork 0 2, .fork 3 6, .read pointClass 4, .read digitClass 5, .fork 4 6,
    .accept]

theorem ofText_identPattern : Program.ofText identPattern = .ok identProgram := rfl

theorem ofText_numberPattern : Program.ofText numberPattern = .ok numberProgram := rfl

/-! ### Running the first program -/

section
variable (before after : Option Char)

theorem identProgram_follow_start :
    (identProgram.follow before after [0] (.none 4) []).accepted = false ∧
      (identProgram.follow before after [0] (.none 4) []).next =
        if after.any isIdentStart then [1] else [] := by
  rw [← startClass_contains]
  exact ⟨rfl, rfl⟩

theorem identProgram_follow_loop :
    (identProgram.follow before after [1] (.none 4) []).accepted = true ∧
      (identProgram.follow before after [1] (.none 4) []).next =
        if after.any isIdentChar then [1] else [] := by
  rw [← wordClass_contains]
  exact ⟨rfl, rfl⟩

end

/-- The first program goes over the characters of an identifier. -/
theorem matchLength?_identProgram (t : Text) :
    identProgram.matchLength? none t = (Leading.ident? t).map Text.byteSize := by
  cases t with
  | nil => rfl
  | cons c t =>
    obtain ⟨hacc, hnext⟩ := identProgram_follow_start none (some c)
    show identProgram.run (.none 4) none [0] 0 none (c :: t) = _
    rw [Program.run_cons, hacc, hnext, Leading.ident?]
    by_cases hc : isIdentStart c = true
    · simp [hc, Program.run_loop identProgram_follow_loop, isIdentChar]
    · simp [hc, Program.run_nil]

/-! ### Running the second program -/

section
variable (before after : Option Char)

theorem numberProgram_follow_start :
    (numberProgram.follow before after [0] (.none 7) []).accepted = false ∧
      (numberProgram.follow before after [0] (.none 7) []).next =
        if after.any isDigit then [1] else [] := by
  rw [← digitClass_contains]
  exact ⟨rfl, rfl⟩

theorem numberProgram_follow_whole :
    (numberProgram.follow before after [1] (.none 7) []).accepted = true ∧
      (numberProgram.follow before after [1] (.none 7) []).next =
        let more := if after.any isDigit then [1] else []
        if after.any (· == '.') then 4 :: more else more := by
  rw [← digitClass_contains, ← pointClass_contains]
  exact ⟨rfl, rfl⟩

theorem numberProgram_follow_point :
    (numberProgram.follow before after [4] (.none 7) []).accepted = false ∧
      (numberProgram.follow before after [4] (.none 7) []).next =
        if after.any isDigit then [5] else [] := by
  rw [← digitClass_contains]
  exact ⟨rfl, rfl⟩

theorem numberProgram_follow_fraction :
    (numberProgram.follow before after [5] (.none 7) []).accepted = true ∧
      (numberProgram.follow before after [5] (.none 7) []).next =
        if after.any isDigit then [5] else [] := by
  rw [← digitClass_contains]
  exact ⟨rfl, rfl⟩

end

/-- After a point the program takes all digits, if there are any; else the match ends before the
point. -/
theorem numberProgram_run_point (before : Option Char) (n : Nat) (best : Option Nat) (t : Text) :
    numberProgram.run (.none 7) before [4] n best t =
      if t.head?.any isDigit then some (n + Text.byteSize (t.takeWhile isDigit)) else best := by
  cases t with
  | nil =>
    rw [Program.run, (numberProgram_follow_point before none).1]
    rfl
  | cons c t =>
    obtain ⟨hacc, hnext⟩ := numberProgram_follow_point before (some c)
    rw [Program.run_cons, hacc, hnext]
    by_cases hc : isDigit c = true
    · simp [hc, Program.run_loop numberProgram_follow_fraction, Nat.add_assoc]
    · simp [hc, Program.run_nil]

/-- After a digit the program takes all digits, and a fraction if there is one. -/
theorem numberProgram_run_whole (before : Option Char) (n : Nat) (best : Option Nat) (t : Text) :
    numberProgram.run (.none 7) before [1] n best t =
      some (n + Text.byteSize (Leading.digits t)) := by
  induction t generalizing before n best with
  | nil =>
    rw [Program.run, (numberProgram_follow_whole before none).1]
    rfl
  | cons c t ih =>
    obtain ⟨hacc, hnext⟩ := numberProgram_follow_whole before (some c)
    rw [Program.run_cons, hacc, hnext]
    by_cases hc : isDigit c = true
    · have hpoint : c ≠ '.' := by
        rintro rfl
        exact absurd hc (by decide)
      have hdigits : Leading.digits (c :: t) = c :: Leading.digits t := by
        simp [Leading.digits, hc]
      simp [hc, hpoint, ih, hdigits, Nat.add_assoc]
    · have hdigits : Leading.digits (c :: t) = Leading.fraction (c :: t) := by
        simp [Leading.digits, hc]
      rw [hdigits, Leading.fraction]
      -- a character that is no digit ends the loop, but a point does not yet end the match
      by_cases hpoint : c = '.'
      · subst hpoint
        by_cases ht : t.head?.any isDigit = true
        · simp [hc, ht, numberProgram_run_point, Nat.add_assoc]
        · simp [hc, ht, numberProgram_run_point]
      · simp [hc, hpoint, Program.run_nil]

/-- The second program goes over the digits of a number, and its fraction. -/
theorem matchLength?_numberProgram (t : Text) :
    numberProgram.matchLength? none t = (Leading.number? t).map Text.byteSize := by
  cases t with
  | nil => rfl
  | cons c t =>
    obtain ⟨hacc, hnext⟩ := numberProgram_follow_start none (some c)
    show numberProgram.run (.none 7) none [0] 0 none (c :: t) = _
    rw [Program.run_cons, hacc, hnext, Leading.number?]
    by_cases hc : isDigit c = true
    · simp [hc, numberProgram_run_whole, Leading.digits]
    · simp [hc, Program.run_nil]

/-! ### The engine -/

/-- A lexer of threads at the start of a text. -/
def ofThreads (t : Text) : Lexer Engine.threads :=
  ⟨Reader.start t, ⟨identPattern, identProgram, ofText_identPattern⟩,
    ⟨numberPattern, numberProgram, ofText_numberPattern⟩⟩

theorem ofText_threads (t : Text) : ofText Engine.threads t = .ok (ofThreads t) := by
  have hident : Anchored.ofText Engine.threads identPattern = .ok (ofThreads t).ident :=
    Anchored.ofText_eq_ok (ofThreads t).ident.compiled
  have hnumber : Anchored.ofText Engine.threads numberPattern = .ok (ofThreads t).number :=
    Anchored.ofText_eq_ok (ofThreads t).number.compiled
  rw [ofText, hident, hnumber]
  rfl

/-- **Threads support the lexer.** -/
theorem supported_threads : Supported Engine.threads where
  ident := by
    refine ⟨identProgram, ofText_identPattern, fun t => ?_⟩
    show (identProgram.matchLength? none t).map _ = _
    rw [matchLength?_identProgram, first?_identExpr, Option.map_map]
    rfl
  number := by
    refine ⟨numberProgram, ofText_numberPattern, fun t => ?_⟩
    show (numberProgram.matchLength? none t).map _ = _
    rw [matchLength?_numberProgram, first?_numberExpr, Option.map_map]
    rfl

end Lexer

end TextScan
