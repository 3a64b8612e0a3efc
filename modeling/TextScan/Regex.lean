import TextScan.Pattern
import TextScan.Regex.Engine

/-!
# Regex — expressions as patterns

A regular expression is compiled from its text by an engine, and is then used as a pattern in one of
two ways.  Both see the text from the offset on as the whole text: what stands before the offset is
not looked at, not even by conditions on a place.

* `Regex.Anchored` is an expression that is tried at the offset.
* `Regex.Searching` is an expression that is looked for from the offset on; its match is kept if it
  starts at the offset.
* `Regex.InvalidPattern` is why a text could not be compiled.
-/

namespace TextScan.Regex

variable {E : Engine}

/-- A text that an engine refuses, and why. -/
structure InvalidPattern (E : Engine) where
  pattern : Text
  fault : E.Fault

/-- The message quotes the pattern as it was given. -/
def InvalidPattern.message (e : InvalidPattern E) : String :=
  "invalid pattern '" ++ String.ofList e.pattern ++ "': " ++ E.describe e.fault

/-! ### Expressions that are tried -/

/-- An expression that is tried at the offset alone, and the text that it was compiled from. -/
structure Anchored (E : Engine) where
  source : Text
  matcher : E.Matcher
  compiled : E.matcher source = .ok matcher

namespace Anchored

/-- The expression of a text. -/
def ofText (E : Engine) (source : Text) : Except (InvalidPattern E) (Anchored E) :=
  match h : E.matcher source with
  | .ok m => .ok ⟨source, m, h⟩
  | .error fault => .error ⟨source, fault⟩

theorem ofText_eq_ok {source : Text} {m : E.Matcher} (h : E.matcher source = .ok m) :
    ofText E source = .ok ⟨source, m, h⟩ := by
  unfold ofText
  split
  · next m' hm =>
    obtain rfl : m = m' := Except.ok.inj (h.symm.trans hm)
    rfl
  · next fault hfault =>
    rw [h] at hfault
    cases hfault

theorem source_of_ofText {source : Text} {a : Anchored E} (h : ofText E source = .ok a) :
    a.source = source := by
  unfold ofText at h
  split at h <;> cases h
  rfl

theorem ofText_eq_error {source : Text} {e : InvalidPattern E} (h : ofText E source = .error e) :
    e.pattern = source ∧ E.matcher source = .error e.fault := by
  unfold ofText at h
  split at h
  · cases h
  · next fault hfault =>
    cases h
    exact ⟨rfl, hfault⟩

/-- The match at the start of what is left is the match at the offset. -/
def pattern (a : Anchored E) : Pattern where
  findAt t offset := do
    let rest ← Text.after? t offset
    let found ← E.tryAt a.matcher rest
    some ⟨offset + found.start, offset + found.stop⟩

end Anchored

/-! ### Expressions that are looked for -/

/-- An expression that is looked for from the offset on, and the text that it was compiled from. -/
structure Searching (E : Engine) where
  source : Text
  searcher : E.Searcher
  compiled : E.searcher source = some searcher

namespace Searching

/-- The expression of a text, if there is one. -/
def ofText? (E : Engine) (source : Text) : Option (Searching E) :=
  match h : E.searcher source with
  | some m => some ⟨source, m, h⟩
  | none => none

/-- The first match in what is left is a match at the offset if it starts there. -/
def pattern (x : Searching E) : Pattern where
  findAt t offset := do
    let rest ← Text.after? t offset
    let found ← E.search x.searcher rest
    if found.start = 0 then some ⟨offset, offset + found.stop⟩ else none

end Searching

end TextScan.Regex
