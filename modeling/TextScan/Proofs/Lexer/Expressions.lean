import TextScan.Lexer.Expressions
import TextScan.Proofs.Lexer.Tokens
import TextScan.Proofs.Regex.Preference

/-!
# Lexer — words by their expressions

The preferred match of each of the two expressions goes as far as its characters do.  So a lexer
whose engine reads the expressions finds the words of the language.

* `Lexer.first?_identExpr`, `Lexer.first?_numberExpr`: what the expressions match is a word.
* `Lexer.Supported.exists_ofText`: a lexer with a supporting engine.
* `Lexer.neverEmpty_words`: words are not empty if the expressions never match nothing.
-/

namespace TextScan.Lexer

open Regex (Engine Anchored Re)

/-! ### Identifiers -/

/-- **An identifier** is what its expression matches. -/
theorem first?_identExpr (t : Text) : identExpr.first? t = Leading.ident? t := by
  cases t with
  | nil => rfl
  | cons c t =>
    rw [Re.first?_eq, identExpr, Re.best?_char_seq, Re.best?_star_char, Leading.ident?]
    cases hc : isIdentStart c with
    | false => simp [hc]
    | true => simp [hc, isIdentChar]

/-! ### Numbers -/

/-- A fraction is what the last part of the expression matches, which fails nowhere. -/
theorem best?_fraction (t : Text) :
    ((Re.opt (.seq (.char (· == '.')) (.plus (.char isDigit)))).best? t).map Prod.fst =
      some (Leading.fraction t) := by
  rw [Re.opt, Re.best?_either]
  cases t with
  | nil => rfl
  | cons c t =>
    rw [Re.best?_char_seq, Re.best?_plus_char, Leading.fraction]
    by_cases hpoint : c = '.'
    · subst hpoint
      cases t.head?.any isDigit <;> rfl
    · simp [hpoint, Re.best?, Re.splits]

/-- **A number** is what its expression matches. -/
theorem first?_numberExpr (t : Text) : numberExpr.first? t = Leading.number? t := by
  -- the last part fails nowhere, so the digits before it are never given back
  have hopt : ∀ t, (Re.opt (.seq (.char (· == '.')) (.plus (.char isDigit)))).splits t ≠ [] := by
    intro t
    simp [Re.opt, Re.splits]
  rw [Re.first?_eq, numberExpr, Re.best?_seq hopt, Re.best?_plus_char, Leading.number?]
  by_cases hdigit : t.head?.any isDigit = true
  · obtain ⟨s, hs, hfraction⟩ := Option.map_eq_some_iff.1 (best?_fraction (t.dropWhile isDigit))
    rw [if_pos hdigit, if_pos hdigit, Option.bind_some, hs, Leading.digits, ← hfraction]
    rfl
  · rw [if_neg hdigit, if_neg hdigit]
    rfl

/-! ### The words of a lexer -/

variable {E : Engine} {x : Lexer E} {t : Text}

/-- **An engine that supports the lexer** makes one for every text, which finds the words of the
language. -/
theorem Supported.exists_ofText (h : Supported E) (t : Text) :
    ∃ x, ofText E t = .ok x ∧ x.words = .language := by
  obtain ⟨ident, hident, hidents⟩ := Anchored.exists_of_reads h.ident
  obtain ⟨number, hnumber, hnumbers⟩ := Anchored.exists_of_reads h.number
  refine ⟨⟨Reader.start t, ident, number⟩, by rw [ofText, hident, hnumber]; rfl, ?_⟩
  exact Words.ext (funext fun t => (hidents t).trans (first?_identExpr t))
    (funext fun t => (hnumbers t).trans (first?_numberExpr t))

/-- Such an engine never matches nothing with the two expressions. -/
theorem Supported.neverEmpty (h : Supported E) :
    E.NeverEmpty identPattern ∧ E.NeverEmpty numberPattern := by
  refine ⟨h.ident.neverEmpty fun t => ?_, h.number.neverEmpty fun t => ?_⟩
  · rw [first?_identExpr]
    exact Leading.neverEmpty_language.ident t
  · rw [first?_numberExpr]
    exact Leading.neverEmpty_language.number t

/-- **Words are not empty** where the engine never matches nothing with the two expressions. -/
theorem neverEmpty_words (hident : E.NeverEmpty identPattern) (hnumber : E.NeverEmpty numberPattern)
    (h : ofText E t = .ok x) : x.words.NeverEmpty := by
  obtain ⟨-, hi, hn⟩ := ofText_eq_ok h
  exact ⟨Anchored.first?_ne_nil (by rwa [hi]), Anchored.first?_ne_nil (by rwa [hn])⟩

end TextScan.Lexer
