import TextScan.Lexer.Layout
import TextScan.Lexer.Munch

/-!
# Lexer — the first token is the longest

The token that a text starts with is the longest that is a first part of it, and it is read back
wherever nothing follows that it goes on with.  This holds for the words of the language; for others
no more is known than that what is found is a first part of the text.

* `Leading.token?_cases`: what is found is a token that the text starts with, or a word.
* `Leading.starts_of_token?`: with the words of the language, it is a token in any case.
* `Leading.token?_of_starts`: where the text starts with a token, one is found that is no shorter.
* `Leading.token?_eq_some_iff`: what is found is the longest token.
* `Leading.token?_raw`: the form of a token starts with that token, where it ends.
-/

namespace TextScan

open Lexer (isStringChar)

/-! ### First parts of a text -/

namespace Text

/-- Characters with a property are taken up to one without it. -/
theorem takeWhile_append {p : Char → Bool} {t u : Text} (ht : t.all p = true)
    (hu : ∀ c, u.head? = some c → p c = false) : (t ++ u).takeWhile p = t := by
  rw [List.takeWhile_append_of_pos (List.all_eq_true.1 ht)]
  cases u with
  | nil => exact List.append_nil t
  | cons c u => simp [hu c rfl]

/-- The part after the characters with a property starts with the first one without it. -/
theorem dropWhile_append {p : Char → Bool} {t u : Text} (ht : t.all p = true)
    (hu : ∀ c, u.head? = some c → p c = false) : (t ++ u).dropWhile p = u := by
  rw [List.dropWhile_append_of_pos (List.all_eq_true.1 ht)]
  cases u with
  | nil => rfl
  | cons c u => simp [hu c rfl]

/-- A first part whose characters have a property is among the characters taken for it. -/
theorem le_takeWhile {p : Char → Bool} {m t : Text} (hm : m.all p = true) (h : m <+: t) :
    m <+: t.takeWhile p := by
  obtain ⟨w, rfl⟩ := h
  rw [List.takeWhile_append_of_pos (List.all_eq_true.1 hm)]
  exact List.prefix_append m _

end Text

/-! ### Characters -/

/-- A test tells characters apart. -/
theorem ne_of_test {p : Char → Bool} {c d : Char} (hc : p c = true) (hd : p d = false) : c ≠ d := by
  rintro rfl
  rw [hc] at hd
  cases hd

/-- Digits start with a digit. -/
theorem exists_cons_of_isDigits {t : Text} (h : isDigits t = true) :
    ∃ c u, t = c :: u ∧ isDigit c = true ∧ u.all isDigit = true := by
  cases t with
  | nil => cases h
  | cons c u => exact ⟨c, u, rfl, by simpa [isDigits] using h⟩

/-- A number is digits alone, or digits on both sides of a point. -/
theorem isNumber_iff {t : Text} :
    isNumber t = true ↔
      isDigits t = true ∨
        ∃ m w, t = m ++ '.' :: w ∧ isDigits m = true ∧ isDigits w = true := by
  constructor
  · intro h
    rw [isNumber] at h
    split at h
    · exact .inl h
    · next c w hw =>
      simp only [Bool.and_eq_true, beq_iff_eq] at h
      obtain ⟨⟨rfl, hm⟩, hw'⟩ := h
      refine .inr ⟨t.takeWhile isDigit, w, ?_, hm, hw'⟩
      rw [← hw, List.takeWhile_append_dropWhile]
  · rintro (h | ⟨m, w, rfl, hm, hw⟩)
    · have hall : t.all isDigit = true := (Bool.and_eq_true_iff.1 h).2
      have hdrop : (t ++ []).dropWhile isDigit = [] := Text.dropWhile_append hall (by simp)
      rw [List.append_nil] at hdrop
      rw [isNumber, hdrop]
      exact h
    · have hall : m.all isDigit = true := (Bool.and_eq_true_iff.1 hm).2
      have hpoint : ∀ c, ('.' :: w).head? = some c → isDigit c = false := by
        rintro c hc
        obtain rfl := Option.some.inj hc
        decide
      rw [isNumber, Text.dropWhile_append hall hpoint, Text.takeWhile_append hall hpoint]
      simp [hm, hw]

/-- A number starts with a digit. -/
theorem exists_cons_of_isNumber {t : Text} (h : isNumber t = true) :
    ∃ c u, t = c :: u ∧ isDigit c = true := by
  rcases isNumber_iff.1 h with h | ⟨m, w, rfl, hm, -⟩
  · obtain ⟨c, u, rfl, hc, -⟩ := exists_cons_of_isDigits h
    exact ⟨c, u, rfl, hc⟩
  · obtain ⟨c, u, rfl, hc, -⟩ := exists_cons_of_isDigits hm
    exact ⟨c, u ++ '.' :: w, rfl, hc⟩

/-- An identifier starts with a letter or an underscore. -/
theorem exists_cons_of_isIdent {t : Text} (h : isIdent t = true) :
    ∃ c u, t = c :: u ∧ isIdentStart c = true ∧ u.all isIdentChar = true := by
  cases t with
  | nil => cases h
  | cons c u =>
    obtain ⟨hc, hu⟩ := Bool.and_eq_true_iff.1 h
    exact ⟨c, u, rfl, hc, hu⟩

theorem all_of_isIdent {t : Text} (h : isIdent t = true) : t.all isIdentChar = true := by
  obtain ⟨c, u, rfl, hc, hu⟩ := exists_cons_of_isIdent h
  simp [isIdentChar, hc, hu]

/-- An operator starts with a sign. -/
theorem Operator.exists_cons (op : Operator) :
    ∃ c u, op.text = c :: u ∧ isIdentChar c = false := by
  cases op <;> exact ⟨_, _, rfl, by decide⟩

/-- The form of a token is not empty. -/
theorem Token.exists_cons_of_raw {tk : Token} (h : tk.isWellFormed = true) :
    ∃ c u, tk.raw = c :: u := by
  cases tk with
  | ident name =>
    obtain ⟨c, u, rfl, -⟩ := exists_cons_of_isIdent h
    exact ⟨c, u, rfl⟩
  | number t =>
    obtain ⟨c, u, rfl, -⟩ := exists_cons_of_isNumber h
    exact ⟨c, u, rfl⟩
  | str content => exact ⟨_, _, rfl⟩
  | op op =>
    obtain ⟨c, u, hop, -⟩ := op.exists_cons
    exact ⟨c, u, hop⟩
  | comment content => exact ⟨_, _, rfl⟩
  | newline => exact ⟨_, _, rfl⟩

/-- No other token holds a newline. -/
theorem Token.eq_newline_of_mem {tk : Token} (h : tk.isWellFormed = true) (hmem : '\n' ∈ tk.raw) :
    tk = newline := by
  cases tk with
  | ident name => exact absurd (List.all_eq_true.1 (all_of_isIdent h) _ hmem) (by decide)
  | number t =>
    rcases isNumber_iff.1 h with h | ⟨m, w, rfl, hm, hw⟩
    · exact absurd (List.all_eq_true.1 (Bool.and_eq_true_iff.1 h).2 _ hmem) (by decide)
    · rcases List.mem_append.1 hmem with hmem | hmem
      · exact absurd (List.all_eq_true.1 (Bool.and_eq_true_iff.1 hm).2 _ hmem) (by decide)
      · rcases List.mem_cons.1 hmem with hmem | hmem
        · cases hmem
        · exact absurd (List.all_eq_true.1 (Bool.and_eq_true_iff.1 hw).2 _ hmem) (by decide)
  | str content =>
    have hcontent : '\n' ∈ content := by simpa [raw] using hmem
    exact absurd (List.all_eq_true.1 h _ hcontent) (by decide)
  | op o =>
    revert hmem
    cases o <;> decide
  | comment content =>
    have hcontent : '\n' ∈ content := by simpa [raw] using hmem
    exact absurd (List.all_eq_true.1 h _ hcontent) (by decide)
  | newline => rfl

/-! ### The characters of a number -/

namespace Leading

variable {c : Char} {t m rest : Text}

/-- A fraction is a point and digits, or nothing. -/
theorem fraction_cases (t : Text) :
    fraction t = [] ∨ ∃ w, fraction t = '.' :: w ∧ isDigits w = true := by
  cases t with
  | nil => exact .inl rfl
  | cons c t =>
    rw [fraction]
    split
    · next h =>
      obtain ⟨hc, ht⟩ := Bool.and_eq_true_iff.1 h
      obtain rfl := beq_iff_eq.1 hc
      cases t with
      | nil => cases ht
      | cons d t => exact .inr ⟨_, rfl, by simp [isDigits, show isDigit d = true from ht]⟩
    · exact .inl rfl

/-- What starts with a digit starts with a number. -/
theorem isNumber_digits (hc : isDigit c = true) : isNumber (digits (c :: t)) = true := by
  have hwhole : isDigits ((c :: t).takeWhile isDigit) = true := by simp [isDigits, hc]
  rw [digits]
  rcases fraction_cases ((c :: t).dropWhile isDigit) with h | ⟨w, h, hw⟩
  · rw [h, List.append_nil]
    exact isNumber_iff.2 (.inl hwhole)
  · rw [h]
    exact isNumber_iff.2 (.inr ⟨_, w, rfl, hwhole, hw⟩)

/-- Before a point and a digit, digits end, and the fraction goes on over all digits. -/
theorem digits_point {w : Text} (hm : m.all isDigit = true) (hw : isDigits w = true) :
    digits (m ++ '.' :: (w ++ rest)) = m ++ '.' :: (w ++ rest.takeWhile isDigit) := by
  have hpoint : ∀ d, ('.' :: (w ++ rest)).head? = some d → isDigit d = false := by
    rintro d hd
    obtain rfl := Option.some.inj hd
    decide
  have hall : w.all isDigit = true := (Bool.and_eq_true_iff.1 hw).2
  have hfraction : fraction ('.' :: (w ++ rest)) = '.' :: (w ++ rest.takeWhile isDigit) := by
    obtain ⟨c, u, rfl, hc, -⟩ := exists_cons_of_isDigits hw
    rw [fraction, if_pos (by simp [hc]),
      List.takeWhile_append_of_pos (List.all_eq_true.1 hall)]
  rw [digits, Text.takeWhile_append hm hpoint, Text.dropWhile_append hm hpoint, hfraction]

/-- No number that a text starts with is longer than its digits. -/
theorem le_digits (hm : isNumber m = true) (h : m <+: t) : m <+: digits t := by
  rcases isNumber_iff.1 hm with hm | ⟨m, w, rfl, hm, hw⟩
  · exact (Text.le_takeWhile (Bool.and_eq_true_iff.1 hm).2 h).trans (List.prefix_append _ _)
  · obtain ⟨rest, rfl⟩ := h
    rw [List.append_assoc, List.cons_append, digits_point (Bool.and_eq_true_iff.1 hm).2 hw,
      ← List.cons_append, ← List.append_assoc]
    exact List.prefix_append _ _

end Leading

/-! ### The kinds by the first character -/

namespace Leading

variable {c : Char} {t rest : Text}

/-- No sign starts what starts with a letter, an underscore or a digit. -/
theorem signs_eq_none (h : isIdentChar c = true) :
    newline? (c :: t) = none ∧ comment? (c :: t) = none ∧ operator? (c :: t) = none := by
  refine ⟨?_, ?_, ?_⟩
  · simp [newline?, ne_of_test h (d := '\n') (by decide)]
  · simp [comment?, ne_of_test h (d := '#') (by decide)]
  · have hsign : ∀ op ∈ Operator.all, ¬ op.text.isPrefixOf (c :: t) = true := by
      intro op _
      obtain ⟨d, u, hop, hd⟩ := op.exists_cons
      simp [hop, (ne_of_test h hd).symm]
    rw [operator?, List.find?_eq_none.2 hsign]
    rfl

/-- What starts as an identifier is one, as far as its characters go. -/
theorem token?_of_isIdentStart (hc : isIdentStart c = true) :
    token? .language (c :: t) = some (.ident ((c :: t).takeWhile isIdentChar)) := by
  obtain ⟨h₁, h₂, h₃⟩ := signs_eq_none (c := c) (t := t) (by simp [isIdentChar, hc])
  simp [token?, plain?, h₁, h₂, h₃, Words.language, ident?, hc]

/-- What starts with a digit is a number. -/
theorem token?_of_isDigit (hc : isDigit c = true) :
    token? .language (c :: t) = some (.number (digits (c :: t))) := by
  obtain ⟨h₁, h₂, h₃⟩ := signs_eq_none (c := c) (t := t) (by simp [isIdentChar, hc])
  simp [token?, plain?, h₁, h₂, h₃, Words.language, ident?, isIdentStart_of_isDigit hc, number?, hc]

theorem token?_hash (t : Text) :
    token? .language ('#' :: t) = some (.comment (t.takeWhile (· != '\n'))) := rfl

/-! ### One token read back -/

theorem token?_ident {name : Text} (hname : isIdent name = true)
    (hrest : (Token.ident name).EndsAt rest) :
    token? .language (name ++ rest) = some (.ident name) := by
  have htake : (name ++ rest).takeWhile isIdentChar = name :=
    Text.takeWhile_append (all_of_isIdent hname) fun c hc => by
      simpa [Token.stopsAt] using hrest c hc
  obtain ⟨c, u, rfl, hc, -⟩ := exists_cons_of_isIdent hname
  rw [List.cons_append] at htake ⊢
  rw [token?_of_isIdentStart hc, htake]

/-- Digits, and a fraction if there is one, are all that is read of a number. -/
theorem digits_append {t : Text} (ht : isNumber t = true) (hrest : (Token.number t).EndsAt rest) :
    digits (t ++ rest) = t := by
  have hstop : ∀ c, rest.head? = some c → isDigit c = false ∧ c ≠ '.' := fun c hc => by
    simpa [Token.stopsAt] using hrest c hc
  have hdigit : ∀ c, rest.head? = some c → isDigit c = false := fun c hc => (hstop c hc).1
  rcases isNumber_iff.1 ht with h | ⟨m, w, rfl, hm, hw⟩
  · have hall : t.all isDigit = true := (Bool.and_eq_true_iff.1 h).2
    have hnone : fraction rest = [] := by
      cases rest with
      | nil => rfl
      | cons d rest => simp [fraction, (hstop d rfl).2]
    rw [digits, Text.takeWhile_append hall hdigit, Text.dropWhile_append hall hdigit, hnone,
      List.append_nil]
  · -- the point ends the digits before it, and `rest` ends those after it
    have hrest' : rest.takeWhile isDigit = [] :=
      Text.takeWhile_append (t := []) rfl hdigit
    rw [List.append_assoc, List.cons_append, digits_point (Bool.and_eq_true_iff.1 hm).2 hw, hrest',
      List.append_nil]

theorem token?_number {t : Text} (ht : isNumber t = true) (hrest : (Token.number t).EndsAt rest) :
    token? .language (t ++ rest) = some (.number t) := by
  have htake := digits_append ht hrest
  obtain ⟨c, u, rfl, hc⟩ := exists_cons_of_isNumber ht
  rw [List.cons_append] at htake ⊢
  rw [token?_of_isDigit hc, htake]

theorem token?_str {content : Text} (h : content.all isStringChar = true) :
    token? .language ((Token.str content).raw ++ rest) = some (.str content) := by
  have hquote : ∀ c, ('"' :: rest).head? = some c → isStringChar c = false := by
    intro c hc
    obtain rfl := Option.some.inj hc
    decide
  have hraw : (Token.str content).raw ++ rest = '"' :: (content ++ '"' :: rest) := by
    simp [Token.raw]
  have hplain : plain? .language ('"' :: (content ++ '"' :: rest)) = none := rfl
  rw [hraw, token?, hplain, str?, List.tail_cons, Text.dropWhile_append h hquote,
    Text.takeWhile_append h hquote]
  rfl

theorem token?_comment {content : Text} (h : content.all (· != '\n') = true)
    (hrest : (Token.comment content).EndsAt rest) :
    token? .language ((Token.comment content).raw ++ rest) = some (.comment content) := by
  have hline : (content ++ rest).takeWhile (· != '\n') = content :=
    Text.takeWhile_append h fun c hc => by simpa [Token.stopsAt] using hrest c hc
  rw [Token.raw, List.cons_append, token?_hash, hline]

theorem token?_op (op : Operator) (hrest : (Token.op op).EndsAt rest) :
    token? .language (op.text ++ rest) = some (.op op) := by
  cases op with
  | assign =>
    cases rest with
    | nil => rfl
    | cons c rest =>
      have hc : c ≠ '=' := by simpa [Token.stopsAt] using hrest c rfl
      simp [token?, plain?, newline?, comment?, operator?, Operator.all, Operator.text, hc.symm]
  | _ => rfl

/-- **The form of a token starts with that token**, where it ends. -/
theorem token?_raw {tk : Token} (h : tk.isWellFormed = true) (hrest : tk.EndsAt rest) :
    token? .language (tk.raw ++ rest) = some tk := by
  cases tk with
  | ident name => exact token?_ident h hrest
  | number t => exact token?_number h hrest
  | str content => exact token?_str h
  | op op => exact token?_op op hrest
  | comment content => exact token?_comment h hrest
  | newline => rfl

end Leading

/-- A form is that of one token only. -/
theorem Token.eq_of_raw_eq {tk tk' : Token} (h : tk.isWellFormed = true)
    (h' : tk'.isWellFormed = true) (hraw : tk'.raw = tk.raw) : tk' = tk := by
  have hend : ∀ tk : Token, tk.EndsAt [] := fun _ _ hc => by cases hc
  have htk := Leading.token?_raw h (hend tk)
  rw [← hraw, Leading.token?_raw h' (hend tk')] at htk
  exact Option.some.inj htk

/-! ### The longest token -/

namespace Leading

variable {t : Text} {tk : Token}

theorem starts_of_newline? (h : newline? t = some tk) : tk.Starts t := by
  rw [newline?] at h
  split at h
  · next hc =>
    obtain ⟨u, rfl⟩ := List.head?_eq_some_iff.1 hc
    obtain rfl := Option.some.inj h
    exact ⟨rfl, u, rfl⟩
  · cases h

theorem starts_of_comment? (h : comment? t = some tk) : tk.Starts t := by
  rw [comment?] at h
  split at h
  · next hc =>
    obtain ⟨u, rfl⟩ := List.head?_eq_some_iff.1 hc
    obtain rfl := Option.some.inj h
    exact ⟨List.all_takeWhile, List.cons_prefix_cons.2 ⟨rfl, List.takeWhile_prefix _⟩⟩
  · cases h

theorem starts_of_operator? (h : operator? t = some tk) : tk.Starts t := by
  obtain ⟨op, hop, rfl⟩ := Option.map_eq_some_iff.1 h
  have hfound := List.find?_some hop
  exact ⟨rfl, List.isPrefixOf_iff_prefix.1 hfound⟩

theorem starts_of_ident? {m : Text} (h : ident? t = some m) : (Token.ident m).Starts t := by
  rw [ident?] at h
  split at h
  · next hc =>
    obtain rfl := Option.some.inj h
    cases t with
    | nil => cases hc
    | cons c u =>
      have hstart : isIdentStart c = true := hc
      have hident : isIdent ((c :: u).takeWhile isIdentChar) = true := by
        rw [List.takeWhile_cons, if_pos (by simp [isIdentChar, hstart]), isIdent, hstart]
        exact List.all_takeWhile
      exact ⟨hident, List.takeWhile_prefix _⟩
  · cases h

theorem starts_of_number? {m : Text} (h : number? t = some m) : (Token.number m).Starts t := by
  rw [number?] at h
  split at h
  · next hc =>
    obtain rfl := Option.some.inj h
    cases t with
    | nil => cases hc
    | cons c u => exact ⟨isNumber_digits hc, digits_prefix (c :: u)⟩
  · cases h

theorem starts_of_str? (h : str? t = some tk) : tk.Starts t := by
  rw [str?] at h
  split at h
  · next hc =>
    obtain ⟨hquote, hclose⟩ := hc
    obtain ⟨u, rfl⟩ := List.head?_eq_some_iff.1 hquote
    obtain ⟨w, hw⟩ := List.head?_eq_some_iff.1 hclose
    obtain rfl := Option.some.inj h
    refine ⟨List.all_takeWhile, w, ?_⟩
    rw [List.tail_cons] at hw ⊢
    simp [Token.raw, ← hw, List.takeWhile_append_dropWhile]
  · cases h

/-- **What is found is a token that the text starts with**, or a word as words are found. -/
theorem token?_cases {w : Words} (h : token? w t = some tk) :
    tk.Starts t ∨ (∃ m, w.ident t = some m ∧ tk = .ident m) ∨
      ∃ m, w.number t = some m ∧ tk = .number m := by
  simp only [token?, plain?, Option.orElse_eq_orElse, Option.orElse_eq_or,
    Option.or_eq_some_iff, Option.map_eq_some_iff] at h
  rcases h with
    (h | ⟨-, h | ⟨-, h | ⟨-, ⟨m, hm, rfl⟩ | ⟨-, m, hm, rfl⟩⟩⟩⟩) | ⟨-, h⟩
  · exact .inl (starts_of_newline? h)
  · exact .inl (starts_of_comment? h)
  · exact .inl (starts_of_operator? h)
  · exact .inr (.inl ⟨m, hm, rfl⟩)
  · exact .inr (.inr ⟨m, hm, rfl⟩)
  · exact .inl (starts_of_str? h)

/-- What is found is a first part of the text, however words are found. -/
theorem raw_prefix_of_token? {w : Words} (h : token? w t = some tk) : tk.raw <+: t := by
  rcases token?_cases h with hstarts | ⟨m, hm, rfl⟩ | ⟨m, hm, rfl⟩
  · exact hstarts.found
  · exact w.ident_prefix hm
  · exact w.number_prefix hm

/-- What is found takes something, if all words do. -/
theorem raw_ne_nil_of_token? {w : Words} (hw : w.NeverEmpty) (h : token? w t = some tk) :
    tk.raw ≠ [] := by
  rcases token?_cases h with hstarts | ⟨m, hm, rfl⟩ | ⟨m, hm, rfl⟩
  · obtain ⟨c, u, hraw⟩ := Token.exists_cons_of_raw hstarts.wellFormed
    simp [hraw]
  · rintro rfl
    exact hw.ident t hm
  · rintro rfl
    exact hw.number t hm

/-- **With the words of the language**, what is found is a token that the text starts with. -/
theorem starts_of_token? (h : token? .language t = some tk) : tk.Starts t := by
  rcases token?_cases h with hstarts | ⟨m, hm, rfl⟩ | ⟨m, hm, rfl⟩
  · exact hstarts
  · exact starts_of_ident? hm
  · exact starts_of_number? hm

/-- With the words of the language, a text that starts with a token starts with no blank. -/
theorem bare_of_token? (h : token? .language t = some tk) : Bare t := by
  intro c hc
  obtain ⟨t, rfl⟩ := List.head?_eq_some_iff.1 hc
  rw [Reader.isBlank, Bool.or_eq_false_iff]
  constructor
  · refine beq_false_of_ne ?_
    rintro rfl
    cases h
  · refine beq_false_of_ne ?_
    rintro rfl
    cases h

/-- The words of the language are not empty. -/
theorem neverEmpty_language : Words.language.NeverEmpty where
  ident t h := by cases (starts_of_ident? h).wellFormed
  number t h := by cases (starts_of_number? h).wellFormed

/-- **Where a text starts with a token, one is found that is no shorter.** -/
theorem token?_of_starts (h : tk.Starts t) :
    ∃ tk', token? .language t = some tk' ∧ tk.raw <+: tk'.raw := by
  obtain ⟨hkind, hfound⟩ := h
  cases tk with
  | ident name =>
    obtain ⟨c, u, rfl, hc, hu⟩ := exists_cons_of_isIdent hkind
    have hall : (c :: u).all isIdentChar = true := all_of_isIdent hkind
    have htake := Text.le_takeWhile hall hfound
    obtain ⟨rest, rfl⟩ := hfound
    exact ⟨_, token?_of_isIdentStart hc, htake⟩
  | number m =>
    obtain ⟨c, u, rfl, hc⟩ := exists_cons_of_isNumber hkind
    have htake := le_digits hkind hfound
    obtain ⟨rest, rfl⟩ := hfound
    exact ⟨_, token?_of_isDigit hc, htake⟩
  | str content =>
    obtain ⟨rest, rfl⟩ := hfound
    exact ⟨_, token?_str hkind, List.prefix_rfl⟩
  | op op =>
    obtain ⟨rest, rfl⟩ := hfound
    cases op with
    | assign =>
      -- the assignment alone is the beginning of another operator
      by_cases hnext : rest.head? = some '='
      · obtain ⟨rest, rfl⟩ := List.head?_eq_some_iff.1 hnext
        exact ⟨.op .equal, rfl, ['='], rfl⟩
      · refine ⟨_, token?_op .assign fun c hc => ?_, List.prefix_rfl⟩
        have hne : c ≠ '=' := fun h => hnext (h ▸ hc)
        simp [Token.stopsAt, hne]
    | _ => exact ⟨_, rfl, List.prefix_rfl⟩
  | comment content =>
    obtain ⟨rest, rfl⟩ := hfound
    refine ⟨_, token?_hash _, ?_⟩
    exact List.cons_prefix_cons.2 ⟨rfl, Text.le_takeWhile hkind (List.prefix_append _ _)⟩
  | newline =>
    obtain ⟨rest, rfl⟩ := hfound
    exact ⟨_, rfl, List.prefix_rfl⟩

/-- **The token that is found is the longest one.** -/
theorem token?_eq_some_iff : token? .language t = some tk ↔ tk.IsLongest t := by
  constructor
  · intro h
    refine ⟨starts_of_token? h, fun tk' htk' => ?_⟩
    obtain ⟨tk₀, h₀, hle⟩ := token?_of_starts htk'
    obtain rfl : tk₀ = tk := Option.some.inj (h₀.symm.trans h)
    exact hle.length_le
  · intro h
    obtain ⟨tk₀, h₀, hle⟩ := token?_of_starts h.toStarts
    have hstarts := starts_of_token? h₀
    have hraw : tk.raw = tk₀.raw := hle.eq_of_length_le (h.longest tk₀ hstarts)
    rw [h₀, Token.eq_of_raw_eq hstarts.wellFormed h.wellFormed hraw]

theorem token?_eq_none_iff : token? .language t = none ↔ ∀ tk : Token, ¬ tk.Starts t := by
  constructor
  · intro h tk htk
    obtain ⟨tk₀, h₀, -⟩ := token?_of_starts htk
    rw [h] at h₀
    cases h₀
  · intro h
    cases htk : token? .language t with
    | none => rfl
    | some tk => exact absurd (starts_of_token? htk) (h tk)

/-- A quote that no string starts with is not closed on its line. -/
theorem not_closed_of_token? {w : Words} (h : token? w ('"' :: t) = none) :
    (t.dropWhile isStringChar).head? ≠ some '"' := by
  intro hclose
  simp only [token?, Option.orElse_eq_orElse, Option.orElse_eq_or, Option.or_eq_none_iff] at h
  have hstr := h.2
  rw [str?, List.tail_cons, if_pos ⟨rfl, hclose⟩] at hstr
  cases hstr

/-- What comes after the content of such a string is the newline, or nothing. -/
theorem eq_newline_of_token? {w : Words} (h : token? w ('"' :: t) = none) {c : Char}
    (hc : (t.dropWhile isStringChar).head? = some c) : c = '\n' := by
  have hnot := List.head?_dropWhile_not isStringChar t
  rw [hc] at hnot
  have hquote : c ≠ '"' := by
    rintro rfl
    exact not_closed_of_token? h hc
  simpa [isStringChar, hquote] using hnot

end Leading

end TextScan
