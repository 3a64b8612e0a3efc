import TextScan.Proofs.Regex.Preference
import TextScan.Proofs.Regex.Threads

/-!
# Regex — threads read literals

What spells a text is read as its characters, in a row.  It compiles to one instruction for each of
them, and an accepting one behind: a single thread goes along as long as the text is next.

* `Draft.readAll_of_spells`, `Expr.ofText_of_spells`: what spells a text is read as its characters.
* `Program.ReadsFrom`: instructions that read the characters of a text, with
  `Program.run_of_readsFrom`.
* `Program.matchLength?_literal`: what they match.
* `Engine.threads_readsLiterals`: the engine of threads reads literals.
-/

namespace TextScan.Regex

/-! ### Reading -/

/-- The part of an expression that one character is. -/
def Expr.ofChar (c : Char) : Expr :=
  .one (CharClass.char c) 0

/-- The characters of a text, one after another. -/
def Expr.literal (s : Text) : Expr :=
  ofParts (s.map ofChar).reverse

/-- Each character is spelled by one at least. -/
theorem Spells.length_le {p s : Text} (h : Spells p s) : s.length ≤ p.length := by
  induction h with
  | nil => exact Nat.le_refl 0
  | plain hc rest ih => exact Nat.succ_le_succ ih
  | quoted hc rest ih => exact Nat.le_succ_of_le (Nat.succ_le_succ ih)

namespace Draft

variable {d : Draft} {c : Char}

/-- A character with a backslash before it is read as itself. -/
theorem next_backslash (hflags : d.flags = {}) (hc : isQuotable c = true) (t : Text) :
    d.next '\\' (c :: t) = .ok (d.add (.ofChar c), t) := by
  have hread : Escape.read d.flags (c :: t) = .ok (.char c false, t) := if_pos hc
  have hadd : d.addEscape (.char c false) = .ok (d.add (.ofChar c)) := by
    rw [addEscape, hflags]
    rfl
  show (Escape.read d.flags (c :: t) >>= fun found => d.addEscape found.1 >>= fun d' =>
    pure (d', found.2)) = _
  rw [hread]
  show (d.addEscape (.char c false) >>= fun d' => pure (d', t)) = _
  rw [hadd]
  rfl

/-- A character that means nothing else is read as itself. -/
theorem next_plain (hflags : d.flags = {}) (hc : c ∉ metaChars) (t : Text) :
    d.next c t = .ok (d.add (.ofChar c), t) := by
  unfold next
  split
  -- the last case is that of a plain character, and all others are for one of another meaning
  case h_13 =>
    rw [hflags]
    rfl
  all_goals exact absurd (by decide) hc

/-- A part that is read is the first of those that are. -/
theorem readAll_cons (hflags : d.flags = {}) {d' : Draft} {t rest : Text} {fuel : Nat}
    (h : d.next c t = .ok (d', rest)) :
    readAll (fuel + 1) d (c :: t) = readAll fuel d' rest := by
  have hskip : d.flags.skip (c :: t) = c :: t := by rw [hflags]; rfl
  rw [readAll, hskip]
  dsimp only
  rw [h]
  rfl

/-- **What spells a text is read as its characters.** -/
theorem readAll_of_spells {p s : Text} (h : Spells p s) (hflags : d.flags = {}) {fuel : Nat}
    (hfuel : s.length < fuel) :
    readAll fuel d p = .ok { d with parts := (s.map Expr.ofChar).reverse ++ d.parts } := by
  induction h generalizing d fuel with
  | nil =>
    obtain ⟨fuel, rfl⟩ := Nat.exists_eq_add_of_lt hfuel
    have hskip : d.flags.skip [] = [] := by rw [hflags]; rfl
    rw [readAll, hskip]
    rfl
  | @plain c p s hc rest ih =>
    obtain ⟨fuel, rfl⟩ := Nat.exists_eq_succ_of_ne_zero (Nat.ne_zero_of_lt hfuel)
    have hrest := ih (d := d.add (.ofChar c)) hflags (Nat.lt_of_succ_lt_succ hfuel)
    rw [readAll_cons hflags (next_plain hflags hc p), hrest]
    simp [add]
  | @quoted c p s hc rest ih =>
    obtain ⟨fuel, rfl⟩ := Nat.exists_eq_succ_of_ne_zero (Nat.ne_zero_of_lt hfuel)
    have hrest := ih (d := d.add (.ofChar c)) hflags (Nat.lt_of_succ_lt_succ hfuel)
    rw [readAll_cons hflags (next_backslash hflags hc p), hrest]
    simp [add]

end Draft

namespace Expr

theorem literal_cons_cons (c d : Char) (s : Text) :
    literal (c :: d :: s) = .concat (.ofChar c) (literal (d :: s)) := by
  have hne : ((d :: s).map ofChar).reverse ≠ [] := by simp
  rw [literal, literal, List.map_cons, List.reverse_cons]
  -- parts are kept last to first, so the character that is put before them is folded last
  cases h : ((d :: s).map ofChar).reverse with
  | nil => exact absurd h hne
  | cons last before => exact List.foldl_append

/-- Characters in a row are nested no deeper than one level. -/
theorem depth_literal_le (s : Text) : (literal s).depth ≤ 1 := by
  induction s with
  | nil => exact Nat.zero_le 1
  | cons c s ih =>
    cases s with
    | nil => exact Nat.zero_le 1
    | cons d s =>
      rw [literal_cons_cons]
      cases s with
      | nil => exact Nat.le_refl 1
      | cons e s =>
        rw [literal_cons_cons] at ih ⊢
        exact Nat.max_le.2 ⟨Nat.le_refl 1, ih⟩

/-- **The expression that spells a text is its characters.** -/
theorem ofText_of_spells {p s : Text} (h : Spells p s) : ofText p = .ok (literal s) := by
  have hread := Draft.readAll_of_spells (d := {}) h rfl (Nat.lt_succ_of_le h.length_le)
  rw [List.append_nil] at hread
  have hdepth : ¬ depthLimit < (literal s).depth :=
    Nat.not_lt.2 (Nat.le_trans (depth_literal_le s) (by decide))
  rw [ofText, hread]
  exact if_neg hdepth

end Expr

/-! ### Normal form -/

namespace Core

/-- The characters of a text, in a row. -/
def literal : Text → Core
  | [] => empty
  | c :: s => text c s

theorem branchesOf_literal (s : Text) : branchesOf (Expr.literal s) = [literal s] := by
  induction s with
  | nil => rfl
  | cons c s ih =>
    have hone : branchesOf (.ofChar c) = [text c []] := by
      show [ofClass (CharClass.char c)] = _
      simp [ofClass, CharClass.char, Unicode.RangeSet.range, Unicode.RangeSet.only?]
    cases s with
    | nil => exact hone
    | cons d s =>
      rw [Expr.literal_cons_cons, branchesOf, hone, ih]
      rfl

theorem ofExpr_literal (s : Text) : ofExpr (Expr.literal s) = literal s := by
  rw [ofExpr, branchesOf_literal]
  rfl

end Core

/-- **What spells a text compiles** to the program of the text, unless it is too large. -/
theorem Program.ofText_of_spells {p s : Text} (h : Spells p s) :
    ofText p =
      if (Core.literal s).fits then .ok (ofCore (Core.literal s)) else .error .tooLarge := by
  rw [ofText, Expr.ofText_of_spells h, ← Core.ofExpr_literal]

/-! ### Matching -/

namespace Program

/-- The instructions from an address on read the characters of a text, and then accept. -/
def ReadsFrom (p : Program) (i : Nat) : Text → Prop
  | [] => p[i]? = some .accept
  | c :: s => p[i]? = some (.read (CharClass.char c) (i + 1)) ∧ p.ReadsFrom (i + 1) s

variable {p : Program} {i : Nat} (before after : Option Char)

/-- Nothing is left to explore. -/
theorem explore_nil (fuel : Nat) (reached : AddressSet) (next : List Nat) :
    p.explore before after fuel [] reached next = ⟨reached, next, false⟩ := by
  cases fuel <;> rfl

/-- A thread that reads a character goes on if it is next. -/
theorem follow_read {cls : CharClass} {j : Nat} (h : p[i]? = some (.read cls j)) :
    (p.follow before after [i] (.none p.size) []).accepted = false ∧
      (p.follow before after [i] (.none p.size) []).next =
        if after.any cls.contains then [j] else [] := by
  obtain ⟨hi, -⟩ := Array.getElem?_eq_some_iff.1 h
  have hexplore : p.explore before after (2 * p.size + 1) [i] (.none p.size) [] =
      ⟨(AddressSet.none p.size).insert i, if after.any cls.contains then [j] else [], false⟩ := by
    rw [explore, if_neg (by simp [hi])]
    simp only [h, explore_nil]
  simp [follow, hexplore]

/-- A thread that accepts goes on no more. -/
theorem follow_accept (h : p[i]? = some .accept) :
    (p.follow before after [i] (.none p.size) []).accepted = true ∧
      (p.follow before after [i] (.none p.size) []).next = [] := by
  obtain ⟨hi, -⟩ := Array.getElem?_eq_some_iff.1 h
  have hexplore : p.explore before after (2 * p.size + 1) [i] (.none p.size) [] =
      ⟨(AddressSet.none p.size).insert i, [], true⟩ := by
    rw [explore, if_neg (by simp [hi])]
    simp only [h]
  simp [follow, hexplore]

/-- **A program that reads a text** accepts where it has been read, and nowhere else. -/
theorem run_of_readsFrom {w : Text} (h : p.ReadsFrom i w) (n : Nat) (v : Text) :
    p.run (.none p.size) before [i] n none v =
      if w.isPrefixOf v then some (n + Text.byteSize w) else none := by
  induction w generalizing i n v before with
  | nil =>
    cases v with
    | nil => simp [run, (follow_accept before none h).1]
    | cons d v =>
      obtain ⟨hacc, hnext⟩ := follow_accept before (some d) h
      rw [run_cons, hacc, hnext]
      exact run_nil ..
  | cons c w ih =>
    obtain ⟨hi, hw⟩ := h
    cases v with
    | nil => simp [run, (follow_read before none hi).1]
    | cons d v =>
      obtain ⟨hacc, hnext⟩ := follow_read before (some d) hi
      rw [run_cons, hacc, hnext, Option.any_some, CharClass.contains_char]
      by_cases hd : d = c
      · subst hd
        simp [ih (some d) hw, Nat.add_assoc]
      · have hc : ¬ c = d := fun e => hd e.symm
        simp [hd, hc, run_nil]

/-- The instructions of a text behind others read it. -/
theorem readsFrom_reads (first : List Instr) (w : Text) :
    ReadsFrom (first ++ (Core.reads w first.length (first.length + w.length) ++
      [Instr.accept])).toArray first.length w := by
  induction w generalizing first with
  | nil => simp [ReadsFrom, Core.reads]
  | cons c w ih =>
    have hnext : first.length + (c :: w).length = first.length + 1 + w.length := by
      rw [List.length_cons, Nat.add_assoc, Nat.add_comm 1]
    have hreads : Core.reads (c :: w) first.length (first.length + 1 + w.length) =
        .read (CharClass.char c) (first.length + 1) ::
          Core.reads w (first.length + 1) (first.length + 1 + w.length) := by
      cases w <;> rfl
    rw [hnext, hreads]
    refine ⟨by simp, ?_⟩
    have hrest := ih (first ++ [.read (CharClass.char c) (first.length + 1)])
    rw [List.length_append, List.length_singleton, List.append_assoc] at hrest
    exact hrest

/-- **The program of a text matches the text**, where it is next. -/
theorem matchLength?_literal (s v : Text) :
    (ofCore (Core.literal s)).matchLength? none v =
      if s.isPrefixOf v then some (Text.byteSize s) else none := by
  cases s with
  | nil =>
    -- nothing to read is not compiled to the instructions of a text
    cases v with
    | nil => rfl
    | cons d v =>
      have hfollow : ((ofCore .empty).follow none (some d) [0] (.none 2) []).accepted = true ∧
          ((ofCore .empty).follow none (some d) [0] (.none 2) []).next = [] := ⟨rfl, rfl⟩
      show (ofCore .empty).run (.none 2) none [0] 0 none (d :: v) = _
      rw [run_cons, hfollow.1, hfollow.2, List.reverse_nil, run_nil]
      rfl
  | cons c s =>
    have h : ReadsFrom (ofCore (Core.literal (c :: s))) 0 (c :: s) := by
      have := readsFrom_reads [] (c :: s)
      rwa [List.nil_append, List.length_nil, Nat.zero_add] at this
    rw [matchLength?, run_of_readsFrom none h, Nat.zero_add]

end Program

/-! ### The engine -/

/-- **Threads read literals.** -/
theorem Engine.threads_readsLiterals : threads.ReadsLiterals := by
  intro p s h
  have hcompile : threads.matcher p = _ := Program.ofText_of_spells h
  cases hfits : (Core.literal s).fits with
  | false =>
    rw [hcompile, hfits]
    exact ⟨rfl, rfl⟩
  | true =>
    rw [hcompile, hfits]
    intro t
    show ((Program.ofCore (Core.literal s)).matchLength? none t).map _ = _
    rw [Program.matchLength?_literal, Re.first?_literal]
    split <;> rfl

end TextScan.Regex
