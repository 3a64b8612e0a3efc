import TextScan.Lexer.Reading
import TextScan.Proofs.Lexer.Tokens

/-!
# Lexer — a lexer reads

A lexer that stands before a text follows its reading: the calls answer its tokens one by one and
then its error or the end, and collecting comes to the tokens or the error.  Every text has a
reading where no word is empty.  Where a word can be empty, collecting may go on for ever; but if it
comes to something, then it has followed a reading.

* `Lexer.collectUpTo_of_calls`: collecting, by the answers of calls.
* `Reads.of_text`: a reading of every text.
* `Reads.calls_eq`, `Reads.collect_eq`: what a lexer makes of a reading.
* `Reads.of_collectUpTo`: the reading that was collected.
* `Lexer.Stands.collect_eq_some_iff`: the calls that collecting makes are enough.
-/

namespace TextScan

/-- Where no token starts and something is left, there is an error. -/
theorem Lead.exists_error {w : Words} {c : Char} {t : Text}
    (h : Leading.token? w (c :: t) = none) (place : Pos) :
    ∃ e, (Lead.of w (c :: t)).answer place = .error e := by
  by_cases hc : c = '"'
  · subst hc
    rw [Lead.of_quote h]
    exact ⟨_, rfl⟩
  · rw [Lead.of_unexpected h hc]
    exact ⟨_, rfl⟩

/-- A text that starts with no blank has none before it. -/
theorem Leading.Bare.eq_nil {b v : Text} (h : Bare (b ++ v)) (hb : b.all Reader.isBlank = true) :
    b = [] := by
  cases b with
  | nil => rfl
  | cons c b =>
    have hc : Reader.isBlank c = true := (Bool.and_eq_true_iff.1 hb).1
    rw [h c rfl] at hc
    cases hc

/-- **What is collected is what the calls answer**, up to the first that answers no token. -/
theorem Lexer.collectUpTo_of_calls {E : Regex.Engine} {x : Lexer E} {tokens : List (Pos × Token)}
    {stop : Option LexError} {n : Nat}
    (h : (x.calls (tokens.length + 1)).map Prod.fst =
      tokens.map (fun token => .ok (some token)) ++ [stop.elim (.ok none) .error])
    (hn : tokens.length < n) : x.collectUpTo n = some (result tokens stop) := by
  induction tokens generalizing x n with
  | nil =>
    obtain ⟨n, rfl⟩ := Nat.exists_eq_succ_of_ne_zero (Nat.ne_zero_of_lt hn)
    obtain ⟨hnext, -⟩ := List.cons.inj h
    have hcall : x.next = (stop.elim (.ok none) .error, x.next.2) := Prod.ext hnext rfl
    rw [collectUpTo, hcall]
    cases stop <;> rfl
  | cons token tokens ih =>
    obtain ⟨n, rfl⟩ := Nat.exists_eq_succ_of_ne_zero (Nat.ne_zero_of_lt hn)
    obtain ⟨hnext, hmore⟩ := List.cons.inj h
    have hcall : x.next = (.ok (some token), x.next.2) := Prod.ext hnext rfl
    rw [collectUpTo, hcall]
    dsimp only
    rw [ih hmore (Nat.lt_of_succ_lt_succ hn)]
    cases stop <;> rfl

namespace Reads

variable {E : Regex.Engine} {x : Lexer E} {w : Words} {u v : Text} {tokens : List (Pos × Token)}
  {stop : Option LexError}

/-- **Every text has a reading** where no word is empty, whatever stands before it. -/
theorem of_text (hw : w.NeverEmpty) (u v : Text) : ∃ tokens stop, Reads w u v tokens stop := by
  -- each token makes what is left shorter
  induction hn : v.length using Nat.strong_induction_on generalizing u v with
  | _ n ih =>
    obtain ⟨b, v, rfl, hb, hv⟩ := Leading.exists_blanks v
    cases htk : Leading.token? w v with
    | some tk =>
      have htakes := Leading.raw_ne_nil_of_token? hw htk
      have hpos := List.length_pos_of_ne_nil htakes
      obtain ⟨v', rfl⟩ := Leading.raw_prefix_of_token? htk
      have hlt : v'.length < n := by
        rw [← hn]
        simp only [List.length_append]
        omega
      obtain ⟨tokens, stop, hrest⟩ := ih _ hlt (u ++ (b ++ tk.raw)) v' rfl
      exact ⟨_, _, .token hb hv htk htakes hrest⟩
    | none =>
      cases v with
      | nil =>
        rw [List.append_nil]
        exact ⟨_, _, .nothing hb⟩
      | cons c t =>
        obtain ⟨e, he⟩ := Lead.exists_error htk (Text.endPos (u ++ b))
        exact ⟨_, _, .error hb hv he⟩

/-- A text has no more tokens than characters. -/
theorem length_le (h : Reads w u v tokens stop) : tokens.length ≤ v.length := by
  induction h with
  | nothing => exact Nat.zero_le _
  | token blanks bare found takes more ih =>
    have hpos := List.length_pos_of_ne_nil takes
    simp only [List.length_append, List.length_cons]
    omega
  | error => exact Nat.zero_le _

/-- **The calls answer the tokens of the reading one by one**, and then its error or the end. -/
theorem calls_eq (h : Reads w u v tokens stop) (hx : x.Stands w u v) :
    (x.calls (tokens.length + 1)).map Prod.fst =
      tokens.map (fun token => .ok (some token)) ++ [stop.elim (.ok none) .error] := by
  induction h generalizing x with
  | nothing blanks =>
    obtain ⟨x', hnext, -⟩ := hx.next_of_blanks blanks
    simp [Lexer.calls, hnext]
  | @token u b v tk tokens stop blanks bare found takes more ih =>
    obtain ⟨x', hnext, hx'⟩ :=
      hx.next_of_token blanks bare found (List.append_ne_nil_of_left_ne_nil takes v)
    rw [List.length_cons, Lexer.calls, hnext, List.map_cons, ih hx']
    rfl
  | error blanks bare shown =>
    obtain ⟨x', hnext⟩ := hx.next_of_error blanks bare shown
    simp [Lexer.calls, hnext]

/-- **A lexer collects the tokens of the reading, or fails with its error.** -/
theorem collect_eq (h : Reads w u v tokens stop) (hx : x.Stands w u v) :
    x.collect = some (Lexer.result tokens stop) := by
  rw [Lexer.collect, hx.between.rest_eq]
  exact Lexer.collectUpTo_of_calls (h.calls_eq hx) (Nat.lt_succ_of_le h.length_le)

/-! ### What was collected -/

/-- A text with a reading does not start with a token that takes nothing. -/
theorem raw_ne_nil {tk : Token} (h : Reads w u v tokens stop) (hv : Leading.Bare v) (hne : v ≠ [])
    (htk : Leading.token? w v = some tk) : tk.raw ≠ [] := by
  -- no blanks stand before the text, so the reading starts where the token does
  cases h with
  | nothing blanks =>
    rw [← List.append_nil v] at hv
    exact absurd (hv.eq_nil blanks) hne
  | token blanks bare found takes more =>
    obtain rfl := hv.eq_nil blanks
    obtain rfl := Option.some.inj (found.symm.trans htk)
    exact takes
  | error blanks bare shown =>
    obtain rfl := hv.eq_nil blanks
    rw [List.nil_append] at hne htk
    rw [Lead.of_token hne htk] at shown
    cases shown

/-- **What is collected was read**, whatever number of calls it takes. -/
theorem of_collectUpTo {n : Nat} {r : Except LexError (List (Pos × Token))}
    (h : x.collectUpTo n = some r) (hx : x.Stands w u v) :
    ∃ tokens stop, Reads w u v tokens stop ∧ r = Lexer.result tokens stop := by
  induction n generalizing x u v r with
  | zero => cases h
  | succ n ih =>
    obtain ⟨b, v, rfl, hb, hv⟩ := Leading.exists_blanks v
    rw [Lexer.collectUpTo] at h
    cases v with
    | nil =>
      rw [List.append_nil] at hx ⊢
      obtain ⟨x', hnext, -⟩ := hx.next_of_blanks hb
      rw [hnext] at h
      exact ⟨[], none, .nothing hb, (Option.some.inj h).symm⟩
    | cons c t =>
      cases htk : Leading.token? w (c :: t) with
      | some tk =>
        obtain ⟨v', hv'⟩ := Leading.raw_prefix_of_token? htk
        have hne : tk.raw ++ v' ≠ [] := by rw [hv']; exact List.cons_ne_nil c t
        rw [← hv'] at hx hv htk ⊢
        obtain ⟨x', hnext, hx'⟩ := hx.next_of_token hb hv htk hne
        rw [hnext] at h
        obtain ⟨r', hr', rfl⟩ := Option.map_eq_some_iff.1 h
        obtain ⟨tokens, stop, hrest, rfl⟩ := ih hr' hx'
        -- a token that takes nothing would be found again, and the rest could not be read
        have htakes : tk.raw ≠ [] := by
          intro hnil
          rw [hnil, List.nil_append] at hv hne htk
          exact hrest.raw_ne_nil hv hne htk hnil
        refine ⟨_, stop, .token hb hv htk htakes hrest, ?_⟩
        cases stop <;> rfl
      | none =>
        obtain ⟨e, he⟩ := Lead.exists_error htk (Text.endPos (u ++ b))
        obtain ⟨x', hnext⟩ := hx.next_of_error hb hv he
        rw [hnext] at h
        exact ⟨[], some e, .error hb hv he, (Option.some.inj h).symm⟩

end Reads

/-- **Collecting comes to something if any number of calls does**, and to the same. -/
theorem Lexer.Stands.collect_eq_some_iff {E : Regex.Engine} {x : Lexer E} {w : Words} {u v : Text}
    (hx : x.Stands w u v) {r : Except LexError (List (Pos × Token))} :
    x.collect = some r ↔ ∃ n, x.collectUpTo n = some r := by
  constructor
  · exact fun h => ⟨_, h⟩
  · rintro ⟨n, h⟩
    obtain ⟨tokens, stop, hreads, rfl⟩ := Reads.of_collectUpTo h hx
    exact hreads.collect_eq hx

end TextScan
