import TextScan.Run

/-!
# Reader — checked

The operations of a reader as they are done with numbers of 64 bits and with cuts that have to be
boundaries.  A sum that does not fit and a cut that is none have no result at all.

* `Cursor.advance?` and `Cursor.advanceColumns?` move with checked sums.
* `Reader.rest?` cuts the text at the cursor, and the operations start from it.
* `Reader.consumeWhile?` asks for the next character anew before each test.
* `Op.step?` and `Reader.run?` are checked steps and runs.
-/

namespace TextScan

/-- A sum that is held in 64 bits. -/
def sum? (a b : Nat) : Option Nat :=
  if a + b < Pattern.offsetBound then some (a + b) else none

theorem sum?_eq_some_iff {a b n : Nat} :
    sum? a b = some n ↔ a + b < Pattern.offsetBound ∧ n = a + b := by
  rw [sum?, Option.ite_none_right_eq_some, Option.some.injEq]
  exact and_congr_right fun _ => eq_comm

/-- Two sums, one after the other, have a result just if both are held in 64 bits. -/
theorem bind_sum?_eq_some_iff {α : Type} {a b c d : Nat} {f : Nat → Nat → α} {x : α} :
    ((sum? a b).bind fun m => (sum? c d).bind fun n => some (f m n)) = some x ↔
      (a + b < Pattern.offsetBound ∧ c + d < Pattern.offsetBound) ∧ x = f (a + b) (c + d) := by
  simp only [Option.bind_eq_some_iff, sum?_eq_some_iff]
  constructor
  · rintro ⟨_, ⟨hab, rfl⟩, _, ⟨hcd, rfl⟩, hx⟩
    exact ⟨⟨hab, hcd⟩, (Option.some.inj hx).symm⟩
  · rintro ⟨⟨hab, hcd⟩, rfl⟩
    exact ⟨_, ⟨hab, rfl⟩, _, ⟨hcd, rfl⟩, rfl⟩

namespace Cursor

/-- The cursor after one more character. -/
def advanceChar? (k : Cursor) (c : Char) : Option Cursor := do
  let index ← sum? k.index c.utf8Size
  if c = '\n' then
    let line ← sum? k.line 1
    some ⟨index, line, 0⟩
  else
    let column ← sum? k.column c.utf8Size
    some ⟨index, k.line, column⟩

/-- The cursor after a text, read character by character. -/
def advance? (k : Cursor) (t : Text) : Option Cursor :=
  t.foldlM advanceChar? k

/-- The cursor after a text whose newlines do not count. -/
def advanceColumns? (k : Cursor) (t : Text) : Option Cursor := do
  let index ← sum? k.index (Text.byteSize t)
  let column ← sum? k.column (Text.byteSize t)
  some ⟨index, k.line, column⟩

theorem index_lt_of_advanceChar? {k k' : Cursor} {c : Char} (h : k.advanceChar? c = some k') :
    k.index < k'.index := by
  have hpos := c.utf8Size_pos
  rw [advanceChar?] at h
  obtain ⟨index, hindex, h⟩ := Option.bind_eq_some_iff.1 h
  have hsum := (sum?_eq_some_iff.1 hindex).2
  split at h
  · obtain ⟨line, -, h⟩ := Option.bind_eq_some_iff.1 h
    cases h
    show k.index < index
    omega
  · obtain ⟨column, -, h⟩ := Option.bind_eq_some_iff.1 h
    cases h
    show k.index < index
    omega

end Cursor

namespace Reader

/-! ### The questions -/

/-- The text after the cursor, which has to be a boundary. -/
def rest? (r : Reader) : Option Text :=
  Text.after? r.text r.index

/-- The next character, left where it is. -/
def peek? (r : Reader) : Option (Option Char) :=
  r.rest?.map List.head?

/-! ### Moving -/

/-- The reader after a text, character by character. -/
def advance? (r : Reader) (t : Text) : Option Reader :=
  (r.cursor.advance? t).map fun k => { r with cursor := k }

/-- The reader after the match of a pattern. -/
def advanceMatch? (r : Reader) (t : Text) : Option Reader :=
  match r.options.patternLines with
  | .tracked => r.advance? t
  | .columnOnly => (r.cursor.advanceColumns? t).map fun k => { r with cursor := k }

theorem index_lt_size_of_peek? {r : Reader} {c : Char} (h : r.peek? = some (some c)) :
    r.index < r.size := by
  obtain ⟨t, hrest, hhead⟩ := Option.map_eq_some_iff.1 h
  obtain ⟨t', rfl⟩ := List.head?_eq_some_iff.1 hhead
  obtain ⟨u, htext, hindex⟩ := Text.after?_eq_some_iff.1 hrest
  have hpos := c.utf8Size_pos
  rw [size, htext, Text.byteSize_append, Text.byteSize_cons, ← hindex]
  omega

theorem index_lt_of_advance? {r r' : Reader} {c : Char} (h : r.advance? [c] = some r') :
    r'.size = r.size ∧ r.index < r'.index := by
  obtain ⟨k, hk, rfl⟩ := Option.map_eq_some_iff.1 h
  refine ⟨rfl, Cursor.index_lt_of_advanceChar? (k := r.cursor) (c := c) ?_⟩
  simpa [Cursor.advance?] using hk

/-- Consumes the next character, if there is one. -/
def read? (r : Reader) : Option (Outcome (Option Char)) := do
  match ← r.peek? with
  | some c => some ⟨some c, ← r.advance? [c], none⟩
  | none => some ⟨none, r, none⟩

/-- Consumes characters as long as a test accepts them; `count` are consumed before.  The next
character is looked up again in each turn, at the place that the turn before it went to. -/
def consumeLoop? {σ : Type} (test : Char → StateM σ Bool) (count : Nat) (r : Reader) (s : σ) :
    Option (Outcome (Nat × σ)) :=
  match _ : r.peek? with
  | none => none
  | some none => some ⟨(count, s), r, none⟩
  | some (some c) =>
    match test c s with
    | (false, s') => some ⟨(count, s'), r, none⟩
    | (true, s') =>
      match _ : r.advance? [c] with
      | none => none
      | some r' => (sum? count 1).bind fun count' => consumeLoop? test count' r' s'
termination_by r.size - r.index
decreasing_by
  have hlt : r.index < r.size := index_lt_size_of_peek? ‹_›
  obtain ⟨hsize, hindex⟩ : r'.size = r.size ∧ r.index < r'.index := index_lt_of_advance? ‹_›
  omega

/-- Consumes characters as long as a test accepts them. -/
def consumeWhile? {σ : Type} (r : Reader) (test : Char → StateM σ Bool) (s : σ) :
    Option (Outcome (Nat × σ)) :=
  consumeLoop? test 0 r s

/-- Consumes characters as long as they have a property. -/
def consumeAll? (r : Reader) (p : Char → Bool) : Option (Outcome Nat) :=
  (r.consumeWhile? (fun c => pure (p c)) ()).map (·.map Prod.fst)

/-- Consumes all that is left, if anything is. -/
def matchAny? (r : Reader) : Option (Outcome (Option Text)) := do
  let rest ← r.rest?
  if rest.isEmpty then some ⟨none, r, none⟩ else some ⟨some rest, ← r.advance? rest, none⟩

/-- Consumes a literal, if the text at the cursor starts with it. -/
def matchText? (r : Reader) (literal : Text) : Option (Outcome Bool) := do
  if literal.isPrefixOf (← r.rest?) then
    let r' ← r.advance? literal
    some ⟨true, r', some (.literalMatched literal r'.pos)⟩
  else
    some ⟨false, r, none⟩

/-- Consumes one given character, if it is next. -/
def matchChar? (r : Reader) (expected : Char) : Option (Outcome Bool) := do
  if (← r.peek?) = some expected then some ⟨true, ← r.advance? [expected], none⟩
  else some ⟨false, r, none⟩

/-- Consumes what a pattern matches at the cursor.  A span that is kept is cut out of the text. -/
def matchPattern? (r : Reader) (p : Pattern) : Option (Outcome (Option Text)) :=
  match p.findAt r.text r.index with
  | none => some ⟨none, r, none⟩
  | some span =>
    if span.fits r.text r.index then do
      let matched ← Text.slice? r.text span.start span.stop
      let r' ← r.advanceMatch? matched
      some ⟨some matched, r', some (.patternMatched r.index (Text.byteSize matched) r'.pos)⟩
    else
      some ⟨none, r, some (.invalidSpan r.index span)⟩

end Reader

/-- Does one operation. -/
def Op.step? (r : Reader) : Op → Option (Outcome Answer)
  | read => r.read?.map (·.map .char)
  | consumeWhile test => (r.consumeWhile? (remembering test) []).map (·.map fun a => .count a.1)
  | consume set => (r.consumeAll? set).map (·.map .count)
  | consumeBlanks => (r.consumeAll? Reader.isBlank).map (·.map .count)
  | matchAny => r.matchAny?.map (·.map .text)
  | matchText literal => (r.matchText? literal).map (·.map .flag)
  | matchChar expected => (r.matchChar? expected).map (·.map .flag)
  | matchPattern p => (r.matchPattern? p).map (·.map .text)

/-- The outcomes of a list of operations, if all of them have one. -/
def Reader.run? (r : Reader) : List Op → Option (List (Outcome Answer))
  | [] => some []
  | op :: ops => do
    let o ← op.step? r
    return o :: (← o.reader.run? ops)

end TextScan
