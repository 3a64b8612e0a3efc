import TextScan.Proofs.Reader.Operations
import TextScan.Run.Piece

/-!
# Run — what a step comes to is told by what is left

What an operation answers, and what it takes, is told by the text that is left, and for a pattern by
the text that it matches there.

* `Reader.matched?` is what a pattern matches at the cursor.
* `Op.effect` is what an operation comes to before a text, without a reader, and `Op.step_eq` that a
  step comes to just that.
-/

namespace TextScan

/-- What a pattern matches at the cursor: the text of its span, if the span fits there. -/
def Reader.matched? (r : Reader) (p : Pattern) : Option Text :=
  ((p.findAt r.text r.index).filter (·.fits r.text r.index)).map (·.text r.text)

/-- What an operation comes to before a text: its answer, and the first part of the text that it
takes. -/
structure Effect where
  answer : Answer
  taken : Text

/-- What an operation comes to before a text, where patterns match what `matched` says. -/
def Op.effect (matched : Pattern → Option Text) (v : Text) : Op → Effect
  | read => ⟨.char v.head?, v.head?.toList⟩
  | consumeWhile test =>
    let accepted := (Reader.acceptedBy (remembering test) v []).1
    ⟨.count accepted.length, accepted⟩
  | consume set => ⟨.count (v.takeWhile set).length, v.takeWhile set⟩
  | consumeBlanks => ⟨.count (v.takeWhile Reader.isBlank).length, v.takeWhile Reader.isBlank⟩
  | matchAny => ⟨.text (if v.isEmpty then none else some v), v⟩
  | matchText literal =>
    if literal.isPrefixOf v then ⟨.flag true, literal⟩ else ⟨.flag false, []⟩
  | matchChar expected =>
    if v.head? = some expected then ⟨.flag true, [expected]⟩ else ⟨.flag false, []⟩
  | matchPattern p => ⟨.text (matched p), (matched p).getD []⟩

namespace Reader.Between

variable {r : Reader} {u v : Text}

/-- What a pattern matches is a first part of what is left. -/
theorem prefix_of_matched? (h : r.Between u v) {p : Pattern} {m : Text}
    (hm : r.matched? p = some m) : m <+: v := by
  obtain ⟨s, hs, rfl⟩ := Option.map_eq_some_iff.1 hm
  obtain ⟨-, hfits⟩ := Option.filter_eq_some_iff.1 hs
  obtain ⟨m, w, rfl, hstart, hstop⟩ := h.fits_iff.1 hfits
  rw [(h.span_text_eq hstart hstop).2]
  exact List.prefix_append m w

end Reader.Between

/-- The match of a pattern is answered and moved over. -/
theorem Reader.matchPattern_eq (r : Reader) (p : Pattern) :
    (r.matchPattern p).answer = r.matched? p ∧
      (r.matchPattern p).reader = r.advanceMatch ((r.matched? p).getD []) := by
  have hstay : r.advanceMatch [] = r := by rw [advanceMatch_eq_move, move_nil]
  rw [matchPattern, matched?]
  cases p.findAt r.text r.index with
  | none => exact ⟨rfl, hstay.symm⟩
  | some s =>
    cases hfits : s.fits r.text r.index with
    | true => simp [hfits, Option.filter]
    | false => simp [hfits, Option.filter, hstay]

namespace Op

variable {r : Reader} {u v : Text}

/-- What an operation takes is a first part of the text. -/
theorem effect_prefix {matched : Pattern → Option Text}
    (hmatched : ∀ p m, matched p = some m → m <+: v) (op : Op) :
    (op.effect matched v).taken <+: v := by
  cases op with
  | read => cases v <;> simp [effect]
  | consumeWhile test =>
    obtain ⟨w, hw⟩ := Reader.acceptedBy_prefix (remembering test) v []
    exact ⟨w, hw.symm⟩
  | consume set => exact List.takeWhile_prefix set
  | consumeBlanks => exact List.takeWhile_prefix Reader.isBlank
  | matchAny => exact List.prefix_refl v
  | matchText literal =>
    rw [effect]
    split
    · next hpre => exact List.isPrefixOf_iff_prefix.1 hpre
    · exact List.nil_prefix
  | matchChar expected =>
    rw [effect]
    split
    · next hhead =>
      obtain ⟨w, rfl⟩ := List.head?_eq_some_iff.1 hhead
      exact ⟨w, rfl⟩
    · exact List.nil_prefix
  | matchPattern p =>
    show (matched p).getD [] <+: v
    cases hp : matched p with
    | none => exact List.nil_prefix
    | some m => exact hmatched p m hp

/-- Only what its own pattern matches decides what an operation comes to. -/
theorem effect_congr {matched matched' : Pattern → Option Text} {op : Op}
    (h : ∀ p, op = .matchPattern p → matched p = matched' p) :
    op.effect matched v = op.effect matched' v := by
  cases op with
  | matchPattern p => rw [effect, effect, h p rfl]
  | _ => rfl

/-- The answer of an operation tells what it takes. -/
theorem effect_tells (matched : Pattern → Option Text) (v : Text) (op : Op) :
    op.Tells (op.effect matched v).answer (op.effect matched v).taken := by
  cases op with
  | read => rfl
  | consumeWhile test => rfl
  | consume set => rfl
  | consumeBlanks => rfl
  | matchAny => cases v <;> rfl
  | matchText literal => rw [effect]; split <;> rfl
  | matchChar expected => rw [effect]; split <;> rfl
  | matchPattern p => rfl

/-- **A step comes to what is told by the text that is left.** -/
theorem step_eq (h : r.Between u v) (op : Op) :
    (op.step r).answer = (op.effect r.matched? v).answer ∧
      (op.step r).reader = r.move (op.tracks r.options) (op.effect r.matched? v).taken := by
  cases op with
  | read =>
    have hstep : read.step r = r.read.map .char := rfl
    rw [hstep, h.read_eq]
    exact ⟨rfl, rfl⟩
  | consumeWhile test =>
    have hstep : (consumeWhile test).step r =
        (r.consumeWhile (remembering test) []).map fun a => .count a.1 := rfl
    rw [hstep, h.consumeWhile_eq]
    exact ⟨rfl, rfl⟩
  | consume set =>
    have hstep : (consume set).step r = (r.consumeAll set).map .count := rfl
    rw [hstep, h.consumeAll_eq]
    exact ⟨rfl, rfl⟩
  | consumeBlanks =>
    have hstep : consumeBlanks.step r = (r.consumeAll Reader.isBlank).map .count := rfl
    rw [hstep, h.consumeAll_eq]
    exact ⟨rfl, rfl⟩
  | matchAny =>
    have hstep : matchAny.step r = r.matchAny.map .text := rfl
    rw [hstep, h.matchAny_eq]
    cases v <;> exact ⟨rfl, rfl⟩
  | matchText literal =>
    have hstep : (matchText literal).step r = (r.matchText literal).map .flag := rfl
    rw [hstep, h.matchText_eq, effect]
    split
    · exact ⟨rfl, rfl⟩
    · exact ⟨rfl, (r.move_nil _).symm⟩
  | matchChar expected =>
    have hstep : (matchChar expected).step r = (r.matchChar expected).map .flag := rfl
    rw [hstep, h.matchChar_eq, effect]
    split
    · exact ⟨rfl, rfl⟩
    · exact ⟨rfl, (r.move_nil _).symm⟩
  | matchPattern p =>
    obtain ⟨hanswer, hreader⟩ := r.matchPattern_eq p
    exact ⟨congrArg Answer.text hanswer, hreader.trans (r.advanceMatch_eq_move _)⟩

end Op

end TextScan
