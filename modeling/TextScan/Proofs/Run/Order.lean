import TextScan.Proofs.Position
import TextScan.Proofs.Run.Position

/-!
# Run — positions are ordered as places are

Two readers over one text that track all lines stand at positions that compare as their indexes do,
and the written forms of the positions are the same at the same place only.  If the newlines of
matches do not count, that still holds of the moments of one run: every piece that is taken leads to
a later position (`Reader.order_of_run`).

* `Reader.SameOrder` says that two readers agree in this way.
* `Reader.SameOrder.of_endPos`: readers whose positions are told by the text before them.
* `Reader.Between.sameOrder_after`: a reader before a run and after it.
-/

namespace TextScan

namespace Reader

/-- The positions of two readers compare as their indexes do, and are written alike at one index
only. -/
structure SameOrder (r q : Reader) : Prop where
  compare_eq : compare r.pos q.pos = compare r.index q.index
  toString_eq_iff : toString r.pos = toString q.pos ↔ r.index = q.index

namespace SameOrder

variable {r q : Reader}

theorem of_eq (hindex : r.index = q.index) (hpos : r.pos = q.pos) : r.SameOrder q where
  compare_eq := by
    rw [hpos, hindex, Std.ReflOrd.compare_self, Std.ReflOrd.compare_self]
  toString_eq_iff := by simp only [hpos, hindex]

theorem of_lt (hindex : r.index < q.index) (hpos : compare r.pos q.pos = .lt) :
    r.SameOrder q where
  compare_eq := hpos.trans (Nat.compare_eq_lt.2 hindex).symm
  toString_eq_iff := by
    rw [Pos.toString_inj]
    constructor
    · intro heq
      rw [heq, Std.ReflOrd.compare_self] at hpos
      cases hpos
    · intro heq
      exact absurd heq (Nat.ne_of_lt hindex)

theorem symm (h : r.SameOrder q) : q.SameOrder r where
  compare_eq := by
    rw [Std.OrientedOrd.eq_swap, h.compare_eq, ← Std.OrientedOrd.eq_swap]
  toString_eq_iff := eq_comm.trans (h.toString_eq_iff.trans eq_comm)

variable {u v u' v' : Text}

/-- Readers over one text whose positions are those where the texts before them end, the first of
them no further on. -/
theorem of_endPos_of_le (hr : r.Between u v) (hq : q.Between u' v') (htext : r.text = q.text)
    (hrpos : r.pos = Text.endPos u) (hqpos : q.pos = Text.endPos u') (hle : r.index ≤ q.index) :
    r.SameOrder q := by
  have hsplit : u ++ v = u' ++ v' := by rw [← hr.text_eq, htext, hq.text_eq]
  have hsize : Text.byteSize u ≤ Text.byteSize u' := by
    rw [← hr.index_eq, ← hq.index_eq]
    exact hle
  obtain ⟨m, rfl, -⟩ := Text.exists_append_of_byteSize_le hsplit hsize
  have hindex : q.index = r.index + Text.byteSize m := by
    rw [hq.index_eq, hr.index_eq, Text.byteSize_append]
  by_cases hm : m = []
  · subst hm
    rw [List.append_nil] at hqpos
    exact of_eq hindex.symm (hrpos.trans hqpos.symm)
  · have hpos := Text.byteSize_pos hm
    refine of_lt (by omega) ?_
    rw [hrpos, hqpos]
    exact Text.compare_endPos_append hm

/-- Readers over one text whose positions are those where the texts before them end. -/
theorem of_endPos (hr : r.Between u v) (hq : q.Between u' v') (htext : r.text = q.text)
    (hrpos : r.pos = Text.endPos u) (hqpos : q.pos = Text.endPos u') : r.SameOrder q := by
  rcases Nat.le_total r.index q.index with hle | hle
  · exact of_endPos_of_le hr hq htext hrpos hqpos hle
  · exact (of_endPos_of_le hq hr htext.symm hqpos hrpos hle).symm

end SameOrder

/-! ### Runs -/

/-- Moving over a text leads further on, and to a later position. -/
theorem lt_move (r : Reader) (tracked : Bool) {m : Text} (hm : m ≠ []) :
    r.index < (r.move tracked m).index ∧ compare r.pos (r.move tracked m).pos = .lt := by
  have hpos := Text.byteSize_pos hm
  refine ⟨by rw [index_move]; omega, ?_⟩
  cases tracked with
  | true => exact r.cursor.compare_pos_advance hm
  | false => exact r.cursor.compare_pos_advanceColumns hm

/-- **A run stays where it is, or leads further on and to a later position.** -/
theorem Between.eq_or_lt_after {r : Reader} {u v : Text} (h : r.Between u v) (ops : List Op) :
    r.after ops = r ∨
      r.index < (r.after ops).index ∧ compare r.pos (r.after ops).pos = .lt := by
  induction ops generalizing r u v with
  | nil => exact .inl rfl
  | cons op ops ih =>
    obtain ⟨m, w, rfl, ht⟩ := op.step_takes h
    have hrest := ih (ht.between h)
    rw [after_cons]
    by_cases hm : m = []
    · have hstay : (op.step r).reader = r := by rw [ht.reader_eq, hm, move_nil]
      rw [hstay] at hrest ⊢
      exact hrest
    · obtain ⟨hindex, hpos⟩ := r.lt_move (op.tracks r.options) hm
      rw [← ht.reader_eq] at hindex hpos
      right
      rcases hrest with heq | ⟨hindex', hpos'⟩
      · rw [heq]
        exact ⟨hindex, hpos⟩
      · exact ⟨Nat.lt_trans hindex hindex', Std.TransCmp.lt_trans hpos hpos'⟩

/-- A reader and the one that a run leaves agree. -/
theorem Between.sameOrder_after {r : Reader} {u v : Text} (h : r.Between u v) (ops : List Op) :
    r.SameOrder (r.after ops) := by
  rcases h.eq_or_lt_after ops with heq | ⟨hindex, hpos⟩
  · rw [heq]
    exact .of_eq rfl rfl
  · exact .of_lt hindex hpos

/-- Of two moments of a run, the later one is that of a run from the earlier one. -/
theorem Between.sameOrder_take {r : Reader} {u v : Text} (h : r.Between u v) (ops : List Op)
    {m n : Nat} (hle : m ≤ n) : (r.after (ops.take m)).SameOrder (r.after (ops.take n)) := by
  obtain ⟨w, -, hmoment, -, -⟩ := h.after (ops.take m)
  have hrest := hmoment.sameOrder_after ((ops.take n).drop m)
  have htake : ops.take m = (ops.take n).take m := by rw [List.take_take, Nat.min_eq_left hle]
  rw [← after_append, htake, List.take_append_drop, ← htake] at hrest
  exact hrest

/-- **Positions are ordered as places are.**  Two readers that track all lines stand at positions
that compare as their indexes do, and that are written alike at one index only, whatever runs led
there.  So do the two readers of any two moments of one run, whatever its options. -/
theorem order_of_run (t : Text) :
    (∀ (o o' : Options) (ops ops' : List Op),
      let r := (start t (o.withPatternLines .tracked)).after ops
      let q := (start t (o'.withPatternLines .tracked)).after ops'
      compare r.pos q.pos = compare r.index q.index ∧
        (toString r.pos = toString q.pos ↔ r.index = q.index)) ∧
    ∀ (o : Options) (ops : List Op) (m n : Nat),
      let r := (start t o).after (ops.take m)
      let q := (start t o).after (ops.take n)
      compare r.pos q.pos = compare r.index q.index ∧
        (toString r.pos = toString q.pos ↔ r.index = q.index) := by
  constructor
  · intro o o' ops ops' r q
    obtain ⟨w, -, hr, hrtext, -⟩ := (Between.start t (o.withPatternLines .tracked)).after ops
    obtain ⟨w', -, hq, hqtext, -⟩ := (Between.start t (o'.withPatternLines .tracked)).after ops'
    have horder : r.SameOrder q :=
      .of_endPos hr hq (hrtext.trans hqtext.symm) (pos_after_of_tracked t rfl ops)
        (pos_after_of_tracked t rfl ops')
    exact ⟨horder.compare_eq, horder.toString_eq_iff⟩
  · intro o ops m n r q
    have hstart := Between.start t o
    have horder : r.SameOrder q := by
      rcases Nat.le_total m n with hle | hle
      · exact hstart.sameOrder_take ops hle
      · exact (hstart.sameOrder_take ops hle).symm
    exact ⟨horder.compare_eq, horder.toString_eq_iff⟩

end Reader

end TextScan
