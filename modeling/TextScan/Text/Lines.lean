import TextScan.Position
import TextScan.Text

/-!
# Text — lines

A newline ends a line.  The position at the end of a text is told by the text alone: the number of
its newlines, and the bytes after the last of them.

* `afterLast` is what is left of a list after the last element with a property, and
  `Text.lastLine` what is left of a text after its last newline.
* `Text.firstLine` is what a text has before its first newline.
-/

namespace TextScan

/-! ### The part after the last element with a property -/

/-- What is left of a list after the last element with a property; all of it if there is none. -/
def afterLast {α : Type} (p : α → Bool) (xs : List α) : List α :=
  (xs.reverse.takeWhile (!p ·)).reverse

section
variable {α : Type} {p : α → Bool} {xs ys : List α}

/-- A list without such an element lengthens what is left. -/
theorem afterLast_append_of_forall (h : ∀ y ∈ ys, p y = false) :
    afterLast p (xs ++ ys) = afterLast p xs ++ ys := by
  have hall : ∀ y ∈ ys.reverse, (!p y) = true := by
    intro y hy
    rw [h y (List.mem_reverse.1 hy)]
    rfl
  rw [afterLast, List.reverse_append, List.takeWhile_append_of_pos hall, List.reverse_append,
    List.reverse_reverse]
  rfl

/-- A list with such an element decides what is left, whatever stands before it. -/
theorem afterLast_append_of_exists (h : ∃ y ∈ ys, p y = true) :
    afterLast p (xs ++ ys) = afterLast p ys := by
  rw [afterLast, afterLast, List.reverse_append, List.takeWhile_append, if_neg]
  intro hlen
  obtain ⟨y, hy, hpy⟩ := h
  have hall : (ys.reverse.takeWhile (!p ·)).all (!p ·) = true := List.all_takeWhile
  rw [(List.takeWhile_sublist _).eq_of_length hlen] at hall
  have hnot := List.all_eq_true.1 hall y (List.mem_reverse.2 hy)
  rw [hpy] at hnot
  cases hnot

/-- Only the property decides what is left, not the form of the elements. -/
theorem afterLast_map {β : Type} {f : β → α} {zs : List β} :
    afterLast p (zs.map f) = (afterLast (fun z => p (f z)) zs).map f := by
  rw [afterLast, afterLast, ← List.map_reverse, List.takeWhile_map, List.map_reverse]
  rfl

end

namespace Text

/-- The number of newlines in a text. -/
def newlines (t : Text) : Nat :=
  t.count '\n'

/-- The part of a text after its last newline; all of it if it has none. -/
def lastLine (t : Text) : Text :=
  (t.reverse.takeWhile (· != '\n')).reverse

/-- The part of a text before its first newline; all of it if it has none. -/
def firstLine (t : Text) : Text :=
  t.takeWhile (· != '\n')

/-- The position at the end of a text, counted from its start. -/
def endPos (t : Text) : Pos :=
  ⟨newlines t, byteSize (lastLine t)⟩

@[simp] theorem newlines_nil : newlines [] = 0 := rfl

@[simp] theorem firstLine_nil : firstLine [] = [] := rfl

@[simp] theorem newlines_append (t u : Text) : newlines (t ++ u) = newlines t + newlines u :=
  List.count_append

/-- A text without a newline lengthens the last line. -/
theorem lastLine_append_of_not_mem {t u : Text} (h : '\n' ∉ u) :
    lastLine (t ++ u) = lastLine t ++ u := by
  refine afterLast_append_of_forall fun c hc => beq_false_of_ne ?_
  rintro rfl
  exact h hc

/-- A text with a newline has the last line, whatever stands before it. -/
theorem lastLine_append_of_mem {t u : Text} (h : '\n' ∈ u) : lastLine (t ++ u) = lastLine u :=
  afterLast_append_of_exists ⟨'\n', h, rfl⟩

end Text

end TextScan
