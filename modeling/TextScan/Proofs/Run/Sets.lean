import Mathlib.Algebra.GroupWithZero.Nat
import Mathlib.Data.List.TakeWhile
import TextScan.Proofs.Run.Step

/-!
# Run — consuming sets

Consuming a set takes the characters that are next and in the set, as many as there are.  So it
absorbs what is consumed of smaller sets before it: together they take what the set alone takes.
What decides is which characters a set holds, not the form in which it is given
(`Reader.absorption_of_run`).

* `SetForm` are the forms of a set, and `SetForm.Holds` the characters that it holds.
* `Reader.Between.consumeAll_absorbs`: one smaller set before a set.
* `Reader.Between.consumeEach_absorbed`: any number of them.
-/

namespace TextScan

/-! ### Forms of sets -/

/-- A set of characters in a form in which a reader can be asked to consume it. -/
inductive SetForm : Type 1 where
  /-- The characters of a text. -/
  | text (t : Text)
  /-- The characters of an array. -/
  | array (a : Array Char)
  /-- The characters of an array of a fixed size. -/
  | vector {n : Nat} (v : Vector Char n)
  /-- A set of another kind, which answers for itself. -/
  | other {σ : Type} [CharSet σ] (set : σ)
  /-- The blanks, which have an operation of their own. -/
  | blanks

namespace SetForm

/-- A set holds a character: the character is listed, in whatever order and how often. -/
def Holds : SetForm → Char → Prop
  | text t, c => c ∈ t
  | array a, c => c ∈ a
  | vector v, c => c ∈ v
  | other set, c => CharSet.holds set c = true
  | blanks, c => c = ' ' ∨ c = '\t'

/-- Consumes a set in the way that its form asks for. -/
def consumedBy (r : Reader) : SetForm → Outcome Nat
  | text t => r.consume t
  | array a => r.consume a
  | vector v => r.consume v
  | other set => r.consume set
  | blanks => r.consumeBlanks

/-- The test that a form comes to. -/
def test : SetForm → Char → Bool
  | text t => CharSet.holds t
  | array a => CharSet.holds a
  | vector v => CharSet.holds v
  | other set => CharSet.holds set
  | blanks => Reader.isBlank

theorem consumedBy_eq (r : Reader) (f : SetForm) : f.consumedBy r = r.consumeAll f.test := by
  cases f <;> rfl

/-- The test of a form accepts the characters that are held, and no others. -/
theorem test_iff (f : SetForm) (c : Char) : f.test c = true ↔ f.Holds c := by
  cases f with
  | text t => exact List.contains_iff_mem
  | array a => exact Array.contains_iff_mem
  | vector v => exact Array.contains_iff_mem.trans (Vector.mem_toArray_iff c v)
  | other set => exact Iff.rfl
  | blanks =>
    show (c == ' ' || c == '\t') = true ↔ _
    rw [Bool.or_eq_true, beq_iff_eq, beq_iff_eq]
    rfl

/-- Forms with the same characters come to one test. -/
theorem test_congr {f g : SetForm} (h : ∀ c, f.Holds c ↔ g.Holds c) : f.test = g.test := by
  funext c
  rw [Bool.eq_iff_iff, test_iff, test_iff]
  exact h c

end SetForm

namespace Reader

/-- Consumes several sets, one after the other, and answers the counts. -/
def consumeEach (r : Reader) : List SetForm → Outcome (List Nat)
  | [] => ⟨[], r, none⟩
  | f :: fs =>
    let first := f.consumedBy r
    let others := first.reader.consumeEach fs
    ⟨first.answer :: others.answer, others.reader, none⟩

namespace Between

variable {r : Reader} {u v : Text}

/-! ### One smaller set before a set -/

/-- **What is consumed of a smaller set before a set is absorbed.**  Both together take what the set
alone takes. -/
theorem consumeAll_absorbs (h : r.Between u v) {p q : Char → Bool}
    (hqp : ∀ c, q c = true → p c = true) :
    let first := r.consumeAll q
    let second := first.reader.consumeAll p
    let alone := r.consumeAll p
    first.answer + second.answer = alone.answer ∧ second.reader = alone.reader := by
  intro first second alone
  have hfirst : first = ⟨(v.takeWhile q).length, r.advance (v.takeWhile q), none⟩ :=
    h.consumeAll_eq q
  have halone : alone = ⟨(v.takeWhile p).length, r.advance (v.takeWhile p), none⟩ :=
    h.consumeAll_eq p
  have hnext : first.reader.Between (u ++ v.takeWhile q) (v.dropWhile q) := by
    rw [hfirst]
    exact h.advance_takeWhile q
  have hsecond : second = ⟨((v.dropWhile q).takeWhile p).length,
      first.reader.advance ((v.dropWhile q).takeWhile p), none⟩ := hnext.consumeAll_eq p
  -- the larger set goes over what the smaller one takes, and on from there
  have hsplit : v.takeWhile p = v.takeWhile q ++ (v.dropWhile q).takeWhile p := by
    have hall : ∀ c ∈ v.takeWhile q, p c = true := fun c hc => hqp c (List.mem_takeWhile_imp hc)
    rw [← List.takeWhile_append_of_pos hall, List.takeWhile_append_dropWhile]
  rw [hsecond, halone, hfirst, hsplit]
  exact ⟨List.length_append.symm, (r.advance_append _ _).symm⟩

/-- A set that is consumed again has nothing left to take. -/
theorem consumeAll_again (h : r.Between u v) (p : Char → Bool) :
    let again := (r.consumeAll p).reader.consumeAll p
    again.answer = 0 ∧ again.reader = (r.consumeAll p).reader := by
  intro again
  obtain ⟨hcount, hreader⟩ := h.consumeAll_absorbs (p := p) (q := p) fun _ hc => hc
  exact ⟨Nat.add_left_cancel (k := 0) hcount, hreader⟩

/-! ### Any number of smaller sets -/

/-- After a set is consumed, the reader is at some place further on. -/
theorem consumedBy (h : r.Between u v) (f : SetForm) :
    ∃ u' v', (f.consumedBy r).reader.Between u' v' := by
  rw [f.consumedBy_eq, h.consumeAll_eq]
  exact ⟨_, _, h.advance_takeWhile f.test⟩

/-- **Smaller sets before a set are absorbed**, however many. -/
theorem consumeEach_absorbed (h : r.Between u v) {s : SetForm} {fs : List SetForm}
    (hfs : ∀ f ∈ fs, ∀ c, f.Holds c → s.Holds c) :
    let each := r.consumeEach (fs ++ [s])
    each.answer.sum = (s.consumedBy r).answer ∧ each.reader = (s.consumedBy r).reader := by
  induction fs generalizing r u v with
  | nil => exact ⟨Nat.add_zero _, rfl⟩
  | cons f fs ih =>
    obtain ⟨u', v', hnext⟩ := h.consumedBy f
    obtain ⟨hsum, hreader⟩ := ih hnext fun g hg => hfs g (List.mem_cons_of_mem f hg)
    -- the others are absorbed from where `f` leads, and then `f` itself is
    have htest : ∀ c, f.test c = true → s.test c = true := by
      intro c hc
      exact (s.test_iff c).2 (hfs f List.mem_cons_self c ((f.test_iff c).1 hc))
    obtain ⟨hcount, habsorbed⟩ := h.consumeAll_absorbs htest
    rw [← f.consumedBy_eq, ← s.consumedBy_eq, ← s.consumedBy_eq] at hcount habsorbed
    refine ⟨?_, ?_⟩
    · rw [List.cons_append, consumeEach, List.sum_cons, hsum]
      exact hcount
    · rw [List.cons_append, consumeEach, hreader]
      exact habsorbed

end Between

/-- **Consuming a set absorbs what is consumed of smaller ones before it.**  From any place, the
counts of smaller sets, each in its form, and of the set after them add up to what the set alone
would have counted, and the reader comes to the same place.  A set takes all characters that are
next and that it holds, and none again.  Forms that hold the same characters come to the same, and
consuming blanks is consuming the space and the tab. -/
theorem absorption_of_run (t : Text) (o : Options) (ops : List Op) (s : SetForm)
    (fs : List SetForm) (hfs : ∀ f ∈ fs, ∀ c, f.Holds c → s.Holds c) :
    let r := (start t o).after ops
    let alone := s.consumedBy r
    let each := r.consumeEach (fs ++ [s])
    let again := s.consumedBy alone.reader
    (each.answer.sum = alone.answer ∧ each.reader = alone.reader) ∧
      (∃ m, r.rest = m ++ alone.reader.rest ∧ alone.answer = m.length ∧
        alone.reader = r.advance m ∧ (∀ c ∈ m, s.Holds c) ∧
          ∀ c, alone.reader.peek = some c → ¬ s.Holds c) ∧
      (again.answer = 0 ∧ again.reader = alone.reader) ∧
      (∀ f g : SetForm, (∀ c, f.Holds c ↔ g.Holds c) → f.consumedBy r = g.consumedBy r) ∧
      r.consumeBlanks = r.consume [' ', '\t'] := by
  intro r alone each again
  obtain ⟨u, v, h, -, -⟩ : ∃ u v, r.Between u v ∧ r.text = t ∧ r.options = o :=
    between_of_run t o ops
  have hform : ∀ f g : SetForm, (∀ c, f.Holds c ↔ g.Holds c) → f.consumedBy r = g.consumedBy r := by
    intro f g hfg
    rw [f.consumedBy_eq, g.consumedBy_eq, SetForm.test_congr hfg]
  have halone : alone = ⟨(v.takeWhile s.test).length, r.advance (v.takeWhile s.test), none⟩ :=
    (s.consumedBy_eq r).trans (h.consumeAll_eq s.test)
  have hplace : alone.reader.Between (u ++ v.takeWhile s.test) (v.dropWhile s.test) := by
    rw [halone]
    exact h.advance_takeWhile s.test
  refine ⟨h.consumeEach_absorbed hfs,
    ⟨v.takeWhile s.test, ?_, ?_, ?_, fun c hc => ?_, fun c hc => ?_⟩, ?_, hform, ?_⟩
  · rw [h.rest_eq, hplace.rest_eq, List.takeWhile_append_dropWhile]
  · rw [halone]
  · rw [halone]
  · exact (s.test_iff c).1 (List.mem_takeWhile_imp hc)
  · intro hholds
    have hrefused : s.test c = false := by
      have hhead := List.head?_dropWhile_not s.test v
      rw [← hplace.peek_eq, hc] at hhead
      exact hhead
    rw [(s.test_iff c).2 hholds] at hrefused
    cases hrefused
  · have hagain := h.consumeAll_again s.test
    rw [← s.consumedBy_eq, ← s.consumedBy_eq] at hagain
    exact hagain
  · refine hform .blanks (.text [' ', '\t']) fun c => ?_
    show c = ' ' ∨ c = '\t' ↔ c ∈ [' ', '\t']
    rw [List.mem_cons, List.mem_singleton]

/-- Blanks, a text that lists a character twice, and an array that holds them all. -/
theorem absorption_of_run_blanks_first :
    let s : SetForm := .array #['\t', 'é', ' ', 'é']
    let fs : List SetForm := [.blanks, .text ['é', 'é']]
    let r := (start ['a', ' ', '\t', 'é', ' ', 'x'] {}).after [.read]
    let each := r.consumeEach (fs ++ [s])
    (∀ f ∈ fs, ∀ c, f.Holds c → s.Holds c) ∧
      each.answer.sum = (s.consumedBy r).answer ∧ each.reader = (s.consumedBy r).reader ∧
      each.answer = [2, 1, 1] ∧ (s.consumedBy r).answer = 4 := by
  intro s fs r each
  have hfs : ∀ f ∈ fs, ∀ c, f.Holds c → s.Holds c := by
    intro f hf c hc
    rcases List.mem_cons.1 hf with rfl | hf
    · rcases hc with rfl | rfl <;> simp [s, SetForm.Holds]
    · obtain rfl := List.mem_singleton.1 hf
      obtain rfl : c = 'é' := by simpa [SetForm.Holds] using hc
      simp [s, SetForm.Holds]
  obtain ⟨⟨hsum, hreader⟩, -⟩ :=
    absorption_of_run ['a', ' ', '\t', 'é', ' ', 'x'] {} [.read] s fs hfs
  exact ⟨hfs, hsum, hreader, by decide +kernel, by decide +kernel⟩

end Reader

end TextScan
