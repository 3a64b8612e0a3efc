import TextScan.Proofs.Run.Bounds

/-!
# Run — what a test is asked

Consuming with a test asks the test about the characters that are left, in order and each once, up
to the first one that it refuses, and about none after it.  What it accepted is consumed and
counted; the character that it refused is the next one still; and the state of the test is the one
that the characters it was asked about lead to (`Reader.calls_of_run`).

* `recording` turns a test into one that writes down its calls.
* `Grants`: a test that accepts a number of calls, and no more.
* `Reader.acceptedBy_recording`: the calls that are made before a text.
* `Reader.Between.consumeWhile_asks`: what consuming with a test comes to.
-/

namespace TextScan

/-- A call of a test: the character that it was asked about, and whether it accepted it. -/
structure Call where
  char : Char
  accepted : Bool
  deriving DecidableEq, Repr

/-- A test that also writes down its calls, the last one at the end. -/
def recording {σ : Type} (test : Char → StateM σ Bool) (c : Char) : StateM (σ × List Call) Bool :=
  fun (s, calls) =>
    let (accepted, s') := test c s
    (accepted, s', calls ++ [⟨c, accepted⟩])

theorem recording_eq {σ : Type} {test : Char → StateM σ Bool} {c : Char} {s s' : σ}
    {accepted : Bool} (h : test c s = (accepted, s')) (calls : List Call) :
    recording test c (s, calls) = (accepted, s', calls ++ [⟨c, accepted⟩]) := by
  rw [recording, h]

/-- The state of a test after it was asked about the characters of a text, in order. -/
def stateAfter {σ : Type} (test : Char → StateM σ Bool) (s : σ) (t : Text) : σ :=
  t.foldl (fun s c => (test c s).2) s

/-- The calls of a test that accepts a text, and then refuses a character if there is one more. -/
def callsUpTo (accepted : Text) (refused : Option Char) : List Call :=
  accepted.map (⟨·, true⟩) ++ refused.toList.map (⟨·, false⟩)

/-- The accepted characters are those of the calls that accept. -/
theorem countP_callsUpTo (accepted : Text) (refused : Option Char) :
    (callsUpTo accepted refused).countP Call.accepted = accepted.length := by
  cases refused <;> simp [callsUpTo, Function.comp_def]

/-- A test grants a number of calls: it accepts that often, whatever the characters are, and
refuses the next one. -/
def Grants {σ : Type} (test : Char → StateM σ Bool) : Nat → σ → Prop
  | 0, s => ∀ c, (test c s).1 = false
  | n + 1, s => ∀ c, (test c s).1 = true ∧ Grants test n (test c s).2

/-- The test that accepts as long as its state is positive, and counts down. -/
def countdown (_ : Char) : StateM Nat Bool := fun n => (n != 0, n - 1)

theorem grants_countdown (n : Nat) : Grants countdown n n := by
  induction n with
  | zero =>
    intro c
    rfl
  | succ n ih =>
    intro c
    exact ⟨rfl, ih⟩

namespace Reader

variable {σ : Type} (test : Char → StateM σ Bool)

/-! ### Before a text -/

/-- The state in which a test stops is the one that the accepted characters lead to, and the one
character after them. -/
theorem acceptedBy_state {t w : Text} {s : σ} (h : t = (acceptedBy test t s).1 ++ w) :
    (acceptedBy test t s).2 = stateAfter test s ((acceptedBy test t s).1 ++ w.head?.toList) := by
  induction t generalizing s with
  | nil =>
    obtain rfl : [] = w := h
    rfl
  | cons c t ih =>
    rcases htest : test c s with ⟨_ | _, s'⟩
    · rw [acceptedBy_of_refused htest] at h ⊢
      obtain rfl : c :: t = w := h
      show s' = (test c s).2
      rw [htest]
    · rw [acceptedBy_of_accepted htest] at h ⊢
      have hrest := ih (List.cons.inj h).2
      show _ = stateAfter test (test c s).2 _
      rw [htest]
      exact hrest

/-- **The calls of a test.**  It is called for each accepted character and for the one after them,
if there is one, which it refuses.  Writing this down changes nothing. -/
theorem acceptedBy_recording {t w : Text} {s : σ} (h : t = (acceptedBy test t s).1 ++ w)
    (calls : List Call) :
    acceptedBy (recording test) t (s, calls) =
      ((acceptedBy test t s).1, (acceptedBy test t s).2,
        calls ++ callsUpTo (acceptedBy test t s).1 w.head?) := by
  induction t generalizing s calls with
  | nil =>
    obtain rfl : [] = w := h
    have hnone : calls ++ callsUpTo [] ([] : Text).head? = calls := List.append_nil calls
    rw [acceptedBy, acceptedBy, hnone]
  | cons c t ih =>
    rcases htest : test c s with ⟨_ | _, s'⟩
    · rw [acceptedBy_of_refused htest] at h ⊢
      rw [acceptedBy_of_refused (recording_eq htest calls)]
      obtain rfl : c :: t = w := h
      rfl
    · rw [acceptedBy_of_accepted htest] at h ⊢
      -- the call for `c` is the last one so far, and the first of those that follow
      have hrest := ih (List.cons.inj h).2 (calls ++ [⟨c, true⟩])
      rw [acceptedBy_of_accepted (recording_eq htest calls), hrest, List.append_assoc]
      rfl

/-- A test that grants a number of calls accepts that many characters, or all there are. -/
theorem acceptedBy_of_grants {n : Nat} {s : σ} (h : Grants test n s) (t : Text) :
    (acceptedBy test t s).1 = t.take n := by
  induction t generalizing n s with
  | nil => rw [acceptedBy, List.take_nil]
  | cons c t ih =>
    cases n with
    | zero =>
      have htest : test c s = (false, (test c s).2) := Prod.ext (h c) rfl
      rw [acceptedBy_of_refused htest, List.take_zero]
    | succ n =>
      obtain ⟨haccepted, hgrants⟩ := h c
      have htest : test c s = (true, (test c s).2) := Prod.ext haccepted rfl
      rw [acceptedBy_of_accepted htest, ih hgrants, List.take_succ_cons]

/-! ### Readers -/

variable {r : Reader} {u v : Text}

/-- **Consuming with a test takes what the test accepts**, asks about this and the next character,
and counts and moves as the accepted characters say. -/
theorem Between.consumeWhile_asks (h : r.Between u v) (s : σ) :
    ∃ m w, v = m ++ w ∧
      r.consumeWhile test s =
        ⟨(m.length, stateAfter test s (m ++ w.head?.toList)), r.advance m, none⟩ ∧
      r.consumeWhile (recording test) (s, []) =
        ⟨(m.length, stateAfter test s (m ++ w.head?.toList), callsUpTo m w.head?), r.advance m,
          none⟩ := by
  obtain ⟨w, hw⟩ := acceptedBy_prefix test v s
  have hstate := acceptedBy_state test hw
  refine ⟨(acceptedBy test v s).1, w, hw, ?_, ?_⟩
  · rw [h.consumeWhile_eq, ← hstate]
  · rw [h.consumeWhile_eq, acceptedBy_recording test hw, ← hstate, List.nil_append]

/-- **What a test is asked.**  The text that is consumed is what the test accepted, and the first
character after it, if there is one, was refused.  The test was called for each of these characters
once, in order, and for no other; its state is the one that they lead to.  The count is that of the
calls that accept, and the reader goes where as many reads lead.  If not all that was left is
counted, the character that was refused is still the next one.  In a text that fits into 64 bits,
the loop that looks up each character anew comes to the same with every test. -/
theorem calls_of_run (t : Text) (o : Options) (ops : List Op) (s : σ) :
    let r := (start t o).after ops
    let done := r.consumeWhile test s
    let consumed := done.reader.consumedSince r.index
    let refused := done.reader.peek
    let calls := callsUpTo consumed refused
    r.rest = consumed ++ done.reader.rest ∧
      Text.slice? t r.index done.reader.index = some consumed ∧
      r.consumeWhile (recording test) (s, []) =
        ⟨(done.answer.1, done.answer.2, calls), done.reader, none⟩ ∧
      done.answer = (consumed.length, stateAfter test s (consumed ++ refused.toList)) ∧
      done.answer.1 = calls.countP Call.accepted ∧
      done.reader = r.after (List.replicate done.answer.1 .read) ∧
      (done.answer.1 < r.rest.length → ∃ c, refused = some c ∧ calls.getLast? = some ⟨c, false⟩) ∧
      (Text.byteSize t < 2 ^ 64 → ∀ (τ : Type) (test' : Char → StateM τ Bool) (x : τ),
        r.consumeWhile? test' x = some (r.consumeWhile test' x)) := by
  intro r done consumed refused calls
  obtain ⟨u, v, h, htext, -⟩ : ∃ u v, r.Between u v ∧ r.text = t ∧ r.options = o :=
    between_of_run t o ops
  obtain ⟨m, w, rfl, hdone, hrecorded⟩ := h.consumeWhile_asks test s
  change done = _ at hdone
  have hafter : done.reader.Between (u ++ m) w := by
    rw [hdone]
    exact h.advance
  have hslice : Text.slice? t r.index done.reader.index = some m := by
    rw [hdone, ← htext]
    exact h.slice?_advance
  have hconsumed : consumed = m := by
    show done.reader.consumedSince r.index = m
    rw [hdone]
    exact h.consumedSince_advance
  have hrefused : refused = w.head? := hafter.peek_eq
  have hcalls : calls = callsUpTo m w.head? := by rw [← hconsumed, ← hrefused]
  have hanswer : done.answer = (m.length, stateAfter test s (m ++ w.head?.toList)) := by rw [hdone]
  rw [hcalls, hconsumed, hrefused, h.rest_eq, hafter.rest_eq]
  refine ⟨rfl, hslice, ?_, hanswer, ?_, ?_, fun hcount => ?_, fun hsize τ test' x => ?_⟩
  · rw [hrecorded, hdone]
  · rw [hanswer, countP_callsUpTo]
  · rw [hanswer, h.after_reads, hdone]
  · rw [hanswer, List.length_append] at hcount
    cases w with
    | nil => exact absurd hcount (Nat.lt_irrefl _)
    | cons c w => exact ⟨c, rfl, by simp [callsUpTo]⟩
  · -- a run keeps the reader within bounds, and there the loop overflows nowhere
    have hstart : (start t o).InBounds [] t := .start hsize o
    obtain ⟨u', v', hbounds⟩ := hstart.after ops
    exact hbounds.consumeWhile?_eq test' x

/-- A test that grants two calls stops in the middle of a text. -/
theorem calls_of_run_countdown :
    let r := (start ['a', 'é', '\n', 'b', 'c'] {}).after [.read]
    let done := r.consumeWhile countdown 2
    (done.answer.1 < r.rest.length ∧ Text.byteSize ['a', 'é', '\n', 'b', 'c'] < 2 ^ 64) ∧
      (r.consumeWhile (recording countdown) (2, [])).answer.2.2 =
        [⟨'é', true⟩, ⟨'\n', true⟩, ⟨'b', false⟩] ∧
      done.answer = (2, 0) ∧ done.reader.pos = ⟨1, 0⟩ ∧
      (∃ c, done.reader.peek = some c) ∧ r.consumeWhile? countdown 2 = some done := by
  intro r done
  have hcount : done.answer.1 < r.rest.length := by decide
  have hsize : Text.byteSize ['a', 'é', '\n', 'b', 'c'] < 2 ^ 64 := by decide
  obtain ⟨-, -, -, -, -, -, hrefused, hloop⟩ :=
    calls_of_run countdown ['a', 'é', '\n', 'b', 'c'] {} [.read] 2
  obtain ⟨c, hc, -⟩ := hrefused hcount
  exact ⟨⟨hcount, hsize⟩, by decide, by decide, by decide, ⟨c, hc⟩, hloop hsize Nat countdown 2⟩

end Reader

end TextScan
