import Mathlib.Algebra.Group.Nat.Defs
import TextScan.Proofs.Pattern
import TextScan.Proofs.Regex.Threads
import TextScan.Proofs.Run.Step

/-!
# Run — what a run reports

Only the matches of patterns and of literals report, and each of their steps reports what it did: a
match where the cursor came from and where it went, a span that does not fit as the pattern answered
it, and a failure without a span nothing (`Reader.events_of_run`).  An expression answers no span
that does not fit, if its engine finds what lies in the text, and so never gives a warning.

* `Op.Reports` says what a step has to report.
* `Reader.Between.step_reports`: every step reports just that.
* `Reader.Between.matchPattern_not_warn`: expressions give no warnings.
-/

namespace TextScan

open Regex (Engine Anchored Searching)

/-- The operations that never report. -/
def Op.isSilent : Op → Bool
  | matchText _ => false
  | matchPattern _ => false
  | _ => true

/-- What a step from a reader has to report, by its operation, its answer and the reader after
it. -/
inductive Op.Reports (r : Reader) : Op → Outcome Answer → Prop where
  /-- A match is traced with where it starts, how long it is and the position after it. -/
  | matched {p : Pattern} {m : Text} {r' : Reader} {size : Nat} {e : Event}
      (index_eq : r.index + size = r'.index) (event_eq : e = .patternMatched r.index size r'.pos)
      (level_eq : e.level = .trace) (message_eq : e.message = "pattern matched") :
      Reports r (matchPattern p) ⟨.text (some m), r', some e⟩
  /-- A span that is no match gives a warning, and the reader stays. -/
  | invalid {p : Pattern} {span : Span} {e : Event}
      (find_eq : p.findAt r.text r.index = some span) (event_eq : e = .invalidSpan r.index span)
      (level_eq : e.level = .warn) :
      Reports r (matchPattern p) ⟨.text none, r, some e⟩
  /-- A pattern that answers no span gives nothing, and the reader stays. -/
  | unanswered {p : Pattern} (find_eq : p.findAt r.text r.index = none) :
      Reports r (matchPattern p) ⟨.text none, r, none⟩
  /-- A literal is traced with the position after it. -/
  | literal {t : Text} {r' : Reader} {e : Event} (event_eq : e = .literalMatched t r'.pos)
      (level_eq : e.level = .trace) (message_eq : e.message = "literal matched") :
      Reports r (matchText t) ⟨.flag true, r', some e⟩
  /-- A literal that is not next gives nothing, and the reader stays. -/
  | missing {t : Text} : Reports r (matchText t) ⟨.flag false, r, none⟩
  /-- The other operations give nothing. -/
  | silent {op : Op} {a : Answer} {r' : Reader} (silent_eq : op.isSilent = true) :
      Reports r op ⟨a, r', none⟩

theorem Op.Reports.of_event_eq_none {r : Reader} {op : Op} {s : Outcome Answer}
    (hsilent : op.isSilent = true) (hs : s.event = none) : op.Reports r s := by
  obtain ⟨answer, reader, event⟩ := s
  cases hs
  exact .silent hsilent

namespace Reader

/-- The last outcome of a run is that of its last operation, at the reader before it. -/
theorem run_append_singleton (r : Reader) (ops : List Op) (op : Op) :
    r.run (ops ++ [op]) = r.run ops ++ [op.step (r.after ops)] := by
  induction ops generalizing r with
  | nil => rfl
  | cons first ops ih => exact congrArg (first.step r :: ·) (ih _)

namespace Between

variable {r : Reader} {u v : Text}

/-- The operations that never report give no event. -/
theorem event_of_isSilent (h : r.Between u v) {op : Op} (hsilent : op.isSilent = true) :
    (op.step r).event = none := by
  cases op with
  | read => exact congrArg Outcome.event h.read_eq
  | consumeWhile test => exact congrArg Outcome.event (h.consumeWhile_eq (Op.remembering test) [])
  | consume set => exact congrArg Outcome.event (h.consumeAll_eq set)
  | consumeBlanks => exact congrArg Outcome.event (h.consumeAll_eq isBlank)
  | matchAny =>
    show r.matchAny.event = none
    rw [h.matchAny_eq]
    split <;> rfl
  | matchChar expected =>
    show (r.matchChar expected).event = none
    rw [h.matchChar_eq]
    split <;> rfl
  | matchText literal => cases hsilent
  | matchPattern p => cases hsilent

/-- **Every step reports what it has to.** -/
theorem step_reports (h : r.Between u v) (op : Op) : op.Reports r (op.step r) := by
  cases op with
  | matchText literal =>
    have hstep : (Op.matchText literal).step r = (r.matchText literal).map .flag := rfl
    rw [hstep, h.matchText_eq]
    split
    · exact .literal rfl rfl rfl
    · exact .missing
  | matchPattern p =>
    have hstep : (Op.matchPattern p).step r = (r.matchPattern p).map .text := rfl
    rw [hstep]
    rcases h.matchPattern_cases p with
      ⟨hfind, hp⟩ | ⟨s, hfind, -, hp⟩ | ⟨s, m, w, -, -, -, -, -, hp⟩ <;> rw [hp]
    · exact .unanswered hfind
    · exact .invalid hfind rfl rfl
    · refine .matched ?_ rfl rfl rfl
      rw [advanceMatch_eq_move, index_move]
  | _ => exact .of_event_eq_none rfl (h.event_of_isSilent rfl)

/-- **An expression gives no warning**, if its engine finds what lies in the text. -/
theorem matchPattern_not_warn {E : Engine} (hE : E.InBounds) (h : r.Between u v) {p : Pattern}
    (hp : p.IsExpression E) : (r.matchPattern p).event.any (·.level == .warn) = false := by
  rcases h.matchPattern_cases p with
    ⟨-, hstep⟩ | ⟨s, hfind, hfits, -⟩ | ⟨s, m, w, -, -, -, -, -, hstep⟩
  · rw [hstep]
    rfl
  · rw [hp.fits_of_findAt hE hfind] at hfits
    cases hfits
  · rw [hstep]
    rfl

/-- A length whose end is no offset is no span. -/
theorem matchPattern_ofLength_of_overflow (h : r.Between u v) {accepted : Text → Option Nat}
    {n : Nat} (haccepted : accepted v = some n) (hn : Pattern.offsetBound ≤ r.index + n) :
    r.matchPattern (.ofLength accepted) = ⟨none, r, none⟩ := by
  have hfind := Pattern.findAt_ofLength h.after?_eq accepted
  rw [haccepted, Option.bind_some, if_neg (Nat.not_lt.2 hn)] at hfind
  simp only [matchPattern, hfind]

end Between

/-- **The events of a run tell what its steps did.**  Each further step reports what it has to, by
its operation and its answer, and no more than that.  A length that goes past the last offset is no
span, and so gives no event.  An expression, in either use, never gives a warning, if its engine
finds what lies in the text that it searches. -/
theorem events_of_run (t : Text) (o : Options) (ops : List Op) :
    let start := Reader.start t o
    let r := start.after ops
    (∀ op : Op, ∃ s, start.run (ops ++ [op]) = start.run ops ++ [s] ∧ op.Reports r s) ∧
      (∀ (accepted : Text → Option Nat) (n : Nat), accepted r.rest = some n →
        2 ^ 64 ≤ r.index + n →
        (Op.matchPattern (.ofLength accepted)).step r = ⟨.text none, r, none⟩) ∧
      ∀ E : Engine, E.InBounds → ∀ p : Pattern, p.IsExpression E →
        ((Op.matchPattern p).step r).event.any (·.level == .warn) = false := by
  intro start r
  obtain ⟨v, -, h, -, -⟩ := (Between.start t o).after ops
  change r.Between _ v at h
  refine ⟨fun op => ⟨op.step r, start.run_append_singleton ops op, h.step_reports op⟩,
    fun accepted n haccepted hn => ?_, fun E hE p hp => h.matchPattern_not_warn hE hp⟩
  rw [h.rest_eq] at haccepted
  exact congrArg (Outcome.map Answer.text) (h.matchPattern_ofLength_of_overflow haccepted hn)

/-- A length of `2 ^ 64 - 2` bytes after two bytes, and an expression that is looked for there and
matches no character. -/
theorem events_of_run_past_last_offset :
    let r := (Reader.start ['é', 'a'] {}).after [.read]
    let accepted : Text → Option Nat := fun _ => some (2 ^ 64 - 2)
    let program : Regex.Program := #[.jump 1, .accept]
    let re : Searching Engine.threads := ⟨[], program, rfl⟩
    (accepted r.rest = some (2 ^ 64 - 2) ∧ 2 ^ 64 ≤ r.index + (2 ^ 64 - 2) ∧
        Engine.threads.InBounds ∧ re.pattern.IsExpression Engine.threads) ∧
      (Op.matchPattern (.ofLength accepted)).step r = ⟨.text none, r, none⟩ ∧
      ((Op.matchPattern re.pattern).step r).event.any (·.level == .warn) = false ∧
      (Op.matchPattern re.pattern).step r =
        ⟨.text (some []), r, some (.patternMatched 2 0 ⟨0, 2⟩)⟩ := by
  intro r accepted program re
  obtain ⟨-, hlength, hexpression⟩ := events_of_run ['é', 'a'] {} [.read]
  exact ⟨⟨rfl, by decide, Engine.threads_inBounds, .searching re⟩, hlength _ _ rfl (by decide),
    hexpression _ Engine.threads_inBounds _ (.searching re), rfl⟩

end Reader

end TextScan
