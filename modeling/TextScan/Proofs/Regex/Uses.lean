import TextScan.Proofs.Pattern
import TextScan.Proofs.Regex.Threads
import TextScan.Run

/-!
# Regex — the two uses of an expression

An expression is a pattern in two ways: it is tried at the offset alone, or it is looked for in the
text from the offset on and a match further on is turned down.  A search prefers the match that
starts first, and so, with an engine that is leftmost-first, the two ways find the same spans, and a
reader cannot tell one from the other.

* `Regex.Twins` is an expression that is compiled for both uses.
* `Regex.Twins.pattern_eq`: the two uses are one pattern.
* `Script.Step` is a step of a run in which the use of expressions is left open.
* `Regex.uses_agree`: expressions compile for both uses or for none, and runs are the same.
-/

namespace TextScan

namespace Regex

variable {E : Engine} {d : Engine.Dialect}

/-- An expression that is compiled for both uses. -/
structure Twins (E : Engine) where
  anchored : Anchored E
  searching : Searching E
  source_eq : anchored.source = searching.source

/-! ### Compiling -/

theorem Anchored.exists_ofText_iff {source : Text} :
    (∃ a, ofText E source = .ok a) ↔ ∃ m, E.matcher source = .ok m := by
  unfold ofText
  split
  · next m h => exact ⟨fun _ => ⟨m, h⟩, fun _ => ⟨_, rfl⟩⟩
  · next fault h => simp [h]

theorem Searching.exists_ofText?_iff {source : Text} :
    (∃ x, ofText? E source = some x) ↔ ∃ m, E.searcher source = some m := by
  unfold ofText?
  split
  · next m h => exact ⟨fun _ => ⟨m, h⟩, fun _ => ⟨_, rfl⟩⟩
  · next h => simp [h]

/-! ### Patterns -/

/-- **The match that is looked for, if it starts with the text, is the one that is tried**: no match
starts before the start of the text. -/
theorem Twins.filter_search (hE : E.LeftmostFirst d) (x : Twins E) (t : Text) :
    (E.search x.searching.searcher t).filter (·.start == 0) = E.tryAt x.anchored.matcher t := by
  have hmatcher := x.anchored.compiled
  rw [x.source_eq] at hmatcher
  refine Option.ext fun s => ?_
  rw [hE.tried hmatcher, Option.filter_eq_some_iff, hE.searched x.searching.compiled,
    Option.map_eq_some_iff, beq_iff_eq]
  constructor
  · rintro ⟨⟨hstop, -⟩, hstart⟩
    rw [hstart] at hstop
    exact ⟨s.stop, hstop, by rw [← hstart]⟩
  · rintro ⟨stop, hstop, rfl⟩
    exact ⟨⟨hstop, fun i hi => absurd hi (Nat.not_lt_zero i)⟩, rfl⟩

/-- **The two uses of an expression are one pattern.** -/
theorem Twins.pattern_eq (hE : E.LeftmostFirst d) (x : Twins E) :
    x.anchored.pattern = x.searching.pattern := by
  refine congrArg Pattern.mk (funext fun t => funext fun offset => ?_)
  show x.anchored.pattern.findAt t offset = x.searching.pattern.findAt t offset
  cases h : Text.after? t offset with
  | none => simp [Anchored.pattern, Searching.pattern, h]
  | some rest => rw [Anchored.findAt_pattern h, Searching.findAt_pattern h, x.filter_search hE]

end Regex

/-! ### Runs -/

/-- A step of a run: an operation, or the match of an expression in one of its uses. -/
inductive Script.Step (E : Regex.Engine) where
  | op (o : Op)
  | expression (x : Regex.Twins E)

/-- The operations of a script, whose expressions are patterns in one way. -/
def Script.ops {E : Regex.Engine} (pattern : Regex.Twins E → Pattern)
    (script : List (Script.Step E)) : List Op :=
  script.map fun
    | .op o => o
    | .expression x => .matchPattern (pattern x)

namespace Regex

variable {E : Engine} {d : Engine.Dialect}

/-- **Expressions can be used in either way**, if their engine is leftmost-first.  A text compiles
for both uses or for none, and compiled for both it finds the same spans at every offset of every
text.  A run in which expressions are tried at the cursor has the outcomes of the run in which they
are looked for: the same answers, readers and events. -/
theorem uses_agree (hE : E.LeftmostFirst d) :
    (∀ source : Text,
      (∃ a, Anchored.ofText E source = .ok a) ↔ ∃ x, Searching.ofText? E source = some x) ∧
    (∀ (x : Twins E) (t : Text) (offset : Nat),
      x.anchored.pattern.findAt t offset = x.searching.pattern.findAt t offset) ∧
    ∀ (r : Reader) (script : List (Script.Step E)),
      let tried := Script.ops (fun x => x.anchored.pattern) script
      let searched := Script.ops (fun x => x.searching.pattern) script
      r.run tried = r.run searched ∧ r.after tried = r.after searched := by
  have hpattern : (fun x : Twins E => x.anchored.pattern) = fun x => x.searching.pattern :=
    funext fun x => x.pattern_eq hE
  refine ⟨fun source => ?_, fun x t offset => ?_, fun r script => ?_⟩
  · rw [Anchored.exists_ofText_iff, Searching.exists_ofText?_iff, hE.matcher_iff, hE.searcher_iff]
  · rw [x.pattern_eq hE]
  · dsimp only
    rw [hpattern]
    exact ⟨rfl, rfl⟩

/-- An expression that prefers the shorter of two texts: a search from the start finds it further
on, and after the first character it is next. -/
theorem uses_agree_shorter_first :
    let program : Program := #[.fork 1 2, .read (CharClass.char 'a') 4,
      .read (CharClass.char 'a') 3, .read (CharClass.char 'b') 4, .accept]
    let x : Twins Engine.threads :=
      ⟨⟨['a', '|', 'a', 'b'], program, rfl⟩, ⟨['a', '|', 'a', 'b'], program, rfl⟩, rfl⟩
    let t : Text := ['b', 'a', 'b']
    let r := Reader.start t
    let script : List (Script.Step Engine.threads) := [.expression x, .op .read, .expression x]
    let tried := Script.ops (fun x => x.anchored.pattern) script
    let searched := Script.ops (fun x => x.searching.pattern) script
    Engine.threads.LeftmostFirst .threads ∧
      ((∃ a, Anchored.ofText Engine.threads x.anchored.source = .ok a) ↔
        ∃ x', Searching.ofText? Engine.threads x.anchored.source = some x') ∧
      x.anchored.pattern.findAt t 0 = x.searching.pattern.findAt t 0 ∧
      Engine.threads.search program t = some ⟨1, 2⟩ ∧ x.anchored.pattern.findAt t 0 = none ∧
      r.run tried = r.run searched ∧
      (r.run tried).map Outcome.answer = [.text none, .char (some 'b'), .text (some ['a'])] := by
  intro program x t r script tried searched
  obtain ⟨hcompile, hfind, hrun⟩ := uses_agree Engine.threads_leftmostFirst
  exact ⟨Engine.threads_leftmostFirst, hcompile _, hfind x t 0, by decide +kernel,
    by decide +kernel, (hrun r script).1, by decide +kernel⟩

end Regex

end TextScan
