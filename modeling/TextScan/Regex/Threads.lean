import TextScan.Regex.Engine
import TextScan.Regex.Expr.Reading
import TextScan.Regex.Footprint
import TextScan.Regex.Matching

/-!
# Regex — the engine of threads

An engine: an expression is read, brought into normal form and laid out as a program, and threads
run the program.  The programs are the same for both ways to use an expression.

* `Program.ofText` compiles an expression.
* `Engine.threads` is the engine.
-/

namespace TextScan.Regex

/-- The program of an expression. -/
def Program.ofText (p : Text) : Except Fault Program :=
  match Expr.ofText p with
  | .error fault => .error (.malformed fault)
  | .ok expr =>
    let core := Core.ofExpr expr
    if core.fits then .ok (ofCore core) else .error .tooLarge

namespace Engine

/-- Programs that are run by threads. -/
def threads : Engine where
  Fault := Regex.Fault
  describe := Regex.Fault.message
  isSyntaxFault
    | .malformed _ => true
    | .tooLarge => false
  isSizeFault
    | .malformed _ => false
    | .tooLarge => true
  Matcher := Program
  matcher := Program.ofText
  tryAt p t := (p.matchLength? none t).map (⟨0, ·⟩)
  Searcher := Program
  searcher p := (Program.ofText p).toOption
  search p t := (p.find? none 0 t).map fun found => ⟨found.1, found.2⟩

end Engine

end TextScan.Regex
