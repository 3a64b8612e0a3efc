/-!
# Regex — faults

What can be wrong with the text of an expression.
-/

namespace TextScan.Regex

/-- A fault in the text of an expression. -/
inductive SyntaxFault where
  | groupNotOpen
  | groupNotClosed
  | groupNameInvalid
  | groupNameRepeated
  | lookAroundUnsupported
  | flagUnknown
  | flagRepeated
  | negationRepeated
  | negationDangling
  | repetitionOfNothing
  | countInvalid
  | countNotClosed
  | classNotClosed
  | classItemInvalid
  | rangeInvalid
  | escapeUnfinished
  | escapeUnknown
  | hexInvalid
  | propertyUnknown
  | boundaryUnknown
  /-- The expression could match part of a character, or needs the flag `u`. -/
  | unicodeNeeded
  | nestedTooDeep
  deriving DecidableEq, Repr

/-- Why an expression is refused. -/
inductive Fault where
  /-- Its text is at fault. -/
  | malformed (fault : SyntaxFault)
  /-- It needs more memory than the limit allows. -/
  | tooLarge
  deriving DecidableEq, Repr

/-- What a fault is said to be. -/
def Fault.message : Fault → String
  | malformed _ => "error parsing pattern 0"
  | tooLarge => "error building NFA"

end TextScan.Regex
