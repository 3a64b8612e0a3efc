import TextScan.Text
import TextScan.Unicode.Property

/-!
# Text — the quoted form

A text in double quotes, on one line, with nothing in it that cannot be seen.  Quotes, backslashes
and the usual control characters have short escapes; whatever else does not print, or would join
the character before it, is written by its code point.
-/

namespace TextScan.Text

open Unicode

/-- The characters that do not stand for themselves: controls, formats, what is not assigned or has
no public meaning, all separators but the blank, what joins the character before it, and what may be
left out when it cannot be shown. -/
def hidden : RangeSet :=
  let all := RangeSet.unionAll
    [GeneralCategory.unionOf [.cc, .cf, .co, .zl, .zp, .zs], GeneralCategory.cn.set,
      BinaryProperty.graphemeExtendSet, BinaryProperty.defaultIgnorable.set]
  all.diff (.range 0x20 0x20)

/-- A character is written as it is. -/
def isPlain (c : Char) : Bool :=
  !hidden.contains c

/-- The escape of a character by its code point. -/
def escapeCode (c : Char) : Text :=
  '\\' :: 'u' :: '\x7b' :: (Nat.toDigits 16 c.toNat ++ ['\x7d'])

/-- A character inside quotes. -/
def quoteChar (c : Char) : Text :=
  match c with
  | '\x00' => ['\\', '0']
  | '\t' => ['\\', 't']
  | '\r' => ['\\', 'r']
  | '\n' => ['\\', 'n']
  | '"' => ['\\', '"']
  | '\\' => ['\\', '\\']
  | _ => if isPlain c then [c] else escapeCode c

/-- A text in quotes. -/
def quoted (t : Text) : Text :=
  '"' :: (t.flatMap quoteChar ++ ['"'])

end TextScan.Text
