import TextScan.Reader
import TextScan.Text.Quoted

/-!
# Reader — the description

A reader shown as one line of text: the whole text in quotes, the numbers of the cursor, and the
options.
-/

namespace TextScan

/-- The numbers of a cursor with their names. -/
def Cursor.describe (k : Cursor) : String :=
  "Cursor \x7b index: " ++ toString k.index ++ ", line: " ++ toString k.line ++ ", column: "
    ++ toString k.column ++ " \x7d"

/-- A reader with the names of its parts. -/
def Reader.describe (r : Reader) : String :=
  "Reader \x7b text: " ++ String.ofList (Text.quoted r.text) ++ ", cursor: " ++ r.cursor.describe
    ++ ", options: " ++ r.options.describe ++ " \x7d"

end TextScan
