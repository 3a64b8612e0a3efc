/-!
# Options — how a reader keeps lines

The settings of a reader.  They say how the match of a pattern moves the line and the column; every
other way of consuming text tracks lines.
-/

namespace TextScan

/-- What a newline inside the match of a pattern does to the line and the column. -/
inductive LineTracking where
  /-- It starts a new line, as everywhere else. -/
  | tracked
  /-- It is a byte like any other: the column grows by the whole match and the line stays. -/
  | columnOnly
  deriving DecidableEq, Repr, Inhabited

/-- The settings that a reader is made with. -/
structure Options where
  patternLines : LineTracking := .tracked
  deriving DecidableEq, Repr, Inhabited

namespace Options

/-- The same settings with another line tracking of matches. -/
def withPatternLines (o : Options) (tracking : LineTracking) : Options :=
  { o with patternLines := tracking }

/-- The same settings, with the newlines of matches not counted. -/
def columnOnlyPatterns (o : Options) : Options :=
  o.withPatternLines .columnOnly

end Options

/-- The name of a line tracking. -/
def LineTracking.describe : LineTracking → String
  | .tracked => "Tracked"
  | .columnOnly => "ColumnOnly"

/-- The text that shows the settings with their names. -/
def Options.describe (o : Options) : String :=
  "Options \x7b regex_lines: " ++ o.patternLines.describe ++ " \x7d"

end TextScan
