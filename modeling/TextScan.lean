import TextScan.Lexer
import TextScan.Lexer.Expressions
import TextScan.Lexer.Grammar
import TextScan.Lexer.Layout
import TextScan.Lexer.Munch
import TextScan.Lexer.Reading
import TextScan.Reader.Between
import TextScan.Reader.Checked
import TextScan.Reader.Description
import TextScan.Regex
import TextScan.Regex.Preference
import TextScan.Regex.Threads
import TextScan.Run
import TextScan.Run.Piece
import TextScan.Text.Lines
import TextScan.Proofs.Cursor
import TextScan.Proofs.Cursor.Room
import TextScan.Proofs.Position
import TextScan.Proofs.Reader.Operations
import TextScan.Proofs.Pattern
import TextScan.Proofs.Pattern.Offsets
import TextScan.Proofs.Regex.Literal
import TextScan.Proofs.Regex.Preference
import TextScan.Proofs.Regex.Threads
import TextScan.Proofs.Regex.Uses
import TextScan.Proofs.Run.Bounds
import TextScan.Proofs.Run.Calls
import TextScan.Proofs.Run.Conservation
import TextScan.Proofs.Run.Events
import TextScan.Proofs.Run.Literals
import TextScan.Proofs.Run.Marks
import TextScan.Proofs.Run.Matches
import TextScan.Proofs.Run.Order
import TextScan.Proofs.Run.Position
import TextScan.Proofs.Run.Restart
import TextScan.Proofs.Run.Sets
import TextScan.Proofs.Run.Tracking
import TextScan.Proofs.Lexer.Expressions
import TextScan.Proofs.Lexer.Leading
import TextScan.Proofs.Lexer.Lines
import TextScan.Proofs.Lexer.Lossless
import TextScan.Proofs.Lexer.Munch
import TextScan.Proofs.Lexer.Patterns
import TextScan.Proofs.Lexer.Progress
import TextScan.Proofs.Lexer.Reading
import TextScan.Proofs.Lexer.RoundTrip
