import Caret.Checked
import Caret.Diagnostic
import Caret.Except
import Caret.Files.Tree
import Caret.Inspect
import Caret.Json
import Caret.Main
import Caret.Proofs.Appending
import Caret.Proofs.BestError
import Caret.Proofs.Boundaries
import Caret.Proofs.CaretColumn
import Caret.Proofs.Checked
import Caret.Proofs.ConfigurationSearch
import Caret.Proofs.CutText
import Caret.Proofs.DecodedSettings
import Caret.Proofs.Decoding
import Caret.Proofs.InputLeft
import Caret.Proofs.LineEnds
import Caret.Proofs.LineStarts
import Caret.Proofs.Locating
import Caret.Proofs.Messages
import Caret.Proofs.PrintedWidth
import Caret.Proofs.ProcessOutcome
import Caret.Proofs.Reading
import Caret.Proofs.RunOutcome
import Caret.Proofs.RunRecords
import Caret.Proofs.ScannedLines
import Caret.Proofs.Sweep
import Caret.Proofs.Truncation
import Caret.Proofs.Utf8
import Caret.Session
import Caret.Text.Lines
import Caret.Text.Utf8
