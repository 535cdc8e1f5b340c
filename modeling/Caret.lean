import Caret.Json.Reader
import Caret.Lines.Walk
import Caret.Program.Step
import Caret.Proofs.LineWindows
import Caret.Session.Step
import Caret.Source.Encoding
import Caret.Text.Lines
import Caret.Proofs.LineSplitting
import Caret.Proofs.PointerAlignment
import Caret.Proofs.Decoding
import Caret.Proofs.TupleRefinement
import Caret.Proofs.FileTrees
import Caret.Proofs.HandedRecords
import Caret.Proofs.SetupRuns
import Caret.Proofs.FileColors
import Caret.Json.Carries
import Caret.Proofs.JsonTexts
import Caret.Proofs.JsonReading
import Caret.Proofs.Overrides
import Caret.Proofs.JsonRecords
import Caret.Proofs.JsonDiagnostics
import Caret.Proofs.EnvironmentFills
import Caret.Proofs.FileShapes
import Caret.Proofs.LoggerTrees
import Caret.Proofs.HiddenLoggers
import Caret.Proofs.Observation
import Caret.Proofs.LoneSurrogates
import Caret.Proofs.PointerRefusals
import Caret.Proofs.ReportOutcomes
import Caret.Proofs.ColorInsertions
import Caret.Proofs.CapitalForms
import Caret.Proofs.SetupLevels
import Caret.Proofs.ValidSettings
import Caret.Program.Scan
import Caret.Proofs.DecodedParts
import Caret.Proofs.WindowTexts
import Caret.Proofs.PointerScans
import Caret.Proofs.EndMarkers
import Caret.Proofs.LoadedMarks
import Caret.Proofs.LineBounds
import Caret.Proofs.MaskedPositions
import Caret.Proofs.SequenceEquality
import Caret.Proofs.Columns
import Caret.EnvFile.Binding
import Caret.EnvFile.Load
