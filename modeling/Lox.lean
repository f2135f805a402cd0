import Lox.Expr.Canonical
import Lox.Main
import Lox.Proofs.Parse.Soundness
import Lox.Scan.Grammar
import Lox.Proofs.Parse.Nesting
import Lox.Proofs.Parse.Completeness
import Lox.Proofs.Parse.Session
import Lox.Proofs.Parse.Language
import Lox.Proofs.Parse.DepthLimit
import Lox.Proofs.Scan.Layout
import Lox.Proofs.Parse.Cursor
import Lox.Proofs.Parse.Viable
import Lox.Proofs.Parse.Accounting
import Lox.Proofs.Parse.Locality
import Lox.Proofs.Parse.Recovery
import Lox.Proofs.Parse.Range
import Lox.Proofs.Scan.Longest
import Lox.Proofs.Scan.Events
import Lox.Proofs.Scan.Spacing
import Lox.Proofs.CommandLine.Ending
import Lox.Proofs.CommandLine.Verdict
import Lox.Proofs.Scan.Position
import Lox.Proofs.Scan.Session
import Lox.Proofs.Scan.Relocation
import Lox.Proofs.Parse.Relocation
import Lox.Proofs.CommandLine.Files
import Lox.Proofs.Parse.ErrorPlace
import Lox.Proofs.Parse.RecoveryLoop
import Lox.Proofs.Scan.Lines
import Lox.Proofs.CommandLine.LeadingMinus
import Lox.Proofs.Number.Rounding
import Lox.Proofs.Number.Shortest
import Lox.Proofs.Number.Spelling
import Lox.Proofs.Expr.Print
import Lox.Proofs.Scan.Numeral
import Lox.Proofs.Number.Integral
import Lox.Proofs.Number.ReadBack
import Lox.Proofs.Settings.LimitText
import Lox.Proofs.CommandLine.Environment
import Lox.Proofs.Parse.Balance
