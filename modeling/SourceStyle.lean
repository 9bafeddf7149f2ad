import SourceStyle.Text
import SourceStyle.Text.LineBreak
import SourceStyle.Position
import SourceStyle.LineTable
import SourceStyle.Violation
import SourceStyle.Pattern
import SourceStyle.Rule
import SourceStyle.Header
import SourceStyle.LineLength
import SourceStyle.BodyComment
import SourceStyle.Checks
import SourceStyle.Decimal.Binary
import SourceStyle.Decimal.Shortest
import SourceStyle.Decimal.Format
import SourceStyle.Decimal.Integer
import SourceStyle.Json
import SourceStyle.Json.Writer
import SourceStyle.Json.Reader
import SourceStyle.Pattern.Parser
import SourceStyle.Keyed
import SourceStyle.SumBy
import SourceStyle.Tally
import SourceStyle.Text.Printable
import SourceStyle.Text.LowerCase
import SourceStyle.Text.Quoted
import SourceStyle.Text.Utf8
import SourceStyle.Path
import SourceStyle.FileTree
import SourceStyle.FileResult
import SourceStyle.Scanner
import SourceStyle.Wildcard
import SourceStyle.Project.Entry
import SourceStyle.Project
import SourceStyle.Project.Summary
import SourceStyle.Project.Report
import SourceStyle.Document
import SourceStyle.Service.Request
import SourceStyle.Service.Frontend
import SourceStyle.Service
import SourceStyle.Console
import SourceStyle.Command.Arguments
import SourceStyle.Command
import SourceStyle.Command.Run
import SourceStyle.Main
import SourceStyle.Proofs.Lines
import SourceStyle.Proofs.Position
import SourceStyle.Proofs.LineTable
import SourceStyle.Proofs.Matching
import SourceStyle.Proofs.Search
import SourceStyle.Proofs.LongLines
import SourceStyle.Proofs.Excerpt
import SourceStyle.Proofs.LineCuts
import SourceStyle.Proofs.Spelling
import SourceStyle.Proofs.LineReading
import SourceStyle.Proofs.Reports
import SourceStyle.Proofs.Header
import SourceStyle.Proofs.BodyComment
import SourceStyle.Proofs.FunctionLength
import SourceStyle.Proofs.Parameters
import SourceStyle.Proofs.KeywordSpacing
import SourceStyle.Proofs.TrailingBlanks
import SourceStyle.Proofs.ReportOrder
import SourceStyle.Proofs.Seams
import SourceStyle.Proofs.LinesOnTop
import SourceStyle.Proofs.Keyed
import SourceStyle.Proofs.Additions
import SourceStyle.Proofs.Summary
import SourceStyle.Proofs.Selections
import SourceStyle.Proofs.FileText
import SourceStyle.Proofs.FileScan
import SourceStyle.Proofs.Paths
import SourceStyle.Proofs.Trees
import SourceStyle.Proofs.DirectoryScan
import SourceStyle.Proofs.LastScan
import SourceStyle.Proofs.ProjectScan
import SourceStyle.Proofs.CheckCommand
import SourceStyle.Proofs.MixedBlanks
import SourceStyle.Proofs.LastProject
import SourceStyle.Proofs.MostCommon
import SourceStyle.Proofs.AdditionOrder
import SourceStyle.Proofs.PostedInput
import SourceStyle.Proofs.CountedLines
import SourceStyle.Proofs.Markup
