import SourceBundle.Text.Utf8
import SourceBundle.Path.Basic
import SourceBundle.Path.Relative
import SourceBundle.Number.Binary64
import SourceBundle.Number.Shortest
import SourceBundle.Number.Text
import SourceBundle.Json.Value
import SourceBundle.Json.Layout
import SourceBundle.Json.Format
import SourceBundle.Json.Read
import SourceBundle.Bundle.Document
import SourceBundle.Bundle.Size
import SourceBundle.Host.Error
import SourceBundle.Host.Tree
import SourceBundle.Host.Resolve
import SourceBundle.Host.Write
import SourceBundle.Host.Basic
import SourceBundle.Log
import SourceBundle.Failure
import SourceBundle.Text.CodeRanges
import SourceBundle.Text.GraphemeExtend
import SourceBundle.Text.Printable
import SourceBundle.Text.Escaped
import SourceBundle.Config.Collect
import SourceBundle.Gather.Walk
import SourceBundle.Gather.Collect
import SourceBundle.Config.File
import SourceBundle.Config.Locate
import SourceBundle.Config.Toml.Document
import SourceBundle.Config.Toml.Reader
import SourceBundle.Config.Toml.Lexical
import SourceBundle.Config.Toml.Build
import SourceBundle.Config.Toml.Grammar
import SourceBundle.Config.Toml.Report
import SourceBundle.Config.Load
import SourceBundle.Cli.Options
import SourceBundle.Cli.Similar
import SourceBundle.Cli.Parse
import SourceBundle.Cli.Help
import SourceBundle.Cli.Complete
import SourceBundle.Cli.Run
import SourceBundle.Main
import SourceBundle.Proofs.GatherOutcome
import SourceBundle.Proofs.FormatterLayout
import SourceBundle.Proofs.BundleReadBack
import SourceBundle.Proofs.ExcludedNames
import SourceBundle.Proofs.GatherRecords
import SourceBundle.Proofs.ReadPolicy
import SourceBundle.Proofs.Utf8Spelling
import SourceBundle.Proofs.EntryKeys
import SourceBundle.Proofs.ExcludingMore
import SourceBundle.Proofs.ExitCodes
import SourceBundle.Proofs.FragmentSlices
import SourceBundle.Proofs.GivenPaths
import SourceBundle.Proofs.GatherJournal
import SourceBundle.Proofs.KeyNormalForm
