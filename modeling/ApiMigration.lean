import ApiMigration.Assessment
import ApiMigration.Command.Arguments
import ApiMigration.Command.Json
import ApiMigration.Command.Run
import ApiMigration.Declaration
import ApiMigration.FileTree.Access
import ApiMigration.FileTree.Basic
import ApiMigration.FileTree.Failure
import ApiMigration.FileTree.Scan
import ApiMigration.FileTree.Storage
import ApiMigration.Main
import ApiMigration.Match.Assess
import ApiMigration.Match.Classification
import ApiMigration.Match.Score
import ApiMigration.Path.Basic
import ApiMigration.Path.Filter
import ApiMigration.Proofs.FileTree.Additions
import ApiMigration.Proofs.FileTree.Chain
import ApiMigration.Proofs.FileTree.Contents
import ApiMigration.Proofs.FileTree.Found
import ApiMigration.Proofs.FileTree.Growth
import ApiMigration.Proofs.FileTree.LinkFree
import ApiMigration.Proofs.FileTree.Locate
import ApiMigration.Proofs.FileTree.Make
import ApiMigration.Proofs.FileTree.Ordered
import ApiMigration.Proofs.FileTree.Overwrite
import ApiMigration.Proofs.FileTree.Scan
import ApiMigration.Proofs.FileTree.Selected
import ApiMigration.Proofs.FileTree.Sound
import ApiMigration.Proofs.FileTree.Spelled
import ApiMigration.Proofs.FileTree.Trail
import ApiMigration.Proofs.Match.Assess
import ApiMigration.Proofs.Match.Best
import ApiMigration.Proofs.Match.Gate
import ApiMigration.Proofs.Match.Optimum
import ApiMigration.Proofs.Match.Segments
import ApiMigration.Proofs.Path.Ancestors
import ApiMigration.Proofs.Path.Filter
import ApiMigration.Proofs.Path.Order
import ApiMigration.Proofs.Path.Parts
import ApiMigration.Proofs.Path.Relative
import ApiMigration.Proofs.Report.Discovery
import ApiMigration.Proofs.Report.Grouped
import ApiMigration.Proofs.Report.History
import ApiMigration.Proofs.Report.Listing
import ApiMigration.Proofs.Report.Merge
import ApiMigration.Proofs.Report.Overview
import ApiMigration.Proofs.Report.Refresh
import ApiMigration.Proofs.Report.Region
import ApiMigration.Proofs.Report.Reordered
import ApiMigration.Proofs.Report.Replacement
import ApiMigration.Proofs.Routing
import ApiMigration.Proofs.Settings
import ApiMigration.Proofs.Sorted
import ApiMigration.Proofs.Source.DeclaredInterface
import ApiMigration.Proofs.Source.Extracted
import ApiMigration.Proofs.Source.Items
import ApiMigration.Proofs.Source.Printed
import ApiMigration.Proofs.Source.PublicType
import ApiMigration.Proofs.Source.TopLevel
import ApiMigration.Proofs.Source.TypeParameters
import ApiMigration.Proofs.Stub.Converge
import ApiMigration.Proofs.Stub.Decoration
import ApiMigration.Proofs.Stub.FileStem
import ApiMigration.Proofs.Stub.Inside
import ApiMigration.Proofs.Stub.Layout
import ApiMigration.Proofs.Stub.Marker
import ApiMigration.Proofs.Stub.Place
import ApiMigration.Proofs.Stub.Preview
import ApiMigration.Proofs.Stub.ReadBack
import ApiMigration.Proofs.Stub.Rerun
import ApiMigration.Proofs.Stub.Run
import ApiMigration.Proofs.Stub.StemAgain
import ApiMigration.Proofs.Stub.Undisturbed
import ApiMigration.Proofs.Stub.Unmatched
import ApiMigration.Proofs.Stub.Words
import ApiMigration.Proofs.Stub.Write
import ApiMigration.Proofs.Target.Corpus
import ApiMigration.Proofs.Target.Inventory
import ApiMigration.Proofs.Target.LastPackage
import ApiMigration.Proofs.Target.PackageLine
import ApiMigration.Proofs.Target.Placeholder
import ApiMigration.Proofs.Target.Preview
import ApiMigration.Proofs.Target.PublicTypes
import ApiMigration.Proofs.Target.Redirected
import ApiMigration.Proofs.Target.Repackage
import ApiMigration.Proofs.Target.RepackageAgain
import ApiMigration.Proofs.Text.ByteOrder
import ApiMigration.Proofs.Text.Front
import ApiMigration.Proofs.Text.Grammar
import ApiMigration.Proofs.Text.Joined
import ApiMigration.Proofs.Text.LineItems
import ApiMigration.Proofs.Text.Lines
import ApiMigration.Proofs.Text.LowerCase
import ApiMigration.Proofs.Text.Reader
import ApiMigration.Proofs.Text.Trim
import ApiMigration.Proofs.Text.Utf8
import ApiMigration.Report.Document
import ApiMigration.Report.Gap
import ApiMigration.Report.Matrix
import ApiMigration.Report.Section
import ApiMigration.Report.Settings
import ApiMigration.Routing
import ApiMigration.Settings.Basic
import ApiMigration.Settings.Decode
import ApiMigration.Source.Corpus
import ApiMigration.Source.Header
import ApiMigration.Source.Signature
import ApiMigration.Status
import ApiMigration.Stub.FileStem
import ApiMigration.Stub.Plan
import ApiMigration.Stub.Render
import ApiMigration.Stub.TypeTable
import ApiMigration.Stub.Write
import ApiMigration.Target.Corpus
import ApiMigration.Target.Header
import ApiMigration.Target.Inventory
import ApiMigration.Target.PackageLine
import ApiMigration.Target.Placeholder
import ApiMigration.Target.Repackage
import ApiMigration.Text.Affix
import ApiMigration.Text.Blank
import ApiMigration.Text.CaseTable
import ApiMigration.Text.EscapeTable
import ApiMigration.Text.Lines
import ApiMigration.Text.LowerCase
import ApiMigration.Text.Quoted
import ApiMigration.Text.Ranges
import ApiMigration.Text.Reader
import ApiMigration.Text.Utf8
import ApiMigration.Text.WordTable
import ApiMigration.Toml.Moment
import ApiMigration.Toml.Number
import ApiMigration.Toml.Reader
import ApiMigration.Toml.Value
import ApiMigration.Workspace
