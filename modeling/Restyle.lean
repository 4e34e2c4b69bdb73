import Restyle.CommandLine.Arguments
import Restyle.CommandLine.Emoji
import Restyle.CommandLine.Grid
import Restyle.CommandLine.Invocation
import Restyle.CommandLine.Markup
import Restyle.CommandLine.Run
import Restyle.CommandLine.Screen
import Restyle.CommandLine.Style
import Restyle.Compilation
import Restyle.Decimal.Reading
import Restyle.Decimal.Shortest
import Restyle.Decimal.Written
import Restyle.Discovery
import Restyle.Dispatcher
import Restyle.Failure
import Restyle.FileError
import Restyle.FileTree
import Restyle.Glob
import Restyle.ImportGraph
import Restyle.ImportGraph.Scan
import Restyle.ImportGraph.Traversal
import Restyle.Main
import Restyle.Notice
import Restyle.NoticeBus
import Restyle.Path
import Restyle.Render.Compiler
import Restyle.Render.Destination
import Restyle.Render.Options
import Restyle.Render.Renderer
import Restyle.Resolution
import Restyle.Session
import Restyle.Settings
import Restyle.Settings.Setting
import Restyle.Settings.Store
import Restyle.Stylesheet.Comment
import Restyle.Stylesheet.Directive
import Restyle.Stylesheet.Import
import Restyle.Stylesheet.Literal
import Restyle.Text.Alphanumeric
import Restyle.Text.Blank
import Restyle.Text.CellWidth
import Restyle.Text.CharRange
import Restyle.Text.Digit
import Restyle.Text.EmojiNames
import Restyle.Text.LowerCase
import Restyle.Text.Printable
import Restyle.Text.Quoted
import Restyle.Text.Utf8
import Restyle.Toml.Codec
import Restyle.Toml.Display
import Restyle.Toml.Element
import Restyle.Toml.Layout
import Restyle.Toml.Literal
import Restyle.Toml.Moment
import Restyle.Toml.ReadError
import Restyle.Toml.Reader
import Restyle.Toml.Value
import Restyle.Toml.Writer
import Restyle.Watcher
import Restyle.Watcher.Event
import Restyle.Watcher.Observer
import Restyle.Proofs.CanonicalPath
import Restyle.Proofs.Walks
import Restyle.Proofs.FilePaths
import Restyle.Proofs.GraphIndex
import Restyle.Proofs.Traversal
import Restyle.Proofs.ImportedFiles
import Restyle.Proofs.ImportClosure
import Restyle.Proofs.RebuildSet
import Restyle.Proofs.WatcherSteps
import Restyle.Proofs.FileViews
import Restyle.Proofs.Coalescing
import Restyle.Proofs.Occurrences
import Restyle.Proofs.RateLimit
import Restyle.Proofs.LateTimers
import Restyle.Proofs.RaisingClients
import Restyle.Proofs.RenderQueue
import Restyle.Proofs.SessionRenders
import Restyle.Proofs.EventMatching
import Restyle.Proofs.RealPaths
import Restyle.Proofs.CommentRemoval
import Restyle.Proofs.ThreadDeaths
import Restyle.Proofs.DirectiveScan
import Restyle.Proofs.ArgumentTargets
import Restyle.Proofs.SourcePieces
import Restyle.Proofs.EdgeLists
import Restyle.Proofs.RenderLedger
import Restyle.Proofs.RenderBalance
import Restyle.Proofs.SessionRuns
import Restyle.Proofs.OutputFiles
import Restyle.Proofs.KeyedLists
import Restyle.Proofs.FileWrites
import Restyle.Proofs.StylesheetNames
import Restyle.Proofs.WatchedOutput
import Restyle.Proofs.SessionWatchers
import Restyle.Proofs.RenderAgreement
import Restyle.Proofs.LoadPaths
import Restyle.Proofs.RebuildForecast
import Restyle.Proofs.NoticeLog
import Restyle.Proofs.NoticeDelivery
import Restyle.Proofs.NoticeOrder
import Restyle.Proofs.FlatScan
import Restyle.Proofs.AlikeTables
import Restyle.Proofs.BareTrees
import Restyle.Proofs.SettingsDocuments
import Restyle.Proofs.SettingsFile
import Restyle.Proofs.SettingsRuns
import Restyle.Proofs.BrokenSettings
import Restyle.Proofs.Utf8Texts
import Restyle.Proofs.TraversalOrder
import Restyle.Proofs.GrowingGraphs
import Restyle.Proofs.EditedFiles
import Restyle.Proofs.PathParts
import Restyle.Proofs.Searches
import Restyle.Proofs.ResolutionOrder
import Restyle.Proofs.NamePatterns
import Restyle.Proofs.FileSystems
import Restyle.Proofs.DiscoveredFiles
import Restyle.Proofs.UnrestrictedTrees
import Restyle.Proofs.StoppedCompilations
import Restyle.Proofs.RelativePaths
import Restyle.Proofs.MirroredLayout
import Restyle.Proofs.ContainedOutput
import Restyle.Proofs.CompilerCommands
import Restyle.Proofs.TrailingComments
import Restyle.Proofs.StrayQuotes
import Restyle.Proofs.LineStructure
import Restyle.Proofs.PlainImports
import Restyle.Proofs.KeptHistory
import Restyle.Proofs.OpenLiterals
import Restyle.Proofs.LineBreaks
import Restyle.Proofs.LineEndings
import Restyle.Proofs.PathKeys
import Restyle.Proofs.TargetReading
