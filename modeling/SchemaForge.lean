import SchemaForge.Command.Arguments
import SchemaForge.Command.Display
import SchemaForge.Command.Report
import SchemaForge.Command.Request
import SchemaForge.Config
import SchemaForge.Console.Emoji
import SchemaForge.Console.Markup
import SchemaForge.Console.Parameters
import SchemaForge.Console.Parameters.Token
import SchemaForge.Console.Style
import SchemaForge.Console.StyledText
import SchemaForge.Console.Table
import SchemaForge.Console.Width
import SchemaForge.Data.Basic
import SchemaForge.Data.Key
import SchemaForge.Data.Members
import SchemaForge.Diagnostic
import SchemaForge.Failure
import SchemaForge.File.Fault
import SchemaForge.File.Path
import SchemaForge.File.SchemaFile
import SchemaForge.File.Tree
import SchemaForge.Generation
import SchemaForge.Log
import SchemaForge.Main
import SchemaForge.Module.Annotation
import SchemaForge.Module.Artifact
import SchemaForge.Module.Bindings
import SchemaForge.Module.Layout
import SchemaForge.Module.Literal
import SchemaForge.Module.Name
import SchemaForge.Module.Render
import SchemaForge.Problem
import SchemaForge.Proofs.AnnotationLayers
import SchemaForge.Proofs.BindingsListing
import SchemaForge.Proofs.BindingsPlace
import SchemaForge.Proofs.BlockStringLines
import SchemaForge.Proofs.BlockStringRule
import SchemaForge.Proofs.BracketDepth
import SchemaForge.Proofs.BrokenResources
import SchemaForge.Proofs.CarriedGrammar
import SchemaForge.Proofs.CarriedReading
import SchemaForge.Proofs.ClosedImports
import SchemaForge.Proofs.CodeLines
import SchemaForge.Proofs.CodeSnippets
import SchemaForge.Proofs.ConfigurationFaults
import SchemaForge.Proofs.ConstantReading
import SchemaForge.Proofs.ConsumedTokens
import SchemaForge.Proofs.DeclaredContracts
import SchemaForge.Proofs.DeclaredNames
import SchemaForge.Proofs.DefinitionReading
import SchemaForge.Proofs.DirectoryCreation
import SchemaForge.Proofs.DistinctFiles
import SchemaForge.Proofs.DocstringLines
import SchemaForge.Proofs.DocstringLiterals
import SchemaForge.Proofs.DocumentComposition
import SchemaForge.Proofs.DocumentRecovery
import SchemaForge.Proofs.EntryOrder
import SchemaForge.Proofs.ErrorLocality
import SchemaForge.Proofs.ErrorOrder
import SchemaForge.Proofs.ErrorPlaces
import SchemaForge.Proofs.FileDelivery
import SchemaForge.Proofs.FileRefusals
import SchemaForge.Proofs.GenerationAccounting
import SchemaForge.Proofs.GenerationSteps
import SchemaForge.Proofs.ImportGraph
import SchemaForge.Proofs.InsertedLayout
import SchemaForge.Proofs.LexemeBoundary
import SchemaForge.Proofs.LiteralReading
import SchemaForge.Proofs.LiteralSnippets
import SchemaForge.Proofs.LoadOrder
import SchemaForge.Proofs.LogicalLines
import SchemaForge.Proofs.MemberReading
import SchemaForge.Proofs.ModuleFiles
import SchemaForge.Proofs.ModuleGrammar
import SchemaForge.Proofs.ModuleLayout
import SchemaForge.Proofs.ModuleOutline
import SchemaForge.Proofs.ModulePlaces
import SchemaForge.Proofs.ModuleReading
import SchemaForge.Proofs.NamedDefinitions
import SchemaForge.Proofs.NodeShapes
import SchemaForge.Proofs.NodeSpans
import SchemaForge.Proofs.NumberScanning
import SchemaForge.Proofs.OfferedArtifacts
import SchemaForge.Proofs.PackageStrings
import SchemaForge.Proofs.ParallelGrammar
import SchemaForge.Proofs.ParallelReading
import SchemaForge.Proofs.ParsingMoments
import SchemaForge.Proofs.PhraseReading
import SchemaForge.Proofs.PublishedSchemas
import SchemaForge.Proofs.QuotedStrings
import SchemaForge.Proofs.RecoveryPoints
import SchemaForge.Proofs.Regeneration
import SchemaForge.Proofs.RegistryLoading
import SchemaForge.Proofs.RegistryRuns
import SchemaForge.Proofs.RepeatedGeneration
import SchemaForge.Proofs.RepeatedWrites
import SchemaForge.Proofs.ResolvedNames
import SchemaForge.Proofs.RunCompleteness
import SchemaForge.Proofs.ScanComposition
import SchemaForge.Proofs.SchemaCopies
import SchemaForge.Proofs.SchemaListing
import SchemaForge.Proofs.SchemaLoading
import SchemaForge.Proofs.SchemaPhrases
import SchemaForge.Proofs.SpanErasure
import SchemaForge.Proofs.SpelledDefinitions
import SchemaForge.Proofs.StatementLines
import SchemaForge.Proofs.TokenTiling
import SchemaForge.Proofs.TreeChanges
import SchemaForge.Proofs.TypeNotation
import SchemaForge.Proofs.WordStarts
import SchemaForge.Proofs.WriteFrame
import SchemaForge.Registry.Basic
import SchemaForge.Registry.Entry
import SchemaForge.Registry.Listing
import SchemaForge.ResolutionContext
import SchemaForge.Schema.BlockString
import SchemaForge.Schema.Cursor
import SchemaForge.Schema.Definition
import SchemaForge.Schema.Document
import SchemaForge.Schema.Grammar
import SchemaForge.Schema.GrammarFault
import SchemaForge.Schema.Lexeme
import SchemaForge.Schema.Position
import SchemaForge.Schema.Scan
import SchemaForge.Schema.Token
import SchemaForge.Session
import SchemaForge.Sink
import SchemaForge.Text.Base64
import SchemaForge.Text.Basic
import SchemaForge.Text.LetterCase
import SchemaForge.Text.Lines
import SchemaForge.Text.Numeral
import SchemaForge.Text.Printable
import SchemaForge.Text.Quoted
import SchemaForge.Text.ShortestDecimal
import SchemaForge.Text.Utf8
import SchemaForge.Workspace
import SchemaForge.Yaml.Document
import SchemaForge.Yaml.Flaw
import SchemaForge.Yaml.Graph
import SchemaForge.Yaml.Print
import SchemaForge.Yaml.Scalar
import SchemaForge.Yaml.Tag
import SchemaForge.Yaml.Token
