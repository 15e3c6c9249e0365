import PhoneticCatalog.Text.CharKind
import PhoneticCatalog.Text.LetterCase
import PhoneticCatalog.Text.Line
import PhoneticCatalog.Text.Quoted
import PhoneticCatalog.Context.CharTest
import PhoneticCatalog.Context.Expr
import PhoneticCatalog.Context.Refusal
import PhoneticCatalog.Context.Reader
import PhoneticCatalog.Context.Match
import PhoneticCatalog.Category
import PhoneticCatalog.LanguageSet
import PhoneticCatalog.Requested
import PhoneticCatalog.Rule
import PhoneticCatalog.Catalog.Diagnostic
import PhoneticCatalog.Text.Encoding
import PhoneticCatalog.Text.Binary64
import PhoneticCatalog.Catalog.FileSource
import PhoneticCatalog.Catalog.LanguageRegistry
import PhoneticCatalog.Table
import PhoneticCatalog.Repository
import PhoneticCatalog.Session
import PhoneticCatalog.Catalog.DocumentFormat
import PhoneticCatalog.Catalog.LooseFormat
import PhoneticCatalog.Configuration.Cache
import PhoneticCatalog.Assembly
import PhoneticCatalog.Journal.Line
import PhoneticCatalog.Journal.Report
import PhoneticCatalog.Proofs.Inclusion.Walk
import PhoneticCatalog.Proofs.Inclusion.Steps
import PhoneticCatalog.Proofs.Inclusion.Content
import PhoneticCatalog.Proofs.Inclusion.Visit
import PhoneticCatalog.Proofs.Inclusion.Graph
import PhoneticCatalog.Proofs.Inclusion.Success
import PhoneticCatalog.Proofs.Inclusion.Splicing
import PhoneticCatalog.Proofs.Inclusion.FirstFault
import PhoneticCatalog.Proofs.Inclusion.DepthBound
import PhoneticCatalog.Proofs.Inclusion.Moment
import PhoneticCatalog.Proofs.Inclusion.OpenCatalogs
import PhoneticCatalog.Proofs.Inclusion.Origins
import PhoneticCatalog.Proofs.Inclusion.Requests
import PhoneticCatalog.Proofs.Text.Line
import PhoneticCatalog.Proofs.Writing.Lines
import PhoneticCatalog.Proofs.Configuration.Cache
import PhoneticCatalog.Proofs.Building.Registry
import PhoneticCatalog.Proofs.Building.Plan
import PhoneticCatalog.Proofs.Building.Tables
import PhoneticCatalog.Proofs.Building.Keys
import PhoneticCatalog.Proofs.Sessions.Loading
import PhoneticCatalog.Proofs.Sessions.History
import PhoneticCatalog.Proofs.Writing.Agreement
import PhoneticCatalog.Proofs.Writing.RoundTrip
import PhoneticCatalog.Proofs.Building.Loads
import PhoneticCatalog.Proofs.Building.Reach
import PhoneticCatalog.Proofs.Text.Encoding
import PhoneticCatalog.Proofs.Building.Folder
import PhoneticCatalog.Proofs.Context.Name
import PhoneticCatalog.Proofs.Documents.Shape
import PhoneticCatalog.Proofs.Failures.Escape
import PhoneticCatalog.Proofs.Documents.Compile
import PhoneticCatalog.Proofs.Context.Alignment
import PhoneticCatalog.Proofs.Context.Sequences
import PhoneticCatalog.Proofs.Context.Glue
import PhoneticCatalog.Proofs.Context.Paths
import PhoneticCatalog.Proofs.Matching.Anchors
import PhoneticCatalog.Proofs.Context.Refusals
import PhoneticCatalog.Proofs.Building.Log
import PhoneticCatalog.Proofs.Lines.Blocks
import PhoneticCatalog.Proofs.Lines.Grammar
import PhoneticCatalog.Proofs.Lines.Comments
import PhoneticCatalog.Proofs.Lines.Repair
import PhoneticCatalog.Proofs.Inclusion.Names
import PhoneticCatalog.Proofs.Lines.Composition
import PhoneticCatalog.Proofs.Inclusion.Tallies
import PhoneticCatalog.Proofs.Lines.Balance
import PhoneticCatalog.Proofs.Inclusion.Skipped
import PhoneticCatalog.Proofs.Lines.Locations
import PhoneticCatalog.Proofs.Context.Plain
import PhoneticCatalog.Proofs.Matching.Sides
import PhoneticCatalog.Proofs.Matching.Scope
import PhoneticCatalog.Proofs.Building.Lookups
import PhoneticCatalog.Proofs.Text.Terminators
import PhoneticCatalog.Proofs.Languages.Lists
import PhoneticCatalog.Proofs.Languages.Queries
import PhoneticCatalog.Proofs.Text.Number
import PhoneticCatalog.Proofs.Configuration.WrittenBack
import PhoneticCatalog.Proofs.Journal.Builds
import PhoneticCatalog.Proofs.Text.Decomposition
import PhoneticCatalog.Proofs.Building.CatalogNames
