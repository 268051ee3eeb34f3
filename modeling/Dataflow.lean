import Dataflow.Catalog
import Dataflow.Cli.Arguments
import Dataflow.Cli.Commands
import Dataflow.Cli.Folder
import Dataflow.Cli.Script
import Dataflow.Column
import Dataflow.Config
import Dataflow.Decimal
import Dataflow.Decimal.Nearest
import Dataflow.Dictionary
import Dataflow.Document
import Dataflow.Document.Draft
import Dataflow.Document.Edit
import Dataflow.Document.Normalize
import Dataflow.Document.Record
import Dataflow.Error
import Dataflow.Event
import Dataflow.Graph
import Dataflow.History
import Dataflow.Json
import Dataflow.Json.Parser
import Dataflow.Json.Printer
import Dataflow.Json.Record
import Dataflow.Json.Shape
import Dataflow.Json.Written
import Dataflow.Library
import Dataflow.Listing
import Dataflow.Literal
import Dataflow.Main
import Dataflow.Names
import Dataflow.Node
import Dataflow.Propagation
import Dataflow.Registry
import Dataflow.Schema
import Dataflow.Schema.Record
import Dataflow.Session
import Dataflow.Status
import Dataflow.Store
import Dataflow.Text.Blank
import Dataflow.Text.CaseTable
import Dataflow.Text.HiddenTable
import Dataflow.Text.Identifier
import Dataflow.Text.LowerCase
import Dataflow.Text.Quoted
import Dataflow.Text.Ranges
import Dataflow.Text.Replace
import Dataflow.Text.Shown
import Dataflow.Text.Terminal
import Dataflow.Transform
import Dataflow.Transform.Choice
import Dataflow.Transform.Concat
import Dataflow.Transform.Encode
import Dataflow.Transform.Group
import Dataflow.Transform.Merge
import Dataflow.Transform.Rename
import Dataflow.Transform.Rows
import Dataflow.Variable
import Dataflow.Proofs.Document
import Dataflow.Proofs.Editing
import Dataflow.Proofs.Graph
import Dataflow.Proofs.QueueOrder
import Dataflow.Proofs.Dictionary
import Dataflow.Proofs.Listing
import Dataflow.Proofs.DepthFirst
import Dataflow.Proofs.Propagation
import Dataflow.Proofs.Confluence
import Dataflow.Proofs.Session
import Dataflow.Proofs.Numbering
import Dataflow.Proofs.History
import Dataflow.Proofs.Fingerprint
import Dataflow.Proofs.Skipping
import Dataflow.Proofs.Record
import Dataflow.Proofs.Store
import Dataflow.Proofs.Normalize
import Dataflow.Proofs.Atomicity
import Dataflow.Proofs.Readiness
import Dataflow.Proofs.Commands
import Dataflow.Proofs.LostInputs
import Dataflow.Proofs.Interleaving
import Dataflow.Proofs.Walk
import Dataflow.Proofs.StaleColumns
import Dataflow.Proofs.Capability
import Dataflow.Proofs.Locality
import Dataflow.Proofs.Omission
import Dataflow.Proofs.Layers
import Dataflow.Proofs.LinkCounts
import Dataflow.Proofs.Replace
import Dataflow.Proofs.Templates
import Dataflow.Proofs.NameLists
import Dataflow.Proofs.Numerals
import Dataflow.Proofs.Literals
import Dataflow.Proofs.FilePaths
import Dataflow.Proofs.Substitution
import Dataflow.Proofs.Arguments
import Dataflow.Proofs.CompactText
import Dataflow.Proofs.EditFingerprint
import Dataflow.Proofs.Snapshots
import Dataflow.Proofs.Stacking
import Dataflow.Proofs.Staleness
import Dataflow.Proofs.Renaming
import Dataflow.Proofs.UnusedNames
import Dataflow.Proofs.Joins
