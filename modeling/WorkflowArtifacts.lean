import WorkflowArtifacts.Content
import WorkflowArtifacts.ContentModel.Basic
import WorkflowArtifacts.Conversion.ArtifactId
import WorkflowArtifacts.Conversion.Basic
import WorkflowArtifacts.Conversion.ContentModel
import WorkflowArtifacts.Conversion.FormModule
import WorkflowArtifacts.Conversion.Listener
import WorkflowArtifacts.Conversion.Run
import WorkflowArtifacts.Conversion.StartForms
import WorkflowArtifacts.Environment
import WorkflowArtifacts.Fault
import WorkflowArtifacts.FormModule.Basic
import WorkflowArtifacts.FormModule.Building
import WorkflowArtifacts.FormModule.DetailsForm
import WorkflowArtifacts.Identifier
import WorkflowArtifacts.Identifier.Values
import WorkflowArtifacts.Item
import WorkflowArtifacts.Json.Basic
import WorkflowArtifacts.Json.Display
import WorkflowArtifacts.Json.Equivalence
import WorkflowArtifacts.Json.Finite
import WorkflowArtifacts.Json.Quantity
import WorkflowArtifacts.Log
import WorkflowArtifacts.Logging
import WorkflowArtifacts.Process.Basic
import WorkflowArtifacts.Process.Graph
import WorkflowArtifacts.Process.Report
import WorkflowArtifacts.Schema.Catalogue
import WorkflowArtifacts.Schema.Examination
import WorkflowArtifacts.Schema.Issue
import WorkflowArtifacts.Schema.Rendering
import WorkflowArtifacts.Schema.Shape
import WorkflowArtifacts.Schema.Validation
import WorkflowArtifacts.Session.Basic
import WorkflowArtifacts.Session.Operation
import WorkflowArtifacts.Session.Outcome
import WorkflowArtifacts.Session.Participants
import WorkflowArtifacts.Session.Perform
import WorkflowArtifacts.Settings
import WorkflowArtifacts.Store.Basic
import WorkflowArtifacts.Store.Comparison
import WorkflowArtifacts.Store.Contents
import WorkflowArtifacts.Store.Entity
import WorkflowArtifacts.Store.Item
import WorkflowArtifacts.Store.Loading
import WorkflowArtifacts.Store.Table
import WorkflowArtifacts.Store.Writing
import WorkflowArtifacts.Text.Case
import WorkflowArtifacts.Text.CaseTable
import WorkflowArtifacts.Text.CasedTable
import WorkflowArtifacts.Text.Gap
import WorkflowArtifacts.Text.PrintableTable
import WorkflowArtifacts.Text.Quoted
import WorkflowArtifacts.Vocabulary
import WorkflowArtifacts.Proofs.Conversion.Steps
import WorkflowArtifacts.Proofs.FormModule.DetailsForm
import WorkflowArtifacts.Proofs.Conversion.ContentModel
import WorkflowArtifacts.Proofs.Conversion.StartForms
import WorkflowArtifacts.Proofs.Conversion.Agreement
import WorkflowArtifacts.Proofs.Conversion.Artifacts
import WorkflowArtifacts.Proofs.Conversion.Converters
import WorkflowArtifacts.Proofs.Conversion.RunArtifacts
import WorkflowArtifacts.Proofs.Schema.Examination
import WorkflowArtifacts.Proofs.Conversion.Course
import WorkflowArtifacts.Proofs.Conversion.GraphFrame
import WorkflowArtifacts.Proofs.Conversion.Namespaces
import WorkflowArtifacts.Proofs.Conversion.Rerun
import WorkflowArtifacts.Proofs.Store.Reach
import WorkflowArtifacts.Proofs.Store.Forest
import WorkflowArtifacts.Proofs.Store.Gaps
import WorkflowArtifacts.Proofs.Store.Readings
import WorkflowArtifacts.Proofs.Conversion.Transfer
import WorkflowArtifacts.Proofs.Conversion.SeveralListeners
import WorkflowArtifacts.Proofs.Conversion.FormsApart
import WorkflowArtifacts.Proofs.Schema.Reading
import WorkflowArtifacts.Proofs.FormModule.Loading
import WorkflowArtifacts.Proofs.FormModule.Additions
import WorkflowArtifacts.Proofs.FormModule.Growing
import WorkflowArtifacts.Proofs.FormModule.Updates
import WorkflowArtifacts.Proofs.Process.Graph
import WorkflowArtifacts.Proofs.Conversion.GraphCheck
import WorkflowArtifacts.Proofs.Conversion.FailedSupply
import WorkflowArtifacts.Proofs.Conversion.SupplyFaults
import WorkflowArtifacts.Proofs.Identifier.Grammar
import WorkflowArtifacts.Proofs.Conversion.ArtifactId
import WorkflowArtifacts.Proofs.Identifier.Pieces
import WorkflowArtifacts.Proofs.Conversion.ArtifactNames
import WorkflowArtifacts.Proofs.Schema.Elements
import WorkflowArtifacts.Proofs.Schema.Spelling
import WorkflowArtifacts.Proofs.Schema.DeclaredKeys
import WorkflowArtifacts.Proofs.Schema.Places
import WorkflowArtifacts.Proofs.FormModule.Showing
import WorkflowArtifacts.Proofs.FormModule.ListedTwice
import WorkflowArtifacts.Proofs.Logging
