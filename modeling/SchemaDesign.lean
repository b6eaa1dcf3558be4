import SchemaDesign.CommandLine.Directory
import SchemaDesign.Main
import SchemaDesign.Proofs.Derivation.Columns
import SchemaDesign.Proofs.Logical.Edit
import SchemaDesign.Proofs.Logical.FreshName
import SchemaDesign.Proofs.Outcome
import SchemaDesign.Proofs.Derivation.Step
import SchemaDesign.Proofs.Derivation.Flatten
import SchemaDesign.Proofs.Derivation.Reference
import SchemaDesign.Proofs.Derivation.Closure
import SchemaDesign.Proofs.Conceptual.Check
import SchemaDesign.Proofs.Derivation.Key
import SchemaDesign.Proofs.Derivation.Lookup
import SchemaDesign.Proofs.Derivation.Promotion
import SchemaDesign.Proofs.Pipeline
import SchemaDesign.Proofs.Conceptual.Reader
import SchemaDesign.Proofs.Derivation.Outline
import SchemaDesign.Proofs.Derivation.Identify
import SchemaDesign.Proofs.Derivation.SoleKey
import SchemaDesign.Proofs.Derivation.KeyReference
import SchemaDesign.Proofs.Derivation.InheritedKey
import SchemaDesign.Proofs.Derivation.Referred
import SchemaDesign.Proofs.Derivation.Keyed
import SchemaDesign.Proofs.Text.Blank
import SchemaDesign.Proofs.Text.Identifier
import SchemaDesign.Proofs.Document.Comment
import SchemaDesign.Proofs.Document.Item
import SchemaDesign.Proofs.Document.Block
import SchemaDesign.Proofs.Document.Listing
import SchemaDesign.Proofs.Document.Flag
import SchemaDesign.Proofs.Logical.Writer
import SchemaDesign.Proofs.Logical.Reader
import SchemaDesign.Proofs.Physical.Writer
import SchemaDesign.Proofs.Physical.Reader
import SchemaDesign.Proofs.Derivation.Shape
import SchemaDesign.Proofs.Typing
import SchemaDesign.Proofs.Pipeline.LogicalNotation
import SchemaDesign.Proofs.Pipeline.Refusal
import SchemaDesign.Proofs.Pipeline.PhysicalNotation
import SchemaDesign.Proofs.Ddl.Order
import SchemaDesign.Proofs.Logical.Cycle
import SchemaDesign.Proofs.Ddl.ForwardReference
import SchemaDesign.Proofs.Typing.Reference
import SchemaDesign.Proofs.Typing.Assigned
import SchemaDesign.Proofs.Validation.Physical
import SchemaDesign.Proofs.Derivation.TableNames
import SchemaDesign.Proofs.Derivation.Holder
import SchemaDesign.Proofs.Derivation.Mapping
import SchemaDesign.Proofs.Derivation.AssociativeTable
import SchemaDesign.Proofs.Ddl.Respelling
import SchemaDesign.Proofs.Document.Walk
import SchemaDesign.Proofs.Document.CommentPlace
import SchemaDesign.Proofs.Document.Composition
import SchemaDesign.Proofs.Document.CommentLine
import SchemaDesign.Proofs.Reading.Blockwise
import SchemaDesign.Proofs.Document.Layout
import SchemaDesign.Proofs.Reading.CommentLine
import SchemaDesign.Proofs.Reading.Joining
import SchemaDesign.Proofs.Conceptual.Declaration
import SchemaDesign.Proofs.Conceptual.Writing
import SchemaDesign.Proofs.Reading.Conceptual
import SchemaDesign.Proofs.Derivation.Exchange
import SchemaDesign.Proofs.Derivation.Frame
import SchemaDesign.Proofs.Ddl.ConstraintName
import SchemaDesign.Proofs.Pipeline.AutoIncrement
import SchemaDesign.Proofs.Distinct
import SchemaDesign.Proofs.Derivation.KeptReference
import SchemaDesign.Proofs.Derivation.Repetition
import SchemaDesign.Proofs.Derivation.RepeatedReference
import SchemaDesign.Proofs.Derivation.KeptColumns
import SchemaDesign.Proofs.Derivation.ParallelRelations
import SchemaDesign.Proofs.Ddl.QuotedLine
import SchemaDesign.Proofs.Ddl.CountingColumn
import SchemaDesign.Proofs.Typing.Placeholder
import SchemaDesign.Proofs.Conceptual.Inheritance
import SchemaDesign.Proofs.Typing.Retyping
import SchemaDesign.Proofs.Document.FlagGroup
import SchemaDesign.Proofs.Physical.FlagOrder
import SchemaDesign.Proofs.Document.ItemName
import SchemaDesign.Proofs.Reading.Complete
import SchemaDesign.Proofs.Document.Separation
import SchemaDesign.Proofs.Pipeline.Report
import SchemaDesign.Proofs.Conceptual.KeySearch
import SchemaDesign.Proofs.Ddl.TypeName
