import Retag.Main
import Retag.UpdateError
import Retag.Proofs.TagSet.Batches
import Retag.Proofs.Plan.Effects
import Retag.Proofs.Plan.Order
import Retag.Proofs.Plan.Resume
import Retag.Proofs.Code.Scan
import Retag.Proofs.Code.Pieces
import Retag.Proofs.Code.Reading
import Retag.Proofs.SourceUnit.Text
import Retag.Proofs.Text.SnakeCase
import Retag.Proofs.Code.Execution
import Retag.Proofs.SourceUnit.Program
import Retag.Proofs.Code.Running
import Retag.Proofs.SourceUnit.Payload
import Retag.Proofs.SourceUnit.Sending
import Retag.Proofs.SourceUnit.Agreement
import Retag.Proofs.Files.Frame
import Retag.Proofs.Files.Replace
import Retag.Proofs.SourceUnit.Staged
import Retag.Proofs.Command.Outcome
import Retag.Proofs.Code.Lexing
import Retag.Proofs.Code.Items
import Retag.Proofs.SourceUnit.Parts
import Retag.Proofs.Code.Refusal
import Retag.Proofs.SourceUnit.Admissible
import Retag.Proofs.SourceUnit.Refused
import Retag.Proofs.SourceUnit.Composition
import Retag.Proofs.TagSet.Shelf
import Retag.Proofs.SourceUnit.Names
import Retag.Proofs.Plan.Contents
import Retag.Proofs.Plan.Calls
import Retag.Proofs.Code.Batches
import Retag.Proofs.SourceUnit.BatchSize
import Retag.Proofs.Code.Layout
import Retag.Proofs.SourceUnit.Keywords
import Retag.Proofs.SourceUnit.Imports
import Retag.Proofs.Command.Printed
import Retag.Proofs.Code.Borders
import Retag.Proofs.Code.ImportTokens
import Retag.Proofs.Command.Rendered
import Retag.Proofs.TagSet.Difference
import Retag.Proofs.TagSet.Prefixes
import Retag.Proofs.TagSet.Chunks
import Retag.Proofs.TagSet.Entries
import Retag.Proofs.TagSet.Encodings
import Retag.Proofs.TagSet.Readers
import Retag.Proofs.Files.Success
import Retag.Proofs.Code.Spelling
import Retag.Proofs.Code.Printing
import Retag.Proofs.Code.PrintedBlocks
import Retag.Proofs.Code.PrintedItems
import Retag.Proofs.Settings.Expand
import Retag.Proofs.Files.Unseen
import Retag.Proofs.Command.Resolution
import Retag.Proofs.Code.Numbers
import Retag.Proofs.Code.Failing
import Retag.Proofs.SourceUnit.Memberless
import Retag.Proofs.SourceUnit.Printed
import Retag.Proofs.SourceUnit.Decided
import Retag.Proofs.SourceUnit.Formatted
