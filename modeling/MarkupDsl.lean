import MarkupDsl.Binding
import MarkupDsl.Classification.Installation
import MarkupDsl.Classification.Payload
import MarkupDsl.Classification.Source
import MarkupDsl.Classification.Validation
import MarkupDsl.CommandLine.Program
import MarkupDsl.Delivery
import MarkupDsl.Emission
import MarkupDsl.Main
import MarkupDsl.Root
import MarkupDsl.Yaml.Document
import MarkupDsl.Yaml.Printer
import MarkupDsl.Proofs.Literal.Reading
import MarkupDsl.Proofs.Literal.Value
import MarkupDsl.Proofs.Text.LowerCase
import MarkupDsl.Proofs.Text.Word
import MarkupDsl.Proofs.Classification.Validation
import MarkupDsl.Proofs.Emission.Events
import MarkupDsl.Proofs.Emission.NormalForm
import MarkupDsl.Proofs.Spelling.Family
import MarkupDsl.Proofs.Emission.Attribute
import MarkupDsl.Proofs.Emission.Reading
import MarkupDsl.Proofs.Emission.Report
import MarkupDsl.Proofs.Emission.WrittenPath
import MarkupDsl.Proofs.Emission.Observation
import MarkupDsl.Proofs.Emission.Pruning
import MarkupDsl.Proofs.Emission.Converter
import MarkupDsl.Proofs.CommandLine.Arguments
import MarkupDsl.Proofs.CommandLine.Request
import MarkupDsl.Proofs.Delivery
import MarkupDsl.Proofs.CommandLine.Conversion
import MarkupDsl.Proofs.Classification.WellFormed
import MarkupDsl.Proofs.Classification.Payload
import MarkupDsl.Proofs.Spelling.Claimants
import MarkupDsl.Proofs.Emission.Agreement
import MarkupDsl.Proofs.Emission.Reloading
import MarkupDsl.Proofs.Emission.Context
import MarkupDsl.Proofs.Classification.Description
import MarkupDsl.Proofs.Classification.Faults
import MarkupDsl.Proofs.Classification.Acceptance
import MarkupDsl.Proofs.Classification.CanonicalForm
import MarkupDsl.Proofs.Classification.Documents
import MarkupDsl.Proofs.Classification.Source
import MarkupDsl.Proofs.Classification.Memory
import MarkupDsl.Proofs.Emission.BlankText
import MarkupDsl.Proofs.Classification.Presets
import MarkupDsl.Proofs.Storage.Access
import MarkupDsl.Proofs.Classification.Loading
import MarkupDsl.Proofs.Storage.NullPath
import MarkupDsl.Proofs.Root
import MarkupDsl.Proofs.CommandLine.Ending
import MarkupDsl.Proofs.Spelling.Apart
import MarkupDsl.Proofs.Emission.Rearrangement
import MarkupDsl.Proofs.Emission.Silence
import MarkupDsl.Proofs.Emission.Slot
import MarkupDsl.Proofs.Spelling.Hyphen
import MarkupDsl.Proofs.Spelling.Twin
import MarkupDsl.Proofs.Classification.Comparison
import MarkupDsl.Proofs.Classification.Mapping
import MarkupDsl.Proofs.Step
import MarkupDsl.Proofs.Storage.Way
import MarkupDsl.Proofs.Storage.Saving
import MarkupDsl.Proofs.Storage.WellFormed
import MarkupDsl.Proofs.Literal.Variant
import MarkupDsl.Proofs.Binding
import MarkupDsl.Proofs.Html.Position
import MarkupDsl.Proofs.Html.Adaptation
import MarkupDsl.Proofs.Html.Name
import MarkupDsl.Proofs.DocumentRoot
import MarkupDsl.Proofs.Literal.Delimiter
import MarkupDsl.Proofs.Spelling.Module
