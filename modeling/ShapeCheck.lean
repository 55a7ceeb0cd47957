import ShapeCheck.Main
import ShapeCheck.Proofs.Selection
import ShapeCheck.Proofs.Traversal
import ShapeCheck.Proofs.EveryDepth
import ShapeCheck.Proofs.TypeBinding
import ShapeCheck.Proofs.Acceptance
import ShapeCheck.Proofs.Trimming
import ShapeCheck.Proofs.Splitting
import ShapeCheck.Proofs.NestedParse
import ShapeCheck.Proofs.Pieces
import ShapeCheck.Proofs.DirectiveForms
import ShapeCheck.Proofs.WrittenNumbers
import ShapeCheck.Proofs.BuiltRules
import ShapeCheck.Proofs.ShownCharacters
import ShapeCheck.Proofs.WrittenArguments
import ShapeCheck.Proofs.ListedItems
import ShapeCheck.Proofs.ReadBack
import ShapeCheck.Proofs.Leads
import ShapeCheck.Proofs.RenderedRules
import ShapeCheck.Proofs.RenderedArrays
import ShapeCheck.Proofs.Rendering
import ShapeCheck.Proofs.Slots
import ShapeCheck.Proofs.Conjunction
import ShapeCheck.Proofs.Draws
import ShapeCheck.Proofs.Clearing
import ShapeCheck.Proofs.SampledTraversal
import ShapeCheck.Proofs.Contradictions
import ShapeCheck.Proofs.Quoting
import ShapeCheck.Proofs.DocumentLines
import ShapeCheck.Proofs.Reports
import ShapeCheck.Proofs.WrittenDocuments
import ShapeCheck.Proofs.SeededSelection
import ShapeCheck.Proofs.ChosenPlaces
import ShapeCheck.Proofs.RuleOrder
import ShapeCheck.Proofs.Doubles
import ShapeCheck.Proofs.PassingNumbers
import ShapeCheck.Proofs.PropertyNames
import ShapeCheck.Proofs.CallForm
import ShapeCheck.Proofs.Notes
import ShapeCheck.Proofs.QuotedTexts
import ShapeCheck.Proofs.ElementBlocks
import ShapeCheck.Proofs.QuotedItems
import ShapeCheck.Proofs.UnclosedParentheses
import ShapeCheck.Proofs.ElementEntries
import ShapeCheck.Proofs.Spellings
import ShapeCheck.Proofs.ObjectMaps
import ShapeCheck.Proofs.JoinedBlocks
import ShapeCheck.Proofs.TopLevelParts
import ShapeCheck.Proofs.NestedBlocks
import ShapeCheck.Proofs.Repetition
import ShapeCheck.Proofs.Serializability
import ShapeCheck.Proofs.EncodedLines
import ShapeCheck.Proofs.FirstBadLine
