import Folio.Main
import Folio.Proofs.AncestorsOnly
import Folio.Proofs.ArgumentWords
import Folio.Proofs.BorderCascade
import Folio.Proofs.BoxTable
import Folio.Proofs.Causality
import Folio.Proofs.CellGroups
import Folio.Proofs.ClearedTree
import Folio.Proofs.ColourDigits
import Folio.Proofs.CommandFaults
import Folio.Proofs.CommandPresentations
import Folio.Proofs.CommandText
import Folio.Proofs.CommandsReread
import Folio.Proofs.Compiled
import Folio.Proofs.CursorSteps
import Folio.Proofs.DocumentBlocks
import Folio.Proofs.DocumentTree
import Folio.Proofs.DrawBlocks
import Folio.Proofs.ElementTable
import Folio.Proofs.FailureMessages
import Folio.Proofs.FlatLayout
import Folio.Proofs.Folding
import Folio.Proofs.FormText
import Folio.Proofs.HandedOver
import Folio.Proofs.IndependentDeclarations
import Folio.Proofs.InertInput
import Folio.Proofs.InheritedKeywords
import Folio.Proofs.InlineFlow
import Folio.Proofs.ItemTable
import Folio.Proofs.LastError
import Folio.Proofs.LengthCase
import Folio.Proofs.LengthUnits
import Folio.Proofs.MergedDirectives
import Folio.Proofs.NameCollisions
import Folio.Proofs.NamesAndTexts
import Folio.Proofs.NearestMagnitudes
import Folio.Proofs.NestedWidths
import Folio.Proofs.NumberBits
import Folio.Proofs.NumberOrder
import Folio.Proofs.NumberedForest
import Folio.Proofs.NumeralText
import Folio.Proofs.OffsetTerms
import Folio.Proofs.OutOfFlow
import Folio.Proofs.Overflow
import Folio.Proofs.Pagination
import Folio.Proofs.Placing
import Folio.Proofs.PlainLayout
import Folio.Proofs.ProgramRuns
import Folio.Proofs.ReadingSteps
import Folio.Proofs.RecordSlots
import Folio.Proofs.Recording
import Folio.Proofs.Removal
import Folio.Proofs.ResolvedStyles
import Folio.Proofs.Rounding
import Folio.Proofs.RuleText
import Folio.Proofs.ShortestDigits
import Folio.Proofs.SingleText
import Folio.Proofs.Spellings
import Folio.Proofs.StoredDeclarations
import Folio.Proofs.StringText
import Folio.Proofs.StyleLookup
import Folio.Proofs.StylingCarryover
import Folio.Proofs.Trimming
import Folio.Proofs.TwoSteps
import Folio.Proofs.WrittenOut
import Folio.Sample
import Folio.Service
