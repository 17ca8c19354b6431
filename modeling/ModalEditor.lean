import ModalEditor.Main
import ModalEditor.Screen
import ModalEditor.Proofs.Buffer
import ModalEditor.Proofs.Words
import ModalEditor.Proofs.BracketPairs
import ModalEditor.Proofs.Columns
import ModalEditor.Proofs.ObjectVariants
import ModalEditor.Proofs.Goals
import ModalEditor.Proofs.Repetition
import ModalEditor.Proofs.CountedMotions
import ModalEditor.Proofs.WordColumns
import ModalEditor.Proofs.WordDeletes
import ModalEditor.Proofs.Edits
import ModalEditor.Proofs.Execute
import ModalEditor.Proofs.Counts
import ModalEditor.Proofs.Phrases
import ModalEditor.Proofs.Typing
import ModalEditor.Proofs.Pieces
import ModalEditor.Proofs.PasteBack
import ModalEditor.Proofs.Waiting
import ModalEditor.Proofs.Feeding
import ModalEditor.Proofs.Runs
import ModalEditor.Proofs.Lockstep
import ModalEditor.Proofs.Display
import ModalEditor.Proofs.StatusLine
import ModalEditor.Proofs.Totality
import ModalEditor.Proofs.RangeOrder
import ModalEditor.Proofs.Refusals
import ModalEditor.Proofs.RegisterHistory
import ModalEditor.Proofs.Histories
import ModalEditor.Proofs.LinewiseRegisters
import ModalEditor.Proofs.Marks
import ModalEditor.Proofs.Reinsertion
import ModalEditor.Proofs.RangesBelow
import ModalEditor.Proofs.MarkupReading
import ModalEditor.Proofs.ScreenKeys
import ModalEditor.Proofs.Spans
import ModalEditor.Proofs.StrandedContexts
import ModalEditor.Proofs.LargeCounts
import ModalEditor.Proofs.CursorSides
import ModalEditor.Proofs.RegisterNames
import ModalEditor.Proofs.Indenting
import ModalEditor.Proofs.Joining
import ModalEditor.Proofs.Pasting
import ModalEditor.Proofs.Descriptions
import ModalEditor.Proofs.IdleKeys
import ModalEditor.Proofs.TypedText
import ModalEditor.Proofs.Loggers
import ModalEditor.Proofs.MirroredSearches
